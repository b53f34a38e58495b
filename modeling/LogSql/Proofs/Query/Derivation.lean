import LogSql.Proofs.Query.Grammar
import LogSql.Proofs.Query.Reading

/-! What the reader takes is derived. Each of its functions takes tokens of one rule from the front and
leaves the others, so the tokens of a text that is read are those of a query. -/
namespace LogSql.Query

open Parse
open Grammar (Phrase Rule Derives Within rules nullable)
open Grammar.Phrase (option commas)

/-- The tokens between two cursors are those of a phrase that nests no deeper than a number of rules. Behind
them lies the end of the text. -/
structure Took (macros : List Text) (d : Nat) (p : Phrase) (c c' : Cursor) : Prop where
  stop : c'.stop.kind = .eof
  tokens : ∃ ts, c.ahead = ts ++ c'.ahead ∧ Within macros d p ts

/-- A step that takes the tokens of a phrase. -/
def Takes {α : Type} (macros : List Text) (d : Nat) (p : Phrase) (step : Parse α) : Prop :=
  ∀ c : Cursor, c.stop.kind = .eof → Post c step fun _ c' => Took macros d p c c'

section Cursors

variable {macros : List Text} {d : Nat} {p q : Phrase} {r : Rule} {c c' c'' : Cursor}

theorem tokenAhead (stop : c.stop.kind = .eof) (some : (c.token 0).kind ≠ .eof) :
    c.ahead = c.token 0 :: c.rest.ahead := by
  obtain ⟨ahead,last⟩ := c
  cases ahead with
  | nil => exact absurd stop some
  | cons t ahead => rfl

namespace Took

theorem empty (stop : c.stop.kind = .eof) : Took macros d .empty c c := ⟨stop,[],rfl,.empty⟩

theorem token {kinds : List TokenKind} (kind : (c.token 0).kind ∈ kinds) (stop : c.stop.kind = .eof)
    (real : kinds.contains .eof = false) : Took macros d (.token kinds) c c.rest := by
  refine ⟨stop,[c.token 0],tokenAhead stop fun none => ?_,.token kind⟩
  rw [none] at kind
  simp [kind] at real

theorem is {kind : TokenKind} (same : (c.token 0).kind = kind) (stop : c.stop.kind = .eof)
    (real : [kind].contains .eof = false) : Took macros d (.is kind) c c.rest :=
  token (List.mem_singleton.mpr same) stop real

theorem word {words : List Text} (kind : (c.token 0).kind = .identifier)
    (known : (c.token 0).literal ∈ words) (stop : c.stop.kind = .eof) :
    Took macros d (.word words) c c.rest :=
  ⟨stop,[c.token 0],tokenAhead stop (by rw [kind]; decide),.word kind known⟩

theorem seq (first : Took macros d p c c') (second : Took macros d q c' c'') :
    Took macros d (.seq p q) c c'' := by
  obtain ⟨_,ts,left,one⟩ := first
  obtain ⟨stop,us,right,other⟩ := second
  exact ⟨stop,ts ++ us,by rw [left,right,List.append_assoc],one.seq other⟩

theorem left (one : Took macros d p c c') : Took macros d (.either p q) c c' := by
  obtain ⟨stop,ts,same,derives⟩ := one
  exact ⟨stop,ts,same,.left derives⟩

theorem right (one : Took macros d q c c') : Took macros d (.either p q) c c' := by
  obtain ⟨stop,ts,same,derives⟩ := one
  exact ⟨stop,ts,same,.right derives⟩

theorem either (one : Took macros d (.either p q) c c') : Took macros d p c c' ∨ Took macros d q c c' := by
  obtain ⟨stop,ts,same,derives⟩ := one
  cases derives with
  | left one => exact .inl ⟨stop,ts,same,one⟩
  | right one => exact .inr ⟨stop,ts,same,one⟩

theorem rule (plain : r.nests = false) (body : Took macros d (rules macros r) c c') :
    Took macros d (.rule r) c c' := by
  obtain ⟨stop,ts,same,derives⟩ := body
  exact ⟨stop,ts,same,.rule plain derives⟩

theorem opened (nests : r.nests = true) (body : Took macros d (rules macros r) c c') :
    Took macros (d + 1) (.rule r) c c' := by
  obtain ⟨stop,ts,same,derives⟩ := body
  exact ⟨stop,ts,same,.opened nests derives⟩

theorem none (stop : c.stop.kind = .eof) : Took macros d (option p) c c := (empty stop).right

theorem done (stop : c.stop.kind = .eof) : Took macros d (.many p) c c := ⟨stop,[],rfl,.done⟩

theorem more (one : Took macros d p c c') (rest : Took macros d (.many p) c' c'') :
    Took macros d (.many p) c c'' := by
  obtain ⟨_,ts,left,first⟩ := one
  obtain ⟨stop,us,right,others⟩ := rest
  exact ⟨stop,ts ++ us,by rw [left,right,List.append_assoc],.more first others⟩

theorem last (stop : c.stop.kind = .eof) : Took macros d .trailing c c := ⟨stop,[],rfl,.last⟩

theorem comma (kind : (c.token 0).kind = .comma) (stop : c.stop.kind = .eof) :
    Took macros d .trailing c c.rest :=
  ⟨stop,[c.token 0],tokenAhead stop (by rw [kind]; decide),.comma kind⟩

theorem shorter (took : Took macros d p c c') (real : nullable p = false) :
    c'.ahead.length < c.ahead.length := by
  obtain ⟨_,ts,same,derives⟩ := took
  cases ts with
  | nil =>
    have skip := (Grammar.derivesBegin derives.derives).1 rfl
    simp [real] at skip
  | cons t ts =>
    rw [same,List.cons_append,List.length_cons,List.length_append]
    omega

/-- An item and a comma in front of a list make a longer list. -/
theorem longer (one : Took macros d p c c') (comma : Took macros d (.is .comma) c' c'.rest)
    (list : Took macros d (.seq (commas p) q) c'.rest c'') : Took macros d (.seq (commas p) q) c c'' := by
  obtain ⟨_,ts,left,item⟩ := one
  obtain ⟨_,us,middle,separator⟩ := comma
  obtain ⟨stop,_,right,derives⟩ := list
  cases derives with
  | seq items behind =>
    cases items with
    | seq first others =>
      refine ⟨stop,_,?_,(item.seq (.more (separator.seq first) others)).seq behind⟩
      rw [left,middle,right]
      simp only [List.append_assoc]

end Took
end Cursors

/-! ### Loops -/

section Loops

variable {α : Type} {macros : List Text} {d : Nat} {p : Phrase} {D : Cursor → Prop}

/-- A phrase is taken, or a step declines and leaves everything as it is. -/
inductive Optional (macros : List Text) (d : Nat) (p : Phrase) (D : Cursor → Prop) (c : Cursor) :
    Option α → Cursor → Prop where
  | declined (ends : D c) : Optional macros d p D c none c
  | taken {a : α} {c' : Cursor} (one : Took macros d p c c') : Optional macros d p D c (some a) c'

/-- Steps take one phrase more, or decline. -/
def Repeats (macros : List Text) (d : Nat) (p : Phrase) (D : Cursor → Prop) (step : Parse (Option α)) : Prop :=
  ∀ c : Cursor, c.stop.kind = .eof → Post c step (Optional macros d p D c)

theorem repeatTook {step : Parse (Option α)} (each : Repeats macros d p D step)
    (real : nullable p = false) (n : Nat) {c : Cursor} (stop : c.stop.kind = .eof)
    (room : c.ahead.length < n) :
    Post c (repeatStep step n) fun _ c' => Took macros d (.many p) c c' ∧ D c' := by
  induction n generalizing c with
  | zero => omega
  | succ n ih =>
    simp only [repeatStep,postBind]
    refine (each c stop).imp fun o c' h => ?_
    cases h with
    | declined ends =>
      simp only [postPure]
      exact ⟨.done stop,ends⟩
    | taken one =>
      have less := one.shorter real
      simp only [postBind,postPure]
      exact (ih one.stop (by omega)).imp fun _ c'' rest => ⟨one.more rest.1,rest.2⟩

theorem manyTook {step : Parse (Option α)} (each : Repeats macros d p D step)
    (real : nullable p = false) {c : Cursor} (stop : c.stop.kind = .eof) :
    Post c (many step) fun _ c' => Took macros d (.many p) c c' ∧ D c' := by
  simp only [many,postBind,postFuel]
  exact repeatTook each real _ stop (by omega)

/-- An item behind a separator. -/
theorem separatedRepeats {q : Phrase} {test : Parse Bool} {item : Parse α}
    (separator : ∀ c : Cursor, c.stop.kind = .eof →
      Post c test fun b c' => c' = c ∧ (b = true → Took macros d p c c.rest))
    (each : Takes macros d q item) : Repeats macros d (.seq p q) (fun _ => True) (do
      if ← test then
        let _ ← next
        return some (← item)
      return none) := by
  intro c stop
  simp only [postBind,postIte,postNext,postPure]
  refine (separator c stop).imp fun b c' h => ?_
  obtain ⟨rfl,found⟩ := h
  refine ⟨fun yes => ?_,fun _ => .declined trivial⟩
  have first := found yes
  exact (each _ first.stop).imp fun a c'' second => .taken (first.seq second)

/-- Items behind a separator. -/
theorem separatedTook {q : Phrase} {test : Parse Bool} {item : Parse α} {c : Cursor}
    (stop : c.stop.kind = .eof) (real : nullable (.seq p q) = false)
    (separator : ∀ c : Cursor, c.stop.kind = .eof →
      Post c test fun b c' => c' = c ∧ (b = true → Took macros d p c c.rest))
    (each : Takes macros d q item) :
    Post c (many do
      if ← test then
        let _ ← next
        return some (← item)
      return none) fun _ c' => Took macros d (.many (.seq p q)) c c' :=
  (manyTook (separatedRepeats separator each) real stop).imp fun _ _ h => h.1

theorem commaSeparator (c : Cursor) (stop : c.stop.kind = .eof) :
    Post c (is .comma) fun b c' => c' = c ∧ (b = true → Took macros d (.is .comma) c c.rest) := by
  simp only [postIs,decide_eq_true_eq,true_and]
  exact fun kind => .is kind stop rfl

theorem orSeparator (c : Cursor) (stop : c.stop.kind = .eof) : Post c (isWord "or") fun b c' =>
    c' = c ∧ (b = true → Took macros d (.word ["or"]) c c.rest) := by
  simp only [postIsWord,decide_eq_true_eq,true_and]
  exact fun here => .word here.1 (List.mem_singleton.mpr here.2) stop

/-- What a list takes in which a comma may trail. -/
theorem listTook {item : Parse α} (each : Takes macros d p item) (n : Nat) {c : Cursor}
    (stop : c.stop.kind = .eof) : Post c (listBeforeParen item n) fun _ c' =>
      c' = c ∨ Took macros d (.seq (commas p) .trailing) c c' := by
  induction n generalizing c with
  | zero =>
    simp only [listBeforeParen,postPure]
    exact .inl trivial
  | succ n ih =>
    simp only [listBeforeParen,postBind,postIs,postIte,postPure,postNext,decide_eq_true_eq]
    refine ⟨fun _ => .inl trivial,fun _ => ?_⟩
    refine (each c stop).imp fun a c' one => ⟨fun kind => ?_,fun _ => ?_⟩
    · refine (ih (c := c'.rest) one.stop).imp fun as c'' rest => .inr ?_
      rcases rest with rfl | list
      · exact (one.seq (.done one.stop)).seq (.comma kind one.stop)
      · exact one.longer (.is kind one.stop rfl) list
    · exact .inr ((one.seq (.done one.stop)).seq (.last one.stop))

end Loops

/-! ### Selectors and stages -/

variable (macros : List Text) (d : Nat)

theorem selectorRuleTakes : Takes macros d (.rule .selectorRule) selectorRule := by
  intro c stop
  simp only [selectorRule,postBind,postExpect,postNext,postIte,postFail,postPure]
  refine fun label => ⟨fun operator value => ?_,fun _ => trivial⟩
  exact .rule rfl ((Took.is label stop rfl).seq ((Took.token operator stop rfl).seq
    (.is value stop rfl)))

theorem selectorTakes : Takes macros d (.rule .streamSelector) selector := by
  intro c stop
  simp only [selector,postBind,postExpect,postPure]
  intro opening
  refine (selectorRuleTakes macros d c.rest stop).imp fun first c' head => ?_
  have more := separatedTook head.stop rfl commaSeparator (selectorRuleTakes macros d)
  refine more.imp fun _ c'' tail closing => ?_
  exact .rule rfl ((Took.is opening stop rfl).seq ((head.seq tail).seq (.is closing tail.stop rfl)))

theorem filterPrimaryTakes {macros : List Text} {d : Nat} {group : Parse Node}
    (inner : Takes macros d (.rule .labelFilter) group) :
    Takes macros d (.rule .filterPrimary) (filterPrimary group) := by
  intro c stop
  simp only [filterPrimary,postBind,postIs,postIte,postNext,postExpect,postFail,postPure,
    decide_eq_true_eq]
  refine ⟨fun opening => ?_,fun _ label => ⟨fun operator => ?_,fun _ => trivial⟩⟩
  · refine (inner c.rest stop).imp fun n c' body closing => ?_
    exact .rule rfl (.left ((Took.is opening stop rfl).seq (body.seq (.is closing body.stop rfl))))
  have test (value : (c.rest.rest.token 0).kind ∈ [TokenKind.string, .number, .duration, .bytes]) :
      Took macros d (.rule .filterPrimary) c c.rest.rest.rest :=
    .rule rfl (.right ((Took.is label stop rfl).seq ((Took.token operator stop rfl).seq
      (.token value stop rfl))))
  split
  · rename_i kind
    simp only [postBind,postPure,postIte,postFail]
    exact ⟨fun _ => trivial,fun _ => test (by simp [kind])⟩
  · rename_i kind
    simp only [postBind,postPure,postIte,postFail]
    exact ⟨fun _ => trivial,fun _ => test (by simp [kind])⟩
  · rename_i kind
    split
    · simp only [postBind,postPure,postIte,postFail]
      exact ⟨fun _ => trivial,fun _ => test (by simp [kind])⟩
    · simp
  · rename_i kind
    simp only [postBind,postPure,postIte,postFail]
    exact ⟨fun _ => trivial,fun _ => test (by simp [kind])⟩
  · simp

theorem joinedRepeats {macros : List Text} {d : Nat} {group : Parse Node}
    (inner : Takes macros d (.rule .labelFilter) group) :
    Repeats macros d (.seq (.either (.word ["and"]) (.is .comma)) (.rule .filterPrimary)) (fun _ => True) (do
      if (← isWord "and") || (← is .comma) then
        let _ ← next
        return some (← filterPrimary group)
      return none) := by
  intro c stop
  simp only [postBind,postIsWord,postIs,postIte,postNext,postPure,Bool.or_eq_true,
    decide_eq_true_eq]
  refine ⟨fun joins => ?_,fun _ => .declined trivial⟩
  have joint : Took macros d (.either (.word ["and"]) (.is .comma)) c c.rest := by
    rcases joins with ⟨kind,literal⟩ | kind
    · exact .left (.word kind (List.mem_singleton.mpr literal) stop)
    · exact .right (.is kind stop rfl)
  exact (filterPrimaryTakes inner c.rest stop).imp fun n c' one => .taken (joint.seq one)

theorem filterAndTakes {macros : List Text} {d : Nat} {group : Parse Node}
    (inner : Takes macros d (.rule .labelFilter) group) :
    Takes macros d (.rule .filterAnd) (filterAnd group) := by
  intro c stop
  simp only [filterAnd,postBind,postPure]
  refine (filterPrimaryTakes inner c stop).imp fun left c' head => ?_
  have more := manyTook (joinedRepeats inner) rfl head.stop
  exact more.imp fun _ c'' tail => .rule rfl (head.seq tail.1)

theorem filterOrTakes (room : Nat) : Takes macros room (.rule .labelFilter) (filterOr room) := by
  induction room with
  | zero =>
    intro c stop
    simp [filterOr]
  | succ room ih =>
    intro c stop
    simp only [filterOr,postBind,postPure]
    refine (filterAndTakes ih c stop).imp fun left c' head => ?_
    have more := separatedTook head.stop rfl orSeparator (filterAndTakes ih)
    exact more.imp fun _ c'' tail => .opened rfl (head.seq tail)

/-- Parameters, behind the last of which a comma may trail. -/
theorem jsonParamsTook (n : Nat) {c : Cursor} (stop : c.stop.kind = .eof) :
    Post c (jsonParams n) fun _ c' =>
      c' = c ∨ Took macros d (.seq (commas (.rule .parserParam)) .trailing) c c' := by
  induction n generalizing c with
  | zero =>
    simp only [jsonParams,postPure]
    exact .inl trivial
  | succ n ih =>
    simp only [jsonParams,postBind,postPeek,postIte,postNext,postIs,postPure,decide_eq_true_eq]
    refine ⟨fun here => ?_,fun _ => .inl trivial⟩
    have label : (c.token 0).kind = .identifier := here.1
    have equal : (c.rest.token 0).kind = .equal := by
      rw [Cursor.tokenRest]
      exact here.2.1
    have path : (c.rest.rest.token 0).kind = .string := by
      rw [Cursor.tokenRest,Cursor.tokenRest]
      exact here.2.2
    have one : Took macros d (.rule .parserParam) c c.rest.rest.rest :=
      .rule rfl ((Took.is label stop rfl).seq ((Took.is equal stop rfl).seq (.is path stop rfl)))
    refine ⟨fun kind => ?_,fun _ => .inr ((one.seq (.done one.stop)).seq (.last one.stop))⟩
    refine (ih (c := c.rest.rest.rest.rest) stop).imp fun as c' rest => .inr ?_
    rcases rest with rfl | list
    · exact (one.seq (.done one.stop)).seq (.comma kind one.stop)
    · exact one.longer (.is kind one.stop rfl) list

/-- A parser behind its pipe, which has been read. -/
theorem parserStageTook {c : Cursor} (stop : c.stop.kind = .eof)
    (kind : (c.token 0).kind = .identifier) (known : (c.token 0).literal ∈ parserFunctions) :
    Post c parserStage fun _ c' => Took macros d (.seq (.word parserFunctions) (option (.either
      (.seq (commas (.rule .parserParam)) .trailing) (.is .string)))) c c' := by
  have name : Took macros d (.word parserFunctions) c c.rest := .word kind known stop
  simp only [parserStage,postBind,postNext,postIte,postExpect,postFuel,postPure]
  refine ⟨fun _ pattern => ?_,fun _ => ⟨fun _ => ?_,fun _ => name.seq (.none stop)⟩⟩
  · exact name.seq (.left (.right (.is pattern stop rfl)))
  · refine (jsonParamsTook macros d _ (c := c.rest) stop).imp fun ns c' h => ?_
    rcases h with rfl | list
    · exact name.seq (.none stop)
    · exact name.seq (.left (.left list))

theorem labelsFormatRuleTakes : Takes macros d (.rule .labelsFormatRule) labelsFormatRule := by
  intro c stop
  simp only [labelsFormatRule,postBind,postExpect,postNext]
  intro label equal
  have whole (source : (c.rest.rest.token 0).kind ∈ [TokenKind.identifier, .string]) :
      Took macros d (.rule .labelsFormatRule) c c.rest.rest.rest :=
    .rule rfl ((Took.is label stop rfl).seq ((Took.is equal stop rfl).seq
      (.token source stop rfl)))
  split
  · rename_i kind
    simp only [postPure]
    exact whole (by simp [kind])
  · rename_i kind
    simp only [postPure]
    exact whole (by simp [kind])
  · simp

theorem labelsFormatTakes : Takes macros d (commas (.rule .labelsFormatRule)) labelsFormat := by
  intro c stop
  simp only [labelsFormat,postBind,postPure]
  refine (labelsFormatRuleTakes macros d c stop).imp fun first c' head => ?_
  have more := separatedTook head.stop rfl commaSeparator (labelsFormatRuleTakes macros d)
  exact more.imp fun _ c'' tail => head.seq tail

/-- Where the stages end, a pipe can only start an unwrap clause. -/
def Ends (allowUnwrap : Bool) (c : Cursor) : Prop :=
  (c.token 0).kind = .pipe → allowUnwrap = true ∧ (c.rest.token 0).kind = .identifier ∧
    ((c.rest.token 0).literal = ("unwrap" : Text) ∨
      (c.rest.token 0).literal = ("unwrap_value" : Text))

theorem stageTook (room : Nat) (allowUnwrap : Bool) :
    Repeats macros room (.rule .pipeline) (Ends allowUnwrap) (stage room allowUnwrap) := by
  intro c stop
  simp only [stage,postBind,postCurrent]
  have lineFilter (kind : (c.token 0).kind ∈ [TokenKind.pipeExact, .notEqual, .pipeMatch, .notMatch]) :
      Post c (do
        let op ← next
        let val ← expect .string
        return some (Node.mk Kind.lineFilterExpression []
          [.leaf Kind.lineFilterOperator op.literal, .leaf Kind.quotedStr val.literal]))
        (Optional macros room (.rule .pipeline) (Ends allowUnwrap) c) := by
    simp only [postBind,postNext,postExpect,postPure]
    refine fun text => .taken (.rule rfl (.left (.rule rfl ?_)))
    exact (Took.token kind stop rfl).seq (.is text stop rfl)
  split
  · exact lineFilter (by simp [*])
  · exact lineFilter (by simp [*])
  · exact lineFilter (by simp [*])
  · exact lineFilter (by simp [*])
  · rename_i kind
    have pipe : Took macros room (.is .pipe) c c.rest := .is kind stop rfl
    simp only [postBind,postPeek,postIte,postPure,postFail,postNext,postExpect,implies_true,
      and_true,← Cursor.tokenRest c 0]
    refine ⟨fun unwrap allowed => .declined fun _ => ⟨allowed,unwrap⟩,
      fun _ => ⟨fun parser => ?_,fun _ => ⟨fun line text => ?_,fun _ => ⟨fun labels => ?_,
        fun _ _ => ?_⟩⟩⟩⟩
    · refine (parserStageTook macros room (c := c.rest) stop parser.1 parser.2).imp fun n c' h => ?_
      exact .taken (.rule rfl (.right (.left (.rule rfl (pipe.seq h)))))
    · refine .taken (.rule rfl (.right (.right (.right (.left (.rule rfl (pipe.seq ?_)))))))
      exact (Took.word line.1 (List.mem_singleton.mpr line.2) stop).seq (.is text stop rfl)
    · refine (labelsFormatTakes macros room c.rest.rest stop).imp fun n c' h => ?_
      refine .taken (.rule rfl (.right (.right (.right (.right (.rule rfl (pipe.seq ?_)))))))
      exact (Took.word labels.1 (List.mem_singleton.mpr labels.2) stop).seq h
    · refine (filterOrTakes macros room c.rest stop).imp fun n c' h => ?_
      exact .taken (.rule rfl (.right (.right (.left (.rule rfl (pipe.seq h))))))
  · rename_i other
    simp only [postPure]
    exact .declined fun kind => absurd kind other

theorem selectorExprTook (room : Nat) (allowUnwrap : Bool) {c : Cursor} (stop : c.stop.kind = .eof) :
    Post c (selectorExpr room allowUnwrap) fun _ c' =>
      Took macros room (.rule .selectorExpr) c c' ∧ Ends allowUnwrap c' := by
  simp only [selectorExpr,postBind,postPure]
  refine (selectorTakes macros room c stop).imp fun sel c' head => ?_
  refine (manyTook (stageTook macros room allowUnwrap) rfl head.stop).imp fun _ c'' tail => ?_
  exact ⟨.rule rfl (head.seq tail.1),tail.2⟩

/-! ### Aggregations -/

/-- A list in parentheses, the first of which has been read. -/
theorem parenthesesTook {α : Type} {macros : List Text} {d : Nat} {item : Parse α} {p : Phrase} {c : Cursor}
    (each : Takes macros d p item) (opening : Took macros d (.is .leftParen) c c.rest) (n : Nat) :
    Post c.rest (listBeforeParen item n) fun _ c' => (c'.token 0).kind = .rightParen →
      Took macros d (.seq (.is .leftParen) (.seq (option (.seq (commas p) .trailing)) (.is .rightParen)))
        c c'.rest := by
  have stop := opening.stop
  refine (listTook each n stop).imp fun as c' list closing => opening.seq ?_
  rcases list with rfl | list
  · exact (Took.none stop).seq (.is closing stop rfl)
  · exact list.left.seq (.is closing list.stop rfl)

theorem leafTakes (kind : TokenKind) (name : Text) (real : [kind].contains .eof = false) : Takes macros d (.is kind) (do
    let t ← expect kind
    return Node.leaf name t.literal) := by
  intro c stop
  simp only [postBind,postExpect,postPure]
  exact fun same => .is same stop real

theorem optGroupingTakes (kind : Text) :
    Takes macros d (option (.rule .grouping)) (optGrouping kind) := by
  intro c stop
  simp only [optGrouping,atGrouping,grouping,postBind,postIsWord,postIte,postNext,postExpect,postFuel,
    postPure,Bool.or_eq_true,decide_eq_true_eq]
  refine ⟨fun here opening => ?_,fun _ => .none stop⟩
  have word : Took macros d (.word ["by", "without"]) c c.rest := by
    rcases here with ⟨kind,same⟩ | ⟨kind,same⟩ <;> exact .word kind (by simp [same]) stop
  have labels := parenthesesTook (leafTakes macros d .identifier Kind.label rfl)
    (.is opening word.stop rfl)
  exact (labels _).imp fun _ c' list closing => .left (.rule rfl (word.seq (list closing)))

theorem parameterTakes : Takes macros d (.is .number) parameter := by
  intro c stop
  refine parameterPost.imp fun n c' number => ?_
  obtain ⟨kind,rfl,_⟩ := number
  exact .is kind stop rfl

/-- Behind stages a clause is read wherever a pipe is left. -/
theorem unwrapClauseTook {c : Cursor} (stop : c.stop.kind = .eof) (ends : Ends true c) :
    Post c unwrapClause (Optional macros d (.rule .unwrapClause) (fun _ => True) c) := by
  simp only [unwrapClause,postBind,postIs,postIte,postNext,postExpect,postPure,decide_eq_true_eq]
  refine ⟨fun kind => ?_,fun _ => .declined trivial⟩
  obtain ⟨_,word,unwrap⟩ := ends kind
  have pipe : Took macros d (.is .pipe) c c.rest := .is kind stop rfl
  refine ⟨fun value => .taken ?_,fun other label => ?_⟩
  · exact .rule rfl (pipe.seq (.left (.word word (List.mem_singleton.mpr value) stop)))
  · have clause : Took macros d (.word ["unwrap"]) c.rest c.rest.rest :=
      .word word (List.mem_singleton.mpr (unwrap.resolve_right other)) stop
    refine ⟨fun conversion inner closing => .taken ?_,fun _ => .taken ?_⟩
    · have converted : Took macros d (.word unwrapConversions) c.rest.rest c.rest.rest.rest :=
        .word label conversion.1 stop
      refine .rule rfl (pipe.seq (.right (clause.seq (.left (converted.seq ?_)))))
      exact (Took.is conversion.2 stop rfl).seq ((Took.is inner stop rfl).seq
        (.is closing stop rfl))
    · exact .rule rfl (pipe.seq (.right (clause.seq (.right (.is label stop rfl)))))

/-- The range behind a pipeline, up to the parenthesis that closes its function. -/
theorem rangeTook {c : Cursor} (stop : c.stop.kind = .eof) (opening : (c.token 0).kind = .leftBracket)
    (duration : (c.rest.token 0).kind = .duration)
    (closing : (c.rest.rest.token 0).kind = .rightBracket)
    (last : (c.rest.rest.rest.token 0).kind = .rightParen) {q : Phrase} {c' : Cursor}
    (behind : Took macros d q c.rest.rest.rest.rest c') : Took macros d (.seq (.is .leftBracket)
      (.seq (.is .duration) (.seq (.is .rightBracket) (.seq (.is .rightParen) q)))) c c' :=
  (Took.is opening stop rfl).seq ((Took.is duration stop rfl).seq ((Took.is closing stop rfl).seq
    ((Took.is last stop rfl).seq behind)))

theorem rangeCallTook (room : Nat) {c : Cursor} (stop : c.stop.kind = .eof)
    (word : (c.token 0).kind = .identifier) : Post c (rangeCall room) fun _ c' =>
      if (c.token 0).literal ∈ parameterizedUnwrappedFunctions then
        Took macros room (.rule .parameterizedUnwrapped) c c'
      else Took macros room (.either (.rule .logRange) (.rule .unwrapFunction)) c c' := by
  simp only [rangeCall,postBind,postNext,postExpect,postIte,postPure,decide_eq_true_eq]
  refine fun opening => ⟨fun special => ?_,fun plain => ?_⟩
  · refine (parameterTakes macros room c.rest.rest stop).imp fun param c1 number comma => ?_
    refine (selectorExprTook macros room true (c := c1.rest) number.stop).imp fun body c2 source => ?_
    refine (unwrapClauseTook macros room source.1.stop source.2).imp fun clause c3 unwrap bracket time => ?_
    split
    · simp only [postIte,postBind,postFail,postExpect,special,if_true,implies_true,true_and]
      intro _ closing last
      cases unwrap with
      | declined _ => simp
      | taken clause =>
        simp only [postBind,postPure]
        refine (optGroupingTakes macros room _ c3.rest.rest.rest.rest clause.stop).imp fun by_ c4 group => ?_
        refine .rule rfl ((Took.word word special stop).seq ((Took.is opening stop rfl).seq (number.seq
          ((Took.is comma number.stop rfl).seq (source.1.seq (clause.seq ?_))))))
        exact rangeTook macros room clause.stop bracket time closing last group
    · simp
  · refine (selectorExprTook macros room true (c := c.rest.rest) stop).imp fun body c1 source => ?_
    refine (unwrapClauseTook macros room source.1.stop source.2).imp fun clause c2 unwrap bracket time => ?_
    split
    · simp only [postIte,postBind,postFail,postExpect,plain,if_false,implies_true,true_and]
      intro _ closing last
      cases unwrap with
      | declined _ =>
        simp only [postIte,postBind,postFail,postPure,implies_true,and_true]
        intro known
        have stop' := source.1.stop
        refine .left (.rule rfl ((Took.word word known stop).seq ((Took.is opening stop rfl).seq
          (source.1.seq ?_))))
        exact (Took.is bracket stop' rfl).seq ((Took.is time stop' rfl).seq
          ((Took.is closing stop' rfl).seq (.is last stop' rfl)))
      | taken clause =>
        simp only [postIte,postBind,postFail,postPure,implies_true,and_true]
        intro known
        refine (optGroupingTakes macros room _ c2.rest.rest.rest.rest clause.stop).imp fun by_ c3 group => ?_
        refine .right (.rule rfl ((Took.word word known stop).seq ((Took.is opening stop rfl).seq
          (source.1.seq (clause.seq ?_)))))
        exact rangeTook macros room clause.stop bracket time closing last group
    · simp

theorem aggregationOperatorTook (room : Nat) {c : Cursor} (stop : c.stop.kind = .eof)
    (word : (c.token 0).kind = .identifier) (known : (c.token 0).literal ∈ aggregationFunctions) :
    Post c (aggregationOperator room) fun _ c' => Took macros room (.rule .aggregation) c c' := by
  simp only [aggregationOperator,postBind,postNext,postExpect,postCurrent,postIte,postFail,postPure,
    implies_true,and_true]
  refine (optGroupingTakes macros room _ c.rest stop).imp fun before c1 first opening combinable => ?_
  refine (rangeCallTook macros room (c := c1.rest) first.stop combinable.1).imp
    fun call c2 inner closing => ?_
  rw [if_neg (combinableNotParameterized combinable.2)] at inner
  have whole {c3 : Cursor} (last : Took macros room (option (.rule .grouping)) c2.rest c3) :
      Took macros room (.rule .aggregation) c c3 :=
    .rule rfl ((Took.word word known stop).seq (first.seq ((Took.is opening first.stop rfl).seq
      (inner.seq ((Took.is closing inner.stop rfl).seq last)))))
  refine ⟨fun _ => ?_,fun _ => whole (.none inner.stop)⟩
  exact (optGroupingTakes macros room _ c2.rest inner.stop).imp fun _ _ last => whole last

theorem aggStatementTakes (room : Nat) : Takes macros room (.rule .aggStatement) (aggStatement room) := by
  induction room with
  | zero =>
    intro c stop
    simp [aggStatement]
  | succ room ih =>
    intro c stop
    simp only [aggStatement,postBind,postCurrent,postIte,postFail,postPure,implies_true,and_true]
    refine fun word => ⟨fun aggregation => ?_,fun _ => ⟨fun ranking => ?_,fun _ range => ?_⟩⟩
    · refine (aggregationOperatorTook macros room stop word aggregation).imp fun _ c' one => ?_
      exact .opened rfl one.left
    · simp only [parameterizedExpression,postBind,postNext,postExpect,postCurrent,postIte,postFail,
        postPure,implies_true,true_and]
      intro opening
      refine (parameterTakes macros room c.rest.rest stop).imp fun param c1 number comma _ => ?_
      refine (ih c1.rest number.stop).imp fun statement c2 inner closing => ?_
      refine .opened rfl (.right (.right (.right (.left (.rule rfl ((Took.word word ranking stop).seq ?_))))))
      exact (Took.is opening stop rfl).seq (number.seq ((Took.is comma number.stop rfl).seq
        (inner.seq (.is closing inner.stop rfl))))
    · refine (rangeCallTook macros room stop word).imp fun n c' one => .opened rfl ?_
      split at one
      · exact one.right.right.right.right
      · rcases one.either with log | unwrap
        · exact log.left.right
        · exact unwrap.left.right.right

theorem comparisonTakes : Takes macros d (option (.rule .comparison)) comparison := by
  intro c stop
  simp only [comparison,postBind,postCurrent,postIte,postNext,postIsWord,postExpect,postPure,
    decide_eq_true_eq]
  refine ⟨fun operator => ?_,fun _ => .none stop⟩
  have operator : Took macros d (.token [.greater, .greaterEqual, .less, .lessEqual, .equalEqual,
    .notEqual]) c c.rest := .token operator stop rfl
  refine ⟨fun marked number => ?_,fun _ number => ?_⟩
  · have modifier : Took macros d (.word ["bool"]) c.rest c.rest.rest :=
      .word marked.1 (List.mem_singleton.mpr marked.2) stop
    split
    · simp
    · simp only [postPure]
      exact .left (.rule rfl (operator.seq (modifier.left.seq (.is number stop rfl))))
  · split
    · simp
    · simp only [postPure]
      exact .left (.rule rfl (operator.seq ((Took.none (c := c.rest) stop).seq (.is number stop rfl))))

/-! ### Queries -/

theorem macroCallTook {c : Cursor} (stop : c.stop.kind = .eof) (word : (c.token 0).kind = .identifier)
    (known : (c.token 0).literal ∈ macros) :
    Post c macroCall fun _ c' => Took macros d (.rule .userMacro) c c' := by
  simp only [macroCall,postBind,postNext,postExpect,postFuel,postPure]
  intro opening
  have arguments := parenthesesTook (leafTakes macros d .string Kind.macroArg rfl)
    (.is opening stop rfl)
  exact (arguments _).imp fun _ c' list closing =>
    .rule rfl ((Took.word word known stop).seq (list closing))

theorem queryTook : Takes macros maxDepth (.rule .query) (query macros) := by
  intro c stop
  simp only [query,postBind,postCurrent,postPeek,postIte,postFail,postPure,implies_true,and_true]
  refine ⟨fun call => ?_,fun _ => ⟨fun _ => ?_,fun _ => ?_⟩⟩
  · exact (macroCallTook macros maxDepth stop call.1 call.2.1).imp fun n c' one _ => .rule rfl one.left
  · refine (selectorExprTook macros _ _ stop).imp fun ns c' one _ => ?_
    exact .rule rfl one.1.right.right
  · refine (aggStatementTakes macros _ c stop).imp fun n c' statement => ?_
    refine (comparisonTakes macros maxDepth c' statement.stop).imp fun ns c'' compared _ => ?_
    exact .rule rfl (.right (.left (statement.seq compared)))

theorem queryTakes (c : Cursor) (stop : c.stop.kind = .eof) : Post c (query macros) fun _ c' =>
    c'.stop.kind = .eof ∧ ∃ ts, c.ahead = ts ++ c'.ahead ∧ Derives macros true (.rule .query) ts := by
  refine (queryTook macros c stop).imp fun _ c' took => ?_
  obtain ⟨stop,ts,same,within⟩ := took
  exact ⟨stop,ts,same,within.derives⟩

/-- The tokens of a text that is read are those of a query in which a comma may trail. They are those
of a query of the grammar exactly when no comma does. -/
theorem parseDerived {t : Text} {root : Node} (ok : parse macros t = .ok root) :
    ∃ ts, tokenize t = .ok ts ∧ Derives macros true (.rule .query) ts.tokens ∧
      (Derives macros false (.rule .query) ts.tokens ↔ Grammar.trails ts.tokens = false) := by
  obtain ⟨ts,left,tokens,read⟩ := parseRun ok
  obtain ⟨_,us,same,derives⟩ := queryTakes macros ⟨ts.tokens,ts.eof⟩ rfl root left read
  have none := (queryPost macros (tokenizeCursor tokens) root left read).2
  rw [none,List.append_nil] at same
  cases same
  exact ⟨ts,tokens,derives,Grammar.strictIff derives⟩

/-- A comma behind the only parameter of a stage. -/
def looseParameters : Text := "\x7bapp=\"api\"\x7d | json level=\"level\","

theorem looseParametersTaken : ∃ root ts, parse [] looseParameters = .ok root ∧
    tokenize looseParameters = .ok ts ∧ Derives [] true (.rule .query) ts.tokens ∧
      ¬ Derives [] false (.rule .query) ts.tokens := by
  obtain ⟨root,ok,_⟩ := okAny (x := parse [] looseParameters) (p := fun _ => true) (by decide +kernel)
  obtain ⟨ts,tokens,derives,strict⟩ := parseDerived [] ok
  have comma : (tokenize looseParameters).toOption.any (Grammar.trails ·.tokens) = true := by
    decide +kernel
  refine ⟨root,ts,ok,tokens,derives,fun none => ?_⟩
  simp [tokens,Except.toOption,strict.1 none] at comma

end LogSql.Query
