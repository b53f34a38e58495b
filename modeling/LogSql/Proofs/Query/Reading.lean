import LogSql.Proofs.Query.Form
import LogSql.Proofs.Query.Spelling

/-! What the reader makes of tokens. Whatever the text, a tree that is read is the tree of a form:
every rule, stage and function in it is one that the grammar knows. The proofs follow the reader step
by step; a postcondition says what holds of the result and of the tokens that are left. -/
namespace LogSql.Query

/-- The token a number of places ahead. -/
def Cursor.token (c : Cursor) (n : Nat) : Token := (c.ahead[n]?).getD c.stop

/-- The cursor behind its current token. -/
def Cursor.rest (c : Cursor) : Cursor := { c with ahead := c.ahead.tail }

/-- All tokens ahead are spelled as their classes are, and the end is behind them. -/
structure Cursor.Spelled (c : Cursor) : Prop where
  ahead : ∀ t ∈ c.ahead, t.Spelled
  stop : c.stop.Spelled
  words : ∀ t ∈ c.ahead, t.kind ≠ .eof

theorem Cursor.Spelled.token {c : Cursor} (h : c.Spelled) (n : Nat) : (c.token n).Spelled := by
  unfold Cursor.token
  cases found : c.ahead[n]? with
  | none => exact h.stop
  | some t => exact h.ahead t (List.mem_of_getElem? found)

theorem Cursor.Spelled.rest {c : Cursor} (h : c.Spelled) : c.rest.Spelled :=
  ⟨fun t mem => h.ahead t (List.mem_of_mem_tail mem),h.stop,
    fun t mem => h.words t (List.mem_of_mem_tail mem)⟩

/-- No token is left where the end is. -/
theorem Cursor.Spelled.done {c : Cursor} (h : c.Spelled) (end_ : (c.token 0).kind = .eof) :
    c.ahead = [] := by
  obtain ⟨ahead,stop⟩ := c
  cases ahead with
  | nil => rfl
  | cons t ahead => exact absurd end_ (h.words t List.mem_cons_self)

theorem Cursor.tokenRest (c : Cursor) (n : Nat) : c.rest.token n = c.token (n + 1) := by
  simp [Cursor.token,Cursor.rest,List.getElem?_tail]

namespace Parse

variable {α β : Type} {c : Cursor}

/-- A step that succeeds has a result and leaves a cursor with the property. -/
def Post (c : Cursor) (p : Parse α) (Q : α → Cursor → Prop) : Prop :=
  ∀ a c', p c = .ok (a, c') → Q a c'

theorem Post.imp {p : Parse α} {Q R : α → Cursor → Prop} (h : Post c p Q)
    (weaker : ∀ a c', Q a c' → R a c') : Post c p R :=
  fun a c' ok => weaker a c' (h a c' ok)

@[simp] theorem postPure {a : α} {Q : α → Cursor → Prop} : Post c (pure a) Q ↔ Q a c := by
  constructor
  · intro h
    exact h a c rfl
  · intro h b c' ok
    cases ok
    exact h

@[simp] theorem postBind {p : Parse α} {f : α → Parse β} {Q : β → Cursor → Prop} :
    Post c (p >>= f) Q ↔ Post c p fun a c' => Post c' (f a) Q := by
  constructor
  · intro h a c' first b c'' second
    refine h b c'' ?_
    simp only [bind,StateT.bind,first]
    exact second
  · intro h b c'' ok
    simp only [bind,StateT.bind] at ok
    cases first : p c with
    | error e => simp [first,Except.bind] at ok
    | ok r => exact h r.1 r.2 first b c'' (by simpa [first,Except.bind] using ok)

@[simp] theorem postFail {t : Token} {p : Problem} {Q : α → Cursor → Prop} :
    Post c (failAt t p) Q := by
  intro a c' ok
  contradiction

@[simp] theorem postIte {P : Prop} [Decidable P] {p q : Parse α} {Q : α → Cursor → Prop} :
    Post c (if P then p else q) Q ↔ (P → Post c p Q) ∧ (¬ P → Post c q Q) := by
  by_cases h : P <;> simp [h]

@[simp] theorem postPeek {n : Nat} {Q : Token → Cursor → Prop} :
    Post c (peek n) Q ↔ Q (c.token n) c := by
  constructor
  · intro h
    exact h _ _ rfl
  · intro h t c' ok
    cases ok
    exact h

@[simp] theorem postCurrent {Q : Token → Cursor → Prop} : Post c current Q ↔ Q (c.token 0) c :=
  postPeek

@[simp] theorem postNext {Q : Token → Cursor → Prop} : Post c next Q ↔ Q (c.token 0) c.rest := by
  obtain ⟨ahead,stop⟩ := c
  constructor
  · intro h
    refine h _ _ ?_
    cases ahead <;> rfl
  · intro h t c' ok
    cases ahead <;> (cases ok; exact h)

@[simp] theorem postIs {kind : TokenKind} {Q : Bool → Cursor → Prop} :
    Post c (is kind) Q ↔ Q (decide ((c.token 0).kind = kind)) c := by
  simp only [is,postBind,postCurrent,postPure]

@[simp] theorem postIsWord {word : Text} {Q : Bool → Cursor → Prop} :
    Post c (isWord word) Q ↔
      Q (decide ((c.token 0).kind = .identifier ∧ (c.token 0).literal = word)) c := by
  simp only [isWord,postBind,postCurrent,postPure]

@[simp] theorem postExpect {kind : TokenKind} {Q : Token → Cursor → Prop} :
    Post c (expect kind) Q ↔ ((c.token 0).kind = kind → Q (c.token 0) c.rest) := by
  simp [expect]

@[simp] theorem postFuel {Q : Nat → Cursor → Prop} : Post c fuel Q ↔ Q (c.ahead.length + 1) c := by
  constructor
  · intro h
    exact h _ _ rfl
  · intro h n c' ok
    cases ok
    exact h

/-- From spelled tokens a step gives a result with the property and leaves spelled tokens. -/
def Yields (p : Parse α) (Q : α → Prop) : Prop :=
  ∀ c : Cursor, c.Spelled → Post c p fun a c' => Q a ∧ c'.Spelled

theorem repeatYields {step : Parse (Option α)} {Q : α → Prop}
    (each : Yields step fun o => ∀ a, o = some a → Q a) (n : Nat) :
    Yields (repeatStep step n) fun as => ∀ a ∈ as, Q a := by
  induction n with
  | zero =>
    intro c spelled
    simp [repeatStep,spelled]
  | succ n ih =>
    intro c spelled
    simp only [repeatStep,postBind]
    refine (each c spelled).imp fun o c' h => ?_
    cases o with
    | none => simp [h.2]
    | some a =>
      simp only [postBind,postPure]
      refine (ih c' h.2).imp fun as c'' more => ⟨?_,more.2⟩
      intro x mem
      rcases List.mem_cons.mp mem with rfl | later
      · exact h.1 x rfl
      · exact more.1 x later

theorem manyYields {step : Parse (Option α)} {Q : α → Prop}
    (each : Yields step fun o => ∀ a, o = some a → Q a) :
    Yields (many step) fun as => ∀ a ∈ as, Q a := by
  intro c spelled
  simp only [many,postBind,postFuel]
  exact repeatYields each _ c spelled

/-- A step that reads an item behind a separator, or nothing when there is no separator. -/
theorem itemYields {test : Parse Bool} {item : Parse α} {Q : α → Prop}
    (looks : Yields test fun _ => True) (each : Yields item Q) :
    Yields (do
      if ← test then
        let _ ← next
        return some (← item)
      return none) fun o => ∀ a, o = some a → Q a := by
  intro c spelled
  simp only [postBind,postIte,postNext,postPure]
  refine (looks c spelled).imp fun b c' h => ⟨fun _ => ?_,fun _ => ⟨by simp,h.2⟩⟩
  exact (each _ h.2.rest).imp fun a c'' found => ⟨by simpa using found.1,found.2⟩

theorem isYields (kind : TokenKind) : Yields (is kind) fun _ => True := by
  intro c spelled
  simp [spelled]

theorem isWordYields (word : Text) : Yields (isWord word) fun _ => True := by
  intro c spelled
  simp [spelled]

theorem listYields {item : Parse α} {Q : α → Prop} (each : Yields item Q) (n : Nat) :
    Yields (listBeforeParen item n) fun as => ∀ a ∈ as, Q a := by
  induction n with
  | zero =>
    intro c spelled
    simp [listBeforeParen,spelled]
  | succ n ih =>
    intro c spelled
    simp only [listBeforeParen,postBind,postIs,postIte,postPure]
    refine ⟨fun _ => ⟨by simp,spelled⟩,fun _ => ?_⟩
    refine (each c spelled).imp fun a c' h => ⟨fun _ => ?_,fun _ => ?_⟩
    · simp only [postNext]
      refine (ih _ h.2.rest).imp fun as c'' more => ⟨?_,more.2⟩
      intro x mem
      rcases List.mem_cons.mp mem with rfl | later
      · exact h.1
      · exact more.1 x later
    · exact ⟨by simpa using h.1,h.2⟩

end Parse

open Parse

theorem mapOfEach {α β : Type} {f : α → β} {bs : List β} (each : ∀ b ∈ bs, ∃ a, b = f a) :
    ∃ as : List α, bs = as.map f := by
  induction bs with
  | nil => exact ⟨[],rfl⟩
  | cons b bs ih =>
    obtain ⟨a,rfl⟩ := each b List.mem_cons_self
    obtain ⟨as,rfl⟩ := ih fun x mem => each x (List.mem_cons_of_mem _ mem)
    exact ⟨a :: as,rfl⟩

/-! ### Selectors and stages -/

theorem selectorRuleYields : Yields selectorRule fun n => ∃ r : Form.Rule, n = r.node := by
  intro c spelled
  simp only [selectorRule,postBind,postExpect,postNext,postIte,postFail,postPure]
  refine fun _ => ⟨fun matcher _ => ?_,fun _ => trivial⟩
  have literal := spelled.rest.token 0
  have known : (c.rest.token 0).literal ∈ Form.matchers := by
    simp only [List.mem_cons,List.not_mem_nil,or_false] at matcher
    rcases matcher with kind | kind | kind | kind <;>
      (rw [literal (by rw [kind]; rfl),kind]; simp [TokenKind.name,Form.matchers])
  exact ⟨⟨⟨_,_,_,known⟩,rfl⟩,spelled.rest.rest.rest⟩

theorem selectorYields : Yields selector fun n =>
    ∃ rules : List Form.Rule, rules ≠ [] ∧
      n = .mk Kind.logStreamSelector [] (rules.map Form.Rule.node) := by
  intro c spelled
  simp only [selector,postBind,postExpect,postPure]
  intro _
  refine (selectorRuleYields _ spelled.rest).imp fun first c' head => ?_
  have more := manyYields (itemYields (isYields .comma) selectorRuleYields) _ head.2
  refine more.imp fun _ c'' tail _ => ⟨?_,tail.2.rest⟩
  obtain ⟨r,rfl⟩ := head.1
  obtain ⟨rs,rfl⟩ := mapOfEach tail.1
  exact ⟨r :: rs,by simp,rfl⟩

/-- The classes of the operators of label filters that match patterns. -/
def isPatternKind (k : TokenKind) : Prop := k = .match_ ∨ k = .notMatch

theorem filterOperatorKnown {t : Token} (spelled : t.Spelled)
    (kind : t.kind ∈ [TokenKind.equal, .notEqual, .match_, .notMatch, .equalEqual, .greater,
      .greaterEqual, .less, .lessEqual]) :
    (isPatternKind t.kind → t.literal ∈ Form.patternOperators) ∧
      (¬ isPatternKind t.kind → t.literal ∈ Form.comparators) := by
  simp only [List.mem_cons,List.not_mem_nil,or_false] at kind
  rcases kind with h | h | h | h | h | h | h | h | h <;>
    (rw [spelled (by rw [h]; rfl),h]
     simp [isPatternKind,TokenKind.name,Form.patternOperators,Form.comparators])

theorem filterPrimaryYields {group : Parse Node} (inner : Yields group Form.Filter) :
    Yields (filterPrimary group) Form.Filter := by
  intro c spelled
  simp only [filterPrimary,postBind,postIs,postIte,postNext,postExpect,postFail,postPure]
  refine ⟨fun _ => ?_,fun _ _ => ⟨fun operator => ?_,fun _ => trivial⟩⟩
  · exact (inner _ spelled.rest).imp fun n c' h _ => ⟨h.1,h.2.rest⟩
  obtain ⟨pattern,comparator⟩ := filterOperatorKnown (spelled.rest.token 0) operator
  have left := spelled.rest.rest.rest
  have compared {value : TokenKind} (kind : (c.rest.rest.token 0).kind = value)
      (other : value ≠ .string)
      (allowed : ¬ (isPatternKind (c.rest.token 0).kind ∧
        (c.rest.rest.token 0).kind ≠ TokenKind.string)) :
      (c.rest.token 0).literal ∈ Form.comparators :=
    comparator fun found => allowed ⟨found,by rw [kind]; exact other⟩
  -- The value decides the case; a pattern operator is refused in all cases but the first.
  split
  · simp only [postBind,postPure,postIte,postFail]
    refine ⟨fun _ => trivial,fun _ => ⟨.test ⟨_,_,.text _ ?_⟩,left⟩⟩
    by_cases found : isPatternKind (c.rest.token 0).kind
    · exact .inr (pattern found)
    · exact .inl (comparator found)
  · simp only [postBind,postPure,postIte,postFail]
    rename_i kind
    exact ⟨fun _ => trivial,fun allowed =>
      ⟨.test ⟨_,_,.number _ (compared kind (by decide) allowed)⟩,left⟩⟩
  · rename_i kind
    split
    · simp only [postBind,postPure,postIte,postFail]
      rename_i readable
      exact ⟨fun _ => trivial,fun allowed =>
        ⟨.test ⟨_,_,.duration _ (compared kind (by decide) allowed) ⟨_,readable⟩⟩,left⟩⟩
    · simp
  · simp only [postBind,postPure,postIte,postFail]
    rename_i kind
    exact ⟨fun _ => trivial,fun allowed =>
      ⟨.test ⟨_,_,.bytes _ (compared kind (by decide) allowed)⟩,left⟩⟩
  · simp

theorem groupFilter {group : List Node → Node} {left : Node} {more : List Node}
    (form : ∀ parts : List Node, 2 ≤ parts.length → (∀ p ∈ parts, Form.Filter p) →
      Form.Filter (group parts))
    (head : Form.Filter left) (tail : ∀ n ∈ more, Form.Filter n) :
    Form.Filter (if more.isEmpty then left else group (left :: more)) := by
  cases more with
  | nil => exact head
  | cons second more =>
    refine form _ (by simp) fun p mem => ?_
    rcases List.mem_cons.mp mem with rfl | later
    · exact head
    · exact tail p later

theorem filterAndYields {group : Parse Node} (inner : Yields group Form.Filter) :
    Yields (filterAnd group) Form.Filter := by
  intro c spelled
  simp only [filterAnd,postBind,postPure]
  refine (filterPrimaryYields inner _ spelled).imp fun left c' head => ?_
  have step : Yields (do
      if (← isWord "and") || (← is .comma) then
        let _ ← next
        return some (← filterPrimary group)
      return none) fun o => ∀ n, o = some n → Form.Filter n := by
    intro c spelled
    simp only [postBind,postIsWord,postIs,postIte,postNext,postPure]
    refine ⟨fun _ => ?_,fun _ => ⟨by simp,spelled⟩⟩
    exact (filterPrimaryYields inner _ spelled.rest).imp fun n c' h => ⟨by simpa using h.1,h.2⟩
  refine (manyYields step _ head.2).imp fun more c'' tail => ⟨?_,tail.2⟩
  exact groupFilter (fun _ two each => .all two each) head.1 tail.1

theorem filterOrYields (room : Nat) : Yields (filterOr room) Form.Filter := by
  induction room with
  | zero =>
    intro c spelled
    simp [filterOr]
  | succ room ih =>
    intro c spelled
    simp only [filterOr,postBind,postPure]
    refine (filterAndYields ih _ spelled).imp fun left c' head => ?_
    have more := manyYields (itemYields (isWordYields "or") (filterAndYields ih)) _ head.2
    refine more.imp fun more c'' tail => ⟨?_,tail.2⟩
    exact groupFilter (fun _ two each => .any two each) head.1 tail.1

theorem jsonParamsYields (n : Nat) :
    Yields (jsonParams n) fun ns => ∀ p ∈ ns, ∃ param, p = Form.paramNode param := by
  induction n with
  | zero =>
    intro c spelled
    simp [jsonParams,spelled]
  | succ n ih =>
    intro c spelled
    simp only [jsonParams,postBind,postPeek,postIte,postNext,postIs,postPure]
    have rest := spelled.rest.rest.rest
    refine ⟨fun _ => ⟨fun _ => ?_,fun _ => ⟨?_,rest⟩⟩,fun _ => ⟨by simp,spelled⟩⟩
    · refine (ih _ rest.rest).imp fun more c' tail => ⟨?_,tail.2⟩
      intro p mem
      rcases List.mem_cons.mp mem with rfl | later
      · exact ⟨(_,_),rfl⟩
      · exact tail.1 p later
    · intro p mem
      rcases List.mem_singleton.mp mem with rfl
      exact ⟨(_,_),rfl⟩

theorem parserStagePost {c : Cursor} (spelled : c.Spelled)
    (known : (c.token 0).literal ∈ parserFunctions) :
    Post c parserStage fun n c' => (∃ s : Form.Stage, n = s.node) ∧ c'.Spelled := by
  simp only [parserStage,postBind,postNext,postIte,postExpect,postFuel,postPure]
  refine ⟨fun regexp _ => ?_,fun notRegexp => ⟨fun json => ?_,fun notJson => ?_⟩⟩
  · exact ⟨⟨.regexp (c.rest.token 0).literal,by rw [regexp]; rfl⟩,spelled.rest.rest⟩
  · refine (jsonParamsYields _ _ spelled.rest).imp fun ns c' h => ⟨?_,h.2⟩
    obtain ⟨params,rfl⟩ := mapOfEach h.1
    exact ⟨.json params,by rw [json]; rfl⟩
  · refine ⟨⟨.logfmt,?_⟩,spelled.rest⟩
    simp only [parserFunctions,List.mem_cons,notRegexp,notJson,List.not_mem_nil,or_false,
      false_or] at known
    rw [known]; rfl

theorem labelsFormatRuleYields :
    Yields labelsFormatRule fun n => ∃ r, n = Form.labelRuleNode r := by
  intro c spelled
  simp only [labelsFormatRule,postBind,postExpect,postNext]
  intro _ _
  split
  · simp only [postPure]
    exact ⟨⟨(_,.label _),rfl⟩,spelled.rest.rest.rest⟩
  · simp only [postPure]
    exact ⟨⟨(_,.template _),rfl⟩,spelled.rest.rest.rest⟩
  · simp

theorem labelsFormatYields : Yields labelsFormat fun n => ∃ s : Form.Stage, n = s.node := by
  intro c spelled
  simp only [labelsFormat,postBind,postPure]
  refine (labelsFormatRuleYields _ spelled).imp fun first c' head => ?_
  have more := manyYields (itemYields (isYields .comma) labelsFormatRuleYields) _ head.2
  refine more.imp fun more c'' tail => ⟨?_,tail.2⟩
  obtain ⟨r,rfl⟩ := head.1
  obtain ⟨rs,rfl⟩ := mapOfEach tail.1
  exact ⟨.labelsFormat (r :: rs),rfl⟩

theorem lineOperatorKnown {t : Token} (spelled : t.Spelled)
    (kind : t.kind = .pipeExact ∨ t.kind = .pipeMatch ∨ t.kind = .notEqual ∨ t.kind = .notMatch) :
    t.literal ∈ Form.lineOperators := by
  rcases kind with h | h | h | h <;>
    (rw [spelled (by rw [h]; rfl),h]; simp [TokenKind.name,Form.lineOperators])

theorem stageYields (room : Nat) (allowUnwrap : Bool) :
    Yields (stage room allowUnwrap) fun o => ∀ n, o = some n → ∃ s : Form.Stage, n = s.node := by
  intro c spelled
  simp only [stage,postBind,postCurrent]
  have lineFilter (kind : (c.token 0).kind = .pipeExact ∨ (c.token 0).kind = .pipeMatch ∨
      (c.token 0).kind = .notEqual ∨ (c.token 0).kind = .notMatch) :
      Post c (do
        let op ← next
        let val ← expect .string
        return some (.mk Kind.lineFilterExpression []
          [.leaf Kind.lineFilterOperator op.literal, .leaf Kind.quotedStr val.literal]))
        fun o c' => (∀ n, o = some n → ∃ s : Form.Stage, n = s.node) ∧ c'.Spelled := by
    simp only [postBind,postNext,postExpect,postPure,Option.some.injEq]
    refine fun _ => ⟨?_,spelled.rest.rest⟩
    rintro n rfl
    exact ⟨.line _ _ (lineOperatorKnown (spelled.token 0) kind),rfl⟩
  split
  · exact lineFilter (.inl ‹_›)
  · exact lineFilter (.inr (.inl ‹_›))
  · exact lineFilter (.inr (.inr (.inl ‹_›)))
  · exact lineFilter (.inr (.inr (.inr ‹_›)))
  · simp only [postBind,postPeek,postIte,postPure,postFail,postNext,postExpect,implies_true,
      and_true]
    have rest := spelled.rest
    refine ⟨fun _ _ => ⟨by simp,spelled⟩,fun _ => ⟨fun parser => ?_,fun _ => ⟨fun _ _ => ?_,fun _ =>
      ⟨fun _ => ?_,fun _ _ => ?_⟩⟩⟩⟩
    · have known : (c.rest.token 0).literal ∈ parserFunctions := by
        rw [Cursor.tokenRest]
        exact parser.2
      exact (parserStagePost rest known).imp fun n c' h => ⟨by simpa using h.1,h.2⟩
    · refine ⟨?_,rest.rest.rest⟩
      rintro n same
      cases same
      exact ⟨.lineFormat _,rfl⟩
    · exact (labelsFormatYields _ rest.rest).imp fun n c' h => ⟨by simpa using h.1,h.2⟩
    · refine (filterOrYields room _ rest).imp fun body c' h => ⟨?_,h.2⟩
      rintro n same
      cases same
      exact ⟨.filter body h.1,rfl⟩
  · simp [spelled]

theorem selectorExprYields (room : Nat) (allowUnwrap : Bool) :
    Yields (selectorExpr room allowUnwrap) fun ns => ∃ s : Form.Source, ns = s.nodes := by
  intro c spelled
  simp only [selectorExpr,postBind,postPure]
  refine (selectorYields _ spelled).imp fun sel c' head => ?_
  refine (manyYields (stageYields room allowUnwrap) _ head.2).imp fun ns c'' tail => ⟨?_,tail.2⟩
  obtain ⟨rules,some,rfl⟩ := head.1
  obtain ⟨stages,rfl⟩ := mapOfEach tail.1
  exact ⟨⟨rules,some,stages⟩,by simp [Form.Source.nodes,Form.pipelineNode]⟩

/-! ### Aggregations -/

theorem groupingPost (kind : Text) {c : Cursor} (spelled : c.Spelled)
    (known : (c.token 0).literal = ("by" : Text) ∨ (c.token 0).literal = ("without" : Text)) :
    Post c (grouping kind) fun n c' => (∃ g : Form.Grouping, n = g.node kind) ∧ c'.Spelled := by
  simp only [grouping,postBind,postNext,postExpect,postFuel,postPure]
  intro _
  have item : Yields (do let label ← expect .identifier; return Node.leaf Kind.label label.literal)
      fun n => ∃ t, n = Node.leaf Kind.label t := by
    intro c spelled
    simp only [postBind,postExpect,postPure]
    exact fun _ => ⟨⟨_,rfl⟩,spelled.rest⟩
  refine (listYields item _ _ spelled.rest.rest).imp fun ns c' h _ => ⟨?_,h.2.rest⟩
  obtain ⟨labels,rfl⟩ := mapOfEach h.1
  exact ⟨⟨_,labels,known⟩,rfl⟩

theorem optGroupingYields (kind : Text) : Yields (optGrouping kind) fun ns =>
    ∃ g : Option Form.Grouping, ns = g.toList.map (Form.Grouping.node kind) := by
  intro c spelled
  simp only [optGrouping,atGrouping,postBind,postIsWord,postIte,postPure]
  refine ⟨fun here => ?_,fun _ => ⟨⟨none,rfl⟩,spelled⟩⟩
  have known : (c.token 0).literal = ("by" : Text) ∨ (c.token 0).literal = ("without" : Text) := by
    simp only [Bool.or_eq_true,decide_eq_true_eq] at here
    exact here.imp And.right And.right
  refine (groupingPost kind spelled known).imp fun n c' h => ⟨?_,h.2⟩
  obtain ⟨g,rfl⟩ := h.1
  exact ⟨some g,rfl⟩

/-- A parameter is the token of a number. -/
theorem parameterPost {c : Cursor} : Post c parameter fun n c' => (c.token 0).kind = .number ∧ c' = c.rest ∧
    ∃ x : Form.Numeral, x.text = (c.token 0).literal ∧ n = .leaf Kind.parameterValue x.text := by
  simp only [parameter,postBind,postExpect]
  intro kind
  split
  · rename_i x readable
    simp only [postPure]
    exact ⟨kind,trivial,⟨_,x,readable⟩,rfl,rfl⟩
  · simp

theorem parameterYields : Yields parameter fun n =>
    ∃ x : Form.Numeral, n = .leaf Kind.parameterValue x.text := by
  intro c spelled
  refine parameterPost.imp fun n c' number => ?_
  obtain ⟨_,rfl,x,_,leaf⟩ := number
  exact ⟨⟨x,leaf⟩,spelled.rest⟩

theorem unwrapClauseYields : Yields unwrapClause fun o =>
    ∀ n, o = some n → ∃ u : Form.Unwrap, n = u.node := by
  intro c spelled
  simp only [unwrapClause,postBind,postIs,postIte,postNext,postExpect,postPure]
  have rest := spelled.rest.rest
  refine ⟨fun _ => ⟨fun _ => ⟨?_,rest⟩,fun _ _ => ⟨fun conversion _ _ => ?_,fun _ => ?_⟩⟩,
    fun _ => ⟨by simp,spelled⟩⟩
  · rintro n same
    cases same
    exact ⟨.value,rfl⟩
  · refine ⟨?_,rest.rest.rest.rest.rest⟩
    rintro n same
    cases same
    exact ⟨.converted _ _ conversion.1,rfl⟩
  · refine ⟨?_,rest.rest⟩
    rintro n same
    cases same
    exact ⟨.label _,rfl⟩

/-- What a range function with a given name reads as. -/
def RangeTree (fn : Text) (n : Node) : Prop :=
  (fn ∉ parameterizedUnwrappedFunctions ∧ ∃ r : Form.Range, n = r.node) ∨
    ∃ known param body, n = (Form.Matrix.quantile fn known param body).node

theorem rangeCallPost (room : Nat) {c : Cursor} (spelled : c.Spelled) :
    Post c (rangeCall room) fun n c' => RangeTree (c.token 0).literal n ∧ c'.Spelled := by
  simp only [rangeCall,postBind,postNext,postExpect,postIte,postPure,decide_eq_true_eq]
  refine fun _ => ⟨fun special => ?_,fun plain => ?_⟩
  · refine (parameterYields _ spelled.rest.rest).imp fun param c1 number _ => ?_
    refine (selectorExprYields room true _ number.2.rest).imp fun body c2 source => ?_
    refine (unwrapClauseYields _ source.2).imp fun clause c3 unwrap _ _ => ?_
    have rest := unwrap.2.rest.rest.rest.rest
    split
    · rename_i nanos readable
      simp only [postIte,postBind,postFail,postExpect,special,if_true,implies_true,true_and]
      intro positive _ _
      cases clause with
      | none => simp
      | some clause =>
        simp only [postBind,postPure]
        refine (optGroupingYields _ _ rest).imp fun by_ c4 grouping => ⟨.inr ?_,grouping.2⟩
        obtain ⟨x,rfl⟩ := number.1
        obtain ⟨s,rfl⟩ := source.1
        obtain ⟨u,rfl⟩ := unwrap.1 _ rfl
        obtain ⟨g,rfl⟩ := grouping.1
        exact ⟨special,x,⟨s,u,⟨_,nanos,readable,by omega⟩,g⟩,
          by simp [Form.Matrix.node,Form.Unwrapped.nodes]⟩
    · simp
  · refine (selectorExprYields room true _ spelled.rest.rest).imp fun body c1 source => ?_
    refine (unwrapClauseYields _ source.2).imp fun clause c2 unwrap _ _ => ?_
    have rest := unwrap.2.rest.rest.rest.rest
    split
    · rename_i nanos readable
      simp only [postIte,postBind,postFail,postExpect,plain,if_false,implies_true,true_and]
      intro positive _ _
      obtain ⟨s,rfl⟩ := source.1
      cases clause with
      | none =>
        simp only [postIte,postBind,postFail,postPure,implies_true,and_true]
        intro known
        exact ⟨.inl ⟨plain,.log _ known s ⟨_,nanos,readable,by omega⟩,by simp [Form.Range.node]⟩,rest⟩
      | some clause =>
        simp only [postIte,postBind,postFail,postPure,implies_true,and_true]
        intro known
        refine (optGroupingYields _ _ rest).imp fun by_ c3 grouping => ⟨.inl ⟨plain,?_⟩,grouping.2⟩
        obtain ⟨u,rfl⟩ := unwrap.1 _ rfl
        obtain ⟨g,rfl⟩ := grouping.1
        exact ⟨.unwrap _ known ⟨s,u,⟨_,nanos,readable,by omega⟩,g⟩,
          by simp [Form.Range.node,Form.Unwrapped.nodes]⟩
    · simp

theorem combinableNotParameterized {fn : Text}
    (combinable : fn ∈ logRangeFunctions ∨ fn ∈ unwrapFunctions) :
    fn ∉ parameterizedUnwrappedFunctions := by
  simp only [logRangeFunctions,unwrapFunctions,parameterizedUnwrappedFunctions,List.mem_cons,
    List.not_mem_nil,or_false] at combinable ⊢
  rintro rfl
  simp at combinable

theorem aggregationOperatorPost (room : Nat) {c : Cursor} (spelled : c.Spelled)
    (known : (c.token 0).literal ∈ aggregationFunctions) :
    Post c (aggregationOperator room) fun n c' =>
      (∃ m : Form.Matrix, n = m.node) ∧ c'.Spelled := by
  simp only [aggregationOperator,postBind,postNext,postExpect,postCurrent,postIte,postFail,postPure,
    implies_true,and_true]
  refine (optGroupingYields _ _ spelled.rest).imp fun before c1 first _ combinable => ?_
  refine (rangeCallPost room first.2.rest).imp fun call c2 inner _ => ?_
  have range : ∃ r : Form.Range, call = r.node := by
    rcases inner.1 with ⟨_,found⟩ | ⟨special,_⟩
    · exact found
    · exact absurd special (combinableNotParameterized combinable.2)
  obtain ⟨r,rfl⟩ := range
  refine ⟨fun _ => ?_,fun _ => ⟨?_,inner.2.rest⟩⟩
  · refine (optGroupingYields _ _ inner.2.rest).imp fun by_ c3 last => ⟨?_,last.2⟩
    obtain ⟨g,rfl⟩ := last.1
    exact ⟨.aggregate _ known g r,rfl⟩
  · obtain ⟨g,rfl⟩ := first.1
    exact ⟨.aggregate _ known g r,rfl⟩

/-- The trees of aggregation statements; a name that is no ranking starts one without a ranking. -/
def StatementTree (fn : Text) (n : Node) : Prop :=
  ∃ (m : Form.Matrix) (ranking : Option Form.Ranking), n = Form.statementNode m ranking ∧
    (fn ∉ parameterizedFunctions → ranking = none)

theorem aggStatementPost (room : Nat) {c : Cursor} (spelled : c.Spelled) :
    Post c (aggStatement room) fun n c' =>
      (c.token 0).kind = .identifier ∧ StatementTree (c.token 0).literal n ∧ c'.Spelled := by
  induction room generalizing c with
  | zero => simp [aggStatement]
  | succ room ih =>
    simp only [aggStatement,postBind,postCurrent,postIte,postFail,postPure,implies_true,and_true]
    refine fun word => ⟨fun aggregation => ?_,fun _ => ⟨fun ranking => ?_,fun _ range => ?_⟩⟩
    · refine (aggregationOperatorPost room spelled aggregation).imp fun n c' h => ⟨word,?_,h.2⟩
      obtain ⟨m,rfl⟩ := h.1
      exact ⟨m,none,rfl,fun _ => rfl⟩
    · simp only [parameterizedExpression,postBind,postNext,postExpect,postCurrent,postIte,postFail,
        postPure,implies_true,true_and]
      intro _
      refine (parameterYields _ spelled.rest.rest).imp fun param c1 number _ plain => ?_
      refine (ih number.2.rest).imp fun statement c2 inner next => ⟨word,?_,inner.2.2.rest⟩
      obtain ⟨x,rfl⟩ := number.1
      obtain ⟨m,r,rfl,single⟩ := inner.2.1
      -- A ranking inside a ranking was refused, so the inner statement has none.
      cases single fun nested => plain ⟨inner.1,nested⟩
      exact ⟨m,some ⟨_,ranking,x⟩,rfl,fun other => absurd ranking other⟩
    · refine (rangeCallPost room spelled).imp fun n c' h => ⟨word,?_,h.2⟩
      rcases h.1 with ⟨_,r,rfl⟩ | ⟨known,param,body,rfl⟩
      · exact ⟨.range r,none,rfl,fun _ => rfl⟩
      · exact ⟨.quantile _ known param body,none,rfl,fun _ => rfl⟩

theorem thresholdKnown {t : Token} (spelled : t.Spelled)
    (kind : t.kind ∈ [TokenKind.greater, .greaterEqual, .less, .lessEqual, .equalEqual, .notEqual]) :
    t.literal ∈ Form.thresholdOperators := by
  simp only [List.mem_cons,List.not_mem_nil,or_false] at kind
  rcases kind with h | h | h | h | h | h <;>
    (rw [spelled (by rw [h]; rfl),h]; simp [TokenKind.name,Form.thresholdOperators])

theorem comparisonYields : Yields comparison fun ns =>
    ∃ t : Option Form.Threshold, ns = t.toList.map Form.Threshold.node := by
  intro c spelled
  simp only [comparison,postBind,postCurrent,postIte,postNext,postIsWord,postExpect,postPure]
  refine ⟨fun operator => ?_,fun _ => ⟨⟨none,rfl⟩,spelled⟩⟩
  have known := thresholdKnown (spelled.token 0) operator
  have bare := spelled.rest.rest
  have marked := bare.rest
  -- The number is read the same way whether or not a modifier stands before it.
  refine ⟨fun _ _ => ?_,fun _ _ => ?_⟩
  all_goals
    split
    · simp
    · rename_i x readable
      simp only [postPure]
      exact ⟨⟨some ⟨_,known,_,⟨_,x,readable⟩⟩,rfl⟩,by assumption⟩

/-! ### Queries -/

theorem macroCallPost {c : Cursor} (spelled : c.Spelled) :
    Post c macroCall fun n c' =>
      (∃ args, [n] = (Form.call (c.token 0).literal args).children) ∧ c'.Spelled := by
  simp only [macroCall,postBind,postNext,postExpect,postFuel,postPure]
  intro _
  have item : Yields (do let arg ← expect .string; return Node.leaf Kind.macroArg arg.literal)
      fun n => ∃ t, n = Node.leaf Kind.macroArg t := by
    intro c spelled
    simp only [postBind,postExpect,postPure]
    exact fun _ => ⟨⟨_,rfl⟩,spelled.rest⟩
  refine (listYields item _ _ spelled.rest.rest).imp fun ns c' h _ => ⟨?_,h.2.rest⟩
  obtain ⟨args,rfl⟩ := mapOfEach h.1
  exact ⟨args,rfl⟩

/-- A form whose calls name one of the macros. -/
def Form.Calls (macros : List Text) : Form → Prop
  | .call name _ => name ∈ macros
  | _ => True

theorem queryPost (macros : List Text) {c : Cursor} (spelled : c.Spelled) :
    Post c (query macros) fun n c' => (∃ q : Form, n = q.node ∧ q.Calls macros) ∧ c'.ahead = [] := by
  simp only [query,postBind,postCurrent,postPeek,postIte,postFail,postPure,implies_true,and_true]
  refine ⟨fun call => ?_,fun _ => ⟨fun _ => ?_,fun _ => ?_⟩⟩
  · refine (macroCallPost spelled).imp fun n c' h end_ => ⟨?_,h.2.done end_⟩
    obtain ⟨args,same⟩ := h.1
    exact ⟨.call _ args,by rw [same]; rfl,call.2.1⟩
  · refine (selectorExprYields _ _ _ spelled).imp fun ns c' h end_ => ⟨?_,h.2.done end_⟩
    obtain ⟨s,rfl⟩ := h.1
    exact ⟨.rows s,rfl,trivial⟩
  · refine (aggStatementPost _ spelled).imp fun n c' h => ?_
    refine (comparisonYields _ h.2.2).imp fun ns c'' more end_ => ⟨?_,more.2.done end_⟩
    obtain ⟨m,ranking,rfl,_⟩ := h.2.1
    obtain ⟨t,rfl⟩ := more.1
    exact ⟨.matrix m ranking t,rfl,trivial⟩

/-- A tree is read from the tokens of its text. -/
theorem parseRun {macros : List Text} {t : Text} {root : Node} (ok : parse macros t = .ok root) :
    ∃ ts left, tokenize t = .ok ts ∧ (query macros).run ⟨ts.tokens,ts.eof⟩ = .ok (root,left) := by
  unfold parse at ok
  split at ok
  · contradiction
  obtain ⟨ts,tokens,ok⟩ := bindOk ok
  obtain ⟨⟨n,left⟩,read,ok⟩ := bindOk ok
  cases ok
  exact ⟨ts,left,tokens,read⟩

theorem tokenizeCursor {t : Text} {ts : Tokens} (ok : tokenize t = .ok ts) :
    Cursor.Spelled ⟨ts.tokens,ts.eof⟩ :=
  ⟨tokenizeSpelled ok,fun symbol => by contradiction,tokenizeWords ok⟩

/-- Every tree that is read is the tree of a form. -/
theorem parseForm {macros : List Text} {t : Text} {root : Node} (ok : parse macros t = .ok root) :
    ∃ q : Form, root = q.node ∧ q.Calls macros := by
  obtain ⟨ts,left,tokens,read⟩ := parseRun ok
  exact (queryPost macros (tokenizeCursor tokens) root left read).1

/-- Tokens lie in the bytes before the first zero byte, and a tree is read from all of them. -/
theorem readUpToZero (macros : List Text) (t : Text) :
    (∀ ts, tokenize t = .ok ts → ∃ read ignored, Text.glyphs t = read ++ ignored ∧
      Layout ts.tokens read ∧ Text.ofGlyphs read = t.takeWhile (· ≠ 0) ∧
      Text.ofGlyphs ignored = t.dropWhile (· ≠ 0) ∧ (ignored = [] ↔ 0 ∉ t)) ∧
    ∀ root, parse macros t = .ok root → ∃ ts left, tokenize t = .ok ts ∧
      (query macros).run ⟨ts.tokens,ts.eof⟩ = .ok (root,left) ∧ left.ahead = [] := by
  refine ⟨fun ts ok => ?_,fun root ok => ?_⟩
  · have upTo := (tokenizeUpToZero ok).bytes
    rwa [Text.ofGlyphsText] at upTo
  · obtain ⟨ts,left,tokens,read⟩ := parseRun ok
    exact ⟨ts,left,tokens,read,(queryPost macros (tokenizeCursor tokens) root left read).2⟩

/-- A selector, and behind a zero byte a filter of its lines. -/
def hiddenFilter : Text := "\x7bapp=\"api\"\x7d\x00 |= \"error\""

theorem hiddenFilterIgnored : ∃ ts root, tokenize hiddenFilter = .ok ts ∧
    parse [] hiddenFilter = .ok root ∧ ∃ read ignored,
      Text.glyphs hiddenFilter = read ++ ignored ∧ Layout ts.tokens read ∧
      Text.ofGlyphs ignored = ("\x00 |= \"error\"" : Text) := by
  obtain ⟨root,ok,_⟩ := okAny (x := parse [] hiddenFilter) (p := fun _ => true) (by decide +kernel)
  obtain ⟨ts,left,tokens,_⟩ := (readUpToZero [] hiddenFilter).2 root ok
  obtain ⟨read,ignored,chars,layout,_,rest,_⟩ := (readUpToZero [] hiddenFilter).1 ts tokens
  exact ⟨ts,root,tokens,ok,read,ignored,chars,layout,by rw [rest]; decide +kernel⟩

end LogSql.Query
