import LogSql.Proofs.Compile.Families
import LogSql.Proofs.Query.Reading
import LogSql.Proofs.Text.Fields

/-! Macro calls in query texts. A text is a call when it starts with the name of a macro and an opening
parenthesis; every other text is read as if there were no macros, and so is a text that is a query
without them, as long as no macro is named like a function of the language. -/
namespace LogSql.Query

open Parse

/-! ### Texts that are calls -/

/-- A token without its place. -/
def Token.word (t : Token) : TokenKind × Text := (t.kind, t.literal)

/-- The arguments of a call with commas between them. -/
def argumentWords : List Text → List (TokenKind × Text)
  | [] => []
  | [v] => [(.string, v)]
  | v :: w :: rest => (.string, v) :: (.comma, ",") :: argumentWords (w :: rest)

/-- A call of a macro, word by word. -/
def callWords (name : Text) (values : List Text) : List (TokenKind × Text) :=
  (.identifier, name) :: (.leftParen, "(") ::
    (argumentWords values ++ [(TokenKind.rightParen, Text.ofString ")")])

/-- An argument of a call. -/
def argument : Parse Node := do
  let arg ← expect .string
  return Node.leaf Kind.macroArg arg.literal

section Runs

variable {α β : Type} {c c' : Cursor} {t stop : Token} {ts : List Token}

theorem runBind {p : Parse α} {a : α} (first : p c = .ok (a, c')) (f : α → Parse β) :
    (p >>= f) c = f a c' := by
  simp only [bind,StateT.bind,first]
  rfl

theorem runPeek {n : Nat} : peek n c = .ok (c.token n, c) := rfl

theorem runCurrent : current c = .ok (c.token 0, c) := rfl

theorem runIs (kind : TokenKind) :
    is kind ⟨t :: ts,stop⟩ = .ok (decide (t.kind = kind), ⟨t :: ts,stop⟩) := rfl

theorem runNext : next ⟨t :: ts,stop⟩ = .ok (t, ⟨ts,stop⟩) := rfl

theorem runFuel : fuel c = .ok (c.ahead.length + 1, c) := rfl

theorem runExpect {kind : TokenKind} (found : t.kind = kind) :
    expect kind ⟨t :: ts,stop⟩ = .ok (t, ⟨ts,stop⟩) := by
  have same : expect kind ⟨t :: ts,stop⟩ = (if t.kind = kind then next else failAt t (.expected kind t))
    ⟨t :: ts,stop⟩ := rfl
  rw [same,if_pos found,runNext]

theorem runArgument (kind : t.kind = .string) :
    argument ⟨t :: ts,stop⟩ = .ok (Node.leaf Kind.macroArg t.literal, ⟨ts,stop⟩) := by
  rw [argument,runBind (runExpect kind)]
  rfl

theorem runFirst {n : Nat} (kind : t.kind = .string) :
    listBeforeParen argument (n + 1) ⟨t :: ts,stop⟩ = (do
      if ← is .comma then
        let _ ← next
        return Node.leaf Kind.macroArg t.literal :: (← listBeforeParen argument n)
      return [Node.leaf Kind.macroArg t.literal] : Parse (List Node)) ⟨ts,stop⟩ := by
  have other : decide (t.kind = .rightParen) = false := by rw [kind]; rfl
  rw [listBeforeParen,runBind (runIs .rightParen),other]
  exact runBind (runArgument kind) _

theorem runLast {n : Nat} (kind : t.kind = .string) {close : Token} (closes : close.kind = .rightParen) :
    listBeforeParen argument (n + 1) ⟨t :: close :: ts,stop⟩ =
      .ok ([Node.leaf Kind.macroArg t.literal], ⟨close :: ts,stop⟩) := by
  have other : decide (close.kind = .comma) = false := by rw [closes]; rfl
  rw [runFirst kind,runBind (runIs .comma),other]
  rfl

theorem runMore {n : Nat} (kind : t.kind = .string) {comma : Token} (separates : comma.kind = .comma)
    {list : List Node} (later : listBeforeParen argument n ⟨ts,stop⟩ = .ok (list, c)) :
    listBeforeParen argument (n + 1) ⟨t :: comma :: ts,stop⟩ =
      .ok (Node.leaf Kind.macroArg t.literal :: list, c) := by
  rw [runFirst kind,runBind (runIs .comma),decide_eq_true separates,if_pos rfl,runBind runNext,
    runBind later]
  rfl

/-- Arguments are read up to the parenthesis behind them. -/
theorem runArguments {values : List Text} {ahead : List Token} {close : Token}
    (words : ahead.map Token.word = argumentWords values) (closes : close.kind = .rightParen) {n : Nat}
    (enough : ahead.length ≤ n) :
    listBeforeParen argument (n + 1) ⟨ahead ++ close :: ts,stop⟩ =
      .ok (values.map (Node.leaf Kind.macroArg), ⟨close :: ts,stop⟩) := by
  -- The words of a list depend on its next two values: the last one has no comma behind it.
  induction values generalizing ahead n with
  | nil =>
    obtain rfl := List.map_eq_nil_iff.mp words
    rw [listBeforeParen,List.nil_append,runBind (runIs .rightParen),decide_eq_true closes]
    rfl
  | cons v values ih =>
    cases values with
    | nil =>
      obtain ⟨t,rest,rfl,word,none⟩ := List.map_eq_cons_iff.mp words
      obtain rfl := List.map_eq_nil_iff.mp none
      obtain ⟨kind,rfl⟩ := Prod.mk.inj word
      exact runLast kind closes
    | cons w values =>
      obtain ⟨t,rest,rfl,word,more⟩ := List.map_eq_cons_iff.mp words
      obtain ⟨comma,rest,rfl,separator,more⟩ := List.map_eq_cons_iff.mp more
      obtain ⟨kind,rfl⟩ := Prod.mk.inj word
      simp only [List.length_cons] at enough
      obtain ⟨n,rfl⟩ := Nat.exists_eq_add_of_le' (Nat.le_of_add_left_le enough)
      exact runMore kind (Prod.mk.inj separator).1 (@ih rest more n (by omega))

/-- A call is read from its words when its name is that of a macro. -/
theorem runQuery {macros : List Text} {name : Text} {values : List Text} (known : name ∈ macros)
    (words : ts.map Token.word = callWords name values) (ends : stop.kind = .eof) :
    query macros ⟨ts,stop⟩ = .ok ((Form.call name values).node, ⟨[],stop⟩) := by
  obtain ⟨first,ts,rfl,word,behind⟩ := List.map_eq_cons_iff.mp words
  obtain ⟨paren,ts,rfl,opening,inside⟩ := List.map_eq_cons_iff.mp behind
  obtain ⟨ahead,last,rfl,arguments,closing⟩ := List.map_eq_append_iff.mp inside
  obtain ⟨close,none,rfl,closed,rest⟩ := List.map_eq_cons_iff.mp closing
  obtain rfl := List.map_eq_nil_iff.mp rest
  obtain ⟨kind,rfl⟩ := Prod.mk.inj word
  have opens := (Prod.mk.inj opening).1
  have closes := (Prod.mk.inj closed).1
  have list : listBeforeParen argument ((ahead ++ [close]).length + 1) ⟨ahead ++ [close],stop⟩ =
      .ok (values.map (Node.leaf Kind.macroArg), ⟨[close],stop⟩) :=
    runArguments arguments closes (by simp)
  have call : macroCall ⟨first :: paren :: (ahead ++ [close]),stop⟩ =
      .ok (.mk Kind.userMacro first.literal
        [.mk first.literal first.literal (values.map (Node.leaf Kind.macroArg))], ⟨[],stop⟩) := by
    rw [macroCall,runBind runNext,runBind (runExpect opens),runBind runFuel]
    exact (runBind list _).trans (runBind (runExpect closes) _)
  have whole : query macros ⟨first :: paren :: (ahead ++ [close]),stop⟩ = (macroCall >>= fun n => do
      let stop ← current
      unless stop.kind = .eof do failAt stop (.unexpected stop)
      return Node.mk Kind.root [] [n]) ⟨first :: paren :: (ahead ++ [close]),stop⟩ := by
    rw [query]
    refine (runBind (a := first) rfl _).trans ((runBind (a := paren) rfl _).trans ?_)
    rw [if_pos ⟨kind,known,opens⟩]
    rfl
  rw [whole,runBind call]
  refine (runBind (a := stop) rfl _).trans ?_
  rw [if_pos ends]
  rfl

end Runs

theorem blankTokens {gs : List Glyph} (blank : ∀ g ∈ gs, Text.isSpace g.char = true) (at_ : Position) :
    ∃ stop, tokensFrom 0 at_ gs = .ok ⟨[],stop⟩ := by
  induction gs generalizing at_ with
  | nil => exact ⟨at_,rfl⟩
  | cons g gs ih =>
    obtain ⟨first,others⟩ := List.forall_mem_cons.mp blank
    simpa [tokensFrom,first] using ih others (at_.after g.char)

/-- A text that is spelled like a call of a macro is read as that call. -/
theorem callRead {macros : List Text} {name : Text} {values : List Text} {t : Text} {ts : Tokens}
    (known : name ∈ macros) (tokens : tokenize t = .ok ts)
    (words : ts.tokens.map Token.word = callWords name values) :
    parse macros t = .ok (Form.call name values).node := by
  have some : ¬ (Text.trim t).isEmpty = true := by
    intro blank
    obtain ⟨stop,none⟩ := blankTokens (Text.trimBlank blank) .start
    obtain rfl := Except.ok.inj (tokens.symm.trans none)
    simp [callWords] at words
  have read : query macros ⟨ts.tokens,ts.eof⟩ = .ok ((Form.call name values).node, ⟨[],ts.eof⟩) :=
    runQuery known words rfl
  unfold parse
  rw [if_neg some,tokens]
  simp only [bind,Except.bind,StateT.run,read]
  rfl

/-! ### Texts without calls -/

/-- The tokens ahead start a call of a macro. -/
def Cursor.Calls (macros : List Text) (c : Cursor) : Prop :=
  (c.token 0).kind = .identifier ∧ (c.token 0).literal ∈ macros ∧ (c.token 1).kind = .leftParen

theorem queryCalls (macros : List Text) {c : Cursor} (spelled : c.Spelled) :
    Post c (query macros) fun n _ => n.find? Kind.userMacro ≠ none → c.Calls macros := by
  simp only [query,postBind,postCurrent,postPeek,postIte,postFail,postPure,implies_true,and_true]
  refine ⟨fun call => ?_,fun _ => ⟨fun _ => ?_,fun _ => ?_⟩⟩
  · exact fun _ _ _ _ _ => call
  · refine (selectorExprYields _ _ _ spelled).imp fun ns c' h _ called => ?_
    obtain ⟨s,rfl⟩ := h.1
    exact absurd (Form.rowsNoCall s) called
  · refine (aggStatementPost _ spelled).imp fun n c' h => ?_
    refine (comparisonYields _ h.2.2).imp fun ns c'' more _ called => ?_
    obtain ⟨m,ranking,rfl,_⟩ := h.2.1
    obtain ⟨t,rfl⟩ := more.1
    exact absurd (Form.matrixNoCall m ranking t) called

/-- All but strings are written as their literal. -/
theorem Spells.literal {kind : TokenKind} {literal : Text} {gs : List Glyph}
    (spells : Spells kind literal gs) (word : kind ≠ .string) : Text.ofGlyphs gs = literal := by
  cases spells with
  | written => rfl
  | quoted => exact absurd rfl word
  | raw => exact absurd rfl word

/-- A text that is read as a call is written like one: the name of a macro and an opening parenthesis,
with nothing but white space before and between them. -/
theorem calledText {macros : List Text} {t : Text} {root : Node}
    (ok : parse macros (Text.trim t) = .ok root) (called : root.find? Kind.userMacro ≠ none) :
    ∃ name ∈ macros, ∃ front gap more, t = front ++ (name ++ (gap ++ Text.byte '(' :: more)) ∧
      (∀ b ∈ front, Text.SpaceByte b) ∧ ∀ b ∈ gap, Text.SpaceByte b := by
  obtain ⟨ts,left,tokens,read⟩ := parseRun ok
  obtain ⟨word,known,opens⟩ := queryCalls macros (tokenizeCursor tokens) root left read called
  obtain ⟨inside,ignored,whole,layout,_⟩ := tokenizeUpToZero tokens
  obtain ⟨start,stop,same,spaces⟩ := Text.trimBytes t
  have decoded : ∀ g ∈ inside, Text.Decoded g := fun g mem =>
    Text.glyphsFromDecoded 0 (Text.trim t) g (show g ∈ Text.glyphs _ by simp [whole,mem])
  have bytes := Text.ofGlyphsText (Text.trim t)
  rw [whole] at bytes
  -- The layout of the tokens says where the first two of them stand in the text.
  generalize ts.tokens = ahead at word known opens layout
  cases layout with
  | blanks => simp [Cursor.token,Tokens.eof] at word
  | @token first ahead blanks spelling rest blank spells more =>
    cases more with
    | blanks => simp [Cursor.token,Tokens.eof] at opens
    | @token second ahead blanks' spelling' rest' blank' spells' more' =>
      have word : first.kind = .identifier := word
      have opens : second.kind = .leftParen := opens
      have name := spells.literal (by simp [word])
      have paren : Text.ofGlyphs spelling' = [Text.byte '('] := by
        rw [spells'.literal (by simp [opens]),spells'.symbol (by rw [opens]; rfl),opens]
        rfl
      have before {gs : List Glyph} (blank : ∀ g ∈ gs, Text.isSpace g.char = true)
          (inside : ∀ g ∈ gs, Text.Decoded g) := Text.allSpaceBytes inside blank
      refine ⟨first.literal,known,start ++ Text.ofGlyphs blanks,Text.ofGlyphs blanks',
        Text.ofGlyphs rest' ++ (Text.ofGlyphs ignored ++ stop),?_,?_,?_⟩
      · rw [same,← bytes]
        simp only [Text.ofGlyphs,List.flatMap_append] at name paren ⊢
        simp [name,paren]
      · exact List.forall_mem_append.mpr ⟨spaces,before blank fun g mem => decoded g (by simp [mem])⟩
      · exact before blank' fun g mem => decoded g (by simp [mem])

/-- Macros matter only for whether a call starts. -/
theorem queryAlike {macros others : List Text} {c : Cursor}
    (same : c.Calls macros ↔ c.Calls others) : query macros c = query others c := by
  have known : (_ ∧ _ ∧ _) ↔ (_ ∧ _ ∧ _) := same
  rw [query,query,runBind runCurrent,runBind runCurrent,runBind runPeek,runBind runPeek]
  simp only [known]

theorem queryPlain {macros : List Text} {c : Cursor} (plain : ¬ c.Calls macros) :
    query macros c = query [] c :=
  queryAlike (iff_of_false plain fun none => List.not_mem_nil none.2.1)

/-- The names that a statement can start with. -/
def statementFunctions : List Text :=
  logRangeFunctions ++ unwrapFunctions ++ parameterizedUnwrappedFunctions ++ aggregationFunctions ++
    parameterizedFunctions

theorem postTrue {α : Type} {c : Cursor} (p : Parse α) : Post c p fun _ _ => True :=
  fun _ _ _ => trivial

theorem statementStarts (room : Nat) {c : Cursor} :
    Post c (aggStatement room) fun _ _ => (c.token 0).literal ∈ statementFunctions := by
  cases room with
  | zero => simp [aggStatement]
  | succ room =>
    simp only [aggStatement,postBind,postCurrent,postIte,postFail,postPure,implies_true,and_true]
    refine fun _ => ⟨fun aggregation => ?_,fun _ => ⟨fun ranking => ?_,fun _ range => ?_⟩⟩
    · exact (postTrue _).imp fun _ _ _ => by simp [statementFunctions,aggregation]
    · exact (postTrue _).imp fun _ _ _ => by simp [statementFunctions,ranking]
    · refine (postTrue _).imp fun _ _ _ => ?_
      rcases range with log | unwrap | quantile
      · simp [statementFunctions,log]
      · simp [statementFunctions,unwrap]
      · simp [statementFunctions,quantile]

/-- A query starts with a brace or with a function. -/
theorem queryStarts {c : Cursor} :
    Post c (query []) fun _ _ => (c.token 0).kind = .leftBrace ∨
      (c.token 0).literal ∈ statementFunctions := by
  simp only [query,postBind,postCurrent,postPeek,postIte,postFail,postPure,implies_true,and_true]
  refine ⟨fun call => ?_,fun _ => ⟨fun brace => ?_,fun _ => ?_⟩⟩
  · exact absurd call.2.1 List.not_mem_nil
  · exact (postTrue _).imp fun _ _ _ _ => .inl brace
  · exact (statementStarts _).imp fun _ _ known => (postTrue _).imp fun _ _ _ _ => .inr known

end LogSql.Query
