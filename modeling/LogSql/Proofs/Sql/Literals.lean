import LogSql.Sql.Literal

/-! Literals and what follows them. A reader that knows the escapes of the dialect and ends a literal at
its first unescaped quote finds the text that was written, and the rest behind it, whatever both are:
no text ends its literal early. Where two quotes inside a literal stand for one, the rest must not
start with a quote. -/
namespace LogSql.Sql

/-! ### Escapes -/

/-- The bytes behind a backslash, each with the byte that both stand for. -/
def signs : List (UInt8 × UInt8) :=
  [(Text.byte '\\', Text.byte '\\'), (Text.byte '\'', Text.byte '\''), (Text.byte 'n', 10),
    (Text.byte 'r', 13), (Text.byte 't', 9), (Text.byte '0', 0)]

/-- How a byte stands in a literal: behind a backslash by its sign, or as it is. -/
inductive Escaped : UInt8 → Text → Prop where
  | sign (x : UInt8) {b : UInt8} (stands : signs.lookup x = some b) : Escaped b [Text.byte '\\', x]
  | plain {b : UInt8} (slash : b ≠ Text.byte '\\') (quote : b ≠ Text.byte '\'') : Escaped b [b]

theorem byteEscaped (b : UInt8) : Escaped b (escapeByte b) := by
  unfold escapeByte
  split
  · rename_i slash
    exact slash ▸ .sign (Text.byte '\\') rfl
  rename_i slash
  split
  · rename_i quote
    exact quote ▸ .sign (Text.byte '\'') rfl
  rename_i quote
  split
  · rename_i line
    exact line ▸ .sign (Text.byte 'n') rfl
  split
  · rename_i back
    exact back ▸ .sign (Text.byte 'r') rfl
  split
  · rename_i tab
    exact tab ▸ .sign (Text.byte 't') rfl
  split
  · rename_i zero
    exact zero ▸ .sign (Text.byte '0') rfl
  · exact .plain slash quote

/-! ### Reading -/

/-- What a literal stands for and what follows it, read behind its opening quote. A backslash must
stand before a known sign; where quotes may be doubled, two of them stand for one. -/
def readBody (doubled : Bool) : Text → Option (Text × Text)
  | [] => none
  | b :: rest =>
    if b = Text.byte '\\' then
      match rest with
      | [] => none
      | sign :: rest =>
        (signs.lookup sign).bind fun value => (readBody doubled rest).map fun r => (value :: r.1, r.2)
    else if b = Text.byte '\'' then
      match rest with
      | [] => some ([], [])
      | next :: rest =>
        if doubled && next = Text.byte '\'' then (readBody doubled rest).map fun r => (b :: r.1, r.2)
        else some ([], next :: rest)
    else (readBody doubled rest).map fun r => (b :: r.1, r.2)

/-- The text of the literal that stands at the start, and what follows it. -/
def readLiteral (doubled : Bool) : Text → Option (Text × Text)
  | [] => none
  | b :: rest => if b = Text.byte '\'' then readBody doubled rest else none

section Reading

variable {doubled : Bool} {s t rest left : Text}

theorem signRead {sign b : UInt8} (stands : signs.lookup sign = some b) (rest : Text) :
    readBody doubled (Text.byte '\\' :: sign :: rest) =
      (readBody doubled rest).map fun r => (b :: r.1, r.2) := by
  rw [readBody,if_pos rfl,stands]
  rfl

theorem plainRead {b : UInt8} (slash : b ≠ Text.byte '\\') (quote : b ≠ Text.byte '\'')
    (rest : Text) :
    readBody doubled (b :: rest) = (readBody doubled rest).map fun r => (b :: r.1, r.2) := by
  rw [readBody.eq_def]
  exact (if_neg slash).trans (if_neg quote)

theorem escapedRead {b : UInt8} {written : Text} (escaped : Escaped b written) (rest : Text) :
    readBody doubled (written ++ rest) = (readBody doubled rest).map fun r => (b :: r.1, r.2) := by
  cases escaped with
  | sign x stands => exact signRead stands rest
  | plain slash quote => exact plainRead slash quote rest

theorem closingRead (apart : doubled = true → rest.head? ≠ some (Text.byte '\'')) :
    readBody doubled (Text.byte '\'' :: rest) = some ([], rest) := by
  cases rest with
  | nil => rfl
  | cons next rest =>
    rw [readBody,if_neg (by decide),if_pos rfl]
    have single : (doubled && decide (next = Text.byte '\'')) = false := by
      cases doubled with
      | false => rfl
      | true => simpa using apart rfl
    simp only [single,Bool.false_eq_true,if_false]

theorem bodyRead (s : Text) (apart : doubled = true → rest.head? ≠ some (Text.byte '\'')) :
    readBody doubled (s.flatMap escapeByte ++ Text.byte '\'' :: rest) = some (s, rest) := by
  induction s with
  | nil => exact closingRead apart
  | cons b s ih => rw [List.flatMap_cons,List.append_assoc,escapedRead (byteEscaped b),ih]; rfl

theorem literalRead (s : Text) (apart : doubled = true → rest.head? ≠ some (Text.byte '\'')) :
    readLiteral doubled (literal s ++ rest) = some (s, rest) := by
  rw [literal,List.append_assoc,List.cons_append,readLiteral,if_pos rfl,List.singleton_append]
  exact bodyRead s apart

/-! ### Ends of literals -/

/-- A literal that has ended stays as it is, whatever is put behind its text. -/
theorem bodyExtends (ok : readBody false t = some (s, left)) (more : Text) :
    readBody false (t ++ more) = some (s, left ++ more) := by
  fun_induction readBody false t generalizing s with
  | case1 => contradiction
  | case2 => contradiction
  | case3 sign rest ih =>
    obtain ⟨value,stands,ok⟩ := Option.bind_eq_some_iff.mp ok
    obtain ⟨⟨tail,_⟩,read,same⟩ := Option.map_eq_some_iff.mp ok
    cases same
    rw [List.cons_append,List.cons_append,signRead stands,ih read]
    rfl
  | case4 =>
    cases ok
    exact closingRead (by simp)
  | case5 next rest twice => simp at twice
  | case6 =>
    cases ok
    exact closingRead (by simp)
  | case7 b rest slash quote ih =>
    obtain ⟨⟨tail,_⟩,read,same⟩ := Option.map_eq_some_iff.mp ok
    cases same
    rw [List.cons_append,plainRead slash quote,ih read]
    rfl

/-- Where quotes may be doubled a literal ends no earlier than where they may not. -/
theorem bodyEnds {r : Text × Text} (ok : readBody doubled t = some r) :
    ∃ s left, readBody false t = some (s, left) := by
  fun_induction readBody doubled t generalizing r with
  | case1 => contradiction
  | case2 => contradiction
  | case3 sign rest ih =>
    obtain ⟨value,stands,ok⟩ := Option.bind_eq_some_iff.mp ok
    obtain ⟨_,read,_⟩ := Option.map_eq_some_iff.mp ok
    obtain ⟨s,left,later⟩ := ih read
    exact ⟨value :: s,left,by rw [signRead stands,later]; rfl⟩
  | case4 => exact ⟨[],[],closingRead (by simp)⟩
  | case5 next rest _ ih => exact ⟨[],_,closingRead (by simp)⟩
  | case6 next rest => exact ⟨[],_,closingRead (by simp)⟩
  | case7 b rest slash quote ih =>
    obtain ⟨_,read,_⟩ := Option.map_eq_some_iff.mp ok
    obtain ⟨s,left,later⟩ := ih read
    exact ⟨b :: s,left,by rw [plainRead slash quote,later]; rfl⟩

theorem literalEnds {r : Text × Text} (ok : readLiteral doubled t = some r) :
    ∃ s left, ∀ more, readLiteral false (t ++ more) = some (s, left ++ more) := by
  cases t with
  | nil => contradiction
  | cons b t =>
    rw [readLiteral] at ok
    split at ok
    · rename_i quote
      obtain ⟨s,left,read⟩ := bodyEnds ok
      refine ⟨s,left,fun more => ?_⟩
      rw [List.cons_append,readLiteral,if_pos quote,bodyExtends read]
    · contradiction

end Reading

/-- A literal is read back with what follows it, and it cannot be read before its end: texts with
literals in front are the same only when the literals and what follows them are. -/
theorem literalsDelimited (doubled : Bool) (s rest : Text)
    (apart : doubled = true → rest.head? ≠ some (Text.byte '\'')) :
    readLiteral doubled (literal s ++ rest) = some (s, rest) ∧
    (∀ front back, literal s = front ++ back → back ≠ [] → readLiteral doubled front = none) ∧
    ∀ other behind, literal s ++ rest = literal other ++ behind → other = s ∧ behind = rest := by
  refine ⟨literalRead s apart,fun front back whole more => ?_,fun other behind same => ?_⟩
  · refine Option.eq_none_iff_forall_ne_some.mpr fun r early => ?_
    obtain ⟨t,left,ended⟩ := literalEnds early
    -- The plain reader takes the whole literal, so that nothing is left of it.
    have all : readLiteral false (literal s) = some (s, []) := by
      rw [← List.append_nil (literal s)]
      exact literalRead s (by simp)
    have read := ended back
    rw [← whole,all] at read
    obtain ⟨_,none⟩ := Prod.mk.inj (Option.some.inj read)
    exact more (List.append_eq_nil_iff.mp none.symm).2
  · have read : readLiteral false (literal s ++ rest) = some (s, rest) := literalRead s (by simp)
    rw [same,literalRead other (by simp)] at read
    exact Prod.mk.inj (Option.some.inj read)

/-- A text of quotes, backslashes and bytes that are no characters. -/
def quoteBreaker : Text := Text.ofString "\\' OR '1'='1\n\\" ++ [0, 255]

/-- It does not break out of its literal, whether quotes may be doubled or not. -/
theorem breakerDelimited : (Text.ofString " AND 1").head? ≠ some (Text.byte '\'') ∧
    ∀ doubled, readLiteral doubled (literal quoteBreaker ++ " AND 1") =
      some (quoteBreaker, Text.ofString " AND 1") := by
  have apart : (Text.ofString " AND 1").head? ≠ some (Text.byte '\'') := by decide
  exact ⟨apart,fun doubled => (literalsDelimited doubled quoteBreaker " AND 1" fun _ => apart).1⟩

end LogSql.Sql
