import LogSql.Proofs.Template.Fields
import LogSql.Proofs.Text.Strings

/-! Templates that quote a field between two texts. Such a template is read as these three parts, and it prints
the texts with the quoted value between them. -/
namespace LogSql.Template

/-! ### Words -/

theorem wordParts (b : UInt8) :
    Text.isNamePart b = true → b < 0x80 ∧ isWordChar (Char.ofNat b.toNat) = true :=
  @Text.everyByte (fun b => Text.isNamePart b = true →
    b < 0x80 ∧ isWordChar (Char.ofNat b.toNat) = true) (by decide +kernel) b

theorem wordTaken {name : Text} (parts : ∀ b ∈ name, Text.isNamePart b = true) {x : UInt8}
    (small : x < 0x80) (ends : isWordChar (Char.ofNat x.toNat) = false) (rest : Text) :
    takeWord (name ++ x :: rest) = (name, x :: rest) := by
  have run := Text.asciiRun (fun b mem => wordParts b (parts b mem)) small ends rest
  rw [takeWord,run,Text.ofGlyphsText,List.drop_left]

/-! ### Reading -/

variable {n d : Nat} {b : UInt8} {rest after : Text} {token : Token}

theorem scanToken (inside : closing? (b :: rest) = none) (ink : isBlank b = false)
    (read : actionToken b rest = some (token, after))
    (plain : token ≠ .leftParen ∧ token ≠ .rightParen) :
    scan (n + 1) (some d) (b :: rest) = (scan n (some d) after).map (token :: ·) := by
  rw [scan,inside]
  simp only [ink,read,Bool.false_eq_true,if_false,Option.bind_eq_bind,Option.bind_some]
  cases token with
  | leftParen => exact absurd rfl plain.1
  | rightParen => exact absurd rfl plain.2
  | _ => cases scan n (some d) after <;> rfl

theorem scanSpace (inside : closing? (b :: rest) = none) (blank : isBlank b = true)
    (ink : rest.dropWhile isBlank = rest)
    (apart : (Text.ofString "-\x7d\x7d").isPrefixOf rest = false) :
    scan (n + 1) (some d) (b :: rest) = (scan n (some d) rest).map (.space :: ·) := by
  rw [scan,inside]
  simp only [blank,ink,apart,Bool.false_eq_true,if_false,if_true]
  cases scan n (some d) rest <;> rfl

theorem scanClose (closes : closing? (b :: rest) = some (false, after)) :
    scan (n + 1) (some 0) (b :: rest) = (scan n none after).map (.rightDelim :: ·) := by
  rw [scan,closes]
  show (scan n none after).bind _ = _
  cases scan n none after <;> rfl

theorem scanText {t before : Text} {c : UInt8}
    (cut : Text.cut "\x7b\x7b" t = some (before, b :: c :: rest)) (filled : before ≠ [])
    (untrimmed : b ≠ Text.byte '-') (action : Text.stripStart "/*" (b :: c :: rest) = none) :
    scan (n + 1) none t = (scan n (some 0) (b :: c :: rest)).map (.text before :: .leftDelim :: ·) := by
  have kept : before.isEmpty = false := by simpa using filled
  rw [scan,cut]
  simp only [untrimmed,decide_false,Bool.false_and,Bool.false_eq_true,if_false,action,kept]
  cases scan n (some 0) (b :: c :: rest) <;> rfl

theorem scanLast {t : Text} (plain : Text.cut "\x7b\x7b" t = none) (filled : t ≠ []) :
    scan (n + 1) none t = some [.text t] := by
  rw [scan,plain]
  simp [filled]

theorem quoteWord (rest : Text) : actionToken (Text.byte 'q') (Text.ofString "uote" ++ 32 :: rest) =
    some (.identifier "quote", 32 :: rest) := by
  have taken : takeWord (Text.byte 'q' :: (Text.ofString "uote" ++ 32 :: rest)) =
      (Text.ofString "quote", 32 :: rest) :=
    @wordTaken "quote" (List.all_eq_true.mp (by decide)) 32 (by decide) (by decide) rest
  unfold actionToken
  iterate 7 refine (if_neg (by decide)).trans ?_
  refine (if_neg fun both => absurd both.1 (by decide)).trans ((if_neg (by decide)).trans ?_)
  rw [namedToken,taken]
  rfl

theorem startDecimal (b : UInt8) : Text.isNameStart b = true → Text.isDecimal b = false :=
  @Text.everyByte (fun b => Text.isNameStart b = true → Text.isDecimal b = false) (by decide +kernel) b

theorem fieldWord {field : Text} (named : Text.isName field = true) (rest : Text) :
    actionToken (Text.byte '.') (field ++ Text.byte '\x7d' :: Text.byte '\x7d' :: rest) =
      some (.field field, Text.byte '\x7d' :: Text.byte '\x7d' :: rest) := by
  obtain ⟨b,bs,rfl,start,parts⟩ := Text.nameParts named
  have taken := wordTaken parts (x := Text.byte '\x7d') (by decide) (by decide)
    (Text.byte '\x7d' :: rest)
  unfold actionToken
  iterate 7 refine (if_neg (by decide)).trans ?_
  refine (if_pos ⟨rfl,by simp [startDecimal b start]⟩).trans ?_
  rw [namedToken,taken]
  rfl

/-- A template that quotes a field between two texts. -/
def quotedField (front field back : Text) : Text :=
  front ++ (Text.ofString "\x7b\x7b" ++ (Text.ofString "quote ." ++
    (field ++ (Text.ofString "\x7d\x7d" ++ back))))

/-- The parts of such a template. -/
def quotedParts (front field back : Text) : List Part :=
  [.text front, .action ⟨false,[],[[.function "quote", .field [field]]]⟩, .text back]

section Quoted

variable {front field back : Text} (opens : Text.cut "\x7b\x7b" (quotedField front field back) =
    some (front, Text.ofString "quote ." ++ (field ++ (Text.ofString "\x7d\x7d" ++ back))))
  (filled : front ≠ []) (named : Text.isName field = true) (closes : Text.cut "\x7b\x7b" back = none)
  (more : back ≠ [])

include opens filled named closes more

theorem quotedTokens : tokens (quotedField front field back) = some [.text front, .leftDelim,
    .identifier "quote", .space, .field field, .rightDelim, .text back] := by
  obtain ⟨n,fuel⟩ : ∃ n, 2 * (quotedField front field back).length + 2 = n + 7 := by
    refine ⟨2 * (quotedField front field back).length - 5,?_⟩
    have braces : (Text.ofString "\x7b\x7b").length = 2 := by decide
    have call : (Text.ofString "quote .").length = 7 := by decide
    simp only [quotedField,List.length_append,braces,call]
    omega
  have quote : scan (n + 6) (some 0) (Text.byte 'q' :: (Text.ofString "uote" ++ 32 :: Text.byte '.' ::
      (field ++ Text.byte '\x7d' :: Text.byte '\x7d' :: back))) = _ :=
    scanToken rfl (by decide) (quoteWord _) (by simp)
  have space : scan (n + 5) (some 0) (32 :: Text.byte '.' ::
      (field ++ Text.byte '\x7d' :: Text.byte '\x7d' :: back)) = _ :=
    scanSpace rfl (by decide) rfl rfl
  have word : scan (n + 4) (some 0) (Text.byte '.' ::
      (field ++ Text.byte '\x7d' :: Text.byte '\x7d' :: back)) = _ :=
    scanToken rfl (by decide) (fieldWord named back) (by simp)
  have close : scan (n + 3) (some 0) (Text.byte '\x7d' :: Text.byte '\x7d' :: back) =
      (scan (n + 2) none back).map (.rightDelim :: ·) := scanClose rfl
  rw [close,scanLast closes more] at word
  rw [word] at space
  rw [space] at quote
  rw [tokens,fuel,scanText opens filled (by decide) rfl]
  exact congrArg (Option.map _) quote

/-- The tree of such a template, where the function is known. -/
theorem quotedParsed {known : Text → Bool} (quotes : known "quote" = true) (name : Text) :
    parse known name (quotedField front field back) =
      some [(name, quotedParts front field back)] := by
  have only : parse (fun f => decide (f = Text.ofString "quote")) name (quotedField front field back) =
      some [(name, quotedParts front field back)] := by
    unfold parse
    rw [quotedTokens opens filled named closes more]
    rfl
  refine parseMore (fun f same => ?_) only
  rw [of_decide_eq_true same]
  exact quotes

end Quoted

/-! ### Running -/

/-- The function that quotes its argument. -/
def quoteFunction : Function := Function.ofText fun t => .text (Text.quote t)

section Running

variable {p : Program} (known : p.function? "quote" = some quoteFunction) {field v : Text} {data : Labels}
  (value : data.get? field = some v)

include known value

theorem pipeQuotes (m : Machine) :
    (pipe p (.table data) ⟨false,[],[[.function "quote", .field [field]]]⟩).run.run m =
      (.ok (.text (Text.quote v)),m) := by
  have read : fieldPath p.strict (.table data) false [field] = some (.text v) := by
    rw [fieldPath,fieldOf,value]
    rfl
  rw [pipe,commands,command,known]
  simp only [arguments,argument,read]
  rfl

/-- The value is printed in its quotes, between the two texts. -/
theorem quotedRun {front back : Text} (found : p.trees.get? p.name = some (quotedParts front field back)) :
    p.run data = (front ++ (Text.quote v ++ back),true) := by
  have action (m : Machine) : (part p (callNamed p 1999) (.table data)
      (.action ⟨false,[],[[.function "quote", .field [field]]]⟩)).run.run m =
        (.ok (),{ m with printed := Text.quote v :: m.printed }) :=
    actionRun (pipeQuotes known value m) rfl
  have text (t : Text) (m : Machine) : (part p (callNamed p 1999) (.table data) (.text t)).run.run m =
      (.ok (),{ m with printed := t :: m.printed }) := rfl
  have ran (m : Machine) : (parts p (callNamed p 1999) (.table data)
      (quotedParts front field back)).run.run m =
        (.ok (),{ m with printed := back :: Text.quote v :: front :: m.printed }) := by
    rw [quotedParts,parts,runBind (text front m),parts,runBind (action _),parts,runBind (text back _)]
    rfl
  rw [runTree found (ran _)]
  simp [Text.concat]

end Running

end LogSql.Template
