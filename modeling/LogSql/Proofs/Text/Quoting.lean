import Mathlib.Algebra.Group.Nat.Defs
import LogSql.Proofs.Text.Glyphs

/-! Quoted texts. Each character of a text is written by itself or as an escape of ASCII bytes, and it is
read back whatever follows it: a text that is quoted and read is the same text. -/
namespace LogSql.Text

/-! ### Hexadecimal digits -/

theorem hexDigitValue {n : Nat} (small : n < 16) : hexValue (hexDigit n) = some n :=
  (show ∀ n : Fin 16, hexValue (hexDigit n) = some n.val by decide) ⟨n,small⟩

theorem hexNumberSnoc (t : Text) (b : UInt8) :
    hexNumber (t ++ [b]) = (hexNumber t).bind fun m => (hexValue b).bind fun d => some (16 * m + d) := by
  simp only [hexNumber,List.foldl_append]
  rfl

theorem hexFixedNumber {width n : Nat} (fits : n < 16 ^ width) : hexNumber (hexFixed width n) = some n := by
  induction width generalizing n with
  | zero =>
    obtain rfl := Nat.lt_one_iff.mp fits
    rfl
  | succ width ih =>
    have before : n / 16 < 16 ^ width := by
      rw [Nat.pow_succ] at fits
      exact Nat.div_lt_of_lt_mul (Nat.mul_comm _ _ ▸ fits)
    rw [hexFixed,hexNumberSnoc,ih before,hexDigitValue (Nat.mod_lt n (by decide))]
    exact congrArg some (Nat.div_add_mod n 16)

theorem hexFixedLength (width n : Nat) : (hexFixed width n).length = width := by
  induction width generalizing n with
  | zero => rfl
  | succ width ih => rw [hexFixed,List.length_append,ih]; rfl

/-! ### Characters of a quoted body -/

/-- Bytes that a reader of a quoted body goes past: ASCII, and neither an end nor an escape. -/
def isBodyByte (b : UInt8) : Bool := b < 0x80 && b ≠ 0 && b ≠ byte '"' && b ≠ byte '\\'

/-- How a character stands in a quoted body: by its bytes, or behind a backslash by a sign and what belongs
to it. -/
inductive Inscribed : Glyph → Text → Prop where
  | plain {c : Char} {b : UInt8} {bs : Text} (bytes : ofChar c = b :: bs)
      (first : ∀ more, firstChar b (bs ++ more) = (c, bs.length + 1))
      (ends : c ∉ [Char.ofNat 0, '\n', '"', '\\']) : Inscribed ⟨c,b :: bs⟩ (b :: bs)
  | escape {g : Glyph} {sign : UInt8} {digits : Text} (ascii : sign < 0x80)
      (inside : digits.all isBodyByte = true)
      (reads : ∀ more, unescape (byte '"') (byte '\\' :: sign :: (digits ++ more)) =
        some (g.raw, digits.length + 2)) : Inscribed g (byte '\\' :: sign :: digits)

theorem hexBody (b : UInt8) : (hexValue b).isSome = true → isBodyByte b = true :=
  @everyByte (fun b => (hexValue b).isSome = true → isBodyByte b = true) (by decide +kernel) b

section Escapes

variable {g : Glyph} {c : Char} {raw : Text} {sign b : UInt8} {width n : Nat}

/-- An escape of a single letter. -/
theorem letterInscribed (code : c.toNat = b.toNat) (small : b < 0x80) (bytes : ofChar c = raw)
    (ascii : sign < 0x80)
    (reads : ∀ more, unescape (byte '"') (byte '\\' :: sign :: more) = some ([b], 2)) :
    Inscribed ⟨c,raw⟩ [byte '\\',sign] := by
  have same : b = byte c := byteOfChar (by rw [← code,Char.ofNat_toNat])
  rw [encodingAscii (code ▸ small),← same] at bytes
  subst bytes
  exact .escape ascii rfl reads

/-- An escape of a number in hexadecimal digits. -/
theorem hexInscribed (ascii : sign < 0x80) (fits : n < 16 ^ width)
    (reads : ∀ digits more, digits.length = width → hexNumber digits = some n →
      unescape (byte '"') (byte '\\' :: sign :: (digits ++ more)) = some (g.raw, width + 2)) :
    Inscribed g (byte '\\' :: sign :: hexFixed width n) := by
  have number := hexFixedNumber fits
  have length := hexFixedLength width n
  refine .escape ascii (List.all_eq_true.mpr fun d mem => hexBody d ((hexDigits number).2 d mem)) ?_
  intro more
  rw [reads _ more length number,length]

theorem byteInscribed (fits : n < 256) (same : g.raw = [UInt8.ofNat n]) :
    Inscribed g (byte '\\' :: byte 'x' :: hexFixed 2 n) := by
  refine hexInscribed (by decide) fits fun digits more length number => ?_
  match digits with
  | [d, e] =>
    show (hexNumber [d, e]).map (fun n => ([UInt8.ofNat n], 4)) = _
    rw [number,same]
    rfl

theorem scalarInscribed (fits : c.toNat < 16 ^ width) (bytes : ofChar c = raw) (ascii : sign < 0x80)
    (reads : ∀ rest, unescape (byte '"') (byte '\\' :: sign :: rest) = scalarEscape width rest) :
    Inscribed ⟨c,raw⟩ (byte '\\' :: sign :: hexFixed width c.toNat) := by
  refine hexInscribed ascii fits fun digits more length number => ?_
  have scalar : isScalar c.toNat = true := by
    have valid : c.toNat < 0xD800 ∨ 0xDFFF < c.toNat ∧ c.toNat < 0x110000 := c.valid
    simp only [isScalar,Bool.or_eq_true,Bool.and_eq_true,decide_eq_true_eq]
    omega
  rw [reads,scalarEscape,List.take_left' length,number,if_neg (by simp [length])]
  simp [scalar,bytes]

end Escapes

theorem charInscribed {c : Char} {b : UInt8} {bs : Text} (bytes : ofChar c = b :: bs)
    (first : ∀ more, firstChar b (bs ++ more) = (c, bs.length + 1)) :
    Inscribed ⟨c,b :: bs⟩ (escapeChar '"' c) := by
  have letter {x sign : UInt8} (code : c.toNat = x.toNat) (small : x < 0x80) (ascii : sign < 0x80)
      (reads : ∀ more, unescape (byte '"') (byte '\\' :: sign :: more) = some ([x], 2)) :
      Inscribed ⟨c,b :: bs⟩ [byte '\\',sign] := letterInscribed code small bytes ascii reads
  fun_cases escapeChar '"' c with
  | case1 =>
    rename_i special
    rcases special with rfl | rfl
    · exact @letter (byte '"') (byte '"') rfl (by decide) (by decide) fun _ => rfl
    · exact @letter (byte '\\') (byte '\\') rfl (by decide) (by decide) fun _ => rfl
  | case2 =>
    rename_i other ink
    rw [bytes]
    refine .plain bytes first ?_
    simp only [List.mem_cons,List.not_mem_nil,or_false]
    rintro (rfl | rfl | same)
    · exact absurd ink (by decide)
    · exact absurd ink (by decide)
    · exact other same
  | case3 => exact @letter 7 (byte 'a') (by assumption) (by decide) (by decide) fun _ => rfl
  | case4 => exact @letter 8 (byte 'b') (by assumption) (by decide) (by decide) fun _ => rfl
  | case5 => exact @letter 9 (byte 't') (by assumption) (by decide) (by decide) fun _ => rfl
  | case6 => exact @letter 10 (byte 'n') (by assumption) (by decide) (by decide) fun _ => rfl
  | case7 => exact @letter 11 (byte 'v') (by assumption) (by decide) (by decide) fun _ => rfl
  | case8 => exact @letter 12 (byte 'f') (by assumption) (by decide) (by decide) fun _ => rfl
  | case9 => exact @letter 13 (byte 'r') (by assumption) (by decide) (by decide) fun _ => rfl
  | case10 =>
    rename_i control
    have small : c.toNat < 128 := by omega
    exact byteInscribed (Nat.lt_trans small (by decide)) (bytes.symm.trans (encodingAscii small))
  | case11 =>
    rename_i low
    exact scalarInscribed low bytes (by decide) fun _ => rfl
  | case12 =>
    have valid : c.toNat < 0xD800 ∨ 0xDFFF < c.toNat ∧ c.toNat < 0x110000 := c.valid
    exact scalarInscribed (Nat.lt_trans (show c.toNat < 0x110000 by omega) (by decide)) bytes (by decide)
      fun _ => rfl

theorem glyphInscribed {g : Glyph} (encoded : Encoded g) : Inscribed g (escapeGlyph '"' g) := by
  cases encoded with
  | @stray b high => exact byteInscribed b.toNat_lt (by rw [UInt8.ofNat_toNat])
  | @char c b bs bytes first =>
    have same : escapeGlyph '"' ⟨c,b :: bs⟩ = escapeChar '"' c := by
      unfold escapeGlyph
      split
      · rename_i x single
        refine if_neg ?_
        rintro rfl
        rw [show b :: bs = [x] from single] at bytes
        exact absurd (congrArg List.length bytes) (show (ofChar replacement).length ≠ 1 by decide)
      · rfl
    rw [same]
    exact charInscribed bytes first

/-! ### Reading -/

theorem unescapePlain {quote b : UInt8} (other : b ≠ quote) (slash : b ≠ byte '\\') (t : Text) :
    unescape quote (b :: t) = some (ofChar (firstChar b t).1, (firstChar b t).2) := by
  have ascii (small : b < 0x80) :
      some (ofChar (firstChar b t).1, (firstChar b t).2) = some ([b], 1) := by
    have code : (Char.ofNat b.toNat).toNat < 128 := by
      rw [smallChar small]
      exact small
    rw [firstCharAscii small,encodingAscii code,← byteOfChar rfl]
  cases t with
  | nil =>
    rw [unescape,if_neg (not_or.mpr ⟨other,slash⟩)]
    split
    · rename_i small
      exact (ascii small).symm
    · rename_i high
      have stray : firstChar b [] = (replacement, 1) := by simp [firstChar,high]
      rw [stray]
  | cons c t =>
    unfold unescape
    refine (if_neg other).trans ?_
    by_cases high : 0x80 ≤ b
    · exact if_pos high
    · exact (if_neg high).trans ((if_pos slash).trans (ascii (UInt8.not_le.mp high)).symm)

theorem unquoteFromDrop (quote : UInt8) (skip : Nat) (t : Text) :
    unquoteFrom quote skip t = unquoteFrom quote 0 (t.drop skip) := by
  induction t generalizing skip with
  | nil => cases skip <;> rfl
  | cons b t ih =>
    cases skip with
    | zero => rfl
    | succ skip => exact ih skip

/-- One character of a body is read, and then what follows it. -/
theorem unquoteStep {quote b : UInt8} {bs value : Text} (line : b ≠ 10) {more : Text}
    (reads : unescape quote (b :: (bs ++ more)) = some (value, bs.length + 1)) :
    unquoteFrom quote 0 (b :: (bs ++ more)) = (unquoteFrom quote 0 more).map (value ++ ·) := by
  rw [unquoteFrom,if_neg line,reads]
  simp only [Option.bind_eq_bind,Option.bind_some]
  rw [Nat.add_sub_cancel,unquoteFromDrop,List.drop_left]
  cases unquoteFrom quote 0 more <;> rfl

section Inscriptions

variable {g : Glyph} {written : Text}

theorem Inscribed.unquoted (inscribed : Inscribed g written) (more : Text) :
    unquoteFrom (byte '"') 0 (written ++ more) =
      (unquoteFrom (byte '"') 0 more).map (g.raw ++ ·) := by
  cases inscribed with
  | @plain c b bs bytes first ends =>
    have other {x : UInt8} (small : x < 0x80) (end_ : Char.ofNat x.toNat ∈ [Char.ofNat 0, '\n', '"', '\\']) :
        b ≠ x := by
      rintro rfl
      have read := first []
      rw [firstCharAscii small] at read
      exact ends ((Prod.mk.inj read).1 ▸ end_)
    refine unquoteStep (other (by decide) (by decide)) ?_
    rw [unescapePlain (other (by decide) (by decide)) (other (by decide) (by decide)),first,bytes]
  | escape ascii inside reads => exact unquoteStep (by decide) (reads more)

theorem bodyAscii {t : Text} (inside : t.all isBodyByte = true) : ∀ b ∈ t, b < 0x80 := by
  intro b mem
  have body := List.all_eq_true.mp inside b mem
  simp only [isBodyByte,Bool.and_eq_true,decide_eq_true_eq] at body
  exact body.1.1.1

/-- Nothing that follows is read as a part of a character that was written. -/
theorem Inscribed.apart (inscribed : Inscribed g written) (more : Text) :
    glyphs (written ++ more) = glyphs written ++ glyphs more := by
  cases inscribed with
  | @plain c b bs bytes first ends =>
    rw [List.cons_append,charRead first,charAlone first]
    rfl
  | @escape _ sign digits ascii inside reads =>
    have small : ∀ b ∈ byte '\\' :: sign :: digits, b < 0x80 :=
      List.forall_mem_cons.mpr ⟨by decide,List.forall_mem_cons.mpr ⟨ascii,bodyAscii inside⟩⟩
    exact asciiApart small more

end Inscriptions

/-- What is written for the characters of a text is read as the text. -/
theorem quotedRead (t : Text) : unquoteBody ((glyphs t).flatMap (escapeGlyph '"')) = some t := by
  have each {gs : List Glyph} (encoded : ∀ g ∈ gs, Encoded g) :
      unquoteBody (gs.flatMap (escapeGlyph '"')) = some (ofGlyphs gs) := by
    induction gs with
    | nil => rfl
    | cons g gs ih =>
      obtain ⟨first,others⟩ := List.forall_mem_cons.mp encoded
      have rest := ih others
      rw [unquoteBody] at rest ⊢
      rw [List.flatMap_cons,(glyphInscribed first).unquoted,rest]
      rfl
  exact (each (glyphsFromEncoded 0 t)).trans (congrArg some (ofGlyphsText t))

end LogSql.Text
