import LogSql.Text.Quoted

/-! Characters and the bytes that encode them. What is read from a text as a character is its encoding, or a
stray byte that reads as the replacement character. An encoding is read back whatever follows it. -/
namespace LogSql.Text

/-! ### Code points -/

theorem charOfNat {n : Nat} (valid : n.isValidChar) : (Char.ofNat n).toNat = n := by
  rw [Char.ofNat,dif_pos valid]
  rfl

/- The code points of longer sequences are valid and have no shorter one: overlong forms and surrogates
are excluded by the lead byte or by the byte after it. -/

theorem twoBytesHigh {a b : UInt8} (lead : 0xC2 ≤ a) (last : a ≤ 0xDF) :
    128 ≤ codePoint2 a b ∧ (codePoint2 a b).isValidChar := by
  have low : 0xC2 ≤ a.toNat := lead
  have high : a.toNat ≤ 0xDF := last
  unfold codePoint2 Nat.isValidChar
  omega

theorem threeBytesHigh {a b c : UInt8} (lead : 0xE0 ≤ a) (last : a ≤ 0xEF)
    (fits : secondFits a b = true) :
    0x800 ≤ codePoint3 a b c ∧ (codePoint3 a b c).isValidChar := by
  have low : 0xE0 ≤ a.toNat := lead
  have high : a.toNat ≤ 0xEF := last
  unfold codePoint3 Nat.isValidChar
  by_cases first : a = 0xE0
  · subst first
    have value : (0xE0 : UInt8).toNat = 0xE0 := rfl
    have fits : 0xA0 ≤ b ∧ b ≤ 0xBF := by simpa [secondFits] using fits
    have second : 0xA0 ≤ b.toNat := fits.1
    have bound : b.toNat ≤ 0xBF := fits.2
    omega
  · by_cases surrogate : a = 0xED
    · subst surrogate
      have value : (0xED : UInt8).toNat = 0xED := rfl
      have fits : 0x80 ≤ b ∧ b ≤ 0x9F := by simpa [secondFits] using fits
      have second : 0x80 ≤ b.toNat := fits.1
      have bound : b.toNat ≤ 0x9F := fits.2
      omega
    · have later : a.toNat ≠ 0xE0 := fun same => first (UInt8.toNat_inj.mp same)
      have other : a.toNat ≠ 0xED := fun same => surrogate (UInt8.toNat_inj.mp same)
      omega

theorem fourBytesHigh {a b c d : UInt8} (lead : 0xF0 ≤ a) (last : a ≤ 0xF4)
    (fits : secondFits a b = true) :
    0x10000 ≤ codePoint4 a b c d ∧ (codePoint4 a b c d).isValidChar := by
  have low : 0xF0 ≤ a.toNat := lead
  have high : a.toNat ≤ 0xF4 := last
  unfold codePoint4 Nat.isValidChar
  by_cases first : a = 0xF0
  · subst first
    have value : (0xF0 : UInt8).toNat = 0xF0 := rfl
    have fits : 0x90 ≤ b ∧ b ≤ 0xBF := by simpa [secondFits] using fits
    have second : 0x90 ≤ b.toNat := fits.1
    have bound : b.toNat ≤ 0xBF := fits.2
    omega
  · by_cases top : a = 0xF4
    · subst top
      have value : (0xF4 : UInt8).toNat = 0xF4 := rfl
      have fits : 0x80 ≤ b ∧ b ≤ 0x8F := by simpa [secondFits] using fits
      have second : 0x80 ≤ b.toNat := fits.1
      have bound : b.toNat ≤ 0x8F := fits.2
      omega
    · have later : a.toNat ≠ 0xF0 := fun same => first (UInt8.toNat_inj.mp same)
      have other : a.toNat ≠ 0xF4 := fun same => top (UInt8.toNat_inj.mp same)
      omega

theorem smallChar {b : UInt8} (small : b < 0x80) : (Char.ofNat b.toNat).toNat = b.toNat := by
  have bound : b.toNat < 128 := small
  exact charOfNat (.inl (by omega))

theorem continuationHigh {b : UInt8} (next : isContinuation b = true) : 0x80 ≤ b := by
  simp only [isContinuation,Bool.and_eq_true,decide_eq_true_eq] at next
  exact next.1

theorem secondContinues {a b : UInt8} (fits : secondFits a b = true) : isContinuation b = true := by
  have within {low top : UInt8} (fits : (low ≤ b && b ≤ top : Bool) = true) (above : 0x80 ≤ low)
      (below : top ≤ 0xBF) : isContinuation b = true := by
    simp only [Bool.and_eq_true,decide_eq_true_eq] at fits
    simpa [isContinuation] using ⟨UInt8.le_trans above fits.1,UInt8.le_trans fits.2 below⟩
  unfold secondFits at fits
  repeat' split at fits
  · exact within fits (by decide) (by decide)
  · exact within fits (by decide) (by decide)
  · exact within fits (by decide) (by decide)
  · exact within fits (by decide) (by decide)
  · exact fits

/-! ### Encodings -/

/-- What holds of each number of a byte holds of each byte. -/
theorem everyByte {P : UInt8 → Prop} (each : ∀ n : Fin 256, P (UInt8.ofNat n)) (b : UInt8) : P b := by
  have own := each ⟨b.toNat,b.toNat_lt⟩
  rwa [UInt8.ofNat_toNat] at own

theorem byteSame {n : Nat} {b : UInt8} (same : n = b.toNat) : UInt8.ofNat n = b := by
  rw [same,UInt8.ofNat_toNat]

theorem byteOfChar {b : UInt8} {c : Char} (same : Char.ofNat b.toNat = c) : b = byte c := by
  have below := b.toNat_lt
  have valid : b.toNat.isValidChar := .inl (by omega)
  rw [← same,byte,charOfNat valid,UInt8.ofNat_toNat]

theorem byteValue {c : Char} (small : c.toNat < 128) : (byte c).toNat = c.toNat :=
  UInt8.toNat_ofNat_of_lt' (Nat.lt_trans small (by decide))

theorem encodingAscii {c : Char} (small : c.toNat < 128) : ofChar c = [byte c] := by
  have code : c.val.toNat = c.toNat := rfl
  rw [ofChar,String.utf8EncodeChar,code,if_pos (Nat.le_of_lt_succ small),byte]

theorem continuationBounds {b : UInt8} (next : isContinuation b = true) :
    128 ≤ b.toNat ∧ b.toNat ≤ 191 := by
  simp only [isContinuation,Bool.and_eq_true,decide_eq_true_eq] at next
  exact next

theorem encodingTwo {a b : UInt8} (lead : 0xC2 ≤ a) (last : a ≤ 0xDF) (next : isContinuation b = true) :
    ofChar (Char.ofNat (codePoint2 a b)) = [a,b] := by
  obtain ⟨high,valid⟩ := @twoBytesHigh a b lead last
  have low : 0xC2 ≤ a.toNat := lead
  have top : a.toNat ≤ 0xDF := last
  have second := continuationBounds next
  have code : (Char.ofNat (codePoint2 a b)).val.toNat = codePoint2 a b := charOfNat valid
  have size : codePoint2 a b ≤ 2047 := by unfold codePoint2; omega
  have first : codePoint2 a b / 64 % 32 + 192 = a.toNat := by unfold codePoint2; omega
  have final : codePoint2 a b % 64 + 128 = b.toNat := by unfold codePoint2; omega
  simp only [ofChar,String.utf8EncodeChar,code,if_neg (Nat.not_le.mpr high),if_pos size,first,final,
    byteSame rfl]

theorem encodingThree {a b c : UInt8} (lead : 0xE0 ≤ a) (last : a ≤ 0xEF)
    (fits : secondFits a b = true) (next : isContinuation c = true) :
    ofChar (Char.ofNat (codePoint3 a b c)) = [a,b,c] := by
  obtain ⟨high,valid⟩ := @threeBytesHigh a b c lead last fits
  have low : 0xE0 ≤ a.toNat := lead
  have top : a.toNat ≤ 0xEF := last
  have second := continuationBounds (secondContinues fits)
  have third := continuationBounds next
  have code : (Char.ofNat (codePoint3 a b c)).val.toNat = codePoint3 a b c := charOfNat valid
  have size : codePoint3 a b c ≤ 65535 := by unfold codePoint3; omega
  have first : codePoint3 a b c / 4096 % 16 + 224 = a.toNat := by unfold codePoint3; omega
  have middle : codePoint3 a b c / 64 % 64 + 128 = b.toNat := by unfold codePoint3; omega
  have final : codePoint3 a b c % 64 + 128 = c.toNat := by unfold codePoint3; omega
  have small : ¬ codePoint3 a b c ≤ 127 := by omega
  simp only [ofChar,String.utf8EncodeChar,code,if_neg small,if_neg (Nat.not_le.mpr high),if_pos size,
    first,middle,final,byteSame rfl]

theorem encodingFour {a b c d : UInt8} (lead : 0xF0 ≤ a) (last : a ≤ 0xF4)
    (fits : secondFits a b = true) (next : isContinuation c = true) (more : isContinuation d = true) :
    ofChar (Char.ofNat (codePoint4 a b c d)) = [a,b,c,d] := by
  obtain ⟨high,valid⟩ := @fourBytesHigh a b c d lead last fits
  have low : 0xF0 ≤ a.toNat := lead
  have top : a.toNat ≤ 0xF4 := last
  have second := continuationBounds (secondContinues fits)
  have third := continuationBounds next
  have fourth := continuationBounds more
  have code : (Char.ofNat (codePoint4 a b c d)).val.toNat = codePoint4 a b c d := charOfNat valid
  have first : codePoint4 a b c d / 262144 % 8 + 240 = a.toNat := by unfold codePoint4; omega
  have middle : codePoint4 a b c d / 4096 % 64 + 128 = b.toNat := by unfold codePoint4; omega
  have later : codePoint4 a b c d / 64 % 64 + 128 = c.toNat := by unfold codePoint4; omega
  have final : codePoint4 a b c d % 64 + 128 = d.toNat := by unfold codePoint4; omega
  have small : ¬ codePoint4 a b c d ≤ 127 := by omega
  have short : ¬ codePoint4 a b c d ≤ 2047 := by omega
  simp only [ofChar,String.utf8EncodeChar,code,if_neg small,if_neg short,if_neg (Nat.not_le.mpr high),
    first,middle,later,final,byteSame rfl]

/-! ### Characters of a text -/

/-- Characters as a text holds them: encoded, and read so before any other text, or a stray byte. -/
inductive Encoded : Glyph → Prop where
  | char {c : Char} {b : UInt8} {bs : Text} (bytes : ofChar c = b :: bs)
      (first : ∀ more, firstChar b (bs ++ more) = (c, bs.length + 1)) : Encoded ⟨c,b :: bs⟩
  | stray {b : UInt8} (high : 0x80 ≤ b) : Encoded ⟨replacement,[b]⟩

theorem firstCharAscii {b : UInt8} (small : b < 0x80) (rest : Text) :
    firstChar b rest = (Char.ofNat b.toNat, 1) := by
  unfold firstChar
  rw [if_pos small]

theorem firstCharEncoded (b : UInt8) (rest : Text) :
    Encoded ⟨(firstChar b rest).1,(b :: rest).take (firstChar b rest).2⟩ := by
  have stray (high : ¬ b < 0x80) : Encoded ⟨replacement,[b]⟩ := .stray (UInt8.not_lt.mp high)
  fun_cases firstChar b rest with
  | case1 =>
    rename_i small
    have ascii : (Char.ofNat b.toNat).toNat < 128 := by
      rw [smallChar small]
      exact small
    have encoding : ofChar (Char.ofNat b.toNat) = [b] := by rw [encodingAscii ascii,← byteOfChar rfl]
    exact .char encoding (firstCharAscii small)
  | case2 =>
    rename_i high lead c _ next
    have bounds := lead
    simp only [Bool.and_eq_true,decide_eq_true_eq] at bounds
    refine .char (encodingTwo bounds.1 bounds.2 next) fun more => ?_
    show firstChar b (c :: more) = _
    rw [firstChar.eq_def,if_neg high,if_pos lead]
    exact if_pos next
  | case5 =>
    rename_i high two lead c d _ next
    have bounds := lead
    have bytes := next
    simp only [Bool.and_eq_true,decide_eq_true_eq] at bounds bytes
    refine .char (encodingThree bounds.1 bounds.2 bytes.1 bytes.2) fun more => ?_
    show firstChar b (c :: d :: more) = _
    rw [firstChar.eq_def,if_neg high,if_neg two,if_pos lead]
    exact if_pos next
  | case8 =>
    rename_i high two three lead c d e _ next
    have bounds := lead
    have bytes := next
    simp only [Bool.and_eq_true,decide_eq_true_eq] at bounds bytes
    refine .char (encodingFour bounds.1 bounds.2 bytes.1.1 bytes.1.2 bytes.2) fun more => ?_
    show firstChar b (c :: d :: e :: more) = _
    rw [firstChar.eq_def,if_neg high,if_neg two,if_neg three,if_pos lead]
    exact if_pos next
  | case3 | case4 | case6 | case7 | case9 | case10 | case11 => exact stray (by assumption)

theorem glyphsFromEncoded (skip : Nat) (t : Text) : ∀ g ∈ glyphsFrom skip t, Encoded g := by
  induction t generalizing skip with
  | nil => cases skip <;> simp [glyphsFrom]
  | cons b rest ih =>
    cases skip with
    | succ skip => exact ih skip
    | zero => exact List.forall_mem_cons.mpr ⟨firstCharEncoded b rest,ih _⟩

theorem glyphsStep (b : UInt8) (t : Text) : glyphsFrom 0 (b :: t) =
    ⟨(firstChar b t).1,(b :: t).take (firstChar b t).2⟩ :: glyphsFrom ((firstChar b t).2 - 1) t := rfl

theorem glyphsFromDrop (skip : Nat) (t : Text) : glyphsFrom skip t = glyphs (t.drop skip) := by
  induction t generalizing skip with
  | nil => cases skip <;> rfl
  | cons b t ih =>
    cases skip with
    | zero => rfl
    | succ skip => exact ih skip

/-- An encoded character is read before any other text. -/
theorem charRead {c : Char} {b : UInt8} {bs : Text}
    (first : ∀ more, firstChar b (bs ++ more) = (c, bs.length + 1)) (more : Text) :
    glyphs (b :: (bs ++ more)) = ⟨c,b :: bs⟩ :: glyphs more := by
  rw [glyphs,glyphsStep,first,glyphsFromDrop]
  simp

theorem charAlone {c : Char} {b : UInt8} {bs : Text}
    (first : ∀ more, firstChar b (bs ++ more) = (c, bs.length + 1)) : glyphs (b :: bs) = [⟨c,b :: bs⟩] := by
  have read := charRead first []
  rwa [List.append_nil] at read

theorem asciiRead {b : UInt8} (small : b < 0x80) (more : Text) :
    glyphs (b :: more) = ⟨Char.ofNat b.toNat,[b]⟩ :: glyphs more :=
  @charRead _ b [] (firstCharAscii small) more

/-- The characters of an ASCII text. -/
theorem asciiAlone {t : Text} (ascii : ∀ b ∈ t, b < 0x80) :
    glyphs t = t.map fun b => ⟨Char.ofNat b.toNat,[b]⟩ := by
  induction t with
  | nil => rfl
  | cons b t ih =>
    obtain ⟨first,others⟩ := List.forall_mem_cons.mp ascii
    rw [asciiRead first,ih others]
    rfl

theorem asciiApart {t : Text} (ascii : ∀ b ∈ t, b < 0x80) (more : Text) :
    glyphs (t ++ more) = glyphs t ++ glyphs more := by
  induction t with
  | nil => rfl
  | cons b t ih =>
    obtain ⟨first,others⟩ := List.forall_mem_cons.mp ascii
    rw [List.cons_append,asciiRead first,asciiRead first,ih others]
    rfl

/-- The characters of one kind at the start of a text are an ASCII text, where one of another kind ends it. -/
theorem asciiRun {p : Char → Bool} {t : Text} (inside : ∀ b ∈ t, b < 0x80 ∧ p (Char.ofNat b.toNat) = true)
    {x : UInt8} (small : x < 0x80) (ends : p (Char.ofNat x.toNat) = false) (more : Text) :
    (glyphs (t ++ x :: more)).takeWhile (fun g => p g.char) = glyphs t := by
  have ascii : ∀ b ∈ t, b < 0x80 := fun b mem => (inside b mem).1
  have own : ∀ g ∈ glyphs t, p g.char = true := by
    rw [asciiAlone ascii]
    exact List.forall_mem_map.mpr fun b mem => (inside b mem).2
  rw [asciiApart ascii,List.takeWhile_append_of_pos own,asciiRead small,
    List.takeWhile_cons_of_neg (by simp [ends]),List.append_nil]

end LogSql.Text
