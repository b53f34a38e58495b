import LogSql.Proofs.Text.Encoding

/-! Characters and their bytes. A character of a text is an ASCII byte, or it is beyond ASCII with all
of its bytes, so that what is looked for among the ASCII characters can be looked for among the
bytes. -/
namespace LogSql.Text

/-- Characters as they are read from bytes. -/
inductive Decoded : Glyph → Prop where
  | ascii {b : UInt8} (small : b < 0x80) : Decoded ⟨Char.ofNat b.toNat,[b]⟩
  | wide {c : Char} {b : UInt8} {more : Text} (char : 128 ≤ c.toNat) (lead : 0x80 ≤ b)
      (bytes : ∀ x ∈ more, 0x80 ≤ x) : Decoded ⟨c,b :: more⟩

theorem highByte {n : Nat} (low : 128 ≤ n) (top : n < 256) : 0x80 ≤ UInt8.ofNat n := by
  rw [UInt8.le_iff_toNat_le,UInt8.toNat_ofNat_of_lt' top]
  exact low

theorem encodingHigh {c : Char} (high : 128 ≤ c.toNat) : ∀ b ∈ ofChar c, 0x80 ≤ b := by
  have code : c.val.toNat = c.toNat := rfl
  have tail (n : Nat) : 0x80 ≤ UInt8.ofNat (n % 64 + 128) := highByte (by omega) (by omega)
  simp only [ofChar,String.utf8EncodeChar,code,if_neg (Nat.not_le.mpr high)]
  split
  · have lead : 0x80 ≤ UInt8.ofNat (c.toNat / 64 % 32 + 192) := highByte (by omega) (by omega)
    simp only [List.forall_mem_cons,List.not_mem_nil,false_implies,implies_true,lead,tail,and_self]
  split
  · have lead : 0x80 ≤ UInt8.ofNat (c.toNat / 4096 % 16 + 224) := highByte (by omega) (by omega)
    simp only [List.forall_mem_cons,List.not_mem_nil,false_implies,implies_true,lead,tail,and_self]
  · have lead : 0x80 ≤ UInt8.ofNat (c.toNat / 262144 % 8 + 240) := highByte (by omega) (by omega)
    simp only [List.forall_mem_cons,List.not_mem_nil,false_implies,implies_true,lead,tail,and_self]

theorem Encoded.decoded {g : Glyph} (encoded : Encoded g) : Decoded g := by
  cases encoded with
  | stray high => exact .wide (by decide) high (by simp)
  | @char c b bs bytes first =>
    by_cases ascii : c.toNat < 128
    · have small : byte c < 0x80 := by
        rw [UInt8.lt_iff_toNat_lt,byteValue ascii]
        exact ascii
      have read := Decoded.ascii small
      rw [byteValue ascii,Char.ofNat_toNat,← encodingAscii ascii,bytes] at read
      exact read
    · have high := encodingHigh (Nat.not_lt.mp ascii)
      rw [bytes] at high
      obtain ⟨lead,others⟩ := List.forall_mem_cons.mp high
      exact .wide (Nat.not_lt.mp ascii) lead others

theorem firstCharDecoded (b : UInt8) (rest : Text) :
    Decoded ⟨(firstChar b rest).1,(b :: rest).take (firstChar b rest).2⟩ :=
  (firstCharEncoded b rest).decoded

theorem glyphsFromDecoded (skip : Nat) (t : Text) : ∀ g ∈ glyphsFrom skip t, Decoded g :=
  fun g mem => (glyphsFromEncoded skip t g mem).decoded

/-- A character of the ASCII range stands for the byte it is. -/
theorem Decoded.raw {g : Glyph} (decoded : Decoded g) (ascii : g.char.toNat < 128) :
    g.raw = [byte g.char] := by
  cases decoded with
  | ascii small => simp [byte,smallChar small]
  | wide high lead bytes => exact absurd ascii (Nat.not_lt.mpr high)

/-- An ASCII byte is found where its character is. -/
theorem Decoded.mem {g : Glyph} (decoded : Decoded g) {b : UInt8} (small : b < 0x80)
    (inside : b ∈ g.raw) : g.char.toNat = b.toNat := by
  cases decoded with
  | ascii ascii =>
    obtain rfl := List.mem_singleton.mp inside
    exact smallChar ascii
  | wide high lead bytes =>
    have above : 0x80 ≤ b := by
      rcases List.mem_cons.mp inside with rfl | later
      · exact lead
      · exact bytes b later
    exact absurd small (UInt8.not_lt.mpr above)

theorem Decoded.some {g : Glyph} (decoded : Decoded g) : g.raw ≠ [] := by
  cases decoded <;> simp

/-- The characters of a text have its bytes. -/
theorem ofGlyphsFrom (skip : Nat) (t : Text) : ofGlyphs (glyphsFrom skip t) = t.drop skip := by
  induction t generalizing skip with
  | nil => cases skip <;> rfl
  | cons b rest ih =>
    cases skip with
    | succ skip => exact ih skip
    | zero =>
      have some : (firstChar b rest).2 ≠ 0 := by
        intro zero
        refine (firstCharDecoded b rest).some ?_
        rw [zero]
        rfl
      obtain ⟨width,same⟩ := Nat.exists_eq_succ_of_ne_zero some
      have later := ih width
      simp only [ofGlyphs] at later
      simp [glyphsFrom,ofGlyphs,same,later]

theorem ofGlyphsText (t : Text) : ofGlyphs (glyphs t) = t := ofGlyphsFrom 0 t

/-! ### Quoted bodies -/

/-- Bodies of quoted texts without a zero byte outside escapes. -/
inductive Guarded : Text → Prop where
  | nil : Guarded []
  | plain {b : UInt8} {rest : Text} (zero : b ≠ 0) (slash : b ≠ byte '\\') (more : Guarded rest) :
      Guarded (b :: rest)
  | escaped {c : UInt8} {rest : Text} (more : Guarded rest) : Guarded (byte '\\' :: c :: rest)

theorem Guarded.high {t rest : Text} (high : ∀ b ∈ t, 0x80 ≤ b) (more : Guarded rest) :
    Guarded (t ++ rest) := by
  induction t with
  | nil => exact more
  | cons b t ih =>
    obtain ⟨first,others⟩ := List.forall_mem_cons.mp high
    refine .plain ?_ ?_ (ih others)
    · rintro rfl
      exact absurd first (by decide)
    · rintro rfl
      exact absurd first (by decide)

theorem Guarded.glyph {g : Glyph} (decoded : Decoded g) (zero : g.char.toNat ≠ 0)
    (slash : g.char ≠ '\\') {rest : Text} (more : Guarded rest) : Guarded (g.raw ++ rest) := by
  cases decoded with
  | @ascii b small =>
    have same := smallChar small
    refine .plain ?_ ?_ more
    · rintro rfl
      exact zero same
    · rintro rfl
      exact slash rfl
  | wide high lead bytes => exact .high (List.forall_mem_cons.mpr ⟨lead,bytes⟩) more

theorem Guarded.escape {q g : Glyph} (decoded : Decoded q) (slash : q.char = '\\')
    (next : Decoded g) {rest : Text} (more : Guarded rest) : Guarded (q.raw ++ (g.raw ++ rest)) := by
  rw [decoded.raw (by rw [slash]; decide),slash]
  cases next with
  | ascii small => exact .escaped more
  | wide high lead bytes => exact .escaped (.high bytes more)

/-- Bytes that are neither zero nor a backslash. -/
def Harmless (t : Text) : Prop := ∀ b ∈ t, b ≠ 0 ∧ b ≠ byte '\\'

theorem harmlessHigh {t : Text} (high : ∀ b ∈ t, 0x80 ≤ b) : Harmless t := by
  intro b mem
  have above := high b mem
  constructor <;> (rintro rfl; exact absurd above (by decide))

theorem hexDigits {t : Text} {acc : Option Nat} {n : Nat} (ok : t.foldl (fun acc b => do
    (16 * (← acc)) + (← hexValue b)) acc = some n) :
    acc.isSome = true ∧ ∀ b ∈ t, (hexValue b).isSome = true := by
  induction t generalizing acc with
  | nil =>
    cases ok
    simp
  | cons b t ih =>
    obtain ⟨first,rest⟩ := ih ok
    cases acc with
    | none => contradiction
    | some m =>
      cases value : hexValue b with
      | none => simp [value] at first
      | some d => simpa [value] using rest

theorem hexHarmless {t : Text} {n : Nat} (ok : hexNumber t = some n) : Harmless t := by
  intro b mem
  have digit := (hexDigits ok).2 b mem
  constructor <;> (rintro rfl; exact absurd digit (by decide))

theorem scalarHarmless {digits width : Nat} {rest value : Text}
    (ok : scalarEscape digits rest = some (value,width)) :
    width = digits + 2 ∧ Harmless (rest.take digits) := by
  unfold scalarEscape at ok
  split at ok
  · contradiction
  · obtain ⟨n,number,ok⟩ := Option.bind_eq_some_iff.mp ok
    split at ok
    · cases ok
      exact ⟨rfl,hexHarmless number⟩
    · contradiction

theorem Decoded.high {g : Glyph} (decoded : Decoded g) {b : UInt8} (inside : b ∈ g.raw)
    (high : 0x80 ≤ b) : ∀ x ∈ g.raw, 0x80 ≤ x := by
  cases decoded with
  | ascii small =>
    obtain rfl := List.mem_singleton.mp inside
    exact absurd small (UInt8.not_lt.mpr high)
  | wide char lead bytes => exact List.forall_mem_cons.mpr ⟨lead,bytes⟩

theorem firstHarmless {b : UInt8} (high : 0x80 ≤ b) (rest : Text) :
    Harmless (rest.take ((firstChar b rest).2 - 1)) := by
  have decoded := firstCharDecoded b rest
  cases width : (firstChar b rest).2 with
  | zero => simp [Harmless]
  | succ n =>
    rw [width,List.take_succ_cons] at decoded
    have bytes := decoded.high List.mem_cons_self high
    exact harmlessHigh fun x mem => bytes x (List.mem_cons_of_mem _ mem)

theorem iteSome {α : Type} {P : Prop} [Decidable P] {a b : Option α} {r : α}
    (ok : (if P then a else b) = some r) : P ∧ a = some r ∨ ¬P ∧ b = some r := by
  by_cases holds : P
  · exact .inl ⟨holds,by rwa [if_pos holds] at ok⟩
  · exact .inr ⟨holds,by rwa [if_neg holds] at ok⟩

theorem unescapeOther {quote b : UInt8} {rest value : Text} {width : Nat} (other : b ≠ byte '\\')
    (ok : unescape quote (b :: rest) = some (value,width)) : Harmless (rest.take (width - 1)) := by
  cases rest with
  | nil => simp [Harmless]
  | cons c rest =>
    unfold unescape at ok
    dsimp only at ok
    rcases iteSome ok with ⟨_,ok⟩ | ⟨_,ok⟩
    · contradiction
    rcases iteSome ok with ⟨high,ok⟩ | ⟨_,ok⟩
    · cases ok
      exact firstHarmless high (c :: rest)
    · rw [if_pos other] at ok
      cases ok
      simp [Harmless]

/-- What an escape takes, when it takes something: no zero, and behind its letter digits only. -/
def Takes (c : UInt8) (rest : Text) (r : Option (Text × Nat)) : Prop :=
  ∀ value width, r = some (value,width) → c ≠ 0 ∧ 2 ≤ width ∧ Harmless (rest.take (width - 2))

section Escapes

variable {c : UInt8} {rest : Text}

theorem takesIte {P : Prop} [Decidable P] {a b : Option (Text × Nat)} (yes : P → Takes c rest a)
    (no : ¬ P → Takes c rest b) : Takes c rest (if P then a else b) := by
  split
  · exact yes ‹_›
  · exact no ‹_›

theorem takesNone : Takes c rest none := by
  intro value width ok
  cases ok

theorem takesLetter {v : Text} (zero : c ≠ 0) : Takes c rest (some (v,2)) := by
  intro value width ok
  cases ok
  exact ⟨zero,Nat.le_refl 2,by simp [Harmless]⟩

theorem takesScalar {digits : Nat} (zero : c ≠ 0) : Takes c rest (scalarEscape digits rest) := by
  intro value width ok
  obtain ⟨rfl,harmless⟩ := scalarHarmless ok
  exact ⟨zero,Nat.le_add_left 2 digits,harmless⟩

theorem takesHex {d e : UInt8} {f : Nat → Text} (zero : c ≠ 0) :
    Takes c (d :: e :: rest) ((hexNumber [d,e]).map fun n => (f n,4)) := by
  intro value width ok
  obtain ⟨n,number,ok⟩ := Option.map_eq_some_iff.mp ok
  cases ok
  exact ⟨zero,by decide,hexHarmless number⟩

theorem digitHarmless {b : UInt8} (low : byte '0' ≤ b) (high : b ≤ byte '7') :
    b ≠ 0 ∧ b ≠ byte '\\' := by
  constructor
  · rintro rfl
    exact absurd low (by decide)
  · rintro rfl
    exact absurd high (by decide)

theorem takesOctal {d e : UInt8} {v : Text} (zero : c ≠ 0)
    (digits : byte '0' ≤ d ∧ d ≤ byte '7' ∧ byte '0' ≤ e ∧ e ≤ byte '7') :
    Takes c (d :: e :: rest) (some (v,4)) := by
  intro value width ok
  cases ok
  refine ⟨zero,by decide,fun b mem => ?_⟩
  simp only [List.take_succ_cons,List.take_zero,List.mem_cons,List.not_mem_nil,or_false] at mem
  rcases mem with rfl | rfl
  · exact digitHarmless digits.1 digits.2.1
  · exact digitHarmless digits.2.2.1 digits.2.2.2

theorem unescapeSlash (quote c : UInt8) (rest : Text) :
    Takes c rest (unescape quote (byte '\\' :: c :: rest)) := by
  have letter {v : Text} {d : UInt8} (zero : d ≠ 0) (same : c = d) : Takes c rest (some (v,2)) :=
    takesLetter (same ▸ zero)
  unfold unescape
  refine takesIte (fun _ => takesNone) fun _ => ?_
  rw [if_neg (by decide),if_neg (by decide)]
  refine takesIte (letter (by decide)) fun _ => ?_
  refine takesIte (letter (by decide)) fun _ => ?_
  refine takesIte (letter (by decide)) fun _ => ?_
  refine takesIte (letter (by decide)) fun _ => ?_
  refine takesIte (letter (by decide)) fun _ => ?_
  refine takesIte (letter (by decide)) fun _ => ?_
  refine takesIte (letter (by decide)) fun _ => ?_
  refine takesIte (letter (by decide)) fun _ => ?_
  refine takesIte (fun same => ?_) fun _ => ?_
  · split
    · exact takesHex (by rw [same]; decide)
    · exact takesNone
  refine takesIte (fun same => takesScalar (by rw [same]; decide)) fun _ => ?_
  refine takesIte (fun same => takesScalar (by rw [same]; decide)) fun _ => ?_
  refine takesIte (fun octal => ?_) fun _ => ?_
  · have zero := (digitHarmless octal.1 octal.2).1
    split
    · exact takesIte (fun digits => takesIte (fun _ => takesOctal zero digits) fun _ => takesNone)
        fun _ => takesNone
    · exact takesNone
  refine takesIte (fun quoted => ?_) fun _ => takesNone
  rcases quoted.1 with same | same
  · exact letter (by decide) same
  · exact letter (by decide) same

end Escapes

theorem Guarded.drop {t : Text} (guarded : Guarded t) {n : Nat} (harmless : Harmless (t.take n)) :
    Guarded (t.drop n) := by
  induction n generalizing t with
  | zero => exact guarded
  | succ n ih =>
    cases guarded with
    | nil => exact .nil
    | plain zero slash more =>
      exact ih more fun b mem => harmless b (List.mem_cons_of_mem _ mem)
    | escaped more => exact absurd rfl (harmless _ List.mem_cons_self).2

/-- A guarded body that can be read has no zero byte: none is escaped. -/
theorem guardedZero {quote : UInt8} (skip : Nat) {t value : Text} (guarded : Guarded (t.drop skip))
    (ok : unquoteFrom quote skip t = some value) : 0 ∉ t.drop skip := by
  have apart {rest : Text} {n : Nat} (harmless : Harmless (rest.take n)) (later : 0 ∉ rest.drop n) :
      0 ∉ rest := by
    rw [← List.take_append_drop n rest,List.mem_append,not_or]
    exact ⟨fun mem => (harmless 0 mem).1 rfl,later⟩
  induction t generalizing skip value with
  | nil => simp
  | cons b rest ih =>
    cases skip with
    | succ skip => exact ih skip guarded ok
    | zero =>
      unfold unquoteFrom at ok
      split at ok
      · contradiction
      obtain ⟨⟨first,width⟩,read,ok⟩ := Option.bind_eq_some_iff.mp ok
      obtain ⟨tail,later,ok⟩ := Option.bind_eq_some_iff.mp ok
      cases guarded with
      | plain zero slash more =>
        have harmless := unescapeOther slash read
        have past := ih _ (more.drop harmless) later
        rw [List.drop_zero,List.mem_cons,not_or]
        exact ⟨zero.symm,apart harmless past⟩
      | @escaped c rest more =>
        obtain ⟨zero,two,harmless⟩ := unescapeSlash quote _ _ _ _ read
        obtain ⟨n,rfl⟩ := Nat.exists_eq_add_of_le' two
        have past := ih (n + 1) (more.drop harmless) later
        rw [List.drop_zero,List.mem_cons,List.mem_cons,not_or,not_or]
        exact ⟨by decide,zero.symm,apart harmless past⟩

end LogSql.Text
