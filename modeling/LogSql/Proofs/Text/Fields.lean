import Mathlib.Data.List.TakeWhile
import LogSql.Proofs.Text.Glyphs

/-! Texts around an ASCII byte, and white space as bytes. No character reaches over an ASCII byte, so the
characters of a text are those before it, itself and those behind it, and a text that is split at such bytes is
split on both sides of each. What is trimmed off a text is white space, and a text that is trimmed to nothing
holds nothing else. -/
namespace LogSql.Text

variable {x : UInt8}

theorem asciiContinuation (small : x < 0x80) : isContinuation x = false := by
  cases next : isContinuation x with
  | false => rfl
  | true => exact absurd small (UInt8.not_lt.mpr (continuationHigh next))

theorem asciiSecond (small : x < 0x80) (b : UInt8) : secondFits b x = false := by
  cases next : secondFits b x with
  | false => rfl
  | true => exact absurd small (UInt8.not_lt.mpr (continuationHigh (secondContinues next)))

theorem firstCharBefore (small : x < 0x80) (b : UInt8) (t rest : Text) :
    firstChar b (t ++ x :: rest) = firstChar b t := by
  have third := asciiContinuation small
  have second := asciiSecond small b
  match t with
  | [] => cases rest with
    | nil => simp [firstChar,third]
    | cons c rest => cases rest <;> simp [firstChar,third,second]
  | [c] => cases rest <;> simp [firstChar,third]
  | [c, d] => simp [firstChar,third]
  | c :: d :: e :: t => simp [firstChar]

theorem firstCharWidth (b : UInt8) (t : Text) : (firstChar b t).2 ≤ t.length + 1 := by
  unfold firstChar
  repeat' split
  all_goals simp

theorem firstCharSome (b : UInt8) (t : Text) : 1 ≤ (firstChar b t).2 := by
  unfold firstChar
  repeat' split
  all_goals simp

theorem glyphsBefore (small : x < 0x80) {skip : Nat} {t : Text} (within : skip ≤ t.length)
    (rest : Text) :
    glyphsFrom skip (t ++ x :: rest) =
      glyphsFrom skip t ++ ⟨Char.ofNat x.toNat,[x]⟩ :: glyphs rest := by
  induction t generalizing skip with
  | nil =>
    obtain rfl := Nat.le_zero.mp within
    rw [List.nil_append,glyphsStep,firstCharAscii small]
    rfl
  | cons b t ih =>
    cases skip with
    | succ skip => exact ih (Nat.le_of_succ_le_succ within)
    | zero =>
      have width := firstCharWidth b t
      have bytes : (b :: (t ++ x :: rest)).take (firstChar b t).2 =
          (b :: t).take (firstChar b t).2 := by
        rw [← List.cons_append,List.take_append_of_le_length (by simpa using width)]
      rw [List.cons_append,glyphsStep,glyphsStep,firstCharBefore small,bytes,ih (by omega)]
      rfl

/-! ### Parts of a text -/

/-- A byte that starts no character does not start one where fewer bytes follow. -/
theorem firstCharStray {b : UInt8} {t more : Text} (stray : firstChar b (t ++ more) = (replacement, 1)) :
    firstChar b t = (replacement, 1) := by
  have encoded := firstCharEncoded b t
  have width := firstCharWidth b t
  revert encoded width
  generalize read : firstChar b t = r
  obtain ⟨c,n⟩ := r
  dsimp only
  generalize bytes : (b :: t).take n = raw
  intro encoded width
  have length := congrArg List.length bytes
  rw [List.length_take,List.length_cons] at length
  cases encoded with
  | stray high =>
    rw [List.length_singleton] at length
    obtain rfl : n = 1 := by omega
    rfl
  | @char _ first bs _ found =>
    obtain ⟨m,rfl⟩ : ∃ m, n = m + 1 := ⟨bs.length,by simp at length; omega⟩
    rw [List.take_succ_cons] at bytes
    cases bytes
    have whole : t.take m ++ t.drop m = t := List.take_append_drop m t
    have here := found (t.drop m)
    have there := found (t.drop m ++ more)
    rw [whole] at here
    rw [← List.append_assoc,whole,stray] at there
    rw [← read,here,there]

/-- The characters at the start of a text are read so without what follows. -/
theorem glyphsFront {t : Text} {gs more : List Glyph} (whole : glyphs t = gs ++ more) :
    glyphs (ofGlyphs gs) = gs := by
  induction gs generalizing t with
  | nil => rfl
  | cons g gs ih =>
    cases t with
    | nil => cases whole
    | cons b t =>
      have encoded := firstCharEncoded b t
      rw [glyphs,glyphsStep,glyphsFromDrop,List.cons_append] at whole
      obtain ⟨rfl,later⟩ := List.cons.inj whole
      have rest := ih later
      have bytes := ofGlyphsText (t.drop ((firstChar b t).2 - 1))
      rw [later] at bytes
      revert encoded bytes
      generalize read : firstChar b t = r
      obtain ⟨c,n⟩ := r
      dsimp only
      have width : n ≤ t.length + 1 := by
        have bound := firstCharWidth b t
        rwa [read] at bound
      generalize raw : (b :: t).take n = front
      intro encoded bytes
      show glyphs (front ++ ofGlyphs gs) = _
      cases encoded with
      | char _ first => rw [List.cons_append,charRead first,rest]
      | stray high =>
        have length := congrArg List.length raw
        rw [List.length_take,List.length_cons,List.length_singleton] at length
        obtain rfl : n = 1 := by omega
        cases raw
        rw [Nat.sub_self,List.drop_zero] at bytes
        have split : t = ofGlyphs gs ++ ofGlyphs more := by
          rw [← bytes]
          simp [ofGlyphs]
        rw [split] at read
        rw [List.singleton_append,glyphs,glyphsStep,firstCharStray read,glyphsFromDrop]
        exact congrArg _ rest

/-- So are the characters anywhere in a text. -/
theorem glyphsInside {t : Text} {front gs more : List Glyph} (whole : glyphs t = front ++ (gs ++ more)) :
    glyphs (ofGlyphs gs) = gs := by
  induction front generalizing t with
  | nil => exact glyphsFront whole
  | cons g front ih =>
    cases t with
    | nil => cases whole
    | cons b t =>
      rw [glyphs,glyphsStep,glyphsFromDrop,List.cons_append] at whole
      exact ih (List.cons.inj whole).2

/-! ### Fields -/

/-- What is made of a character in front of the fields behind it. -/
def fieldStep (sep : Char → Bool) (g : Glyph) (acc : Text × List Text) : Text × List Text :=
  if sep g.char then ([], if acc.1.isEmpty then acc.2 else acc.1 :: acc.2) else (g.raw ++ acc.1, acc.2)

/-- The fields, of which the first may be empty. -/
def closeFields (acc : Text × List Text) : List Text :=
  if acc.1.isEmpty then acc.2 else acc.1 :: acc.2

theorem fieldsClosed (sep : Char → Bool) (t : Text) :
    fieldsBy sep t = closeFields ((glyphs t).foldr (fieldStep sep) ([], [])) := rfl

variable {sep : Char → Bool}

theorem fieldStepAfter (gs : List Glyph) (fields : List Text) :
    gs.foldr (fieldStep sep) ([], fields) =
      ((gs.foldr (fieldStep sep) ([], [])).1, (gs.foldr (fieldStep sep) ([], [])).2 ++ fields) := by
  induction gs with
  | nil => rfl
  | cons g gs ih =>
    rw [List.foldr_cons,List.foldr_cons,ih]
    unfold fieldStep
    split
    · split <;> rfl
    · rfl

/-- The fields on both sides of a separator. -/
theorem fieldsAppend (small : x < 0x80) (cut : sep (Char.ofNat x.toNat) = true) (a b : Text) :
    fieldsBy sep (a ++ x :: b) = fieldsBy sep a ++ fieldsBy sep b := by
  have behind : (⟨Char.ofNat x.toNat,[x]⟩ :: glyphs b).foldr (fieldStep sep) ([], []) =
      ([], fieldsBy sep b) := by
    rw [List.foldr_cons,fieldStep,if_pos cut]
    rfl
  rw [fieldsClosed,fieldsClosed sep a,glyphs,glyphsBefore small (Nat.zero_le _),List.foldr_append,
    behind,fieldStepAfter]
  unfold glyphs
  generalize (glyphsFrom 0 a).foldr (fieldStep sep) ([], []) = acc
  unfold closeFields
  split <;> rfl

theorem fieldsWhole {t : Text} (none : ∀ g ∈ glyphs t, sep g.char = false) :
    fieldsBy sep t = if t.isEmpty then [] else [t] := by
  have kept {gs : List Glyph} (none : ∀ g ∈ gs, sep g.char = false) :
      gs.foldr (fieldStep sep) ([], []) = (ofGlyphs gs, []) := by
    induction gs with
    | nil => rfl
    | cons g gs ih =>
      obtain ⟨first,others⟩ := List.forall_mem_cons.mp none
      rw [List.foldr_cons,ih others,fieldStep,if_neg (by simp [first])]
      rfl
  rw [fieldsClosed,kept none,ofGlyphsText]
  rfl

theorem fieldsApart (small : x < 0x80) (cut : sep (Char.ofNat x.toNat) = true) {t field : Text}
    (mem : field ∈ fieldsBy sep t) : x ∉ field := by
  have apart {gs : List Glyph} (decoded : ∀ g ∈ gs, Decoded g) :
      x ∉ (gs.foldr (fieldStep sep) ([], [])).1 ∧
        ∀ field ∈ (gs.foldr (fieldStep sep) ([], [])).2, x ∉ field := by
    induction gs with
    | nil => simp
    | cons g gs ih =>
      obtain ⟨first,others⟩ := List.forall_mem_cons.mp decoded
      obtain ⟨front,back⟩ := ih others
      rw [List.foldr_cons,fieldStep]
      split
      · refine ⟨by simp,?_⟩
        split
        · exact back
        · exact List.forall_mem_cons.mpr ⟨front,back⟩
      · rename_i kept
        refine ⟨?_,back⟩
        rw [List.mem_append,not_or]
        refine ⟨fun inside => kept ?_,front⟩
        rw [← first.mem small inside,Char.ofNat_toNat] at cut
        exact cut
  obtain ⟨front,back⟩ := apart (glyphsFromDecoded 0 t)
  rw [fieldsClosed,closeFields] at mem
  split at mem
  · exact back field mem
  · rcases List.mem_cons.mp mem with rfl | later
    · exact front
    · exact back field later

end LogSql.Text

/-! ### White space -/

namespace LogSql.Text

/-- The bytes that white space consists of: an ASCII blank, or a part of a character beyond ASCII. -/
def SpaceByte (b : UInt8) : Prop := (9 ≤ b.toNat ∧ b.toNat ≤ 13) ∨ b.toNat = 32 ∨ 128 ≤ b.toNat

instance (b : UInt8) : Decidable (SpaceByte b) := inferInstanceAs (Decidable (_ ∨ _))

theorem spaceBytes {g : Glyph} (decoded : Decoded g) (space : isSpace g.char = true) :
    ∀ b ∈ g.raw, SpaceByte b := by
  intro b inside
  by_cases small : b < 0x80
  · have same := decoded.mem small inside
    have bound : b.toNat < 128 := small
    simp only [isSpace,inRanges,spaceRanges,List.any_cons,List.any_nil,Bool.or_eq_true,
      Bool.and_eq_true,Bool.false_eq_true,or_false,decide_eq_true_eq,same] at space
    unfold SpaceByte
    omega
  · exact .inr (.inr (UInt8.not_lt.mp small))

theorem allSpaceBytes {gs : List Glyph} (decoded : ∀ g ∈ gs, Decoded g)
    (space : ∀ g ∈ gs, isSpace g.char = true) : ∀ b ∈ ofGlyphs gs, SpaceByte b := by
  intro b mem
  obtain ⟨g,inside,byte⟩ := List.mem_flatMap.mp mem
  exact spaceBytes (decoded g inside) (space g inside) b byte

/-- What is trimmed, and what is left. -/
theorem trimParts (t : Text) : ∃ front kept back, glyphs t = front ++ (kept ++ back) ∧
    trim t = ofGlyphs kept ∧ (∀ g ∈ front, isSpace g.char = true) ∧
    ∀ g ∈ back, isSpace g.char = true := by
  -- The end is trimmed from behind.
  have start := List.takeWhile_append_dropWhile (p := fun g : Glyph => isSpace g.char) (l := glyphs t)
  have stop := List.takeWhile_append_dropWhile (p := fun g : Glyph => isSpace g.char)
    (l := ((glyphs t).dropWhile fun g => isSpace g.char).reverse)
  have ends := congrArg List.reverse stop
  rw [List.reverse_append,List.reverse_reverse] at ends
  refine ⟨_,_,_,(ends ▸ start).symm,rfl,List.all_eq_true.mp List.all_takeWhile,fun g mem => ?_⟩
  exact List.all_eq_true.mp List.all_takeWhile g (List.mem_reverse.mp mem)

theorem trimBlank {t : Text} (none : (trim t).isEmpty = true) :
    ∀ g ∈ glyphs t, isSpace g.char = true := by
  obtain ⟨front,kept,back,whole,same,opening,closing⟩ := trimParts t
  have empty : kept = [] := by
    rw [same,List.isEmpty_iff] at none
    refine List.eq_nil_iff_forall_not_mem.mpr fun g mem => ?_
    have decoded := glyphsFromDecoded 0 t g (show g ∈ glyphs t by simp [whole,mem])
    exact decoded.some (List.flatMap_eq_nil_iff.mp none g mem)
  rw [whole,empty,List.nil_append]
  exact List.forall_mem_append.mpr ⟨opening,closing⟩

theorem trimBytes (t : Text) : ∃ front back, t = front ++ (trim t ++ back) ∧
    ∀ b ∈ front, SpaceByte b := by
  obtain ⟨front,kept,back,whole,same,opening,_⟩ := trimParts t
  have decoded : ∀ g ∈ front, Decoded g := fun g mem =>
    glyphsFromDecoded 0 t g (show g ∈ glyphs t by simp [whole,mem])
  refine ⟨ofGlyphs front,ofGlyphs back,?_,allSpaceBytes decoded opening⟩
  rw [same,← ofGlyphsText t,whole]
  simp [ofGlyphs]

/-- A text with a byte that is no white space is not blank. -/
theorem trimKeeps {t : Text} {b : UInt8} (inside : b ∈ t) (ink : ¬ SpaceByte b) :
    (trim t).isEmpty = false := by
  cases blank : (trim t).isEmpty with
  | false => rfl
  | true =>
    rw [← ofGlyphsText t] at inside
    exact absurd (allSpaceBytes (glyphsFromDecoded 0 t) (trimBlank blank) b inside) ink

/-- Nothing is trimmed off a text between two ASCII characters that are no white space. -/
theorem trimInk {x y : UInt8} (first : x < 0x80) (last : y < 0x80)
    (front : isSpace (Char.ofNat x.toNat) = false) (back : isSpace (Char.ofNat y.toNat) = false)
    (t : Text) : trim (x :: (t ++ [y])) = x :: (t ++ [y]) := by
  have whole : glyphs (x :: (t ++ [y])) =
      ⟨Char.ofNat x.toNat,[x]⟩ :: (glyphs t ++ [⟨Char.ofNat y.toNat,[y]⟩]) := by
    rw [asciiRead first]
    exact congrArg _ (glyphsBefore last (Nat.zero_le _) [])
  have bytes := ofGlyphsText (x :: (t ++ [y]))
  rw [whole] at bytes
  rw [trim,trimBy,whole,List.dropWhile_cons_of_neg (by simp [front]),← List.cons_append,
    List.reverse_append,List.reverse_singleton,List.singleton_append,
    List.dropWhile_cons_of_neg (by simp [back])]
  simpa using bytes

end LogSql.Text
