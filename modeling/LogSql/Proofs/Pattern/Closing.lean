import LogSql.Pattern.Reader
import LogSql.Proofs.Computation
import LogSql.Proofs.Text.Fields
import LogSql.Proofs.Text.Strings

/-! A pattern with a closing parenthesis and an anchor behind it. No reader looks behind what it takes but
for one byte, and a closing parenthesis is never that byte; so a reader takes the same from the pattern
with the closing behind it, or it runs into the closing. -/
namespace LogSql.Pattern

def closing : Text := [Text.byte ')', Text.byte '$']

/-- A computation on a text and the same one on the text with the closing behind it. -/
structure Along {α β : Type} (Same : α → β → Prop) (Past : β → Prop) (x : Except Error α)
    (y : Except Error β) : Prop where
  onward : ∀ a, x = .ok a → ∃ b, y = .ok b ∧ Same a b
  back : ∀ b, y = .ok b → Past b ∨ ∃ a, x = .ok a ∧ Same a b

namespace Along

variable {α β γ δ : Type} {Same : α → β → Prop} {Past : β → Prop}
variable {Same' : γ → δ → Prop} {Past' : δ → Prop}

theorem ok {a : α} {b : β} (same : Same a b) : Along Same Past (.ok a) (.ok b) := by
  constructor
  · intro _ ok
    cases ok
    exact ⟨b,rfl,same⟩
  · intro _ ok
    cases ok
    exact .inr ⟨a,rfl,same⟩

/-- A failure, where the closing makes all results go past the text. -/
theorem fails {x : Except Error α} {y : Except Error β} (none : Gives (fun _ => False) x)
    (late : Gives Past y) : Along Same Past x y :=
  ⟨fun a ok => (none a ok).elim,fun b ok => .inl (late b ok)⟩

theorem past {err : Error} {y : Except Error β} (late : Gives Past y) :
    Along Same Past (.error err) y := fails .error late

theorem weaken {Wider : β → Prop} {x : Except Error α} {y : Except Error β}
    (along : Along Same Past x y) (wider : ∀ b, Past b → Wider b) : Along Same Wider x y :=
  ⟨along.onward,fun b ok => (along.back b ok).imp_left (wider b)⟩

theorem error {err err' : Error} : Along Same Past (.error err) (.error err') := past .error

theorem check {x : Except Error γ} {f : γ → Except Error α} {g : γ → Except Error β}
    (next : ∀ c, Along Same Past (f c) (g c)) : Along Same Past (x.bind f) (x.bind g) := by
  cases x with
  | error err => exact error
  | ok c => exact next c

theorem bind {x : Except Error α} {y : Except Error β} {f : α → Except Error γ}
    {g : β → Except Error δ} (first : Along Same Past x y)
    (next : ∀ a b, x = .ok a → Same a b → Along Same' Past' (f a) (g b))
    (late : ∀ b, Past b → Gives Past' (g b)) : Along Same' Past' (x.bind f) (y.bind g) := by
  constructor
  · intro c ok
    obtain ⟨a,head,ok⟩ := bindOk ok
    obtain ⟨b,other,same⟩ := first.onward a head
    obtain ⟨d,done,related⟩ := (next a b head same).onward c ok
    exact ⟨d,by rw [other]; exact done,related⟩
  · intro d ok
    obtain ⟨b,head,ok⟩ := bindOk ok
    rcases first.back b head with passed | ⟨a,other,same⟩
    · exact .inl (late b passed d ok)
    · rcases (next a b other same).back d ok with passed | ⟨c,done,related⟩
      · exact .inl passed
      · exact .inr ⟨c,by rw [other]; exact done,related⟩

theorem ite {C D : Prop} [Decidable C] [Decidable D] {x x' : Except Error α}
    {y y' : Except Error β} (same : D ↔ C) (yes : C → Along Same Past x y)
    (no : ¬C → Along Same Past x' y') :
    Along Same Past (if C then x else x') (if D then y else y') := by
  by_cases holds : C
  · rw [if_pos holds,if_pos (same.mpr holds)]
    exact yes holds
  · rw [if_neg holds,if_neg fun other => holds (same.mp other)]
    exact no holds

end Along

/-- What is read, with the closing behind the rest. -/
def Kept {α β : Type} (φ : α → β) (p : α × Text) (q : β × Text) : Prop := q = (φ p.1,p.2 ++ closing)

/-- What is read goes into the closing: it takes the parenthesis. -/
def Into {α : Type} (q : α × Text) : Prop := q.2 <:+ [Text.byte '$']

/-- What is left is behind the first byte. -/
def Leaves {α : Type} (t : Text) (q : α × Text) : Prop := q.2 <:+ t

/-- What is found at the start of a text, with the closing behind the rest. -/
def SameItem {α : Type} (o o' : Option (α × Text)) : Prop :=
  o' = o.map fun p => (p.1,p.2 ++ closing)

/-! ### Characters -/

theorem nextCharLeaves (b : UInt8) (t : Text) : Gives (Leaves t) (nextChar (b :: t)) := by
  obtain ⟨n,width⟩ := Nat.exists_eq_add_of_le' (Text.firstCharSome b t)
  rw [nextChar]
  dsimp only
  split
  · exact .error
  · refine Gives.ok.mpr ?_
    rw [Leaves,width]
    exact List.drop_suffix n t

theorem nextCharRest (t : Text) : Gives (Leaves t) (nextChar t) := by
  cases t with
  | nil => exact Gives.ok.mpr (List.suffix_refl _)
  | cons b t => exact (nextCharLeaves b t).imp fun _ left => left.trans (List.suffix_cons _ _)

theorem nextCharAlong {t : Text} (some : t ≠ []) :
    Along (Kept id) (fun _ => False) (nextChar t) (nextChar (t ++ closing)) := by
  obtain ⟨b,t,rfl⟩ := List.exists_cons_of_ne_nil some
  have same : Text.firstChar b (t ++ closing) = Text.firstChar b t :=
    Text.firstCharBefore (by decide) b t _
  have width := Text.firstCharWidth b t
  rw [List.cons_append,nextChar,nextChar,same]
  dsimp only
  split
  · exact .error
  · refine .ok ?_
    rw [Kept,← List.cons_append,List.drop_append_of_le_length (by simpa using width)]
    rfl

/-! ### Escapes -/

theorem octalLeaves (count value : Nat) (t : Text) : (octalDigits count value t).2 <:+ t := by
  induction count generalizing value t with
  | zero => exact List.suffix_refl t
  | succ count ih =>
    cases t with
    | nil => exact List.suffix_refl _
    | cons b t =>
      rw [octalDigits]
      split
      · exact (ih _ t).trans (List.suffix_cons b t)
      · exact List.suffix_refl _

theorem octalBehind (count value : Nat) (t : Text) : octalDigits count value (t ++ closing) =
    ((octalDigits count value t).1,(octalDigits count value t).2 ++ closing) := by
  induction count generalizing value t with
  | zero => rfl
  | succ count ih =>
    cases t with
    | nil => rfl
    | cons b t =>
      rw [List.cons_append,octalDigits,octalDigits]
      split
      · exact ih _ t
      · rfl

/-- The outcomes of a number in braces. -/
inductive SameNumber : Except Text (Nat × Text) → Except Text (Nat × Text) → Prop where
  | read (n : Nat) (rest : Text) : SameNumber (.ok (n,rest)) (.ok (n,rest ++ closing))
  | bad (rest rest' : Text) : SameNumber (.error rest) (.error rest')

theorem bracedHexLeaves (fuel value count : Nat) (t : Text) :
    Gives (fun r => ∀ p, r = .ok p → Leaves t p) (bracedHex fuel value count t) := by
  induction fuel generalizing value count t with
  | zero => exact Gives.ok.mpr (by simp)
  | succ fuel ih =>
    rw [bracedHex]
    refine .ite (fun _ => Gives.ok.mpr (by simp)) fun _ => ?_
    refine (nextCharRest t).bind fun p left => ?_
    refine .ite (fun _ => Gives.ok.mpr ?_) fun _ => ?_
    · split
      · simp
      · rintro _ ⟨⟩
        exact left
    · dsimp only
      split
      · exact Gives.ok.mpr (by simp)
      · refine .ite (fun _ => Gives.ok.mpr (by simp)) fun _ => ?_
        exact (ih _ _ p.2).imp fun r inner q ok => (inner q ok).trans left

theorem bracedHexAlong {fuel fuel' : Nat} {t : Text} (enough : t.length < fuel)
    (enough' : (t ++ closing).length < fuel') (value count : Nat) :
    Along SameNumber (fun _ => False) (bracedHex fuel value count t)
      (bracedHex fuel' value count (t ++ closing)) := by
  induction fuel generalizing fuel' value count t with
  | zero => contradiction
  | succ fuel ih =>
    obtain ⟨fuel',rfl⟩ : ∃ n, fuel' = n + 1 := Nat.exists_eq_add_of_le' (by omega)
    cases t with
    | nil => exact .ok (.bad _ _)
    | cons b t =>
      rw [bracedHex,bracedHex,if_neg (by simp),if_neg (by simp)]
      refine (nextCharAlong (by simp)).bind ?_ fun _ => False.elim
      rintro ⟨c,rest⟩ _ read rfl
      have shorter := (nextCharLeaves b t _ read).length_le
      dsimp only [id]
      split
      · split
        · exact .ok (.bad _ _)
        · exact .ok (.read _ _)
      split
      · exact .ok (.bad _ _)
      split
      · exact .ok (.bad _ _)
      refine ih ?_ ?_ _ _
      · simp only [List.length_cons] at enough shorter
        omega
      · simp only [List.length_append,List.length_cons] at enough' shorter ⊢
        omega

/-- An escape takes the backslash and a character. -/
theorem escapeTakes (b d : UInt8) (t : Text) : Gives (Leaves t) (readEscape (b :: d :: t)) := by
  unfold readEscape
  dsimp only [List.drop_succ_cons,List.drop_zero]
  refine .ite (fun _ => .error) fun _ => ?_
  refine (nextCharLeaves d t).bind fun p left => ?_
  obtain ⟨c,rest⟩ := p
  dsimp only
  refine .ite (fun _ => ?_) fun _ => .ite (fun _ => ?_) fun _ => ?_
  · refine .ite (fun _ => .error) fun _ => Gives.ok.mpr ?_
    exact (octalLeaves _ _ rest).trans left
  · refine .ite (fun _ => .error) fun _ => ?_
    refine (nextCharRest rest).bind fun q inner => .ite (fun _ => ?_) fun _ => ?_
    · refine (bracedHexLeaves _ _ _ q.2).bind fun r braced => ?_
      split
      · exact Gives.ok.mpr (((braced _ rfl).trans inner).trans left)
      · exact .error
    · refine (nextCharRest q.2).bind fun q' last => ?_
      split
      · exact Gives.ok.mpr ((last.trans inner).trans left)
      · exact .error
  · split
    iterate 6 exact Gives.ok.mpr left
    exact .ite (fun _ => Gives.ok.mpr left) fun _ => .error

theorem escapeLeaves (b : UInt8) (t : Text) : Gives (Leaves t) (readEscape (b :: t)) := by
  cases t with
  | nil => exact .error
  | cons d t => exact (escapeTakes b d t).imp fun _ left => left.trans (List.suffix_cons d t)

theorem escapeAlong {t : Text} (some : t ≠ []) :
    Along (Kept id) Into (readEscape t) (readEscape (t ++ closing)) := by
  obtain ⟨b,t,rfl⟩ := List.exists_cons_of_ne_nil some
  cases t with
  | nil => exact .past (escapeTakes b (Text.byte ')') [Text.byte '$'])
  | cons d t =>
    unfold readEscape
    dsimp only [List.cons_append,List.drop_succ_cons,List.drop_zero,List.isEmpty_cons]
    refine (nextCharAlong (by simp)).bind ?_ fun _ => False.elim
    rintro ⟨c,rest⟩ _ read rfl
    dsimp only [id]
    refine .ite .rfl (fun _ => .ite ?_ (fun _ => .error) fun _ => ?_) fun _ =>
      .ite .rfl (fun _ => ?_) fun _ => ?_
    · cases rest with
      | nil =>
        have other : (decide (Text.byte '0' ≤ Text.byte ')') &&
          decide (Text.byte ')' ≤ Text.byte '7')) = false := by decide
        simp only [closing,List.nil_append,other]
      | cons e rest => rfl
    · rw [octalBehind]
      exact .ok rfl
    · cases rest with
      | nil => exact .error
      | cons e rest =>
        refine (nextCharAlong (by simp)).bind ?_ fun _ => False.elim
        rintro ⟨x,rest⟩ _ _ rfl
        refine .ite .rfl (fun _ => ?_) fun _ => ?_
        · refine (bracedHexAlong (by simp) (by simp) 0 0).bind ?_ fun _ => False.elim
          rintro _ _ _ (⟨n,rest⟩ | ⟨rest,rest'⟩)
          · exact .ok rfl
          · exact .error
        · cases rest with
          | nil =>
            -- The parenthesis is no digit, and neither is the end of the text.
            have digit : hexChar (Option.some ')') = none ∧ hexChar none = none := by decide
            have character : nextChar closing = .ok (Option.some ')',[Text.byte '$']) := rfl
            have ending : nextChar [] = .ok (none,[]) := rfl
            simp only [id,List.nil_append,character,ending,bind,Except.bind,digit]
            cases hexChar x <;> exact .error
          | cons f rest =>
            refine (nextCharAlong (by simp)).bind ?_ fun _ => False.elim
            rintro ⟨y,rest⟩ _ _ rfl
            dsimp only [id]
            split
            · exact .ok rfl
            · exact .error
    · split
      iterate 6 exact .ok rfl
      exact .ite .rfl (fun _ => .ok rfl) fun _ => .error

end LogSql.Pattern
