import Mathlib.Data.List.Induction
import Mathlib.Logic.ExistsUnique
import LogSql.Compile.Names
import LogSql.Proofs.Text.Strings

/-! Names that are given once. The letters of a name tell which name of its stem it is and hold no
underscore, so a name tells its stem, and a name that counts further than those before it is new. Of the names
that are given one after the other no two are the same. -/
namespace LogSql.Compile

/-! ### Letters -/

/-- The number behind the one that letters count. -/
def letterValue (t : Text) : Nat := t.foldl (fun n b => 26 * n + (b.toNat - 96)) 0

theorem letterByte (n : Nat) : (UInt8.ofNat (97 + n % 26)).toNat = 97 + n % 26 := by
  simp only [UInt8.toNat_ofNat']
  omega

theorem lettersToValue {bound n : Nat} (below : n < bound) :
    letterValue (lettersTo bound n) = n + 1 := by
  induction bound generalizing n with
  | zero => omega
  | succ bound ih =>
    rw [lettersTo]
    split
    · simp only [letterValue,List.foldl_cons,List.foldl_nil,letterByte]
      omega
    · have before := ih (n := n / 26 - 1) (by omega)
      unfold letterValue at before ⊢
      rw [List.foldl_append,before]
      simp only [List.foldl_cons,List.foldl_nil,letterByte]
      omega

theorem lettersValue (n : Nat) : letterValue (letters n) = n + 1 := lettersToValue (Nat.lt_succ_self n)

theorem lettersInj {m n : Nat} (same : letters m = letters n) : m = n := by
  have left := lettersValue m
  have right := lettersValue n
  rw [same,right] at left
  omega

theorem lettersLower {bound n : Nat} :
    ∀ b ∈ lettersTo bound n, 97 ≤ b.toNat ∧ b.toNat ≤ 122 := by
  induction bound generalizing n with
  | zero => simp [lettersTo]
  | succ bound ih =>
    have last : 97 ≤ (UInt8.ofNat (97 + n % 26)).toNat ∧ (UInt8.ofNat (97 + n % 26)).toNat ≤ 122 := by
      rw [letterByte]
      omega
    rw [lettersTo]
    split
    · simpa using last
    · intro b mem
      rcases List.mem_append.mp mem with before | final
      · exact ih b before
      · rw [List.mem_singleton.mp final]
        exact last

theorem lettersToSame {bound other n : Nat} (below : n < bound) (fits : n < other) :
    lettersTo bound n = lettersTo other n := by
  induction bound generalizing other n with
  | zero => omega
  | succ bound ih =>
    cases other with
    | zero => omega
    | succ other =>
      rw [lettersTo,lettersTo]
      split
      · rfl
      · rw [ih (show n / 26 - 1 < bound by omega) (show n / 26 - 1 < other by omega)]

theorem lettersStep (n : Nat) : letters n =
    if n < 26 then [UInt8.ofNat (97 + n % 26)]
    else letters (n / 26 - 1) ++ [UInt8.ofNat (97 + n % 26)] := by
  rw [letters,lettersTo]
  split
  · rfl
  · rw [letters,lettersToSame (n := n / 26 - 1) (by omega) (Nat.lt_succ_self _)]

theorem lettersSome (n : Nat) : letters n ≠ [] := by
  rw [lettersStep]
  split <;> simp

/-- Every word of lower case letters counts the number in front of its value. -/
theorem lettersOnto {t : Text} (some : t ≠ []) (lower : ∀ b ∈ t, 97 ≤ b.toNat ∧ b.toNat ≤ 122) :
    letters (letterValue t - 1) = t := by
  induction t using List.reverseRecOn with
  | nil => contradiction
  | append_singleton front b ih =>
    obtain ⟨least,most⟩ := lower b (by simp)
    have value : letterValue (front ++ [b]) = 26 * letterValue front + (b.toNat - 96) := by
      simp [letterValue]
    have last : UInt8.ofNat (97 + (letterValue (front ++ [b]) - 1) % 26) = b := by
      apply UInt8.toNat_inj.mp
      rw [letterByte,value]
      omega
    rw [lettersStep,last]
    by_cases none : front = []
    · subst none
      have zero : letterValue [] = 0 := rfl
      rw [if_pos (by omega),List.nil_append]
    · have before := ih none fun x mem => lower x (List.mem_append_left _ mem)
      have positive : 0 < letterValue front := by
        rw [← before,lettersValue]
        omega
      rw [if_neg (by omega)]
      have carried : (letterValue (front ++ [b]) - 1) / 26 - 1 = letterValue front - 1 := by omega
      rw [carried,before]

theorem lettersAbsent {x : UInt8} (other : x.toNat < 97) (n : Nat) : x ∉ letters n :=
  fun mem => by
    have lower := (lettersLower x mem).1
    omega

/-! ### Names -/

/-- The name of a stem with a number. -/
def nameOf (stem : Text) (n : Nat) : Text := .concat [stem, "_", letters n]

theorem nameOfSplit (stem : Text) (n : Nat) :
    nameOf stem n = stem ++ Text.byte '_' :: letters n := by
  simp [nameOf,Text.concat]
  rfl

theorem nameOfInj {a b : Text} {m n : Nat} (same : nameOf a m = nameOf b n) : a = b ∧ m = n := by
  rw [nameOfSplit,nameOfSplit] at same
  obtain ⟨stems,counts⟩ :=
    Text.splitLast (lettersAbsent (by decide) m) (lettersAbsent (by decide) n) same
  exact ⟨stems,lettersInj counts⟩

/-- The stem and the number of a name: what stands before its last underscore, and what the letters behind
it count. -/
def nameRead (t : Text) : Text × Nat :=
  let count := t.reverse.takeWhile (· ≠ Text.byte '_')
  (t.take (t.length - (count.length + 1)),letterValue count.reverse - 1)

theorem nameReadOf (stem : Text) (n : Nat) : nameRead (nameOf stem n) = (stem, n) := by
  have absent : Text.byte '_' ∉ letters n := lettersAbsent (by decide) n
  have count : (nameOf stem n).reverse.takeWhile (· ≠ Text.byte '_') = (letters n).reverse := by
    rw [nameOfSplit,List.reverse_append,List.reverse_cons,List.append_assoc,
      List.takeWhile_append_of_pos]
    · simp
    · intro b mem
      exact decide_eq_true fun same => absent (same ▸ List.mem_reverse.mp mem)
  simp only [nameRead,count,List.reverse_reverse,lettersValue]
  simp [nameOfSplit]

namespace Names

variable {names : Names} {stem other : Text} {n : Nat}

/-- The names of a stem that were given. -/
def Gave (names : Names) (stem : Text) (n : Nat) : Prop := n < names.count stem

theorem freshName : (names.fresh stem).1 = nameOf stem (names.count stem) := rfl

theorem freshCount : (names.fresh stem).2.count stem = names.count stem + 1 := by
  simp [fresh,count]

theorem freshOthers (different : other ≠ stem) :
    (names.fresh stem).2.count other = names.count other := by
  have kept : (names.filter fun p => p.1 ≠ stem).find? (fun p => p.1 = other) =
      names.find? fun p => p.1 = other := by
    rw [List.find?_filter]
    congr 1
    funext p
    by_cases same : p.1 = other <;> simp [same,different]
  simp only [fresh,count,List.find?_cons,different.symm,decide_false]
  rw [kept]

theorem freshKeeps (gave : names.Gave other n) : (names.fresh stem).2.Gave other n := by
  unfold Gave at gave ⊢
  by_cases same : other = stem
  · subst same
    rw [freshCount]
    omega
  · rw [freshOthers same]
    exact gave

theorem freshGave : (names.fresh stem).2.Gave stem (names.count stem) := by
  unfold Gave
  rw [freshCount]
  omega

/-- A fresh name differs from all that were given. -/
theorem freshNew (gave : names.Gave other n) : (names.fresh stem).1 ≠ nameOf other n := by
  intro same
  obtain ⟨rfl,rfl⟩ := nameOfInj (freshName ▸ same)
  exact Nat.lt_irrefl _ gave

/-- The names that are given for one stem after the other. -/
def given : Names → List Text → List Text
  | _, [] => []
  | names, stem :: stems => (names.fresh stem).1 :: (names.fresh stem).2.given stems

/-- A name that was given is not given again. -/
theorem givenNew {stems : List Text} (gave : names.Gave other n) :
    nameOf other n ∉ names.given stems := by
  induction stems generalizing names with
  | nil => simp [given]
  | cons stem stems ih =>
    rw [given,List.mem_cons,not_or]
    exact ⟨(freshNew gave).symm,ih (freshKeeps gave)⟩

theorem givenNodup (names : Names) (stems : List Text) : (names.given stems).Nodup := by
  induction stems generalizing names with
  | nil => simp [given]
  | cons stem stems ih =>
    rw [given,List.nodup_cons,freshName]
    exact ⟨givenNew freshGave,ih _⟩

theorem givenAt (names : Names) (stems : List Text) (i : Nat) : (names.given stems)[i]? =
    stems[i]?.map fun stem => nameOf stem (names.count stem + (stems.take i).count stem) := by
  induction stems generalizing names i with
  | nil => simp [given]
  | cons stem stems ih =>
    rw [given]
    cases i with
    | zero => simp [freshName]
    | succ i =>
      rw [List.getElem?_cons_succ,List.getElem?_cons_succ,ih]
      congr 1
      funext later
      rw [List.take_succ_cons,List.count_cons]
      by_cases same : later = stem
      · subst same
        simp only [freshCount,beq_self_eq_true,if_true]
        rw [Nat.add_assoc,Nat.add_comm 1]
      · rw [freshOthers same,if_neg (by simpa using Ne.symm same),Nat.add_zero]

/-- The names that are given for any stems differ from each other. A name holds its stem and how often the
stem was named before, and both can be read off it: the words of lower case letters count all numbers, each
of them once. -/
theorem namesDiffer (stems : List Text) :
    (given [] stems).Nodup ∧
      (∀ i, (given [] stems)[i]? = stems[i]?.map fun stem => nameOf stem ((stems.take i).count stem)) ∧
      (∀ stem n, nameRead (nameOf stem n) = (stem, n)) ∧
      (∀ n, letterValue (letters n) = n + 1) ∧
      ∀ t, (∃! n, letters n = t) ↔ t ≠ [] ∧ ∀ b ∈ t, Text.byte 'a' ≤ b ∧ b ≤ Text.byte 'z' := by
  refine ⟨givenNodup [] stems,fun i => ?_,nameReadOf,lettersValue,fun t => ⟨?_,?_⟩⟩
  · have counted := givenAt [] stems i
    simpa [count] using counted
  · rintro ⟨n,rfl,_⟩
    exact ⟨lettersSome n,lettersLower⟩
  · rintro ⟨some,lower⟩
    exact ⟨letterValue t - 1,lettersOnto some lower,fun m same => by rw [← same,lettersValue]; rfl⟩

example : letters 25 = "z" ∧ letters 26 = "aa" ∧ letters 701 = "zz" ∧ letters 702 = "aaa" := by decide

end Names
end LogSql.Compile
