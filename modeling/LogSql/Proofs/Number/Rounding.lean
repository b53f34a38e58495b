import Mathlib.Algebra.Order.Field.Power
import Mathlib.Data.Rat.Floor
import Mathlib.Tactic.FieldSimp
import Mathlib.Tactic.Linarith
import Mathlib.Tactic.LinearCombination
import Mathlib.Tactic.Positivity
import Mathlib.Tactic.Ring
import LogSql.Number.Binary64

/-! Rounding. A number of the format is worth a rational, and an operation gives one that none is nearer to
the exact result than: its mantissa is the nearest on the grid of its exponent, and numbers off that grid
are smaller than those on it. A result is too large from halfway between the greatest number and the next
power of two on. -/
namespace LogSql.Binary64

/-- The rational `± m * 2 ^ e`. -/
def amount (negative : Bool) (m : Nat) (e : Int) : ℚ :=
  if negative then -(m * 2 ^ e) else m * 2 ^ e

/-- A number of the format and the rational that it is worth. -/
inductive Worth : Binary64 → ℚ → Prop where
  | finite {negative : Bool} {m : Nat} {e : Int} (narrow : m < 2 ^ 53) (low : -1074 ≤ e)
      (high : e ≤ 971) : Worth (.finite negative m e) (amount negative m e)

/-- A rational of the format such that none is nearer to a given one. When another one is just as near, it
is an even multiple of their distance. -/
structure Nearest (q y : ℚ) : Prop where
  some : ∃ x, Worth x y
  least : ∀ x z, Worth x z → |q - y| ≤ |q - z|
  even : ∀ x z, Worth x z → |q - z| = |q - y| → z ≠ y → ∃ k : Int, y = 2 * k * (y - z)

/-- Halfway between the greatest number and the next power of two. -/
def overflow : ℚ := (2 ^ 53 - 1 / 2) * 2 ^ (971 : Int)

/-! ### Amounts -/

theorem amountNegated (negative : Bool) (m : Nat) (e : Int) :
    amount (!negative) m e = -amount negative m e := by
  cases negative <;> simp [amount]

theorem amountSize (negative : Bool) (m : Nat) (e : Int) : |amount negative m e| = m * 2 ^ e := by
  have positive : (0 : ℚ) ≤ m * 2 ^ e := by positivity
  cases negative <;> simp [amount,abs_of_nonneg positive]

theorem Worth.negated {x : Binary64} {y : ℚ} (worth : Worth x y) : ∃ z, Worth z (-y) := by
  obtain @⟨negative,m,e,narrow,low,high⟩ := worth
  rw [← amountNegated]
  exact ⟨_,.finite narrow low high⟩

theorem Nearest.negated {q y : ℚ} (nearest : Nearest q y) : Nearest (-q) (-y) := by
  obtain ⟨⟨x,worth⟩,least,even⟩ := nearest
  have flipped (v : ℚ) : |-q - v| = |q - -v| := by rw [show -q - v = -(q - -v) by ring,abs_neg]
  refine ⟨worth.negated,fun z v other => ?_,fun z v other same apart => ?_⟩
  · obtain ⟨w,mirrored⟩ := other.negated
    rw [flipped,flipped,neg_neg]
    exact least w _ mirrored
  · obtain ⟨w,mirrored⟩ := other.negated
    rw [flipped,flipped,neg_neg] at same
    obtain ⟨k,multiple⟩ := even w _ mirrored same (fun met => apart (by rw [← met,neg_neg]))
    exact ⟨k,by linear_combination -multiple⟩

/-- Only one number is nearest. -/
theorem Nearest.unique {q y z : ℚ} (first : Nearest q y) (second : Nearest q z) : y = z := by
  obtain ⟨x,worth⟩ := first.some
  obtain ⟨w,worth'⟩ := second.some
  by_contra apart
  have same := le_antisymm (first.least w z worth') (second.least x y worth)
  obtain ⟨k,multiple⟩ := first.even w z worth' same.symm (Ne.symm apart)
  obtain ⟨j,multiple'⟩ := second.even x y worth same apart
  have odd : ((2 * (k + j) - 1 : Int) : ℚ) * (y - z) = 0 := by
    push_cast
    linear_combination multiple' - multiple
  rcases mul_eq_zero.mp odd with none | met
  · have none : 2 * (k + j) - 1 = 0 := by exact_mod_cast none
    omega
  · exact apart (sub_eq_zero.mp met)

/-- A bound of the format on a rational is one on the nearest number. -/
theorem Nearest.most {q y b : ℚ} {x : Binary64} (nearest : Nearest q y) (worth : Worth x b)
    (below : q ≤ b) : y ≤ b := by
  by_contra above
  have near := nearest.least x b worth
  rw [abs_of_nonpos (by linarith),abs_of_nonpos (by linarith)] at near
  linarith

theorem Nearest.fewest {q y b : ℚ} {x : Binary64} (nearest : Nearest q y) (worth : Worth x b)
    (above : b ≤ q) : b ≤ y := by
  obtain ⟨z,mirrored⟩ := worth.negated
  linarith [nearest.negated.most mirrored (by linarith)]

/-- What is nearest to a rational lies below a number of the format only if the rational does. -/
theorem Nearest.under {q y b : ℚ} {x : Binary64} (nearest : Nearest q y) (worth : Worth x b)
    (less : y < b) : q < b := by
  by_contra more
  exact absurd (nearest.fewest worth (not_lt.mp more)) (not_le.mpr less)

/-! ### Grids -/

/-- A mantissa that is nearest to a positive rational on the grid of an exponent, and even where two are,
where the exponent is the least one or leaves no bit of the mantissa unused. -/
structure OnGrid (q : ℚ) (m : Nat) (e : Int) : Prop where
  low : -1074 ≤ e
  fine : e = -1074 ∨ 2 ^ (e + 52) ≤ q
  half : |q - m * 2 ^ e| ≤ 2 ^ e / 2
  even : |q - m * 2 ^ e| = 2 ^ e / 2 → m % 2 = 0

section OnGrid

variable {q z : ℚ} {m : Nat} {e : Int} {x : Binary64}

/-- Two numbers of a grid lie apart by its step. -/
theorem OnGrid.apart (q : ℚ) (m e : Int) {j : Int} (other : j ≠ m) :
    (2 : ℚ) ^ e ≤ |q - m * 2 ^ e| + |q - j * 2 ^ e| := by
  have positive : (0 : ℚ) < 2 ^ e := by positivity
  have apart : (1 : ℚ) ≤ |(m : ℚ) - j| := by
    exact_mod_cast Int.one_le_abs (sub_ne_zero.mpr other.symm)
  have far : (2 : ℚ) ^ e ≤ |(m : ℚ) * 2 ^ e - j * 2 ^ e| := by
    rw [← sub_mul,abs_mul,abs_of_pos positive]
    exact le_mul_of_one_le_left positive.le apart
  have triangle := abs_sub_le ((m : ℚ) * 2 ^ e) q (j * 2 ^ e)
  rw [abs_sub_comm _ q] at triangle
  linarith

theorem OnGrid.least (grid : OnGrid q m e) (j : Int) : |q - m * 2 ^ e| ≤ |q - j * 2 ^ e| := by
  rcases eq_or_ne j m with rfl | other
  · simp
  · have apart := OnGrid.apart q m e other
    push_cast at apart
    linarith [grid.half]

/-- What is not on the grid has a smaller exponent, and so it lies below the grid's first number. -/
theorem OnGrid.multiple (grid : OnGrid q m e) (worth : Worth x z) :
    (∃ j : Int, z = j * 2 ^ e) ∨ |q - m * 2 ^ e| < |q - z| := by
  obtain @⟨negative,n,f,narrow,low,high⟩ := worth
  rcases Int.lt_or_le f e with finer | coarser
  · right
    rcases grid.fine with fine | fine
    · omega
    · have width : (2 : ℚ) ^ (f + 53) ≤ 2 ^ (e + 52) := zpow_le_zpow_right₀ (by norm_num) (by omega)
      have size : |amount negative n f| < 2 ^ (e + 52) := by
        rw [amountSize]
        refine lt_of_lt_of_le ?_ width
        rw [add_comm,zpow_add₀ (by norm_num)]
        exact mul_lt_mul_of_pos_right (by exact_mod_cast narrow) (by positivity)
      have first := grid.least (2 ^ 52)
      have spelled : ((2 ^ 52 : Int) : ℚ) * 2 ^ e = 2 ^ (e + 52) := by
        rw [zpow_add₀ (by norm_num),mul_comm]
        norm_num
      rw [spelled,abs_of_nonneg (sub_nonneg.mpr fine)] at first
      have beyond := le_abs_self (q - amount negative n f)
      have below := (le_abs_self (amount negative n f)).trans_lt size
      linarith
  · obtain ⟨k,rfl⟩ := Int.le.dest coarser
    refine .inl ⟨(if negative then -1 else 1) * n * 2 ^ k,?_⟩
    rw [amount,zpow_add₀ (by norm_num),zpow_natCast]
    cases negative <;> push_cast <;> simp <;> ring

theorem OnGrid.nearest (grid : OnGrid q m e) (worth : Worth x z) : |q - m * 2 ^ e| ≤ |q - z| := by
  rcases grid.multiple worth with ⟨j,rfl⟩ | far
  · exact grid.least j
  · exact far.le

/-- Of two numbers that are as near, the one of the grid is even. -/
theorem OnGrid.tied (grid : OnGrid q m e) (worth : Worth x z) (same : |q - z| = |q - m * 2 ^ e|)
    (other : z ≠ m * 2 ^ e) : ∃ k : Int, (m : ℚ) * 2 ^ e = 2 * k * (m * 2 ^ e - z) := by
  have positive : (0 : ℚ) < 2 ^ e := by positivity
  obtain ⟨j,rfl⟩ := (grid.multiple worth).resolve_right (by rw [same]; exact lt_irrefl _)
  have off : j ≠ m := by
    rintro rfl
    exact other (by simp)
  have apart := OnGrid.apart q m e off
  push_cast at apart
  have half : |q - m * 2 ^ e| = 2 ^ e / 2 := by linarith [grid.half]
  have step : m - j = 1 ∨ m - j = -1 := by
    have close := abs_sub_le ((m : ℚ) * 2 ^ e) q (j * 2 ^ e)
    rw [abs_sub_comm _ q,same,half,add_halves,← sub_mul,abs_mul,abs_of_pos positive] at close
    have unit : |(m - j : Int)| ≤ 1 := by exact_mod_cast (mul_le_iff_le_one_left positive).mp close
    obtain ⟨low,high⟩ := abs_le.mp unit
    omega
  obtain ⟨i,rfl⟩ := Nat.dvd_of_mod_eq_zero (grid.even half)
  rcases step with up | down
  · have next : (j : ℚ) = (2 * i : Nat) - 1 := by exact_mod_cast (by omega : j = (2 * i : Nat) - 1)
    refine ⟨i,?_⟩
    rw [next]
    push_cast
    ring
  · have next : (j : ℚ) = (2 * i : Nat) + 1 := by exact_mod_cast (by omega : j = (2 * i : Nat) + 1)
    refine ⟨-i,?_⟩
    rw [next]
    push_cast
    ring

end OnGrid

theorem OnGrid.close {q : ℚ} {m : Nat} {e : Int} (grid : OnGrid q m e) :
    |q - m * 2 ^ e| ≤ max (q / 2 ^ 53) (2 ^ (-1075 : Int)) := by
  refine grid.half.trans ?_
  rcases grid.fine with rfl | fine
  · refine le_max_of_le_right (le_of_eq ?_)
    rw [show (-1075 : Int) = -1074 - 1 by norm_num,zpow_sub_one₀ (by norm_num),div_eq_mul_inv]
  · refine le_max_of_le_left ?_
    rw [div_le_div_iff₀ (by norm_num) (by norm_num)]
    rw [zpow_add₀ (by norm_num)] at fine
    norm_num at fine ⊢
    linarith

/-! ### Quotients -/

theorem powerCast {e : Int} (positive : 0 ≤ e) : ((Nat.pow 2 e.toNat : Nat) : ℚ) = 2 ^ e := by
  rw [← Int.toNat_of_nonneg positive,zpow_natCast,Int.toNat_natCast]
  exact Nat.cast_pow 2 _

theorem powerInverse {e : Int} (negative : ¬ 0 ≤ e) :
    ((Nat.pow 2 (-e).toNat : Nat) : ℚ) = (2 ^ e)⁻¹ := by
  rw [powerCast (by omega),zpow_neg]

theorem roundDivHalf (n : Nat) {d : Nat} (positive : 0 < d) :
    |(n : ℚ) / d - roundDiv n d| ≤ 1 / 2 ∧
      (|(n : ℚ) / d - roundDiv n d| = 1 / 2 → roundDiv n d % 2 = 0) := by
  have unit : (0 : ℚ) < d := by exact_mod_cast positive
  have whole : (n : ℚ) / d = (n / d : Nat) + (n % d : Nat) / d := by
    rw [add_div' _ _ _ unit.ne',div_left_inj' unit.ne']
    exact_mod_cast (Nat.div_add_mod' n d).symm
  have short : ((n % d : Nat) : ℚ) / d < 1 :=
    (div_lt_one unit).mpr (by exact_mod_cast Nat.mod_lt n positive)
  have rest : (0 : ℚ) ≤ (n % d : Nat) / d := by positivity
  have tie : ((n % d : Nat) : ℚ) / d = 1 / 2 → 2 * (n % d) = d := by
    intro half
    rw [div_eq_div_iff unit.ne' (by norm_num)] at half
    have exact : n % d * 2 = 1 * d := by exact_mod_cast half
    omega
  unfold roundDiv
  dsimp only
  rw [whole]
  split
  · have up : (1 : ℚ) / 2 ≤ (n % d : Nat) / d := by
      rw [div_le_div_iff₀ (by norm_num) unit]
      exact_mod_cast (by omega : 1 * d ≤ n % d * 2)
    push_cast
    rw [add_sub_add_left_eq_sub,abs_of_nonpos (by linarith)]
    refine ⟨by linarith,fun half => ?_⟩
    have met := tie (by linarith)
    omega
  · have down : ((n % d : Nat) : ℚ) / d ≤ 1 / 2 := by
      rw [div_le_div_iff₀ unit (by norm_num)]
      exact_mod_cast (by omega : n % d * 2 ≤ 1 * d)
    rw [add_sub_cancel_left,abs_of_nonneg rest]
    refine ⟨down,fun half => ?_⟩
    have met := tie half
    omega

/-- The fraction `num / den` in units of `2 ^ e`, as numerator and denominator. -/
def shifted (num den : Nat) (e : Int) : Nat × Nat :=
  if 0 ≤ e then (num, den * Nat.pow 2 e.toNat) else (num * Nat.pow 2 (-e).toNat, den)

theorem shiftedRatio (num : Nat) {den : Nat} (positive : 0 < den) (e : Int) :
    0 < (shifted num den e).2 ∧
      ((shifted num den e).1 : ℚ) / (shifted num den e).2 = num / den / 2 ^ e := by
  have unit : (den : ℚ) ≠ 0 := by exact_mod_cast positive.ne'
  unfold shifted
  split
  · refine ⟨Nat.mul_pos positive (Nat.pow_pos (by omega)),?_⟩
    rw [Nat.cast_mul,powerCast ‹_›,div_div]
  · refine ⟨positive,?_⟩
    rw [Nat.cast_mul,powerInverse ‹_›]
    ring

theorem floorLog2Steps (num den : Nat) : floorLog2 num den =
    let e : Int := (Nat.log2 num : Int) - Nat.log2 den
    if (shifted num den e).1 < (shifted num den e).2 then e - 1 else e := rfl

theorem floorLog2Bounds {num den : Nat} (some : 0 < num) (positive : 0 < den) :
    (2 : ℚ) ^ floorLog2 num den ≤ num / den ∧ (num : ℚ) / den < 2 ^ (floorLog2 num den + 1) := by
  have unit : (0 : ℚ) < den := by exact_mod_cast positive
  obtain ⟨below,ratio⟩ := shiftedRatio num positive ((Nat.log2 num : Int) - Nat.log2 den)
  have scale : (0 : ℚ) < 2 ^ ((Nat.log2 num : Int) - Nat.log2 den) := by positivity
  have least : (2 : ℚ) ^ Nat.log2 num ≤ num := by exact_mod_cast Nat.log2_self_le some.ne'
  have most : (num : ℚ) < 2 ^ (Nat.log2 num + 1) := by exact_mod_cast Nat.lt_log2_self
  have least' : (2 : ℚ) ^ Nat.log2 den ≤ den := by exact_mod_cast Nat.log2_self_le positive.ne'
  have most' : (den : ℚ) < 2 ^ (Nat.log2 den + 1) := by exact_mod_cast Nat.lt_log2_self
  have unitBelow : (0 : ℚ) < (shifted num den ((Nat.log2 num : Int) - Nat.log2 den)).2 := by
    exact_mod_cast below
  rw [floorLog2Steps]
  dsimp only
  split
  · have less : (num : ℚ) / den < 2 ^ ((Nat.log2 num : Int) - Nat.log2 den) := by
      rw [← div_lt_one scale,← ratio,div_lt_one unitBelow]
      exact Nat.cast_lt.mpr ‹_›
    rw [Int.sub_add_cancel]
    refine ⟨?_,less⟩
    have split : ((Nat.log2 num : Int) - Nat.log2 den - 1) = (Nat.log2 num : Int) - (Nat.log2 den + 1 : Nat) := by
      push_cast
      ring
    rw [split,zpow_sub₀ (by norm_num),zpow_natCast,zpow_natCast]
    exact div_le_div₀ (by positivity) least unit most'.le
  · have more : (2 : ℚ) ^ ((Nat.log2 num : Int) - Nat.log2 den) ≤ num / den := by
      rw [← one_le_div scale,← ratio,one_le_div unitBelow]
      exact Nat.cast_le.mpr (Nat.not_lt.mp ‹_›)
    refine ⟨more,?_⟩
    have split : ((Nat.log2 num : Int) - Nat.log2 den + 1) = (Nat.log2 num + 1 : Nat) - (Nat.log2 den : Int) := by
      push_cast
      ring
    rw [split,zpow_sub₀ (by norm_num),zpow_natCast,zpow_natCast]
    exact div_lt_div₀ most least' (by positivity) (by positivity)

/-! ### Results -/

/-- What an operation gives whose exact result is a rational. -/
structure Rounds (q : ℚ) (x : Binary64) : Prop where
  inside : |q| < overflow → ∃ y, Worth x y ∧ Nearest q y ∧ |q - y| ≤ max (|q| / 2 ^ 53) (2 ^ (-1075 : Int))
  beyond : overflow ≤ |q| → ∃ negative, x = .infinite negative

theorem ofRatioSteps {num : Nat} (some : num ≠ 0) (negative : Bool) (den : Nat) :
    ofRatio negative num den =
      let e := max (floorLog2 num den - 52) (-1074)
      let m := roundDiv (shifted num den e).1 (shifted num den e).2
      let carried := if m = 2 ^ 53 then (2 ^ 52,e + 1) else (m,e)
      if 971 < carried.2 then .infinite negative else .finite negative carried.1 carried.2 := by
  unfold ofRatio
  rw [if_neg some]
  rfl

theorem ofRatioGrid {num den : Nat} (some : 0 < num) (positive : 0 < den) :
    let e := max (floorLog2 num den - 52) (-1074)
    let m := roundDiv (shifted num den e).1 (shifted num den e).2
    OnGrid (num / den) m e ∧ (num : ℚ) / den < 2 ^ (e + 53) ∧ m ≤ 2 ^ 53 := by
  intro e m
  obtain ⟨low,high⟩ := floorLog2Bounds some positive
  obtain ⟨below,ratio⟩ := shiftedRatio num positive e
  have scale : (0 : ℚ) < 2 ^ e := by positivity
  obtain ⟨half,even⟩ := roundDivHalf (shifted num den e).1 below
  rw [ratio] at half even
  have small : (num : ℚ) / den < 2 ^ (e + 53) :=
    high.trans_le (zpow_le_zpow_right₀ (by norm_num) (by omega))
  have scaled : |(num : ℚ) / den - m * 2 ^ e| = |(num : ℚ) / den / 2 ^ e - m| * 2 ^ e := by
    rw [← abs_of_pos scale,← abs_mul,sub_mul,abs_of_pos scale,div_mul_cancel₀ _ scale.ne']
  refine ⟨⟨by omega,?_,?_,fun tied => even ?_⟩,small,?_⟩
  · rcases Int.le_total (floorLog2 num den - 52) (-1074) with least | more
    · exact .inl (by omega)
    · exact .inr ((zpow_le_zpow_right₀ (by norm_num) (by omega)).trans low)
  · rw [scaled,← one_div_mul_eq_div 2]
    exact mul_le_mul_of_nonneg_right half scale.le
  · rw [scaled,← one_div_mul_eq_div 2] at tied
    exact mul_right_cancel₀ scale.ne' tied
  · have least := (abs_le.mp half).1
    have narrow : (num : ℚ) / den / 2 ^ e < 2 ^ 53 := by
      rw [div_lt_iff₀ scale]
      rwa [zpow_add₀ (by norm_num),mul_comm] at small
    have most : ((m : Nat) : ℚ) < 2 ^ 53 + 1 := by linarith
    exact Nat.lt_succ_iff.mp (by exact_mod_cast most)

theorem roundDivCarries {n d : Nat} (most : n < 2 ^ 53 * d) (near : (2 ^ 54 - 1) * d ≤ 2 * n) :
    roundDiv n d = 2 ^ 53 := by
  have quotient : n / d = 2 ^ 53 - 1 := Nat.div_eq_of_lt_le (by omega) (by omega)
  have split := Nat.div_add_mod' n d
  rw [quotient] at split
  unfold roundDiv
  dsimp only
  rw [quotient,if_pos (by omega)]
  rfl

theorem overflowBetween : 2 ^ (1023 : Int) ≤ overflow ∧ overflow < 2 ^ (1024 : Int) ∧ 0 < overflow := by
  have scale : (0 : ℚ) < 2 ^ (971 : Int) := by positivity
  rw [overflow,show (1023 : Int) = 52 + 971 by norm_num,show (1024 : Int) = 53 + 971 by norm_num,
    zpow_add₀ (by norm_num),zpow_add₀ (by norm_num)]
  exact ⟨mul_le_mul_of_nonneg_right (by norm_num) scale.le,mul_lt_mul_of_pos_right (by norm_num) scale,
    mul_pos (by norm_num) scale⟩

theorem overflowGrid {q : ℚ} {m : Nat} {e : Int} (grid : OnGrid q m e) (inside : q < overflow) :
    e ≤ 971 ∧ (m = 2 ^ 53 → e + 1 ≤ 971) := by
  have least : e ≤ 971 := by
    rcases grid.fine with rfl | fine
    · omega
    · have power := fine.trans_lt (inside.trans overflowBetween.2.1)
      have less := (zpow_lt_zpow_iff_right₀ (by norm_num)).mp power
      omega
  refine ⟨least,fun carried => ?_⟩
  by_contra last
  obtain rfl : e = 971 := by omega
  have half := (abs_le.mp grid.half).1
  rw [carried] at half
  rw [overflow] at inside
  generalize (2 : ℚ) ^ (971 : Int) = p at half inside
  push_cast at half
  linarith

theorem ofRatioCarries {num den : Nat} (some : 0 < num) (positive : 0 < den)
    (beyond : overflow ≤ num / den) :
    let e := max (floorLog2 num den - 52) (-1074)
    let m := roundDiv (shifted num den e).1 (shifted num den e).2
    971 < e ∨ e = 971 ∧ m = 2 ^ 53 := by
  intro e m
  obtain ⟨_,small,_⟩ := ofRatioGrid some positive
  change (num : ℚ) / den < 2 ^ (e + 53) at small
  have high : 971 ≤ e := by
    have power := overflowBetween.1.trans_lt (beyond.trans_lt small)
    have less := (zpow_lt_zpow_iff_right₀ (by norm_num)).mp power
    omega
  refine (Int.lt_or_eq_of_le high).imp_right fun last => ⟨last.symm,?_⟩
  obtain ⟨below,ratio⟩ := shiftedRatio num positive e
  have unit : (0 : ℚ) < (shifted num den e).2 := by exact_mod_cast below
  have scale : (0 : ℚ) < 2 ^ e := by positivity
  refine roundDivCarries ?_ ?_
  · rw [zpow_add₀ (by norm_num),← div_lt_iff₀' scale,← ratio,div_lt_iff₀ unit] at small
    exact_mod_cast small
  · rw [overflow,last,← le_div_iff₀ scale,← ratio,le_div_iff₀ unit] at beyond
    have near : (((2 ^ 54 - 1) * (shifted num den e).2 : Nat) : ℚ) ≤
        (2 * (shifted num den e).1 : Nat) := by
      push_cast
      linarith
    exact Nat.cast_le.mp near

theorem zeroWorth (negative : Bool) : Worth (zero negative) 0 := by
  have nothing : amount negative 0 (-1074) = 0 := by simp [amount]
  exact nothing ▸ Worth.finite (by omega) (by omega) (by omega)

theorem carriedWorth {m : Nat} {e : Int} (narrow : m ≤ 2 ^ 53) (low : -1074 ≤ e) (high : e ≤ 971)
    (carried : m = 2 ^ 53 → e + 1 ≤ 971) (negative : Bool) :
    Worth (.finite negative (if m = 2 ^ 53 then (2 ^ 52,e + 1) else (m,e)).1
      (if m = 2 ^ 53 then (2 ^ 52,e + 1) else (m,e)).2) (amount negative m e) := by
  split
  · have same : amount negative m e = amount negative (2 ^ 52) (e + 1) := by
      rw [amount,amount,‹m = 2 ^ 53›,zpow_add_one₀ (by norm_num)]
      push_cast
      ring_nf
    rw [same]
    exact .finite (by omega) (by omega) (carried ‹_›)
  · exact .finite (by omega) low high

/-- Nothing is nearest to what is too small to count. -/
theorem zeroNearest {q : ℚ} (small : |q| ≤ 2 ^ (-1075 : Int)) :
    Nearest q 0 ∧ |q - 0| ≤ max (|q| / 2 ^ 53) (2 ^ (-1075 : Int)) := by
  have grid : OnGrid q 0 (-1074) := by
    refine ⟨le_rfl,.inl rfl,?_,fun _ => rfl⟩
    rw [Nat.cast_zero,zero_mul,sub_zero]
    refine small.trans (le_of_eq ?_)
    rw [show (-1075 : Int) = -1074 - 1 by norm_num,zpow_sub_one₀ (by norm_num),div_eq_mul_inv]
  refine ⟨⟨⟨_,zeroWorth false⟩,fun x z other => ?_,fun x z _ _ _ => ⟨0,by simp⟩⟩,?_⟩
  · simpa using grid.nearest other
  · rw [sub_zero]
    exact small.trans (le_max_right _ _)

/-- The nearest number of the grid is the nearest one of the format, on either side of zero. -/
theorem OnGrid.signed {q : ℚ} {m : Nat} {e : Int} (grid : OnGrid q m e) (narrow : m ≤ 2 ^ 53) (high : e ≤ 971)
    (carried : m = 2 ^ 53 → e + 1 ≤ 971) (negative : Bool) :
    Nearest (if negative then -q else q) (amount negative m e) ∧
      |(if negative then -q else q) - amount negative m e| ≤ max (q / 2 ^ 53) (2 ^ (-1075 : Int)) := by
  have nearest : Nearest q (m * 2 ^ e) :=
    ⟨⟨_,carriedWorth narrow grid.low high carried false⟩,fun x z worth => grid.nearest worth,
      fun x z worth => grid.tied worth⟩
  cases negative
  · exact ⟨nearest,grid.close⟩
  · refine ⟨nearest.negated,?_⟩
    change |-q - -(m * 2 ^ e)| ≤ _
    rw [neg_sub_neg,abs_sub_comm]
    exact grid.close

theorem ofRatioRounds (negative : Bool) (num : Nat) {den : Nat} (positive : 0 < den) :
    Rounds (if negative then -(num / den : ℚ) else num / den) (ofRatio negative num den) := by
  rcases Nat.eq_zero_or_pos num with rfl | some
  · have none : (if negative then -((0 : Nat) / den : ℚ) else (0 : Nat) / den) = 0 := by simp
    rw [none]
    exact ⟨fun _ => ⟨0,zeroWorth negative,zeroNearest (by rw [abs_zero]; positivity)⟩,
      fun beyond => absurd beyond (by simpa using overflowBetween.2.2)⟩
  · obtain ⟨grid,small,narrow⟩ := ofRatioGrid some positive
    have carries := ofRatioCarries some positive
    rw [ofRatioSteps some.ne']
    dsimp only at grid small narrow carries ⊢
    generalize max (floorLog2 num den - 52) (-1074) = e at *
    generalize roundDiv (shifted num den e).1 (shifted num den e).2 = m at *
    have whole : (0 : ℚ) ≤ num / den := by positivity
    generalize (num : ℚ) / den = q at *
    have size : |if negative then -q else q| = q := by
      cases negative <;> simp [abs_of_nonneg whole]
    constructor
    · intro inside
      rw [size] at inside ⊢
      obtain ⟨high,carried⟩ := overflowGrid grid inside
      have below : ¬ 971 < (if m = 2 ^ 53 then (2 ^ 52,e + 1) else (m,e)).2 := by
        split <;> dsimp only <;> grind
      rw [if_neg below]
      exact ⟨_,carriedWorth narrow grid.low high carried negative,grid.signed narrow high carried negative⟩
    · intro beyond
      rw [size] at beyond
      rcases carries beyond with high | ⟨rfl,rfl⟩
      · have above : 971 < (if m = 2 ^ 53 then (2 ^ 52,e + 1) else (m,e)).2 := by
          split <;> dsimp only <;> omega
        exact ⟨negative,if_pos above⟩
      · exact ⟨negative,by simp⟩

/-! ### Operations -/

theorem scaledRatio (m : Nat) (e : Int) :
    0 < (scaled m e).2 ∧ ((scaled m e).1 : ℚ) / (scaled m e).2 = m * 2 ^ e := by
  unfold scaled
  split
  · exact ⟨by omega,by rw [Nat.cast_mul,powerCast ‹_›,Nat.cast_one,div_one]⟩
  · exact ⟨Nat.pow_pos (by omega),by rw [powerInverse ‹_›,div_inv_eq_mul]⟩

theorem mulRounds {x y : Binary64} {a b : ℚ} (first : Worth x a) (second : Worth y b) :
    Rounds (a * b) (mul x y) := by
  obtain @⟨s,m,e,_,_,_⟩ := first
  obtain @⟨t,n,f,_,_,_⟩ := second
  obtain ⟨positive,ratio⟩ := scaledRatio (m * n) (e + f)
  have rounds := ofRatioRounds (s != t) (scaled (m * n) (e + f)).1 positive
  have product : amount s m e * amount t n f =
      if s != t then -(m * n * 2 ^ (e + f) : ℚ) else m * n * 2 ^ (e + f) := by
    rw [amount,amount,zpow_add₀ (by norm_num)]
    cases s <;> cases t <;> simp <;> ring
  rw [ratio,Nat.cast_mul,← product] at rounds
  exact rounds

/-- The part of a rational before the point. -/
def whole (q : ℚ) : Int := if q < 0 then ⌈q⌉ else ⌊q⌋

theorem wholeNegated (q : ℚ) : whole (-q) = -whole q := by
  unfold whole
  rcases lt_trichotomy q 0 with less | rfl | more
  · rw [if_neg (by linarith),if_pos less,Int.floor_neg]
  · simp
  · rw [if_pos (by linarith),if_neg (by linarith),Int.ceil_neg]

theorem truncateWorth {x : Binary64} {y : ℚ} (worth : Worth x y) : truncate? x = some (whole y) := by
  obtain @⟨negative,m,e,_,_,_⟩ := worth
  obtain ⟨positive,ratio⟩ := scaledRatio m e
  have size : (0 : ℚ) ≤ m * 2 ^ e := by positivity
  have front : whole (m * 2 ^ e) = ((scaled m e).1 / (scaled m e).2 : Nat) := by
    rw [whole,if_neg (not_lt.mpr size),← ratio]
    exact_mod_cast Rat.floor_natCast_div_natCast _ _
  change some (if negative then -(((scaled m e).1 / (scaled m e).2 : Nat) : Int) else _) = _
  cases negative
  · exact congrArg some front.symm
  · rw [amount,if_pos rfl,if_pos rfl,wholeNegated,front]

theorem floorWorth {x : Binary64} {y : ℚ} (worth : Worth x y) : floor? x = some ⌊y⌋ := by
  obtain @⟨negative,m,e,_,_,_⟩ := worth
  obtain ⟨positive,ratio⟩ := scaledRatio m e
  have signed : amount negative m e =
      ((if negative then -((scaled m e).1 : Int) else (scaled m e).1 : Int) : ℚ) /
        ((scaled m e).2 : Nat) := by
    rw [amount,← ratio]
    cases negative <;> simp [neg_div]
  rw [signed,Rat.floor_intCast_div_natCast,← Int.fdiv_eq_ediv_of_nonneg _ (by omega)]
  rfl

theorem unitsWorth (negative : Bool) (m : Nat) {e : Int} (low : -1074 ≤ e) :
    (units negative m e : ℚ) = amount negative m e * 2 ^ (1074 : Int) := by
  have power : (2 : ℚ) ^ e * 2 ^ (1074 : Int) = (Nat.pow 2 (e + 1074).toNat : Nat) := by
    rw [powerCast (by omega),zpow_add₀ (by norm_num)]
  have count : (((m * Nat.pow 2 (e + 1074).toNat : Nat) : Int) : ℚ) =
      m * 2 ^ e * 2 ^ (1074 : Int) := by
    rw [mul_assoc,power,Int.cast_natCast,Nat.cast_mul]
  unfold units amount
  cases negative
  · exact count
  · exact (Int.cast_neg _).trans (by rw [count,if_pos rfl,neg_mul])

section Order

variable {x y : Binary64} {a b : ℚ} (first : Worth x a) (second : Worth y b)
include first second

theorem ltWorth : x.lt y = true ↔ a < b := by
  obtain @⟨s,m,e,_,low,_⟩ := first
  obtain @⟨t,n,f,_,low',_⟩ := second
  have scale : (0 : ℚ) < 2 ^ (1074 : Int) := by positivity
  rw [lt,compare?,decide_eq_true_eq,Option.some_inj,compare_lt_iff_lt,← Int.cast_lt (R := ℚ),
    unitsWorth s m low,unitsWorth t n low',mul_lt_mul_iff_left₀ scale]

theorem leWorth : x.le y = true ↔ a ≤ b := by
  obtain @⟨s,m,e,_,low,_⟩ := first
  obtain @⟨t,n,f,_,low',_⟩ := second
  have scale : (0 : ℚ) < 2 ^ (1074 : Int) := by positivity
  rw [le,compare?,Bool.or_eq_true,decide_eq_true_eq,decide_eq_true_eq,Option.some_inj,Option.some_inj,
    compare_lt_iff_lt,compare_eq_iff_eq,← Int.le_iff_lt_or_eq,← Int.cast_le (R := ℚ),
    unitsWorth s m low,unitsWorth t n low',mul_le_mul_iff_left₀ scale]

end Order

/-! ### Integers -/

theorem nearestExact {q y : ℚ} {x : Binary64} (nearest : Nearest q y) (worth : Worth x q) : y = q := by
  have near := nearest.least x q worth
  rw [sub_self,abs_zero] at near
  exact (sub_eq_zero.mp (abs_nonpos_iff.mp near)).symm

/-- The integers of the mantissa, and the one behind them. -/
theorem smallWorth {k : Nat} (small : k ≤ 2 ^ 53) : ∃ x, Worth x k := by
  rcases Nat.lt_or_eq_of_le small with less | rfl
  · have size : amount false k 0 = k := by simp [amount]
    exact ⟨_,size ▸ Worth.finite less (by decide) (by decide)⟩
  · have size : amount false (2 ^ 52) 1 = ((2 ^ 53 : Nat) : ℚ) := by norm_num [amount]
    exact ⟨_,size ▸ Worth.finite (by decide) (by decide) (by decide)⟩

theorem integerWorth {n : Int} (small : n.natAbs ≤ 2 ^ 53) : ∃ x, Worth x n := by
  obtain ⟨x,worth⟩ := smallWorth small
  obtain ⟨z,mirrored⟩ := worth.negated
  rcases Int.natAbs_eq n with same | same
  · have cast : (n : ℚ) = n.natAbs := by rw [← Int.cast_natCast n.natAbs,← same]
    exact ⟨x,cast ▸ worth⟩
  · have cast : (n : ℚ) = -n.natAbs := by rw [← Int.cast_natCast n.natAbs,← Int.cast_neg,← same]
    exact ⟨z,cast ▸ mirrored⟩

end LogSql.Binary64
