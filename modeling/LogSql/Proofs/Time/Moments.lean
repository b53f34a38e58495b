import LogSql.Proofs.Compile.Window
import LogSql.Proofs.Number.Spelling
import LogSql.Time.Moment

/-! Moments as requests write them. An integer counts seconds or nanoseconds by the number of its digits, a
decimal counts seconds, and the rest is in calendar notation. What a decimal denotes goes through the format
twice, as seconds and as milliseconds, and it is lost when the milliseconds leave sixty-four bits. -/
namespace LogSql.Moment

open Text (byte isDecimal)
open Number (Sign Integral Spells Literal special readFloat readInt)
open Binary64 (Worth Nearest overflow overflowBetween whole)
open Int64Range (fits fitsRange least)

/-! ### Integers -/

theorem digitsBound {t : Text} (decimal : ∀ b ∈ t, isDecimal b = true) :
    Text.digitsValue t < 10 ^ t.length := by
  suffices grown : ∀ n, t.foldl (fun n b => 10 * n + (b.toNat - 48)) n < (n + 1) * 10 ^ t.length by
    simpa [Text.digitsValue] using grown 0
  induction t with
  | nil => simp
  | cons b t ih =>
    intro n
    have digit : b.toNat - 48 ≤ 9 := by
      have last := decimal b List.mem_cons_self
      rw [isDecimal,Bool.and_eq_true,decide_eq_true_eq,decide_eq_true_eq] at last
      have most := UInt8.le_iff_toNat_le.mp last.2
      have nine : (byte '9').toNat = 57 := by decide
      omega
    have grown := ih (fun c held => decimal c (List.mem_cons_of_mem b held)) (10 * n + (b.toNat - 48))
    rw [List.foldl_cons,List.length_cons,Nat.pow_succ']
    refine grown.trans_le ?_
    rw [← Nat.mul_assoc]
    exact Nat.mul_le_mul_right _ (by omega)

section Integers

variable {sign digits : Text} {n : Int} (integral : Integral sign digits n)
include integral

theorem shortSize (short : digits.length ≤ 10) : -10 ^ 10 < n ∧ n < 10 ^ 10 := by
  obtain @⟨negative,_,_,decimal⟩ := integral
  have bound := (digitsBound decimal).trans_le (Nat.pow_le_pow_right (by omega) short)
  cases negative <;> simp <;> omega

/-- The length that the unit is chosen by counts a plus. -/
theorem measured : ((Text.stripStart "-" (sign ++ digits)).getD (sign ++ digits)).length =
    digits.length + if sign = [byte '+'] then 1 else 0 := by
  obtain ⟨signed,some,decimal⟩ := integral
  obtain ⟨b,rest,rfl⟩ := List.exists_cons_of_ne_nil some
  have first : b ≠ byte '-' := (Number.decimalUnsigned (t := rest) (decimal b List.mem_cons_self) b rfl).1
  have dash : Text.ofString "-" = [byte '-'] := by decide
  have unlike : byte '+' ≠ byte '-' := by decide
  rw [dash,Text.stripStart]
  cases signed with
  | none => simp [first.symm]
  | plus => simp [unlike.symm]
  | minus => simp [unlike.symm]

theorem integralGiven : sign ++ digits ≠ [] := by
  obtain ⟨_,some,_⟩ := integral
  simp [some]

theorem integerMoment (inside : fits n = true) : read? (sign ++ digits) =
    some (if digits.length + (if sign = [byte '+'] then 1 else 0) ≤ 10 then n * 1000
      else n.tdiv 1000000) := by
  rw [read?,if_neg (by simpa using integralGiven integral),Number.integerRead integral,if_pos inside]
  dsimp only
  rw [measured integral]
  generalize (if sign = [byte '+'] then 1 else 0) = plus
  by_cases short : digits.length + plus ≤ 10
  · have size := shortSize integral (by omega)
    rw [if_pos short,if_pos short,Int64Range.wrapSame]
    rw [fitsRange,least,Int64Range.greatest]
    omega
  · rw [if_neg short,if_neg short]

/-- An integer of up to ten digits is taken for seconds and a longer one for nanoseconds, but a plus makes ten
digits longer. -/
theorem unitsChosen (inside : fits n = true) : ∃ ms, read? (sign ++ digits) = some ms ∧
    ((ms = if digits.length ≤ 10 then n * 1000 else n.tdiv 1000000) ↔
      ¬ (sign = [byte '+'] ∧ digits.length = 10 ∧ n ≠ 0)) ∧
    (sign = [byte '+'] → digits.length = 10 → ms = n.tdiv 1000000) := by
  refine ⟨_,integerMoment integral inside,?_,fun plus ten => ?_⟩
  · by_cases longer : sign = [byte '+'] ∧ digits.length = 10
    · have quotient := Compile.tdivRest n (d := 1000000) (by omega)
      rw [if_pos longer.1,if_neg (by omega),if_pos (by omega)]
      constructor
      · rintro same ⟨_,_,some⟩
        omega
      · intro none
        obtain rfl : n = 0 := by
          by_contra some
          exact none ⟨longer.1,longer.2,some⟩
        rfl
    · rw [iff_true_right fun slip => longer ⟨slip.1,slip.2.1⟩]
      by_cases plus : sign = [byte '+']
      · have other : digits.length ≠ 10 := fun ten => longer ⟨plus,ten⟩
        rw [if_pos plus]
        split <;> split <;> first | rfl | omega
      · rw [if_neg plus,Nat.add_zero]
  · rw [if_pos plus,if_neg (by omega)]

end Integers

theorem plusTenRead : fits 1714564800 = true ∧ read? "+1714564800" = some 1714 ∧
    (1714 : Int) ≠ 1714564800 * 1000 := by
  have value : (Text.digitsValue ("1714564800" : Text) : Int) = 1714564800 := by decide +kernel
  have integral : Integral [byte '+'] ("1714564800" : Text) 1714564800 :=
    value ▸ .spelled .plus (by decide) (by decide +kernel)
  obtain ⟨ms,read,_,slip⟩ := unitsChosen integral (by decide)
  have spelled : ("+1714564800" : Text) = [byte '+'] ++ ("1714564800" : Text) := by decide
  obtain rfl := slip rfl (by decide)
  exact ⟨by decide,spelled ▸ read,by decide⟩

/-! ### Decimals -/

/-- The integer part is in range up to the next integer outside of it. -/
theorem wholeFits {q : ℚ} : fits (whole q) = true ↔ -2 ^ 63 - 1 < q ∧ q < 2 ^ 63 := by
  rw [fitsRange,least,Int64Range.greatest,whole]
  split
  · rename_i below
    have most : ⌈q⌉ ≤ 0 := Int.ceil_le.mpr (by simpa using below.le)
    have edge : -9223372036854775808 ≤ ⌈q⌉ ↔ -2 ^ 63 - 1 < q := by
      rw [Int.le_ceil_iff]
      norm_num
    exact and_congr edge (iff_of_true (by omega) (by linarith))
  · rename_i above
    have fewest : 0 ≤ ⌊q⌋ := Int.floor_nonneg.mpr (not_lt.mp above)
    have edge : ⌊q⌋ ≤ 9223372036854775807 ↔ q < 2 ^ 63 := by
      rw [← Int.lt_add_one_iff,Int.floor_lt]
      norm_num
    exact and_congr (iff_of_true (by omega) (by linarith)) edge

theorem thousandfold (q : ℚ) : |q * 1000| = |q| * 1000 := by
  rw [abs_mul,abs_of_pos (by norm_num : (0 : ℚ) < 1000)]

/-- Beyond the mantissa the numbers are even. -/
theorem largeEven {x : Binary64} {y : ℚ} (worth : Worth x y) (large : 2 ^ 53 < |y|) :
    ∃ k : Int, y = 2 * k := by
  obtain @⟨negative,m,e,narrow,low,high⟩ := worth
  rw [Binary64.amountSize] at large
  have positive : 1 ≤ e := by
    by_contra fraction
    have power : (2 : ℚ) ^ e ≤ 1 := zpow_le_one_of_nonpos₀ (by norm_num) (by omega)
    have bound : (m : ℚ) < 2 ^ 53 := by exact_mod_cast narrow
    nlinarith
  obtain ⟨k,rfl⟩ := Int.le.dest positive
  refine ⟨(if negative then -1 else 1) * m * 2 ^ k,?_⟩
  rw [Binary64.amount,zpow_add₀ (by norm_num),zpow_natCast,zpow_one]
  cases negative <;> push_cast <;> simp <;> ring

theorem thousandWorth : Worth (Binary64.ofInt 1000) 1000 := by
  have shape : Binary64.ofInt 1000 = .finite false (1000 * 2 ^ 43) (-43) := by decide +kernel
  have size : Binary64.amount false (1000 * 2 ^ 43) (-43) = 1000 := by norm_num [Binary64.amount]
  rw [shape,← size]
  exact .finite (by decide) (by decide) (by decide)

/-- The first number outside of sixty-four bits, which stands for the greatest integer inside. -/
theorem limitWorth : Worth (Binary64.ofInt Int64Range.greatest) (2 ^ 63) := by
  have shape : Binary64.ofInt Int64Range.greatest = .finite false (2 ^ 52) 11 := by decide +kernel
  have size : Binary64.amount false (2 ^ 52) 11 = 2 ^ 63 := by norm_num [Binary64.amount]
  rw [shape,← size]
  exact .finite (by decide) (by decide) (by decide)

theorem limitBelow : (2 : ℚ) ^ 63 < overflow := by
  have power : (2 : ℚ) ^ (63 : Int) < 2 ^ (1023 : Int) := zpow_lt_zpow_right₀ (by norm_num) (by norm_num)
  exact power.trans_le overflowBetween.1

theorem insideWorth : ∃ x, Worth x (2 ^ 63 - 1024) := by
  have size : Binary64.amount false (2 ^ 53 - 1) 10 = 2 ^ 63 - 1024 := by norm_num [Binary64.amount]
  rw [← size]
  exact ⟨_,.finite (by decide) (by decide) (by decide)⟩

/-- Milliseconds in range come of seconds that are so far inside that rounding stays in range. -/
theorem insideMargin {x : Binary64} {f : ℚ} (worth : Worth x f) (inside : fits (whole (f * 1000)) = true) :
    |f * 1000| ≤ 2 ^ 63 - 1024 := by
  rw [wholeFits] at inside
  rw [thousandfold]
  by_cases large : 2 ^ 53 < |f|
  · obtain ⟨k,rfl⟩ := largeEven worth large
    have low : -4611686018427388 < k := by
      have rational : ((-4611686018427388 : Int) : ℚ) < k := by
        push_cast
        linarith
      exact_mod_cast rational
    have high : k < 4611686018427388 := by
      have rational : (k : ℚ) < (4611686018427388 : Int) := by
        push_cast
        linarith
      exact_mod_cast rational
    have unit : |k| ≤ 4611686018427387 := abs_le.mpr ⟨by omega,by omega⟩
    have size : |(2 * k : ℚ)| ≤ 2 * 4611686018427387 := by
      rw [abs_mul,abs_of_pos (by norm_num : (0 : ℚ) < 2)]
      exact mul_le_mul_of_nonneg_left (by exact_mod_cast unit) (by norm_num)
    linarith
  · linarith

theorem wholeRead {x : Binary64} {y : ℚ} (worth : Worth x y) :
    x.toInt64 = if fits (whole y) then whole y else least := by
  rw [Binary64.toInt64,Binary64.truncateWorth worth]

section Seconds

variable {x : Binary64} {f : ℚ} (worth : Worth x f)
include worth

theorem secondsRead (inside : fits (whole (f * 1000)) = true) :
    ∃ g, Nearest (f * 1000) g ∧ |f * 1000 - g| ≤ max (|f * 1000| / 2 ^ 53) (2 ^ (-1075 : Int)) ∧
      fits (whole g) = true ∧ (x.mul (Binary64.ofInt 1000)).toInt64 = whole g := by
  have margin := insideMargin worth inside
  have below : |f * 1000| < overflow := margin.trans_lt (limitBelow.trans' (by norm_num))
  obtain ⟨g,read,nearest,close⟩ := (Binary64.mulRounds worth thousandWorth).inside below
  obtain ⟨w,edge⟩ := insideWorth
  obtain ⟨v,mirrored⟩ := edge.negated
  have high := nearest.most edge (abs_le.mp margin).2
  have low := nearest.fewest mirrored (abs_le.mp margin).1
  have kept : fits (whole g) = true := wholeFits.mpr ⟨by linarith,by linarith⟩
  exact ⟨g,nearest,close,kept,by rw [wholeRead read,if_pos kept]⟩

theorem secondsLost (beyond : fits (whole (f * 1000)) = false) :
    (x.mul (Binary64.ofInt 1000)).toInt64 = least := by
  have rounds := Binary64.mulRounds worth thousandWorth
  rcases lt_or_ge |f * 1000| overflow with inside | large
  · obtain ⟨g,read,nearest,_⟩ := rounds.inside inside
    rw [wholeRead read]
    split
    · rename_i kept
      obtain ⟨w,mirrored⟩ := limitWorth.negated
      rw [wholeFits] at kept
      have under : f * 1000 ≤ -2 ^ 63 := by
        by_contra above
        have less := nearest.under limitWorth kept.2
        exact absurd (wholeFits.mpr ⟨by linarith,less⟩) (by simp [beyond])
      have most := nearest.most mirrored under
      rw [whole,if_pos (by linarith),Int.ceil_eq_iff,least]
      norm_num
      exact ⟨by linarith,by linarith⟩
    · rfl
  · obtain ⟨negative,infinite⟩ := rounds.beyond large
    rw [infinite]
    rfl

end Seconds

/-! ### The calendar -/

theorem calendarStart {t : Text} {i : Instant} (read : Instant.read? t = some i) :
    ∃ year rest, year ≠ [] ∧ (∀ b ∈ year, isDecimal b = true) ∧ t = year ++ byte '-' :: rest := by
  obtain ⟨⟨year,rest⟩,first,read⟩ := Option.bind_eq_some_iff.mp read
  obtain ⟨behind,dash,_⟩ := Option.bind_eq_some_iff.mp read
  unfold Instant.yearOf at first
  dsimp only at first dash
  split at first
  · contradiction
  · rename_i digits
    rw [not_or,Nat.not_lt,Bool.not_eq_true',Bool.not_eq_false] at digits
    obtain ⟨rfl,rfl⟩ := Prod.mk.inj (Option.some.inj first)
    refine ⟨t.take 4,behind,?_,List.all_eq_true.mp digits.2,?_⟩
    · rintro none
      rw [none] at digits
      simp at digits
    · unfold Instant.separator at dash
      split at dash
      · split at dash
        · rename_i _ b after source same
          cases dash
          rw [← same,← source,List.take_append_drop]
        · contradiction
      · contradiction

theorem yearBound {t rest : Text} {year : Nat} (read : Instant.yearOf t = some (year,rest)) :
    year < 10000 := by
  unfold Instant.yearOf at read
  dsimp only at read
  split at read
  · contradiction
  · rename_i digits
    rw [not_or,Bool.not_eq_true',Bool.not_eq_false] at digits
    obtain ⟨rfl,-⟩ := Prod.mk.inj (Option.some.inj read)
    have bound := digitsBound (List.all_eq_true.mp digits.2)
    have short : (t.take 4).length ≤ 4 := List.length_take_le 4 t
    exact bound.trans_le (Nat.pow_le_pow_right (by omega) short)

theorem fractionBound (t : Text) : (Instant.fractionOfSecond t).1 < 1000000000 := by
  unfold Instant.fractionOfSecond
  split
  · rename_i p d rest
    split
    · rename_i point
      rw [Bool.and_eq_true] at point
      have decimal : ∀ b ∈ (d :: rest.takeWhile isDecimal).take 9, isDecimal b = true := by
        intro b held
        rcases List.mem_cons.mp (List.take_subset _ _ held) with rfl | behind
        · exact point.2
        · exact List.mem_takeWhile_imp behind
      have short : ((d :: rest.takeWhile isDecimal).take 9).length ≤ 9 := List.length_take_le _ _
      have bound := digitsBound decimal
      dsimp only
      generalize (d :: rest.takeWhile isDecimal).take 9 = kept at *
      have whole : 10 ^ kept.length * 10 ^ (9 - kept.length) = 1000000000 := by
        rw [← Nat.pow_add,Nat.add_sub_cancel' short]
      rw [← whole]
      exact Nat.mul_lt_mul_of_pos_right bound (Nat.pow_pos (by omega))
    · exact Nat.zero_lt_succ _
  · exact Nat.zero_lt_succ _

theorem offsetBound {t rest : Text} {shift : Int} (read : Instant.offset t = some (shift,rest)) :
    -90000 ≤ shift ∧ shift ≤ 90000 := by
  cases t with
  | nil => contradiction
  | cons b t =>
    unfold Instant.offset at read
    dsimp only at read
    split at read
    · obtain ⟨rfl,-⟩ := Prod.mk.inj (Option.some.inj read)
      omega
    · split at read
      · obtain ⟨⟨h,_⟩,_,read⟩ := Option.bind_eq_some_iff.mp read
        obtain ⟨_,_,read⟩ := Option.bind_eq_some_iff.mp read
        obtain ⟨⟨m,_⟩,_,read⟩ := Option.bind_eq_some_iff.mp read
        dsimp only at read
        split at read
        · contradiction
        · obtain ⟨rfl,-⟩ := Prod.mk.inj (Option.some.inj read)
          split <;> omega
      · contradiction

theorem daysBound {year month : Nat} (small : year < 10000) (months : 1 ≤ month ∧ month ≤ 12) :
    -1000000 ≤ Instant.daysToMonth year month ∧ Instant.daysToMonth year month ≤ 10000000 := by
  unfold Instant.daysToMonth
  dsimp only
  simp only [Int.fdiv_eq_ediv_of_nonneg _ (by omega : (0 : Int) ≤ 400),
    Int.fdiv_eq_ediv_of_nonneg _ (by omega : (0 : Int) ≤ 4),
    Int.fdiv_eq_ediv_of_nonneg _ (by omega : (0 : Int) ≤ 100),
    Int.fdiv_eq_ediv_of_nonneg _ (by omega : (0 : Int) ≤ 5)]
  split <;> omega

theorem daysMost (year month : Nat) : Instant.daysIn year month ≤ 31 := by
  unfold Instant.daysIn
  split
  · split <;> omega
  · split <;> omega

theorem fieldsFit {year month day hour minute second nanos : Nat} {shift : Int} {i : Instant}
    (small : year < 10000) (fraction : nanos < 1000000000) (shifted : -90000 ≤ shift ∧ shift ≤ 90000)
    (read : Instant.ofFields? year month day hour minute second nanos shift = some i) :
    fits (i.fdiv 1000000) = true := by
  rw [Instant.ofFields?] at read
  split at read
  · contradiction
  split at read
  · contradiction
  · rename_i fields days
    have months : 1 ≤ month ∧ month ≤ 12 := by omega
    have bound := daysBound small months
    have most := daysMost year month
    have same : ((Instant.daysToMonth year month + (day - 1 : Nat)) * 86400 + hour * 3600 + minute * 60 +
        second - shift) * 1000000000 + nanos = (i : Int) := Option.some.inj read
    rw [Int.fdiv_eq_ediv_of_nonneg _ (by omega),fitsRange,least,Int64Range.greatest]
    omega

/-- The years of the calendar notation have four digits, and their milliseconds are far from the limits. -/
theorem calendarFits {t : Text} {i : Instant} (read : Instant.read? t = some i) :
    fits (i.fdiv 1000000) = true := by
  obtain ⟨⟨year,_⟩,first,read⟩ := Option.bind_eq_some_iff.mp read
  obtain ⟨_,_,read⟩ := Option.bind_eq_some_iff.mp read
  obtain ⟨⟨month,_⟩,_,read⟩ := Option.bind_eq_some_iff.mp read
  obtain ⟨_,_,read⟩ := Option.bind_eq_some_iff.mp read
  obtain ⟨⟨day,_⟩,_,read⟩ := Option.bind_eq_some_iff.mp read
  obtain ⟨_,_,read⟩ := Option.bind_eq_some_iff.mp read
  obtain ⟨⟨hour,_⟩,_,read⟩ := Option.bind_eq_some_iff.mp read
  obtain ⟨_,_,read⟩ := Option.bind_eq_some_iff.mp read
  obtain ⟨⟨minute,_⟩,_,read⟩ := Option.bind_eq_some_iff.mp read
  obtain ⟨_,_,read⟩ := Option.bind_eq_some_iff.mp read
  obtain ⟨⟨second,rest⟩,_,read⟩ := Option.bind_eq_some_iff.mp read
  have behind : ((Instant.offset (Instant.fractionOfSecond rest).2).bind fun zone =>
      if !zone.2.isEmpty then none
      else Instant.ofFields? year month day hour minute second (Instant.fractionOfSecond rest).1 zone.1) =
        some i := read
  obtain ⟨⟨shift,_⟩,last,read⟩ := Option.bind_eq_some_iff.mp behind
  dsimp only at first read
  split at read
  · contradiction
  · exact fieldsFit (yearBound first) (fractionBound rest) (offsetBound last) read

/-- The calendar notation is no notation of numbers. -/
theorem calendarApart {t : Text} {i : Instant} (read : Instant.read? t = some i) :
    (∀ n, readInt t ≠ .ok n) ∧ readFloat t = .error .malformed := by
  obtain ⟨year,rest,some,decimal,rfl⟩ := calendarStart read
  refine ⟨fun n integer => ?_,Number.hyphenMalformed some decimal⟩
  have hyphen : isDecimal (byte '-') = false := by decide
  obtain ⟨sign,digits,source,⟨signed,_,all⟩,_⟩ := Number.integerSource integer
  obtain ⟨b,year,rfl⟩ := List.exists_cons_of_ne_nil some
  have first := decimal b List.mem_cons_self
  have inside : byte '-' ∈ digits := by
    cases signed with
    | none =>
      rw [List.nil_append] at source
      rw [← source]
      simp
    | plus =>
      obtain rfl : b = byte '+' := (List.cons.inj source).1
      contradiction
    | minus =>
      obtain rfl : b = byte '-' := (List.cons.inj source).1
      contradiction
  exact absurd (all _ inside) (by simp [hyphen])

/-! ### What texts denote -/

/-- A number that is no integer. -/
structure Decimal (t : Text) (l : Literal) : Prop where
  spelled : Spells t l
  broken : ∀ sign digits n, Integral sign digits n → t ≠ sign ++ digits

/-- The milliseconds that a text denotes. -/
inductive Denotes : Text → ℚ → Prop where
  | seconds {sign digits : Text} {n : Int} (integral : Integral sign digits n)
      (short : digits.length ≤ 10) : Denotes (sign ++ digits) (n * 1000)
  | nanos {sign digits : Text} {n : Int} (integral : Integral sign digits n)
      (long : 10 < digits.length) : Denotes (sign ++ digits) (n / 1000000)
  | decimal {t : Text} {l : Literal} (decimal : Decimal t l) : Denotes t (l.amount * 1000)
  | calendar {t : Text} {i : Instant} (read : Instant.read? t = some i) : Denotes t (i / 1000000)

/-- The texts that are read as they should be, and the milliseconds that are read. -/
inductive Kept : Text → Int → Prop where
  | seconds {sign digits : Text} {n : Int} (integral : Integral sign digits n)
      (short : digits.length ≤ 10) (plain : sign = [byte '+'] → digits.length ≠ 10) :
      Kept (sign ++ digits) (n * 1000)
  | nanos {sign digits : Text} {n : Int} (integral : Integral sign digits n)
      (long : 10 < digits.length) (inside : fits n = true) : Kept (sign ++ digits) (n.tdiv 1000000)
  | decimal {t : Text} {l : Literal} {f g : ℚ} (decimal : Decimal t l) (seconds : Nearest l.amount f)
      (inside : fits (whole (f * 1000)) = true) (millis : Nearest (f * 1000) g) : Kept t (whole g)
  | calendar {t : Text} {i : Instant} (read : Instant.read? t = some i) : Kept t (i.fdiv 1000000)

/-- Ten digits behind a plus, which are taken for nanoseconds. -/
inductive Slipped : Text → Int → Prop where
  | plus {digits : Text} {n : Int} (integral : Integral [byte '+'] digits n) (ten : digits.length = 10) :
      Slipped (byte '+' :: digits) (n.tdiv 1000000)

/-- The texts of values that sixty-four bits do not hold and that are read nevertheless. -/
inductive Lost : Text → Prop where
  | named {t : Text} {x : Binary64} (name : special t = some x) : Lost t
  | long {sign digits : Text} {n : Int} (integral : Integral sign digits n) (beyond : fits n = false)
      (inside : |(n : ℚ)| < overflow) : Lost (sign ++ digits)
  | far {t : Text} {l : Literal} {f : ℚ} (decimal : Decimal t l) (inside : |l.amount| < overflow)
      (seconds : Nearest l.amount f) (beyond : fits (whole (f * 1000)) = false) : Lost t

theorem tinyBound : (2 : ℚ) ^ (-1075 : Int) ≤ 1 / 2 ^ 70 := by
  have power : (2 : ℚ) ^ (-1075 : Int) ≤ 2 ^ (-70 : Int) := zpow_le_zpow_right₀ (by norm_num) (by norm_num)
  rwa [zpow_neg 2 70,← one_div] at power

theorem wholeClose (q : ℚ) : |(whole q : ℚ) - q| < 1 ∧ (|q| < 1 → whole q = 0) := by
  rw [whole]
  split
  · rename_i below
    have low := Int.le_ceil q
    have high := Int.ceil_lt_add_one q
    refine ⟨abs_lt.mpr ⟨by linarith,by linarith⟩,fun small => ?_⟩
    rw [Int.ceil_eq_iff]
    push_cast
    exact ⟨by linarith [(abs_lt.mp small).1],below.le⟩
  · rename_i above
    have low := Int.floor_le q
    have high := Int.lt_floor_add_one q
    refine ⟨abs_lt.mpr ⟨by linarith,by linarith⟩,fun small => ?_⟩
    rw [Int.floor_eq_iff]
    push_cast
    exact ⟨not_lt.mp above,by linarith [(abs_lt.mp small).2]⟩

theorem wholeQuotient (n : Int) : whole (n / 1000000 : ℚ) = n.tdiv 1000000 := by
  have front (m : Nat) : whole (m / 1000000 : ℚ) = (m : Int).tdiv 1000000 := by
    rw [whole,if_neg (not_lt.mpr (by positivity))]
    rw [Int.tdiv_eq_ediv_of_nonneg (Int.natCast_nonneg m)]
    exact Rat.floor_natCast_div_natCast m 1000000
  obtain ⟨m,rfl | rfl⟩ := n.eq_nat_or_neg
  · exact front m
  · rw [Int.cast_neg,Int.cast_natCast,neg_div,Binary64.wholeNegated,front,Int.neg_tdiv]

/-- Rounding the seconds and then the milliseconds moves them by less than a unit in the fifty-first place. -/
theorem roundedTwice {a f g : ℚ} (seconds : |a - f| ≤ max (|a| / 2 ^ 53) (2 ^ (-1075 : Int)))
    (millis : |f * 1000 - g| ≤ max (|f * 1000| / 2 ^ 53) (2 ^ (-1075 : Int))) :
    |(whole g : ℚ) - a * 1000| < 1 + |a * 1000| / 2 ^ 51 := by
  have tiny := tinyBound
  generalize (2 : ℚ) ^ (-1075 : Int) = p at seconds millis tiny
  obtain ⟨near,nothing⟩ := wholeClose g
  have least : |a| - |f| ≤ |a - f| := abs_sub_abs_le_abs_sub a f
  have most : |f| - |a| ≤ |a - f| := abs_sub_comm f a ▸ abs_sub_abs_le_abs_sub f a
  have mostMillis : |g| - |f * 1000| ≤ |f * 1000 - g| :=
    abs_sub_comm g (f * 1000) ▸ abs_sub_abs_le_abs_sub g (f * 1000)
  have positive := abs_nonneg a
  rw [thousandfold]
  rw [thousandfold] at millis mostMillis
  rcases lt_or_ge |a| (1 / 2000) with small | large
  · have first : max (|a| / 2 ^ 53) p ≤ 1 / 2 ^ 50 := max_le (by linarith) (by linarith)
    have second : max (|f| * 1000 / 2 ^ 53) p ≤ 1 / 2 ^ 50 := max_le (by linarith) (by linarith)
    have none := nothing (by linarith)
    rw [none,Int.cast_zero,zero_sub,abs_neg,thousandfold]
    linarith
  · have first : max (|a| / 2 ^ 53) p = |a| / 2 ^ 53 := max_eq_left (by linarith)
    rw [first] at seconds
    have second : max (|f| * 1000 / 2 ^ 53) p = |f| * 1000 / 2 ^ 53 := max_eq_left (by linarith)
    rw [second] at millis
    have steps : |(whole g : ℚ) - a * 1000| ≤ |(whole g : ℚ) - g| + (|f * 1000 - g| + |a - f| * 1000) :=
      calc |(whole g : ℚ) - a * 1000|
        _ ≤ |(whole g : ℚ) - g| + |g - a * 1000| := abs_sub_le _ _ _
        _ ≤ |(whole g : ℚ) - g| + (|g - f * 1000| + |f * 1000 - a * 1000|) :=
          add_le_add_right (abs_sub_le _ _ _) _
        _ = |(whole g : ℚ) - g| + (|f * 1000 - g| + |a - f| * 1000) := by
          rw [abs_sub_comm g,← sub_mul,thousandfold,abs_sub_comm f]
    linarith

/-! ### What is read -/

/-- Seconds that sixty-four bits do not hold are none of milliseconds that they hold. -/
theorem secondsBeyond {a f : ℚ} (nearest : Nearest a f) (large : 2 ^ 63 ≤ |a|) :
    fits (whole (f * 1000)) = false := by
  obtain ⟨w,mirrored⟩ := limitWorth.negated
  rw [← Bool.not_eq_true,wholeFits]
  rintro ⟨low,high⟩
  rcases le_abs.mp large with positive | negative
  · linarith [nearest.fewest limitWorth positive]
  · linarith [nearest.most mirrored (by linarith)]

theorem secondsInside {a f : ℚ} (nearest : Nearest a f) (inside : fits (whole (f * 1000)) = true) :
    |a| < overflow := by
  by_contra large
  have beyond := secondsBeyond nearest (limitBelow.le.trans (not_lt.mp large))
  exact absurd inside (by simp [beyond])

theorem decimalRefused {t : Text} {l : Literal} (decimal : Decimal t l) (n : Int) : readInt t ≠ .ok n := by
  intro read
  obtain ⟨sign,digits,source,integral,_⟩ := Number.integerSource read
  exact decimal.broken sign digits n integral source

section Fallback

variable {t : Text} (given : t ≠ []) (odd : ∀ n, readInt t ≠ .ok n)
include given odd

theorem floatMoment {x : Binary64} (read : readFloat t = .ok x) :
    read? t = some (x.mul (Binary64.ofInt 1000)).toInt64 := by
  rw [read?,if_neg (by simpa using given)]
  cases integer : readInt t with
  | ok n => exact absurd integer (odd n)
  | error problem =>
    dsimp only
    rw [read]

theorem calendarMoment {p : Number.Problem} (refused : readFloat t = .error p) :
    read? t = (Instant.read? t).map Instant.millis := by
  rw [read?,if_neg (by simpa using given)]
  cases integer : readInt t with
  | ok n => exact absurd integer (odd n)
  | error problem =>
    dsimp only
    rw [refused]

end Fallback

/-- What is lost is no integer of sixty-four bits, and the format has no seconds for it or seconds too large. -/
theorem lostSource {t : Text} (lost : Lost t) : (∀ n, readInt t ≠ .ok n) ∧ ∃ x, readFloat t = .ok x ∧
    ((x = .nan ∨ ∃ negative, x = .infinite negative) ∨
      ∃ f, Worth x f ∧ fits (whole (f * 1000)) = false) := by
  cases lost with
  | @named t x name =>
    refine ⟨fun n read => ?_,x,?_,.inl (Number.specialInfinite name)⟩
    · rw [Number.integerOrdinary read] at name
      contradiction
    · rw [readFloat,name]
  | @long sign digits n integral beyond inside =>
    obtain ⟨l,spelled,same⟩ := Number.integerSpells integral
    rw [← same] at inside
    obtain ⟨x,f,read,worth,nearest,_⟩ := (Number.floatRounds spelled).inside inside
    refine ⟨fun n read => ?_,x,read,.inr ⟨f,worth,secondsBeyond nearest ?_⟩⟩
    · rw [Number.integerRead integral,beyond] at read
      contradiction
    · rw [same]
      rw [← Bool.not_eq_true,fitsRange,least,Int64Range.greatest] at beyond
      have large : (2 ^ 63 : Int) ≤ |n| := le_abs.mpr (by omega)
      exact_mod_cast large
  | @far t l f decimal inside seconds beyond =>
    obtain ⟨x,g,read,worth,nearest,_⟩ := (Number.floatRounds decimal.spelled).inside inside
    obtain rfl := seconds.unique nearest
    exact ⟨decimalRefused decimal,x,read,.inr ⟨f,worth,beyond⟩⟩

theorem lostMoment {t : Text} (lost : Lost t) (given : t ≠ []) : read? t = some least := by
  obtain ⟨odd,x,read,shape⟩ := lostSource lost
  rw [floatMoment given odd read]
  rcases shape with (rfl | ⟨negative,rfl⟩) | ⟨f,worth,beyond⟩
  · rfl
  · cases negative <;> decide +kernel
  · rw [secondsLost worth beyond]

/-- Steps are read like moments but nothing that is lost is taken for one. -/
theorem lostStep {t : Text} (lost : Lost t) (given : t ≠ []) :
    ∃ problem, Compile.stepMs t = .error problem := by
  obtain ⟨_,x,read,shape⟩ := lostSource lost
  rw [Compile.stepMs,if_neg (by simpa using given),read]
  dsimp only
  rcases shape with (rfl | ⟨negative,rfl⟩) | ⟨f,worth,beyond⟩
  · exact ⟨_,rfl⟩
  · cases negative <;> exact ⟨_,rfl⟩
  · have rounds := Binary64.mulRounds worth thousandWorth
    rcases lt_or_ge |f * 1000| overflow with inside | large
    · obtain ⟨g,product,nearest,_⟩ := rounds.inside inside
      rw [Binary64.floorWorth product]
      dsimp only
      refine ⟨_,if_pos (Bool.or_eq_true _ _ ▸ ?_)⟩
      rw [Binary64.ltWorth worth (Binary64.zeroWorth false),Binary64.leWorth limitWorth product]
      by_contra kept
      rw [not_or,not_lt,not_le] at kept
      have less := nearest.under limitWorth kept.2
      exact absurd (wholeFits.mpr ⟨by linarith,less⟩) (by simp [beyond])
    · obtain ⟨negative,infinite⟩ := rounds.beyond large
      rw [infinite]
      exact ⟨_,rfl⟩

theorem keptRead {t : Text} {ms : Int} (kept : Kept t ms) (given : t ≠ []) : read? t = some ms := by
  cases kept with
  | @seconds sign digits n integral short plain =>
    have size := shortSize integral short
    have inside : fits n = true := by
      rw [fitsRange,least,Int64Range.greatest]
      omega
    rw [integerMoment integral inside,if_pos]
    split
    · have other := plain ‹_›
      omega
    · omega
  | nanos integral long inside => rw [integerMoment integral inside,if_neg (by omega)]
  | @decimal t l f g decimal seconds inside millis =>
    obtain ⟨x,f',read,worth,nearest,_⟩ :=
      (Number.floatRounds decimal.spelled).inside (secondsInside seconds inside)
    obtain rfl := seconds.unique nearest
    obtain ⟨g',nearest',_,_,product⟩ := secondsRead worth inside
    obtain rfl := millis.unique nearest'
    rw [floatMoment given (decimalRefused decimal) read,product]
  | @calendar t i read =>
    obtain ⟨odd,malformed⟩ := calendarApart read
    rw [calendarMoment given odd malformed,read]
    rfl

/-- What is kept denotes the milliseconds that are read, rounded towards zero or down, and the rounding of
decimals shows in the fifty-first place at most. -/
theorem keptDenotes {t : Text} {ms : Int} (kept : Kept t ms) : fits ms = true ∧ ∃ x, Denotes t x ∧
    (ms = whole x ∨ ms = ⌊x⌋ ∨ (∃ l, Decimal t l) ∧ |ms - x| < 1 + |x| / 2 ^ 51) := by
  cases kept with
  | @seconds sign digits n integral short plain =>
    have size := shortSize integral short
    refine ⟨?_,_,.seconds integral short,.inr (.inl ?_)⟩
    · rw [fitsRange,least,Int64Range.greatest]
      omega
    · exact_mod_cast (Int.floor_intCast (n * 1000)).symm
  | @nanos sign digits n integral long inside =>
    have quotient := Compile.tdivRest n (d := 1000000) (by omega)
    refine ⟨?_,_,.nanos integral long,.inl (wholeQuotient n).symm⟩
    rw [fitsRange,least,Int64Range.greatest] at inside ⊢
    omega
  | @decimal t l f g decimal seconds inside millis =>
    obtain ⟨x,f',_,worth,nearest,close⟩ :=
      (Number.floatRounds decimal.spelled).inside (secondsInside seconds inside)
    obtain rfl := seconds.unique nearest
    obtain ⟨g',nearest',close',kept,_⟩ := secondsRead worth inside
    obtain rfl := millis.unique nearest'
    exact ⟨kept,_,.decimal decimal,.inr (.inr ⟨⟨l,decimal⟩,roundedTwice close close'⟩)⟩
  | @calendar t i read =>
    refine ⟨calendarFits read,_,.calendar read,.inr (.inl ?_)⟩
    rw [Int.fdiv_eq_ediv_of_nonneg _ (by omega)]
    exact_mod_cast (Rat.floor_intCast_div_natCast i 1000000).symm

theorem slippedRead {t : Text} {ms : Int} (slipped : Slipped t ms) : read? t = some ms := by
  obtain ⟨integral,ten⟩ := slipped
  have size := shortSize integral (by omega)
  refine (integerMoment integral ?_).trans (congrArg some (if_neg ?_))
  · rw [fitsRange,least,Int64Range.greatest]
    omega
  · rw [if_pos rfl]
    omega

theorem integerSorted {sign digits : Text} {n ms : Int} (integral : Integral sign digits n)
    (inside : fits n = true) (read : read? (sign ++ digits) = some ms) :
    Kept (sign ++ digits) ms ∨ Slipped (sign ++ digits) ms := by
  obtain rfl := Option.some.inj ((integerMoment integral inside).symm.trans read)
  by_cases short : digits.length ≤ 10
  · by_cases slip : sign = [byte '+'] ∧ digits.length = 10
    · obtain ⟨rfl,ten⟩ := slip
      rw [if_pos rfl,if_neg (by omega)]
      exact .inr (.plus integral ten)
    · have plain : sign = [byte '+'] → digits.length ≠ 10 := fun plus ten => slip ⟨plus,ten⟩
      have kept := Kept.seconds integral short plain
      have same := (integerMoment integral inside).symm.trans (keptRead kept (integralGiven integral))
      rw [Option.some.inj same]
      exact .inl kept
  · rw [if_neg (by omega)]
    exact .inl (.nanos integral (by omega) inside)

/-- A number that is no integer of sixty-four bits is kept or lost if the format has seconds for it. -/
theorem numberSorted {t : Text} {l : Literal} (spelled : Spells t l) (inside : |l.amount| < overflow)
    (odd : ∀ n, readInt t ≠ .ok n) : (∃ ms, Kept t ms) ∨ Lost t := by
  obtain ⟨x,f,read,worth,nearest,_⟩ := (Number.floatRounds spelled).inside inside
  by_cases integer : ∃ sign digits n, Integral sign digits n ∧ t = sign ++ digits
  · obtain ⟨sign,digits,n,integral,rfl⟩ := integer
    refine .inr (.long integral ?_ ?_)
    · rw [← Bool.not_eq_true]
      exact fun fitting => odd n (by rw [Number.integerRead integral,if_pos fitting])
    · obtain ⟨l',spelled',same⟩ := Number.integerSpells integral
      rw [← same]
      by_contra large
      rw [(Number.floatRounds spelled').beyond (not_lt.mp large)] at read
      contradiction
  · have decimal : Decimal t l := ⟨spelled,fun sign digits n integral same =>
      integer ⟨sign,digits,n,integral,same⟩⟩
    cases range : fits (whole (f * 1000)) with
    | true =>
      obtain ⟨g,millis,_⟩ := secondsRead worth range
      exact .inl ⟨_,.decimal decimal nearest range millis⟩
    | false => exact .inr (.far decimal inside nearest range)

/-- What an accepted text is, by the reader that accepts it. -/
theorem readSource {t : Text} {ms : Int} (read : read? t = some ms) (given : t ≠ []) :
    Kept t ms ∨ Slipped t ms ∨ Lost t ∧ ms = least := by
  have sorted (found : (∃ ms, Kept t ms) ∨ Lost t) : Kept t ms ∨ Slipped t ms ∨ Lost t ∧ ms = least := by
    rcases found with ⟨ms',kept⟩ | lost
    · obtain rfl := Option.some.inj (read.symm.trans (keptRead kept given))
      exact .inl kept
    · exact .inr (.inr ⟨lost,Option.some.inj (read.symm.trans (lostMoment lost given))⟩)
  cases integer : readInt t with
  | ok n =>
    obtain ⟨sign,digits,rfl,integral,inside⟩ := Number.integerSource integer
    exact (integerSorted integral inside read).imp_right .inl
  | error problem =>
    have odd (n : Int) : readInt t ≠ .ok n := by simp [integer]
    have calendar {p : Number.Problem} (refused : readFloat t = .error p) : Kept t ms := by
      rw [calendarMoment given odd refused] at read
      obtain ⟨i,found,rfl⟩ := Option.map_eq_some_iff.mp read
      exact .calendar found
    cases name : special t with
    | some x => exact sorted (.inr (.named name))
    | none =>
      rcases Number.floatSource name with ⟨l,spelled⟩ | malformed
      · rcases lt_or_ge |l.amount| overflow with inside | large
        · exact sorted (numberSorted spelled inside odd)
        · exact .inl (calendar ((Number.floatRounds spelled).beyond large))
      · exact .inl (calendar malformed)

theorem momentFits {t : Text} {ms : Int} (read : read? t = some ms) : fits ms = true := by
  rcases eq_or_ne t [] with rfl | given
  · cases read
    decide
  · rcases readSource read given with kept | slipped | ⟨_,rfl⟩
    · exact (keptDenotes kept).1
    · cases slipped with
      | @plus digits n integral ten =>
        have size := shortSize integral (by omega)
        have quotient := Compile.tdivRest n (d := 1000000) (by omega)
        rw [fitsRange,least,Int64Range.greatest]
        omega
    · decide

/-- Every text that is read as a moment denotes the milliseconds that are read, up to the rounding of decimals,
apart from ten digits behind a plus and from what sixty-four bits do not hold. The latter is the least
integer as a moment and an error as a step. -/
theorem momentsKept (t : Text) (given : t ≠ []) :
    (∀ ms, read? t = some ms ↔ Kept t ms ∨ Slipped t ms ∨ Lost t ∧ ms = least) ∧
    (∀ ms, Kept t ms → fits ms = true ∧ ∃ x, Denotes t x ∧
      (ms = whole x ∨ ms = ⌊x⌋ ∨ (∃ l, Decimal t l) ∧ |ms - x| < 1 + |x| / 2 ^ 51)) ∧
    (Lost t → ∃ problem, Compile.stepMs t = .error problem) := by
  refine ⟨fun ms => ⟨fun read => readSource read given,?_⟩,fun ms => keptDenotes,fun lost => lostStep lost given⟩
  rintro (kept | slipped | ⟨lost,rfl⟩)
  · exact keptRead kept given
  · exact slippedRead slipped
  · exact lostMoment lost given

/-- The name of no number, the first integer beyond sixty-four bits and a date. -/
theorem unfitLost : (("NaN" : Text) ≠ [] ∧ read? "NaN" = some least ∧
      ∃ problem, Compile.stepMs "NaN" = .error problem) ∧
    (("9223372036854775808" : Text) ≠ [] ∧ read? "9223372036854775808" = some least ∧
      ∃ problem, Compile.stepMs "9223372036854775808" = .error problem) ∧
    ("2024-05-01T12:00:00Z" : Text) ≠ [] ∧ read? "2024-05-01T12:00:00Z" = some 1714564800000 := by
  have named : Lost ("NaN" : Text) := .named (x := .nan) (by decide +kernel)
  have long : Lost ("9223372036854775808" : Text) := by
    have value : (Text.digitsValue ("9223372036854775808" : Text) : Int) = 9223372036854775808 := by
      decide +kernel
    have integral : Integral [] ("9223372036854775808" : Text) 9223372036854775808 :=
      value ▸ .spelled .none (by decide) (by decide +kernel)
    have lost := Lost.long integral (by decide) (lt_of_eq_of_lt (by norm_num) limitBelow)
    rwa [List.nil_append] at lost
  have dated : Kept ("2024-05-01T12:00:00Z" : Text) 1714564800000 :=
    Kept.calendar (i := 1714564800000000000) (by decide +kernel)
  refine ⟨⟨by decide,?_,?_⟩,⟨by decide,?_,?_⟩,by decide,?_⟩
  · exact ((momentsKept _ (by decide)).1 _).mpr (.inr (.inr ⟨named,rfl⟩))
  · exact (momentsKept _ (by decide)).2.2 named
  · exact ((momentsKept _ (by decide)).1 _).mpr (.inr (.inr ⟨long,rfl⟩))
  · exact (momentsKept _ (by decide)).2.2 long
  · exact ((momentsKept _ (by decide)).1 _).mpr (.inl dated)

end LogSql.Moment
