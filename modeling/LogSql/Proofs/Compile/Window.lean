import LogSql.Proofs.Compile.Binding

/-! The window of a request in sixty-four bits. Its bounds are milliseconds that may be missing, a matrix
cuts them to multiples of its buckets, and a statement spells them as nanoseconds. Only a cut can leave
the range of sixty-four bits, and then it lands where no sample can be. -/
namespace LogSql

namespace Int64Range

theorem fitsRange {n : Int} : fits n = true ↔ least ≤ n ∧ n ≤ greatest := by
  simp [fits]

theorem wrapTurn (n : Int) : wrap n = (n + 9223372036854775808) % 18446744073709551616 -
    9223372036854775808 := by
  rw [wrap,Int.bmod_def]
  omega

theorem wrapFits (n : Int) : fits (wrap n) = true := by
  rw [fitsRange,wrapTurn,least,greatest]
  omega

theorem wrapSame {n : Int} (inside : fits n = true) : wrap n = n := by
  rw [fitsRange,least,greatest] at inside
  rw [wrapTurn]
  omega

end Int64Range

open Int64Range (fits wrap least greatest)

/-! ### Lengths -/

namespace Duration

/-- The longest duration in milliseconds. -/
def longest : Int := 9223372036854

theorem rangeTermsShort {whole t : Text} {fuel : Nat} {units : List (Text × Nat)} {total n : Nat}
    (short : total < clockLimit) (ok : readRangeTerms whole fuel units total t = .ok n) :
    n < clockLimit := by
  induction fuel generalizing units total t with
  | zero =>
    cases t with
    | nil =>
      cases ok
      exact short
    | cons b rest => contradiction
  | succ fuel ih =>
    cases t with
    | nil =>
      cases ok
      exact short
    | cons b rest =>
      simp only [readRangeTerms] at ok
      obtain ⟨_,ok⟩ := guardOk ok
      obtain ⟨_,ok⟩ := guardOk ok
      obtain ⟨_,ok⟩ := guardOk ok
      split at ok
      · contradiction
      · obtain ⟨_,ok⟩ := guardOk ok
        obtain ⟨_,ok⟩ := guardOk ok
        obtain ⟨small,ok⟩ := guardOk ok
        exact ih (by unfold clockLimit at small ⊢; omega) ok

theorem rangeShort {t : Text} {n : Int} (ok : readRange t = .ok n) : 0 ≤ n ∧ n < clockLimit := by
  unfold readRange at ok
  split at ok
  · cases ok
    simp [clockLimit]
  · split at ok
    · contradiction
    · obtain ⟨m,read,ok⟩ := bindOk ok
      cases ok
      have short := rangeTermsShort (by simp [clockLimit]) read
      omega

end Duration

namespace Compile

open Query
open Duration (longest)

theorem durationLongest {t : Text} {ms : Int} (ok : durationMs t = .ok ms) : ms ≤ longest := by
  obtain ⟨d,read,ok⟩ := bindOk ok
  dsimp only at ok
  split at ok
  · contradiction
  · cases ok
    obtain ⟨positive,short⟩ := Duration.rangeShort (mapErrorOk read)
    simp only [Duration.clockLimit] at short
    simp only [Duration.milliseconds,Int.tdiv_eq_ediv_of_nonneg positive,longest]
    omega

/-! ### Cuts -/

/-- Division towards zero leaves a rest that is shorter than the length and has the sign of the number. -/
theorem tdivRest (v : Int) {d : Int} (positive : 0 < d) : v.tdiv d * d + v.tmod d = v ∧
    v.tmod d < d ∧ -d < v.tmod d ∧ (0 ≤ v → 0 ≤ v.tmod d) ∧ (v ≤ 0 → v.tmod d ≤ 0) := by
  refine ⟨Int.tdiv_mul_add_tmod v d,Int.tmod_lt_of_pos v positive,Int.lt_tmod_of_pos v positive,
    Int.tmod_nonneg d,fun low => ?_⟩
  have mirrored := Int.tmod_nonneg d (a := -v) (by omega)
  rw [Int.neg_tmod] at mirrored
  omega

theorem floorCut (v : Int) {d : Int} (positive : 0 < d) :
    ∃ cut, floorMultiple v d = wrap cut ∧ d ∣ cut ∧ cut ≤ v ∧ v < cut + d := by
  obtain ⟨whole,high,low,above,below⟩ := tdivRest v positive
  have step : (v.tdiv d - 1) * d = v.tdiv d * d - d := by rw [Int.sub_mul,Int.one_mul]
  unfold floorMultiple
  dsimp only
  split
  · exact ⟨_,rfl,Int.dvd_mul_left _ _,by omega,by omega⟩
  · exact ⟨_,rfl,Int.dvd_mul_left _ _,by omega,by omega⟩

theorem ceilCut (v : Int) {d : Int} (positive : 0 < d) :
    ∃ cut, ceilMultiple v d = wrap cut ∧ d ∣ cut ∧ v ≤ cut ∧ cut < v + d := by
  obtain ⟨whole,high,low,above,below⟩ := tdivRest v positive
  have step : (v.tdiv d + 1) * d = v.tdiv d * d + d := by rw [Int.add_mul,Int.one_mul]
  unfold ceilMultiple
  dsimp only
  split
  · exact ⟨_,rfl,Int.dvd_mul_left _ _,by omega,by omega⟩
  · exact ⟨_,rfl,Int.dvd_mul_left _ _,by omega,by omega⟩

section Cuts

variable {v d : Int} (inside : fits v = true) (positive : 0 < d) (short : d ≤ longest)
include inside positive short

/-- A start is cut to a multiple, or it wraps and comes out behind every sample. -/
theorem floorAligned : d ∣ floorMultiple v d ∨ greatest < floorMultiple v d * 1000000 := by
  obtain ⟨cut,wrapped,multiple,low,near⟩ := floorCut v positive
  rw [Int64Range.fitsRange,least,greatest] at inside
  by_cases kept : fits cut = true
  · rw [wrapped,Int64Range.wrapSame kept]
    exact .inl multiple
  · rw [Int64Range.fitsRange,least,greatest] at kept
    rw [wrapped,Int64Range.wrapTurn,greatest]
    rw [longest] at short
    exact .inr (by omega)

/-- An end is cut to a multiple, or it wraps and comes out before every sample. -/
theorem ceilAligned : d ∣ ceilMultiple v d ∨ ceilMultiple v d * 1000000 < least := by
  obtain ⟨cut,wrapped,multiple,high,near⟩ := ceilCut v positive
  rw [Int64Range.fitsRange,least,greatest] at inside
  by_cases kept : fits cut = true
  · rw [wrapped,Int64Range.wrapSame kept]
    exact .inl multiple
  · rw [Int64Range.fitsRange,least,greatest] at kept
    rw [wrapped,Int64Range.wrapTurn,least]
    rw [longest] at short
    exact .inr (by omega)

end Cuts

/-! ### Bounds -/

section Bounds

variable {e : Engine} {r : Request} {compiled : Compiled}

theorem openingFits (start : fits r.start = true) : fits (e.opening r) = true := by
  unfold Engine.opening
  split
  · exact Int64Range.wrapFits _
  · exact start

theorem closingFits (stop : fits r.stop = true) (now : fits e.now = true) :
    fits (e.closing r) = true := by
  unfold Engine.closing
  split
  · exact now
  · exact stop

/-- What is compiled does not end before it starts, whatever is registered and however often macros are
expanded. -/
theorem compileOrdered {expansions : Nat} (ok : e.compileWithin expansions r = .ok compiled) :
    e.opening r ≤ e.closing r := by
  have plain {r : Request} {root : Node} (ok : e.compileRoot r root = .ok compiled) :
      e.opening r ≤ e.closing r := by
    rw [compileRootSteps] at ok
    obtain ⟨w,window,_⟩ := bindOk ok
    exact (windowRead window).1
  -- An expansion puts another text in the place of the query and leaves the bounds alone.
  induction expansions generalizing r with
  | zero =>
    obtain ⟨root,_,⟨_,ok⟩ | ⟨fewer,_,_,positive,_⟩⟩ := compileStep ok
    · exact plain ok
    · omega
  | succ expansions ih =>
    obtain ⟨root,_,⟨_,ok⟩ | ⟨fewer,_,text,less,_,_,ok⟩⟩ := compileStep ok
    · exact plain ok
    · obtain rfl : expansions = fewer := by omega
      exact ih (r := { r with query := text }) ok

end Bounds

/-! ### Numerals -/

/-- Decimal literals and what they stand for. -/
inductive Numeral : Text → Int → Prop where
  | plain {t : Text} (some : t ≠ []) (digits : t.all Text.isDecimal = true) :
      Numeral t (Text.digitsValue t)
  | negative {t : Text} (some : t ≠ []) (digits : t.all Text.isDecimal = true) :
      Numeral (Text.byte '-' :: t) (-(Text.digitsValue t : Int))

theorem digitsAfter (n : Nat) :
    (List.replicate 6 (Text.byte '0')).foldl (fun n b => 10 * n + (b.toNat - 48)) n = n * 1000000 := by
  have zero : (Text.byte '0').toNat - 48 = 0 := by decide
  simp only [List.replicate,List.foldl_cons,List.foldl_nil,zero]
  omega

theorem charDigits {cs : List Char} (digits : ∀ c ∈ cs, c.isDigit = true) (n : Nat) :
    (cs.map Text.byte).foldl (fun n b => 10 * n + (b.toNat - 48)) n = Nat.ofDigitChars 10 cs n := by
  induction cs generalizing n with
  | nil => rfl
  | cons c cs ih =>
    obtain ⟨digit,digits⟩ := List.forall_mem_cons.mp digits
    rw [List.map_cons,List.foldl_cons,ih digits,(Sql.digitValue digit).1]
    rfl

theorem natDigits (n : Nat) : Text.ofNat n ≠ [] ∧ (Text.ofNat n).all Text.isDecimal = true ∧
    Text.digitsValue (Text.ofNat n) = n := by
  have digits : ∀ c ∈ Nat.toDigits 10 n, c.isDigit = true := fun c mem =>
    Nat.isDigit_of_mem_toDigits (by omega) (by omega) mem
  refine ⟨by simp [Text.ofNat],?_,?_⟩
  · rw [Text.ofNat,List.all_map,List.all_eq_true]
    exact fun c mem => (Sql.digitValue (digits c mem)).2
  · rw [Text.ofNat,Text.digitsValue,charDigits digits,Nat.ofDigitChars_toDigits (by omega) (by omega)]

theorem nanosNumeral (ms : Int) : Numeral (nanosText ms) (ms * 1000000) := by
  have zeros : Text.ofString "000000" = List.replicate 6 (Text.byte '0') := by decide
  obtain ⟨some,digits,value⟩ := natDigits ms.natAbs
  have longer : Text.ofNat ms.natAbs ++ Text.ofString "000000" ≠ [] := by simp [some]
  have all : (Text.ofNat ms.natAbs ++ Text.ofString "000000").all Text.isDecimal = true := by
    rw [List.all_append,digits,zeros]
    decide
  have scaled : Text.digitsValue (Text.ofNat ms.natAbs ++ Text.ofString "000000") =
      ms.natAbs * 1000000 := by
    unfold Text.digitsValue at value ⊢
    rw [List.foldl_append,value,zeros,digitsAfter]
  unfold nanosText Text.ofInt
  split
  · have numeral := Numeral.negative longer all
    rw [scaled] at numeral
    have same : ms * 1000000 = -((ms.natAbs * 1000000 : Nat) : Int) := by omega
    rw [same]
    exact numeral
  · have numeral := Numeral.plain longer all
    rw [scaled] at numeral
    have same : ms * 1000000 = ((ms.natAbs * 1000000 : Nat) : Int) := by omega
    rw [same]
    exact numeral

end Compile
end LogSql
