import LogSql.Proofs.Compile.Stacks
import LogSql.Proofs.Query.Numerals
import LogSql.Proofs.Time.Moments

/-! Rankings. A ranking keeps as many series at each time as its count says. The count is written as a
decimal, read as the nearest number of the format and turned into sixty-four bits when it is at least one
and whole, so what stands in the statement is the count as written just where the format has it and
sixty-four bits hold it; a count that they do not hold becomes negative. -/
namespace LogSql.Compile

open Query
open Sql (Expr Select SelectOf Named Join)
open Binary64 (Worth Nearest whole overflow nearestExact smallWorth)
open Number (Literal Spells readFloat)

/-! ### Counts -/

theorem oneWorth : Worth (Binary64.ofInt 1) 1 := by
  have shape : Binary64.ofInt 1 = .finite false (2 ^ 52) (-52) := rfl
  have size : Binary64.amount false (2 ^ 52) (-52) = 1 := by norm_num [Binary64.amount]
  rw [shape,← size]
  exact .finite (by decide) (by decide) (by decide)

/-- Below the first number outside of sixty-four bits comes one that is smaller by their distance. -/
theorem limitGap {x : Binary64} {y : ℚ} (worth : Worth x y) (below : y < 2 ^ 63) : y ≤ 2 ^ 63 - 2 ^ 10 := by
  obtain @⟨negative,m,e,narrow,low,high⟩ := worth
  rcases Int.lt_or_le e 10 with fine | coarse
  · have size := le_abs_self (Binary64.amount negative m e)
    rw [Binary64.amountSize] at size
    have power : (2 : ℚ) ^ e ≤ 2 ^ (9 : Int) := zpow_le_zpow_right₀ (by norm_num) (by omega)
    have bound : (m : ℚ) ≤ 2 ^ 53 := by exact_mod_cast narrow.le
    have most := mul_le_mul bound power (by positivity) (by norm_num)
    norm_num at most ⊢
    linarith
  · obtain ⟨k,rfl⟩ := Int.le.dest coarse
    have split : Binary64.amount negative m (10 + k) =
        ((if negative then -1 else 1) * m * 2 ^ k : Int) * 2 ^ 10 := by
      rw [Binary64.amount,zpow_add₀ (by norm_num),zpow_natCast]
      cases negative <;> push_cast <;> simp <;> ring
    rw [split] at below ⊢
    generalize ((if negative then -1 else 1) * m * 2 ^ k : Int) = j at below ⊢
    have less : j < 2 ^ 53 := by
      have rational : (j : ℚ) < ((2 ^ 53 : Int) : ℚ) := by
        push_cast
        linarith
      exact_mod_cast rational
    have most : (j : ℚ) ≤ ((2 ^ 53 - 1 : Int) : ℚ) := by exact_mod_cast Int.le_sub_one_of_lt less
    push_cast at most
    linarith

theorem limitOdd (k : Int) : (2 : ℚ) ^ 63 - 2 ^ 10 ≠ 2 * k * (-2 ^ 10) := by
  intro same
  have halved : (2 ^ 53 - 1 : ℚ) = -(2 * k) := by linarith
  have whole : (2 ^ 53 - 1 : Int) = -(2 * k) := by exact_mod_cast halved
  omega

/-- What is nearest to a rational fits into sixty-four bits when the rational stays below halfway. -/
theorem nearestFits {q y : ℚ} (nearest : Nearest q y) : y < 2 ^ 63 ↔ q < 2 ^ 63 - 2 ^ 9 := by
  obtain ⟨x,worth⟩ := nearest.some
  obtain ⟨w,inside⟩ := Moment.insideWorth
  have inside : Worth w (2 ^ 63 - 2 ^ 10) := by
    norm_num at inside ⊢
    exact inside
  constructor
  · intro below
    by_contra more
    rw [not_lt] at more
    have gap := limitGap worth below
    have near := nearest.least _ _ Moment.limitWorth
    have under := nearest.under Moment.limitWorth below
    rw [abs_of_nonneg (by linarith),abs_of_nonpos (by linarith)] at near
    -- Halfway the even neighbour is the one outside.
    obtain rfl : q = 2 ^ 63 - 2 ^ 9 := by linarith
    obtain rfl : y = 2 ^ 63 - 2 ^ 10 := by linarith
    obtain ⟨k,multiple⟩ := nearest.even _ _ Moment.limitWorth
      (by rw [abs_of_nonpos (by norm_num),abs_of_nonneg (by norm_num)]; norm_num) (by norm_num)
    exact limitOdd k (multiple.trans (by ring))
  · intro less
    by_contra more
    rw [not_lt] at more
    have near := nearest.least _ _ inside
    rw [abs_of_nonpos (by linarith)] at near
    rcases le_total q (2 ^ 63 - 2 ^ 10) with low | high
    · linarith [nearest.most inside low]
    · rw [abs_of_nonneg (by linarith)] at near
      linarith

/-- The count that stands in a statement where a rational was written: the nearest number of the format,
whole and positive, and the least integer in the place of those that do not fit. It is what was written
when the format has it and it fits, as all integers up to the size of the mantissa do. -/
structure Counts (q : ℚ) (n : Int) : Prop where
  rounded : ∃ y : Int, 1 ≤ y ∧ Nearest q y ∧ n = if y < 2 ^ 63 then y else -2 ^ 63
  exact : (n : ℚ) = q ↔ (∃ x, Worth x q) ∧ q < 2 ^ 63
  positive : 0 < n ↔ q < 2 ^ 63 - 2 ^ 9
  small : ∀ k : Nat, q = k → k ≤ 2 ^ 53 → n = k

theorem nearestCounts {q : ℚ} {y : Int} (nearest : Nearest q y) (one : 1 ≤ y) :
    Counts q (if y < 2 ^ 63 then y else -2 ^ 63) := by
  have fit : y < 2 ^ 63 ↔ q < 2 ^ 63 - 2 ^ 9 := by
    rw [← nearestFits nearest]
    exact_mod_cast Iff.rfl
  have same : ((if y < 2 ^ 63 then y else -2 ^ 63 : Int) : ℚ) = q ↔ (∃ x, Worth x q) ∧ q < 2 ^ 63 := by
    constructor
    · intro kept
      split at kept
      · rename_i below
        rw [kept] at nearest
        exact ⟨nearest.some,by rw [← kept]; exact_mod_cast below⟩
      · have most := nearest.most (Binary64.zeroWorth false) (by rw [← kept]; norm_num)
        have least : (1 : ℚ) ≤ y := by exact_mod_cast one
        linarith
    · rintro ⟨⟨x,worth⟩,below⟩
      have own := nearestExact nearest worth
      rw [if_pos (by exact_mod_cast own ▸ below),own]
  refine ⟨⟨y,one,nearest,rfl⟩,same,?_,fun k whole small => ?_⟩
  · rw [← fit]
    split <;> omega
  · have below : q < 2 ^ 63 := by
      have most : (k : ℚ) ≤ 2 ^ 53 := by exact_mod_cast small
      rw [whole]
      linarith
    have kept := same.mpr ⟨whole ▸ smallWorth small,below⟩
    rw [whole] at kept
    exact_mod_cast kept

theorem integerWhole {x : Binary64} {y : ℚ} (worth : Worth x y) (integer : x.isWhole = true) :
    (whole y : ℚ) = y := by
  have part := Binary64.truncateWorth worth
  obtain @⟨negative,m,e,_,_,_⟩ := worth
  obtain ⟨positive,ratio⟩ := Binary64.scaledRatio m e
  obtain ⟨k,multiple⟩ : (Binary64.scaled m e).2 ∣ (Binary64.scaled m e).1 :=
    Nat.dvd_of_mod_eq_zero (of_decide_eq_true integer)
  have unit : ((Binary64.scaled m e).2 : ℚ) ≠ 0 := by exact_mod_cast positive.ne'
  have quotient : (k : ℚ) = m * 2 ^ e := by
    rw [← ratio,multiple,Nat.cast_mul,mul_div_cancel_left₀ _ unit]
  change some (if negative then -(((Binary64.scaled m e).1 / (Binary64.scaled m e).2 : Nat) : Int)
    else ((Binary64.scaled m e).1 / (Binary64.scaled m e).2 : Nat)) = _ at part
  rw [multiple,Nat.mul_div_cancel_left k positive] at part
  rw [← Option.some.inj part,Binary64.amount,← quotient]
  cases negative <;> simp

theorem rankCounts {t : Text} {l : Literal} {x : Binary64} (spelled : Spells t l)
    (read : readFloat t = .ok x) (rank : isRank x = true) : Counts l.amount x.toInt64 := by
  rw [isRank,Bool.not_eq_true',Bool.or_eq_false_iff,Bool.not_eq_false'] at rank
  obtain ⟨more,integer⟩ := rank
  have reads := Number.floatRounds spelled
  have inside : |l.amount| < overflow := by
    by_contra beyond
    cases (reads.beyond (not_lt.mp beyond)).symm.trans read
  obtain ⟨z,y,found,worth,nearest,_⟩ := reads.inside inside
  obtain rfl := Except.ok.inj (found.symm.trans read)
  have same := integerWhole worth integer
  have one : 1 ≤ y := by
    by_contra less
    cases ((Binary64.ltWorth worth oneWorth).mpr (not_le.mp less)).symm.trans more
  rw [← same] at nearest one
  have counts := nearestCounts nearest (by exact_mod_cast one)
  have fit : Int64Range.fits (whole y) = true ↔ whole y < 2 ^ 63 := by
    rw [Moment.wholeFits,and_iff_right (by linarith),← Int.cast_lt (R := ℚ),same]
    norm_num
  rw [Moment.wholeRead worth]
  simp only [fit]
  exact counts

/-! ### Statements -/

/-- A matrix whose last common table expression keeps the first series of each time. -/
structure Ranked (compiled : Compiled) (fn : Text) (n : Int) (before : List (Named Text))
    (inner a : Text) (rows : SelectOf Text) (name : Text) : Prop where
  withs : (Expr.selectTexts compiled.bindings.view compiled.select).withs =
    before ++ [⟨inner,a⟩, ⟨rows.text,name⟩]
  source : rows.source = some a
  columns : rows.columns = [⟨columnOf a timestampColumn,timestampColumn⟩,
    ⟨.concat ["arraySlice(", if fn = ("topk" : Text) then "arrayReverseSort" else "arraySort",
      "(x -> x.2, groupArray((", columnOf a labelsColumn, ", ", columnOf a valueColumn, "))), 1, ",
      Text.ofInt n, ")"],"top"⟩]
  groups : rows.groups = [timestampColumn]
  samples : (Expr.selectTexts compiled.bindings.view compiled.select).joins =
    [⟨"ARRAY",name ++ ".top","top_item",none⟩]

theorem topRanked {e : Engine} {r : Request} {w : Engine.Window} (d : Draft) (fn : Text) (n : Int) :
    ∃ before inner a rows name, Ranked (e.result r w (((d.orderBy []).over fn (topLayer
      (if fn = ("topk" : Text) then "arrayReverseSort" else "arraySort") n)).over fn spreadLayer))
      fn n before inner a rows name := by
  let top := (d.orderBy []).over fn (topLayer
    (if fn = ("topk" : Text) then "arrayReverseSort" else "arraySort") n)
  let v := (e.result r w (top.over fn spreadLayer)).bindings.view
  refine ⟨Expr.namedTexts v d.select.withs,Expr.text v (.query (bare (d.orderBy []).select)),
    (d.orderBy []).next fn,Expr.selectTexts v (bare top.select),top.next fn,?_,rfl,rfl,rfl,?_⟩
  · rw [resultSelect,Expr.selectTextsFields]
    change Expr.namedTexts v (top.over fn spreadLayer).select.withs = _
    rw [overWiths,overWiths,Expr.namedTextsMap,Expr.namedTextsMap,List.map_append,List.map_append,
      List.append_assoc]
    rfl
  · rw [resultSelect,Expr.selectTextsFields]
    rfl

theorem rankRanked {e : Engine} {r : Request} {w : Engine.Window} {d next : Draft} {ranking : Form.Ranking}
    (ok : rankDraft d (some ranking) = .ok next) :
    ∃ x, readFloat ranking.param.text = .ok x ∧ isRank x = true ∧ ∃ before inner a rows name,
      Ranked (e.result r w next) ranking.fn x.toInt64 before inner a rows name := by
  obtain ⟨x,read,ok⟩ := bindOk ok
  split at ok
  · rename_i rank
    cases ok
    exact ⟨x,mapErrorOk (mapErrorOk read),rank,topRanked d ranking.fn x.toInt64⟩
  · exact nomatch ok

/-- A ranking keeps as many series as the nearest number of the format to the count that is written. -/
theorem ranksCounted {e : Engine} {clientTemplates : Bool}
    (full : e.registry = Registry.full clientTemplates) {r : Request} {compiled : Compiled}
    (ok : e.compile r = .ok compiled) :
    ∃ text root, e.Expands r.query text ∧ e.parse text = .ok root ∧
      root.find? Kind.userMacro = none ∧
      ∀ n, root.find? Kind.parameterizedExpression = some n →
        ∃ k before inner a rows name,
          Ranked compiled (n.valueOf Kind.parameterizedExpressionFn) k before inner a rows name ∧
          (∃ l, Spells (n.valueOf Kind.parameterValue) l) ∧
          ∀ l, Spells (n.valueOf Kind.parameterValue) l → Counts l.amount k := by
  obtain ⟨text,expands,source⟩ := compileSource full ok
  cases source with
  | @rows s w d read window drafted =>
    refine ⟨text,_,expands,read,Form.rowsNoCall s,fun n found => ?_⟩
    exact nomatch (Form.rowsRanking s).symm.trans found
  | @matrix m ranking threshold w d read window drafted =>
    refine ⟨text,_,expands,read,Form.matrixNoCall m ranking threshold,fun n found => ?_⟩
    rw [Form.matrixRanking] at found
    cases ranking with
    | none => exact nomatch found
    | some ranking =>
      cases found
      obtain ⟨_,_,drafted⟩ := bindOk drafted
      obtain ⟨_,_,ranked⟩ := bindOk drafted
      obtain ⟨x,number,rank,before,inner,a,rows,name,shape⟩ := rankRanked ranked
      rw [Form.rankingName,Form.rankingParameter]
      refine ⟨_,before,inner,a,rows,name,shape,rankingSpells (mapErrorOk read),fun l spelled => ?_⟩
      exact rankCounts spelled number rank

/-- A ranking by the first integer that sixty-four bits do not hold. -/
def largestCount : Request :=
  { query := "topk(9223372036854775808, rate(\x7bapp=\"api\"\x7d [1m]))" }

theorem largestCountNegative : ∃ compiled k before inner a rows name,
    ({ registry := .full true } : Engine).compile largestCount = .ok compiled ∧
      Ranked compiled "topk" k before inner a rows name ∧ k ≤ 0 ∧
      ∃ l, Spells "9223372036854775808" l ∧ l.amount = 2 ^ 63 := by
  obtain ⟨root,read,run⟩ := okAny
    (show (({ registry := .full true } : Engine).parse largestCount.query).toOption.any
      (fun root => ((root.find? Kind.userMacro).isNone &&
        (root.find? Kind.parameterizedExpression).map (fun n =>
          (n.valueOf Kind.parameterizedExpressionFn, n.valueOf Kind.parameterValue)) =
          some (("topk" : Text), ("9223372036854775808" : Text))) &&
        (({ registry := .full true } : Engine).compile largestCount).toOption.any fun _ => true) =
      true by decide +kernel)
  simp only [Bool.and_eq_true,decide_eq_true_eq,Option.isNone_iff_eq_none] at run
  obtain ⟨⟨plain,ranked⟩,run⟩ := run
  obtain ⟨compiled,ok,_⟩ := okAny run
  obtain ⟨n,found,values⟩ := Option.map_eq_some_iff.mp ranked
  obtain ⟨fn,param⟩ := Prod.mk.inj values
  obtain ⟨text,tree,expands,parsed,_,counted⟩ := ranksCounted rfl ok
  obtain rfl : tree = root := by
    cases expands with
    | here => exact Except.ok.inj (parsed.symm.trans read)
    | call first called => simp [Except.ok.inj (first.symm.trans read),plain] at called
  obtain ⟨k,before,inner,a,rows,name,shape,_,counts⟩ := counted n found
  rw [fn] at shape
  rw [param] at counts
  have integral : Number.Integral [] "9223372036854775808" (9223372036854775808 : Nat) := by
    have value : Text.digitsValue "9223372036854775808" = 9223372036854775808 := rfl
    exact value ▸ .spelled .none (by decide) (by decide +kernel)
  obtain ⟨l,spelled,amount⟩ := Number.integerSpells integral
  have size : l.amount = 2 ^ 63 := by
    rw [amount]
    norm_num
  refine ⟨compiled,k,before,inner,a,rows,name,ok,shape,?_,l,spelled,size⟩
  have sign := (counts l spelled).positive
  rw [size] at sign
  by_contra positive
  have below := sign.mp (not_le.mp positive)
  norm_num at below

end LogSql.Compile
