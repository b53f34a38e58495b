import Mathlib.Order.Bounds.Basic
import LogSql.Proofs.Compile.Window
import LogSql.Proofs.Query.Schema

/-! The window of a matrix. Its bounds are spelled as nanoseconds, and they are those of the request moved
outwards to the next multiples of the length that its range is written with, whatever stands around that
range in the query. A request does not end before it starts, and neither does its window as long as those
multiples stay in sixty-four bits; one that leaves them comes out at the other end. -/
namespace LogSql

open Int64Range (fits fitsRange wrap wrapTurn)

/-! ### Written lengths -/

namespace Duration

theorem unitWhole {unit : Text} {size : Nat} (known : rangeUnits.lookup unit = some size) :
    1000000 ∣ size := by
  have each : ∀ u ∈ rangeUnits, 1000000 ∣ u.2 := by decide
  obtain ⟨_,_,split,_⟩ := List.lookup_eq_some_iff.mp known
  exact each (unit,size) (by rw [split]; simp)

/-- Lengths are written in units that are whole milliseconds. -/
theorem rangeTermsWhole {whole t : Text} {fuel : Nat} {units : List (Text × Nat)} {total n : Nat}
    (before : 1000000 ∣ total) (ok : readRangeTerms whole fuel units total t = .ok n) :
    1000000 ∣ n := by
  induction fuel generalizing units total t with
  | zero =>
    cases t with
    | nil =>
      cases ok
      exact before
    | cons b rest => contradiction
  | succ fuel ih =>
    cases t with
    | nil =>
      cases ok
      exact before
    | cons b rest =>
      simp only [readRangeTerms] at ok
      obtain ⟨_,ok⟩ := guardOk ok
      obtain ⟨_,ok⟩ := guardOk ok
      obtain ⟨_,ok⟩ := guardOk ok
      split at ok
      · contradiction
      · rename_i size known
        obtain ⟨_,ok⟩ := guardOk ok
        obtain ⟨_,ok⟩ := guardOk ok
        obtain ⟨_,ok⟩ := guardOk ok
        exact ih (Nat.dvd_add before (Nat.dvd_mul_left_of_dvd (unitWhole known) _)) ok

theorem rangeWhole {t : Text} {n : Int} (ok : readRange t = .ok n) : 1000000 ∣ n := by
  unfold readRange at ok
  split at ok
  · cases ok
    exact Int.dvd_zero _
  · split at ok
    · contradiction
    · obtain ⟨m,read,ok⟩ := bindOk ok
      cases ok
      exact Int.ofNat_dvd.mpr (rangeTermsWhole (Nat.dvd_zero _) read)

end Duration

namespace Compile

open Query
open Duration (longest)
open Sql (Cell Value)

/-- The milliseconds of a range are the length as it is written. -/
theorem durationWritten {t : Text} {ms : Int} (ok : durationMs t = .ok ms) :
    Duration.readRange t = .ok (ms * 1000000) := by
  obtain ⟨nanos,read,ok⟩ := bindOk ok
  dsimp only at ok
  split at ok
  · contradiction
  · cases ok
    rw [mapErrorOk read,Duration.milliseconds,
      Int.tdiv_mul_cancel (Duration.rangeWhole (mapErrorOk read))]

/-! ### The range of a query -/

/-- The texts of the lengths that stand in a range. -/
def lengths (n : Node) : List Text :=
  (n.children.filter fun c => c.kind = Kind.durationValue).map Node.value

theorem spanLength (m : Form.Matrix) : lengths m.rangeNode = [m.span.text] := by
  have child : m.rangeNode.child? Kind.durationValue =
      some (.leaf Kind.durationValue m.span.text) := by
    have range (r : Form.Range) : r.node.child? Kind.durationValue =
        some (.leaf Kind.durationValue r.span.text) := by
      cases r with
      | log fn known s span => exact Form.logRangeSpan fn known s span
      | unwrap fn known u => exact (Form.rangeUnwraps fn known u).span
    cases m with
    | range r => exact range r
    | quantile fn known x u => exact (Form.quantileUnwraps fn known x u).span
    | aggregate fn known g r => exact range r
  obtain ⟨d,_,only,_⟩ := (Form.matrixRangeNode m).length
  rw [Node.child?,← List.head?_filter,only] at child
  cases child
  rw [lengths,only]
  rfl

theorem windowLength {e : Engine} {r : Request} {root n : Node} {f : Family} {w : Engine.Window}
    (ok : e.supported r root = .ok w) (found : classify root = some (f,n)) :
    rangeOf n = .ok w.context.duration := by
  unfold Engine.supported at ok
  split at ok
  · contradiction
  · rw [Engine.window] at ok
    obtain ⟨step,_,ok⟩ := bindOk ok
    change (if e.closing r < e.opening r then _ else _) = _ at ok
    split at ok
    · contradiction
    · rw [found] at ok
      obtain ⟨length,range,ok⟩ := bindOk ok
      cases ok
      exact range

/-! ### The nearest multiples -/

/-- The multiples of a length up to a number, and those from a number on. -/
def multiplesTo (d v : Int) : Set Int := {m | d ∣ m ∧ m ≤ v}

@[inherit_doc multiplesTo]
def multiplesFrom (d v : Int) : Set Int := {m | d ∣ m ∧ v ≤ m}

section Nearest

variable {d v a : Int} (positive : 0 < d)
include positive

theorem floorGreatest :
    ∃ a, IsGreatest (multiplesTo d v) a ∧ floorMultiple v d = wrap a ∧ v - a < d := by
  obtain ⟨cut,wrapped,multiple,low,near⟩ := floorCut v positive
  refine ⟨cut,⟨⟨multiple,low⟩,fun m ⟨other,below⟩ => ?_⟩,wrapped,by omega⟩
  rcases Int.lt_or_le cut m with more | less
  · have apart := Int.le_of_dvd (by omega) (Int.dvd_sub other multiple)
    omega
  · exact less

theorem floorNearest (nearest : IsGreatest (multiplesTo d v) a) :
    floorMultiple v d = wrap a ∧ v - a < d := by
  obtain ⟨cut,greatest,floored⟩ := floorGreatest (v := v) positive
  obtain rfl := nearest.unique greatest
  exact floored

theorem ceilLeast :
    ∃ a, IsLeast (multiplesFrom d v) a ∧ ceilMultiple v d = wrap a ∧ a - v < d := by
  obtain ⟨cut,wrapped,multiple,high,near⟩ := ceilCut v positive
  refine ⟨cut,⟨⟨multiple,high⟩,fun m ⟨other,above⟩ => ?_⟩,wrapped,by omega⟩
  rcases Int.lt_or_le m cut with less | more
  · have apart := Int.le_of_dvd (by omega) (Int.dvd_sub multiple other)
    omega
  · exact more

theorem ceilNearest (nearest : IsLeast (multiplesFrom d v) a) :
    ceilMultiple v d = wrap a ∧ a - v < d := by
  obtain ⟨cut,least,ceiled⟩ := ceilLeast (v := v) positive
  obtain rfl := nearest.unique least
  exact ceiled

end Nearest

/-- What the parameter of a name is bound to. -/
def Compiled.parameter? (compiled : Compiled) (name : Text) : Option Value :=
  (compiled.select.param? name).bind compiled.bindings.get?

/-- The bounds of what a draft reads are spelled by the parameters of its result. -/
theorem resultParameters {e : Engine} {r : Request} {root : Node} {w : Engine.Window} {d : Draft}
    (window : e.supported r root = .ok w) (params : d.select.params = baseCells) :
    (e.result r w d).parameter? "from" =
        some (.verbatim (nanosText (e.readsFrom r (e.result r w d)))) ∧
      (e.result r w d).parameter? "to" =
        some (.verbatim (nanosText (e.readsTo r (e.result r w d)))) := by
  have declared : (e.result r w d).select.params = baseCells :=
    params ▸ congrArg _ (resultSelect r w d)
  have bounds := windowBounds window d
  have cells := resultCells (e := e) (r := r) (w := w) params
  have named : baseCells.find? (fun c => c.name = ("from" : Text)) = some fromCell ∧
      baseCells.find? (fun c => c.name = ("to" : Text)) = some toCell := by
    simp [baseCells,samplesCell,timeSeriesCell,fromCell,toCell]
  constructor
  · rw [Compiled.parameter?,Sql.SelectOf.param?,declared,named.1,Option.bind_some,cells.2.1,bounds.1]
  · rw [Compiled.parameter?,Sql.SelectOf.param?,declared,named.2,Option.bind_some,cells.2.2.1,bounds.2]

section Requests

variable {e : Engine} {clientTemplates : Bool} {r : Request} {compiled : Compiled}

theorem parametersSpelled (full : e.registry = Registry.full clientTemplates)
    (ok : e.compile r = .ok compiled) :
    compiled.parameter? "from" = some (.verbatim (nanosText (e.readsFrom r compiled))) ∧
      compiled.parameter? "to" = some (.verbatim (nanosText (e.readsTo r compiled))) := by
  obtain ⟨text,_,source⟩ := compileSource full ok
  cases source with
  | rows _ window drafted => exact resultParameters window (listingReached window drafted).1
  | matrix _ window drafted => exact resultParameters window (seriesReached window drafted).1

/-- The query of a matrix has one range, and the bounds of what it reads are spelled by its parameters. -/
theorem matrixParameters (full : e.registry = Registry.full clientTemplates)
    (ok : e.compile r = .ok compiled) (matrix : compiled.matrix = true) :
    (∃ text root range t, e.Expands r.query text ∧ e.parse text = .ok root ∧
      root.ranges = [range] ∧ lengths range = [t] ∧ durationMs t = .ok compiled.duration) ∧
    compiled.parameter? "from" = some (.verbatim (nanosText (e.readsFrom r compiled))) ∧
    compiled.parameter? "to" = some (.verbatim (nanosText (e.readsTo r compiled))) := by
  refine ⟨?_,parametersSpelled full ok⟩
  obtain ⟨text,expands,source⟩ := compileSource full ok
  cases source with
  | rows read window drafted =>
    -- Rows that are listed are no matrix.
    have listed := (supportedContext window).1
    rw [Form.classifyRows] at listed
    exact absurd (matrix.symm.trans listed) (by simp)
  | @matrix m ranking threshold w d read window drafted =>
    have length := windowLength window (Form.classifyMatrix m ranking threshold)
    rw [Form.matrixRange] at length
    have same : (e.result { r with query := text } w d).duration = w.context.duration := by
      simpa [Engine.result,durationPositive length] using fun listed => absurd matrix (by
        simp [Engine.result,listed])
    exact ⟨text,_,m.rangeNode,m.span.text,expands,read,Form.matrixRanges m ranking threshold,
      spanLength m,same ▸ length⟩

/-- The parameters of a matrix denote the nearest multiples of its range around the bounds of the request,
so that its window holds that of the request and is wider by less than the range on each side. -/
theorem boundsAligned (full : e.registry = Registry.full clientTemplates)
    (ok : e.compile r = .ok compiled) (matrix : compiled.matrix = true) :
    (∃ text root range t, e.Expands r.query text ∧ e.parse text = .ok root ∧
      root.ranges = [range] ∧ lengths range = [t] ∧
      Duration.readRange t = .ok (compiled.duration * 1000000)) ∧
    1 ≤ compiled.duration ∧ e.opening r ≤ e.closing r ∧
    ∃ low high, compiled.parameter? "from" = some (.verbatim low) ∧
      compiled.parameter? "to" = some (.verbatim high) ∧
      ∀ start stop, IsGreatest (multiplesTo compiled.duration (e.opening r)) start →
        IsLeast (multiplesFrom compiled.duration (e.closing r)) stop →
        (fits start = true → Numeral low (start * 1000000)) ∧
        (fits stop = true → Numeral high (stop * 1000000)) ∧
        start ≤ e.opening r ∧ e.opening r - start < compiled.duration ∧
        e.closing r ≤ stop ∧ stop - e.closing r < compiled.duration := by
  obtain ⟨⟨text,root,range,t,expands,read,one,length,known⟩,low,high⟩ :=
    matrixParameters full ok matrix
  have positive := durationPositive known
  refine ⟨⟨text,root,range,t,expands,read,one,length,durationWritten known⟩,positive,
    compileOrdered ok,_,_,low,high,fun start stop first last => ?_⟩
  obtain ⟨floored,near⟩ := floorNearest positive first
  obtain ⟨ceiled,close⟩ := ceilNearest positive last
  refine ⟨fun inside => ?_,fun inside => ?_,first.1.2,near,last.1.2,close⟩
  · rw [Engine.readsFrom,if_pos matrix,floored,Int64Range.wrapSame inside]
    exact nanosNumeral start
  · rw [Engine.readsTo,if_pos matrix,ceiled,Int64Range.wrapSame inside]
    exact nanosNumeral stop

end Requests

/-- A ranked and merged count of rows by the minute around the epoch. -/
def epochCount : Request :=
  { query := "topk(1, sum(count_over_time(\x7bapp=\"api\"\x7d [1m])))", start := -90001, stop := 150001 }

theorem epochAligned : ∃ compiled low high,
    ({ registry := .full true } : Engine).compile epochCount = .ok compiled ∧
      compiled.parameter? "from" = some (.verbatim low) ∧ Numeral low (-120000000000) ∧
      compiled.parameter? "to" = some (.verbatim high) ∧ Numeral high 180000000000 := by
  obtain ⟨compiled,ok,run⟩ := okAny
    (show (({ registry := .full true } : Engine).compile epochCount).toOption.any
      (fun compiled => compiled.matrix && compiled.duration = 60000) = true by decide +kernel)
  simp only [Bool.and_eq_true,decide_eq_true_eq] at run
  obtain ⟨matrix,duration⟩ := run
  obtain ⟨_,_,_,low,high,first,second,denote⟩ := boundsAligned rfl ok matrix
  have start : IsGreatest (multiplesTo 60000 (-90001)) (-120000) :=
    ⟨⟨by decide,by decide⟩,fun m ⟨whole,below⟩ => by omega⟩
  have stop : IsLeast (multiplesFrom 60000 150001) 180000 :=
    ⟨⟨by decide,by decide⟩,fun m ⟨whole,above⟩ => by omega⟩
  obtain ⟨lowest,highest,_⟩ := denote (-120000) 180000 (duration ▸ start) (duration ▸ stop)
  exact ⟨compiled,low,high,ok,first,lowest (by decide),second,highest (by decide)⟩

/-! ### The order of the bounds -/

/-- Bounds that are moved apart by less than a length keep their order unless one of them leaves sixty-four
bits and the other one is not a whole turn away. -/
theorem movedOrder {d opening closing first last : Int} (short : d ≤ longest)
    (start : fits opening = true) (stop : fits closing = true) (order : opening ≤ closing)
    (before : first ≤ opening ∧ opening - first < d) (behind : closing ≤ last ∧ last - closing < d) :
    wrap first ≤ wrap last ↔ fits first = true ∧ fits last = true ∨
      (fits first = true ∨ fits last = true) ∧ 18446744073709551616 ≤ last - first := by
  rw [longest] at short
  simp only [fitsRange,Int64Range.least,Int64Range.greatest,wrapTurn] at start stop ⊢
  omega

section Order

variable {e : Engine} {clientTemplates : Bool} {r : Request} {compiled : Compiled}

/-- The parameters of a list of rows are in order. Those of a matrix are exactly when the multiples around the
bounds of the request stay in sixty-four bits, but for windows of all sixty-four bits. -/
theorem windowOrdered (full : e.registry = Registry.full clientTemplates) (start : fits r.start = true)
    (stop : fits r.stop = true) (now : fits e.now = true) (ok : e.compile r = .ok compiled) :
    ∃ low high a b, compiled.parameter? "from" = some (.verbatim low) ∧ Numeral low a ∧
      compiled.parameter? "to" = some (.verbatim high) ∧ Numeral high b ∧
      (compiled.matrix = false → a ≤ b) ∧
      (compiled.matrix = true → ∃ first last,
        IsGreatest (multiplesTo compiled.duration (e.opening r)) first ∧
        IsLeast (multiplesFrom compiled.duration (e.closing r)) last ∧
        (a ≤ b ↔ fits first = true ∧ fits last = true ∨
          (fits first = true ∨ fits last = true) ∧ 18446744073709551616 ≤ last - first)) := by
  obtain ⟨low,high⟩ := parametersSpelled full ok
  have order := compileOrdered ok
  refine ⟨_,_,_,_,low,nanosNumeral _,high,nanosNumeral _,fun rows => ?_,fun matrix => ?_⟩
  · simp only [Engine.readsFrom,Engine.readsTo,rows]
    simpa using order
  · obtain ⟨⟨_,_,_,t,_,_,_,_,known⟩,_⟩ := matrixParameters full ok matrix
    have positive := durationPositive known
    obtain ⟨first,greatest,floored,near⟩ := floorGreatest (v := e.opening r) positive
    obtain ⟨last,least,ceiled,close⟩ := ceilLeast (v := e.closing r) positive
    refine ⟨first,last,greatest,least,?_⟩
    rw [Engine.readsFrom,Engine.readsTo,if_pos matrix,if_pos matrix,floored,ceiled,
      ← movedOrder (durationLongest known) (openingFits start) (closingFits stop now) order
        ⟨greatest.1.2,near⟩ ⟨least.1.2,close⟩]
    omega

end Order

/-- A count by the minute up to the last millisecond of sixty-four bits. -/
def endlessCount : Request :=
  { query := "count_over_time(\x7bapp=\"api\"\x7d [1m])", start := 1714561200000, stop := 9223372036854775807 }

theorem endlessInverted : fits endlessCount.start = true ∧ fits endlessCount.stop = true ∧
    ∃ compiled low high a b, ({ registry := .full true } : Engine).compile endlessCount = .ok compiled ∧
      compiled.parameter? "from" = some (.verbatim low) ∧ Numeral low a ∧
      compiled.parameter? "to" = some (.verbatim high) ∧ Numeral high b ∧ b < a := by
  obtain ⟨compiled,ok,run⟩ := okAny
    (show (({ registry := .full true } : Engine).compile endlessCount).toOption.any
      (fun compiled => compiled.matrix && compiled.duration = 60000) = true by decide +kernel)
  simp only [Bool.and_eq_true,decide_eq_true_eq] at run
  obtain ⟨matrix,duration⟩ := run
  obtain ⟨low,high,a,b,first,from',last,to',_,order⟩ :=
    windowOrdered rfl (by decide) (by decide) (by decide) ok
  obtain ⟨start,stop,greatest,least,kept⟩ := order matrix
  rw [duration] at greatest least
  have opening : start = 1714561200000 :=
    greatest.unique ⟨⟨by decide,by decide⟩,fun m ⟨_,below⟩ => below⟩
  have closing : stop = 9223372036854780000 :=
    least.unique ⟨⟨by decide,by decide⟩,fun m ⟨whole,above⟩ => by
      have after : 9223372036854775807 ≤ m := above
      omega⟩
  refine ⟨by decide,by decide,compiled,low,high,a,b,ok,first,from',last,to',Int.not_le.mp fun inOrder => ?_⟩
  rw [kept,opening,closing] at inOrder
  exact absurd inOrder (by decide)

end Compile
end LogSql
