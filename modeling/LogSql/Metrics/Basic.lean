import LogSql.Number.Decimal
import LogSql.Json.Value

/-!
Measurements: families of series, each series with the values of its labels and the last value
measured.
-/
namespace LogSql.Metrics

/-- What a measurement means: a sum that only grows, or a value. -/
inductive Kind where
  | counter
  | gauge
  deriving DecidableEq, Repr

/-- A series: its labels in the order of their names, and its value. -/
structure Series where
  labels : List (Text × Text)
  value : Binary64

/-- A family of measurements. -/
structure Family where
  name : Text
  help : Text
  kind : Kind
  labelNames : List Text
  series : List Series := []

/-- Labels by their names. -/
def labelled (names values : List Text) : List (Text × Text) := Json.sorted (names.zip values)

namespace Family

/-- Records a measurement: it is added to a counter and replaces the value of a gauge. -/
def record (f : Family) (values : List Text) (amount : Binary64) : Family :=
  let labels := labelled f.labelNames values
  let here := f.series.find? fun s => s.labels = labels
  let value := match f.kind, here with
    | .counter, some s => s.value.add amount
    | _, _ => amount
  { f with series := ⟨labels, value⟩ :: f.series.filter fun s => s.labels ≠ labels }

/-- The release as a measurement that is always one. -/
def release (version commit buildTime : Text) : Family :=
  ({ name := "blazeql_build_info", help := "Build information", kind := .gauge
     labelNames := ["version", "commit", "build_time"] } : Family).record
    [version, commit, buildTime] (.ofInt 1)

end Family

/-- Orders lists of texts, the first difference deciding. -/
def valuesBefore : List Text → List Text → Bool
  | [], _ => true
  | _ :: _, [] => false
  | a :: as, b :: bs => Text.lt a b || (a = b && valuesBefore as bs)

/-- The families that have measurements, by name, and the series of each by their labels. -/
def gathered (families : List Family) : List Family :=
  let filled := families.filter fun f => !f.series.isEmpty
  (filled.mergeSort fun a b => !Text.lt b.name a.name).map fun f =>
    { f with series := f.series.mergeSort fun a b =>
        valuesBefore (a.labels.map (·.2)) (b.labels.map (·.2)) }

end LogSql.Metrics
