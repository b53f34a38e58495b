import LogSql.Compile.Stage

/-!
Matrices: rows are counted or their numbers combined in buckets of time, series are merged, samples
compared and ranked. Each step reads from the step before it.
-/
namespace LogSql.Compile

open Query
open Sql (Expr)

/-- A column of a common table expression. -/
def columnOf (table column : Text) : Text := .concat [table, ".", column]

/-- A label set that has no labels, with the type of the labels column. -/
def emptyLabels : Text := "CAST([], 'Array(Tuple(String, String))')"

/-- Labels restricted by a grouping clause; without one all of them are kept. -/
def grouped (labels : Text) : Option Node → Text
  | none => labels
  | some clause =>
    let names := (clause.findAll Kind.label).map fun n => Sql.literal n.value
    let set : Text := .concat ["[", Text.join ", " names, "]"]
    if clause.valueOf Kind.byWithout = ("without" : Text) then
      .concat ["arrayFilter(x -> NOT has(", set, ", x.1), ", labels, ")"]
    else if names.isEmpty then emptyLabels
    else .concat ["arrayFilter(x -> has(", set, ", x.1), ", labels, ")"]

/-- The label set of a row: the labels of its stream and those that were extracted. -/
def seriesLabels (table : Text) (extra : Bool) : Text :=
  if extra then
    .concat ["arraySort(arrayConcat(", columnOf table labelsColumn, ", ",
      columnOf table extraColumn, "))"]
  else .concat ["arraySort(", columnOf table labelsColumn, ")"]

/-- A time cut down to a multiple of a length. -/
def cutTime (table : Text) (length : Int) : Text :=
  .concat ["intDiv(", columnOf table timestampColumn, ", ", Text.ofInt length, ") * ",
    Text.ofInt length]

/-- The samples of a matrix in order. -/
def orderMatrix (d : Draft) : Draft :=
  d.orderBy [⟨.raw labelsColumn, "asc"⟩, ⟨.raw timestampColumn, "asc"⟩]

/-- The columns of a matrix. -/
def matrixColumns (d : Draft) (labels timestamp : Text) (value : Expr) : Draft :=
  d.setColumns
    [(.raw labels, labelsColumn), (.raw timestamp, timestampColumn), (value, valueColumn)]

/-- Buckets a matrix again when the step of the request is longer than the buckets, keeping the
latest value of each step. -/
def applyStep (d : Draft) : Draft :=
  let step := d.context.step
  if step ≤ d.context.duration then d
  else
    let (a, d) := (d.orderBy []).wrap "step"
    let value : Text := .concat ["argMax(", columnOf a valueColumn, ", ",
      columnOf a timestampColumn, ")"]
    orderMatrix ((matrixColumns d (columnOf a labelsColumn) (cutTime a step) (.raw value)).groupBy
      [labelsColumn, timestampColumn])

/-- Groups rows into buckets with a value for each. -/
def bucket (stem : Text) (value : Text → Text) (clause : Option Node) (d : Draft) : Draft :=
  let extra := d.hasExtraLabels
  let (a, d) := ((d.orderBy []).setLimit none).wrap stem
  applyStep (orderMatrix ((matrixColumns d (grouped (seriesLabels a extra) clause)
    (cutTime a d.context.duration) (.raw (value a))).groupBy [labelsColumn, timestampColumn]))

/-- An amount in a bucket as a rate for each second. -/
def perSecond (amount : Text) (duration : Int) : Text :=
  .concat [amount, " * 1000 / ", Text.ofInt duration]

/-- The number of rows. -/
def rowCount (_ : Text) : Text := "toFloat64(count(1))"

/-- The number of bytes of the lines. -/
def byteCount (table : Text) : Text :=
  .concat ["toFloat64(sum(length(", columnOf table lineColumn, ")))"]

/-- Counts rows or bytes, or gives their rate. -/
def logRange (stem : Text) (amount : Text → Text) (rate : Bool) : Handler := fun _ d =>
  let duration := d.context.duration
  .ok (bucket stem (fun a => if rate then perSecond (amount a) duration else amount a) none d)

/-! ### Unwrapped labels -/

/-- The number that a label denotes. -/
def conversion (conv : Text) (value : Expr) : Except Error Expr :=
  if conv.isEmpty then .ok (.call "toFloat64OrNull" [value])
  else if conv = ("duration" : Text) ∨ conv = ("duration_seconds" : Text) then
    .ok (.call "toFloat64OrNull" [.call "toString" [.call "parseTimeDelta" [value]]])
  else if conv = ("bytes" : Text) then .ok (.call "parseReadableSizeOrNull" [value])
  else .error (.notImplemented "unwrap conversion" conv)

/-- Projects a label as a number and drops the rows where it is none. -/
def unwrapExpression : Handler := fun n d =>
  match n with
  | none => .error .missingUnwrap
  | some n =>
    if d.onClient then .error (.unwrapOnClient Kind.unwrapExpression)
    else do
      let value := Expr.raw (d.labelValue (n.valueOf Kind.label))
      let expr ← conversion (n.valueOf Kind.unwrapConversion) value
      return (d.mapSelect (·.addColumn expr unwrappedColumn)).addWhere
        (.call "isNotNull" [.raw unwrappedColumn])

/-- An aggregate of the unwrapped numbers. -/
def unwrapAggregate (fn table : Text) : Text := .concat [fn, "(", columnOf table unwrappedColumn, ")"]

/-- The unwrapped number that an aggregate picks by its time. -/
def unwrapByTime (fn table : Text) : Text :=
  .concat [fn, "(", columnOf table unwrappedColumn, ", ", columnOf table timestampColumn, ")"]

/-- Combines unwrapped numbers in buckets. -/
def unwrapBucket (stem : Text) (value : Int → Text → Text) : Handler :=
  onNode fun n d =>
    .ok (bucket stem (value d.context.duration) (n.child? Kind.optByWithoutUnwrap) d)

/-- The quantile of the unwrapped numbers. -/
def quantileOverTime : Handler :=
  onNode fun n d => do
    let phi ← number (n.valueOf Kind.parameterValue)
    if phi.lt (.zero false) || (Binary64.ofInt 1).lt phi then throw .badQuantile
    return bucket "quantile_over_time"
      (fun a => .concat ["quantile(", phi.general, ")(", columnOf a unwrappedColumn, ")"])
      (n.child? Kind.optByWithoutUnwrap) d

/-! ### Series -/

/-- Merges the series that share a label set after the grouping clause. -/
def aggregate (fn : Text) : Handler :=
  onNode fun n d =>
    let (a, d) := (d.orderBy []).wrap "agg"
    let value : Text :=
      if fn = ("count" : Text) then "toFloat64(count())"
      else .concat [fn, "(", columnOf a valueColumn, ")"]
    .ok (orderMatrix ((matrixColumns d
      (grouped (columnOf a labelsColumn) (n.child? Kind.optByWithout))
      (columnOf a timestampColumn) (.raw value)).groupBy [labelsColumn, timestampColumn]))

/-- Keeps the samples that compare with a number, or with the modifier marks each by one or zero. -/
def compareSamples (op : Text) : Handler :=
  onNode fun n d => do
    let want ← number (n.valueOf Kind.numberValue)
    let (a, d) := (d.orderBy []).wrap "cmp"
    let sample := Expr.raw (columnOf a valueColumn)
    let cond := Expr.binary op sample (.float want)
    let marked := (n.child? Kind.boolModifier).isSome
    let value : Expr :=
      if marked then .raw (.concat ["toFloat64(", Draft.fixedText cond, ")"]) else sample
    let d := if marked then d else d.addWhere cond
    return orderMatrix
      (matrixColumns d (columnOf a labelsColumn) (columnOf a timestampColumn) value)

/-- Keeps the series with the highest or the lowest value at every time. -/
def rank (stem sort : Text) : Handler :=
  onNode fun n d => do
    let k ← number (n.valueOf Kind.parameterValue)
    if k.lt (Binary64.ofInt 1) || !k.isWhole then throw (.notPositive stem)
    let (a, d) := (d.orderBy []).wrap stem
    let top : Text := .concat ["arraySlice(", sort, "(x -> x.2, groupArray((",
      columnOf a labelsColumn, ", ", columnOf a valueColumn, "))), 1, ",
      Text.ofInt k.toInt64, ")"]
    let d := d.setColumns
      [(.raw (columnOf a timestampColumn), timestampColumn), (.raw top, "top")]
    let (b, d) := (d.groupBy [timestampColumn]).wrap stem
    let d := matrixColumns d "top_item.1" (columnOf b timestampColumn) "top_item.2"
    let join : Sql.Join Expr :=
      { kind := "ARRAY", table := .raw (b ++ ".top"), name := "top_item" }
    return orderMatrix (d.mapSelect fun s => { s with joins := s.joins ++ [join] })

end LogSql.Compile
