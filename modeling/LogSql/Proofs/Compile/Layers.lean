import LogSql.Proofs.Compile.Rows

/-! Statements over statements. Each step of a matrix moves the statement built so far into a common
table expression and puts one layer over it; the handlers of matrices are said here as layers, and
what a whole query compiles to follows from its form. -/
namespace LogSql.Compile

open Query
open Sql (Expr Select SelectOf Named Join)

/-- A statement over the one that is built so far, apart from what it reads from. -/
structure Layer where
  columns : List (Named Expr)
  joins : List (Join Expr) := []
  filters : List Expr := []
  groups : List Expr := []
  orders : List (Named Expr) := []
  limit : Option Expr := none

/-- The statement of a layer that reads from a common table expression. -/
def Layer.body (l : Layer) (source : Text) : Select :=
  { columns := l.columns, source := some (.raw source), joins := l.joins, filters := l.filters
    groups := l.groups, orders := l.orders, limit := l.limit }

/-- Puts a layer, which may mention the name of what it reads from, over the statement. -/
def Draft.over (d : Draft) (stem : Text) (l : Text → Layer) : Draft :=
  let a := (d.context.names.fresh stem).1
  { d with
    select := { (l a).body a with withs := (d.select.wrap a).withs, params := d.select.params }
    context := { d.context with names := (d.context.names.fresh stem).2 } }

/-! ### The layers of matrices -/

/-- The columns of a matrix. -/
def matrixEntries (labels timestamp : Text) (value : Expr) : List (Named Expr) :=
  [⟨.raw labels, labelsColumn⟩, ⟨.raw timestamp, timestampColumn⟩, ⟨value, valueColumn⟩]

/-- The order of the samples of a matrix. -/
def matrixOrder : List (Named Expr) := [⟨.raw labelsColumn, "asc"⟩, ⟨.raw timestampColumn, "asc"⟩]

/-- One group for each sample of a matrix. -/
def sampleGroups : List Expr := [.raw labelsColumn, .raw timestampColumn]

/-- The buckets of rows. -/
def bucketLayer (extra : Bool) (clause : Option Node) (duration : Int) (value : Text → Text)
    (a : Text) : Layer :=
  { columns := matrixEntries (grouped (seriesLabels a extra) clause) (cutTime a duration)
      (.raw (value a))
    groups := sampleGroups, orders := matrixOrder }

/-- Longer buckets that keep the latest value. -/
def stepLayer (step : Int) (a : Text) : Layer :=
  { columns := matrixEntries (columnOf a labelsColumn) (cutTime a step)
      (.raw (.concat ["argMax(", columnOf a valueColumn, ", ", columnOf a timestampColumn, ")"]))
    groups := sampleGroups, orders := matrixOrder }

/-- Merged series. -/
def mergeLayer (fn : Text) (clause : Option Node) (a : Text) : Layer :=
  { columns := matrixEntries (grouped (columnOf a labelsColumn) clause) (columnOf a timestampColumn)
      (.raw (if fn = ("count" : Text) then "toFloat64(count())"
        else .concat [fn, "(", columnOf a valueColumn, ")"]))
    groups := sampleGroups, orders := matrixOrder }

/-- Samples that compare with a number, or marks of them. -/
def thresholdLayer (op : Text) (want : Binary64) (marked : Bool) (a : Text) : Layer :=
  let cond := Expr.binary op (.raw (columnOf a valueColumn)) (.float want)
  { columns := matrixEntries (columnOf a labelsColumn) (columnOf a timestampColumn)
      (if marked then .raw (.concat ["toFloat64(", Draft.fixedText cond, ")"])
        else .raw (columnOf a valueColumn))
    filters := if marked then [] else [cond], orders := matrixOrder }

/-- The series with the highest or the lowest values at every time. -/
def topLayer (sort : Text) (k : Int) (a : Text) : Layer :=
  { columns := [⟨.raw (columnOf a timestampColumn), timestampColumn⟩,
      ⟨.raw (.concat ["arraySlice(", sort, "(x -> x.2, groupArray((", columnOf a labelsColumn, ", ",
        columnOf a valueColumn, "))), 1, ", Text.ofInt k, ")"]), "top"⟩]
    groups := [.raw timestampColumn] }

/-- The samples of such series. -/
def spreadLayer (b : Text) : Layer :=
  { columns := matrixEntries "top_item.1" (columnOf b timestampColumn) "top_item.2"
    joins := [{ kind := "ARRAY", table := .raw (b ++ ".top"), name := "top_item" }]
    orders := matrixOrder }

/-- A list of rows. -/
def listingLayer (direction : Text) (joinLabels : Bool) (a : Text) : Layer :=
  { columns := if joinLabels then [] else [labelsEntry, ⟨.raw (a ++ ".*"), []⟩]
    joins := if joinLabels then [] else [labelsJoin a]
    orders := [⟨.raw labelsColumn, direction⟩, byTime direction]
    limit := some (.cell limitCell) }

theorem stepLayered (d : Draft) :
    applyStep d = if d.context.step ≤ d.context.duration then d
      else (d.orderBy []).over "step" (stepLayer d.context.step) := rfl

theorem bucketLayered (stem : Text) (value : Text → Text) (clause : Option Node) (d : Draft) :
    bucket stem value clause d = applyStep (((d.orderBy []).setLimit none).over stem
      (bucketLayer d.hasExtraLabels clause d.context.duration value)) := rfl

theorem aggregateLayered (fn : Text) (n : Node) (d : Draft) :
    aggregate fn (some n) d =
      .ok ((d.orderBy []).over "agg" (mergeLayer fn (n.child? Kind.optByWithout))) := rfl

theorem compareLayered (op : Text) (n : Node) (d : Draft) :
    compareSamples op (some n) d = (number (n.valueOf Kind.numberValue)).map fun want =>
      (d.orderBy []).over "cmp"
        (thresholdLayer op want (n.child? Kind.boolModifier).isSome) := by
  simp only [compareSamples,onNode,Option.getD_some]
  cases number (n.valueOf Kind.numberValue) with
  | error e => rfl
  | ok want =>
    by_cases marked : (n.child? Kind.boolModifier).isSome = true <;> simp only [marked] <;> rfl

theorem listingLayered (r : Rows) (c : Context) (direction : Text) (orders : List (Named Expr)) :
    Engine.listing direction (r.draft .line c orders) =
      (r.draft .line c orders).over "sel" (listingLayer direction c.joinLabels) := by
  cases joined : c.joinLabels <;>
    simp [Engine.listing,Draft.wrap,Draft.over,Draft.mapSelect,Draft.setLimit,Layer.body,listingLayer,
      Rows.draft,Rows.body,Select.wrap,joinStreamLabels,SelectOf.addColumn,SelectOf.param?,baseCells,
      samplesCell,timeSeriesCell,fromCell,toCell,limitCell,labelsEntry,labelsJoin,joined]

/-- A ranking counts a whole number of series, at least one. -/
def isRank (k : Binary64) : Bool := !(k.lt (Binary64.ofInt 1) || !k.isWhole)

theorem rankLayered (stem sort : Text) (n : Node) (d : Draft) :
    rank stem sort (some n) d = (number (n.valueOf Kind.parameterValue)).bind fun k =>
      if isRank k then
        .ok (((d.orderBy []).over stem (topLayer sort k.toInt64)).over stem spreadLayer)
      else .error (.notPositive stem) := by
  simp only [rank,onNode,Option.getD_some,isRank]
  cases number (n.valueOf Kind.parameterValue) with
  | error e => rfl
  | ok k =>
    by_cases refused : (k.lt (Binary64.ofInt 1) || !k.isWhole) = true
    · simp only [bind,Except.bind,refused,if_true]
      rfl
    · simp only [bind,Except.bind,refused]
      rfl

end LogSql.Compile
