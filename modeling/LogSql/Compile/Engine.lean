import LogSql.Compile.Registry
import LogSql.Query.Parser
import LogSql.Tables

/-!
The compiler. A query is put into one of its families by the constructs it contains; its selector and
stages are folded into the base statement, the handlers of the family and of the trailing modifiers
follow, and tables, time bounds and limit are bound last.
-/
namespace LogSql.Compile

open Query
open Sql (Expr)

/-- The bucket length reported for results that are no matrix, in milliseconds. -/
def defaultDuration : Int := 1000

/-- The window of a request that gives no start, in milliseconds. -/
def defaultWindow : Int := 3600000

/-- How many times the expansion of a macro may be a macro call again. -/
def maxExpansions : Nat := 8

/-- The families of matrix queries, in the order in which they are looked for. -/
inductive Family where
  | aggregation
  | unwrap
  | logRange
  | parameterizedUnwrapped
  deriving DecidableEq, Repr

/-- The construct that marks a family. -/
def Family.kind : Family → Text
  | aggregation => Kind.aggregationOperator
  | unwrap => Kind.unwrapFunction
  | logRange => Kind.logRangeAggregation
  | parameterizedUnwrapped => Kind.parameterizedUnwrapped

/-- The constructs that need the labels of every row. -/
def labelConstructs : List Text :=
  [Kind.aggregationOperator, Kind.unwrapFunction, Kind.logRangeAggregation, Kind.aggStatement,
    Kind.userMacro, Kind.parserExpression, Kind.labelFilterPipeline, Kind.lineFormatExpression,
    Kind.labelsFormatExpression]

/-- The constructs that a live tail refuses, in the order in which they are reported. -/
def tailDenied : List Text :=
  [Kind.userMacro, Kind.aggregationOperator, Kind.unwrapFunction, Kind.logRangeAggregation,
    Kind.aggStatement]

/-- A compiler with its handlers, tables and macros. -/
structure Engine where
  registry : Registry
  policy : Tables.Policy := .default
  /-- The clock, in milliseconds. -/
  now : Int := 0
  macros : List Macro := []
  limit : Nat := defaultLimit

/-- A request. Times are in milliseconds; zero stands for none. -/
structure Request where
  query : Text
  start : Int := 0
  stop : Int := 0
  step : Text := []
  limit : Int := 0
  forward : Bool := false

/-- A compiled query. -/
structure Compiled where
  select : Sql.Select
  bindings : Sql.Bindings
  matrix : Bool := false
  duration : Int := defaultDuration
  hooks : List Hook

/-- The text of a compiled query. -/
def Compiled.text (c : Compiled) : Text := c.select.text c.bindings

/-! ### Durations and windows -/

/-- Reads a range as milliseconds. -/
def durationMs (t : Text) : Except Error Int := do
  let d ← (Duration.readRange t).mapError fun e => .badDuration t e
  let ms := Duration.milliseconds d
  if ms ≤ 0 then throw (.durationTooShort t)
  return ms

/-- Reads a step, in seconds or as a duration, as milliseconds. -/
def stepMs (t : Text) : Except Error Int :=
  if t.isEmpty then .ok 0
  else
    match Number.readFloat t with
    | .ok x =>
      let ms := x.mul (Binary64.ofInt 1000)
      let limit := Binary64.ofInt Int64Range.greatest
      match ms.floor? with
      | some n =>
        if x.lt (.zero false) || limit.le ms then .error (.badStep t none) else .ok n
      | none => .error (.badStep t none)
    | .error _ =>
      match Duration.readRange t with
      | .ok d => .ok (Duration.milliseconds d)
      | .error e => .error (.badStep t (some e))

/-- The greatest multiple of a length that is not above a number. -/
def floorMultiple (v d : Int) : Int :=
  let q := v.tdiv d
  let q := if v.tmod d ≠ 0 ∧ v < 0 then q - 1 else q
  Int64Range.wrap (q * d)

/-- The least multiple of a length that is not below a number. -/
def ceilMultiple (v d : Int) : Int :=
  let q := v.tdiv d
  let q := if v.tmod d ≠ 0 ∧ 0 < v then q + 1 else q
  Int64Range.wrap (q * d)

/-- Milliseconds as nanoseconds, in digits, so that the bound is exact. -/
def nanosText (ms : Int) : Text := Text.ofInt ms ++ "000000"

/-- The constructs that carry a range. -/
def isRanged (n : Node) : Bool :=
  n.kind = Kind.logRangeAggregation || n.kind = Kind.unwrapFunction ||
    n.kind = Kind.parameterizedUnwrapped

mutual

/-- The range of a matrix construct in milliseconds: its own, or else that of the first ranged
construct in it. -/
def rangeOf : Node → Except Error Int
  | .mk kind _ children =>
    match children.find? fun c => c.kind = Kind.durationValue with
    | some d => durationMs d.value
    | none => rangeIn kind children

/-- The range of the first ranged construct of a list. -/
def rangeIn (kind : Text) : List Node → Except Error Int
  | [] => .error (.noRange kind)
  | c :: rest => if isRanged c then rangeOf c else rangeIn kind rest

end

/-- The family of a query, with the construct that marks it. -/
def classify (root : Node) : Option (Family × Node) :=
  [Family.aggregation, .unwrap, .logRange, .parameterizedUnwrapped].findSome? fun f =>
    (root.find? f.kind).map fun n => (f, n)

namespace Engine

/-- Reads a query text in which the macros may be called. -/
def parse (e : Engine) (text : Text) : Except Error Node :=
  (Query.parse (e.macros.map (·.name)) (Text.trim text)).mapError .unreadable

/-- The text that a macro call stands for: the first macro that answers for it decides. -/
def expand (e : Engine) (call : Node) : Except Error Text :=
  match e.macros.find? fun m => m.handles call with
  | some m => (m.expand call).mapError (.expansion m.name)
  | none =>
    let name := match call.children with
      | c :: _ => c.kind
      | [] => call.value
    .error (.notImplemented "macro" name)

/-- Applies a selector rule. -/
def selectorRule (e : Engine) (rule : Node) (d : Draft) : Except Error Draft := do
  let h ← e.registry.streamSelector.get "stream selector operator" (rule.valueOf Kind.operator)
  h (some rule) d

/-- Applies a pipeline stage. -/
def stage (e : Engine) (n : Node) (d : Draft) : Except Error Draft := do
  if n.kind = Kind.lineFilterExpression then
    let h ← e.registry.lineFilter.get "line filter operator" (n.valueOf Kind.lineFilterOperator)
    h (some n) d
  else if n.kind = Kind.parserExpression then
    let h ← e.registry.parser.get "parser" (n.valueOf Kind.parserFnName)
    h (some n) d
  else if n.kind = Kind.labelFilterPipeline then
    let h ← single "label filter" e.registry.labelFilter
    h (n.find? Kind.complexLabelFilterExpression) d
  else if n.kind = Kind.lineFormatExpression then
    let h ← single "line format" e.registry.lineFormat
    h (some n) d
  else if n.kind = Kind.labelsFormatExpression then
    throw (.notSupported Kind.labelsFormatExpression)
  else throw (.notImplemented "pipeline stage" n.kind)

/-- Applies the selector rules under a node and then its pipeline stages, in source order. -/
def selectorPipeline (e : Engine) (n : Node) (d : Draft) : Except Error Draft := do
  let d ← (n.findAll Kind.logStreamSelectorRule).foldlM (fun d rule => e.selectorRule rule d) d
  (n.findAll Kind.logPipeline).foldlM (fun d p =>
    match p.children with
    | s :: _ => e.stage s d
    | [] => .ok d) d

/-- A log range aggregation. -/
def logRangeAggregation (e : Engine) (n : Node) (d : Draft) : Except Error Draft := do
  let h ← e.registry.logRange.get "log range aggregation" (n.valueOf Kind.logRangeAggregationFn)
  h (some n) (← e.selectorPipeline n d)

/-- The pipeline of an unwrap construct and its unwrapped column. -/
def unwrapped (e : Engine) (n : Node) (d : Draft) : Except Error Draft := do
  let byValue := (n.find? Kind.unwrapValueStatement).isSome
  if byValue && (n.find? Kind.logPipeline).isSome then
    throw (.pipelineBeforeValue Kind.logPipeline)
  let d ← e.selectorPipeline n d
  if byValue then
    return d.mapSelect fun s =>
      (s.removeColumn lineColumn).addColumn "samples.value" unwrappedColumn
  else
    let h ← single "unwrap expression" e.registry.unwrapExpression
    h (n.find? Kind.unwrapExpression) d

/-- An unwrap function. -/
def unwrapFunction (e : Engine) (n : Node) (d : Draft) : Except Error Draft := do
  let h ← e.registry.unwrap.get "unwrap function" (n.valueOf Kind.unwrapFn)
  h (some n) (← e.unwrapped n d)

/-- An unwrap function with a parameter. -/
def parameterizedUnwrapped (e : Engine) (n : Node) (d : Draft) : Except Error Draft := do
  let h ← e.registry.parameterizedUnwrapped.get "parameterized unwrapped function"
    (n.valueOf Kind.parameterizedUnwrappedFn)
  h (some n) (← e.unwrapped n d)

/-- An aggregation operator over the matrix inside it. -/
def aggregationOperator (e : Engine) (n : Node) (d : Draft) : Except Error Draft := do
  let d ← match n.child? Kind.logRangeAggregation with
    | some inner => e.logRangeAggregation inner d
    | none => match n.child? Kind.unwrapFunction with
      | some inner => e.unwrapFunction inner d
      | none => pure d
  let h ← e.registry.aggregation.get "aggregation operator" (n.valueOf Kind.aggregationOperatorFn)
  h (some n) d

/-- Applies a family. -/
def family (e : Engine) (f : Family) (n : Node) (d : Draft) : Except Error Draft :=
  match f with
  | .aggregation => e.aggregationOperator n d
  | .unwrap => e.unwrapFunction n d
  | .logRange => e.logRangeAggregation n d
  | .parameterizedUnwrapped => e.parameterizedUnwrapped n d

/-- Shapes a list of log rows, ordered by stream and then by time. -/
def listing (direction : Text) (d : Draft) : Draft :=
  let (name, d) := d.wrap "sel"
  let d := d.mapSelect fun s =>
    { s with orders := s.orders ++ [⟨.raw labelsColumn, direction⟩, byTime direction] }
  let d := d.setLimit ((d.select.param? limitCell.name).map .cell)
  if d.context.joinLabels then d
  else d.mapSelect fun s => (joinStreamLabels s name).addColumn (.raw (name ++ ".*")) []

/-- Applies a trailing comparison, and then a ranking, which sees the compared values. -/
def modifiers (e : Engine) (root : Node) (d : Draft) : Except Error Draft := do
  let d ← match root.child? Kind.comparedAggStatementCmp, root.find? Kind.aggStatement with
    | some cmp, some _ => do
      let h ← e.registry.numberOperator.get "number operator" (cmp.valueOf Kind.numberOperator)
      h (some cmp) d
    | _, _ => pure d
  match root.find? Kind.parameterizedExpression with
  | some n => do
    let h ← e.registry.parameterized.get "parameterized aggregation"
      (n.valueOf Kind.parameterizedExpressionFn)
    h (some n) d
  | none => return d

/-- The window of a request and its shared context. -/
structure Window where
  start : Int
  stop : Int
  context : Context

/-- The window of a request: missing bounds come from the clock, and the bounds of a matrix are
widened to whole buckets. -/
def window (e : Engine) (r : Request) (root : Node) : Except Error Window := do
  let step ← stepMs r.step
  let start := if r.start = 0 then Int64Range.wrap (e.now - defaultWindow) else r.start
  let stop := if r.stop = 0 then e.now else r.stop
  if stop < start then throw .endBeforeStart
  let context : Context := { step, joinLabels := root.hasAny labelConstructs }
  match classify root with
  | none => return ⟨start, stop, { context with legacy := e.policy.isLegacy start }⟩
  | some (_, n) =>
    let d ← rangeOf n
    let start := floorMultiple start d
    return ⟨start, ceilMultiple stop d,
      { context with matrix := true, duration := d, legacy := e.policy.isLegacy start }⟩

/-- Compiles a query that is no macro call. -/
def compileRoot (e : Engine) (r : Request) (root : Node) : Except Error Compiled := do
  if (root.find? Kind.labelsFormatExpression).isSome then
    throw (.notSupported Kind.labelsFormatExpression)
  let w ← e.window r root
  let direction : Text := if r.forward then "asc" else "desc"
  let d := (Draft.start w.context).orderBy [byTime direction]
  let d ← match classify root with
    | some (f, n) => e.family f n d
    | none => (e.selectorPipeline root d).map (listing direction)
  let d ← e.modifiers root d
  let limit : Int := if r.limit ≤ 0 then e.limit else r.limit
  let d := d.bind timeSeriesCell (.verbatim e.policy.timeSeriesTable)
  let d := d.bind samplesCell (.verbatim (e.policy.tableFor w.start))
  let d := d.bind fromCell (.verbatim (nanosText w.start))
  let d := d.bind toCell (.verbatim (nanosText w.stop))
  let d := d.bind limitCell (.int limit)
  let d := d.bind matrixCell (.bool w.context.matrix)
  return {
    select := d.select, bindings := d.bindings, matrix := w.context.matrix, hooks := d.hooks
    duration := if w.context.matrix && 0 < w.context.duration then w.context.duration
      else defaultDuration }

/-- Compiles a request with a number of macro expansions left. -/
def compileWithin (e : Engine) : (expansions : Nat) → Request → Except Error Compiled
  | 0, r => do
    let root ← e.parse r.query
    match root.find? Kind.userMacro with
    | none => e.compileRoot r root
    | some _ => throw (.expansionTooDeep maxExpansions)
  | expansions + 1, r => do
    let root ← e.parse r.query
    match root.find? Kind.userMacro with
    | none => e.compileRoot r root
    | some call => do
      let text ← e.expand call
      e.compileWithin expansions { r with query := text }

/-- Compiles a request. -/
def compile (e : Engine) (r : Request) : Except Error Compiled := e.compileWithin maxExpansions r

/-- Compiles a live tail over the last five seconds. -/
def compileTail (e : Engine) (query : Text) : Except Error Compiled := do
  let root ← e.parse query
  match tailDenied.find? fun kind => (root.find? kind).isSome with
  | some kind => throw (.notInTail kind)
  | none => pure ()
  if (root.find? Kind.labelsFormatExpression).isSome then
    throw (.notSupported Kind.labelsFormatExpression)
  let d ← e.selectorPipeline root (Draft.start { joinLabels := true, legacy := true })
  let d := d.bind timeSeriesCell (.verbatim e.policy.timeSeriesTable)
  let d := d.bind samplesCell (.verbatim (e.policy.tableFor e.now))
  let d := d.bind fromCell (.expr "(toUnixTimestamp(now()) - 5) * 1000000000")
  let d := (d.orderBy [byTime "asc"]).setLimit none
  return { select := d.select, bindings := d.bindings, hooks := d.hooks }

/-- The statement that lists the label sets of one selector. -/
def seriesMember (e : Engine) (text : Text) : Except Error Sql.Clause.Request := do
  let root ← e.parse text
  if (root.find? Kind.logStreamSelector).isNone || (root.find? Kind.aggStatement).isSome then
    throw .notASelector
  let d ← e.selectorPipeline root (Draft.start { legacy := true })
  let table := e.policy.timeSeriesTable
  let d := d.bind timeSeriesCell (.verbatim table)
  match d.selection? with
  | none => throw .noBaseSelection
  | some s =>
    let conds := (s.filters.map (·.text d.bindings.view)).filter fun t => !t.isEmpty
    let filter : List Sql.Clause.Operand :=
      if conds.isEmpty then [] else .text "AND" :: conds.map .text
    return .mk [] { distinct := true, select := ["labels"], source := table ++ " AS time_series"
                    filter }

/-- The statements of selectors from a position on. -/
def seriesMembers (e : Engine) : (index : Nat) → List Text → Except Error (List Sql.Clause.Request)
  | _, [] => .ok []
  | i, t :: rest => do
    let r ← (e.seriesMember t).mapError (.inMatch i)
    return r :: (← e.seriesMembers (i + 1) rest)

/-- Compiles a query for the distinct label sets that match any of the selectors; no selectors give
the empty text. -/
def compileSeries (e : Engine) (selectors : List Text) : Except Error Text := do
  if selectors.isEmpty then return []
  let members ← e.seriesMembers 0 selectors
  (Sql.Clause.unionText true members).mapError .series

end Engine
end LogSql.Compile
