import LogSql.Compile.Matrix

/-!
The handlers of every construct by their symbols. A request that needs a symbol which is not there
fails and names it.
-/
namespace LogSql.Compile

/-- Handlers by symbol. -/
abbrev HandlerTable := List (Text × Handler)

/-- The handlers that a compiler consults. Those that have no symbol may be missing. -/
structure Registry where
  streamSelector : HandlerTable
  lineFilter : HandlerTable
  parser : HandlerTable
  labelFilter : Option Handler
  lineFormat : Option Handler
  logRange : HandlerTable
  aggregation : HandlerTable
  unwrap : HandlerTable
  unwrapExpression : Option Handler
  parameterizedUnwrapped : HandlerTable
  parameterized : HandlerTable
  numberOperator : HandlerTable

/-- The handler of a symbol. -/
def HandlerTable.get (t : HandlerTable) (registry key : Text) : Except Error Handler :=
  match t.find? fun h => h.1 = key with
  | some h => .ok h.2
  | none => .error (.notImplemented registry key)

/-- A handler without a symbol. -/
def single (registry : Text) : Option Handler → Except Error Handler
  | some h => .ok h
  | none => .error (.notImplemented registry registry)

namespace Registry

/-- All handlers. Line templates that are not simple need a client that runs them. -/
def full (clientTemplates : Bool) : Registry where
  streamSelector :=
    [("=", streamComparison "="), ("!=", streamComparison "!="), ("=~", streamMatch false),
      ("!~", streamMatch true)]
  lineFilter :=
    [("|=", lineContains false), ("!=", lineContains true), ("|~", lineMatches false),
      ("!~", lineMatches true)]
  parser := [("json", jsonParser), ("logfmt", logfmtParser), ("regexp", regexpParser)]
  labelFilter := some Compile.labelFilter
  lineFormat := some (Compile.lineFormat clientTemplates)
  logRange :=
    [("count_over_time", Compile.logRange "count_over_time" rowCount false),
      ("rate", Compile.logRange "rate" rowCount true),
      ("bytes_over_time", Compile.logRange "bytes_over_time" byteCount false),
      ("bytes_rate", Compile.logRange "bytes_rate" byteCount true)]
  aggregation :=
    [("sum", aggregate "sum"), ("min", aggregate "min"), ("max", aggregate "max"),
      ("avg", aggregate "avg"), ("count", aggregate "count"), ("stddev", aggregate "stddevPop"),
      ("stdvar", aggregate "varPop")]
  unwrap :=
    [("rate", unwrapBucket "rate" fun d a => perSecond (unwrapAggregate "sum" a) d),
      ("sum_over_time", unwrapBucket "sum_over_time" fun _ => unwrapAggregate "sum"),
      ("avg_over_time", unwrapBucket "avg_over_time" fun _ => unwrapAggregate "avg"),
      ("max_over_time", unwrapBucket "max_over_time" fun _ => unwrapAggregate "max"),
      ("min_over_time", unwrapBucket "min_over_time" fun _ => unwrapAggregate "min"),
      ("first_over_time", unwrapBucket "first_over_time" fun _ => unwrapByTime "argMin"),
      ("last_over_time", unwrapBucket "last_over_time" fun _ => unwrapByTime "argMax"),
      ("stddev_over_time", unwrapBucket "stddev_over_time" fun _ => unwrapAggregate "stddevPop"),
      ("stdvar_over_time", unwrapBucket "stdvar_over_time" fun _ => unwrapAggregate "varPop")]
  unwrapExpression := some Compile.unwrapExpression
  parameterizedUnwrapped := [("quantile_over_time", quantileOverTime)]
  parameterized := [("topk", rank "topk" "arrayReverseSort"), ("bottomk", rank "bottomk" "arraySort")]
  numberOperator :=
    [(">", compareSamples ">"), (">=", compareSamples ">="), ("<", compareSamples "<"),
      ("<=", compareSamples "<="), ("==", compareSamples "="), ("!=", compareSamples "!=")]

/-- The tables of a registry that are keyed by symbol. -/
inductive Table where
  | streamSelector
  | lineFilter
  | parser
  | logRange
  | aggregation
  | unwrap
  | parameterizedUnwrapped
  | parameterized
  | numberOperator
  deriving DecidableEq, Repr

/-- The handlers of a registry that have no symbol. -/
inductive Slot where
  | labelFilter
  | lineFormat
  | unwrapExpression
  deriving DecidableEq, Repr

/-- A table of a registry. -/
def table (r : Registry) : Table → HandlerTable
  | .streamSelector => r.streamSelector
  | .lineFilter => r.lineFilter
  | .parser => r.parser
  | .logRange => r.logRange
  | .aggregation => r.aggregation
  | .unwrap => r.unwrap
  | .parameterizedUnwrapped => r.parameterizedUnwrapped
  | .parameterized => r.parameterized
  | .numberOperator => r.numberOperator

/-- A handler without a symbol. -/
def slot (r : Registry) : Slot → Option Handler
  | .labelFilter => r.labelFilter
  | .lineFormat => r.lineFormat
  | .unwrapExpression => r.unwrapExpression

/-- The registry without a symbol of a table. -/
def dropKey (r : Registry) (t : Table) (key : Text) : Registry :=
  let without := fun (hs : HandlerTable) => hs.filter fun h => h.1 ≠ key
  match t with
  | .streamSelector => { r with streamSelector := without r.streamSelector }
  | .lineFilter => { r with lineFilter := without r.lineFilter }
  | .parser => { r with parser := without r.parser }
  | .logRange => { r with logRange := without r.logRange }
  | .aggregation => { r with aggregation := without r.aggregation }
  | .unwrap => { r with unwrap := without r.unwrap }
  | .parameterizedUnwrapped => { r with parameterizedUnwrapped := without r.parameterizedUnwrapped }
  | .parameterized => { r with parameterized := without r.parameterized }
  | .numberOperator => { r with numberOperator := without r.numberOperator }

/-- The registry without a handler that has no symbol. -/
def dropSlot (r : Registry) : Slot → Registry
  | .labelFilter => { r with labelFilter := none }
  | .lineFormat => { r with lineFormat := none }
  | .unwrapExpression => { r with unwrapExpression := none }

/-- The tables by name. -/
def tables : List (Text × Table) :=
  [("stream_selector", .streamSelector), ("line_filter", .lineFilter), ("parser", .parser),
    ("log_range", .logRange), ("aggregation", .aggregation), ("unwrap", .unwrap),
    ("parameterized_unwrapped", .parameterizedUnwrapped), ("parameterized", .parameterized),
    ("number_operator", .numberOperator)]

/-- The handlers without a symbol by name. -/
def slots : List (Text × Slot) :=
  [("label_filter", .labelFilter), ("line_format", .lineFormat),
    ("unwrap_expression", .unwrapExpression)]

/-- The handler of a table and a symbol, or of the name of one that has no symbol. -/
def handler? (r : Registry) (name key : Text) : Option Handler :=
  match slots.lookup name with
  | some s => r.slot s
  | none => do
    let t ← tables.lookup name
    ((r.table t).find? fun h => h.1 = key).map (·.2)

/-- The registry without one handler, which is named by its table and symbol with a colon between them,
or by its name alone when it has no symbol. -/
def drop (r : Registry) (name : Text) : Registry :=
  match slots.lookup name with
  | some s => r.dropSlot s
  | none =>
    let (table, key) := (Text.cut ":" name).getD (name, [])
    match tables.lookup table with
    | some t => r.dropKey t key
    | none => r

end Registry
end LogSql.Compile
