import LogSql.Compile.Error
import LogSql.Compile.Names
import LogSql.Row.Hook
import LogSql.Sql.Render

/-!
Statements under construction. Every query starts from the same base statement, which reads the
samples of the selected streams in a time window; tables, bounds and limit are cells that are bound
last.
-/
namespace LogSql.Compile

open Sql (Cell Expr Select SelectOf)

/-- The common table expression that holds the selected streams and their labels. -/
def streamSelection : Text := "str_sel"

/-- The row limit when a request sets none. -/
def defaultLimit : Nat := 2000

/-! ### The cells of the base statement -/

def samplesCell : Cell := { name := "samplesTable" }
def timeSeriesCell : Cell := { name := "timeSeriesTable" }
def fromCell : Cell := { name := "from" }
def toCell : Cell := { name := "to" }
def limitCell : Cell := { name := "limit" }
def matrixCell : Cell := { name := "isMatrix" }

/-- The cells in the order in which they are declared. -/
def baseCells : List Cell :=
  [samplesCell, timeSeriesCell, fromCell, toCell, limitCell, matrixCell]

/-! ### The columns that stages share -/

def lineColumn : Text := "string"
def labelsColumn : Text := "labels"
def extraColumn : Text := "extra_labels"
def timestampColumn : Text := "timestamp_ns"
def valueColumn : Text := "value"
def unwrappedColumn : Text := "unwrapped"

/-- What the stages of one request share. Times are in milliseconds. -/
structure Context where
  step : Int := 0
  /-- Whether label rows of the window carry no date. -/
  legacy : Bool := false
  /-- Whether the base statement joins the labels of each row. -/
  joinLabels : Bool := false
  /-- Whether the result is a matrix of buckets. -/
  matrix : Bool := false
  /-- The length of a bucket. -/
  duration : Int := 0
  names : Names := []
  deriving DecidableEq, Repr

/-- A statement under construction, with the stages left to the client. -/
structure Draft where
  select : Select
  bindings : Sql.Bindings := []
  context : Context
  hooks : List Hook := []

/-- The ordering of rows by time. -/
def byTime (direction : Text) : Sql.Named Expr := ⟨.raw timestampColumn, direction⟩

/-- The time window of the samples; open at its end while the end is not bound. -/
def windowCondition : Expr :=
  .ifBound toCell
    (.between "samples.timestamp_ns" (.cell fromCell) (.cell toCell))
    (.binary ">" "samples.timestamp_ns" (.cell fromCell))

/-- The time of a sample: milliseconds in a matrix, nanoseconds elsewhere. -/
def timestampExpr : Expr :=
  .ifTrue matrixCell "intDiv(samples.timestamp_ns, 1000000)" "samples.timestamp_ns"

/-- The day of a bound. -/
def dayOf (c : Cell) : Expr := .call "toDate" [.call "intDiv" [.cell c, .int 1000000000]]

/-- The days of the label rows; label rows without a date are not restricted. -/
def dateCondition (legacy : Bool) : Expr :=
  if legacy then .raw []
  else
    let lower := Expr.binary ">=" "time_series.date" (dayOf fromCell)
    let upper := Expr.binary "<=" "time_series.date" (dayOf toCell)
    .ifBound fromCell (.ifBound toCell (.all [lower, upper]) lower) (.raw [])

/-- The selected streams, before any condition on their labels. -/
def baseSelection (legacy : Bool) : Select :=
  { distinct := true
    columns := [⟨"fingerprint", []⟩, ⟨"labels", []⟩]
    source := some (.cell timeSeriesCell)
    sourceAlias := "time_series"
    filters := [dateCondition legacy] }

/-- Joins the labels of the streams of a source as the labels column. -/
def joinStreamLabels (s : Select) (source : Text) : Select :=
  let on := Expr.eq (.raw (source ++ ".fingerprint")) (.raw (streamSelection ++ ".fingerprint"))
  let join : Sql.Join Expr :=
    { kind := "ANY LEFT", table := .raw streamSelection, on := some on }
  SelectOf.addColumn { s with joins := s.joins ++ [join] }
    (.raw (.concat ["JSONExtractKeysAndValues(", streamSelection, ".labels, 'String')"]))
    labelsColumn

/-- The base statement. -/
def baseSelect (c : Context) : Select :=
  let s : Select :=
    { withs := [⟨.query (baseSelection c.legacy), streamSelection⟩]
      columns := [⟨"samples.string", lineColumn⟩, ⟨"samples.fingerprint", "fingerprint"⟩,
        ⟨timestampExpr, timestampColumn⟩]
      source := some (.cell samplesCell)
      sourceAlias := "samples"
      filters := [windowCondition,
        .isIn "samples.fingerprint" (.sub (.raw ("SELECT fingerprint FROM " ++ streamSelection)))]
      orders := [byTime "desc"]
      limit := some (.cell limitCell)
      params := baseCells }
  if c.joinLabels then joinStreamLabels s "samples" else s

namespace Draft

/-- The draft that every query starts from. -/
def start (c : Context) : Draft :=
  { select := baseSelect c, bindings := [(limitCell, .int defaultLimit)], context := c }

/-- Appends a stage left to the client. -/
def addHook (d : Draft) (h : Hook) : Draft := { d with hooks := d.hooks ++ [h] }

/-- Whether an earlier stage was left to the client; all later ones are then too. -/
def onClient (d : Draft) : Bool := !d.hooks.isEmpty

/-- Changes the statement. -/
def mapSelect (d : Draft) (f : Select → Select) : Draft := { d with select := f d.select }

/-- Appends a condition. -/
def addWhere (d : Draft) (cond : Expr) : Draft := d.mapSelect (·.andWhere [cond])

/-- Sets the ordering. -/
def orderBy (d : Draft) (orders : List (Sql.Named Expr)) : Draft :=
  d.mapSelect fun s => { s with orders }

/-- Sets limit and offset. -/
def setLimit (d : Draft) (limit : Option Expr) : Draft :=
  d.mapSelect fun s => { s with limit, offset := none }

/-- Sets the columns. -/
def setColumns (d : Draft) (columns : List (Expr × Text)) : Draft :=
  d.mapSelect fun s => { s with columns := columns.map fun c => ⟨c.1, c.2⟩ }

/-- Sets the grouping of a statement that has none. -/
def groupBy (d : Draft) (groups : List Text) : Draft :=
  d.mapSelect fun s => { s with groups := s.groups ++ groups.map .raw }

/-- Moves the statement into a common table expression with a fresh name and reads from it: the
name, and the outer statement. -/
def wrap (d : Draft) (stem : Text) : Text × Draft :=
  let (name, names) := d.context.names.fresh stem
  (name, { d with select := d.select.wrap name, context := { d.context with names } })

/-- Binds a declared cell; a name that is not declared is ignored. -/
def bind (d : Draft) (c : Cell) (v : Sql.Value) : Draft :=
  match d.select.param? c.name with
  | some declared => { d with bindings := d.bindings.set declared (some v) }
  | none => d

/-- The statement that selects the streams. -/
def selection? (d : Draft) : Option Select :=
  match d.select.with? streamSelection with
  | some ⟨.query s, _⟩ => some s
  | _ => none

/-- Appends a condition on the selected streams. -/
def addStreamCondition (d : Draft) (cond : Expr) : Except Error Draft :=
  match d.selection? with
  | some s =>
    .ok (d.mapSelect fun outer =>
      outer.modifyWith streamSelection fun _ => .query (s.andWhere [cond]))
  | none => .error .noStreamSelection

/-- The text of an expression that mentions no cells. -/
def fixedText (e : Expr) : Text := e.text (Sql.Bindings.view [])

/-- What is projected as the log line. -/
def lineExpr (d : Draft) : Expr :=
  match d.select.column? lineColumn with
  | some c => c.expr
  | none => "samples.string"

/-- Whether a stage has extracted labels. -/
def hasExtraLabels (d : Draft) : Bool := (d.select.column? extraColumn).isSome

/-- The value of a label: what a stage extracted, or else what the stream has. -/
def labelValue (d : Draft) (name : Text) : Text :=
  let key := Sql.literal name
  let first := fun (set : Text) => .concat ["arrayFirst(x -> x.1 = ", key, ", ", set, ").2"]
  if d.hasExtraLabels then
    .concat ["if(arrayExists(x -> x.1 = ", key, ", ", extraColumn, "), ", first extraColumn, ", ",
      first labelsColumn, ")"]
  else first labelsColumn

/-- Puts extracted labels in front of those extracted before, so that the latest ones win. -/
def addExtraLabels (d : Draft) (labels : Expr) : Draft :=
  match d.select.column? extraColumn with
  | some c => d.mapSelect (·.replaceColumn extraColumn (.call "arrayConcat" [labels, c.expr]))
  | none => d.mapSelect (·.addColumn labels extraColumn)

/-- The text of the statement as it stands. -/
def text (d : Draft) : Text := d.select.text d.bindings

end Draft
end LogSql.Compile
