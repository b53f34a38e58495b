import LogSql.Text.Glyph

/-!
The database that checks statements. What can be asked of it is a record of operations in some monad,
so that the same rules hold for a connection and for a script.
-/
namespace LogSql.Storage

/-- Why the database does not do something: it objects, or something is between. -/
inductive Fault where
  | exception (code : Int) (message : Text)
  | other (message : Text)
  deriving DecidableEq, Repr

namespace Fault

/-- The fault in words. -/
def message : Fault → Text
  | exception code text => .concat ["code: ", Text.ofInt code, ", message: ", text]
  | other text => text

/-- Whether the database itself objects. -/
def isException : Fault → Bool
  | exception _ _ => true
  | other _ => false

end Fault

/-- The rows of an answer, of one column that may be empty, and what stops them early. -/
structure Rows where
  values : List (Option Text) := []
  fault : Option Fault := none
  deriving DecidableEq, Repr

/-- A database. -/
structure Database (m : Type → Type) where
  ping : m (Except Fault Unit)
  query : Text → m (Except Fault Rows)
  execute : Text → m (Except Fault Unit)

/-- How a database is reached; times are in nanoseconds. -/
structure Options where
  addresses : List Text := []
  database : Text := []
  username : Text := []
  password : Text := []
  dialTimeout : Int := 0
  maxOpen : Int := 0
  maxIdle : Int := 0
  compresses : Bool := false
  isEncrypted : Bool := false
  deriving DecidableEq, Repr

/-- The options with defaults where nothing is set. -/
def Options.withDefaults (o : Options) : Options :=
  { o with
    addresses := if o.addresses.isEmpty then ["localhost:9000"] else o.addresses
    dialTimeout := if o.dialTimeout = 0 then 5000000000 else o.dialTimeout
    maxOpen := if o.maxOpen = 0 then 5 else o.maxOpen
    maxIdle := if o.maxIdle = 0 then 5 else o.maxIdle }

/-- Whether there is a connection. -/
inductive Link (m : Type → Type) where
  | unset
  | live (db : Database m)
  | closed

/-- Why the storage does not do something. -/
inductive Error where
  | notConnected
  | unreachable (detail : Text)
  | failed (cause : Fault)
  | migration (cause : Fault)
  /-- The database refuses a statement. -/
  | rejected (sql : Text) (cause : Fault)
  | explanation (cause : Fault)
  | badRow
  deriving DecidableEq, Repr

namespace Error

/-- The error in words. -/
def message : Error → Text
  | notConnected => "clickhouse not connected"
  | unreachable detail => "ping clickhouse: " ++ detail
  | failed cause => cause.message
  | migration cause => "migrate: " ++ cause.message
  | rejected _ cause => "invalid SQL: " ++ cause.message
  | explanation cause => "explain syntax: " ++ cause.message
  | badRow => "explain syntax: scan explain row: not a text"

/-- The refused statement and the cause, when the database refuses one. -/
def rejection? : Error → Option (Text × Fault)
  | rejected sql cause => some (sql, cause)
  | _ => none

end Error

/-- The fault of every call on a connection that was closed. -/
def closedFault : Fault := .other "sql: database is closed"

/-- The statements that create the tables, the label table first. -/
def schema (samples timeSeries : Text) : List Text :=
  [.concat ["\n\t\tCREATE TABLE IF NOT EXISTS ", timeSeries, " (\n\t\t\tdate Date,\n",
    "\t\t\tfingerprint UInt64,\n\t\t\tlabels String,\n\t\t\tname String\n\t\t)\n",
    "\t\tENGINE = ReplacingMergeTree(date)\n\t\tPARTITION BY date\n\t\tORDER BY fingerprint"],
   .concat ["\n\t\tCREATE TABLE IF NOT EXISTS ", samples, " (\n\t\t\tfingerprint UInt64,\n",
    "\t\t\ttimestamp_ns Int64 CODEC(DoubleDelta),\n\t\t\tvalue Float64 CODEC(Gorilla),\n",
    "\t\t\tstring String\n\t\t)\n\t\tENGINE = MergeTree\n",
    "\t\tPARTITION BY toStartOfDay(toDateTime(timestamp_ns / 1000000000))\n",
    "\t\tORDER BY timestamp_ns"]]

/-- The question whether a statement is well-formed; a semicolon at its end is left out. -/
def explainText (sql : Text) : Text :=
  let t := Text.trim sql
  "EXPLAIN SYNTAX " ++ (Text.stripEnd ";" t).getD t

/-- The lines of an answer: a row without a text comes before what stops the rows early. -/
def linesOf (rows : Rows) : Except Error Text :=
  match rows.values.mapM id, rows.fault with
  | none, _ => .error .badRow
  | some _, some fault => .error (.explanation fault)
  | some lines, none => .ok (Text.join "\n" lines)

namespace Link

variable {m : Type → Type} [Monad m]

/-- Closes a connection. -/
def close : Link m → Link m
  | unset => unset
  | _ => closed

/-- Asks whether the database is there. -/
def ping : Link m → m (Except Error Unit)
  | unset => return .error .notConnected
  | closed => return .error (.failed closedFault)
  | live db => return (← db.ping).mapError .failed

/-- Runs statements until one fails. -/
def executeAll (db : Database m) : List Text → m (Except Error Unit)
  | [] => return .ok ()
  | sql :: rest => do
    match ← db.execute sql with
    | .error fault => return .error (.migration fault)
    | .ok _ => executeAll db rest

/-- Creates the tables. -/
def migrate (samples timeSeries : Text) : Link m → m (Except Error Unit)
  | unset => return .error .notConnected
  | closed => return .error (.migration closedFault)
  | live db => executeAll db (schema samples timeSeries)

/-- Checks a statement: its text as the database writes it. -/
def check (sql : Text) : Link m → m (Except Error Text)
  | unset => return .error .notConnected
  | closed => return .error (.explanation closedFault)
  | live db => do
    match ← db.query (explainText sql) with
    | .error fault =>
      return .error (if fault.isException then .rejected sql fault else .explanation fault)
    | .ok rows => return linesOf rows

end Link
end LogSql.Storage
