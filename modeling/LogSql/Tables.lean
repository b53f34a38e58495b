import LogSql.Time.Instant

/-!
Which physical tables a query reads, and which schema applies, by the instant at which its window
starts.
-/
namespace LogSql.Tables

/-- The samples table when the configuration names none. -/
def defaultSamples : Text := "samples_v3"

/-- The label table when the configuration names none. -/
def defaultTimeSeries : Text := "time_series"

/-- Routes windows that start at or after `since` to a table. -/
structure Partition where
  since : Instant
  table : Text
  deriving DecidableEq, Repr

/-- Table settings as they are configured. -/
structure Config where
  database : Text := []
  samples : Text := []
  timeSeries : Text := []
  partitions : List Partition := []
  /-- When label rows started to carry a date; an unset instant means they always did. -/
  datedSince : Instant := Instant.unset
  deriving DecidableEq, Repr

/-- Why a configuration is refused. -/
inductive Error where
  | badDatabase (name : Text)
  | badTable (name : Text)
  | badPartitionTable (index : Nat) (name : Text)
  | missingSince (index : Nat)
  deriving DecidableEq, Repr

/-- The error in words. -/
def Error.message : Error → Text
  | badDatabase name => "invalid database name " ++ Text.quote name
  | badTable name => "invalid table name " ++ Text.quote name
  | badPartitionTable i name =>
    .concat ["partition ", Text.ofNat i, ": invalid table name ", Text.quote name]
  | missingSince i => .concat ["partition ", Text.ofNat i, ": since is required"]

/-- Identifiers: a name, or two names joined by a point. -/
def isIdentifier (t : Text) : Bool :=
  match Text.splitByte (Text.byte '.') t with
  | [name] => Text.isName name
  | [database, name] => Text.isName database && Text.isName name
  | _ => false

/-- A checked configuration; partitions are ordered by their start, latest first. -/
structure Policy where
  database : Text
  samples : Text
  timeSeries : Text
  partitions : List Partition
  datedSince : Int
  deriving DecidableEq, Repr

/-- Checks the partitions from a position on. -/
def checkPartitions : (index : Nat) → List Partition → Except Error Unit
  | _, [] => .ok ()
  | i, p :: rest =>
    if !isIdentifier p.table then .error (.badPartitionTable i p.table)
    else if p.since = Instant.unset then .error (.missingSince i)
    else checkPartitions (i + 1) rest

/-- Inserts a partition behind those that start later or at the same instant. -/
def insertPartition (p : Partition) : List Partition → List Partition
  | [] => [p]
  | q :: rest => if q.since < p.since then p :: q :: rest else q :: insertPartition p rest

/-- The partitions with the latest start first; of equal starts the first listed one is first. -/
def sortPartitions (ps : List Partition) : List Partition :=
  ps.foldl (fun acc p => insertPartition p acc) []

namespace Policy

/-- Checks a configuration; empty table names stand for the defaults. -/
def ofConfig (c : Config) : Except Error Policy := do
  let samples := if c.samples.isEmpty then defaultSamples else c.samples
  let timeSeries := if c.timeSeries.isEmpty then defaultTimeSeries else c.timeSeries
  if !c.database.isEmpty && !isIdentifier c.database then throw (.badDatabase c.database)
  if !isIdentifier samples then throw (.badTable samples)
  if !isIdentifier timeSeries then throw (.badTable timeSeries)
  checkPartitions 0 c.partitions
  return {
    database := c.database, samples, timeSeries
    partitions := sortPartitions c.partitions
    datedSince := if c.datedSince = Instant.unset then 0 else Instant.millis c.datedSince }

/-- The policy of the empty configuration. -/
def default : Policy := ⟨[], defaultSamples, defaultTimeSeries, [], 0⟩

/-- A table name with its database; a name that has one already keeps it. -/
def qualify (p : Policy) (table : Text) : Text :=
  if p.database.isEmpty ∨ table.contains "." then table
  else .concat [p.database, ".", table]

/-- The samples table of a window that starts at a number of milliseconds. -/
def tableFor (p : Policy) (ms : Int) : Text :=
  match p.partitions.find? fun q => Instant.millis q.since ≤ ms with
  | some q => p.qualify q.table
  | none => p.qualify p.samples

/-- The label table. -/
def timeSeriesTable (p : Policy) : Text := p.qualify p.timeSeries

/-- Whether label rows at a number of milliseconds carry no date yet. -/
def isLegacy (p : Policy) (ms : Int) : Bool := ms < p.datedSince

end Policy
end LogSql.Tables
