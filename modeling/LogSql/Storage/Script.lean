import LogSql.Storage.Basic

/-!
A database that answers from a script and keeps the statements that it was sent.
-/
namespace LogSql.Storage

/-- What a database answers. -/
structure Script where
  rows : Rows := {}
  /-- What statements fail with, if they fail. -/
  fault : Option Fault := none
  /-- Which statement fails; all of them when zero. -/
  failAt : Nat := 0
  deriving DecidableEq, Repr

/-- Why the statement of a number fails, if it does. -/
def Script.faultAt (s : Script) (number : Nat) : Except Fault Unit :=
  match s.fault with
  | some fault => if s.failAt = 0 ∨ s.failAt = number then .error fault else .ok ()
  | none => .ok ()

/-- The statements sent so far. -/
abbrev Sent := StateM (List Text)

namespace Script

/-- Takes a statement. -/
def take (s : Script) (sql : Text) : Sent (Except Fault Unit) := do
  modify (· ++ [sql])
  return s.faultAt (← get).length

/-- The database of a script. A question whether it is there is no statement. -/
def database (s : Script) : Database Sent where
  ping := return s.faultAt 0
  query sql := return (← s.take sql).map fun _ => s.rows
  execute := s.take

end Script
end LogSql.Storage
