import LogSql.Row.LineTemplate

/-!
A formatter of lines: it remembers the templates used most recently, and its workers run from the
first row on until they are stopped.
-/
namespace LogSql

/-- A formatter's state. -/
structure Formatter where
  /-- The remembered templates, the one used last first. -/
  recent : List Text := []
  running : Bool := false
  deriving DecidableEq, Repr

namespace Formatter

/-- How many templates are remembered. -/
def capacity : Nat := 1024

/-- Remembers a template as the one used last. -/
def remember (f : Formatter) (text : Text) : Formatter :=
  { f with recent := (text :: f.recent.erase text).take capacity }

/-- Reads a template; one that cannot be read is not remembered. -/
def parse (f : Formatter) (text : Text) : Option Template.Program × Formatter :=
  match LineTemplate.parse? text with
  | some p => (some p, f.remember text)
  | none => (none, f)

/-- Makes the new line of a row, which starts the workers. Nothing when the template cannot be
read; otherwise what was printed and whether the template came to its end. -/
def format (f : Formatter) (text : Text) (r : Row) : Option (Text × Bool) × Formatter :=
  match f.parse text with
  | (some p, f) => (some (LineTemplate.render p r), { f with running := true })
  | (none, f) => (none, f)

/-- Makes the new lines of rows; rows that fail are dropped. -/
def formatAll (f : Formatter) (text : Text) : List Row → List Row × Formatter
  | [] => ([], f)
  | r :: rest =>
    match f.format text r with
    | (some (line, true), f) =>
      let (rows, f) := formatAll f text rest
      ({ r with line } :: rows, f)
    | (_, f) => formatAll f text rest

/-- Stops the workers. -/
def stop (f : Formatter) : Formatter := { f with running := false }

end Formatter
end LogSql
