import LogSql.Labels

/-!
Result rows as the stages that run after the database see them.
-/
namespace LogSql

/-- A log row. Its labels may be missing altogether. -/
structure Row where
  /-- Nanoseconds since 1970. -/
  timestamp : Int := 0
  line : Text := []
  labels : Option Labels := none
  deriving DecidableEq, Repr

namespace Row

/-- The value of a label, empty when the row does not have it. -/
def label (r : Row) (name : Text) : Text := ((r.labels.getD []).get? name).getD []

/-- The row with labels set over its own. -/
def withLabels (r : Row) (more : List (Text × Text)) : Row :=
  { r with labels := some ((r.labels.getD []).setAll more) }

end Row
end LogSql
