import LogSql.Json.Reader
import LogSql.Json.Writer
import LogSql.Row.LineTemplate
import LogSql.Row.Logfmt
import LogSql.Row.Predicate

/-!
The stages of a query that the database does not run. Each works row by row: it keeps, changes or
drops a row without looking at others.
-/
namespace LogSql

/-- A path into a document: member names and, for arrays, positions. -/
abbrev JsonPath := List Text

/-- A stage on rows. -/
inductive Hook where
  /-- Keeps every row. -/
  | pass
  /-- Keeps the rows whose line contains a text, or does not when negated. -/
  | contains (needle : Text) (negated : Bool)
  /-- Keeps the rows whose line matches a pattern, or does not when negated. -/
  | matches (pattern : Pattern.Compiled) (negated : Bool)
  /-- Keeps the rows whose labels pass a test. -/
  | filter (p : Predicate)
  /-- Adds the members of a document as labels: all of them, or those at the given paths. -/
  | json (fields : List (Text × JsonPath))
  /-- Adds the pairs of the line as labels. -/
  | logfmt
  /-- Adds the named groups of a pattern as labels. -/
  | groups (pattern : Pattern.Compiled)
  /-- Replaces the line by what a template makes of the row; rows that fail are dropped. -/
  | format (template : Template.Program)

namespace Hook

/-- The value at a path. -/
def jsonAt (v : Json) : JsonPath → Option Json
  | [] => some v
  | key :: rest =>
    match v with
    | .object members => do jsonAt (← Json.member? members key) rest
    | .array items =>
      match Number.readInt key with
      | .ok i => if i < 0 then none else do jsonAt (← items[i.toNat]?) rest
      | .error _ => none
    | _ => none

/-- A value of a document as a label. -/
def jsonLabel : Json → Text
  | .string t => t
  | .null => []
  | .number literal =>
    match Number.readFloat literal with
    | .ok x => x.plain
    | .error _ => literal
  | .bool b => if b then "true" else "false"
  | v => v.text

/-- The labels that a document gives; nothing when the line is no document. -/
def jsonLabels (fields : List (Text × JsonPath)) (line : Text) : Option (List (Text × Text)) := do
  let line := Text.trim line
  if line.head? ≠ some (Text.byte '\x7b') then none
  match ← (← Json.read? line).canonical? with
  | .object members =>
    if fields.isEmpty then some (members.map fun (name, v) => (name, jsonLabel v))
    else
      some (fields.filterMap fun (label, path) =>
        (jsonAt (.object members) path).map fun v => (label, jsonLabel v))
  | _ => none

/-- The labels of the named groups; of groups with the same name the last one counts. -/
def groupLabels (pattern : Pattern.Compiled) (line : Text) : Option (List (Text × Text)) := do
  let groups ← pattern.groups? line
  some ((pattern.groupNames.zip (groups.drop 1)).filter fun g => !g.1.isEmpty)

/-- The row with labels added, or the row as it is. -/
def relabelled (r : Row) : Option (List (Text × Text)) → Row
  | some labels => r.withLabels labels
  | none => r

/-- What a stage makes of a row; nothing when it drops the row. -/
def apply (h : Hook) (r : Row) : Option Row :=
  match h with
  | pass => some r
  | contains needle negated => if Text.contains r.line needle != negated then some r else none
  | .matches pattern negated => if pattern.isMatch r.line != negated then some r else none
  | filter p => if p.holds r then some r else none
  | json fields => some (relabelled r (jsonLabels fields r.line))
  | logfmt => some (r.withLabels (Logfmt.pairs r.line))
  | groups pattern => some (relabelled r (groupLabels pattern r.line))
  | format template =>
    match LineTemplate.render template r with
    | (line, true) => some { r with line }
    | (_, false) => none

/-- What stages make of a row, one after the other. -/
def applyAll (hooks : List Hook) (r : Row) : Option Row :=
  hooks.foldlM (fun r h => h.apply r) r

/-- The rows that come through the stages; with a limit, the first ones. -/
def run (hooks : List Hook) (limit : Option Nat) (rows : List Row) : List Row :=
  let out := rows.filterMap (applyAll hooks)
  match limit with
  | some n => out.take n
  | none => out

end Hook
end LogSql
