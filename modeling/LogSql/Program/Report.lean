import LogSql.Json.Writer
import LogSql.Compile.Engine

/-!
What the command line program prints: a plain text, or a document.
-/
namespace LogSql.Report

/-- How results are printed. -/
inductive Format where
  | plain
  | json
  | unknown (name : Text)
  deriving DecidableEq, Repr

/-- The format of a name. -/
def Format.ofName (name : Text) : Format :=
  if name = ("json" : Text) then .json
  else if name.isEmpty ∨ name = ("plain" : Text) then .plain
  else .unknown name

/-- A document over several lines. -/
def documentText (v : Json) : Text := v.indented 0 ++ "\n"

/-- A compiled query. -/
def compiled (c : Compile.Compiled) : Json :=
  let duration : List (Text × Json) :=
    if c.duration = 0 then [] else [("duration_ms", .int c.duration)]
  .object (("sql", .string c.text) :: ("matrix", .bool c.matrix) ::
    (duration ++ [(Text.ofString "client_side", Json.bool !c.hooks.isEmpty)]))

/-- A compiled live tail. -/
def tail (c : Compile.Compiled) : Json :=
  .object [("sql", .string c.text), ("client_side", .bool !c.hooks.isEmpty)]

end LogSql.Report
