import LogSql.Json.Reader

/-!
Records as JSON objects. Names of fields are compared without regard to case; a null leaves a field
as it was; of several values for a field the last one counts.
-/
namespace LogSql.Json

/-- A character as names are compared: letters in upper case, with the two characters outside ASCII
that fold to an ASCII letter. -/
def foldChar (c : Char) : Char :=
  if 'a' ≤ c ∧ c ≤ 'z' then Char.ofNat (c.toNat - 32)
  else if c.toNat = 0x17F then 'S'
  else if c.toNat = 0x212A then 'K'
  else c

/-- Whether a name in a document is that of a field. -/
def isField (field name : Text) : Bool := (Text.chars name).map foldChar = (Text.chars field).map foldChar

/-- A text field. -/
def readText (old : Text) : Json → Option Text
  | .null => some old
  | .string t => some t
  | _ => none

/-- A truth value field. -/
def readBool (old : Bool) : Json → Option Bool
  | .null => some old
  | .bool b => some b
  | _ => none

/-- An integer field; the number has to be written as an integer. -/
def readInt (old : Int) : Json → Option Int
  | .null => some old
  | .number literal => (Number.readInt literal).toOption
  | _ => none

/-- A list field, whose items start from a blank value. -/
def readList {α : Type} (item : Json → Option α) : Json → Option (List α)
  | .null => some []
  | .array items => items.mapM item
  | _ => none

end LogSql.Json
