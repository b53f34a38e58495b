import LogSql.Text.Basic

/-!
String literals of the SQL dialect: single quotes around the bytes, with a backslash before
backslashes and quotes and letters for the common control bytes.
-/
namespace LogSql.Sql

/-- The bytes that stand for a byte inside a literal. -/
def escapeByte (b : UInt8) : Text :=
  if b = Text.byte '\\' then "\\\\"
  else if b = Text.byte '\'' then "\\'"
  else if b = 10 then "\\n"
  else if b = 13 then "\\r"
  else if b = 9 then "\\t"
  else if b = 0 then "\\0"
  else [b]

/-- The literal of a text. -/
def literal (t : Text) : Text := Text.byte '\'' :: t.flatMap escapeByte ++ [Text.byte '\'']

end LogSql.Sql
