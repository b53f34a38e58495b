import LogSql.Text.Glyph

/-!
Text in columns. A cell ends with a tab; the cells of neighbouring lines in one column are as wide as
the widest of them and a gap. What follows the last tab of a line belongs to no column.
-/
namespace LogSql.Columns

/-- The gap behind the widest cell. -/
def gap : Nat := 2

/-- How wide a cell is, in characters. -/
def width (cell : Text) : Nat := (Text.glyphs cell).length

/-- The cells of a line. -/
def cells (line : Text) : List Text := Text.splitByte (Text.byte '\t') line

/-- The greatest width of a column in the lines at the start that have it. -/
def widthAhead (column : Nat) : List (List Text) → Nat
  | [] => 0
  | line :: rest =>
    if column + 1 < line.length then max (width (line.getD column [])) (widthAhead column rest) else 0

/-- A cell filled up to the width of its column. -/
def fill (cell : Text) (size : Nat) : Text :=
  cell ++ List.replicate (size + gap - width cell) (Text.byte ' ')

/-- A line, given the lines before it from the last to the first, and those after it. -/
def lineText (before after : List (List Text)) (line : List Text) : Text :=
  let cell := fun (column : Nat) =>
    let text := line.getD column []
    if column + 1 < line.length then
      fill text (max (width text) (max (widthAhead column before) (widthAhead column after)))
    else text
  ((List.range line.length).map cell).flatten

/-- The lines one after the other. -/
def linesText : (before : List (List Text)) → List (List Text) → List Text
  | _, [] => []
  | before, line :: after => lineText before after line :: linesText (line :: before) after

/-- A text with its tabs turned into columns. -/
def text (t : Text) : Text :=
  Text.join "\n" (linesText [] ((Text.splitByte (Text.byte '\n') t).map cells))

end LogSql.Columns
