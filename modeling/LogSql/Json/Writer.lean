import LogSql.Json.Value

/-!
Writing JSON documents without blanks. Characters that browsers give a meaning in markup, and the
two line separators of Unicode, are written by their code.
-/
namespace LogSql.Json

/-- The bytes that stand for a character inside a string. -/
def escapeGlyph (r : Glyph) : Text :=
  match r.char.toNat with
  | 0x22 => "\\\""
  | 0x5C => "\\\\"
  | 8 => "\\b"
  | 9 => "\\t"
  | 10 => "\\n"
  | 12 => "\\f"
  | 13 => "\\r"
  | n =>
    if n < 0x20 ∨ n = 0x3C ∨ n = 0x3E ∨ n = 0x26 ∨ n = 0x2028 ∨ n = 0x2029 then
      ("\\u" : Text) ++ Text.hexFixed 4 n
    else if r.char = Text.replacement ∧ r.raw.length = 1 then "\\ufffd"
    else r.raw

/-- A string with its quotes. -/
def stringText (t : Text) : Text :=
  .concat ["\"", (Text.glyphs t).flatMap escapeGlyph, "\""]

mutual

/-- The text of a value; the members of objects keep their order. -/
def text : Json → Text
  | null => "null"
  | bool b => if b then "true" else "false"
  | number literal => literal
  | string t => stringText t
  | array items => .concat ["[", Text.join "," (itemTexts items), "]"]
  | object members => .concat ["\x7b", Text.join "," (memberTexts members), "\x7d"]

/-- The texts of items. -/
def itemTexts : List Json → List Text
  | [] => []
  | v :: rest => text v :: itemTexts rest

/-- The texts of members. -/
def memberTexts : List (Text × Json) → List Text
  | [] => []
  | (name, v) :: rest => .concat [stringText name, ":", text v] :: memberTexts rest

end

/-- The start of a line at a depth. -/
def lineStart (depth : Nat) : Text := Text.byte '\n' :: List.replicate (2 * depth) (Text.byte ' ')

/-- Items between brackets, each on a line of its own. -/
def bracketed (depth : Nat) (opening closing : Text) (items : List Text) : Text :=
  if items.isEmpty then opening ++ closing
  else
    .concat [opening, lineStart (depth + 1), Text.join (Text.byte ',' :: lineStart (depth + 1)) items,
      lineStart depth, closing]

mutual

/-- The text of a value over several lines, where `depth` counts the brackets around it. -/
def indented (depth : Nat) : Json → Text
  | null => "null"
  | bool b => if b then "true" else "false"
  | number literal => literal
  | string t => stringText t
  | array items => bracketed depth "[" "]" (indentedItems (depth + 1) items)
  | object members => bracketed depth "\x7b" "\x7d" (indentedMembers (depth + 1) members)

/-- The texts of items over several lines. -/
def indentedItems (depth : Nat) : List Json → List Text
  | [] => []
  | v :: rest => indented depth v :: indentedItems depth rest

/-- The texts of members over several lines. -/
def indentedMembers (depth : Nat) : List (Text × Json) → List Text
  | [] => []
  | (name, v) :: rest =>
    .concat [stringText name, ": ", indented depth v] :: indentedMembers depth rest

end

mutual

/-- The document with its numbers written anew in the notation of computed values and its objects
sorted by name, each name once; nothing when a number is out of range. -/
def canonical? : Json → Option Json
  | null => some null
  | bool b => some (bool b)
  | number literal =>
    match Number.readFloat literal with
    | .ok x => some (number x.interchange)
    | .error _ => none
  | string t => some (string t)
  | array items => (canonicalItems? items).map array
  | object members => (canonicalMembers? members).map fun ms => object (sorted ms)

@[inherit_doc canonical?]
def canonicalItems? : List Json → Option (List Json)
  | [] => some []
  | v :: rest => do
    let v ← canonical? v
    let vs ← canonicalItems? rest
    some (v :: vs)

@[inherit_doc canonical?]
def canonicalMembers? : List (Text × Json) → Option (List (Text × Json))
  | [] => some []
  | (name, v) :: rest => do
    let v ← canonical? v
    let ms ← canonicalMembers? rest
    some ((name, v) :: ms)

end

end LogSql.Json
