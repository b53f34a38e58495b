import LogSql.Text.Glyph

/-!
The quoted notation of texts: a text between quotes, where a backslash starts an escape. Writing
escapes quotes, backslashes, malformed bytes and everything that shows no ink; reading accepts the
written form and a few more spellings.
-/
namespace LogSql.Text

/-- The bytes that stand for a character between two `quote` characters. -/
def escapeChar (quote : Char) (c : Char) : Text :=
  if c = quote ∨ c = '\\' then byte '\\' :: ofChar c
  else if isPrintable c then ofChar c
  else match c.toNat with
    | 7 => "\\a"
    | 8 => "\\b"
    | 9 => "\\t"
    | 10 => "\\n"
    | 11 => "\\v"
    | 12 => "\\f"
    | 13 => "\\r"
    | n =>
      if n < 0x20 ∨ n = 0x7F then "\\x" ++ hexFixed 2 n
      else if n < 0x10000 then "\\u" ++ hexFixed 4 n
      else "\\U" ++ hexFixed 8 n

/-- The bytes that stand for a character of a text; a malformed byte is written by its value. -/
def escapeGlyph (quote : Char) (r : Glyph) : Text :=
  match r.raw with
  | [b] => if r.char = replacement then "\\x" ++ hexFixed 2 b.toNat else escapeChar quote r.char
  | _ => escapeChar quote r.char

/-- The text between double quotes. -/
def quote (t : Text) : Text :=
  byte '"' :: (glyphs t).flatMap (escapeGlyph '"') ++ [byte '"']

/-- A single character between single quotes. -/
def quoteChar (c : Char) : Text := byte '\'' :: escapeChar '\'' c ++ [byte '\'']

/-- The number written by hexadecimal digits. -/
def hexNumber : Text → Option Nat
  | t => t.foldl (fun acc b => do (16 * (← acc)) + (← hexValue b)) (some 0)

/-- Whether the number is a Unicode scalar value. -/
def isScalar (n : Nat) : Bool := n < 0xD800 || (0xDFFF < n && n ≤ 0x10FFFF)

/-- The value and the length of the numeric escape of `digits` hexadecimal digits. -/
def scalarEscape (digits : Nat) (rest : Text) : Option (Text × Nat) := do
  if rest.length < digits then none
  let n ← hexNumber (rest.take digits)
  if isScalar n then some (ofChar (Char.ofNat n), digits + 2) else none

/-- What the first character or escape of a quoted body stands for, with the number of bytes it
takes. The enclosing quote itself and unknown escapes stand for nothing. -/
def unescape (quote : UInt8) : Text → Option (Text × Nat)
  | [] => none
  | [b] =>
    if b = quote ∨ b = byte '\\' then none
    else if b < 0x80 then some ([b], 1) else some (ofChar replacement, 1)
  | b :: c :: rest =>
    if b = quote then none
    else if b ≥ 0x80 then
      let (ch, width) := firstChar b (c :: rest)
      some (ofChar ch, width)
    else if b ≠ byte '\\' then some ([b], 1)
    else if c = byte 'a' then some ([7], 2)
    else if c = byte 'b' then some ([8], 2)
    else if c = byte 'f' then some ([12], 2)
    else if c = byte 'n' then some ([10], 2)
    else if c = byte 'r' then some ([13], 2)
    else if c = byte 't' then some ([9], 2)
    else if c = byte 'v' then some ([11], 2)
    else if c = byte '\\' then some ([c], 2)
    else if c = byte 'x' then
      match rest with
      | d :: e :: _ => (hexNumber [d, e]).map fun n => ([UInt8.ofNat n], 4)
      | _ => none
    else if c = byte 'u' then scalarEscape 4 rest
    else if c = byte 'U' then scalarEscape 8 rest
    else if byte '0' ≤ c ∧ c ≤ byte '7' then
      match rest with
      | d :: e :: _ =>
        if byte '0' ≤ d ∧ d ≤ byte '7' ∧ byte '0' ≤ e ∧ e ≤ byte '7' then
          let n := 64 * (c.toNat - 48) + 8 * (d.toNat - 48) + (e.toNat - 48)
          if n ≤ 255 then some ([UInt8.ofNat n], 4) else none
        else none
      | _ => none
    else if (c = byte '\'' ∨ c = byte '"') ∧ c = quote then some ([c], 2)
    else none

/-- Reads a quoted body after its first `skip` bytes; an unescaped line break is refused. -/
def unquoteFrom (quote : UInt8) : (skip : Nat) → Text → Option Text
  | _, [] => some []
  | skip + 1, _ :: rest => unquoteFrom quote skip rest
  | 0, b :: rest => do
    if b = 10 then none
    let (value, width) ← unescape quote (b :: rest)
    let tail ← unquoteFrom quote (width - 1) rest
    some (value ++ tail)

/-- The text that the body of a double-quoted literal stands for. -/
def unquoteBody (body : Text) : Option Text := unquoteFrom (byte '"') 0 body

/-- The text that a double-quoted literal with its quotes stands for. -/
def unquote (t : Text) : Option Text :=
  match t with
  | b :: rest =>
    match rest.reverse with
    | q :: body => if b = byte '"' ∧ q = byte '"' then unquoteBody body.reverse else none
    | [] => none
  | [] => none

end LogSql.Text
