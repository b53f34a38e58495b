import LogSql.Json.Reader

/-!
Lines of `key=value` pairs. Reading stops at the first malformed pair and keeps the pairs before it.
-/
namespace LogSql.Logfmt

/-- The longest line that is read. -/
def maxLineLength : Nat := 65535

/-- Bytes that separate pairs: blanks and control bytes. -/
def isGap (b : UInt8) : Bool := b ≤ 32

/-- A byte that ends a key or a value that is not quoted. -/
def endsWord (b : UInt8) : Bool := isGap b || b = Text.byte '=' || b = Text.byte '"'

/-- Whether a key is well-formed text without replacement characters. -/
def keyFits (key : Text) : Bool := (Text.chars key).all fun c => c ≠ Text.replacement

/-- The body of a quoted value up to its closing quote, whether it has escapes, and what follows. -/
def quotedBody : Text → Option (Text × Bool × Text)
  | [] => none
  | b :: rest =>
    if b = Text.byte '"' then some ([], false, rest)
    else if b = Text.byte '\\' then
      match rest with
      | [] => none
      | c :: rest => (quotedBody rest).map fun (body, _, after) => (b :: c :: body, true, after)
    else (quotedBody rest).map fun (body, escaped, after) => (b :: body, escaped, after)

/-- The text that a body with escapes stands for, after the first `skip` bytes. -/
def decodeFrom : (skip : Nat) → Text → Option Text
  | _, [] => some []
  | skip + 1, _ :: rest => decodeFrom skip rest
  | 0, b :: rest => do
    if b < 32 then none
    let (value, width) ←
      if b = Text.byte '\\' ∧ rest.head? = some (Text.byte '\'') then some ([Text.byte '\''], 2)
      else Json.unescape (b :: rest)
    let tail ← decodeFrom (width - 1) rest
    some (value ++ tail)

/-- The value after an equals sign, and what follows it. -/
def readValue (t : Text) : Option (Text × Text) :=
  match t with
  | [] => some ([], [])
  | b :: rest =>
    if b = Text.byte '"' then do
      let (body, escaped, after) ← quotedBody rest
      if escaped then some (← decodeFrom 0 body, after) else some (body, after)
    else
      let word := t.takeWhile fun b => !endsWord b
      match t.drop word.length with
      | [] => some (word, [])
      | c :: after => if isGap c then some (word, c :: after) else none

/-- A pair at the start of a text without gaps in front, and what follows it. -/
def readPair (t : Text) : Option ((Text × Text) × Text) := do
  let key := t.takeWhile fun b => !endsWord b
  match t.drop key.length with
  | [] => if keyFits key then some ((key, []), []) else none
  | b :: after =>
    if b = Text.byte '"' then none
    else if isGap b then (if keyFits key then some ((key, []), b :: after) else none)
    else if key.isEmpty || !keyFits key then none
    else
      let (value, rest) ← readValue after
      some ((key, value), rest)

/-- The pairs of a line, and whether all of it was read; every pair takes a byte at least. -/
def linePairs : (fuel : Nat) → Text → List (Text × Text) × Bool
  | 0, _ => ([], true)
  | fuel + 1, t =>
    match t.dropWhile isGap with
    | [] => ([], true)
    | body =>
      match readPair body with
      | none => ([], false)
      | some (pair, rest) =>
        let (pairs, complete) := linePairs fuel rest
        (pair :: pairs, complete)

/-- A line without the carriage return at its end. -/
def dropReturn (line : Text) : Text := if line.getLast? = some 13 then line.dropLast else line

/-- The pairs of lines, up to the first that is malformed or too long. -/
def pairsOf : List Text → List (Text × Text)
  | [] => []
  | line :: rest =>
    if maxLineLength < line.length then []
    else
      let (pairs, complete) := linePairs line.length (dropReturn line)
      if complete then pairs ++ pairsOf rest else pairs

/-- The pairs of a text that have a key. -/
def pairs (t : Text) : List (Text × Text) :=
  (pairsOf (Text.splitByte 10 t)).filter fun p => !p.1.isEmpty

end LogSql.Logfmt
