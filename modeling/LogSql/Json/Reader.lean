import LogSql.Json.Value

/-!
Reading JSON documents. Malformed bytes and lone surrogates in strings become the replacement
character; documents may nest to a fixed depth.
-/
namespace LogSql.Json

/-- White space between tokens. -/
def isBlank (b : UInt8) : Bool := b = 32 || b = 9 || b = 10 || b = 13

/-- Drops white space. -/
def skipBlanks (t : Text) : Text := t.dropWhile isBlank

/-- The bytes of a string up to its closing quote, and what follows. -/
def rawString : Text → Option (Text × Text)
  | [] => none
  | b :: rest =>
    if b = Text.byte '"' then some ([], rest)
    else if b < 0x20 then none
    else if b = Text.byte '\\' then
      match rest with
      | [] => none
      | c :: rest => if c < 0x20 then none else (rawString rest).map fun r => (b :: c :: r.1, r.2)
    else (rawString rest).map fun r => (b :: r.1, r.2)

/-- The code unit written by `\u` and four digits at the start of the text. -/
def codeUnit (t : Text) : Option Nat :=
  match t with
  | s :: u :: a :: b :: c :: d :: _ =>
    if s = Text.byte '\\' ∧ u = Text.byte 'u' then do
      let a ← Text.hexValue a
      let b ← Text.hexValue b
      let c ← Text.hexValue c
      let d ← Text.hexValue d
      some (4096 * a + 256 * b + 16 * c + d)
    else none
  | _ => none

/-- Whether a code unit is half of a surrogate pair. -/
def isSurrogate (n : Nat) : Bool := 0xD800 ≤ n && n ≤ 0xDFFF

/-- What the first character or escape stands for, with the number of bytes it takes. -/
def unescape (t : Text) : Option (Text × Nat) :=
  match t with
  | [] => none
  | b :: rest =>
    if b = Text.byte '\\' then
      match rest with
      | [] => none
      | c :: _ =>
        if c = Text.byte '"' ∨ c = Text.byte '\\' ∨ c = Text.byte '/' then some ([c], 2)
        else if c = Text.byte 'b' then some ([8], 2)
        else if c = Text.byte 'f' then some ([12], 2)
        else if c = Text.byte 'n' then some ([10], 2)
        else if c = Text.byte 'r' then some ([13], 2)
        else if c = Text.byte 't' then some ([9], 2)
        else if c = Text.byte 'u' then do
          let n ← codeUnit t
          if isSurrogate n then
            match codeUnit (t.drop 6) with
            | some m =>
              if n < 0xDC00 ∧ 0xDC00 ≤ m ∧ m ≤ 0xDFFF then
                some (Text.ofChar (Char.ofNat (0x10000 + (n - 0xD800) * 1024 + (m - 0xDC00))), 12)
              else some (Text.ofChar Text.replacement, 6)
            | none => some (Text.ofChar Text.replacement, 6)
          else some (Text.ofChar (Char.ofNat n), 6)
        else none
    else
      let (c, width) := Text.firstChar b rest
      some (Text.ofChar c, width)

/-- The text that string bytes stand for, after the first `skip` of them. -/
def decodeFrom : (skip : Nat) → Text → Option Text
  | _, [] => some []
  | skip + 1, _ :: rest => decodeFrom skip rest
  | 0, b :: rest => do
    let (value, width) ← unescape (b :: rest)
    let tail ← decodeFrom (width - 1) rest
    some (value ++ tail)

/-- A string after its opening quote. -/
def readString (t : Text) : Option (Text × Text) := do
  let (raw, rest) ← rawString t
  let value ← decodeFrom 0 raw
  some (value, rest)

/-- The length of a run of digits that must not be empty. -/
def digitRun (t : Text) : Option Nat :=
  let n := (t.takeWhile Text.isDecimal).length
  if n = 0 then none else some n

/-- The length of a number at the start of the text. -/
def numberLength (t : Text) : Option Nat := do
  let sign := if t.head? = some (Text.byte '-') then 1 else 0
  let body := t.drop sign
  let int ← if body.head? = some (Text.byte '0') then some 1 else digitRun body
  let rest := body.drop int
  let fraction ←
    if rest.head? = some (Text.byte '.') then (digitRun (rest.drop 1)).map (· + 1) else some 0
  let rest := rest.drop fraction
  let exponent ←
    match rest with
    | e :: more =>
      if e = Text.byte 'e' ∨ e = Text.byte 'E' then
        match more with
        | s :: digits =>
          if s = Text.byte '+' ∨ s = Text.byte '-' then (digitRun digits).map (· + 2)
          else (digitRun more).map (· + 1)
        | [] => none
      else some 0
    | [] => some 0
  some (sign + int + fraction + exponent)

/-- Items of an array after its opening bracket and blanks. -/
def readItems (value : Text → Option (Json × Text)) :
    (fuel : Nat) → Text → Option (List Json × Text)
  | 0, _ => none
  | fuel + 1, t => do
    let (v, rest) ← value (skipBlanks t)
    match skipBlanks rest with
    | b :: rest =>
      if b = Text.byte ',' then
        let (vs, rest) ← readItems value fuel rest
        some (v :: vs, rest)
      else if b = Text.byte ']' then some ([v], rest)
      else none
    | [] => none

/-- Members of an object after its opening brace and blanks. -/
def readMembers (value : Text → Option (Json × Text)) :
    (fuel : Nat) → Text → Option (List (Text × Json) × Text)
  | 0, _ => none
  | fuel + 1, t => do
    match skipBlanks t with
    | q :: rest =>
      if q ≠ Text.byte '"' then none
      let (name, rest) ← readString rest
      match skipBlanks rest with
      | c :: rest =>
        if c ≠ Text.byte ':' then none
        let (v, rest) ← value (skipBlanks rest)
        match skipBlanks rest with
        | b :: rest =>
          if b = Text.byte ',' then
            let (ms, rest) ← readMembers value fuel rest
            some ((name, v) :: ms, rest)
          else if b = Text.byte '\x7d' then some ([(name, v)], rest)
          else none
        | [] => none
      | [] => none
    | [] => none

/-- A value at the start of the text, with `depth` levels left for nesting. -/
def readValue : (depth : Nat) → Text → Option (Json × Text)
  | 0, _ => none
  | depth + 1, t =>
    match t with
    | [] => none
    | b :: rest =>
      if b = Text.byte '"' then (readString rest).map fun r => (.string r.1, r.2)
      else if b = Text.byte '[' then
        match skipBlanks rest with
        | c :: after =>
          if c = Text.byte ']' then some (.array [], after)
          else (readItems (readValue depth) t.length rest).map fun r => (.array r.1, r.2)
        | [] => none
      else if b = Text.byte '\x7b' then
        match skipBlanks rest with
        | c :: after =>
          if c = Text.byte '\x7d' then some (.object [], after)
          else (readMembers (readValue depth) t.length rest).map fun r => (.object r.1, r.2)
        | [] => none
      else match Text.stripStart "true" t with
        | some rest => some (.bool true, rest)
        | none => match Text.stripStart "false" t with
          | some rest => some (.bool false, rest)
          | none => match Text.stripStart "null" t with
            | some rest => some (.null, rest)
            | none => (numberLength t).map fun n => (.number (t.take n), t.drop n)

/-- How deep documents may nest. -/
def maxDepth : Nat := 10000

/-- Reads a value and returns what follows it. -/
def readFirst? (t : Text) : Option (Json × Text) := readValue (maxDepth + 1) (skipBlanks t)

/-- Reads a whole document. -/
def read? (t : Text) : Option Json := do
  let (v, rest) ← readFirst? t
  if (skipBlanks rest).isEmpty then some v else none

end LogSql.Json
