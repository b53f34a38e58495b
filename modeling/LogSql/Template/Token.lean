import LogSql.Text.Glyph

/-!
The tokens of a line template. A template is text with actions between double braces; a minus sign
next to the braces takes the white space on that side away, and an action that holds only a comment
leaves nothing.
-/
namespace LogSql.Template

/-- Words that shape a template. -/
inductive Keyword where
  | block
  | breakLoop
  | continueLoop
  | define
  | otherwise
  | close
  | condition
  | range
  | template
  | within
  deriving DecidableEq, Repr

/-- A token. Literals keep their spelling, quotes included. -/
inductive Token where
  | text (t : Text)
  | leftDelim
  | rightDelim
  | space
  | assign
  | declare
  | pipe
  | leftParen
  | rightParen
  | comma
  /-- Another printable ASCII character. -/
  | mark
  | bool (b : Bool)
  | absent
  | dot
  | field (name : Text)
  | variable (name : Text)
  | identifier (name : Text)
  | keyword (k : Keyword)
  | charConstant (spelling : Text)
  | number (spelling : Text)
  | complex (spelling : Text)
  | quoted (spelling : Text)
  | rawQuoted (body : Text)
  deriving DecidableEq, Repr

/-- The white space of templates. -/
def isBlank (b : UInt8) : Bool := b = 32 || b = 9 || b = 13 || b = 10

/-- Letters, digits and the underscore. -/
def isWordChar (c : Char) : Bool := c = '_' || Text.isLetter c || Text.isDigit c

/-- The longest run of word characters at the start, and what follows it. -/
def takeWord (t : Text) : Text × Text :=
  let word := Text.ofGlyphs ((Text.glyphs t).takeWhile fun r => isWordChar r.char)
  (word, t.drop word.length)

/-- Whether a word can end here: at white space, at the end, at a delimiter or at a separator. -/
def atTerminator : Text → Bool
  | [] => true
  | b :: rest =>
    isBlank b || (Text.ofString ".,|:)(").elem b ||
      (Text.ofString "\x7d\x7d").isPrefixOf (b :: rest)

/-- What follows the closing braces when they stand here, and whether they trim. -/
def closing? (t : Text) : Option (Bool × Text) :=
  match t with
  | b :: rest =>
    match isBlank b, Text.stripStart "-\x7d\x7d" rest with
    | true, some after => some (true, after)
    | _, _ => (Text.stripStart "\x7d\x7d" t).map fun after => (false, after)
  | [] => none

/-- What follows the closing braces, with the white space they trim gone. -/
def afterClosing : Bool × Text → Text
  | (true, after) => after.dropWhile isBlank
  | (false, after) => after

/-- A quoted literal up to its closing quote, after the opening one: its spelling without the
opening quote, and what follows. A line break ends no literal. -/
def takeQuoted (quote : UInt8) : Text → Option (Text × Text)
  | [] => none
  | b :: rest =>
    if b = 10 then none
    else if b = quote then some ([b], rest)
    else if b = Text.byte '\\' then
      match rest with
      | c :: tail =>
        if c = 10 then none
        else (takeQuoted quote tail).map fun (s, after) => (b :: c :: s, after)
      | [] => none
    else (takeQuoted quote rest).map fun (s, after) => (b :: s, after)

/-- Splits off one byte of a set. -/
def accept (set : Text) (t : Text) : Text × Text :=
  match t with
  | b :: rest => if set.elem b then ([b], rest) else ([], t)
  | [] => ([], [])

/-- Splits off the longest run of bytes of a set. -/
def acceptRun (set : Text) (t : Text) : Text × Text :=
  (t.takeWhile fun b => set.elem b, t.dropWhile fun b => set.elem b)

/-- The spelling of a number at the start, and what follows it; a word character must not follow. -/
def takeNumber (t : Text) : Option (Text × Text) :=
  let (sign, t) := accept "+-" t
  let (zero, t) := accept "0" t
  let (mark, t) := if zero.isEmpty then ([], t) else accept "xXoObB" t
  let digits : Text := match Text.asciiLower mark with
    | [b] =>
      if b = Text.byte 'x' then "0123456789abcdefABCDEF_"
      else if b = Text.byte 'o' then "01234567_"
      else "01_"
    | _ => "0123456789_"
  let (whole, t) := acceptRun digits t
  let (point, t) := accept "." t
  let (fraction, t) := if point.isEmpty then ([], t) else acceptRun digits t
  let exponentMark : Text :=
    if mark.isEmpty then "eE" else if Text.asciiLower mark = ("x" : Text) then "pP" else []
  let (expMark, t) := accept exponentMark t
  let (expSign, t) := if expMark.isEmpty then ([], t) else accept "+-" t
  let (exponent, t) := if expMark.isEmpty then ([], t) else acceptRun "0123456789_" t
  let (imaginary, t) := accept "i" t
  if (takeWord t).1.isEmpty then
    some (.concat [sign, zero, mark, whole, point, fraction, expMark, expSign, exponent, imaginary],
      t)
  else none

/-- A number, or two joined by a sign of which the second is imaginary. -/
def numberToken (t : Text) : Option (Token × Text) := do
  let (first, rest) ← takeNumber t
  match rest with
  | b :: _ =>
    if b = Text.byte '+' ∨ b = Text.byte '-' then
      let (second, rest) ← takeNumber rest
      if second.getLast? = some (Text.byte 'i') then some (.complex (first ++ second), rest)
      else none
    else some (.number first, rest)
  | [] => some (.number first, rest)

/-- The keywords by their spelling. -/
def keywords : List (Text × Keyword) :=
  [("block", .block), ("break", .breakLoop), ("continue", .continueLoop), ("define", .define),
    ("else", .otherwise), ("end", .close), ("if", .condition), ("range", .range),
    ("template", .template), ("with", .within)]

/-- The token of a word. -/
def wordToken (word : Text) : Token :=
  match keywords.find? fun k => k.1 = word with
  | some (_, k) => .keyword k
  | none =>
    if word = ("true" : Text) then .bool true
    else if word = ("false" : Text) then .bool false
    else if word = ("nil" : Text) then .absent
    else .identifier word

/-- A field or a variable after its first byte. -/
def namedToken (make : Text → Token) (t : Text) : Option (Token × Text) :=
  let (name, rest) := takeWord t
  if atTerminator rest then some (make name, rest) else none

/-- The token at the start of an action's text that is neither white space nor the end. -/
def actionToken (b : UInt8) (rest : Text) : Option (Token × Text) :=
  if b = Text.byte '=' then some (.assign, rest)
  else if b = Text.byte ':' then (Text.stripStart "=" rest).map fun after => (.declare, after)
  else if b = Text.byte '|' then some (.pipe, rest)
  else if b = Text.byte '"' then
    (takeQuoted b rest).map fun (s, after) => (.quoted (b :: s), after)
  else if b = 96 then (Text.cut [96] rest).map fun (s, after) => (.rawQuoted s, after)
  else if b = Text.byte '$' then namedToken (fun n => .variable (b :: n)) rest
  else if b = Text.byte '\'' then
    (takeQuoted b rest).map fun (s, after) => (.charConstant (b :: s), after)
  else if b = Text.byte '.' ∧ !(rest.headD 48 |> Text.isDecimal) then
    namedToken (fun n => if n.isEmpty then .dot else .field n) rest
  else if b = Text.byte '.' ∨ b = Text.byte '+' ∨ b = Text.byte '-' ∨ Text.isDecimal b then
    numberToken (b :: rest)
  else if !(takeWord (b :: rest)).1.isEmpty then namedToken wordToken (b :: rest)
  else if b = Text.byte '(' then some (.leftParen, rest)
  else if b = Text.byte ')' then some (.rightParen, rest)
  else if b = Text.byte ',' then some (.comma, rest)
  else if 32 ≤ b ∧ b < 127 then some (.mark, rest)
  else none

/-- The tokens of an action and of the text after it, at a parenthesis depth; `fuel` bounds the
number of tokens. -/
def scan : (fuel : Nat) → (depth : Option Nat) → Text → Option (List Token)
  | 0, _, _ => none
  | fuel + 1, none, t =>
    match Text.cut "\x7b\x7b" t with
    | none => some (if t.isEmpty then [] else [.text t])
    | some (before, after) => do
      let trims := match after with
        | a :: b :: _ => a = Text.byte '-' && isBlank b
        | _ => false
      let before := if trims then (before.reverse.dropWhile isBlank).reverse else before
      let body := if trims then after.drop 2 else after
      let head := if before.isEmpty then [] else [Token.text before]
      match Text.stripStart "/*" body with
      | some comment =>
        let (_, rest) ← Text.cut "*/" comment
        let close ← closing? rest
        return head ++ (← scan fuel none (afterClosing close))
      | none => return head ++ .leftDelim :: (← scan fuel (some 0) body)
  | fuel + 1, some depth, t => do
    match closing? t with
    | some close =>
      if depth ≠ 0 then none
      return .rightDelim :: (← scan fuel none (afterClosing close))
    | none =>
      match t with
      | [] => none
      | b :: rest =>
        if isBlank b then
          let after := rest.dropWhile isBlank
          let after := if (Text.ofString "-\x7d\x7d").isPrefixOf after then 32 :: after else after
          return .space :: (← scan fuel (some depth) after)
        else
          let (token, after) ← actionToken b rest
          match token with
          | .leftParen => return token :: (← scan fuel (some (depth + 1)) after)
          | .rightParen =>
            if depth = 0 then none
            return token :: (← scan fuel (some (depth - 1)) after)
          | _ => return token :: (← scan fuel (some depth) after)

/-- The tokens of a template; every token takes a byte at least. -/
def tokens (t : Text) : Option (List Token) := scan (2 * t.length + 2) none t

end LogSql.Template
