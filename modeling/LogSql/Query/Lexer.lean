import LogSql.Query.Token

/-!
Reading tokens from a text. A scanner looks at the characters from a token's first one on and says
which token stands there and how many characters it takes; the loop then skips them. A zero
character ends the text wherever a token could start.
-/
namespace LogSql.Query

/-- A token without its place, and the number of characters it takes. -/
structure Lexeme where
  kind : TokenKind
  literal : Text
  width : Nat
  deriving DecidableEq, Repr

/-- Characters that may start an identifier. -/
def isIdentStart (c : Char) : Bool := c = '_' || (c.toNat < 0x80 && Text.isLetter c)

/-- Characters that may continue an identifier. -/
def isIdentPart (c : Char) : Bool := isIdentStart c || (c.toNat < 0x80 && Text.isDigit c)

/-- A lexeme made of the first `width` characters as they are spelled. -/
def spelled (kind : TokenKind) (width : Nat) (rs : List Glyph) : Lexeme :=
  ⟨kind, Text.ofGlyphs (rs.take width), width⟩

/-- The length of a double-quoted string after its opening quote, the closing quote included; the
character after a backslash does not end it. -/
def quotedWidth : List Glyph → Option Nat
  | [] => none
  | r :: rest =>
    if r.char = '"' then some 1
    else if r.char.toNat = 0 then none
    else if r.char = '\\' then
      match rest with
      | [] => none
      | _ :: rest => (quotedWidth rest).map (· + 2)
    else (quotedWidth rest).map (· + 1)

/-- The length of a raw string after its opening quote, the closing quote included. -/
def rawWidth : List Glyph → Option Nat
  | [] => none
  | r :: rest =>
    if r.char.toNat = 0x60 then some 1
    else if r.char.toNat = 0 then none
    else (rawWidth rest).map (· + 1)

/-- Whether a unit of letters marks a number of bytes: a `b`, after an optional multiple that may
be binary. Letters count as equal when they differ in case only. -/
def isByteUnit (unit : List Char) : Bool :=
  let isLast := fun (c : Char) => c = 'b' || c = 'B'
  let isMultiple := fun (c : Char) => ['k', 'm', 'g', 't', 'p', 'e'].contains (Text.foldChar c)
  let isBinary := fun (c : Char) => Text.foldChar c = 'i'
  match unit with
  | [c] => isLast c
  | [m, c] => isMultiple m && isLast c
  | [m, i, c] => isMultiple m && isBinary i && isLast c
  | _ => false

/-- A number, or a number with the unit that follows it immediately. -/
def numeric (rs : List Glyph) : Lexeme :=
  let sign := if (rs.head?.map (·.char)) = some '-' then 1 else 0
  let digits := (rs.drop sign).takeWhile fun r => Text.isDigit r.char || r.char = '.'
  let start := sign + digits.length
  let starts := match rs.drop start with
    | r :: _ => Text.isLetter r.char
    | [] => false
  if !starts then spelled .number start rs
  else
    let unit := (rs.drop start).takeWhile fun r =>
      Text.isLetter r.char || Text.isDigit r.char || r.char = '.'
    let kind := if isByteUnit (unit.map (·.char)) then TokenKind.bytes else TokenKind.duration
    spelled kind (start + unit.length) rs

/-- The token that starts with the character `r`, which is neither blank nor zero. -/
def scan (r : Glyph) (rest : List Glyph) : Except Problem Lexeme :=
  let next : Char := (rest.head?.map (·.char)).getD (Char.ofNat 0)
  let one := fun kind => Except.ok (spelled kind 1 (r :: rest))
  let two := fun kind => Except.ok (spelled kind 2 (r :: rest))
  if r.char = '\x7b' then one .leftBrace
  else if r.char = '\x7d' then one .rightBrace
  else if r.char = '(' then one .leftParen
  else if r.char = ')' then one .rightParen
  else if r.char = '[' then one .leftBracket
  else if r.char = ']' then one .rightBracket
  else if r.char = ',' then one .comma
  else if r.char = '|' then
    if next = '=' then two .pipeExact else if next = '~' then two .pipeMatch else one .pipe
  else if r.char = '=' then
    if next = '=' then two .equalEqual else if next = '~' then two .match_ else one .equal
  else if r.char = '!' then
    if next = '=' then two .notEqual
    else if next = '~' then two .notMatch
    else .error (.unexpectedCharacter r.char)
  else if r.char = '>' then
    if next = '=' then two .greaterEqual else one .greater
  else if r.char = '<' then
    if next = '=' then two .lessEqual else one .less
  else if r.char = '"' then
    match quotedWidth rest with
    | none => .error .unterminatedString
    | some width =>
      match Text.unquoteBody (Text.ofGlyphs (rest.take (width - 1))) with
      | none => .error .badStringLiteral
      | some value => .ok ⟨.string, value, width + 1⟩
  else if r.char.toNat = 0x60 then
    match rawWidth rest with
    | none => .error .unterminatedRawString
    | some width =>
      .ok ⟨.string, (rest.take (width - 1)).flatMap fun r => Text.ofChar r.char, width + 1⟩
  else if isIdentStart r.char then
    .ok (spelled .identifier ((r :: rest).takeWhile fun r => isIdentPart r.char).length (r :: rest))
  else if Text.isDigit r.char || ((r.char = '-' || r.char = '.') && Text.isDigit next) then
    .ok (numeric (r :: rest))
  else .error (.unexpectedCharacter r.char)

/-- The tokens of a text, and the place where it ends. -/
structure Tokens where
  tokens : List Token
  stop : Position
  deriving DecidableEq, Repr

/-- The tokens after the first `skip` characters, `at_` being the place of the character before. -/
def tokensFrom : (skip : Nat) → (at_ : Position) → List Glyph → Except Error Tokens
  | _, at_, [] => .ok ⟨[], at_⟩
  | skip + 1, at_, r :: rest => tokensFrom skip (at_.after r.char) rest
  | 0, at_, r :: rest =>
    let here := at_.after r.char
    if Text.isSpace r.char then tokensFrom 0 here rest
    else if r.char.toNat = 0 then .ok ⟨[], here⟩
    else
      match scan r rest with
      | .error problem => .error (.at_ here problem)
      | .ok lexeme => do
        let more ← tokensFrom (lexeme.width - 1) here rest
        return { more with tokens := ⟨lexeme.kind, lexeme.literal, here⟩ :: more.tokens }

/-- The tokens of a text. -/
def tokenize (t : Text) : Except Error Tokens := tokensFrom 0 .start (Text.glyphs t)

/-- The token that marks the end. -/
def Tokens.eof (ts : Tokens) : Token := ⟨.eof, [], ts.stop⟩

end LogSql.Query
