import LogSql.Auth.Base64
import LogSql.Text.Glyph

/-!
Text armour: bytes in base 64 between a line that begins and a line that ends a block of some type.
-/
namespace LogSql.Pem

/-- A block. -/
structure Block where
  type : Text
  /-- Whether lines of named values stood before the bytes. -/
  hasHeaders : Bool := false
  bytes : Text
  deriving DecidableEq, Repr

/-- The letters of the common alphabet for those of the one that is safe in URLs, and back. -/
def commonLetter (b : UInt8) : UInt8 :=
  if b = Text.byte '-' then Text.byte '+' else if b = Text.byte '_' then Text.byte '/' else b

@[inherit_doc commonLetter]
def safeLetter (b : UInt8) : UInt8 :=
  if b = Text.byte '+' then Text.byte '-' else if b = Text.byte '/' then Text.byte '_' else b

/-- Bytes in base 64, padded to groups of four letters. -/
def encode (t : Text) : Text :=
  let letters := (Auth.encode64 t).map commonLetter
  letters ++ List.replicate ((4 - letters.length % 4) % 4) (Text.byte '=')

/-- Reads padded letters. -/
def decode? (t : Text) : Option Text :=
  let letters := (t.reverse.dropWhile (· = Text.byte '=')).reverse
  if t.length % 4 ≠ 0 ∨ letters.length + 2 < t.length then none
  else if letters.any fun b => b = Text.byte '-' || b = Text.byte '_' then none
  else Auth.decode64? (letters.map safeLetter)

/-- The lines of letters, sixty-four on each. -/
def wrap : (fuel : Nat) → Text → Text
  | 0, _ => []
  | fuel + 1, t => if t.isEmpty then [] else .concat [t.take 64, "\n", wrap fuel (t.drop 64)]

/-- The text of a block. -/
def armour (type bytes : Text) : Text :=
  let letters := encode bytes
  .concat ["-----BEGIN ", type, "-----\n", wrap letters.length letters, "-----END ", type, "-----\n"]

/-- The type that a line begins. -/
def begun? (line : Text) : Option Text :=
  (Text.stripStart "-----BEGIN " line).bind (Text.stripEnd "-----")

/-- The block of the lines between its ends. -/
def block? (type : Text) (lines : List Text) : Option Block :=
  let isHeader := fun (l : Text) => l.elem (Text.byte ':')
  let letters := (lines.dropWhile isHeader).flatten.filter fun b => b ≠ 32 ∧ b ≠ 9
  (decode? letters).map fun bytes =>
    { type, bytes, hasHeaders := !(lines.takeWhile isHeader).isEmpty }

/-- The blocks of some lines, where the type and the lines of an unfinished block are given. -/
def blocksOf : (pending : Option (Text × List Text)) → List Text → List Block
  | _, [] => []
  | pending, line :: rest =>
    match begun? line, pending with
    | some type, _ => blocksOf (some (type, [])) rest
    | none, none => blocksOf none rest
    | none, some (type, lines) =>
      if (Text.stripStart "-----END " line).isNone then blocksOf (some (type, lines ++ [line])) rest
      else
        let ended := line = .concat ["-----END ", type, "-----"]
        ((if ended then block? type lines else none).toList) ++ blocksOf none rest

/-- All blocks of a text. -/
def blocks (t : Text) : List Block :=
  blocksOf none ((Text.splitByte (Text.byte '\n') t).map fun l =>
    Text.trimEndBy (fun c => c = ' ' || c = '\t' || c = '\r') l)

end LogSql.Pem
