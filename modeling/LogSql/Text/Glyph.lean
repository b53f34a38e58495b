import LogSql.Text.Basic
import LogSql.Text.Category
import LogSql.Text.Case

/-!
Characters of a text. A byte that starts no well-formed UTF-8 sequence counts as one character, the
replacement character, and keeps its own byte, so the raw bytes of the characters of a text always
concatenate to the text.
-/
namespace LogSql

/-- A character as it stands in a text: what it reads as and the bytes it was read from. -/
structure Glyph where
  char : Char
  raw : Text
  deriving DecidableEq, Repr

namespace Text

/-- The character a byte reads as when no well-formed sequence starts there. -/
def replacement : Char := Char.ofNat 0xFFFD

/-- A continuation byte. -/
def isContinuation (b : UInt8) : Bool := 0x80 ≤ b && b ≤ 0xBF

/-- Code point of two, three or four sequence bytes without their tag bits. -/
def codePoint2 (a b : UInt8) : Nat := (a.toNat % 32) * 64 + b.toNat % 64

@[inherit_doc codePoint2]
def codePoint3 (a b c : UInt8) : Nat :=
  (a.toNat % 16) * 4096 + (b.toNat % 64) * 64 + c.toNat % 64

@[inherit_doc codePoint2]
def codePoint4 (a b c d : UInt8) : Nat :=
  (a.toNat % 8) * 262144 + (b.toNat % 64) * 4096 + (c.toNat % 64) * 64 + d.toNat % 64

/-- Whether `b` may follow the lead byte `a` of a three or four byte sequence: overlong forms,
surrogates and values above the last code point are excluded. -/
def secondFits (a b : UInt8) : Bool :=
  if a = 0xE0 then 0xA0 ≤ b && b ≤ 0xBF
  else if a = 0xED then 0x80 ≤ b && b ≤ 0x9F
  else if a = 0xF0 then 0x90 ≤ b && b ≤ 0xBF
  else if a = 0xF4 then 0x80 ≤ b && b ≤ 0x8F
  else isContinuation b

/-- The character at the start of a non-empty text and the number of its bytes; a malformed start
is the replacement character of one byte. -/
def firstChar (b : UInt8) (rest : Text) : Char × Nat :=
  if b < 0x80 then (Char.ofNat b.toNat, 1)
  else if 0xC2 ≤ b && b ≤ 0xDF then
    match rest with
    | c :: _ => if isContinuation c then (Char.ofNat (codePoint2 b c), 2) else (replacement, 1)
    | _ => (replacement, 1)
  else if 0xE0 ≤ b && b ≤ 0xEF then
    match rest with
    | c :: d :: _ =>
      if secondFits b c && isContinuation d then (Char.ofNat (codePoint3 b c d), 3)
      else (replacement, 1)
    | _ => (replacement, 1)
  else if 0xF0 ≤ b && b ≤ 0xF4 then
    match rest with
    | c :: d :: e :: _ =>
      if secondFits b c && isContinuation d && isContinuation e then
        (Char.ofNat (codePoint4 b c d e), 4)
      else (replacement, 1)
    | _ => (replacement, 1)
  else (replacement, 1)

/-- The characters of the text after its first `skip` bytes. -/
def glyphsFrom : (skip : Nat) → Text → List Glyph
  | _, [] => []
  | skip + 1, _ :: rest => glyphsFrom skip rest
  | 0, b :: rest =>
    let (c, width) := firstChar b rest
    ⟨c, (b :: rest).take width⟩ :: glyphsFrom (width - 1) rest

/-- The characters of a text, in order. -/
def glyphs (t : Text) : List Glyph := glyphsFrom 0 t

/-- The characters of a text without their bytes. -/
def chars (t : Text) : List Char := (glyphs t).map (·.char)

/-- The bytes that a sequence of characters was read from. -/
def ofGlyphs (rs : List Glyph) : Text := rs.flatMap (·.raw)

/-- Whether the text is well-formed UTF-8. -/
def isWellFormed (t : Text) : Bool :=
  (glyphs t).all fun r => !(r.char = replacement && r.raw.length = 1)

/-- Drops characters satisfying the test from both ends. -/
def trimBy (p : Char → Bool) (t : Text) : Text :=
  let rs := (glyphs t).dropWhile fun r => p r.char
  ofGlyphs (rs.reverse.dropWhile fun r => p r.char).reverse

/-- Drops characters satisfying the test from the start. -/
def trimStartBy (p : Char → Bool) (t : Text) : Text :=
  ofGlyphs ((glyphs t).dropWhile fun r => p r.char)

/-- Drops characters satisfying the test from the end. -/
def trimEndBy (p : Char → Bool) (t : Text) : Text :=
  ofGlyphs ((glyphs t).reverse.dropWhile fun r => p r.char).reverse

/-- Drops white space from both ends. -/
def trim (t : Text) : Text := trimBy isSpace t

/-- Applies a map to every character; a malformed byte becomes the replacement character, unless
the whole text is ASCII and nothing can be malformed. -/
def mapChars (f : Char → Char) (t : Text) : Text := (chars t).flatMap fun c => ofChar (f c)

/-- The text in upper case, character by character. -/
def upper (t : Text) : Text := mapChars upperChar t

/-- The text in lower case, character by character. -/
def lower (t : Text) : Text := mapChars lowerChar t

/-- The maximal runs of characters that fail the test. -/
def fieldsBy (sep : Char → Bool) (t : Text) : List Text :=
  let step := fun (r : Glyph) (acc : Text × List Text) =>
    if sep r.char then ([], if acc.1.isEmpty then acc.2 else acc.1 :: acc.2)
    else (r.raw ++ acc.1, acc.2)
  let (head, tail) := (glyphs t).foldr step ([], [])
  if head.isEmpty then tail else head :: tail

/-- The position of the first character satisfying the test, in bytes. -/
def indexBy (p : Char → Bool) (t : Text) : Option Nat :=
  let rec go (at_ : Nat) : List Glyph → Option Nat
    | [] => none
    | r :: rest => if p r.char then some at_ else go (at_ + r.raw.length) rest
  go 0 (glyphs t)

/-- Replaces the leftmost `limit` occurrences of `old` that do not overlap; without a limit, all of
them. An empty `old` stands before every character and at the end. -/
def replace (t old new : Text) (limit : Option Nat) : Text :=
  let rec betweenGlyphs (left : Option Nat) : List Glyph → Text
    | [] => if left = some 0 then [] else new
    | r :: rest =>
      if left = some 0 then r.raw ++ betweenGlyphs left rest
      else new ++ r.raw ++ betweenGlyphs (left.map (· - 1)) rest
  let rec occurrences (left : Option Nat) (skip : Nat) : Text → Text
    | [] => []
    | b :: rest =>
      match skip with
      | k + 1 => occurrences left k rest
      | 0 =>
        if left ≠ some 0 ∧ old.isPrefixOf (b :: rest) then
          new ++ occurrences (left.map (· - 1)) (old.length - 1) rest
        else b :: occurrences left 0 rest
  if old.isEmpty then betweenGlyphs limit (glyphs t) else occurrences limit 0 t

end Text
end LogSql
