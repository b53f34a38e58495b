/-!
Texts are byte sequences. Queries, log lines and templates come from outside and need not be
well-formed UTF-8, so nothing here assumes it; characters are read from the bytes when a rule asks
for them.
-/
namespace LogSql

/-- A text is its bytes. -/
abbrev Text := List UInt8

namespace Text

instance : LawfulBEq Text := inferInstanceAs (LawfulBEq (List UInt8))

/-- The UTF-8 bytes of a character. -/
def ofChar (c : Char) : Text := String.utf8EncodeChar c

/-- The UTF-8 bytes of a string. -/
def ofString (s : String) : Text := s.toList.flatMap ofChar

instance : Coe String Text := ⟨ofString⟩

/-- The UTF-8 bytes of a character sequence. -/
def ofChars (cs : List Char) : Text := cs.flatMap ofChar

/-- The texts one after the other. -/
def concat (ts : List Text) : Text := ts.flatten

/-- The byte of an ASCII character. -/
def byte (c : Char) : UInt8 := UInt8.ofNat c.toNat

/-- Decimal notation of a natural number. -/
def ofNat (n : Nat) : Text := (Nat.toDigits 10 n).map byte

/-- Decimal notation of an integer. -/
def ofInt (n : Int) : Text :=
  if n < 0 then byte '-' :: ofNat n.natAbs else ofNat n.natAbs

/-- The texts one after the other, `sep` between each two. -/
def join (sep : Text) : List Text → Text
  | [] => []
  | [t] => t
  | t :: rest => t ++ sep ++ join sep rest

/-- What stands after `head`, when the text starts with it. -/
def stripStart (head t : Text) : Option Text :=
  if head.isPrefixOf t then some (t.drop head.length) else none

/-- What stands before `tail`, when the text ends with it. -/
def stripEnd (tail t : Text) : Option Text :=
  if tail.isSuffixOf t then some (t.take (t.length - tail.length)) else none

/-- Cuts at the first occurrence of `sep`: what stands before it and what stands after it. -/
def cut (sep : Text) : Text → Option (Text × Text)
  | [] => if sep.isEmpty then some ([], []) else none
  | b :: rest =>
    if sep.isPrefixOf (b :: rest) then some ([], (b :: rest).drop sep.length)
    else (cut sep rest).map fun r => (b :: r.1, r.2)

/-- Whether `part` occurs in the text. -/
def contains (t part : Text) : Bool := (cut part t).isSome

/-- Splits at every occurrence of the byte; there is always one piece more than occurrences. -/
def splitByte (sep : UInt8) : Text → List Text
  | [] => [[]]
  | b :: rest =>
    if b = sep then [] :: splitByte sep rest
    else match splitByte sep rest with
      | [] => [[b]]
      | piece :: pieces => (b :: piece) :: pieces

/-- The order of texts by their bytes. -/
def lt (a b : Text) : Bool :=
  match a, b with
  | [], [] => false
  | [], _ :: _ => true
  | _ :: _, [] => false
  | x :: xs, y :: ys => if x = y then lt xs ys else x < y

/-- The text as a string, when it is well-formed UTF-8. -/
def toString? (t : Text) : Option String := String.fromUTF8? ⟨t.toArray⟩

/-- Whether every byte satisfies the test and there is at least one. -/
def someAll (p : UInt8 → Bool) (t : Text) : Bool := !t.isEmpty && t.all p

/-- An ASCII decimal digit. -/
def isDecimal (b : UInt8) : Bool := byte '0' ≤ b && b ≤ byte '9'

/-- An ASCII letter. -/
def isAlpha (b : UInt8) : Bool :=
  (byte 'a' ≤ b && b ≤ byte 'z') || (byte 'A' ≤ b && b ≤ byte 'Z')

/-- A byte that may start a name: an ASCII letter or the underscore. -/
def isNameStart (b : UInt8) : Bool := isAlpha b || b = byte '_'

/-- A byte that may continue a name. -/
def isNamePart (b : UInt8) : Bool := isNameStart b || isDecimal b

/-- Names: an ASCII letter or underscore, then letters, digits and underscores. -/
def isName : Text → Bool
  | [] => false
  | b :: rest => isNameStart b && rest.all isNamePart

/-- The value of a string of ASCII decimal digits. -/
def digitsValue (t : Text) : Nat := t.foldl (fun n b => 10 * n + (b.toNat - 48)) 0

/-- The value of an ASCII hexadecimal digit. -/
def hexValue (b : UInt8) : Option Nat :=
  if isDecimal b then some (b.toNat - 48)
  else if byte 'a' ≤ b && b ≤ byte 'f' then some (b.toNat - 87)
  else if byte 'A' ≤ b && b ≤ byte 'F' then some (b.toNat - 55)
  else none

/-- Lower case hexadecimal digit of a number below sixteen. -/
def hexDigit (n : Nat) : UInt8 := UInt8.ofNat (if n < 10 then 48 + n else 87 + n)

/-- Lower case hexadecimal notation with exactly `width` digits. -/
def hexFixed : Nat → Nat → Text
  | 0, _ => []
  | width + 1, n => hexFixed width (n / 16) ++ [hexDigit (n % 16)]

/-- The bytes of a text, two lower case hexadecimal digits each. -/
def hex (t : Text) : Text := t.flatMap fun b => hexFixed 2 b.toNat

/-- The text whose bytes are written two hexadecimal digits each; a character that is no digit counts
as a zero and an odd last digit is dropped. -/
def ofHex : Text → Text
  | a :: b :: rest => UInt8.ofNat (16 * (hexValue a).getD 0 + (hexValue b).getD 0) :: ofHex rest
  | _ => []

/-- ASCII letters in lower case, every other byte as it is. -/
def asciiLower (t : Text) : Text :=
  t.map fun b => if byte 'A' ≤ b && b ≤ byte 'Z' then b + 32 else b

end Text
end LogSql
