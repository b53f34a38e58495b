import LogSql.Number.Decimal
import LogSql.Text.Quoted

/-!
Reading numbers. A reader names the text it refuses and says whether it is malformed or denotes a
number out of range; a floating point number out of range still has a value, an infinity.
-/
namespace LogSql.Number

/-- Why a text is not a number. -/
inductive Problem where
  | malformed
  | outOfRange
  deriving DecidableEq, Repr

/-- A refused text, with the reader that refused it. -/
structure Refusal where
  reader : Text
  text : Text
  problem : Problem
  deriving DecidableEq, Repr

namespace Problem

/-- What the problem is, in words. -/
def message : Problem → Text
  | malformed => "invalid syntax"
  | outOfRange => "value out of range"

end Problem

/-- The refusal in words. -/
def Refusal.message (r : Refusal) : Text :=
  "strconv." ++ r.reader ++ ": parsing " ++ Text.quote r.text ++ ": " ++ r.problem.message

/-- An optional sign and what follows it. -/
def splitSign (t : Text) : Bool × Text :=
  match t with
  | b :: rest =>
    if b = Text.byte '-' then (true, rest)
    else if b = Text.byte '+' then (false, rest)
    else (false, t)
  | [] => (false, [])

/-- Reads an optionally signed decimal integer of sixty-four bits. -/
def readInt (t : Text) : Except Problem Int :=
  let (negative, digits) := splitSign t
  if !Text.someAll Text.isDecimal digits then .error .malformed
  else
    let n : Int := Text.digitsValue digits
    let v := if negative then -n else n
    if Int64Range.fits v then .ok v else .error .outOfRange

/-- Reads an integer and names the reader in a refusal. -/
def integer (reader t : Text) : Except Refusal Int :=
  (readInt t).mapError fun p => ⟨reader, t, p⟩

/-- Whether underscores stand only between digits, or between a base mark and a digit. -/
def underscoresFit (t : Text) : Bool :=
  let (_, body) := splitSign t
  let mark : Text := match body with
    | a :: b :: _ => if a = Text.byte '0' then Text.asciiLower [b] else []
    | _ => []
  let marked : Bool := mark = ("b" : Text) || mark = ("o" : Text) || mark = ("x" : Text)
  let hex : Bool := mark = ("x" : Text)
  let rec go (afterDigit afterUnderscore : Bool) : Text → Bool
    | [] => !afterUnderscore
    | b :: rest =>
      if Text.isDecimal b ∨ (hex ∧ (Text.hexValue b).isSome) then go true false rest
      else if b = Text.byte '_' then afterDigit && go false true rest
      else !afterUnderscore && go false false rest
  if marked then go true false (body.drop 2) else go false false body

/-- The digits of a mantissa: their value, how many follow the point, and what is left. -/
structure Mantissa where
  value : Nat := 0
  digits : Nat := 0
  afterPoint : Nat := 0
  point : Bool := false
  underscore : Bool := false
  rest : Text := []
  deriving DecidableEq, Repr

/-- Reads mantissa digits of a base, underscores and at most one point. -/
def readMantissa (base : Nat) : Mantissa → Text → Mantissa
  | acc, [] => { acc with rest := [] }
  | acc, b :: rest =>
    if b = Text.byte '_' then readMantissa base { acc with underscore := true } rest
    else if b = Text.byte '.' then
      if acc.point then { acc with rest := b :: rest }
      else readMantissa base { acc with point := true } rest
    else
      match Text.hexValue b with
      | some d =>
        if d < base then
          readMantissa base
            { acc with
              value := acc.value * base + d
              digits := acc.digits + 1
              afterPoint := if acc.point then acc.afterPoint + 1 else 0 } rest
        else { acc with rest := b :: rest }
      | none => { acc with rest := b :: rest }

/-- The value of the digits of an exponent; as soon as it has five, further digits do not count. -/
def exponentValue (digits : Text) : Nat :=
  digits.foldl (fun n b => if n < 10000 then 10 * n + (b.toNat - 48) else n) 0

/-- Reads an exponent after its mark: the value, whether underscores occur, and what is left. -/
def readExponent (t : Text) : Option (Int × Bool × Text) :=
  let (negative, body) := splitSign t
  match body with
  | [] => none
  | b :: _ =>
    if !Text.isDecimal b then none
    else
      let run := body.takeWhile fun b => Text.isDecimal b || b = Text.byte '_'
      let n := exponentValue (run.filter Text.isDecimal)
      some (if negative then -(n : Int) else n, run.contains (Text.byte '_'),
        body.drop run.length)

/-- The number `± value * base ^ exponent`, and whether it is too large. Exponents far out of
reach are decided without computing the power. -/
def scaledFloat (negative : Bool) (value : Nat) (base : Nat) (exponent : Int) :
    Except Problem Binary64 :=
  if value = 0 then .ok (.zero negative)
  else
    let size : Int := (Nat.toDigits base value).length + exponent
    if 1200 < size then .error .outOfRange
    else if size < -1200 then .ok (.zero negative)
    else
      let x :=
        if 0 ≤ exponent then Binary64.ofRatio negative (value * Nat.pow base exponent.toNat) 1
        else Binary64.ofRatio negative value (Nat.pow base (-exponent).toNat)
      match x with
      | .infinite _ => .error .outOfRange
      | x => .ok x

/-- The names of the values that are not finite. -/
def special (t : Text) : Option Binary64 :=
  let (negative, body) := splitSign t
  let name := Text.asciiLower body
  if name = ("inf" : Text) ∨ name = ("infinity" : Text) then some (.infinite negative)
  else if Text.asciiLower t = ("nan" : Text) then some .nan
  else none

/-- Reads a floating point number in decimal or hexadecimal notation. -/
def readFloat (t : Text) : Except Problem Binary64 :=
  match special t with
  | some x => .ok x
  | none =>
    let (negative, body) := splitSign t
    let hex : Bool := match body with
      | a :: b :: _ :: _ => a = Text.byte '0' && Text.asciiLower [b] = ("x" : Text)
      | _ => false
    let m := readMantissa (if hex then 16 else 10) {} (if hex then body.drop 2 else body)
    if m.digits = 0 then .error .malformed
    else
      let tail : Option (Int × Bool × Text) :=
        match m.rest with
        | b :: rest =>
          if Text.asciiLower [b] = (if hex then ("p" : Text) else "e") then readExponent rest
          else if hex then none else some (0, false, m.rest)
        | [] => if hex then none else some (0, false, [])
      match tail with
      | none => .error .malformed
      | some (e, underscore, rest) =>
        if !rest.isEmpty then .error .malformed
        else if (m.underscore || underscore) && !underscoresFit t then .error .malformed
        else if hex then scaledFloat negative m.value 2 (e - 4 * m.afterPoint)
        else scaledFloat negative m.value 10 (e - m.afterPoint)

/-- Reads a floating point number and names the reader in a refusal. -/
def float (t : Text) : Except Refusal Binary64 :=
  (readFloat t).mapError fun p => ⟨"ParseFloat", t, p⟩

/-- Reads digits of a base one after the other, until one is out of place or the value leaves sixty-four
bits; underscores do not count. -/
def readDigits (base : Nat) : (value : Nat) → Text → Except Problem Nat
  | value, [] => .ok value
  | value, b :: rest =>
    if b = Text.byte '_' then readDigits base value rest
    else match Text.hexValue b with
      | some d =>
        if base ≤ d then .error .malformed
        else if 18446744073709551616 ≤ base * value + d then .error .outOfRange
        else readDigits base (base * value + d) rest
      | none => .error .malformed

/-- The base of an integer without its sign, and its digits: a zero at the start, with or without a
letter, marks another base than ten. -/
def markedDigits : Text → Nat × Text
  | 48 :: b :: c :: rest =>
    let mark := Text.asciiLower [b]
    if mark = ("b" : Text) then (2, c :: rest)
    else if mark = ("o" : Text) then (8, c :: rest)
    else if mark = ("x" : Text) then (16, c :: rest)
    else (8, b :: c :: rest)
  | 48 :: rest => (8, rest)
  | t => (10, t)

/-- Reads an optionally signed integer of sixty-four bits in any base. -/
def readMarked (t : Text) : Except Problem Int := do
  let (negative, body) := splitSign t
  if body.isEmpty then throw .malformed
  let (base, digits) := markedDigits body
  let n ← readDigits base 0 digits
  if t.elem (Text.byte '_') ∧ !underscoresFit t then throw .malformed
  let v : Int := if negative then -n else n
  if Int64Range.fits v then return v else throw .outOfRange

/-- Reads a truth value. -/
def readBool (t : Text) : Option Bool :=
  if t ∈ (["1", "t", "T", "TRUE", "true", "True"] : List String).map Text.ofString then some true
  else if t ∈ (["0", "f", "F", "FALSE", "false", "False"] : List String).map Text.ofString then
    some false
  else none

end LogSql.Number
