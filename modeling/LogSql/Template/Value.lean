import LogSql.Labels
import LogSql.Number.Read

/-!
The values that a template computes with, and the numbers written in it.
-/
namespace LogSql.Template

/-- A value; a missing one is a value too. -/
inductive Value where
  | missing
  | text (t : Text)
  | int (n : Int)
  /-- One byte of a text. -/
  | byte (b : UInt8)
  | float (x : Binary64)
  | complex (re im : Binary64)
  | bool (b : Bool)
  /-- A table of texts by name. -/
  | table (entries : Labels)
  deriving DecidableEq, Repr

namespace Value

/-- The name of a value's type in diagnostics. -/
def typeName : Value → Text
  | missing => "<nil>"
  | text _ => "string"
  | int _ => "int"
  | byte _ => "uint8"
  | float _ => "float64"
  | complex _ _ => "complex128"
  | bool _ => "bool"
  | table _ => "map[string]string"

/-- Whether a value counts as true: not missing, not zero and not empty. -/
def isTrue : Value → Bool
  | missing => false
  | text t => !t.isEmpty
  | int n => n ≠ 0
  | byte b => b ≠ 0
  | float x => !x.eq (.zero false)
  | complex re im => !(re.eq (.zero false) && im.eq (.zero false))
  | bool b => b
  | table entries => !entries.isEmpty

end Value

/-- A number literal: its value, unless an integer does not fit, and the integer it stands for
where an integer is asked for. -/
structure Literal where
  value : Option Value
  int? : Option Int
  deriving DecidableEq, Repr

namespace Literal

/-- The integer equal to a floating point number. -/
def exactInt (x : Binary64) : Option Int :=
  if x.isInteger then
    match x.truncate? with
    | some n => if Int64Range.fits n then some n else none
    | none => none
  else none

/-- The digits of a natural number in a base, with underscores allowed. -/
def digitsIn (base : Nat) (t : Text) : Option Nat :=
  t.foldl (fun acc b => do
    let n ← acc
    if b = Text.byte '_' then some n
    else
      let d ← Text.hexValue b
      if d < base then some (n * base + d) else none) (some 0)

/-- A natural number with an optional base mark; a leading zero marks base eight. -/
def natural (t : Text) : Option Nat :=
  if t.contains "_" && !Number.underscoresFit t then none
  else match t with
  | [] => none
  | zero :: rest =>
    if zero ≠ Text.byte '0' then digitsIn 10 t
    else
      match rest with
      | mark :: digits =>
        if digits.isEmpty then digitsIn 8 rest
        else if Text.asciiLower [mark] = ("b" : Text) then digitsIn 2 digits
        else if Text.asciiLower [mark] = ("o" : Text) then digitsIn 8 digits
        else if Text.asciiLower [mark] = ("x" : Text) then digitsIn 16 digits
        else digitsIn 8 rest
      | [] => some 0

/-- A complex constant, which is an integer too when it has no imaginary part. -/
def ofComplex (re im : Binary64) : Literal :=
  ⟨some (.complex re im), if im.eq (.zero false) then exactInt re else none⟩

/-- Whether the spelling is that of a floating point number. -/
def looksFloat (t : Text) : Bool := t.any fun b => (Text.ofString ".eEpP").elem b

/-- Whether the spelling is that of a hexadecimal integer. -/
def looksHex : Text → Bool
  | zero :: mark :: rest =>
    zero = Text.byte '0' && Text.asciiLower [mark] = ("x" : Text) && !rest.isEmpty &&
      !(rest.any fun b => (Text.ofString "pP").elem b)
  | _ => false

/-- The literal of a spelling with digits. -/
def ofNumber (t : Text) : Option Literal :=
  let imaginary : Option Literal :=
    if t.getLast? = some (Text.byte 'i') then
      match Number.readFloat t.dropLast with
      | .ok x => some (ofComplex (.zero false) x)
      | .error _ => none
    else none
  match imaginary with
  | some l => some l
  | none =>
    let (negative, body) := Number.splitSign t
    let int? := (natural body).bind fun n =>
      let v : Int := if negative then -(n : Int) else n
      if Int64Range.fits v then some v else none
    let fitsWord : Bool := match natural t with
      | some n => n < Nat.pow 2 64
      | none => false
    match int? with
    | some n =>
      if looksFloat t && !looksHex t then some ⟨some (.float (Binary64.ofInt n)), some n⟩
      else some ⟨some (.int n), some n⟩
    | none =>
      if fitsWord then some ⟨none, none⟩
      else
        match Number.readFloat t with
        | .ok x => if looksFloat t then some ⟨some (.float x), exactInt x⟩ else none
        | .error _ => none

/-- The literal of a character constant with its quotes: the number of the character. -/
def ofCharacter : Text → Option Literal
  | [] => none
  | quote :: body => do
    let (value, width) ← Text.unescape quote body
    if body.drop width ≠ [quote] then none
    let code : Nat := match value with
      | [b] => b.toNat
      | _ => ((Text.chars value).headD Text.replacement).toNat
    some ⟨some (.int code), some code⟩

/-- The literal of two numbers of which the second is imaginary. -/
def ofPair (t : Text) : Option Literal :=
  let rec split (acc : Text) : Text → Option (Text × Text)
    | [] => none
    | b :: rest =>
      let afterMark : Bool := match acc with
        | c :: _ => (Text.ofString "eEpP").elem c
        | [] => true
      if (b = Text.byte '+' ∨ b = Text.byte '-') ∧ !afterMark then some (acc.reverse, b :: rest)
      else split (b :: acc) rest
  match split [] t with
  | none => none
  | some (re, im) =>
    match Number.readFloat re, Number.readFloat im.dropLast with
    | .ok re, .ok im => some (ofComplex re im)
    | _, _ => none

end Literal
end LogSql.Template
