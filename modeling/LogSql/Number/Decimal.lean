import LogSql.Number.Binary64
import LogSql.Text.Basic

/-!
Decimal notation of floating point numbers: the fewest digits that read back as the same number, and
of those the nearest, laid out in one of three ways.
-/
namespace LogSql

/-- A positive decimal number: `digits` has no trailing zero, and the value is
`0.d₁d₂… * 10 ^ point`. Zero has no digits. -/
structure Decimal where
  digits : List Nat
  point : Int
  deriving DecidableEq, Repr

namespace Decimal

/-- Decimal digits of a natural number, most significant first; zero has none. -/
def digitsOf (n : Nat) : List Nat :=
  if n = 0 then [] else (Nat.toDigits 10 n).map fun c => c.toNat - 48

/-- The exponent of the greatest power of ten not above `num / den`, both positive. -/
def floorLog10 (num den : Nat) : Int :=
  if den ≤ num then ((digitsOf (num / den)).length : Int) - 1
  else
    let width := (digitsOf (den / num)).length
    if den ≤ num * Nat.pow 10 (width - 1) then -((width - 1 : Nat) : Int) else -(width : Int)

/-- The integer `n` with its last digit at `10 ^ e`, without trailing zeros. -/
def ofScaled (n : Nat) (e : Int) : Decimal :=
  let ds := digitsOf n
  let kept := (ds.reverse.dropWhile (· = 0)).reverse
  ⟨kept, if kept.isEmpty then 0 else e + ds.length⟩

/-- Whether the decimal `n * 10 ^ e` lies in the interval of reals that round to the number, whose
ends are `lo / den` and `hi / den` and belong to it when `closed`. -/
def readsBack (lo hi den : Nat) (closed : Bool) (n : Nat) (e : Int) : Bool :=
  let (a, b) := if 0 ≤ e then (n * Nat.pow 10 e.toNat, 1) else (n, Nat.pow 10 (-e).toNat)
  let x := a * den
  if closed then lo * b ≤ x && x ≤ hi * b else lo * b < x && x < hi * b

/-- The candidate with `count` digits, if one of the two neighbours on that grid reads back: the
nearer one, and on a tie the one with an even last digit. -/
def candidate (num lo hi den : Nat) (closed : Bool) (top : Int) (count : Nat) :
    Option (Nat × Int) :=
  let e := top - count + 1
  let (a, b) := if 0 ≤ e then (num, den * Nat.pow 10 e.toNat) else (num * Nat.pow 10 (-e).toNat, den)
  let below := a / b
  let rest := a % b
  let downOk := readsBack lo hi den closed below e
  let upOk := readsBack lo hi den closed (below + 1) e
  if downOk ∧ (¬ upOk ∨ 2 * rest < b ∨ (2 * rest = b ∧ below % 2 = 0)) then some (below, e)
  else if upOk then some (below + 1, e)
  else none

/-- The shortest decimal that rounds to `m * 2 ^ e`. -/
def shortest (m : Nat) (e : Int) : Decimal :=
  if m = 0 then ⟨[], 0⟩
  else
    let (num, den) := Binary64.scaled (4 * m) (e - 2)
    let (unit, _) := Binary64.scaled 1 (e - 2)
    let step := unit
    let lo := if m = Nat.pow 2 52 ∧ -1074 < e then num - step else num - 2 * step
    let hi := num + 2 * step
    let top := floorLog10 num den
    let closed := m % 2 = 0
    match (List.range 17).findSome? fun k => candidate num lo hi den closed top (k + 1) with
    | some (n, e) => ofScaled n e
    | none => ofScaled (num / den) 0

/-- A digit as text. -/
def digit (d : Nat) : UInt8 := UInt8.ofNat (48 + d)

/-- Plain notation, with a point only when a fraction follows. -/
def positional (x : Decimal) : Text :=
  let ds := x.digits.map digit
  let whole : Text :=
    if x.point ≤ 0 then "0"
    else
      let n := x.point.toNat
      ds.take n ++ List.replicate (n - ds.length) (Text.byte '0')
  let fraction : Text :=
    if x.point ≤ 0 then
      if ds.isEmpty then [] else List.replicate (-x.point).toNat (Text.byte '0') ++ ds
    else ds.drop x.point.toNat
  if fraction.isEmpty then whole else whole ++ [Text.byte '.'] ++ fraction

/-- Scientific notation: one digit, a point when more follow, the signed exponent with at least
`width` digits. -/
def scientific (width : Nat) (x : Decimal) : Text :=
  let ds := x.digits.map digit
  let lead : Text := match ds with
    | [] => "0"
    | [d] => [d]
    | d :: rest => d :: Text.byte '.' :: rest
  let e := if ds.isEmpty then 0 else x.point - 1
  let size := Text.ofNat e.natAbs
  lead ++ [Text.byte 'e', if e < 0 then Text.byte '-' else Text.byte '+'] ++
    List.replicate (width - size.length) (Text.byte '0') ++ size

end Decimal

namespace Binary64

/-- Writes a number with a layout for its decimal digits. -/
def render (layout : Decimal → Text) : Binary64 → Text
  | nan => "NaN"
  | infinite negative => if negative then "-Inf" else "+Inf"
  | finite negative m e =>
    let body := layout (Decimal.shortest m e)
    if negative then Text.byte '-' :: body else body

/-- The general notation: scientific below `10 ^ -4` and from `10 ^ 6` on, plain in between. -/
def general : Binary64 → Text :=
  render fun x =>
    let e := x.point - 1
    if ¬ x.digits.isEmpty ∧ (e < -4 ∨ 6 ≤ e) then x.scientific 2 else x.positional

/-- Plain notation whatever the size. -/
def plain : Binary64 → Text := render Decimal.positional

/-- The notation of JSON documents: scientific below `10 ^ -6` and from `10 ^ 21` on, with the
exponent in as few digits as possible when it is negative. -/
def interchange : Binary64 → Text :=
  render fun x =>
    let e := x.point - 1
    if ¬ x.digits.isEmpty ∧ (e < -6 ∨ 21 ≤ e) then
      x.scientific (if e < 0 then 1 else 2)
    else x.positional

end Binary64
end LogSql
