import LogSql.Number.Int64

/-!
Binary floating point numbers of 64 bits, with exact arithmetic: every operation computes the exact
rational result and rounds it once, to the nearest number, ties to the even mantissa.
-/
namespace LogSql

/-- A number: `finite neg m e` is `± m * 2 ^ e` with `m < 2 ^ 53`, `-1074 ≤ e`, and `2 ^ 52 ≤ m`
unless `e = -1074`. -/
inductive Binary64 where
  | nan
  | infinite (negative : Bool)
  | finite (negative : Bool) (mantissa : Nat) (exponent : Int)
  deriving DecidableEq, Repr

namespace Binary64

/-- Zero. -/
def zero (negative : Bool) : Binary64 := finite negative 0 (-1074)

/-- The fraction `m * 2 ^ e`, as numerator and denominator. -/
def scaled (m : Nat) (e : Int) : Nat × Nat :=
  if 0 ≤ e then (m * Nat.pow 2 e.toNat, 1) else (m, Nat.pow 2 (-e).toNat)

/-- The exponent of the greatest power of two not above `num / den`, both positive. -/
def floorLog2 (num den : Nat) : Int :=
  let e : Int := (Nat.log2 num : Int) - Nat.log2 den
  let (n, d) := if 0 ≤ e then (num, den * Nat.pow 2 e.toNat) else (num * Nat.pow 2 (-e).toNat, den)
  if n < d then e - 1 else e

/-- The quotient rounded to the nearest integer, a half to the even neighbour. -/
def roundDiv (num den : Nat) : Nat :=
  let q := num / den
  let r := num % den
  if 2 * r > den ∨ (2 * r = den ∧ q % 2 = 1) then q + 1 else q

/-- The number nearest to `± num / den`; too large a value becomes infinite. -/
def ofRatio (negative : Bool) (num den : Nat) : Binary64 :=
  if num = 0 then zero negative
  else
    let e := max (floorLog2 num den - 52) (-1074)
    let (n, d) := if 0 ≤ e then (num, den * Nat.pow 2 e.toNat) else (num * Nat.pow 2 (-e).toNat, den)
    let m := roundDiv n d
    let (m, e) := if m = Nat.pow 2 53 then (Nat.pow 2 52, e + 1) else (m, e)
    if 971 < e then infinite negative else finite negative m e

/-- The number nearest to an integer. -/
def ofInt (n : Int) : Binary64 := ofRatio (n < 0) n.natAbs 1

/-- The number with the given bit pattern. -/
def ofBits (bits : Nat) : Binary64 :=
  let negative := bits / Nat.pow 2 63 % 2 = 1
  let biased : Nat := bits / Nat.pow 2 52 % 2048
  let fraction : Nat := bits % Nat.pow 2 52
  if biased = 2047 then (if fraction = 0 then infinite negative else nan)
  else if biased = 0 then finite negative fraction (-1074)
  else finite negative (Nat.pow 2 52 + fraction) ((biased : Int) - 1075)

/-- Product. -/
def mul : Binary64 → Binary64 → Binary64
  | finite s m e, finite t n f =>
    let (num, den) := scaled (m * n) (e + f)
    ofRatio (s != t) num den
  | nan, _ => nan
  | _, nan => nan
  | infinite s, finite t n _ => if n = 0 then nan else infinite (s != t)
  | finite s m _, infinite t => if m = 0 then nan else infinite (s != t)
  | infinite s, infinite t => infinite (s != t)

/-- Quotient. -/
def div : Binary64 → Binary64 → Binary64
  | finite s m e, finite t n f =>
    if n = 0 then (if m = 0 then nan else infinite (s != t))
    else
      let (num, den) := scaled m (e - f)
      ofRatio (s != t) num (den * n)
  | nan, _ => nan
  | _, nan => nan
  | infinite s, finite t _ _ => infinite (s != t)
  | finite s _ _, infinite t => zero (s != t)
  | infinite _, infinite _ => nan

/-- The exact value of a finite number over the denominator `2 ^ 1074`. -/
def units (negative : Bool) (m : Nat) (e : Int) : Int :=
  let n : Int := (m * Nat.pow 2 (e + 1074).toNat : Nat)
  if negative then -n else n

/-- Sum; two opposite numbers add to the positive zero. -/
def add : Binary64 → Binary64 → Binary64
  | finite s m e, finite t n f =>
    if m = 0 ∧ n = 0 then zero (s && t)
    else
      let sum := units s m e + units t n f
      ofRatio (sum < 0) sum.natAbs (Nat.pow 2 1074)
  | nan, _ => nan
  | _, nan => nan
  | infinite s, infinite t => if s = t then infinite s else nan
  | infinite s, _ => infinite s
  | _, infinite t => infinite t

/-- Order; nothing is ordered with a NaN. -/
def compare? : Binary64 → Binary64 → Option Ordering
  | nan, _ => none
  | _, nan => none
  | infinite s, infinite t => some (if s = t then .eq else if s then .lt else .gt)
  | infinite s, _ => some (if s then .lt else .gt)
  | _, infinite t => some (if t then .gt else .lt)
  | finite s m e, finite t n f => some (compare (units s m e) (units t n f))

/-- Strictly below. -/
def lt (a b : Binary64) : Bool := compare? a b = some .lt

/-- At most. -/
def le (a b : Binary64) : Bool := compare? a b = some .lt || compare? a b = some .eq

/-- Equal as numbers; the two zeros are equal and a NaN equals nothing. -/
def eq (a b : Binary64) : Bool := compare? a b = some .eq

/-- The greatest integer at most the number, when it is finite. -/
def floor? : Binary64 → Option Int
  | finite s m e =>
    let (num, den) := scaled m e
    let n : Int := if s then -(num : Int) else num
    some (n.fdiv den)
  | _ => none

/-- The integer part, towards zero, when the number is finite. -/
def truncate? : Binary64 → Option Int
  | finite s m e =>
    let (num, den) := scaled m e
    let q : Int := (num / den : Nat)
    some (if s then -q else q)
  | _ => none

/-- Whether the number is finite and an integer. -/
def isInteger : Binary64 → Bool
  | finite _ m e => let (num, den) := scaled m e; num % den = 0
  | _ => false

/-- Whether the number has no fraction; the infinities have none. -/
def isWhole : Binary64 → Bool
  | infinite _ => true
  | x => x.isInteger

/-- The integer part as a sixty-four bit integer; what does not fit becomes the least one. -/
def toInt64 (x : Binary64) : Int :=
  match truncate? x with
  | some n => if Int64Range.fits n then n else Int64Range.least
  | none => Int64Range.least

end Binary64
end LogSql
