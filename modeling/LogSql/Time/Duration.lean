import LogSql.Number.Read

/-!
Durations, in nanoseconds. Two notations are in use: the clock notation of label filters, signed
and with fractions (`1h30m`, `-1.5s`), and the range notation of ranges, steps and settings, whole
numbers of units from years down to milliseconds (`1d12h`).
-/
namespace LogSql.Duration

/-- Quotes a refused duration: bytes outside ASCII and control bytes by their value. -/
def quoteBytes (t : Text) : Text :=
  let escape := fun (b : UInt8) =>
    if b < 0x20 ∨ 0x80 ≤ b then ("\\x" : Text) ++ Text.hexFixed 2 b.toNat
    else if b = Text.byte '"' ∨ b = Text.byte '\\' then [Text.byte '\\', b]
    else [b]
  [Text.byte '"'] ++ t.flatMap escape ++ [Text.byte '"']

/-- Why a text is not a duration in clock notation. -/
inductive ClockError where
  | malformed (text : Text)
  | missingUnit (text : Text)
  | unknownUnit (unit text : Text)
  deriving DecidableEq, Repr

/-- The error in words. -/
def ClockError.message : ClockError → Text
  | malformed t => "time: invalid duration " ++ quoteBytes t
  | missingUnit t => "time: missing unit in duration " ++ quoteBytes t
  | unknownUnit u t => "time: unknown unit " ++ quoteBytes u ++ " in duration " ++ quoteBytes t

/-- The units of the clock notation in nanoseconds; micro may be spelled with either letter mu. -/
def clockUnits : List (Text × Nat) :=
  [("ns", 1), ("us", 1000), ("µs", 1000), ("μs", 1000), ("ms", 1000000), ("s", 1000000000),
   ("m", 60000000000), ("h", 3600000000000)]

/-- Reads fraction digits: their value and how many of them count; once the value would leave the
sixty-four bit range, further digits are ignored. -/
def fractionDigits : (value count : Nat) → Text → Nat × Nat
  | value, count, [] => (value, count)
  | value, count, b :: rest =>
    let next := 10 * value + (b.toNat - 48)
    if value > 922337203685477580 ∨ next > 9223372036854775808 then (value, count)
    else fractionDigits next (count + 1) rest

/-- The nanoseconds of a fraction `value / 10 ^ count` of a unit, rounded as floating point
numbers do. -/
def fractionOf (value count unit : Nat) : Nat :=
  let scale := (List.replicate count ()).foldl (fun s _ => s.mul (.ofInt 10)) (Binary64.ofInt 1)
  let x := (Binary64.ofInt value).mul ((Binary64.ofInt unit).div scale)
  (x.truncate?.getD 0).toNat

/-- Half of the sixty-four bit range: no duration is longer. -/
def clockLimit : Nat := 9223372036854775808

/-- Reads terms of a number and a unit, adding up their nanoseconds. -/
def readTerms (whole : Text) : (fuel : Nat) → (total : Nat) → Text → Except ClockError Nat
  | _, total, [] => .ok total
  | 0, _, _ :: _ => .error (.malformed whole)
  | fuel + 1, total, b :: rest => do
    let t := b :: rest
    if !(b = Text.byte '.' || Text.isDecimal b) then throw (.malformed whole)
    let int := t.takeWhile Text.isDecimal
    let value := Text.digitsValue int
    if value > clockLimit then throw (.malformed whole)
    let t := t.drop int.length
    let pointed := t.head? = some (Text.byte '.')
    let fraction := if pointed then (t.drop 1).takeWhile Text.isDecimal else []
    if int.isEmpty && fraction.isEmpty then throw (.malformed whole)
    let t := if pointed then t.drop (1 + fraction.length) else t
    let unit := t.takeWhile fun b => !(b = Text.byte '.' || Text.isDecimal b)
    if unit.isEmpty then throw (.missingUnit whole)
    match clockUnits.lookup unit with
    | none => throw (.unknownUnit unit whole)
    | some size =>
      if value > clockLimit / size then throw (.malformed whole)
      let (f, count) := fractionDigits 0 0 fraction
      let nanos := value * size + (if f > 0 then fractionOf f count size else 0)
      if nanos > clockLimit then throw (.malformed whole)
      if total + nanos > clockLimit then throw (.malformed whole)
      readTerms whole fuel (total + nanos) (t.drop unit.length)

/-- Reads a duration in clock notation. -/
def readClock (t : Text) : Except ClockError Int := do
  let (negative, body) := Number.splitSign t
  if body = ("0" : Text) then return 0
  if body.isEmpty then throw (.malformed t)
  let nanos ← readTerms t body.length 0 body
  if negative then return -(nanos : Int)
  if nanos > clockLimit - 1 then throw (.malformed t)
  return nanos

/-- Seconds of a duration as a floating point number: whole seconds plus the fraction. -/
def seconds (nanos : Int) : Binary64 :=
  let whole := nanos.tdiv 1000000000
  let rest := nanos.tmod 1000000000
  (Binary64.ofInt whole).add ((Binary64.ofInt rest).div (.ofInt 1000000000))

/-- Whole milliseconds of a duration, towards zero. -/
def milliseconds (nanos : Int) : Int := nanos.tdiv 1000000

/-- A number of units in decimal notation, when `places` digits of it are a fraction; zeros at the
end of the fraction are left out. -/
def decimalText (value places : Nat) : Text :=
  let digits := Text.ofNat (value % Nat.pow 10 places)
  let padded := List.replicate (places - digits.length) (Text.byte '0') ++ digits
  let fraction := (padded.reverse.dropWhile (· = Text.byte '0')).reverse
  Text.ofNat (value / Nat.pow 10 places) ++
    (if places = 0 ∨ fraction.isEmpty then [] else Text.byte '.' :: fraction)

/-- A duration in hours, minutes and seconds; below a second in the largest unit that fits. -/
def text (nanos : Int) : Text :=
  let n := nanos.natAbs
  let sign : Text := if nanos < 0 then "-" else ""
  if n = 0 then "0s"
  else if n < 1000 then .concat [sign, decimalText n 0, "ns"]
  else if n < 1000000 then .concat [sign, decimalText n 3, "µs"]
  else if n < 1000000000 then .concat [sign, decimalText n 6, "ms"]
  else
    let minutes := n / 60000000000
    let hours := minutes / 60
    .concat [sign, if hours = 0 then [] else Text.ofNat hours ++ "h",
      if minutes = 0 then [] else Text.ofNat (minutes % 60) ++ "m",
      decimalText (n % 60000000000) 9, "s"]

/-- Why a text is not a duration in range notation. -/
inductive RangeError where
  | empty
  | malformed (text : Text)
  | unknownUnit (unit text : Text)
  | outOfRange
  deriving DecidableEq, Repr

/-- The error in words. -/
def RangeError.message : RangeError → Text
  | empty => "empty duration string"
  | malformed t => "not a valid duration string: " ++ Text.quote t
  | unknownUnit u t => "unknown unit " ++ Text.quote u ++ " in duration " ++ Text.quote t
  | outOfRange => "duration out of range"

/-- The units of the range notation from the largest down, in nanoseconds. -/
def rangeUnits : List (Text × Nat) :=
  [("y", 31536000000000000), ("w", 604800000000000), ("d", 86400000000000), ("h", 3600000000000),
   ("m", 60000000000), ("s", 1000000000), ("ms", 1000000)]

/-- Reads terms whose units get smaller; `units` are those still allowed. -/
def readRangeTerms (whole : Text) :
    (fuel : Nat) → (units : List (Text × Nat)) → (total : Nat) → Text → Except RangeError Nat
  | _, _, total, [] => .ok total
  | 0, _, _, _ :: _ => .error (.malformed whole)
  | fuel + 1, units, total, b :: rest => do
    let t := b :: rest
    let digits := t.takeWhile Text.isDecimal
    if digits.isEmpty then throw (.malformed whole)
    let value := Text.digitsValue digits
    if value ≥ 18446744073709551616 then throw (.malformed whole)
    let t := t.drop digits.length
    let unit := t.takeWhile fun b => !Text.isDecimal b
    if unit.isEmpty then throw (.malformed whole)
    match rangeUnits.lookup unit with
    | none => throw (.unknownUnit unit whole)
    | some size =>
      if (units.lookup unit).isNone then throw (.malformed whole)
      if value > clockLimit / size then throw .outOfRange
      if total + value * size > clockLimit - 1 then throw .outOfRange
      let smaller := (units.dropWhile fun u => u.1 ≠ unit).drop 1
      readRangeTerms whole fuel smaller (total + value * size) (t.drop unit.length)

/-- Reads a duration in range notation; a zero needs no unit. -/
def readRange (t : Text) : Except RangeError Int :=
  if t = ("0" : Text) then .ok 0
  else if t.isEmpty then .error .empty
  else do return (← readRangeTerms t t.length rangeUnits 0 t)

end LogSql.Duration
