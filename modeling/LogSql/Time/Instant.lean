import LogSql.Number.Read

/-!
Instants, in nanoseconds from the start of 1970, and their calendar notation
`2006-01-02T15:04:05.123Z` or with an offset instead of the `Z`.
-/
namespace LogSql

/-- A point in time, in nanoseconds from the start of 1970. -/
abbrev Instant := Int

namespace Instant

/-- The first instant of year one, which stands for a time that is not given. -/
def unset : Instant := -62135596800000000000

/-- The instant of a number of milliseconds. -/
def ofMillis (ms : Int) : Instant := ms * 1000000

/-- Whole milliseconds, rounded down. -/
def millis (t : Instant) : Int := t.fdiv 1000000

/-- Whether a year has a leap day. -/
def isLeap (year : Int) : Bool :=
  year % 4 = 0 && (year % 100 ≠ 0 || year % 400 = 0)

/-- The number of days of a month. -/
def daysIn (year : Int) (month : Nat) : Nat :=
  if month = 2 then (if isLeap year then 29 else 28)
  else if month ∈ [4, 6, 9, 11] then 30
  else 31

/-- Days from the start of 1970 to the first day of a month: months are counted from March, so
that the leap day is the last of its year, and years in cycles of four hundred. -/
def daysToMonth (year : Int) (month : Nat) : Int :=
  let y := if month ≤ 2 then year - 1 else year
  let m : Int := if month ≤ 2 then month + 9 else (month : Int) - 3
  let era := y.fdiv 400
  let yearOfEra := y - era * 400
  let dayOfYear := (153 * m + 2).fdiv 5
  era * 146097 + yearOfEra * 365 + yearOfEra.fdiv 4 - yearOfEra.fdiv 100 + dayOfYear - 719468

/-- A calendar date. -/
structure Date where
  year : Int
  month : Nat
  day : Nat
  deriving DecidableEq, Repr

/-- The date of a number of days from the start of 1970. -/
def dateOf (days : Int) : Date :=
  let z := days + 719468
  let era := z.fdiv 146097
  let doe := z - era * 146097
  let yoe := (doe - doe / 1460 + doe / 36524 - doe / 146096) / 365
  let doy := doe - (365 * yoe + yoe / 4 - yoe / 100)
  let mp := (5 * doy + 2) / 153
  let day := doy - (153 * mp + 2) / 5 + 1
  let month := if mp < 10 then mp + 3 else mp - 9
  let year := yoe + era * 400 + (if month ≤ 2 then 1 else 0)
  ⟨year, month.toNat, day.toNat⟩

/-- A value in at least `width` decimal digits. -/
def padded (width : Nat) (n : Nat) : Text :=
  let t := Text.ofNat n
  List.replicate (width - t.length) (Text.byte '0') ++ t

/-- The calendar notation in universal time; the fraction of the second has as many digits as it
needs. -/
def text (t : Instant) : Text :=
  let seconds := t.fdiv 1000000000
  let nanos := (t - seconds * 1000000000).toNat
  let days := seconds.fdiv 86400
  let rest := (seconds - days * 86400).toNat
  let date := dateOf days
  let fraction := ((padded 9 nanos).reverse.dropWhile (· = Text.byte '0')).reverse
  .concat [
    if date.year < 0 then "-" else [], padded 4 date.year.natAbs, "-", padded 2 date.month, "-",
    padded 2 date.day, "T", padded 2 (rest / 3600), ":", padded 2 (rest / 60 % 60), ":",
    padded 2 (rest % 60),
    if fraction.isEmpty then [] else Text.byte '.' :: fraction, "Z"]

/-- Reads exactly two digits. -/
def twoDigits : Text → Option (Nat × Text)
  | a :: b :: rest =>
    if Text.isDecimal a && Text.isDecimal b then some (Text.digitsValue [a, b], rest) else none
  | _ => none

/-- Reads two digits, or a single one. -/
def oneOrTwoDigits (t : Text) : Option (Nat × Text) :=
  match twoDigits t with
  | some r => some r
  | none =>
    match t with
    | a :: rest => if Text.isDecimal a then some (Text.digitsValue [a], rest) else none
    | [] => none

/-- Reads a separator. -/
def separator (c : Char) : Text → Option Text
  | b :: rest => if b = Text.byte c then some rest else none
  | [] => none

/-- Reads the fraction of a second after a point or comma: nanoseconds, further digits ignored. -/
def fractionOfSecond (t : Text) : Nat × Text :=
  match t with
  | p :: d :: rest =>
    if (p = Text.byte '.' || p = Text.byte ',') && Text.isDecimal d then
      let digits := d :: rest.takeWhile Text.isDecimal
      let kept := digits.take 9
      (Text.digitsValue kept * Nat.pow 10 (9 - kept.length), (d :: rest).drop digits.length)
    else (0, t)
  | _ => (0, t)

/-- Reads an offset from universal time, in seconds. -/
def offset : Text → Option (Int × Text)
  | b :: rest =>
    if b = Text.byte 'Z' then some (0, rest)
    else if b = Text.byte '+' ∨ b = Text.byte '-' then do
      let (h, rest) ← twoDigits rest
      let rest ← separator ':' rest
      let (m, rest) ← twoDigits rest
      if 24 < h ∨ 60 < m then none
      let seconds : Int := (h * 60 + m) * 60
      some (if b = Text.byte '-' then -seconds else seconds, rest)
    else none
  | [] => none

/-- The instant of a date and a time of day, when there are such. -/
def ofFields? (year month day hour minute second nanos : Nat) (shift : Int) : Option Instant :=
  if month < 1 ∨ 12 < month ∨ 24 ≤ hour ∨ 60 ≤ minute ∨ 60 ≤ second then none
  else if day < 1 ∨ daysIn year month < day then none
  else
    let days := daysToMonth year month + (day - 1 : Nat)
    let seconds : Int := days * 86400 + hour * 3600 + minute * 60 + second - shift
    some (seconds * 1000000000 + nanos)

/-- Reads a year of four digits. -/
def yearOf (t : Text) : Option (Nat × Text) :=
  let y := t.take 4
  if y.length < 4 ∨ !y.all Text.isDecimal then none else some (Text.digitsValue y, t.drop 4)

/-- Reads the calendar notation. -/
def read? (t : Text) : Option Instant := do
  let (year, rest) ← yearOf t
  let rest ← separator '-' rest
  let (month, rest) ← twoDigits rest
  let rest ← separator '-' rest
  let (day, rest) ← twoDigits rest
  let rest ← separator 'T' rest
  let (hour, rest) ← oneOrTwoDigits rest
  let rest ← separator ':' rest
  let (minute, rest) ← twoDigits rest
  let rest ← separator ':' rest
  let (second, rest) ← twoDigits rest
  let (nanos, rest) := fractionOfSecond rest
  let (shift, rest) ← offset rest
  if !rest.isEmpty then none
  ofFields? year month day hour minute second nanos shift

/-- Reads a date, or a date and a time of day, in which every field but the year may have a single
digit. A blank between the two leaves no room for an offset. -/
def readShort? (t : Text) : Option Instant := do
  let (year, rest) ← yearOf t
  let rest ← separator '-' rest
  let (month, rest) ← oneOrTwoDigits rest
  let rest ← separator '-' rest
  let (day, rest) ← oneOrTwoDigits rest
  match rest with
  | [] => ofFields? year month day 0 0 0 0 0
  | b :: rest =>
    if b ≠ Text.byte 'T' ∧ b ≠ Text.byte 't' ∧ b ≠ Text.byte ' ' then none
    let (hour, rest) ← oneOrTwoDigits rest
    let rest ← separator ':' rest
    let (minute, rest) ← oneOrTwoDigits rest
    let rest ← separator ':' rest
    let (second, rest) ← oneOrTwoDigits rest
    let (nanos, rest) := fractionOfSecond rest
    let (shift, rest) ← if b = Text.byte ' ' then some (0, rest) else offset rest
    if !rest.isEmpty then none
    ofFields? year month day hour minute second nanos shift

end Instant
end LogSql
