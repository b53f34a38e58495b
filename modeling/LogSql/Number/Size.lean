import LogSql.Number.Read

/-!
Sizes in bytes: a decimal number and a unit, decimal or binary, in any letter case.
-/
namespace LogSql.Number

/-- Why a text is no size. -/
inductive SizeError where
  | malformed (text : Text)
  | badNumber (text : Text) (r : Refusal)
  | badUnit (text : Text)
  deriving DecidableEq, Repr

/-- The error in words. -/
def SizeError.message : SizeError → Text
  | malformed t => "invalid size " ++ Text.quote t
  | badNumber t r => .concat ["invalid size ", Text.quote t, ": ", r.message]
  | badUnit t => "invalid size unit in " ++ Text.quote t

/-- The units by their lower case names, with the number of bytes each stands for. -/
def sizeUnits : List (Text × Nat) :=
  [("b", 1),
    ("kb", Nat.pow 10 3), ("mb", Nat.pow 10 6), ("gb", Nat.pow 10 9), ("tb", Nat.pow 10 12),
    ("pb", Nat.pow 10 15), ("eb", Nat.pow 10 18),
    ("kib", Nat.pow 2 10), ("mib", Nat.pow 2 20), ("gib", Nat.pow 2 30), ("tib", Nat.pow 2 40),
    ("pib", Nat.pow 2 50), ("eib", Nat.pow 2 60)]

/-- Splits a size where its unit starts: at the first character that is neither a digit nor a
point. -/
def splitSize (t : Text) : Text × Text :=
  let number := t.takeWhile fun b => Text.isDecimal b || b = Text.byte '.'
  (number, t.drop number.length)

/-- Reads a size in bytes. -/
def readSize (t : Text) : Except SizeError Binary64 :=
  let (number, unit) := splitSize t
  if number.isEmpty ∨ unit.isEmpty then .error (.malformed t)
  else
    match float number with
    | .error r => .error (.badNumber t r)
    | .ok x =>
      match sizeUnits.find? fun u => u.1 = Text.lower unit with
      | some u => .ok (x.mul (Binary64.ofRatio false u.2 1))
      | none => .error (.badUnit t)

end LogSql.Number
