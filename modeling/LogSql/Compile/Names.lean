import LogSql.Text.Basic

/-!
Names for common table expressions. A name is a stem, an underscore and letters that count the names
of that stem: a, b, …, z, aa, ab, and so on.
-/
namespace LogSql.Compile

/-- The letters of a number below a bound. -/
def lettersTo : (bound : Nat) → Nat → Text
  | 0, _ => []
  | bound + 1, n =>
    let last := UInt8.ofNat (97 + n % 26)
    if n < 26 then [last] else lettersTo bound (n / 26 - 1) ++ [last]

/-- The letters that count a number. -/
def letters (n : Nat) : Text := lettersTo (n + 1) n

/-- How many names of each stem were given. -/
abbrev Names := List (Text × Nat)

namespace Names

/-- How many names of a stem were given. -/
def count (names : Names) (stem : Text) : Nat :=
  ((names.find? fun p => p.1 = stem).map (·.2)).getD 0

/-- A name that was not given before, and the names given now. -/
def fresh (names : Names) (stem : Text) : Text × Names :=
  let n := names.count stem
  (.concat [stem, "_", letters n], (stem, n + 1) :: names.filter fun p => p.1 ≠ stem)

end Names
end LogSql.Compile
