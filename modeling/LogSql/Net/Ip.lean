import LogSql.Text.Basic

/-!
Internet addresses. One of sixteen bytes that stands for an address of four bytes is that address.
-/
namespace LogSql

/-- An address of four bytes, or of eight groups of sixteen bits. -/
inductive Ip where
  | v4 (bytes : List Nat)
  | v6 (groups : List Nat)
  deriving DecidableEq, Repr

namespace Ip

/-- One byte in decimal notation without leading zeros. -/
def byte? (t : Text) : Option Nat :=
  if !Text.someAll Text.isDecimal t || 3 < t.length || (1 < t.length && t.head? = some (Text.byte '0'))
  then none
  else
    let n := Text.digitsValue t
    if n ≤ 255 then some n else none

/-- Four bytes with points between them. -/
def bytes? (t : Text) : Option (List Nat) :=
  let parts := Text.splitByte (Text.byte '.') t
  if parts.length = 4 then parts.mapM byte? else none

/-- One group of up to four hexadecimal digits. -/
def group? (t : Text) : Option Nat :=
  if t.isEmpty || 4 < t.length then none
  else t.foldlM (fun n b => (Text.hexValue b).map fun d => 16 * n + d) 0

/-- The groups between colons; the last place may hold the notation of four bytes, which is two groups,
where `closing`. -/
def groups? (closing : Bool) : List Text → Option (List Nat)
  | [] => some []
  | [t] =>
    match closing, bytes? t with
    | true, some [a, b, c, d] => some [256 * a + b, 256 * c + d]
    | _, _ => (group? t).map fun n => [n]
  | t :: rest => do
    let n ← group? t
    let more ← groups? closing rest
    return n :: more

/-- The groups of a text; none when it is empty. -/
def part? (closing : Bool) (t : Text) : Option (List Nat) :=
  if t.isEmpty then some [] else groups? closing (Text.splitByte (Text.byte ':') t)

/-- Eight groups, of which a run of zeros may be left out once. -/
def sixteen? (t : Text) : Option (List Nat) :=
  match Text.cut "::" t with
  | none => do
    let groups ← part? true t
    if groups.length = 8 then some groups else none
  | some (head, tail) => do
    let before ← part? false head
    let after ← part? true tail
    let given := before.length + after.length
    if given < 8 then some (before ++ List.replicate (8 - given) 0 ++ after) else none

/-- The address of eight groups. -/
def ofGroups : List Nat → Ip
  | [0, 0, 0, 0, 0, 0xFFFF, a, b] => v4 [a / 256, a % 256, b / 256, b % 256]
  | groups => v6 groups

/-- Reads an address. -/
def read? (t : Text) : Option Ip :=
  if t.elem (Text.byte ':') then (sixteen? t).map ofGroups else (bytes? t).map v4

/-- The length of the run of zeros at the start. -/
def zerosAhead (groups : List Nat) : Nat := (groups.takeWhile (· = 0)).length

/-- Place and length of the first longest run of zeros. -/
def longestRun : (index : Nat) → List Nat → Nat × Nat
  | _, [] => (0, 0)
  | i, g :: rest =>
    let here := zerosAhead (g :: rest)
    let later := longestRun (i + 1) rest
    if later.2 ≤ here then (i, here) else later

/-- A group without leading zeros. -/
def groupText (n : Nat) : Text := (Nat.toDigits 16 n).map Text.byte

/-- The notation of an address; a run of two zero groups or more is left out. -/
def text : Ip → Text
  | v4 bytes => Text.join "." (bytes.map Text.ofNat)
  | v6 groups =>
    let (start, length) := longestRun 0 groups
    let join := fun (gs : List Nat) => Text.join ":" (gs.map groupText)
    if length < 2 then join groups
    else .concat [join (groups.take start), "::", join (groups.drop (start + length))]

end Ip
end LogSql
