import LogSql.Text.Basic

/-!
Texts in the base 64 alphabet that is safe in URLs, without padding.
-/
namespace LogSql.Auth

/-- The alphabet. -/
def alphabet : Text := "ABCDEFGHIJKLMNOPQRSTUVWXYZabcdefghijklmnopqrstuvwxyz0123456789-_"

/-- The letter of a number below sixty-four. -/
def letter (n : Nat) : UInt8 := alphabet.getD (n % 64) 65

/-- Three bytes become four letters; what is left at the end becomes two or three. -/
def encode64 : Text → Text
  | a :: b :: c :: rest =>
    let n := a.toNat * 65536 + b.toNat * 256 + c.toNat
    letter (n / 262144) :: letter (n / 4096) :: letter (n / 64) :: letter n :: encode64 rest
  | [a, b] =>
    let n := a.toNat * 1024 + b.toNat * 4
    [letter (n / 4096), letter (n / 64), letter n]
  | [a] => [letter (a.toNat / 4), letter (a.toNat * 16)]
  | [] => []

/-- The number of a letter. -/
def letterValue (b : UInt8) : Option Nat := alphabet.findIdx? (· = b)

/-- The bytes of letter values. Bits that fill no byte are dropped. -/
def bytesOfValues : List Nat → Option Text
  | a :: b :: c :: d :: rest => do
    let n := a * 262144 + b * 4096 + c * 64 + d
    let more ← bytesOfValues rest
    some (UInt8.ofNat (n / 65536) :: UInt8.ofNat (n / 256) :: UInt8.ofNat n :: more)
  | [a, b, c] =>
    let n := a * 4096 + b * 64 + c
    some [UInt8.ofNat (n / 1024), UInt8.ofNat (n / 4)]
  | [a, b] => some [UInt8.ofNat ((a * 64 + b) / 16)]
  | [_] => none
  | [] => some []

/-- Reads letters; line breaks between them do not count. -/
def decode64? (t : Text) : Option Text := do
  let values ← (t.filter fun b => b ≠ 10 ∧ b ≠ 13).mapM letterValue
  bytesOfValues values

end LogSql.Auth
