import LogSql.Auth.Sha256
import LogSql.Certificate.Pem

/-!
Private keys in the common container: a version, the identifier of an algorithm and the bytes of the
key.
-/
namespace LogSql

/-- The algorithms of keys. -/
inductive Algorithm where
  | curve
  | edwards
  | exchange
  | modulus
  deriving DecidableEq, Repr

namespace Algorithm

/-- The bytes of the identifier of an algorithm. -/
def identifier : Algorithm → Text
  | curve => [0x2A, 0x86, 0x48, 0xCE, 0x3D, 0x02, 0x01]
  | edwards => [0x2B, 0x65, 0x70]
  | exchange => [0x2B, 0x65, 0x6E]
  | modulus => [0x2A, 0x86, 0x48, 0x86, 0xF7, 0x0D, 0x01, 0x01, 0x01]

/-- All algorithms. -/
def all : List Algorithm := [curve, edwards, exchange, modulus]

/-- The name of the keys of an algorithm in messages. -/
def keyName : Algorithm → Text
  | curve => "*ecdsa.PrivateKey"
  | edwards => "ed25519.PrivateKey"
  | exchange => "*ecdh.PrivateKey"
  | modulus => "*rsa.PrivateKey"

end Algorithm

/-- A private key. -/
structure PrivateKey where
  algorithm : Algorithm
  bytes : Text
  deriving DecidableEq, Repr

/-- The length of an element: one byte below 128, else the number of bytes and the bytes. -/
def Der.lengthText (n : Nat) : Text :=
  if n < 128 then [UInt8.ofNat n]
  else if n < 256 then [0x81, UInt8.ofNat n]
  else [0x82, UInt8.ofNat (n / 256), UInt8.ofNat n]

/-- An element of tagged bytes. -/
def Der.element (tag : UInt8) (content : Text) : Text := tag :: Der.lengthText content.length ++ content

/-- Reads a length. -/
def Der.length? : Text → Option (Nat × Text)
  | b :: rest =>
    if b < 128 then some (b.toNat, rest)
    else
      let count := b.toNat - 128
      if count = 0 ∨ 4 < count ∨ rest.length < count then none
      else some ((rest.take count).foldl (fun n b => 256 * n + b.toNat) 0, rest.drop count)
  | [] => none

/-- Reads an element with a tag: its content and what follows. -/
def Der.read? (tag : UInt8) : Text → Option (Text × Text)
  | b :: rest => do
    if b ≠ tag then none
    let (n, rest) ← Der.length? rest
    if rest.length < n then none
    some (rest.take n, rest.drop n)
  | [] => none

namespace PrivateKey

/-- The curve on which keys are made. -/
def curveName : Text := [0x2A, 0x86, 0x48, 0xCE, 0x3D, 0x03, 0x01, 0x07]

/-- The container of a key. -/
def container (k : PrivateKey) : Text :=
  let parameters := if k.algorithm = .curve then Der.element 6 curveName else []
  Der.element 0x30 (.concat [Der.element 2 [0],
    Der.element 0x30 (Der.element 6 k.algorithm.identifier ++ parameters), Der.element 4 k.bytes])

/-- Reads a container. -/
def ofContainer? (t : Text) : Option PrivateKey := do
  let (whole, _) ← Der.read? 0x30 t
  let (_, rest) ← Der.read? 2 whole
  let (chosen, rest) ← Der.read? 0x30 rest
  let (identifier, _) ← Der.read? 6 chosen
  let (bytes, _) ← Der.read? 4 rest
  let algorithm ← Algorithm.all.find? fun a => a.identifier = identifier
  return ⟨algorithm, bytes⟩

/-- What identifies the public half of a key. -/
def publicPart (k : PrivateKey) : Text := Text.hex (Auth.sha256 k.bytes)

/-- The type of blocks that hold keys. -/
def blockType : Text := "PRIVATE KEY"

/-- The text of a key. -/
def text (k : PrivateKey) : Text := Pem.armour blockType k.container

end PrivateKey
end LogSql
