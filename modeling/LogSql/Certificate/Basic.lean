import LogSql.Certificate.Key
import LogSql.Json.Fields
import LogSql.Json.Reader
import LogSql.Json.Writer
import LogSql.Net.Ip

/-!
Certificates: who has a key, who says so, and what for.
-/
namespace LogSql

/-- What a key may be used for. -/
inductive KeyUsage where
  | signature
  | certificates
  | revocations
  deriving DecidableEq, Repr

/-- The bit of a usage. -/
def KeyUsage.bit : KeyUsage → Nat
  | signature => 1
  | certificates => 32
  | revocations => 64

/-- Whom a certificate identifies; other codes are not in use. -/
inductive Purpose where
  | server
  | client
  | other (code : Nat)
  deriving DecidableEq, Repr

/-- A certificate. -/
structure Certificate where
  subject : Text
  organization : Text := "blazeql"
  issuer : Text
  /-- What identifies the public key. -/
  key : Text
  /-- How many authorities may follow below this one, when it is an authority. -/
  depth : Option Nat := none
  usages : List KeyUsage := [.signature]
  purpose : Option Purpose := none
  names : List Text := []
  addresses : List Ip := []
  /-- From when and until when it is valid, in seconds. -/
  starts : Int
  ends : Int
  deriving DecidableEq, Repr

namespace Certificate

/-- How many days a certificate is valid, to the nearest one. -/
def days (c : Certificate) : Int := (c.ends - c.starts + 43200).fdiv 86400

/-- The record that stands in the text of a certificate. -/
def toJson (c : Certificate) : Json :=
  let texts := fun (ts : List Text) => Json.array (ts.map .string)
  let purpose := match c.purpose with
    | some .server => ["server"]
    | some .client => ["client"]
    | _ => []
  .object [("subject", .string c.subject), ("organization", .string c.organization),
    ("issuer", .string c.issuer), ("key", .string c.key),
    ("depth", (c.depth.map fun d => Json.int d).getD .null),
    ("usages", .array (c.usages.map fun u => Json.int u.bit)), ("purpose", texts purpose),
    ("names", texts c.names), ("addresses", texts (c.addresses.map Ip.text)),
    ("starts", .int c.starts), ("ends", .int c.ends)]

/-- The usage of a bit. -/
def usageOf (n : Int) : KeyUsage :=
  if n = 32 then .certificates else if n = 64 then .revocations else .signature

/-- Reads a record. -/
def ofJson? : Json → Option Certificate
  | .object members => do
    let get := Json.member? members
    let text := fun name => (get name).bind (Json.readText [])
    let int := fun name => (get name).bind (Json.readInt 0)
    let texts := fun name => (get name).bind (Json.readList (Json.readText []))
    return {
      subject := ← text "subject", organization := ← text "organization", issuer := ← text "issuer"
      key := ← text "key"
      depth := match ← get "depth" with
        | .null => none
        | v => (Json.readInt 0 v).map Int.toNat
      usages := ← ((get "usages").bind (Json.readList (Json.readInt 0))).map (·.map usageOf)
      purpose := match ← texts "purpose" with
        | [p] => some (if p = ("server" : Text) then .server else .client)
        | _ => none
      names := ← texts "names", addresses := (← texts "addresses").filterMap Ip.read?
      starts := ← int "starts", ends := ← int "ends" }
  | _ => none

/-- The type of blocks that hold certificates. -/
def blockType : Text := "CERTIFICATE"

/-- The text of a certificate. -/
def text (c : Certificate) : Text := Pem.armour blockType c.toJson.text

/-- Reads the bytes of a block. -/
def ofBytes? (t : Text) : Option Certificate := (Json.read? t).bind ofJson?

/-- The first certificate of a text. -/
def first? (t : Text) : Option Certificate := do
  let block ← (Pem.blocks t).find? fun b => b.type = blockType
  ofBytes? block.bytes

/-- All certificates of a text; blocks that hold something else are skipped. -/
def all (t : Text) : List Certificate :=
  (Pem.blocks t).filterMap fun b =>
    if b.type = blockType ∧ !b.hasHeaders then ofBytes? b.bytes else none

end Certificate
end LogSql
