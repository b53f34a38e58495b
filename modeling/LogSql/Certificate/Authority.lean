import LogSql.Certificate.Basic
import LogSql.Files.Path
import LogSql.Host

/-!
Making certificates. An authority is a certificate with its private key; it and the certificates that
it issues are written as pairs of files.
-/
namespace LogSql

/-- Why a certificate is not made. -/
inductive CertificateError where
  | unreadableAuthority
  | noAuthority
  | malformedAuthority
  | unreadableKey
  | noKey
  | malformedKey
  | wrongKey (found : Algorithm)
  | unknownPurpose (code : Nat)
  | notSigned
  | noFolder
  | unwritable
  | unwritableKey
  deriving DecidableEq, Repr

/-- The error in words. -/
def CertificateError.message : CertificateError → Text
  | unreadableAuthority => "read CA certificate: no such file"
  | noAuthority => "invalid CA certificate PEM"
  | malformedAuthority => "parse CA certificate: not a certificate"
  | unreadableKey => "read CA private key: no such file"
  | noKey => "invalid CA private key PEM"
  | malformedKey => "parse CA private key: not a key"
  | wrongKey found => .concat ["CA private key is ", found.keyName, ", want ECDSA"]
  | unknownPurpose code => "unknown certificate kind " ++ Text.ofNat code
  | notSigned => "create certificate: not a certificate that can be signed"
  | noFolder => "create output directory: not a folder"
  | unwritable => "write certificate: no such folder"
  | unwritableKey => "write private key: no such folder"

/-- An authority. -/
structure Authority where
  certificate : Certificate
  key : PrivateKey
  deriving DecidableEq, Repr

namespace Authority

/-- How long an authority is valid when nothing is asked for, in days. -/
def defaultDays : Int := 3650

/-- How long other certificates are valid when nothing is asked for, in days. -/
def defaultIssuedDays : Int := 365

/-- The end of the last year that certificates can write. -/
def endOfTime : Int := 253402300800

/-- A number of days, or the default when it is not positive. -/
def daysOr (fallback days : Int) : Int := if days ≤ 0 then fallback else days

/-- The hosts that every server certificate names. -/
def localHosts : List Text := ["localhost", "127.0.0.1", "::1"]

/-- Checks what the format of certificates can write: dates, names as text and hosts in ASCII. -/
def checked (c : Certificate) : Except CertificateError Certificate :=
  if endOfTime ≤ c.ends ∨ (Text.toString? c.subject).isNone ∨
      c.names.any fun n => n.any fun b => 128 ≤ b then .error .notSigned
  else .ok c

/-- A new authority that vouches for itself. -/
def create (now : Instant) (key : PrivateKey) (days : Int) : Except CertificateError Authority := do
  let starts := now.fdiv 1000000000
  let c ← checked {
    subject := "blazeql CA", issuer := "blazeql CA", key := key.publicPart, depth := some 1
    usages := [.certificates, .revocations, .signature]
    starts, ends := starts + daysOr defaultDays days * 86400 }
  return ⟨c, key⟩

/-- The hosts of a certificate: those of a server always cover the machine itself. -/
def hostsFor (purpose : Purpose) (hosts : List Text) : List Text :=
  if purpose = .server then hosts ++ localHosts.filter fun h => !hosts.contains h else hosts

/-- Signs a certificate for a key. -/
def sign (a : Authority) (now : Instant) (key : PrivateKey) (purpose : Purpose) (name : Text)
    (days : Int) (hosts : List Text) : Except CertificateError Certificate := do
  if let .other code := purpose then throw (.unknownPurpose code)
  let starts := now.fdiv 1000000000
  let all := hostsFor purpose hosts
  let c ← checked {
    subject := name, issuer := a.certificate.subject, key := key.publicPart
    purpose := some purpose
    names := all.filter fun h => (Ip.read? h).isNone
    addresses := all.filterMap Ip.read?
    starts, ends := starts + daysOr defaultIssuedDays days * 86400 }
  if a.key.publicPart ≠ a.certificate.key then throw .notSigned
  return c

/-- The authority of the texts of its two files. -/
def read (certificate key : Option Text) : Except CertificateError Authority := do
  let text ← certificate.elim (.error .unreadableAuthority) .ok
  let block ← ((Pem.blocks text).head?.filter fun b => b.type = Certificate.blockType).elim
    (.error .noAuthority) .ok
  let c ← (Certificate.ofBytes? block.bytes).elim (.error .malformedAuthority) .ok
  let text ← key.elim (.error .unreadableKey) .ok
  let block ← ((Pem.blocks text).head?.filter fun b => b.type = PrivateKey.blockType).elim
    (.error .noKey) .ok
  let k ← (PrivateKey.ofContainer? block.bytes).elim (.error .malformedKey) .ok
  if k.algorithm ≠ .curve then throw (.wrongKey k.algorithm)
  return ⟨c, k⟩

variable {m : Type → Type} [Monad m]

/-- A new private key. -/
def newKey (host : Host m) : m PrivateKey := return ⟨.curve, ← host.random⟩

/-- Writes a certificate and its key into a folder. -/
def writePair (host : Host m) (folder name : Text) (c : Certificate) (key : PrivateKey) :
    m (Except CertificateError Unit) := do
  if !(← host.makeFolder folder) then return .error .noFolder
  if !(← host.write (Path.join folder (name ++ ".crt")) false c.text) then return .error .unwritable
  if !(← host.write (Path.join folder (name ++ ".key")) true key.text) then return .error .unwritableKey
  return .ok ()

/-- Makes an authority and writes it into a folder. -/
def generate (host : Host m) (folder : Text) (days : Int) : m (Except CertificateError Unit) := do
  let key ← newKey host
  match create (← host.now) key days with
  | .error e => return .error e
  | .ok a => writePair host folder "ca" a.certificate key

/-- Reads the authority of a folder. -/
def load (host : Host m) (folder : Text) : m (Except CertificateError Authority) :=
  return read (← host.read (Path.join folder "ca.crt")) (← host.read (Path.join folder "ca.key"))

/-- Issues a certificate with a new key and writes both into a folder. -/
def issue (host : Host m) (a : Authority) (purpose : Purpose) (name folder : Text) (days : Int)
    (hosts : List Text) : m (Except CertificateError Unit) := do
  let key ← newKey host
  match a.sign (← host.now) key purpose name days hosts with
  | .error e => return .error e
  | .ok c => writePair host folder name c key

end Authority
end LogSql
