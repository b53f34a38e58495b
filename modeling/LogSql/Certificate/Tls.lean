import LogSql.Certificate.Basic
import LogSql.Config.Basic
import LogSql.Host

/-!
What the two ends of an encrypted connection need: their certificates and the authorities that they
trust.
-/
namespace LogSql

/-- The settings of one end. -/
structure Tls where
  certificate : Option Certificate := none
  /-- The authorities of clients, who then have to show a certificate. -/
  clientAuthorities : Option (List Certificate) := none
  /-- The authorities of servers; without any those of the system. -/
  authorities : Option (List Certificate) := none
  skipsVerification : Bool := false
  serverName : Text := []
  /-- The number of the least version of the protocol. -/
  leastVersion : Nat := 771
  deriving DecidableEq, Repr

/-- Why a pool of authorities cannot be used. -/
inductive PoolError where
  | unreadable
  | empty (path : Text)
  deriving DecidableEq, Repr

/-- The error in words. -/
def PoolError.message : PoolError → Text
  | unreadable => "read certificate: no such file"
  | empty path => "no certificates found in " ++ path

/-- Why there are no settings. -/
inductive TlsError where
  | halfPair
  | badServerPair
  | badClientPair
  | clientAuthorities (e : PoolError)
  | authorities (e : PoolError)
  deriving DecidableEq, Repr

/-- The error in words. -/
def TlsError.message : TlsError → Text
  | halfPair => "both cert_file and key_file are required"
  | badServerPair => "load server certificate: not a certificate with its key"
  | badClientPair => "load client certificate: not a certificate with its key"
  | clientAuthorities e => "client CA: " ++ e.message
  | authorities e => "CA: " ++ e.message

namespace Tls

/-- The first certificate of a text, provided that the other text holds its key. -/
def pair? (certificate key : Text) : Option Certificate := do
  let c ← Certificate.first? certificate
  let block ← (Pem.blocks key).find? fun b => (Text.stripEnd PrivateKey.blockType b.type).isSome
  let k ← PrivateKey.ofContainer? block.bytes
  if k.algorithm = .curve ∧ k.publicPart = c.key then some c else none

/-- The authorities of a file. -/
def pool (path : Text) (content : Option Text) : Except PoolError (List Certificate) :=
  match content with
  | none => .error .unreadable
  | some t =>
    let all := Certificate.all t
    if all.isEmpty then .error (.empty path) else .ok all

variable {m : Type → Type} [Monad m]

/-- Reads a certificate and its key. -/
def loadPair (host : Host m) (certFile keyFile : Text) : m (Option Certificate) := do
  let c ← host.read certFile
  let k ← host.read keyFile
  return do pair? (← c) (← k)

/-- The settings of the service. Clients have to show a certificate when their authorities are given. -/
def forServer (host : Host m) (t : ServerTls) : m (Except TlsError Tls) := do
  if t.certFile.isEmpty || t.keyFile.isEmpty then return .error .halfPair
  match ← loadPair host t.certFile t.keyFile with
  | none => return .error .badServerPair
  | some c =>
    if t.clientAuthorities.isEmpty then return .ok { certificate := some c }
    match pool t.clientAuthorities (← host.read t.clientAuthorities) with
    | .error e => return .error (.clientAuthorities e)
    | .ok all => return .ok { certificate := some c, clientAuthorities := some all }

/-- The certificate that a client shows, if it has one. -/
def clientPair (host : Host m) (t : ClientTls) : m (Except TlsError (Option Certificate)) := do
  if t.certFile.isEmpty && t.keyFile.isEmpty then return .ok none
  match ← loadPair host t.certFile t.keyFile with
  | none => return .error .badClientPair
  | some c => return .ok (some c)

/-- The settings towards the database, unless the connection is not encrypted. Authorities do not matter
where nothing is verified. -/
def forClient (host : Host m) (t : ClientTls) : m (Except TlsError (Option Tls)) := do
  if !t.isEnabled then return .ok none
  match ← clientPair host t with
  | .error e => return .error e
  | .ok c =>
    let base : Tls :=
      { certificate := c, skipsVerification := t.skipsVerification, serverName := t.serverName }
    if t.authorities.isEmpty || t.skipsVerification then return .ok (some base)
    match pool t.authorities (← host.read t.authorities) with
    | .error e => return .error (.authorities e)
    | .ok all => return .ok (some { base with authorities := some all })

end Tls
end LogSql
