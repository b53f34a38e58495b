import LogSql.Auth.Base64
import LogSql.Auth.Sha256
import LogSql.Json.Fields
import LogSql.Json.Writer
import LogSql.Time.Instant

/-!
Bearer tokens. A token is a header, claims and their keyed digest; it is accepted while it is signed
with the secret, issued here, neither expired nor from the future, and names a subject.
-/
namespace LogSql.Auth

/-- The name under which tokens are issued. -/
def issuer : Text := "blazeql"

/-- The shortest accepted secret, in bytes. -/
def minSecretLength : Nat := 32

/-- Why a token is not issued or not accepted. -/
inductive Error where
  | shortSecret
  | subjectRequired
  | badToken
  | noSubject
  deriving DecidableEq, Repr

/-- The error in words. -/
def Error.message : Error → Text
  | shortSecret => .concat ["jwt secret must be at least ", Text.ofNat minSecretLength, " bytes"]
  | subjectRequired => "subject is required"
  | badToken => "parse token: not a valid token"
  | noSubject => "token has no subject"

/-- What a token claims. Times are in seconds. -/
structure Claims where
  issuer : Text := []
  subject : Text := []
  expires : Option Int := none
  notBefore : Option Int := none
  issuedAt : Option Int := none
  deriving DecidableEq, Repr

namespace Claims

/-- How long a token lasts, in seconds; nothing for one without an end. -/
def lifetime? (c : Claims) : Option Int := return (← c.expires) - (← c.issuedAt)

/-- The claims as a document. -/
def toJson (c : Claims) : Json :=
  let time := fun (name : Text) (t : Option Int) => (t.map fun n => (name, Json.int n)).toList
  .object (("iss", .string c.issuer) :: ("sub", .string c.subject) :: (time "exp" c.expires ++
    time "nbf" c.notBefore ++ time "iat" c.issuedAt))

/-- Reads a time: a number of seconds, possibly between quotes, without its fraction. -/
def time? : Json → Option (Option Int)
  | .null => some none
  | .number literal => seconds literal
  | .string t => if Json.numberLength t = some t.length then seconds t else none
  | _ => none
where
  seconds (t : Text) : Option (Option Int) := (Number.readFloat t).toOption.map fun x => some x.toInt64

/-- Whether a value can name the audience. -/
def isAudience : Json → Bool
  | .null | .string _ => true
  | .array items => items.all fun
    | .string _ => true
    | _ => false
  | _ => false

/-- Takes one member of a document into account. -/
def setMember (c : Claims) (name : Text) (v : Json) : Option Claims :=
  if Json.isField "iss" name then (Json.readText c.issuer v).map fun t => { c with issuer := t }
  else if Json.isField "sub" name then (Json.readText c.subject v).map fun t => { c with subject := t }
  else if Json.isField "jti" name then (Json.readText [] v).map fun _ => c
  else if Json.isField "aud" name then if isAudience v then some c else none
  else if Json.isField "exp" name then (time? v).map fun t => { c with expires := t }
  else if Json.isField "nbf" name then (time? v).map fun t => { c with notBefore := t }
  else if Json.isField "iat" name then (time? v).map fun t => { c with issuedAt := t }
  else some c

/-- Reads claims. -/
def ofJson? : Json → Option Claims
  | .null => some {}
  | .object members => members.foldlM (fun c m => c.setMember m.1 m.2) {}
  | _ => none

/-- What a token claims, whoever signed it. -/
def ofToken? (token : Text) : Option Claims :=
  match Text.splitByte (Text.byte '.') token with
  | [_, c, _] => do ofJson? (← Json.read? (← decode64? c))
  | _ => none

/-- Whether the claims hold at an instant. -/
def areValid (c : Claims) (now : Instant) : Bool :=
  let isPast := fun (t : Option Int) => t.all fun s => s * 1000000000 ≤ now
  c.issuer = Auth.issuer && isPast c.issuedAt && isPast c.notBefore &&
    c.expires.all fun s => now < s * 1000000000

end Claims

/-- Issues and checks tokens. -/
structure Service where
  secret : Text
  /-- The lifetime of issued tokens in nanoseconds; without a positive one they do not expire. -/
  lifetime : Int

namespace Service

/-- A service with a secret that is long enough. -/
def create (secret : Text) (lifetime : Int) : Except Error Service :=
  if secret.length < minSecretLength then .error .shortSecret else .ok ⟨secret, lifetime⟩

/-- The header of every issued token. -/
def header : Json := .object [("alg", .string "HS256"), ("typ", .string "JWT")]

/-- The signature of a text. -/
def sign (s : Service) (t : Text) : Text := hmacSha256 s.secret t

/-- The claims of a token for a subject. -/
def claimsFor (s : Service) (now : Instant) (subject : Text) : Claims :=
  { issuer := Auth.issuer, subject, issuedAt := some (now.fdiv 1000000000)
    expires := if 0 < s.lifetime then some ((now + s.lifetime).fdiv 1000000000) else none }

/-- Issues a token. -/
def mint (s : Service) (now : Instant) (subject : Text) : Except Error Text :=
  if subject.isEmpty then .error .subjectRequired
  else
    let body := encode64 header.text ++ "." ++ encode64 (s.claimsFor now subject).toJson.text
    .ok (body ++ "." ++ encode64 (s.sign body))

/-- The signing method that a header names. -/
def method? : Json → Option Text
  | .object members =>
    match Json.member? members "alg" with
    | some (.string t) => some t
    | _ => none
  | _ => none

/-- The claims of a token that is well-formed, signed with the secret and valid now. -/
def claims? (s : Service) (now : Instant) (token : Text) : Option Claims :=
  match Text.splitByte (Text.byte '.') token with
  | [h, c, signature] => do
    let header ← Json.read? (← decode64? h)
    let claims ← Claims.ofJson? (← Json.read? (← decode64? c))
    let given ← decode64? signature
    if method? header = some "HS256" ∧ given = s.sign (h ++ "." ++ c) ∧ claims.areValid now then
      some claims
    else none
  | _ => none

/-- Checks a token. -/
def validate (s : Service) (now : Instant) (token : Text) : Except Error Claims :=
  match s.claims? now token with
  | none => .error .badToken
  | some claims => if claims.subject.isEmpty then .error .noSubject else .ok claims

end Service
end LogSql.Auth
