import LogSql.Auth.Service
import LogSql.Http.Client
import LogSql.Json.Writer

/-!
What happens to every request around its handler: it gets an identifier, its response gets headers
for a JSON-only service, faults become responses, and tokens and allowances are checked.
-/
namespace LogSql.Http

/-- A response with a document and a line break for a body. -/
def jsonResponse (status : Nat) (v : Json) : Response :=
  { status, headers := [("Content-Type", "application/json")], body := v.text ++ [10] }

/-- A response with an error that has a code and a message. -/
def errorResponse (status : Nat) (code message : Text) : Response :=
  jsonResponse status (.object [("error", .object [("code", .string code), ("message", .string message)])])

/-- The answer to a request without a valid token. -/
def unauthorized : Response :=
  (errorResponse 401 "UNAUTHORIZED" "invalid or expired token").set
    "Www-Authenticate" "Bearer realm=\"blazeql\""

/-- The answer to a client whose allowance is used up. -/
def rateLimited : Response := errorResponse 429 "RATE_LIMITED" "too many requests"

/-- The answer to a request whose handler failed. -/
def crashResponse : Response :=
  let r := errorResponse 500 "INTERNAL_ERROR" "internal server error"
  { r with body := r.body.dropLast }

/-- Whether a client may name its request so. -/
def isRequestId (t : Text) : Bool :=
  !t.isEmpty && t.length ≤ 64 && t.all fun b =>
    Text.isAlpha b || Text.isDecimal b || (Text.ofString "._-").elem b

/-- The identifier of a request: the one that the client gives, or else a fresh one. -/
def Request.id (r : Request) (fresh : Text) : Text :=
  let given := r.header "X-Request-ID"
  if isRequestId given then given else fresh

/-- The headers of every response. -/
def securityHeaders (secure : Bool) : Headers :=
  let always : Headers :=
    [("X-Content-Type-Options", "nosniff"), ("X-Frame-Options", "DENY"),
      ("Referrer-Policy", "no-referrer"),
      ("Content-Security-Policy", "default-src 'none'; frame-ancestors 'none'"),
      ("Cache-Control", "no-store")]
  if secure then ("Strict-Transport-Security", "max-age=31536000") :: always else always

namespace Outcome

/-- Changes the response, when there is one. -/
def mapResponse (f : Response → Response) : Outcome → Outcome
  | answered r => answered (f r)
  | o => o

/-- Turns a fault into a response. -/
def recovered : Outcome → Outcome
  | crashed => answered crashResponse
  | o => o

end Outcome

/-- The token of a request. -/
def Request.token? (r : Request) : Option Text := do
  let (scheme, token) ← Text.cut " " (r.header "Authorization")
  if Text.asciiLower scheme = "bearer" ∧ token ≠ [] then some (Text.trim token) else none

/-- The subject of a request with a valid token. -/
def Request.subject? (r : Request) (service : Auth.Service) (now : Instant) : Option Text := do
  let token ← r.token?
  match service.validate now token with
  | .ok claims => some claims.subject
  | .error _ => none

/-- What surrounds a handler when it stands alone. -/
structure Chain where
  /-- Whether requests get identifiers. -/
  identifies : Bool := false
  auth : Option Auth.Service := none

/-- Serves a request by a handler that sees its subject and its identifier. -/
def Chain.serve (c : Chain) (now : Instant) (fresh : Text) (r : Request)
    (handler : (subject id : Text) → Outcome) : Outcome :=
  let id := if c.identifies then r.id fresh else []
  let inner := match c.auth with
    | none => (handler [] id).recovered
    | some service =>
      match r.subject? service now with
      | some subject => (handler subject id).recovered
      | none => .answered unauthorized
  let guarded := inner.mapResponse (·.setMissing (securityHeaders r.secure))
  if c.identifies then guarded.mapResponse (·.set "X-Request-Id" id) else guarded

/-- Tells who a request is from, in plain text. -/
def echoIdentity (subject id : Text) : Response :=
  { headers := [("Content-Type", "text/plain; charset=utf-8")]
    body := .concat ["subject=", Text.quote subject, " request=", Text.quote id] }

end LogSql.Http
