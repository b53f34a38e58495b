import LogSql.Http.Health
import LogSql.Http.Params
import LogSql.Macro.Definition

/-!
The service. Requests are routed by path and method; those of the API need an allowance and, where
tokens are required, a token.
-/
namespace LogSql.Http

/-- Why a handler has no document to answer. -/
inductive Fault where
  | refused (e : ApiError)
  | crashed
  | aborted

/-- What compiles for the service. -/
structure Compiler where
  compile : Compile.Request → Except Fault Compile.Compiled
  tail : Text → Except Fault Compile.Compiled
  series : List Text → Except Fault Text

/-- The compiler of an engine. -/
def Compiler.ofEngine (e : Compile.Engine) : Compiler :=
  let answer := fun {α : Type} (r : Except Compile.Error α) =>
    r.mapError fun err => Fault.refused (.ofCompile err)
  { compile := fun r => answer (e.compile r)
    tail := fun q => answer (e.compileTail q)
    series := fun ts => answer (e.compileSeries ts) }

/-- A compiler that always ends the same way. -/
def Compiler.failing (f : Fault) : Compiler :=
  ⟨fun _ => .error f, fun _ => .error f, fun _ => .error f⟩

/-- The settings of the service; zero and the empty text ask for the default. -/
structure Settings where
  address : Text := []
  perMinute : Int := 0
  burst : Int := 0
  /-- The longest window of a request, in nanoseconds. -/
  maxRange : Int := 0
  maxBatch : Int := 0
  /-- Whether every statement is checked where that is possible. -/
  checkSyntax : Bool := false

/-- The settings with their defaults. -/
def Settings.withDefaults (s : Settings) : Settings :=
  { s with
    address := if s.address.isEmpty then ":8080" else s.address
    perMinute := if s.perMinute = 0 then 600 else s.perMinute
    maxRange := if s.maxRange = 0 then 2592000000000000 else s.maxRange
    maxBatch := if s.maxBatch = 0 then 50 else s.maxBatch }

/-- The service. -/
structure Server where
  settings : Settings
  compiler : Compiler
  /-- Checks a statement: its formatted text, or what is wrong with it. -/
  checker : Option (Text → Except Text Text) := none
  macros : List Macro.Definition := []
  auth : Option Auth.Service := none
  probes : List Probe := []
  version : Text := []

/-- Why there is no service. -/
inductive ServerError where
  | noSettings
  | noCompiler
  deriving DecidableEq, Repr

/-- The error in words. -/
def ServerError.message : ServerError → Text
  | noSettings => "config is required"
  | noCompiler => "engine is required"

namespace Server

/-- A service with settings and a compiler. -/
def create (settings : Option Settings) (compiler : Option Compiler) : Except ServerError Server :=
  match settings, compiler with
  | none, _ => .error .noSettings
  | some _, none => .error .noCompiler
  | some s, some c => .ok { settings := s.withDefaults, compiler := c }

/-- The allowances before the first request. -/
def limiter (s : Server) : Limiter := .create s.settings.perMinute s.settings.burst

/-- The report of checking a statement, when it is to be checked. -/
def checked (s : Server) (p : Params) (sql : Text) : List (Text × Json) :=
  match s.checker with
  | some check =>
    if !p.check ∧ !s.settings.checkSyntax then []
    else match check sql with
      | .ok formatted => [("check", .object (("ok", .bool true) :: Json.textMember "formatted" formatted))]
      | .error e => [("check", .object (("ok", .bool false) :: Json.textMember "error" e))]
  | none => []

/-- Refuses a request for a check where nothing can check. -/
def needChecker (s : Server) (p : Params) : Except Fault Unit :=
  if p.check ∧ s.checker.isNone then .error (.refused .noChecker) else .ok ()

/-- Compiles one query. -/
def compiled (s : Server) (p : Params) : Except Fault Json := do
  let request ← (p.toCompile s.settings.maxRange).mapError .refused
  let c ← s.compiler.compile request
  let duration : List (Text × Json) :=
    if c.duration = 0 then [] else [("duration_ms", .int c.duration)]
  let rest : List (Text × Json) := ("client_side", .bool !c.hooks.isEmpty) :: s.checked p c.text
  return .object (("sql", .string c.text) :: ("matrix", .bool c.matrix) ::
    (duration ++ rest))

/-- Compiles a query. -/
def transpile (s : Server) (r : Request) : Except Fault Json := do
  let p ← (Params.ofRequest r).mapError .refused
  s.needChecker p
  s.compiled p

/-- One query of a batch with its result or its error. -/
def batchItem (s : Server) (p : Params) : Except Fault Json :=
  match s.compiled p with
  | .ok v => .ok (.object [("query", .string p.query), ("result", v)])
  | .error (.refused e) => .ok (.object [("query", .string p.query), ("error", e.toJson)])
  | .error f => .error f

/-- Compiles the queries of a batch, each on its own. -/
def batch (s : Server) (r : Request) : Except Fault Json := do
  if !Params.isJson r then throw (.refused (.badRequest "batch requests must be JSON"))
  let p ← (Params.ofRequest r).mapError .refused
  if p.queries.isEmpty then throw (.refused (.badRequest "queries is required"))
  if s.settings.maxBatch < p.queries.length then
    throw (.refused (.badRequest
      (.concat ["at most ", Text.ofInt s.settings.maxBatch, " queries per batch"])))
  let _ ← p.queries.mapM s.needChecker
  return .array (← p.queries.mapM s.batchItem)

/-- Compiles a live tail. -/
def tail (s : Server) (r : Request) : Except Fault Json := do
  let p ← (Params.ofRequest r).mapError .refused
  if (Text.trim p.query).isEmpty then throw (.refused (.badRequest "query is required"))
  s.needChecker p
  let c ← s.compiler.tail p.query
  return .object (("sql", .string c.text) :: ("client_side", .bool !c.hooks.isEmpty) ::
    s.checked p c.text)

/-- Compiles a list of series. -/
def series (s : Server) (r : Request) : Except Fault Json := do
  let p ← (Params.ofRequest r).mapError .refused
  if p.selectors.isEmpty then
    throw (.refused (.badRequest "at least one match[] selector is required"))
  s.needChecker p
  let sql ← s.compiler.series p.selectors
  return .object (("sql", .string sql) :: s.checked p sql)

/-- Lists the macros. -/
def listMacros (s : Server) : Json :=
  .array (s.macros.map fun d => .object (("name", .string d.name) ::
    (Json.textMember "description" d.description ++
      [(Text.ofString "params", Json.array (d.params.map .string))])))

/-! ### Routes -/

/-- The methods that can have a route. -/
def methods : List Text :=
  ["CONNECT", "DELETE", "GET", "HEAD", "OPTIONS", "PATCH", "POST", "PUT", "TRACE"]

/-- The start of the paths of the API. -/
def apiRoot : Text := "/api/v1"

/-- The routes of the API: path, methods and handler. -/
def apiRoutes (s : Server) : List (Text × List Text × (Request → Except Fault Json)) :=
  [("/transpile", ["GET", "POST"], s.transpile), ("/transpile/batch", ["POST"], s.batch),
    ("/tail", ["GET", "POST"], s.tail), ("/series", ["GET", "POST"], s.series),
    ("/macros", ["GET"], fun _ => .ok s.listMacros)]

/-- The routes for all: path and response. -/
def openRoutes (s : Server) : List (Text × Response) :=
  [("/health", Health.up s.version), ("/health/live", Health.live),
    ("/health/ready", Health.ready s.probes)]

/-- The response with an error. -/
def refusal (e : ApiError) : Response := jsonResponse e.status (.object [("error", e.toJson)])

/-- What a handler comes to. -/
def outcome : Except Fault Json → Outcome
  | .ok v => .answered (jsonResponse 200 (.object [("data", v)]))
  | .error (.refused e) => .answered (refusal e)
  | .error .crashed => .crashed
  | .error .aborted => .aborted

/-- Serves a request of the API by its path below the root. -/
def serveApi (s : Server) (path : Text) (r : Request) : Outcome :=
  match s.apiRoutes.find? fun route => route.1 = path with
  | none => .answered (refusal .notFound)
  | some (_, allowed, handler) =>
    if r.method ∈ allowed then outcome (handler r) else .answered (refusal .methodNotAllowed)

/-- The path below the root of the API. -/
def apiPath? (path : Text) : Option Text :=
  match Text.stripStart apiRoot path with
  | some [] => some "/"
  | some (b :: rest) => if b = Text.byte '/' then some (b :: rest) else none
  | none => none

/-- Routes a request. -/
def route (s : Server) (now : Instant) (r : Request) (l : Limiter) : Outcome × Limiter :=
  if r.method ∉ methods then (.answered (refusal .methodNotAllowed), l)
  else match apiPath? r.path with
    | some path =>
      match l.allow r.client with
      | (false, l) => (.answered rateLimited, l)
      | (true, l) =>
        let welcome := match s.auth with
          | some service => (r.subject? service now).isSome
          | none => true
        (if welcome then s.serveApi path r else .answered unauthorized, l)
    | none =>
      match s.openRoutes.find? fun route => route.1 = r.path with
      | none => (.answered (refusal .notFound), l)
      | some (_, response) =>
        (.answered (if r.method = "GET" then response else refusal .methodNotAllowed), l)

/-- Serves a request at an instant; `fresh` is its identifier when the client gives none. -/
def serve (s : Server) (now : Instant) (fresh : Text) (r : Request) (l : Limiter) :
    Outcome × Limiter :=
  let (o, l) := s.route now r l
  (o.recovered.mapResponse fun response =>
    (response.setMissing (securityHeaders r.secure)).set "X-Request-Id" (r.id fresh), l)

end Server
end LogSql.Http
