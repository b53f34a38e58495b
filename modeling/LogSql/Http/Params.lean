import LogSql.Compile.Engine
import LogSql.Http.Form
import LogSql.Json.Fields
import LogSql.Json.Writer
import LogSql.Time.Moment

/-!
The parameters of API requests, from a query string, a form or a JSON document, and the errors that
are answered to requests.
-/
namespace LogSql.Http

/-- An error as it is answered. -/
structure ApiError where
  status : Nat
  code : Text
  message : Text
  construct : Text := []
  deriving DecidableEq, Repr

namespace ApiError

/-- A request that cannot be served as it is. -/
def badRequest (message : Text) : ApiError := ⟨400, "BAD_REQUEST", message, []⟩

/-- No such resource. -/
def notFound : ApiError := ⟨404, "NOT_FOUND", "Resource not found", []⟩

/-- A resource that does not take the method. -/
def methodNotAllowed : ApiError := ⟨405, "METHOD_NOT_ALLOWED", "Method not allowed", []⟩

/-- A failure that is not the fault of the request. -/
def internal : ApiError := ⟨500, "INTERNAL_ERROR", "Internal server error", []⟩

/-- A request for a check where nothing can check. -/
def noChecker : ApiError := ⟨503, "UNAVAILABLE", "SQL syntax checking is not configured", []⟩

/-- The answer to a request that does not compile. -/
def ofCompile (e : Compile.Error) : ApiError :=
  let e := e.cause
  match e.class? with
  | some .badRequest => ⟨400, "BAD_REQUEST", e.message, e.construct⟩
  | some .unsupported => ⟨400, "UNSUPPORTED", e.message, e.construct⟩
  | some .lookupFailed => ⟨422, "LOOKUP_FAILED", e.message, e.construct⟩
  | none => internal

/-- The error as a document. -/
def toJson (e : ApiError) : Json :=
  .object (("code", .string e.code) :: ("message", .string e.message) ::
    Json.textMember "construct" e.construct)

end ApiError

/-- The parameters of a request. -/
structure Params where
  query : Text := []
  start : Text := []
  stop : Text := []
  step : Text := []
  limit : Int := 0
  direction : Text := []
  /-- The selectors of a request for series. -/
  selectors : List Text := []
  /-- Whether the statement is to be checked. -/
  check : Bool := false
  /-- The queries of a batch. -/
  queries : List Params := []

namespace Params

/-- A text that may also be given as a number. -/
def looseText : Json → Option Text
  | .null => some []
  | .string t => some t
  | .number literal => some literal
  | _ => none

mutual

/-- Reads parameters from a document. No other members are allowed. -/
def ofJson? : Json → Option Params
  | .null => some {}
  | .object members => ofMembers? {} members
  | _ => none

/-- Takes members into account one after the other. -/
def ofMembers? : Params → List (Text × Json) → Option Params
  | p, [] => some p
  | p, (name, v) :: rest => do
    let p ←
      if Json.isField "query" name then (Json.readText p.query v).map fun t => { p with query := t }
      else if Json.isField "start" name then (looseText v).map fun t => { p with start := t }
      else if Json.isField "end" name then (looseText v).map fun t => { p with stop := t }
      else if Json.isField "step" name then (looseText v).map fun t => { p with step := t }
      else if Json.isField "limit" name then (Json.readInt p.limit v).map fun n => { p with limit := n }
      else if Json.isField "direction" name then
        (Json.readText p.direction v).map fun t => { p with direction := t }
      else if Json.isField "match" name then
        (Json.readList (Json.readText []) v).map fun ts => { p with selectors := ts }
      else if Json.isField "check" name then (Json.readBool p.check v).map fun b => { p with check := b }
      else if Json.isField "queries" name then
        match v with
        | .null => some { p with queries := [] }
        | .array items => (ofItems? items).map fun qs => { p with queries := qs }
        | _ => none
      else none
    ofMembers? p rest

/-- Reads the parameters of each query of a batch. -/
def ofItems? : List Json → Option (List Params)
  | [] => some []
  | v :: rest => do
    let p ← ofJson? v
    return p :: (← ofItems? rest)

end

/-- Reads parameters from a form. -/
def ofForm (f : Form) : Except ApiError Params := do
  let limit := f.get "limit"
  let limit ← if limit.isEmpty then pure 0 else
    (Number.readInt limit).mapError fun _ => ApiError.badRequest "invalid limit"
  let check := f.get "check"
  let check ← if check.isEmpty then pure false else
    match Number.readBool check with
    | some b => pure b
    | none => throw (ApiError.badRequest "invalid check flag")
  return {
    query := f.get "query", start := f.get "start", stop := f.get "end", step := f.get "step", limit
    direction := f.get "direction", selectors := f.getAll "match[]" ++ f.getAll "match", check }

/-- Whether a request has a JSON document for a body. -/
def isJson (r : Request) : Bool := (Text.ofString "application/json").isPrefixOf (r.header "Content-Type")

/-- Reads the parameters of a request. Of a body only the first document counts. -/
def ofRequest (r : Request) : Except ApiError Params :=
  if r.method = "POST" ∧ isJson r then
    match (Json.readFirst? (r.body.take maxBodyLength)).bind fun v => ofJson? v.1 with
    | some p => .ok p
    | none => .error (.badRequest "invalid JSON body: not the parameters of a request")
  else
    let f := Form.ofRequest r
    if f.readable then ofForm f else .error (.badRequest "invalid form: not a list of values")

/-- Reads a moment and names it in the refusal. -/
def moment (name t : Text) : Except ApiError Int :=
  match Moment.read? t with
  | some ms => .ok ms
  | none => .error (.badRequest (.concat [name, ": ", Moment.refusal t]))

/-- The request to compile, whose bounds may be at most `maxRange` nanoseconds apart. -/
def toCompile (maxRange : Int) (p : Params) : Except ApiError Compile.Request := do
  if (Text.trim p.query).isEmpty then throw (.badRequest "query is required")
  let start ← moment "start" p.start
  let stop ← moment "end" p.stop
  if start ≠ 0 ∧ stop ≠ 0 ∧ Duration.milliseconds maxRange < Int64Range.wrap (stop - start) then
    throw (.badRequest ("query range exceeds " ++ Duration.text maxRange))
  if p.limit < 0 then throw (.badRequest "limit must not be negative")
  let direction := Text.lower p.direction
  if direction ≠ [] ∧ direction ≠ "backward" ∧ direction ≠ "forward" then
    throw (.badRequest "direction must be forward or backward")
  return { query := p.query, start, stop, step := p.step, limit := p.limit
           forward := direction = "forward" }

end Params
end LogSql.Http
