import LogSql.Text.Glyph

/-!
Requests and responses. Names of headers are compared without regard to case.
-/
namespace LogSql.Http

/-- Headers in the order in which they were given. -/
abbrev Headers := List (Text × Text)

/-- Whether two names are the same header. -/
def sameHeader (a b : Text) : Bool := Text.asciiLower a = Text.asciiLower b

/-- The first value of a header, empty when there is none. -/
def headerOf (hs : Headers) (name : Text) : Text :=
  ((hs.find? fun h => sameHeader h.1 name).map (·.2)).getD []

/-- A request. -/
structure Request where
  method : Text
  /-- What stands between the host and the question mark, as it was sent. -/
  path : Text
  /-- What stands behind the question mark. -/
  query : Text := []
  headers : Headers := []
  body : Text := []
  /-- The address that the request came from. -/
  remote : Text := []
  /-- Whether the connection was encrypted. -/
  secure : Bool := false

namespace Request

/-- The first value of a header, empty when there is none. -/
def header (r : Request) (name : Text) : Text := headerOf r.headers name

/-- A request for a target, which may have a query. -/
def ofTarget (method target : Text) : Request :=
  match Text.cut "?" target with
  | some (path, query) => { method, path, query }
  | none => { method, path := target }

end Request

/-- A response. -/
structure Response where
  status : Nat := 200
  headers : Headers := []
  body : Text := []

namespace Response

/-- Sets a header. -/
def set (r : Response) (name value : Text) : Response :=
  { r with headers := (r.headers.filter fun h => !sameHeader h.1 name) ++ [(name, value)] }

/-- Sets headers that the response does not have. -/
def setMissing (r : Response) (hs : Headers) : Response :=
  hs.foldl (fun r h => if r.headers.any fun g => sameHeader g.1 h.1 then r else r.set h.1 h.2) r

end Response

/-- What comes of a request: a response, a fault of the program, or a connection that is dropped on
purpose. -/
inductive Outcome where
  | answered (r : Response)
  | crashed
  | aborted

end LogSql.Http
