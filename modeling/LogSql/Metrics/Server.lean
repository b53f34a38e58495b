import LogSql.Http.Redirect
import LogSql.Metrics.Exposition
import LogSql.Net.Address

/-!
The service that shows measurements. It has one page; the root leads there.
-/
namespace LogSql.Metrics

open Http (Request Response)

/-- The page of measurements. -/
def page : Text := "/metrics"

/-- The measurements in the format that a request asks for. -/
def exposition (families : List Family) (r : Request) : Response :=
  let (format, scheme) := negotiate (r.header "Accept")
  { headers := [("Content-Type", format.mediaType scheme)], body := document format families }

/-- Serves a request; paths with detours are sent to the direct one. -/
def serve (families : List Family) (r : Request) : Response :=
  let direct := Http.cleanPath r.path
  if r.method ≠ ("CONNECT" : Text) ∧ direct ≠ r.path then
    let target := if r.query.isEmpty then direct else .concat [direct, "?", r.query]
    Http.redirect r.method target 307
  else if r.path = page then exposition families r
  else if r.path = ("/" : Text) then Http.redirect r.method page 302
  else Http.missing

/-- Starts to listen for requests. -/
def listen (address : Text) : Except Text Unit :=
  (Address.listen address).mapError fun e => "metrics server: " ++ e

end LogSql.Metrics
