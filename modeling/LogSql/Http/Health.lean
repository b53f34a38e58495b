import LogSql.Http.Guard

/-!
Whether the service is up, alive and ready. It is ready when every dependency answers its probe.
-/
namespace LogSql.Http

/-- A dependency and what came of probing it. -/
inductive Probe where
  /-- A probe by function, which may fail in its own words; without a function there is no probe. -/
  | function (name : Text) (result : Option (Option Text))
  /-- The database, when there is one. -/
  | database (result : Option (Option Text))
  deriving DecidableEq, Repr

namespace Probe

/-- The name of a dependency. -/
def name : Probe → Text
  | function name _ => name
  | database _ => "clickhouse"

/-- What went wrong, when something did. -/
def failure : Probe → Option Text
  | function _ (some result) => result
  | function name none => some (name ++ ": no check configured")
  | database (some result) => result
  | database none => some "clickhouse not configured"

/-- The report of a probe; time is not measured. -/
def report (p : Probe) : Json :=
  let status : Text := if p.failure.isSome then "failed" else "ok"
  .object (("status", .string status) :: (Json.textMember "error" (p.failure.getD []) ++
    [(Text.ofString "latency_ms", Json.int 0)]))

/-- Whether a probe has words to say against readiness. -/
def objects (p : Probe) : Bool := !(p.failure.getD []).isEmpty

end Probe

namespace Health

/-- The service is up, in a version. -/
def up (version : Text) : Response :=
  jsonResponse 200 (.object (("status", .string "ok") :: Json.textMember "version" version))

/-- The service is alive, whatever it depends on. -/
def live : Response := jsonResponse 200 (.object [("status", .string "live")])

/-- Whether the service is ready; of several dependencies of a name the last one is reported. -/
def ready (probes : List Probe) : Response :=
  let fails := probes.any Probe.objects
  let checks := Json.sorted (probes.map fun p => (p.name, p.report))
  jsonResponse (if fails then 503 else 200)
    (.object (("status", .string (if fails then "not_ready" else "ready")) ::
      if checks.isEmpty then [] else [("checks", .object checks)]))

end Health
end LogSql.Http
