import LogSql.App
import LogSql.Command.Help
import LogSql.Http.Server
import LogSql.Metrics.Server
import LogSql.Program.Run
import LogSql.Release

/-!
The program that serves the compiler.
-/
namespace LogSql.Service

open Run (result operation)
open Command (Program Values)

/-- What the program does. -/
inductive Task where
  | serve
  | version
  deriving DecidableEq, Repr

/-- The program itself. -/
def rootCommand : Command Task where
  path := []
  action := .task .serve
  short := "blazeql server - LogQL to ClickHouse SQL over HTTP"
  long := "blazeql-server compiles LogQL queries into ClickHouse SQL and serves
the result over an HTTP API. It does not execute the queries."
  shared := [
    { name := "config", letter := some (Text.byte 'c'), initial := .text []
      usage := "config file path (optional)" },
    { name := "address", letter := some (Text.byte 'a'), initial := .text []
      usage := "HTTP listen address" },
    { name := "metrics-address", initial := .text [], usage := "Prometheus metrics listen address" },
    { name := "macros", initial := .text [], usage := "macro definitions file" },
    { name := "check-syntax", initial := .switch false
      usage := "validate every compiled statement with ClickHouse" },
    { name := "verbose", letter := some (Text.byte 'v'), initial := .switch false
      usage := "verbose output" }]

/-- Names the release. -/
def versionCommand : Command Task where
  path := ["version"]
  action := .task .version
  short := "Print version information"

/-- The program. -/
def program : Program Task :=
  { name := "blazeql-server"
    commands := [rootCommand, versionCommand] ++ Program.common "blazeql-server" }

/-! ### Settings -/

/-- Settings of the command line, which win over those of the file unless they are empty. -/
structure Overrides where
  address : Text := []
  metricsAddress : Text := []
  macros : Text := []
  checksSyntax : Bool := false
  deriving DecidableEq, Repr

/-- What is typed as flags. -/
def Overrides.ofValues (vs : Values) : Overrides :=
  { address := vs.text "address" [], metricsAddress := vs.text "metrics-address" []
    macros := vs.text "macros" [], checksSyntax := vs.isOn "check-syntax" }

/-- The settings with those of the command line; a check of statements needs the database. -/
def Overrides.apply (o : Overrides) (c : Config) : Config :=
  { c with
    server := { c.server with
      address := Config.firstGiven o.address c.server.address
      metricsAddress := Config.firstGiven o.metricsAddress c.server.metricsAddress }
    macros := { c.macros with file := Config.firstGiven o.macros c.macros.file }
    database := { c.database with
      isEnabled := c.database.isEnabled || o.checksSyntax
      checksSyntax := c.database.checksSyntax || o.checksSyntax } }

/-! ### Errors -/

/-- Why the program fails. -/
inductive Error where
  | usage (e : Command.UsageError)
  | load (e : Config.LoadError)
  | config (e : Config.Error)
  | app (e : App.Error)
  | tls (e : TlsError)
  | auth (e : Config.AuthError)
  | database (e : App.OpenError)
  | server (e : Http.ServerError)
  | listen (cause : Text)

/-- The error in words. -/
def Error.message : Error → Text
  | usage e => e.message
  | load e => "load config: " ++ e.message
  | config e => "validate config: " ++ e.message
  | app e => e.message
  | tls e => "server tls: " ++ e.message
  | auth e => "api auth: " ++ e.message
  | database e => e.message
  | server e => "create server: " ++ e.message
  | listen cause => "run server: " ++ cause

variable {m : Type → Type} [Monad m]

/-- The settings of a file and the command line, checked together. -/
def loadConfig (host : Host m) (path : Text) (o : Overrides) : Run Error m Config := do
  let written ← operation .load (App.configOf host path)
  let c := o.apply written
  result .config c.check
  return c

/-- The settings of the service. -/
def settingsOf (c : Config) : Http.Settings :=
  { address := c.server.address, perMinute := c.server.perMinute, burst := c.server.burst
    maxRange := c.maxRange.toOption.getD 0, maxBatch := c.server.maxBatch
    checkSyntax := c.database.checksSyntax }

/-- The probes of a service: the database, where one is used, and the macros, where there is a file. -/
def probesOf (app : App) : List Http.Probe :=
  let loaded := fun (r : Macro.Registry) => Http.Probe.function "macros" (some
    (if r.definitions.isEmpty then some ("no macros loaded from " ++ r.path) else none))
  (if app.config.database.isEnabled then [.database (some none)] else []) ++
    (app.macros.map loaded).toList

/-- A service that is ready to listen, and where it shows measurements. -/
structure Prepared where
  server : Http.Server
  metricsAddress : Text

/-- Prepares the service: certificates, tokens and the database have to be in order. -/
def prepare (host : Host m) (release : Release) (c : Config) : Run Error m Prepared := do
  let app ← operation .app (App.load host c)
  if c.server.tls.isEnabled then discard <| operation .tls (Tls.forServer host c.server.tls)
  let auth ← result .auth c.tokenService
  if c.database.isEnabled then discard <| operation .database (App.openStorage host c)
  let server ← result .server
    (Http.Server.create (some (settingsOf c)) (some (.ofEngine app.engine)))
  return {
    server := { server with
      auth, probes := probesOf app, version := release.version
      macros := (app.macros.map (·.definitions)).getD [] }
    metricsAddress := c.server.metricsAddress }

/-- Starts to listen, for requests first and then for those about measurements. -/
def Prepared.listen (p : Prepared) : Except Error Unit := do
  (Address.listen p.server.settings.address).mapError .listen
  if !p.metricsAddress.isEmpty then (Metrics.listen p.metricsAddress).mapError .listen

/-- Does a task: the text to print before requests are served. -/
def perform (host : Host m) (release : Release) (vs : Values) : Task → Run Error m Text
  | .version => return release.banner "blazeql-server" ++ "\n"
  | .serve => do
    let c ← loadConfig host (vs.text "config" []) (.ofValues vs)
    let prepared ← prepare host release c
    result id prepared.listen
    return []

/-- Runs the program with the words of its command line: the text to print, or an error. -/
def run (host : Host m) (release : Release) (words : List Text) : m (Except Error Text) :=
  (do
    match ← result .usage (program.read rootCommand words) with
    | .help c => return program.help c
    | .unknownTopic topic => return program.unknownTopic rootCommand topic
    | .run task vs _ => perform host release vs task : Run Error m Text)

end LogSql.Service
