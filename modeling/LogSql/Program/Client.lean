import LogSql.App
import LogSql.Certificate.Authority
import LogSql.Command.Help
import LogSql.Program.Report
import LogSql.Program.Run
import LogSql.Release
import LogSql.Text.Columns
import LogSql.Time.Moment

/-!
The command line program. It compiles queries, asks the database about the result, lists macros, mints
tokens and makes certificates.
-/
namespace LogSql.Client

open Run (result operation)
open Command (Flag Program Values)

/-- What the program does. -/
inductive Task where
  | explain
  | transpile
  | check
  | tail
  | series
  | macros
  | token
  | version
  | authority
  | serverCertificate
  | clientCertificate
  deriving DecidableEq, Repr

/-! ### Commands -/

/-- A flag with a text. -/
def textFlag (name usage : Text) : Flag := { name, usage, initial := .text [] }

/-- The flags of windows. -/
def sinceFlag (anchor : Text) : Flag :=
  textFlag "since" (.concat ["range start relative to ", anchor, ", e.g. 1h"])

/-- The flag of the step. -/
def stepFlag : Flag := textFlag "step" "matrix step, e.g. 60 or 1m"

/-- The flag of the folder with an authority. -/
def authorityFlag : Flag := { textFlag "ca" "directory holding ca.crt and ca.key" with initial := .text "." }

/-- The program itself. -/
def rootCommand : Command Task where
  path := []
  action := .task .explain
  short := "blazeql - LogQL to ClickHouse SQL transpiler"
  long := "blazeql compiles LogQL queries into ClickHouse SQL over the
samples and time_series tables.

Examples:
  # Compile a log query for the last hour
  blazeql transpile '\x7bapp=\"api\"\x7d |= \"error\"' --since 1h

  # Compile a metric query with a 1 minute step
  blazeql transpile 'sum by (host) (rate(\x7bapp=\"api\"\x7d[5m]))' --step 1m

  # Compile a live tail query
  blazeql tail '\x7bapp=\"api\"\x7d | json'

  # Compile series discovery for two selectors
  blazeql series '\x7bapp=\"api\"\x7d' '\x7benv=\"prod\"\x7d'

  # Validate the generated SQL against ClickHouse
  blazeql check 'count_over_time(\x7bapp=\"api\"\x7d[1m])' -c blazeql.yaml"
  shared := [
    { textFlag "config" "config file path (optional)" with letter := some (Text.byte 'c') },
    textFlag "macros" "macro definitions file",
    { name := "verbose", letter := some (Text.byte 'v'), initial := .switch false
      usage := "verbose output" },
    { name := "output", letter := some (Text.byte 'o'), initial := .text "plain"
      usage := "output format (plain, json)" }]

/-- Compiles a query. -/
def transpileCommand : Command Task where
  path := ["transpile"]
  arguments := "[query]"
  action := .task .transpile
  short := "Compile a LogQL query to ClickHouse SQL"
  long := "Compile a LogQL log or metric query to ClickHouse SQL.

The query is read from stdin when omitted or \"-\". Times accept RFC3339,
Unix seconds or Unix nanoseconds.

Examples:
  blazeql transpile '\x7bapp=\"api\"\x7d |= \"error\" | json | status >= 500'
  blazeql transpile 'rate(\x7bapp=\"api\"\x7d[5m])' --since 6h --step 1m
  echo '\x7bapp=\"api\"\x7d' | blazeql transpile -o json"
  flags := [textFlag "start" "range start", textFlag "end" "range end (default: now)",
    sinceFlag "end", stepFlag,
    { name := "limit", letter := some (Text.byte 'n'), initial := .int 0
      usage := "row limit for log queries (0 = configured default)" },
    textFlag "direction" "forward or backward"]

/-- Checks a query with the database. -/
def checkCommand : Command Task where
  path := ["check"]
  arguments := "[query]"
  action := .task .check
  short := "Validate the generated SQL with ClickHouse"
  long := "Compile a LogQL query and run EXPLAIN SYNTAX on the result using the
ClickHouse connection from the config file. Exits non-zero when ClickHouse
rejects the statement. When neither the config nor
BLAZEQL_CLICKHOUSE_PASSWORD supplies a password and stdin is a terminal,
the password is prompted for without echo.

Examples:
  blazeql check 'sum(rate(\x7bapp=\"api\"\x7d[1m]))' -c blazeql.yaml"
  flags := [{ name := "timeout", initial := .duration 10000000000, usage := "syntax check timeout" },
    sinceFlag "now", stepFlag]

/-- Compiles a live tail. -/
def tailCommand : Command Task where
  path := ["tail"]
  arguments := "[query]"
  action := .task .tail
  short := "Compile a LogQL live tail query"
  long := "Compile a LogQL log query into the polling SQL used for live tailing.

Metric queries and macros are rejected.

Examples:
  blazeql tail '\x7bapp=\"api\"\x7d |= \"error\"'"

/-- Compiles a list of series. -/
def seriesCommand : Command Task where
  path := ["series"]
  arguments := "selector [selector...]"
  action := .task .series
  arity := .atLeast 1
  short := "Compile series discovery for stream selectors"
  long := "Compile the SQL listing the distinct label sets matching any of the
given stream selectors.

Examples:
  blazeql series '\x7bapp=\"api\"\x7d' '\x7benv=~\"prod|stage\"\x7d'"

/-- Lists the macros. -/
def macrosCommand : Command Task where
  path := ["macros"]
  action := .task .macros
  arity := .none
  short := "List the configured macros"
  long := "List the user macros loaded from --macros or the config file.

Examples:
  blazeql macros --macros /etc/blazeql/macros.yaml"

/-- Mints a token. -/
def tokenCommand : Command Task where
  path := ["token"]
  action := .task .token
  arity := .none
  short := "Mint an API bearer token"
  long := "Sign a bearer token for the HTTP API with server.auth.jwt_secret from the
config file, or BLAZEQL_JWT_SECRET.

Examples:
  BLAZEQL_JWT_SECRET=... blazeql token --subject grafana --ttl 720h"
  flags := [textFlag "subject" "client name stored in the token (required)",
    { name := "ttl", initial := .duration 0
      usage := "token lifetime, defaults to server.auth.token_ttl" }]
  required := ["subject"]

/-- Names the release. -/
def versionCommand : Command Task where
  path := ["version"]
  action := .task .version
  short := "Print version information"
  long := "Print the version, commit, and build time of blazeql."

/-- Makes certificates. -/
def certificateCommands : List (Command Task) :=
  [{ path := ["certs"], action := .group
     short := "Issue TLS certificates for the API and ClickHouse"
     long := "Create a private CA and issue certificates for server.tls and
clickhouse.tls.

Examples:
  blazeql certs ca --out ./certs
  blazeql certs server api --ca ./certs --host api.internal
  blazeql certs client reader --ca ./certs"
     shared := [{ textFlag "out" "output directory" with initial := .text "." },
       { name := "days", initial := .int 0, usage := "validity in days (0 = default)" }] },
   { path := ["certs", "ca"], action := .task .authority, arity := .none
     short := "Create a certificate authority" },
   { path := ["certs", "server"], arguments := "name", action := .task .serverCertificate
     arity := .exactly 1, short := "Issue a server certificate"
     flags := [authorityFlag,
       { name := "host", initial := .list [], usage := "additional DNS name or IP" }] },
   { path := ["certs", "client"], arguments := "name", action := .task .clientCertificate
     arity := .exactly 1, short := "Issue a client certificate", flags := [authorityFlag] }]

/-- The program. -/
def program : Program Task :=
  { name := "blazeql"
    commands := [rootCommand, transpileCommand, checkCommand, tailCommand, seriesCommand, macrosCommand,
      tokenCommand, versionCommand] ++ certificateCommands ++ Program.common "blazeql" }

/-! ### Errors -/

/-- Why the program fails. -/
inductive Error where
  | usage (e : Command.UsageError)
  | config (e : Config.LoadError)
  | app (e : App.Error)
  | noQuery
  | badTime (flag : Text) (text : Text)
  | sinceAndStart
  | badSince (e : Duration.RangeError)
  | compile (e : Compile.Error)
  | unknownFormat (name : Text)
  | password (cause : Text)
  | database (e : App.OpenError)
  | rejected (e : Storage.Error) (sql : Text)
  | noSecret
  | lifetime (e : Config.PeriodError)
  | token (e : Auth.Error)
  | authorityExists (folder : Text)
  | certificate (e : CertificateError)

/-- The error in words. -/
def Error.message : Error → Text
  | usage e => e.message
  | config e => e.message
  | app e => e.message
  | noQuery => "query is required"
  | badTime flag text => .concat ["--", flag, ": ", Moment.refusal text]
  | sinceAndStart => "--since and --start are mutually exclusive"
  | badSince e => "--since: " ++ e.message
  | compile e => e.message
  | unknownFormat name => "unknown output format " ++ Text.quote name
  | password cause => "read password: " ++ cause
  | database e => e.message
  | rejected e sql => .concat [e.message, "\n", sql]
  | noSecret => "no jwt secret: set server.auth.jwt_secret or BLAZEQL_JWT_SECRET"
  | lifetime e => e.message
  | token e => e.message
  | authorityExists folder => "CA already exists in " ++ folder
  | certificate e => e.message

/-! ### Requests -/

/-- The window and the rest of a request, as they are typed. -/
structure Asked where
  start : Text := []
  stop : Text := []
  since : Text := []
  step : Text := []
  limit : Int := 0
  direction : Text := []
  deriving DecidableEq, Repr

/-- What is typed as flags. -/
def Asked.ofValues (vs : Values) : Asked :=
  { start := vs.text "start" [], stop := vs.text "end" [], since := vs.text "since" []
    step := vs.text "step" [], limit := vs.int "limit", direction := vs.text "direction" [] }

/-- A moment that is typed as a flag. -/
def moment (flag text : Text) : Except Error Int :=
  (Moment.read? text).elim (.error (.badTime flag text)) .ok

/-- The request for a query at an instant. A length of time leads back from the end, which is now when
none is given. -/
def Asked.request (a : Asked) (now : Instant) (query : Text) : Except Error Compile.Request := do
  let stop ← moment "end" a.stop
  let start ← moment "start" a.start
  let request : Compile.Request :=
    { query, start, stop, step := a.step, limit := a.limit, forward := a.direction = ("forward" : Text) }
  if a.since.isEmpty then return request
  if !a.start.isEmpty then throw .sinceAndStart
  let back ← (Duration.readRange a.since).mapError .badSince
  let stop := if stop = 0 then Instant.millis now else stop
  return { request with stop, start := Int64Range.wrap (stop - Duration.milliseconds back) }

/-- The query among the arguments; it is typed elsewhere when there are none or the first is a dash. -/
def queryOf (args : List Text) (typed : Text) : Except Error Text :=
  let parts := match args with
    | [] => [typed]
    | first :: _ => if first = ("-" : Text) then [typed] else args
  let query := Text.trim (Text.join " " parts)
  if query.isEmpty then .error .noQuery else .ok query

/-- A result in the format that is asked for. -/
def printed (vs : Values) (document : Json) (plain : Text) : Except Error Text :=
  match Report.Format.ofName (vs.text "output" "plain") with
  | .json => .ok (Report.documentText document)
  | .plain => .ok (plain ++ "\n")
  | .unknown name => .error (.unknownFormat name)

/-! ### Tokens and macros -/

/-- The lifetime of a token: the one asked for, or that of the configuration. -/
def lifetimeOf (c : Config) (asked : Int) : Except Error Int :=
  if asked = 0 then c.tokenLifetime.mapError .lifetime else .ok asked

/-- The document about a token. -/
def tokenDocument (now : Instant) (lifetime : Int) (token subject : Text) : Json :=
  let expires : List (Text × Json) :=
    if 0 < lifetime then
      [("expires_at", .string (Instant.text ((now + lifetime).fdiv 1000000000 * 1000000000)))]
    else []
  .object (("token", .string token) :: ("subject", .string subject) :: expires)

/-- Mints a token at an instant. -/
def mintToken (c : Config) (now : Instant) (vs : Values) : Except Error Text := do
  if !c.server.auth.isEnabled then throw .noSecret
  let lifetime ← lifetimeOf c (vs.int "ttl")
  let service ← (Auth.Service.create c.server.auth.secret lifetime).mapError .token
  let subject := vs.text "subject" []
  let token ← (service.mint now subject).mapError .token
  printed vs (tokenDocument now lifetime token subject) token

/-- A macro in a document. -/
def macroDocument (d : Macro.Definition) : Json :=
  .object [("Name", .string d.name), ("Description", .string d.description),
    ("Params", if d.params.isEmpty then .null else .array (d.params.map .string)),
    ("Template", .string d.template), ("Validate", .string d.validate)]

/-- The macros in columns. -/
def macroTable (ds : List Macro.Definition) : Text :=
  Columns.text (Text.concat ("NAME\tPARAMS\tDESCRIPTION\n" :: ds.map fun d =>
    Text.concat [d.name, "\t", Text.join "," d.params, "\t", d.description, "\n"]))

/-- The list of macros, in columns unless a document is asked for. -/
def listMacros (vs : Values) (ds : List Macro.Definition) : Text :=
  if Report.Format.ofName (vs.text "output" "plain") = .json then
    Report.documentText (if ds.isEmpty then .null else .array (ds.map macroDocument))
  else macroTable ds

/-- The release, in one line unless a document is asked for. -/
def showRelease (vs : Values) (r : Release) : Text :=
  if Report.Format.ofName (vs.text "output" "plain") = .json then Report.documentText r.toJson
  else r.banner "blazeql" ++ "\n"

/-! ### Running -/

variable {m : Type → Type} [Monad m]

/-- The compiler that the flags ask for. Macros are read once. -/
def loadApp (host : Host m) (vs : Values) : Run Error m App := do
  let c ← operation .config (App.configOf host (vs.text "config" []))
  let file := vs.text "macros" []
  let macros : MacroConfig := { file := if file.isEmpty then c.macros.file else file, watches := false }
  operation .app (App.load host { c with macros })

/-- The query that is asked for. -/
def readQuery (host : Host m) (args : List Text) : Run Error m Text := do
  let typed ← match args with
    | [] => host.input
    | first :: _ => if first = ("-" : Text) then host.input else pure []
  result id (queryOf args typed)

/-- Asks for the password of the database when there is none and somebody can type it. -/
def promptPassword (t : Terminal m) (c : DatabaseConfig) : Run Error m DatabaseConfig := do
  if !c.password.isEmpty then return c
  if !(← t.isPresent) then return c
  t.print (.concat ["ClickHouse password for ", c.username, ": "])
  let typed ← t.readHidden
  t.print "\n"
  let password ← result .password typed
  return { c with password }

/-- Compiles a query. -/
def transpile (host : Host m) (vs : Values) (args : List Text) : Run Error m Text := do
  let query ← readQuery host args
  let request ← result id ((Asked.ofValues vs).request (← host.now) query)
  let app ← loadApp host vs
  let compiled ← result .compile (app.engine.compile request)
  result id (printed vs (Report.compiled compiled) compiled.text)

/-- Compiles a query and checks the statement with the database. -/
def check (host : Host m) (vs : Values) (args : List Text) : Run Error m Text := do
  let query ← readQuery host args
  let app ← loadApp host vs
  let request ← result id ((Asked.ofValues vs).request (← host.now) query)
  let compiled ← result .compile (app.engine.compile request)
  let database ← promptPassword host.terminal app.config.database
  let link ← operation .database (App.openStorage host { app.config with database })
  let sql := compiled.text
  let formatted ← operation (Error.rejected · sql) (link.check sql)
  result id (printed vs (.object [("sql", .string sql), ("formatted", .string formatted)]) formatted)

/-- Compiles a live tail. -/
def tail (host : Host m) (vs : Values) (args : List Text) : Run Error m Text := do
  let query ← readQuery host args
  let app ← loadApp host vs
  let compiled ← result .compile (app.engine.compileTail query)
  result id (printed vs (Report.tail compiled) compiled.text)

/-- Compiles a list of series. -/
def series (host : Host m) (vs : Values) (args : List Text) : Run Error m Text := do
  let app ← loadApp host vs
  let sql ← result .compile (app.engine.compileSeries args)
  result id (printed vs (.object [("sql", .string sql)]) sql)

/-- Makes an authority, unless there is one. -/
def makeAuthority (host : Host m) (vs : Values) : Run Error m Text := do
  let folder := vs.text "out" "."
  if ← host.holds (Path.join folder "ca.key") then throw (.authorityExists folder)
  operation .certificate (Authority.generate host folder (vs.int "days"))
  return .concat ["CA written to ", folder, "\n"]

/-- Issues a certificate. -/
def issue (host : Host m) (vs : Values) (purpose : Purpose) (args : List Text) : Run Error m Text := do
  let name := args.headD []
  let authority ← operation .certificate (Authority.load host (vs.text "ca" "."))
  let folder := vs.text "out" "."
  operation .certificate
    (Authority.issue host authority purpose name folder (vs.int "days") (vs.list "host"))
  return .concat [name, ".crt and ", name, ".key written to ", folder, "\n"]

/-- Does a task. -/
def perform (host : Host m) (release : Release) (vs : Values) (args : List Text) : Task → Run Error m Text
  | .explain => return program.help rootCommand
  | .transpile => transpile host vs args
  | .check => check host vs args
  | .tail => tail host vs args
  | .series => series host vs args
  | .macros => do
    let app ← loadApp host vs
    return listMacros vs ((app.macros.map (·.definitions)).getD [])
  | .token => do
    let c ← operation .config (App.configOf host (vs.text "config" []))
    result id (mintToken c (← host.now) vs)
  | .version => return showRelease vs release
  | .authority => makeAuthority host vs
  | .serverCertificate => issue host vs .server args
  | .clientCertificate => issue host vs .client args

/-- Runs the program with the words of its command line: the text to print, or an error. -/
def run (host : Host m) (release : Release) (words : List Text) : m (Except Error Text) :=
  (do
    match ← result .usage (program.read rootCommand words) with
    | .help c => return program.help c
    | .unknownTopic topic => return program.unknownTopic rootCommand topic
    | .run task vs args => perform host release vs args task : Run Error m Text)

end LogSql.Client
