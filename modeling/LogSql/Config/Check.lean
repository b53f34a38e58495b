import LogSql.Auth.Service
import LogSql.Config.Basic

/-!
Which settings are refused, and what the accepted ones mean.
-/
namespace LogSql.Config

/-- Why a text is not a length of time for a setting. -/
inductive PeriodError where
  | unreadable (e : Duration.RangeError)
  | notPositive
  deriving DecidableEq, Repr

/-- The error in words. -/
def PeriodError.message : PeriodError → Text
  | unreadable e => e.message
  | notPositive => "duration must be positive"

/-- Reads a length of time in nanoseconds. -/
def period (t : Text) : Except PeriodError Int := do
  let d ← (Duration.readRange t).mapError .unreadable
  if d ≤ 0 then throw .notPositive
  return d

/-- How long the database may take to answer a call, in nanoseconds. -/
def dialTimeout (c : Config) : Except PeriodError Int := period c.database.dialTimeout

/-- The longest window of a request, in nanoseconds. -/
def maxRange (c : Config) : Except PeriodError Int := period c.query.maxRange

/-- How long a request may take, in nanoseconds. -/
def timeout (c : Config) : Except PeriodError Int := period c.query.timeout

/-- The lifetime of tokens in nanoseconds; a day when nothing is set. -/
def tokenLifetime (c : Config) : Except PeriodError Int :=
  if c.server.auth.lifetime.isEmpty then .ok 86400000000000 else period c.server.auth.lifetime

/-- The table policy. -/
def policy (c : Config) : Except Tables.Error Tables.Policy := Tables.Policy.ofConfig c.tables

/-- Why there is no token service. -/
inductive AuthError where
  | lifetime (e : PeriodError)
  | service (e : Auth.Error)

/-- The error in words. -/
def AuthError.message : AuthError → Text
  | lifetime e => e.message
  | service e => e.message

/-- The token service, when tokens are needed. -/
def tokenService (c : Config) : Except AuthError (Option Auth.Service) :=
  if !c.server.auth.isEnabled then .ok none
  else do
    let lifetime ← c.tokenLifetime.mapError .lifetime
    let service ← (Auth.Service.create c.server.auth.secret lifetime).mapError .service
    return some service

/-- Why settings are refused. -/
inductive Error where
  | noAddress
  | sameAddresses
  | negativeRate
  | negativeBatch
  | negativeLimit
  | badDialTimeout (e : PeriodError)
  | badMaxRange (e : PeriodError)
  | badTimeout (e : PeriodError)
  | checkWithoutDatabase
  | halfServerTls
  | halfClientTls
  | shortSecret
  | badLifetime (e : PeriodError)
  | watchWithoutFile
  | badTables (e : Tables.Error)
  deriving DecidableEq, Repr

/-- The error in words. -/
def Error.message : Error → Text
  | noAddress => "server.http_address is required"
  | sameAddresses => "server.metrics_address must differ from server.http_address"
  | negativeRate => "server rate limits must not be negative"
  | negativeBatch => "server.max_batch_size must not be negative"
  | negativeLimit => "query.default_limit must not be negative"
  | badDialTimeout e => "invalid clickhouse.dial_timeout: " ++ e.message
  | badMaxRange e => "invalid query.max_range: " ++ e.message
  | badTimeout e => "invalid query.timeout: " ++ e.message
  | checkWithoutDatabase => "clickhouse.check_syntax requires clickhouse.enabled"
  | halfServerTls => "server.tls requires both cert_file and key_file"
  | halfClientTls => "clickhouse.tls requires both cert_file and key_file"
  | shortSecret => "server.auth.jwt_secret must be at least 32 bytes"
  | badLifetime e => "invalid server.auth.token_ttl: " ++ e.message
  | watchWithoutFile => "macros.watch requires macros.file"
  | badTables e => "tables: " ++ e.message

/-- Refuses with an error when a condition holds. -/
def refuseIf (bad : Bool) (e : Error) : Except Error Unit := if bad then .error e else .ok ()

/-- Checks the settings of the service apart from its certificates and tokens. -/
def checkServer (s : ServerConfig) : Except Error Unit := do
  refuseIf s.address.isEmpty .noAddress
  refuseIf (!s.metricsAddress.isEmpty && s.metricsAddress = s.address) .sameAddresses
  refuseIf (s.perMinute < 0 || s.burst < 0) .negativeRate
  refuseIf (s.maxBatch < 0) .negativeBatch

/-- Checks that certificates come with their keys. -/
def checkTls (c : Config) : Except Error Unit := do
  let server := c.server.tls
  refuseIf (server.isEnabled && (server.certFile.isEmpty || server.keyFile.isEmpty)) .halfServerTls
  let client := c.database.tls
  refuseIf (client.certFile.isEmpty != client.keyFile.isEmpty) .halfClientTls

/-- Checks settings; the first fault in this order is reported. -/
def check (c : Config) : Except Error Unit := do
  checkServer c.server
  refuseIf (c.query.limit < 0) .negativeLimit
  discard <| c.dialTimeout.mapError Error.badDialTimeout
  discard <| c.maxRange.mapError Error.badMaxRange
  discard <| c.timeout.mapError Error.badTimeout
  refuseIf (c.database.checksSyntax && !c.database.isEnabled) .checkWithoutDatabase
  checkTls c
  let auth := c.server.auth
  refuseIf (auth.isEnabled && auth.secret.length < Auth.minSecretLength) .shortSecret
  discard <| c.tokenLifetime.mapError Error.badLifetime
  refuseIf (c.macros.watches && c.macros.file.isEmpty) .watchWithoutFile
  discard <| c.policy.mapError Error.badTables

end LogSql.Config
