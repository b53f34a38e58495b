import LogSql.Config.Check
import LogSql.Json.Value

/-!
Settings as a document, under the names by which they are written in files, with what they come to.
-/
namespace LogSql

/-- Members that are texts, then those that are true or false, then others. -/
def Json.record (texts : List (Text × Text)) (flags : List (Text × Bool)) (more : List (Text × Json)) :
    Json :=
  .object (texts.map (fun m => (m.1, .string m.2)) ++ flags.map (fun m => (m.1, .bool m.2)) ++ more)

/-- An instant in milliseconds, unless it is unset. -/
def Instant.toJson (t : Instant) : Json :=
  if t = Instant.unset then .null else Json.int (Instant.millis t)

/-- The settings of the service as a document. -/
def ServerConfig.toJson (s : ServerConfig) : Json :=
  .record [("http_address", s.address), ("metrics_address", s.metricsAddress)] []
    [("rate_limit_per_ip", .int s.perMinute), ("rate_limit_burst", .int s.burst),
      ("max_batch_size", .int s.maxBatch),
      ("tls", .record [("cert_file", s.tls.certFile), ("key_file", s.tls.keyFile),
        ("client_ca_file", s.tls.clientAuthorities)] [("enabled", s.tls.isEnabled)] []),
      ("auth", .record [("jwt_secret", s.auth.secret), ("token_ttl", s.auth.lifetime)]
        [("enabled", s.auth.isEnabled)] [])]

/-- The settings of the database as a document. -/
def DatabaseConfig.toJson (d : DatabaseConfig) : Json :=
  .record [("database", d.database), ("username", d.username), ("password", d.password),
      ("dial_timeout", d.dialTimeout)]
    [("enabled", d.isEnabled), ("compression", d.compresses), ("check_syntax", d.checksSyntax),
      ("migrate", d.migrates)]
    [("addresses", .array (d.addresses.map .string)),
      ("tls", .record [("ca_file", d.tls.authorities), ("cert_file", d.tls.certFile),
          ("key_file", d.tls.keyFile), ("server_name", d.tls.serverName)]
        [("enabled", d.tls.isEnabled), ("insecure_skip_verify", d.tls.skipsVerification)] [])]

/-- The settings of the tables as a document. -/
def Tables.Config.toJson (t : Tables.Config) : Json :=
  .record [("database", t.database), ("samples_table", t.samples), ("time_series_table", t.timeSeries)] []
    [("partitions", .array (t.partitions.map fun p => .array [p.since.toJson, .string p.table])),
      ("v3_1_since", t.datedSince.toJson)]

namespace Config

/-- The settings as a document. -/
def toJson (c : Config) : Json :=
  .object [("server", c.server.toJson), ("clickhouse", c.database.toJson), ("tables", c.tables.toJson),
    ("macros", .record [("file", c.macros.file)] [("watch", c.macros.watches)] []),
    ("query", .record [("max_range", c.query.maxRange), ("timeout", c.query.timeout)] []
      [("default_limit", .int c.query.limit)])]

/-- The lifetime of tokens as the service has it, if tokens are needed. -/
def serviceLifetime (c : Config) : Except AuthError (Option Int) :=
  c.tokenService.map fun s => s.map (·.lifetime)

end Config
end LogSql
