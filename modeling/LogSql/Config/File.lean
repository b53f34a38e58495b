import LogSql.Config.Check
import LogSql.Yaml.Decode

/-!
Settings from a file.
-/
namespace LogSql

open Yaml (Node)

/-- The part of the service in a document. -/
def ServerConfig.ofNode? (n : Node) : Option ServerConfig := do
  let fs ← n.fields?
  let tls ← Node.field fs "tls" Node.fields?
  let auth ← Node.field fs "auth" Node.fields?
  return {
    address := ← Node.field fs "http_address" Node.text?
    metricsAddress := ← Node.field fs "metrics_address" Node.text?
    perMinute := ← Node.field fs "rate_limit_per_ip" Node.int?
    burst := ← Node.field fs "rate_limit_burst" Node.int?
    maxBatch := ← Node.field fs "max_batch_size" Node.int?
    tls := {
      certFile := ← Node.field tls "cert_file" Node.text?
      keyFile := ← Node.field tls "key_file" Node.text?
      clientAuthorities := ← Node.field tls "client_ca_file" Node.text? }
    auth := {
      secret := ← Node.field auth "jwt_secret" Node.text?
      lifetime := ← Node.field auth "token_ttl" Node.text? } }

/-- How the database is spoken to, in a document. -/
def ClientTls.ofNode? (n : Node) : Option ClientTls := do
  let fs ← n.fields?
  return {
    isEnabled := ← Node.field fs "enabled" Node.bool?
    authorities := ← Node.field fs "ca_file" Node.text?
    certFile := ← Node.field fs "cert_file" Node.text?
    keyFile := ← Node.field fs "key_file" Node.text?
    skipsVerification := ← Node.field fs "insecure_skip_verify" Node.bool?
    serverName := ← Node.field fs "server_name" Node.text? }

/-- The part of the database in a document. -/
def DatabaseConfig.ofNode? (n : Node) : Option DatabaseConfig := do
  let fs ← n.fields?
  return {
    isEnabled := ← Node.field fs "enabled" Node.bool?
    addresses := ← Node.field fs "addresses" (Node.list? Node.text?)
    database := ← Node.field fs "database" Node.text?
    username := ← Node.field fs "username" Node.text?
    password := ← Node.field fs "password" Node.text?
    dialTimeout := ← Node.field fs "dial_timeout" Node.text?
    compresses := ← Node.field fs "compression" Node.bool?
    checksSyntax := ← Node.field fs "check_syntax" Node.bool?
    migrates := ← Node.field fs "migrate" Node.bool?
    tls := ← Node.field fs "tls" ClientTls.ofNode? }

/-- One partition in a document. -/
def Tables.Partition.ofNode? (n : Node) : Option Tables.Partition := do
  let fs ← n.fields?
  return ⟨← Node.field fs "since" Node.instant?, ← Node.field fs "table" Node.text?⟩

/-- The part of the tables in a document. -/
def Tables.Config.ofNode? (n : Node) : Option Tables.Config := do
  let fs ← n.fields?
  return {
    database := ← Node.field fs "database" Node.text?
    samples := ← Node.field fs "samples_table" Node.text?
    timeSeries := ← Node.field fs "time_series_table" Node.text?
    partitions := ← Node.field fs "partitions" (Node.list? Tables.Partition.ofNode?)
    datedSince := ← Node.field fs "v3_1_since" Node.instant? }

namespace Config

/-- The settings in a document; fields that it does not mention are unset. -/
def ofNode? (n : Node) : Option Config := do
  let fs ← n.fields?
  let macros ← Node.field fs "macros" Node.fields?
  let query ← Node.field fs "query" Node.fields?
  return {
    server := ← Node.field fs "server" ServerConfig.ofNode?
    database := ← Node.field fs "clickhouse" DatabaseConfig.ofNode?
    tables := ← Node.field fs "tables" Tables.Config.ofNode?
    macros := {
      file := ← Node.field macros "file" Node.text?
      watches := ← Node.field macros "watch" Node.bool? }
    query := {
      limit := ← Node.field query "default_limit" Node.int?
      maxRange := ← Node.field query "max_range" Node.text?
      timeout := ← Node.field query "timeout" Node.text? } }

/-- Why a file gives no settings. -/
inductive LoadError where
  | unreadable
  | malformed
  | refused (e : Error)
  deriving DecidableEq, Repr

/-- The error in words. -/
def LoadError.message : LoadError → Text
  | unreadable => "read config file: no such file"
  | malformed => "parse config: not a settings document"
  | refused e => "validate config: " ++ e.message

/-- The settings in a file with some content, completed and checked. -/
def load (secrets : Secrets) (content : Option Text) : Except LoadError Config := do
  let text ← content.elim (.error .unreadable) .ok
  let written ← ((Node.read? text).bind ofNode?).elim (.error .malformed) .ok
  let c := written.withDefaults secrets
  (check c).mapError .refused
  return c

end Config
end LogSql
