import LogSql.Tables
import LogSql.Time.Duration

/-!
The settings of the programs, as they are written down: durations are still texts, and an empty text
or a zero stands for a default.
-/
namespace LogSql

/-- The certificates with which the service answers; those of clients are asked for when there is a
file of authorities. -/
structure ServerTls where
  certFile : Text := []
  keyFile : Text := []
  clientAuthorities : Text := []
  deriving DecidableEq, Repr

/-- Whether the service answers over an encrypted connection. -/
def ServerTls.isEnabled (t : ServerTls) : Bool := !t.certFile.isEmpty || !t.keyFile.isEmpty

/-- How the database is spoken to over an encrypted connection. -/
structure ClientTls where
  isEnabled : Bool := false
  /-- The authorities to trust; without a file those of the system. -/
  authorities : Text := []
  certFile : Text := []
  keyFile : Text := []
  skipsVerification : Bool := false
  serverName : Text := []
  deriving DecidableEq, Repr

/-- The tokens that requests need. -/
structure AuthConfig where
  secret : Text := []
  lifetime : Text := []
  deriving DecidableEq, Repr

/-- Whether requests need a token. -/
def AuthConfig.isEnabled (a : AuthConfig) : Bool := !a.secret.isEmpty

/-- The settings of the service. -/
structure ServerConfig where
  address : Text := []
  /-- Where measurements are served; nowhere when empty. -/
  metricsAddress : Text := []
  perMinute : Int := 0
  burst : Int := 0
  maxBatch : Int := 0
  tls : ServerTls := {}
  auth : AuthConfig := {}
  deriving DecidableEq, Repr

/-- The settings of the database that checks statements. -/
structure DatabaseConfig where
  isEnabled : Bool := false
  addresses : List Text := []
  database : Text := []
  username : Text := []
  password : Text := []
  dialTimeout : Text := []
  compresses : Bool := false
  checksSyntax : Bool := false
  /-- Whether the tables are created first. -/
  migrates : Bool := false
  tls : ClientTls := {}
  deriving DecidableEq, Repr

/-- The file of macros, and whether it is read again when it changes. -/
structure MacroConfig where
  file : Text := []
  watches : Bool := false
  deriving DecidableEq, Repr

/-- The limits of requests. -/
structure QueryConfig where
  limit : Int := 0
  maxRange : Text := []
  timeout : Text := []
  deriving DecidableEq, Repr

/-- All settings. -/
structure Config where
  server : ServerConfig := {}
  database : DatabaseConfig := {}
  tables : Tables.Config := {}
  macros : MacroConfig := {}
  query : QueryConfig := {}
  deriving DecidableEq, Repr

/-- Secrets that the surroundings give; they win over written ones unless they are empty. -/
structure Secrets where
  token : Text := []
  password : Text := []
  deriving DecidableEq, Repr

/-- The variables that hold the secrets. -/
def Secrets.settings : Text × Text := ("BLAZEQL_JWT_SECRET", "BLAZEQL_CLICKHOUSE_PASSWORD")

namespace Config

/-- The first of two texts that is not empty. -/
def firstGiven (a b : Text) : Text := if a.isEmpty then b else a

/-- The first of two numbers that is not zero. -/
def firstNonzero (a b : Int) : Int := if a = 0 then b else a

/-- The settings with the given secrets and with defaults where nothing is set. -/
def withDefaults (secrets : Secrets) (c : Config) : Config :=
  { c with
    server := { c.server with
      address := firstGiven c.server.address ":8080"
      perMinute := firstNonzero c.server.perMinute 600
      maxBatch := firstNonzero c.server.maxBatch 50
      auth := {
        secret := firstGiven secrets.token c.server.auth.secret
        lifetime := firstGiven c.server.auth.lifetime "24h" } }
    database := { c.database with
      addresses := if c.database.addresses.isEmpty then ["localhost:9000"] else c.database.addresses
      database := firstGiven c.database.database "default"
      username := firstGiven c.database.username "default"
      password := firstGiven secrets.password c.database.password
      dialTimeout := firstGiven c.database.dialTimeout "5s" }
    query := {
      limit := firstNonzero c.query.limit 2000
      maxRange := firstGiven c.query.maxRange "30d"
      timeout := firstGiven c.query.timeout "10s" } }

/-- The settings when nothing is written down. -/
def default (secrets : Secrets) : Config := ({} : Config).withDefaults secrets

end Config
end LogSql
