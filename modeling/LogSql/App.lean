import LogSql.Certificate.Tls
import LogSql.Compile.Engine
import LogSql.Config.File
import LogSql.Macro.Registry

/-!
What the programs share: a compiler with the configured tables and macros, and the way to the
database.
-/
namespace LogSql

/-- A compiler with its settings. -/
structure App where
  config : Config
  engine : Compile.Engine
  /-- The macros, when a file of them is configured. -/
  macros : Option Macro.Registry := none

namespace App

/-- Why there is no compiler. -/
inductive Error where
  | tables (e : Tables.Error)
  | macros (e : Macro.RegistryError)
  deriving DecidableEq, Repr

/-- The error in words. -/
def Error.message : Error → Text
  | tables e => "tables: " ++ e.message
  | macros e => "load macros: " ++ e.message

/-- The macros of a configuration, given the content of their file. -/
def macrosOf (c : Config) (content : Option Text) : Except Error (Option Macro.Registry) :=
  if c.macros.file.isEmpty then .ok none
  else ((Macro.Registry.load c.macros.file content).map some).mapError .macros

/-- The limit of rows, which has to be positive to replace the usual one. -/
def limitOf (c : Config) : Nat := if 0 < c.query.limit then c.query.limit.toNat else Compile.defaultLimit

/-- A compiler for a configuration at an instant, given the content of the macros file. -/
def create (c : Config) (now : Instant) (content : Option Text) : Except Error App := do
  let policy ← c.policy.mapError .tables
  let macros ← macrosOf c content
  return {
    config := c, macros
    engine := {
      registry := .full true, policy, now := Instant.millis now, limit := limitOf c
      macros := (macros.map (·.macros)).getD [] } }

/-- Why the database cannot be used. -/
inductive OpenError where
  | dialTimeout (e : Config.PeriodError)
  | tls (e : TlsError)
  | closed (e : Storage.Error)
  | tables (e : Tables.Error)
  | migration (e : Storage.Error)
  deriving DecidableEq, Repr

/-- The error in words. -/
def OpenError.message : OpenError → Text
  | dialTimeout e => e.message
  | tls e => "clickhouse tls: " ++ e.message
  | closed e => "open clickhouse: " ++ e.message
  | tables e => e.message
  | migration e => e.message

/-- How the configured database is reached. -/
def storageOptions (c : DatabaseConfig) (dialTimeout : Int) (tls : Option Tls) : Storage.Options :=
  ({ addresses := c.addresses, database := c.database, username := c.username
     password := c.password, dialTimeout, compresses := c.compresses
     isEncrypted := tls.isSome } : Storage.Options).withDefaults

variable {m : Type → Type} [Monad m]

/-- Reads what a configuration refers to, and makes a compiler. -/
def load (host : Host m) (c : Config) : m (Except Error App) := do
  let now ← host.now
  let content ← if c.macros.file.isEmpty then pure none else host.read c.macros.file
  return create c now content

/-- Connects to the configured database, and creates its tables where that is asked for. -/
def openStorage (host : Host m) (c : Config) : m (Except OpenError (Storage.Link m)) := do
  match c.dialTimeout with
  | .error e => return .error (.dialTimeout e)
  | .ok timeout =>
    match ← Tls.forClient host c.database.tls with
    | .error e => return .error (.tls e)
    | .ok tls =>
      match ← host.dial (storageOptions c.database timeout tls) with
      | .error detail => return .error (.closed (.unreachable detail))
      | .ok db =>
        let link := Storage.Link.live db
        if !c.database.migrates then return .ok link
        match c.policy with
        | .error e => return .error (.tables e)
        | .ok policy =>
          match ← link.migrate (policy.tableFor 0) policy.timeSeriesTable with
          | .error e => return .error (.migration e)
          | .ok _ => return .ok link

/-- The secrets of the surroundings. -/
def secrets (host : Host m) : m Secrets :=
  return ⟨← host.setting Secrets.settings.1, ← host.setting Secrets.settings.2⟩

/-- The settings of a file, or the default ones when no file is named. -/
def configOf (host : Host m) (path : Text) : m (Except Config.LoadError Config) := do
  let secrets ← secrets host
  if path.isEmpty then return .ok (Config.default secrets)
  return Config.load secrets (← host.read path)

end App
end LogSql
