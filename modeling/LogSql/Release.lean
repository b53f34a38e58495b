import LogSql.Json.Value

/-!
Which release of the programs is running.
-/
namespace LogSql

/-- A release, and what it was built with and for. -/
structure Release where
  version : Text := "dev"
  commit : Text := "unknown"
  buildTime : Text := "unknown"
  toolchain : Text
  platform : Text
  deriving DecidableEq, Repr

namespace Release

/-- One line about the release of a program. -/
def banner (r : Release) (program : Text) : Text :=
  .concat [program, " ", r.version, " (", r.commit, ", ", r.buildTime, ") ", r.toolchain, " ",
    r.platform]

/-- The release as a document. -/
def toJson (r : Release) : Json :=
  .object [("version", .string r.version), ("commit", .string r.commit),
    ("build_time", .string r.buildTime), ("go_version", .string r.toolchain),
    ("platform", .string r.platform)]

end Release
end LogSql
