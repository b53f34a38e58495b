import LogSql.Program.Client
import LogSql.Program.Server
import Std.Time.DateTime.Timestamp

/-!
The programs on a real machine. The name under which the executable is called decides which of the two
runs: one that ends in the service's name prepares the service, any other the command line program.
-/
namespace LogSql.Machinery

/-- A path as the operating system takes it; bytes that are no text lead nowhere. -/
def pathOf (t : Text) : String := (Text.toString? t).getD ""

/-- Whether an action ends without an error. -/
def succeeds (action : IO Unit) : IO Bool := do
  try
    action
    return true
  catch _ => return false

/-- The content of a file. -/
def readFile (path : Text) : IO (Option Text) := do
  try return some (← IO.FS.readBinFile (pathOf path)).toList
  catch _ => return none

/-- Writes a file with the rights that are asked for. -/
def writeFile (path : Text) (isSecret : Bool) (content : Text) : IO Bool := succeeds do
  IO.FS.writeBinFile (pathOf path) ⟨content.toArray⟩
  let others : IO.AccessRight := { read := !isSecret }
  IO.setAccessRights (pathOf path)
    { user := { read := true, write := true }, group := others, other := others }

/-- All that is left of a stream. -/
partial def readAll (s : IO.FS.Stream) (start : ByteArray) : IO ByteArray := do
  let more ← s.read 65536
  if more.isEmpty then return start else readAll s (start ++ more)

/-- The operations of the machine. Nothing is asked at a terminal, because typing cannot be hidden, and
no database can be reached. -/
def host : Host IO where
  read := readFile
  write := writeFile
  makeFolder path := succeeds (IO.FS.createDirAll (pathOf path))
  holds path := succeeds (discard <| IO.FS.Handle.mk (pathOf path) .read)
  setting name := return Text.ofString ((← IO.getEnv (pathOf name)).getD "")
  input := return (← readAll (← IO.getStdin) .empty).toList
  terminal := { isPresent := return false, print := fun _ => return (), readHidden := return .ok [] }
  now := return (← Std.Time.Timestamp.now).toNanosecondsSinceUnixEpoch.val
  random := return (← IO.getRandomBytes 32).toList
  dial _ := return .error "no way to a database"

/-- The release of this build. -/
def release : Release := { toolchain := "lean4", platform := "native" }

/-- Prints what a program has to say; the exit code tells failure. -/
def finish {ε : Type} (message : ε → Text) : Except ε Text → IO UInt32
  | .ok t => do
    let out ← IO.getStdout
    out.write ⟨t.toArray⟩
    out.flush
    return 0
  | .error e => do
    let out ← IO.getStderr
    out.write ⟨(Text.concat ["Error: ", message e, "\n"]).toArray⟩
    return 1

/-- Runs the program of a name with the words of its command line. -/
def run (called : String) (words : List Text) : IO UInt32 := do
  if called.endsWith "-server" then
    finish (·.message) (← Service.run host release words)
  else
    finish (·.message) (← Client.run host release words)

end LogSql.Machinery

/-- Runs the program that is called. -/
def main (args : List String) : IO UInt32 := do
  let called := ((← IO.appPath).fileStem).getD ""
  LogSql.Machinery.run called (args.map LogSql.Text.ofString)
