import LogSql.Auth.Sha256
import LogSql.Files.Folder
import LogSql.Host

/-!
A machine in memory: a folder, some variables and an input, at a fixed instant. It has no terminal and
reaches no database.
-/
namespace LogSql

/-- The state of a machine. -/
structure Machine where
  folder : Folder := {}
  settings : List (Text × Text) := []
  input : Text := []
  now : Instant := 0
  /-- How many keys were drawn. -/
  drawn : Nat := 0

namespace Machine

/-- Changes the folder, if it can be changed so. -/
def change (f : Folder → Option Folder) : StateM Machine Bool := do
  let s ← get
  match f s.folder with
  | some folder =>
    set { s with folder }
    return true
  | none => return false

/-- The operations of the machine. No two keys that it draws are the same. -/
def host : Host (StateM Machine) where
  read path := return ((← get).folder.file? path).map (·.content)
  write path isSecret content := change fun f => f.write path isSecret content
  makeFolder path := change fun f => f.makeFolder path
  holds path := return (← get).folder.holds path
  setting name := return ((← get).settings.lookup name).getD []
  input := return (← get).input
  terminal := { isPresent := return false, print := fun _ => return (), readHidden := return .ok [] }
  now := return (← get).now
  random := do
    let s ← get
    set { s with drawn := s.drawn + 1 }
    return Auth.bigEndian 32 s.drawn
  dial _ := return .error "connection refused"

end Machine
end LogSql
