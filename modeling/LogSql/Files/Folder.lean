import LogSql.Files.Path

/-!
A folder with the files and folders below it.
-/
namespace LogSql

/-- A file, and whether only its owner may read it. -/
structure File where
  content : Text
  isSecret : Bool := false
  deriving DecidableEq, Repr

/-- What is below a folder, by the names that lead there. -/
structure Folder where
  folders : List (List Text) := []
  files : List (List Text × File) := []
  deriving DecidableEq, Repr

namespace Folder

/-- The place of a path below the folder; paths that lead elsewhere have none. -/
def place? (path : Text) : Option (List Text) :=
  let names := Path.names path
  if path.head? = some (Text.byte '/') ∨ names.head? = some ("..": Text) then none else some names

/-- The file at a place. -/
def fileAt? (f : Folder) (place : List Text) : Option File :=
  (f.files.find? fun p => p.1 = place).map (·.2)

/-- Whether there is a folder at a place. -/
def hasFolder (f : Folder) (place : List Text) : Bool := place.isEmpty || f.folders.contains place

/-- The file of a path. -/
def file? (f : Folder) (path : Text) : Option File := do f.fileAt? (← place? path)

/-- Whether a path leads to anything. -/
def holds (f : Folder) (path : Text) : Bool :=
  match place? path with
  | some place => (f.fileAt? place).isSome || f.hasFolder place
  | none => false

/-- The places on the way to a place, itself included. -/
def ancestors (place : List Text) : List (List Text) :=
  (List.range place.length).map fun n => place.take (n + 1)

/-- Makes sure that there is a folder, unless a file is in its way; the empty path names none. -/
def makeFolder (f : Folder) (path : Text) : Option Folder := do
  if path.isEmpty then none
  let places := ancestors (← place? path)
  if places.any fun p => (f.fileAt? p).isSome then none
  some { f with folders := f.folders ++ places.filter fun p => !f.folders.contains p }

/-- Writes a file into a folder that exists. A file that exists stays as secret as it is. -/
def write (f : Folder) (path : Text) (isSecret : Bool) (content : Text) : Option Folder := do
  let place ← place? path
  if f.hasFolder place ∨ !f.hasFolder place.dropLast then none
  let kept := ((f.fileAt? place).map (·.isSecret)).getD isSecret
  some { f with files := (place, ⟨content, kept⟩) :: f.files.filter fun p => p.1 ≠ place }

/-- Writes a file and makes the folders on the way. -/
def put (f : Folder) (path : Text) (content : Text) : Folder :=
  let parents := (Path.names path).dropLast
  let ready := if parents.isEmpty then some f else f.makeFolder (Text.join "/" parents)
  (ready.bind fun f => f.write path false content).getD f

/-- Removes a file. -/
def remove (f : Folder) (path : Text) : Folder :=
  let place := Path.names path
  { f with files := f.files.filter fun p => p.1 ≠ place }

/-- The paths of all files in order. -/
def paths (f : Folder) : List Text :=
  (f.files.map fun p => Text.join "/" p.1).mergeSort fun a b => !Text.lt b a

end Folder
end LogSql
