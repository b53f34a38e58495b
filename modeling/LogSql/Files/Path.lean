import LogSql.Text.Basic

/-!
Paths: names with slashes between them.
-/
namespace LogSql.Path

/-- Takes a name into a path, given by its names from the last to the first; two points lead back, but
not above the root. -/
def step (rooted : Bool) (kept : List Text) (name : Text) : List Text :=
  if name.isEmpty ∨ name = ("." : Text) then kept
  else if name = (".." : Text) then
    match kept with
    | last :: before => if last = (".." : Text) then name :: kept else before
    | [] => if rooted then [] else [name]
  else name :: kept

/-- The names of a path without detours. -/
def names (t : Text) : List Text :=
  let rooted := t.head? = some (Text.byte '/')
  ((Text.splitByte (Text.byte '/') t).foldl (step rooted) []).reverse

/-- The path of a name in a folder, without detours. -/
def join (folder name : Text) : Text :=
  let whole := if folder.isEmpty then name else .concat [folder, "/", name]
  let path := Text.join "/" (names whole)
  if whole.head? = some (Text.byte '/') then Text.byte '/' :: path
  else if path.isEmpty then "." else path

end LogSql.Path
