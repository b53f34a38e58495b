import LogSql.Text.Basic

/-!
Label sets: texts by name, kept in the order of the names so that equal sets are equal lists.
-/
namespace LogSql

/-- Labels, each name once and in byte order. -/
abbrev Labels := List (Text × Text)

namespace Labels

/-- The value of a label, when there is one. -/
def get? (ls : Labels) (name : Text) : Option Text := (ls.find? fun l => l.1 = name).map (·.2)

/-- Sets a label. -/
def set (ls : Labels) (name value : Text) : Labels :=
  match ls with
  | [] => [(name, value)]
  | (n, v) :: rest =>
    if n = name then (name, value) :: rest
    else if Text.lt name n then (name, value) :: (n, v) :: rest
    else (n, v) :: set rest name value

/-- Sets labels one after the other, so that the last one of a name counts. -/
def setAll (ls : Labels) (more : List (Text × Text)) : Labels :=
  more.foldl (fun acc l => set acc l.1 l.2) ls

/-- The labels of a list, of which the last one of a name counts. -/
def ofList (ls : List (Text × Text)) : Labels := setAll [] ls

end Labels
end LogSql
