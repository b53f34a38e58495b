import LogSql.Number.Read

/-!
JSON documents. Numbers keep their spelling, so that each use can read them in its own way; the
members of an object keep their order.
-/
namespace LogSql

/-- A JSON value. -/
inductive Json where
  | null
  | bool (b : Bool)
  | number (literal : Text)
  | string (t : Text)
  | array (items : List Json)
  | object (members : List (Text × Json))
  deriving Repr

namespace Json

/-- An integer. -/
def int (n : Int) : Json := number (Text.ofInt n)

/-- A text as a member of an object; an empty one is left out. -/
def textMember (name t : Text) : List (Text × Json) := if t.isEmpty then [] else [(name, string t)]

/-- The member of a name; of several the last one counts. -/
def member? (members : List (Text × Json)) (name : Text) : Option Json :=
  members.reverse.lookup name

/-- The members with the last value of each name, in the order of the names. -/
def sorted {α : Type} (members : List (Text × α)) : List (Text × α) :=
  let insert := fun (acc : List (Text × α)) (m : Text × α) =>
    let others := acc.filter fun n => n.1 ≠ m.1
    others.takeWhile (fun n => Text.lt n.1 m.1) ++ [m] ++
      others.dropWhile (fun n => Text.lt n.1 m.1)
  members.foldl insert []

end Json
end LogSql
