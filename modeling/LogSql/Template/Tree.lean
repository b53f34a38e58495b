import LogSql.Template.Value

/-!
Parsed templates: literal text, actions that print a value, and the constructs that choose, repeat
or include other parts.
-/
namespace LogSql.Template

/-- A pipeline: the variables it sets and its commands, each handing its value to the next. A
command is an operand and its arguments. -/
structure PipeOf (ε : Type) where
  /-- Whether the variables exist already. -/
  assigns : Bool := false
  vars : List Text := []
  commands : List (List ε)
  deriving DecidableEq, Repr

/-- Operands. -/
inductive Operand where
  | dot
  | absent
  | bool (b : Bool)
  | number (l : Literal)
  | text (t : Text)
  | field (path : List Text)
  | variable (name : Text) (path : List Text)
  | function (name : Text)
  | pipe (p : PipeOf Operand)
  /-- Fields of a computed value. -/
  | chain (base : Operand) (path : List Text)

/-- A pipeline of operands. -/
abbrev Pipe := PipeOf Operand

/-- Whether the operand can only stand at the start of a pipeline. -/
def Operand.isConstant : Operand → Bool
  | dot | absent | bool _ | number _ | text _ => true
  | _ => false

/-- Parts of a template. -/
inductive Part where
  | text (t : Text)
  | action (p : Pipe)
  | choose (p : Pipe) (yes no : List Part)
  | within (p : Pipe) (yes no : List Part)
  | range (p : Pipe) (body no : List Part)
  | call (name : Text) (argument : Option Pipe)
  | breakLoop
  | continueLoop

/-- Whether parts leave nothing but white space. -/
def isBlankTree (parts : List Part) : Bool :=
  parts.all fun
    | .text t => (Text.trim t).isEmpty
    | _ => false

/-- The named trees of a template; the first entry of a name counts. -/
abbrev Trees := List (Text × List Part)

namespace Trees

/-- The tree of a name. -/
def get? (ts : Trees) (name : Text) : Option (List Part) :=
  (ts.find? fun p => p.1 = name).map (·.2)

/-- Adds a tree. A tree that leaves nothing may be replaced, and never replaces another. -/
def add (ts : Trees) (name : Text) (parts : List Part) : Option Trees :=
  match ts.get? name with
  | none => some ((name, parts) :: ts)
  | some old =>
    if isBlankTree old then some ((name, parts) :: ts)
    else if isBlankTree parts then some ts
    else none

end Trees
end LogSql.Template
