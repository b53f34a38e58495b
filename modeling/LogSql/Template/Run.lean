import LogSql.Template.Function
import LogSql.Template.Parser

/-!
Running templates. What was printed before a failure is kept, so that a caller can show it.
-/
namespace LogSql.Template

/-- How deep templates may call each other. -/
def maxCallDepth : Nat := 2000

/-- A template ready to run. -/
structure Program where
  name : Text
  trees : Trees
  functions : List (Text × Function)
  /-- Whether a key that a table lacks fails the template; otherwise it stands for the empty text. -/
  strict : Bool := false

/-- What a run has done so far: the printed texts, last first, and the variables in scope. -/
structure Machine where
  printed : List Text := []
  vars : List (Text × Value)

/-- Why a part stops early. -/
inductive Stop where
  | failed
  | broke
  | continued
  deriving DecidableEq, Repr

/-- Runs. -/
abbrev Run := ExceptT Stop (StateM Machine)

namespace Run

/-- Fails the template. -/
def fail {α : Type} : Run α := throw .failed

/-- The value, or a failure. -/
def ofOption {α : Type} : Option α → Run α
  | some a => pure a
  | none => fail

/-- Prints a text. -/
def print (t : Text) : Run Unit := modify fun m => { m with printed := t :: m.printed }

/-- The value of a variable. -/
def lookup (name : Text) : Run Value := do
  ofOption (((← get).vars.find? fun v => v.1 = name).map (·.2))

/-- Brings a variable into scope. -/
def declare (name : Text) (v : Value) : Run Unit :=
  modify fun m => { m with vars := (name, v) :: m.vars }

/-- The variables with the first one of a name changed. -/
def assigned (name : Text) (v : Value) : List (Text × Value) → Option (List (Text × Value))
  | [] => none
  | (n, old) :: rest =>
    if n = name then some ((n, v) :: rest) else (assigned name v rest).map ((n, old) :: ·)

/-- Changes a variable in scope. -/
def assign (name : Text) (v : Value) : Run Unit := do
  let vars ← ofOption (assigned name v (← get).vars)
  modify fun m => { m with vars }

/-- Changes the variable at a distance from the youngest one. -/
def assignAt (distance : Nat) (v : Value) : Run Unit :=
  modify fun m =>
    { m with vars := m.vars.modify distance fun old => (old.1, v) }

/-- How many variables are in scope. -/
def mark : Run Nat := do return (← get).vars.length

/-- Ends the scope of the variables younger than a mark. -/
def release (mark : Nat) : Run Unit :=
  modify fun m => { m with vars := m.vars.drop (m.vars.length - mark) }

end Run

/-- The field of a value; only tables have fields, and fields take no arguments. -/
def fieldOf (strict : Bool) (v : Value) (name : Text) (hasArguments : Bool) : Option Value :=
  match v with
  | .missing => if strict then none else some .missing
  | .table entries =>
    if hasArguments then none
    else match entries.get? name with
      | some t => some (.text t)
      | none => if strict then none else some (.text [])
  | _ => none

/-- Follows field names; arguments would go to the last one. -/
def fieldPath (strict : Bool) (v : Value) (hasArguments : Bool) : List Text → Option Value
  | [] => some v
  | [name] => fieldOf strict v name hasArguments
  | name :: rest => do fieldPath strict (← fieldOf strict v name false) hasArguments rest

/-- The function of a name. -/
def Program.function? (p : Program) (name : Text) : Option Function :=
  (p.functions.find? fun f => f.1 = name).map (·.2)

/-- Calls a function with evaluated arguments. -/
def invoke (f : Function) (args : List Value) : Run Value :=
  if f.takes args.length then Run.ofOption (f.run args) else Run.fail

mutual

/-- An operand as an argument of a kind. -/
def argument (p : Program) (dot : Value) (kind : Kind) : Operand → Run Value
  | .absent => Run.ofOption (kind.accept .missing)
  | .dot => Run.ofOption (kind.accept dot)
  | .bool b => Run.ofOption (kind.accept (.bool b))
  | .text t => Run.ofOption (kind.accept (.text t))
  | .number l =>
    if kind = .int then Run.ofOption (l.int?.map .int)
    else do Run.ofOption (kind.accept (← Run.ofOption l.value))
  | .field path => do
    Run.ofOption (kind.accept (← Run.ofOption (fieldPath p.strict dot false path)))
  | .variable name path => do
    let v ← Run.lookup name
    Run.ofOption (kind.accept (← Run.ofOption (fieldPath p.strict v false path)))
  | .function name => do
    let f ← Run.ofOption (p.function? name)
    Run.ofOption (kind.accept (← invoke f []))
  | .pipe q => do Run.ofOption (kind.accept (← pipe p dot q))
  | .chain base path => do
    let v ← argument p dot .any base
    Run.ofOption (kind.accept (← Run.ofOption (fieldPath p.strict v false path)))

/-- Operands as the arguments of a function from a position on. -/
def arguments (p : Program) (dot : Value) (f : Function) : (at_ : Nat) → List Operand →
    Run (List Value)
  | _, [] => return []
  | i, o :: rest => do
    let v ← argument p dot (f.kindAt i) o
    return v :: (← arguments p dot f (i + 1) rest)

/-- A command: an operand with its arguments, the value of the command before it being the last. -/
def command (p : Program) (dot : Value) (final : Option Value) : List Operand → Run Value
  | [] => Run.fail
  | .field path :: rest =>
    Run.ofOption (fieldPath p.strict dot (!rest.isEmpty || final.isSome) path)
  | .chain base path :: rest => do
    let v ← argument p dot .any base
    Run.ofOption (fieldPath p.strict v (!rest.isEmpty || final.isSome) path)
  | .variable name path :: rest => do
    let v ← Run.lookup name
    let hasArguments := !rest.isEmpty || final.isSome
    if path.isEmpty && hasArguments then Run.fail
    Run.ofOption (fieldPath p.strict v hasArguments path)
  | .function name :: rest => do
    let f ← Run.ofOption (p.function? name)
    if !f.takes (rest.length + final.toList.length) then Run.fail
    if name = ("and" : Text) then connective p dot false final rest
    else if name = ("or" : Text) then connective p dot true final rest
    else
      let args ← arguments p dot f 0 rest
      let final ← match final with
        | some v => do pure [← Run.ofOption ((f.kindAt rest.length).accept v)]
        | none => pure []
      invoke f (args ++ final)
  | .pipe q :: rest =>
    if !rest.isEmpty || final.isSome then Run.fail else pipe p dot q
  | .dot :: rest => if !rest.isEmpty || final.isSome then Run.fail else return dot
  | .bool b :: rest => if !rest.isEmpty || final.isSome then Run.fail else return .bool b
  | .text t :: rest => if !rest.isEmpty || final.isSome then Run.fail else return .text t
  | .number l :: rest =>
    if !rest.isEmpty || final.isSome then Run.fail else Run.ofOption l.value
  | .absent :: _ => Run.fail

/-- A connective over operands and then the value handed on. -/
def connective (p : Program) (dot : Value) (stop : Bool) (final : Option Value) :
    List Operand → Run Value
  | [] => Run.ofOption final
  | o :: rest => do
    let v ← argument p dot .any o
    if v.isTrue = stop then return v
    else if rest.isEmpty && final.isNone then return v
    else connective p dot stop final rest

/-- Commands one after the other, each handing its value to the next. -/
def commands (p : Program) (dot : Value) (final : Option Value) : List (List Operand) →
    Run (Option Value)
  | [] => return final
  | c :: rest => do
    let v ← command p dot final c
    commands p dot (some v) rest

/-- A pipeline: its value, after setting its variables. -/
def pipe (p : Program) (dot : Value) : PipeOf Operand → Run Value
  | ⟨assigns, vars, cs⟩ => do
    let v ← Run.ofOption (← commands p dot none cs)
    for name in vars do
      if assigns then Run.assign name v else Run.declare name v
    return v

end

/-- Sets the variables of a loop for one element. -/
def bindElement (assigns : Bool) (vars : List Text) (key element : Value) : Run Unit := do
  match assigns, vars with
  | _, [] => pure ()
  | true, [name] => Run.assign name element
  | true, first :: second :: _ =>
    Run.assign first key
    Run.assign second element
  | false, [_] => Run.assignAt 0 element
  | false, _ =>
    Run.assignAt 0 element
    Run.assignAt 1 key

/-- The keys and elements that a loop visits; not every value can be visited. -/
def visited (variableCount : Nat) : Value → Option (List (Value × Value))
  | .missing => some []
  | .table entries => some (entries.map fun (k, v) => (.text k, .text v))
  | .int n =>
    if 1 < variableCount then none
    else some ((List.range n.toNat).map fun (i : Nat) => (.missing, .int i))
  | .byte b =>
    if 1 < variableCount then none
    else some ((List.range b.toNat).map fun i => (.missing, .byte (UInt8.ofNat i)))
  | _ => none

/-- Visits elements until one stops the loop. -/
def visit (body : Value → Value → Run Unit) (mark : Nat) : List (Value × Value) → Run Unit
  | [] => return
  | (key, element) :: rest => do
    let ended : Bool ← tryCatch (do body key element; return false) fun
      | .broke => return true
      | .continued => return false
      | .failed => Run.fail
    Run.release mark
    if ended then return else visit body mark rest

mutual

/-- Runs a part. Calls of other templates go through `call`. -/
def part (p : Program) (call : Text → Value → Run Unit) (dot : Value) : Part → Run Unit
  | .text t => Run.print t
  | .action q => do
    let v ← pipe p dot q
    if q.vars.isEmpty then Run.print (if v = .missing then "<no value>" else v.plain)
  | .choose q yes no => do
    let mark ← Run.mark
    let v ← pipe p dot q
    if v.isTrue then parts p call dot yes else parts p call dot no
    Run.release mark
  | .within q yes no => do
    let mark ← Run.mark
    let v ← pipe p dot q
    if v.isTrue then parts p call v yes else parts p call dot no
    Run.release mark
  | .range q body no => do
    let outer ← Run.mark
    let v ← pipe p dot q
    let mark ← Run.mark
    match ← Run.ofOption (visited q.vars.length v) with
    | [] => parts p call dot no
    | elements =>
      visit (fun key element => do
        bindElement q.assigns q.vars key element
        parts p call element body) mark elements
    Run.release outer
  | .call name argument => do
    let v ← match argument with
      | some q => pipe p dot q
      | none => pure .missing
    call name v
  | .breakLoop => throw .broke
  | .continueLoop => throw .continued

/-- Runs parts in order. -/
def parts (p : Program) (call : Text → Value → Run Unit) (dot : Value) : List Part → Run Unit
  | [] => return
  | x :: rest => do
    part p call dot x
    parts p call dot rest

end

/-- Runs a template of a name, which sees only its own variables. -/
def callNamed (p : Program) : (depth : Nat) → Text → Value → Run Unit
  | 0, _, _ => Run.fail
  | depth + 1, name, v => do
    let tree ← Run.ofOption (p.trees.get? name)
    let outer := (← get).vars
    modify fun m => { m with vars := [([Text.byte '$'], v)] }
    parts p (callNamed p depth) v tree
    modify fun m => { m with vars := outer }

/-- Runs a template over a table: what it printed, and whether it came to its end. -/
def Program.run (p : Program) (data : Labels) : Text × Bool :=
  let start : Machine := { vars := [] }
  let (result, m) := (callNamed p maxCallDepth p.name (.table data)).run.run start
  (Text.concat m.printed.reverse, match result with
    | .ok _ => true
    | .error _ => false)

end LogSql.Template
