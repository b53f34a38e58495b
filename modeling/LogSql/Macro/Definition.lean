import LogSql.Macro.Basic
import LogSql.Query.Parser
import LogSql.Rule.Check
import LogSql.Rule.Eval
import LogSql.Template.Run

/-!
Macro definitions: a template over named parameters and an optional rule that the arguments have to
satisfy. A definition is prepared once, which finds every fault that does not depend on the
arguments.
-/
namespace LogSql.Macro

/-- A macro as its author writes it. -/
structure Definition where
  name : Text := []
  description : Text := []
  params : List Text := []
  /-- The query text, rendered with the arguments by parameter name. -/
  template : Text := []
  /-- A boolean expression over the arguments; blank when all arguments are welcome. -/
  validate : Text := []
  deriving DecidableEq, Repr

/-- Why definitions are refused. -/
inductive DefinitionError where
  | duplicateName (name : Text)
  | leadingCall (name called : Text)
  | badName (name : Text)
  | reservedName (name : Text)
  | noTemplate (name : Text)
  | badParam (name param : Text)
  | duplicateParam (name param : Text)
  | badTemplate (name : Text)
  | badRule (name : Text) (cause : Rule.Error)
  deriving DecidableEq, Repr

/-- The error in words. -/
def DefinitionError.message : DefinitionError → Text
  | duplicateName name => "duplicate macro " ++ Text.quote name
  | leadingCall name called =>
    .concat ["macro ", name, ": template must not start with a call to macro ", called]
  | badName name => "invalid macro name " ++ Text.quote name
  | reservedName name => .concat ["macro name ", Text.quote name, " is reserved"]
  | noTemplate name => .concat ["macro ", name, ": template is required"]
  | badParam name param => .concat ["macro ", name, ": invalid parameter name ", Text.quote param]
  | duplicateParam name param => .concat ["macro ", name, ": duplicate parameter ", Text.quote param]
  | badTemplate name => .concat ["macro ", name, ": parse template: not a template"]
  | badRule name cause => .concat ["macro ", name, ": ", cause.message]

/-- The words of the query language that are no function names. -/
def keywords : List Text :=
  ["by", "without", "bool", "on", "ignoring", "unwrap", "unwrap_value", "line_format",
    "label_format", "and", "or"]

/-- Names that have a meaning in the query language already. -/
def reserved : List Text :=
  keywords ++ Query.logRangeFunctions ++ Query.unwrapFunctions ++
    Query.parameterizedUnwrappedFunctions ++ Query.aggregationFunctions ++
    Query.parameterizedFunctions ++ Query.parserFunctions ++ Query.unwrapConversions

open Template (Function) in
/-- The functions that macro templates can call besides the general ones. -/
def functions : List (Text × Function) :=
  [("quote", Function.ofText fun t => .text (Text.quote t)),
    ("join", ⟨[.texts, .text], none, fun _ => some (.text [])⟩),
    ("lower", Function.ofText fun t => .text t.lower),
    ("upper", Function.ofText fun t => .text t.upper)]

/-- Everything a macro template can call. -/
def allFunctions : List (Text × Template.Function) := functions ++ Template.builtins

/-- A definition ready for calls. -/
structure Prepared where
  definition : Definition
  program : Template.Program
  rule : Option Rule.Expr

/-- The first name that stands in a list twice, at its second place. -/
def firstRepeated : (seen : List Text) → List Text → Option Text
  | _, [] => none
  | seen, n :: rest => if n ∈ seen then some n else firstRepeated (n :: seen) rest

namespace Definition

/-- Checks parameter names one after the other. -/
def checkParams (name : Text) : (seen : List Text) → List Text → Except DefinitionError Unit
  | _, [] => .ok ()
  | seen, p :: rest =>
    if !Text.isName p then .error (.badParam name p)
    else if p ∈ seen then .error (.duplicateParam name p)
    else checkParams name (p :: seen) rest

/-- The template of a definition; a key that is no parameter fails it when it runs. -/
def program? (d : Definition) : Option Template.Program :=
  (Template.parse (fun f => allFunctions.any fun g => g.1 = f) d.name d.template).map fun trees =>
    { name := d.name, trees, functions := allFunctions, strict := true }

/-- The rule of a definition, when it has one. -/
def rule? (d : Definition) : Except Rule.Error (Option Rule.Expr) :=
  if (Text.trim d.validate).isEmpty then .ok none else (Rule.compile d.params d.validate).map some

/-- Prepares a definition. -/
def prepare (d : Definition) : Except DefinitionError Prepared := do
  if !Text.isName d.name then throw (.badName d.name)
  if d.name ∈ reserved then throw (.reservedName d.name)
  if (Text.trim d.template).isEmpty then throw (.noTemplate d.name)
  checkParams d.name [] d.params
  match d.program? with
  | none => throw (.badTemplate d.name)
  | some program =>
    let rule ← (d.rule?).mapError (.badRule d.name)
    return ⟨d, program, rule⟩

/-- Whether a byte may stand before a leading call or between its name and its parenthesis. -/
def isGap (b : UInt8) : Bool := b = 9 || b = 10 || b = 12 || b = 13 || b = 32

/-- The function that a template starts by calling. -/
def leadingCall? (template : Text) : Option Text :=
  let t := template.dropWhile isGap
  let name := t.takeWhile Text.isNamePart
  let rest := (t.dropWhile Text.isNamePart).dropWhile isGap
  if Text.isName name ∧ rest.head? = some (Text.byte '(') then some name else none

/-- Prepares the definitions of a set one after the other. A macro is expanded only where a query
starts, so a template that starts with a call of the set would chain expansions and is refused. -/
def prepareAll (names : List Text) : List Definition → Except DefinitionError (List Prepared)
  | [] => .ok []
  | d :: rest => do
    match leadingCall? d.template with
    | some called => if called ∈ names then throw (.leadingCall d.name called)
    | none => pure ()
    let p ← d.prepare
    return p :: (← prepareAll names rest)

/-- Prepares a set of definitions. -/
def prepareSet (ds : List Definition) : Except DefinitionError (List Prepared) := do
  let names := ds.map (·.name)
  match firstRepeated [] names with
  | some n => throw (.duplicateName n)
  | none => prepareAll names ds

/-- Whether arguments by parameter name satisfy the rule of a definition. -/
def accepts (d : Definition) (args : Labels) : Except Text Bool :=
  match d.rule? with
  | .error e => .error e.message
  | .ok none => .ok true
  | .ok (some rule) =>
    match Rule.accepts? rule args with
    | some b => .ok b
    | none => .error ExpansionError.ruleFailed.message

end Definition

namespace Prepared

/-- The arguments of a call by parameter name. -/
def arguments (p : Prepared) (call : Query.Node) : Except ExpansionError Labels :=
  match call.find? p.definition.name with
  | none => .error (.missingBody p.definition.name)
  | some body =>
    let values := (body.findAll Query.Kind.macroArg).map (·.value)
    if values.length ≠ p.definition.params.length then
      .error (.argumentCount p.definition.params.length values.length)
    else .ok (Labels.ofList (p.definition.params.zip values))

/-- The query text that a call stands for. -/
def expand (p : Prepared) (call : Query.Node) : Except ExpansionError Text := do
  let args ← p.arguments call
  match p.rule with
  | none => pure ()
  | some rule =>
    match Rule.accepts? rule args with
    | none => throw .ruleFailed
    | some false => throw (.rejected p.definition.validate)
    | some true => pure ()
  match p.program.run args with
  | (text, true) => return text
  | (_, false) => throw .templateFailed

/-- A prepared definition as the compiler takes it. -/
def toMacro (p : Prepared) : Macro :=
  { name := p.definition.name, handles := handlesByName p.definition.name, expand := p.expand }

end Prepared
end LogSql.Macro
