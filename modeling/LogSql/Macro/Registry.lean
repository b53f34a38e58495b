import LogSql.Macro.Definition
import LogSql.Yaml.Decode

/-!
The active macros. A registry holds the definitions of the last set that was accepted as a whole;
one that is backed by a file can read it again.
-/
namespace LogSql.Macro

/-- Reads one definition of a macros file. -/
def Definition.ofNode? (n : Yaml.Node) : Option Definition := do
  let fields ← n.fields?
  let text := fun name => Yaml.Node.field fields name Yaml.Node.text?
  return {
    name := ← text "name", description := ← text "description"
    params := ← Yaml.Node.field fields "params" (Yaml.Node.list? Yaml.Node.text?)
    template := ← text "template", validate := ← text "validate" }

/-- Reads the definitions of a macros file. -/
def readDefinitions? (content : Text) : Option (List Definition) := do
  let root ← Yaml.Node.read? content
  Yaml.Node.field (← root.fields?) "macros" (Yaml.Node.list? Definition.ofNode?)

/-- Why a registry does not change. -/
inductive RegistryError where
  | noFile
  | unreadableFile
  | unreadableDefinitions
  | refused (cause : DefinitionError)
  deriving DecidableEq, Repr

/-- The error in words. -/
def RegistryError.message : RegistryError → Text
  | noFile => "registry has no backing file"
  | unreadableFile => "read macros: the file cannot be read"
  | unreadableDefinitions => "parse macros: not a list of definitions"
  | refused cause => cause.message

/-- The active macros and the path of the file behind them, empty when there is none. -/
structure Registry where
  path : Text := []
  active : List Prepared := []

namespace Registry

/-- The active definitions. -/
def definitions (r : Registry) : List Definition := r.active.map (·.definition)

/-- The active macros as the compiler takes them. -/
def macros (r : Registry) : List Macro := r.active.map Prepared.toMacro

/-- The text of the first macro call of a query, from the first macro that handles it; nothing when the
query has no call. -/
def expandFirst? (r : Registry) (root : Query.Node) : Option (Except ExpansionError Text) := do
  let call ← root.find? Query.Kind.userMacro
  return (← r.macros.find? fun (m : Macro) => m.handles call).expand call

/-- Replaces all macros, provided that every definition can be prepared. -/
def replace (r : Registry) (ds : List Definition) : Except DefinitionError Registry := do
  return { r with active := ← Definition.prepareSet ds }

/-- A registry of given definitions. -/
def ofDefinitions (ds : List Definition) : Except DefinitionError Registry := ({} : Registry).replace ds

/-- Replaces all macros by those of the backing file, whose content is missing when it cannot be
read. -/
def reload (r : Registry) (content : Option Text) : Except RegistryError Registry :=
  if r.path.isEmpty then .error .noFile
  else match content with
    | none => .error .unreadableFile
    | some content =>
      match readDefinitions? content with
      | none => .error .unreadableDefinitions
      | some ds => (r.replace ds).mapError .refused

/-- A registry backed by a file. -/
def load (path : Text) (content : Option Text) : Except RegistryError Registry :=
  ({ path } : Registry).reload content

/-- Whether changes of the backing file can be awaited. -/
def watch (r : Registry) : Except RegistryError Unit :=
  if r.path.isEmpty then .error .noFile else .ok ()

end Registry
end LogSql.Macro
