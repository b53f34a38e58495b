import LogSql.Query.Node
import LogSql.Text.Quoted

/-!
Macros as the compiler sees them: a name that queries can call, and a text that each call stands for.
-/
namespace LogSql

/-- Why a macro call has no expansion. -/
inductive ExpansionError where
  /-- The macro itself refuses, in its own words. -/
  | stated (message : Text)
  | missingBody (name : Text)
  | argumentCount (expected got : Nat)
  | ruleFailed
  | rejected (rule : Text)
  | templateFailed
  deriving DecidableEq, Repr

/-- The error in words. -/
def ExpansionError.message : ExpansionError → Text
  | stated message => message
  | missingBody name => .concat ["macro ", name, ": missing body"]
  | argumentCount expected got =>
    .concat ["expected ", Text.ofNat expected, " arguments, got ", Text.ofNat got]
  | ruleFailed => "validate: the rule has no value for these arguments"
  | rejected rule => "arguments rejected by " ++ Text.quote rule
  | templateFailed => "render template: the template failed"

/-- A macro. -/
structure Macro where
  name : Text
  /-- Whether the macro answers for a call. -/
  handles : Query.Node → Bool
  /-- The query text that a call stands for. -/
  expand : Query.Node → Except ExpansionError Text

/-- Macros answer for calls of their name unless they say otherwise. -/
def Macro.handlesByName (name : Text) (call : Query.Node) : Bool := (call.find? name).isSome

end LogSql
