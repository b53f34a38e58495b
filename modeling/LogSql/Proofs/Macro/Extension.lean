import LogSql.Proofs.Compile.Expansion
import LogSql.Proofs.Macro.Definition
import LogSql.Proofs.Query.Calls

/-! Macros only add to the query language. A text that is a query without macros starts with a brace or
with the name of a function, and no macro of an accepted set has such a name; so it is the same query
with the macros, and it is compiled to the same statement. -/
namespace LogSql

open Query

/-! ### Reading -/

theorem Macro.functionsReserved {name : Text} (known : name ∈ statementFunctions) :
    name ∈ Macro.reserved := by
  have parts : Macro.reserved =
      Macro.keywords ++ (statementFunctions ++ (parserFunctions ++ unwrapConversions)) := by
    simp only [Macro.reserved,statementFunctions,List.append_assoc]
  rw [parts]
  exact List.mem_append_right _ (List.mem_append_left _ known)

/-- No call starts where a query can be read without macros. -/
theorem Macro.plainStart {names : List Text} (free : ∀ n ∈ names, n ∉ Macro.reserved) {c left : Cursor}
    {root : Node} (read : query [] c = .ok (root,left)) : ¬ c.Calls names := by
  rintro ⟨word,named,_⟩
  rcases queryStarts root left read with brace | known
  · rw [brace] at word
    contradiction
  · exact free _ named (Macro.functionsReserved known)

theorem Macro.readExtended {names : List Text} (free : ∀ n ∈ names, n ∉ Macro.reserved) {t : Text}
    {root : Node} (ok : Query.parse [] t = .ok root) : Query.parse names t = .ok root := by
  obtain ⟨ts,left,tokens,read⟩ := parseRun ok
  have same := queryPlain (Macro.plainStart free read)
  rw [← ok]
  unfold Query.parse
  rw [tokens]
  simp only [bind,Except.bind,StateT.run,same]

theorem Query.parsePlain {t : Text} {root : Node} (ok : Query.parse [] t = .ok root) :
    root.find? Kind.userMacro = none := by
  obtain ⟨q,rfl,calls⟩ := parseForm ok
  cases q with
  | call name args => exact absurd calls List.not_mem_nil
  | rows s => exact Form.rowsNoCall s
  | matrix m ranking threshold => exact Form.matrixNoCall m ranking threshold

/-! ### Compiling -/

namespace Compile.Engine

/-- The engine without its macros. -/
def plain (e : Engine) : Engine := { e with macros := [] }

variable {e : Engine}

theorem rootPlain (e : Engine) (r : Request) (root : Node) :
    e.compileRoot r root = e.plain.compileRoot r root := rfl

theorem tailPlain {t : Text} (same : e.parse t = e.plain.parse t) :
    e.compileTail t = e.plain.compileTail t := by
  rw [compileTail,compileTail,same]
  rfl

theorem memberPlain {t : Text} (same : e.parse t = e.plain.parse t) :
    e.seriesMember t = e.plain.seriesMember t := by
  rw [seriesMember,seriesMember,same]
  rfl

theorem seriesPlain {selectors : List Text} (same : ∀ t ∈ selectors, e.parse t = e.plain.parse t) :
    e.compileSeries selectors = e.plain.compileSeries selectors := by
  have members (i : Nat) : e.seriesMembers i selectors = e.plain.seriesMembers i selectors := by
    induction selectors generalizing i with
    | nil => rfl
    | cons t rest ih =>
      obtain ⟨first,others⟩ := List.forall_mem_cons.mp same
      rw [seriesMembers,seriesMembers,memberPlain first]
      simp only [ih others]
  rw [compileSeries,compileSeries,members]

end Compile.Engine

namespace Macro

open Compile (Engine Request)

/-- The selector of an app. -/
def apiLogs : Text := "\x7bapp=\"api\"\x7d"

end Macro
end LogSql
