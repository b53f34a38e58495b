import Mathlib.Data.List.Nodup
import LogSql.Proofs.Compile.Expansion
import LogSql.Proofs.Macro.Definition
import LogSql.Proofs.Query.Calls

/-! Which macro a call expands. Macros answer for a call when a node below it has their name. The node of
the called name is one, and the arguments are the others: a macro that is named like the kind of
arguments answers for every call that has some, when it stands before the macro that was called. -/
namespace LogSql.Macro

open Query
open Compile (Engine Request)

/-! ### Calls -/

/-- The node of a call. -/
def callNode (name : Text) (values : List Text) : Node :=
  .mk Kind.userMacro name [.mk name name (values.map (.leaf Kind.macroArg))]

theorem argumentKinds (values : List Text) :
    Node.kindsIn (values.map (Node.leaf Kind.macroArg)) =
      List.replicate values.length Kind.macroArg := by
  induction values with
  | nil => rfl
  | cons v values ih => simp [ih,List.replicate_succ]

theorem callKinds (name : Text) (values : List Text) :
    (callNode name values).kinds = name :: List.replicate values.length Kind.macroArg := by
  simp [callNode,argumentKinds]

/-- The macros that answer for a call: the one that is called, and one for its arguments. -/
theorem callHandled {called name : Text} {values : List Text} :
    handlesByName name (callNode called values) = true ↔
      name = called ∨ values ≠ [] ∧ name = Kind.macroArg := by
  rw [handlesByName,Node.findKinds,decide_eq_true_iff,callKinds,List.mem_cons,List.mem_replicate,
    Ne,List.length_eq_zero_iff]

theorem argumentsBelow (values : List Text) :
    (Node.findAllIn Kind.macroArg (values.map (Node.leaf Kind.macroArg))).map (·.value) = values := by
  rw [Node.findAllInEach (by simp)]
  simp [Function.comp_def]

section Expansion

variable {p : Prepared} {name : Text} {values : List Text}

theorem ownBody (name : Text) (values : List Text) : (callNode name values).find? name =
    some (.mk name name (values.map (.leaf Kind.macroArg))) := by
  rw [Node.findHead]
  simp [callNode]

theorem ownArguments (same : values.length = p.definition.params.length) :
    p.arguments (callNode p.definition.name values) =
      .ok (Labels.ofList (p.definition.params.zip values)) := by
  have below : (Node.findAll Kind.macroArg (.mk p.definition.name p.definition.name
      (values.map (.leaf Kind.macroArg)))).map (·.value) = values := argumentsBelow values
  rw [Prepared.arguments,ownBody]
  simp only [below]
  exact if_neg (by simp [same])

theorem ownExpansion (checked : Checked p.definition p) (own : p.definition.name = name) :
    p.Gives values (p.expand (callNode name values)) := by
  obtain rfl := own
  exact Prepared.gives checked.params (ownBody _ values) (argumentsBelow values)

/-- A macro for the arguments of calls takes none of them. -/
theorem strayExpansion (checked : Checked p.definition p) (stray : p.definition.name = Kind.macroArg)
    (other : name ≠ Kind.macroArg) (present : values ≠ []) :
    p.Gives [] (p.expand (callNode name values)) := by
  obtain ⟨v,values,rfl⟩ := List.exists_cons_of_ne_nil present
  have found : (callNode name (v :: values)).find? p.definition.name = some (.leaf Kind.macroArg v) := by
    rw [stray,Node.findHead]
    simp [callNode,other]
  exact Prepared.gives checked.params found rfl

end Expansion

/-! ### The first macro that answers -/

section Answers

variable {names : List Text} {ds : List Definition} {first : List Prepared} {called : Text}
  {values : List Text}

/-- Of the macros before the one that is called only one for the arguments answers. -/
theorem earlierAnswer (earlier : Accepted names ds first) (fresh : called ∉ ds.map (·.name))
    {m : LogSql.Macro}
    (found : (first.map Prepared.toMacro).find? (fun m => m.handles (callNode called values)) = some m) :
    ∃ p : Prepared, m = p.toMacro ∧ p.definition ∈ ds ∧ p.definition.prepare = .ok p ∧ values ≠ [] ∧
      p.definition.name = Kind.macroArg := by
  obtain ⟨p,_,rfl,known,prepared⟩ := earlier.origin (List.mem_of_find?_eq_some found)
  have handles := List.find?_some found
  rcases callHandled.mp handles with same | ⟨some,stray⟩
  · exact absurd (same ▸ List.mem_map_of_mem known) fresh
  · exact ⟨p,rfl,known,prepared,some,stray⟩

theorem strayAnswer (earlier : Accepted names ds first) (some : values ≠ [])
    (stray : Kind.macroArg ∈ ds.map (·.name)) :
    ((first.map Prepared.toMacro).find? fun m => m.handles (callNode called values)).isSome = true := by
  rw [← earlier.macroNames] at stray
  obtain ⟨m,mem,name⟩ := List.mem_map.mp stray
  obtain ⟨p,_,rfl,_⟩ := earlier.origin mem
  exact List.find?_isSome.mpr ⟨_,mem,callHandled.mpr (.inr ⟨some,name⟩)⟩

end Answers

/-- An engine with the macros of a registry. -/
def macroEngine (registry : Registry) : Engine :=
  { registry := .full true, macros := registry.macros }

/-- A macro that is named like the kind of arguments. -/
def strayMacro : Definition :=
  { name := Kind.macroArg, template := "\x7bapp=\"other\"\x7d" }

theorem strayReady : (∃ p, strayMacro.prepare = .ok p) ∧
    Definition.leadingCall? strayMacro.template = none := by
  obtain ⟨p,ok,_⟩ := okAny (x := strayMacro.prepare) (p := fun _ => true) (by decide +kernel)
  exact ⟨⟨p,ok⟩,by decide +kernel⟩

/-- The logs of an app, by a call. -/
def apiCall : Text := "logs_of(\"api\")"

end LogSql.Macro
