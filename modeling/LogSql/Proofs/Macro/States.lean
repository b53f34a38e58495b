import LogSql.Proofs.Macro.Definition
import Mathlib.Data.List.Induction

/-! The states of a registry. Its macros are replaced by a given set or by what its file holds now, and a
set is taken as a whole or not at all. A step says what one call does, and an induction over the calls
says what every registry lists: the last set that was taken, and only definitions that were checked. -/
namespace LogSql.Macro

/-- A call that replaces the macros of a registry. The content of the file is missing when it cannot be
read. -/
inductive Call where
  | set (ds : List Definition)
  | reload (content : Option Text)
  deriving DecidableEq, Repr

/-- A program that works on a registry in place: what it has written stays, also where it fails. -/
abbrev InPlace := ExceptT RegistryError (StateM Registry)

namespace Call

/-- The definitions that a call puts forward. -/
def offered? : Call → Option (List Definition)
  | set ds => some ds
  | reload content => content.bind readDefinitions?

/-- Takes a set, once every definition of it is prepared. -/
def take (ds : List Definition) : InPlace Unit := do
  match Definition.prepareSet ds with
  | .error cause => throw (.refused cause)
  | .ok ps => modify fun r => { r with active := ps }

/-- What a call does to a registry. -/
def perform : Call → InPlace Unit
  | set ds => take ds
  | reload content => do
    if (← get).path.isEmpty then throw .noFile
    match content with
    | none => throw .unreadableFile
    | some content =>
      match readDefinitions? content with
      | none => throw .unreadableDefinitions
      | some ds => take ds

/-- The answer to a call and the registry behind it. -/
def result (c : Call) (r : Registry) : Except RegistryError Unit × Registry := c.perform.run.run r

/-- The registry that a call asks for. -/
def wanted (r : Registry) : Call → Except RegistryError Registry
  | set ds => (r.replace ds).mapError .refused
  | reload content => r.reload content

end Call

/-- A registry after some calls. -/
def Registry.after (r : Registry) (calls : List Call) : Registry :=
  calls.foldl (fun r c => (c.result r).2) r

/-! ### One call -/

theorem takeResult (ds : List Definition) (r : Registry) : (Call.take ds).run.run r =
    match (r.replace ds).mapError RegistryError.refused with
    | .ok next => (.ok (), next)
    | .error e => (.error e, r) := by
  unfold Call.take Registry.replace
  cases Definition.prepareSet ds <;> rfl

/-- A call ends in the registry it asks for, or it fails and has written nothing. -/
theorem resultWanted (c : Call) (r : Registry) : c.result r =
    match c.wanted r with
    | .ok next => (.ok (), next)
    | .error e => (.error e, r) := by
  cases c with
  | set ds => exact takeResult ds r
  | reload content =>
    obtain ⟨path,active⟩ := r
    cases path with
    | nil => rfl
    | cons b path =>
      cases content with
      | none => rfl
      | some content =>
        unfold Call.result Call.perform Call.wanted Registry.reload
        cases read : readDefinitions? content with
        | none =>
          simp only [read]
          rfl
        | some ds =>
          simp only [read]
          exact takeResult ds ⟨b :: path,active⟩

theorem wantedReplace {c : Call} {r next : Registry} (ok : c.wanted r = .ok next) :
    ∃ ds, c.offered? = some ds ∧ r.replace ds = .ok next := by
  cases c with
  | set ds => exact ⟨ds,rfl,mapErrorOk ok⟩
  | reload content =>
    simp only [Call.wanted,Registry.reload] at ok
    split at ok <;> try contradiction
    split at ok <;> try contradiction
    split at ok <;> try contradiction
    rename_i read
    exact ⟨_,read,mapErrorOk ok⟩

/-! ### What holds of every set that was taken -/

/-- Definitions that may be active together. -/
structure Sound (ds : List Definition) : Prop where
  unique : (ds.map (·.name)).Nodup
  names : ∀ d ∈ ds, Text.isName d.name = true
  free : ∀ d ∈ ds, d.name ∉ reserved
  filled : ∀ d ∈ ds, (Text.trim d.template).isEmpty = false
  params : ∀ d ∈ ds, d.params.Nodup ∧ ∀ p ∈ d.params, Text.isName p = true

/-- A registry lists some definitions and the macros that are made of them, in their order. -/
structure Registry.Lists (r : Registry) (ds : List Definition) : Prop where
  definitions : r.definitions = ds
  macros : (ds.mapM Definition.prepare).map (·.map Prepared.toMacro) = .ok r.macros

namespace Accepted

variable {names : List Text} {ds : List Definition} {ps : List Prepared}

theorem mapPrepare (all : Accepted names ds ps) : ds.mapM Definition.prepare = .ok ps := by
  induction all with
  | nil => rfl
  | cons prepared _ _ ih =>
    rw [List.mapM_cons,prepared,ih]
    rfl

theorem sound (unique : (ds.map (·.name)).Nodup) (all : Accepted names ds ps) : Sound ds := by
  have each : ∀ d ∈ ds, ∃ p, d.prepare = .ok p := by
    intro d mem
    rw [← all.definitions] at mem
    obtain ⟨p,inside,rfl⟩ := List.mem_map.mp mem
    exact ⟨p,(all.each p inside).1⟩
  refine ⟨unique,fun d mem => ?_,fun d mem => ?_,fun d mem => ?_,fun d mem => ?_⟩ <;>
    obtain ⟨p,prepared⟩ := each d mem
  · exact (checked prepared).name
  · exact (checked prepared).free
  · exact (checked prepared).filled
  · exact ⟨(checked prepared).params,(checked prepared).paramNames⟩

end Accepted

theorem replaceLists {r next : Registry} {ds : List Definition} (ok : r.replace ds = .ok next) :
    next.Lists ds ∧ Sound ds := by
  obtain ⟨unique,all⟩ := replaced ok
  refine ⟨⟨all.definitions,?_⟩,all.sound unique⟩
  rw [all.mapPrepare]
  rfl

/-! ### All calls -/

/-- How a registry is made, and of which definitions. -/
inductive Made : Registry → List Definition → Prop where
  | given {r : Registry} {ds : List Definition} (ok : Registry.ofDefinitions ds = .ok r) : Made r ds
  | loaded {r : Registry} {path content : Text} {ds : List Definition}
      (read : readDefinitions? content = some ds)
      (ok : Registry.load path (some content) = .ok r) : Made r ds

/-- The definitions that were taken last: those of the last call that succeeded, or those a registry was
made of. -/
inductive Latest (start : Registry) (first : List Definition) : List Call → List Definition → Prop where
  | made : Latest start first [] first
  | taken {calls : List Call} {old ds : List Definition} {c : Call}
      (before : Latest start first calls old) (offered : c.offered? = some ds)
      (ok : (c.result (start.after calls)).1 = .ok ()) : Latest start first (calls ++ [c]) ds
  | refused {calls : List Call} {ds : List Definition} {c : Call} {e : RegistryError}
      (before : Latest start first calls ds)
      (failed : (c.result (start.after calls)).1 = .error e) : Latest start first (calls ++ [c]) ds

variable {start r : Registry} {first ds : List Definition} {calls : List Call} {c : Call}
  {e : RegistryError}

theorem madeLists (made : Made r ds) : r.Lists ds ∧ Sound ds := by
  cases made with
  | given ok => exact replaceLists ok
  | loaded read ok =>
    obtain ⟨_,offered,ok⟩ := wantedReplace (c := .reload (some _)) ok
    cases offered.symm.trans read
    exact replaceLists ok

theorem takenWanted (ok : (c.result r).1 = .ok ()) : c.wanted r = .ok (c.result r).2 := by
  rw [resultWanted] at ok ⊢
  cases wanted : c.wanted r with
  | ok next => rfl
  | error e => simp [wanted] at ok

theorem refusedSame (failed : (c.result r).1 = .error e) : (c.result r).2 = r := by
  rw [resultWanted] at failed ⊢
  cases wanted : c.wanted r with
  | ok next => simp [wanted] at failed
  | error e => rfl

theorem takenLists (offered : c.offered? = some ds) (ok : (c.result r).1 = .ok ()) :
    (c.result r).2.Lists ds ∧ Sound ds := by
  obtain ⟨_,same,replaced⟩ := wantedReplace (takenWanted ok)
  cases offered.symm.trans same
  exact replaceLists replaced

theorem afterLast (r : Registry) (calls : List Call) (c : Call) :
    r.after (calls ++ [c]) = (c.result (r.after calls)).2 := by
  simp [Registry.after]

theorem latestSome (start : Registry) (first : List Definition) (calls : List Call) :
    ∃ ds, Latest start first calls ds := by
  induction calls using List.reverseRecOn with
  | nil => exact ⟨first,.made⟩
  | append_singleton calls c ih =>
    obtain ⟨ds,before⟩ := ih
    cases answer : (c.result (start.after calls)).1 with
    | error e => exact ⟨ds,.refused before answer⟩
    | ok done =>
      obtain ⟨new,offered,_⟩ := wantedReplace (takenWanted answer)
      exact ⟨new,.taken before offered answer⟩

theorem latestLists (made : Made start first) (latest : Latest start first calls ds) :
    (start.after calls).Lists ds ∧ Sound ds := by
  induction latest with
  | made => exact madeLists made
  | taken _ offered ok _ =>
    rw [afterLast]
    exact takenLists offered ok
  | refused _ failed ih =>
    rw [afterLast,refusedSame failed]
    exact ih

end LogSql.Macro
