import LogSql.Proofs.Compile.Expansion
import LogSql.Proofs.Compile.Refusals
import LogSql.Proofs.Macro.Dispatch

/-! Macros that are replaced while a request is compiled. Their names are taken when a text is read and
the macros themselves when its call is expanded, at every level anew, so one request may meet several
sets. As long as what it meets agrees with one set it is compiled as with that set; but a macro that is
gone between the two readings of a level fails a request that no set fails in this way. -/
namespace LogSql.Query

/-- A text opens like a call of a macro by one of some names. -/
def StartsCall (names : List Text) (t : Text) : Prop :=
  ∃ ts, tokenize (Text.trim t) = .ok ts ∧ (⟨ts.tokens,ts.eof⟩ : Cursor).Calls names

theorem parseAlike {names others : List Text} {t : Text}
    (same : StartsCall names t ↔ StartsCall others t) :
    parse names (Text.trim t) = parse others (Text.trim t) := by
  unfold parse
  cases tokens : tokenize (Text.trim t) with
  | error err => rfl
  | ok ts =>
    have starts (names : List Text) :
        StartsCall names t ↔ (⟨ts.tokens,ts.eof⟩ : Cursor).Calls names := by
      constructor
      · rintro ⟨found,read,calls⟩
        cases tokens.symm.trans read
        exact calls
      · exact fun calls => ⟨ts,tokens,calls⟩
    have calls := (starts names).symm.trans (same.trans (starts others))
    simp only [bind,Except.bind,StateT.run,queryAlike calls]

theorem callStarts {names : List Text} {t : Text} {root : Node}
    (read : parse names (Text.trim t) = .ok root) (called : root.find? Kind.userMacro ≠ none) :
    StartsCall names t := by
  obtain ⟨ts,left,tokens,ran⟩ := parseRun read
  exact ⟨ts,tokens,queryCalls names (tokenizeCursor tokens) root left ran called⟩

end LogSql.Query

namespace LogSql.Compile

open Query
open Macro (macroEngine)

namespace Engine

/-- The engine with other macros. -/
def withMacros (e : Engine) (macros : List Macro) : Engine := { e with macros }

/-- Compiles a request with a number of macro expansions left, while the macros may be replaced. They are
asked for one time after the other, from a place on: for the names when a text is read, and for the
macro when its call is expanded. -/
def compileReading (e : Engine) (source : Nat → List Macro) :
    (expansions : Nat) → (i : Nat) → Request → Except Error Compiled
  | 0, i, r => do
    let root ← (e.withMacros (source i)).parse r.query
    match root.find? Kind.userMacro with
    | none => e.compileRoot r root
    | some _ => throw (.expansionTooDeep maxExpansions)
  | expansions + 1, i, r => do
    let root ← (e.withMacros (source i)).parse r.query
    match root.find? Kind.userMacro with
    | none => e.compileRoot r root
    | some call => do
      let text ← (e.withMacros (source (i + 1))).expand call
      e.compileReading source expansions (i + 2) { r with query := text }

/-- Compiles a request while the macros may be replaced. -/
def compileChanging (e : Engine) (source : Nat → List Macro) (r : Request) : Except Error Compiled :=
  e.compileReading source maxExpansions 0 r

/-- What a request meets agrees with one set of macros: its texts are read and its calls are expanded as
with that set. -/
def Agrees (e : Engine) (source : Nat → List Macro) (macros : List Macro) :
    (expansions : Nat) → (i : Nat) → Text → Prop
  | 0, i, t => (e.withMacros (source i)).parse t = (e.withMacros macros).parse t
  | expansions + 1, i, t => (e.withMacros (source i)).parse t = (e.withMacros macros).parse t ∧
      ∀ root call, (e.withMacros macros).parse t = .ok root → root.find? Kind.userMacro = some call →
        (e.withMacros (source (i + 1))).expand call = (e.withMacros macros).expand call ∧
          ∀ next, (e.withMacros macros).expand call = .ok next →
            e.Agrees source macros expansions (i + 2) next

/-- At some level no macro answers any more for a call that was one when it was read. -/
inductive Vanishes (e : Engine) (source : Nat → List Macro) : (expansions : Nat) → Nat → Text → Prop where
  | now {n i : Nat} {t : Text} {root call : Node} (read : (e.withMacros (source i)).parse t = .ok root)
      (called : root.find? Kind.userMacro = some call)
      (gone : (source (i + 1)).find? (fun m => m.handles call) = none) : Vanishes e source (n + 1) i t
  | later {n i : Nat} {t next : Text} {root call : Node}
      (read : (e.withMacros (source i)).parse t = .ok root)
      (called : root.find? Kind.userMacro = some call)
      (given : (e.withMacros (source (i + 1))).expand call = .ok next)
      (rest : Vanishes e source n (i + 2) next) : Vanishes e source (n + 1) i t

end Engine

/-- The macros of sets that follow each other. -/
def macrosOf (sets : Nat → Macro.Registry) (i : Nat) : List Macro := (sets i).macros

section Requests

variable {e : Engine} {source : Nat → List Macro} {macros : List Macro}

/-! ### Levels -/

theorem readingFails {n i : Nat} {r : Request} {err : Error}
    (read : (e.withMacros (source i)).parse r.query = .error err) :
    e.compileReading source n i r = .error err := by
  cases n <;> simp [Engine.compileReading,read,bind,Except.bind]

theorem readingPlain {n i : Nat} {r : Request} {root : Node}
    (read : (e.withMacros (source i)).parse r.query = .ok root)
    (plain : root.find? Kind.userMacro = none) :
    e.compileReading source n i r = e.compileRoot r root := by
  cases n <;> simp [Engine.compileReading,read,plain,bind,Except.bind]

theorem readingDeep {i : Nat} {r : Request} {root call : Node}
    (read : (e.withMacros (source i)).parse r.query = .ok root)
    (called : root.find? Kind.userMacro = some call) :
    e.compileReading source 0 i r = .error (.expansionTooDeep maxExpansions) := by
  simp [Engine.compileReading,read,called,bind,Except.bind]
  rfl

theorem readingCalled {n i : Nat} {r : Request} {root call : Node}
    (read : (e.withMacros (source i)).parse r.query = .ok root)
    (called : root.find? Kind.userMacro = some call) :
    e.compileReading source (n + 1) i r =
      ((e.withMacros (source (i + 1))).expand call).bind fun t =>
        e.compileReading source n (i + 2) { r with query := t } := by
  simp [Engine.compileReading,read,called,bind,Except.bind]

/-- A request that meets what agrees with a set is compiled as with that set. -/
theorem readingAgrees (n i : Nat) (r : Request) (agrees : e.Agrees source macros n i r.query) :
    e.compileReading source n i r = (e.withMacros macros).compileWithin n r := by
  induction n generalizing i r with
  | zero =>
    rw [Engine.compileReading,Engine.compileWithin,agrees]
    rfl
  | succ n ih =>
    obtain ⟨same,calls⟩ := agrees
    rw [Engine.compileReading,Engine.compileWithin,same]
    cases read : (e.withMacros macros).parse r.query with
    | error err => rfl
    | ok root =>
      cases called : root.find? Kind.userMacro with
      | none =>
        simp only [bind,Except.bind,called]
        rfl
      | some call =>
        obtain ⟨expanded,later⟩ := calls root call read called
        simp only [bind,Except.bind,called,expanded]
        cases given : (e.withMacros macros).expand call with
        | error err => rfl
        | ok next => exact ih (i + 2) { r with query := next } (later next given)

theorem agreesConstant (n i : Nat) (t : Text) : e.Agrees (fun _ => macros) macros n i t := by
  induction n generalizing i t with
  | zero => rfl
  | succ n ih => exact ⟨rfl,fun _ _ _ _ => ⟨rfl,fun next _ => ih (i + 2) next⟩⟩

/-- Macros that are not replaced are those of the engine. -/
theorem changingConstant (r : Request) :
    e.compileChanging (fun _ => macros) r = (e.withMacros macros).compile r :=
  readingAgrees maxExpansions 0 r (agreesConstant maxExpansions 0 r.query)

/-! ### Sets that agree -/

theorem readAlike {others : List Macro} {t : Text}
    (same : StartsCall (macros.map (·.name)) t ↔ StartsCall (others.map (·.name)) t) :
    (e.withMacros macros).parse t = (e.withMacros others).parse t :=
  congrArg (Except.mapError Error.unreadable) (parseAlike same)

theorem Engine.IsCall.starts {t : Text} (called : (e.withMacros macros).IsCall t) :
    StartsCall (macros.map (·.name)) t := by
  obtain ⟨root,call,read,found⟩ := called
  exact callStarts (mapErrorOk read) (by simp [found])

theorem expandsGiven {t next : Text} {root call : Node} (read : e.parse t = .ok root)
    (called : root.find? Kind.userMacro = some call) (given : e.expand call = .ok next) :
    e.ExpandsOnce t next := by
  unfold Engine.expand at given
  split at given
  · rename_i m first
    exact .intro read called first (mapErrorOk given)
  · contradiction

/-- A text that opens like a call in neither of two sets reads alike in both, and is no call. -/
theorem agreesSettled {n i : Nat} {t : Text} (here : ¬ StartsCall ((source i).map (·.name)) t)
    (there : ¬ StartsCall (macros.map (·.name)) t) : e.Agrees source macros n i t := by
  have same := readAlike (e := e) (iff_of_false here there)
  cases n with
  | zero => exact same
  | succ n =>
    refine ⟨same,fun root call read called => absurd ?_ there⟩
    exact Engine.IsCall.starts ⟨root,call,read,called⟩

variable {r : Request}

theorem changingPlain (plain : ¬ (e.withMacros (source 0)).IsCall r.query) :
    e.compileChanging source r = (e.withMacros (source 0)).compile r := by
  have agrees : e.Agrees source (source 0) (7 + 1) 0 r.query :=
    ⟨rfl,fun root call read called => absurd ⟨root,call,read,called⟩ plain⟩
  exact readingAgrees maxExpansions 0 r agrees

theorem changingExpanded (called : (e.withMacros (source 0)).IsCall r.query)
    (known : StartsCall ((source 1).map (·.name)) r.query)
    (settled : ∀ next, (e.withMacros (source 1)).ExpandsOnce r.query next →
      ¬ StartsCall ((source 1).map (·.name)) next ∧ ¬ StartsCall ((source 2).map (·.name)) next) :
    e.compileChanging source r = (e.withMacros (source 1)).compile r := by
  have agrees : e.Agrees source (source 1) (7 + 1) 0 r.query := by
    refine ⟨readAlike (iff_of_true called.starts known),fun root call read found => ⟨rfl,?_⟩⟩
    intro next given
    obtain ⟨closed,still⟩ := settled next (expandsGiven read found given)
    exact agreesSettled still closed
  exact readingAgrees maxExpansions 0 r agrees

/-! ### Macros that are gone -/

section Full

variable {clientTemplates : Bool} (full : e.registry = Registry.full clientTemplates)

include full

omit full in
theorem refusesLookup {α : Type} {x : Except Error α} (refuses : Refuses x) (name : Text) :
    x ≠ .error (.notImplemented "macro" name) := by
  intro failed
  rcases refuses _ failed with bad | unsupported
  · cases bad
  · cases unsupported

omit full in
theorem expandLookup {call : Node} {name : Text}
    (failed : e.expand call = .error (.notImplemented "macro" name)) :
    e.macros.find? (fun m => m.handles call) = none := by
  unfold Engine.expand at failed
  split at failed
  · rename_i m _
    cases given : m.expand call with
    | error err =>
      rw [given] at failed
      cases failed
    | ok t =>
      rw [given] at failed
      cases failed
  · assumption

/-- Only a call can want a macro. -/
theorem lookupCalled {n i : Nat} {r : Request} {name : Text}
    (failed : e.compileReading source n i r = .error (.notImplemented "macro" name)) :
    ∃ root call, (e.withMacros (source i)).parse r.query = .ok root ∧
      root.find? Kind.userMacro = some call := by
  cases read : (e.withMacros (source i)).parse r.query with
  | error err =>
    rw [readingFails read] at failed
    cases failed
    exact absurd read (refusesLookup (parseRefuses _ _) name)
  | ok root =>
    cases called : root.find? Kind.userMacro with
    | some call => exact ⟨root,call,rfl,called⟩
    | none =>
      rw [readingPlain read called] at failed
      obtain ⟨q,rfl,_⟩ := parseText read
      exact absurd failed (refusesLookup (compileRootRefuses full r called) name)

/-- A request fails for want of a macro exactly when a macro is gone by the time of its expansion. -/
theorem readingVanishes (n i : Nat) (r : Request) :
    (∃ name, e.compileReading source n i r = .error (.notImplemented "macro" name)) ↔
      e.Vanishes source n i r.query := by
  constructor
  · rintro ⟨name,failed⟩
    induction n generalizing i r with
    | zero =>
      obtain ⟨root,call,read,called⟩ := lookupCalled full failed
      rw [readingDeep read called] at failed
      cases failed
    | succ n ih =>
      obtain ⟨root,call,read,called⟩ := lookupCalled full failed
      rw [readingCalled read called] at failed
      cases given : (e.withMacros (source (i + 1))).expand call with
      | error err =>
        rw [given] at failed
        cases failed
        exact .now read called (expandLookup given)
      | ok next =>
        rw [given] at failed
        exact .later read called given (ih (i + 2) { r with query := next } failed)
  · intro vanishes
    generalize start : r.query = t at vanishes
    induction vanishes generalizing r with
    | now read called gone =>
      subst start
      rw [readingCalled read called]
      simp only [Engine.expand,Engine.withMacros,gone]
      exact ⟨_,rfl⟩
    | @later n i t next root call read called given rest ih =>
      subst start
      rw [readingCalled read called,given]
      exact ih { r with query := next } rfl

/-- What a request meets when the macros are replaced while it is compiled. As far as that agrees with one
set it is compiled as with that set: a query that is no call with the set it is read with, and a call with
the set it is expanded with, when that set still knows it and its text opens no call. A request fails for
want of a macro exactly when one is gone between the reading and the expansion of its call; and then no
set, given all along, has the same result. -/
theorem reloadsMet (sets : Nat → Macro.Registry) (r : Request) :
    (∀ set : Macro.Registry, e.Agrees (macrosOf sets) set.macros maxExpansions 0 r.query →
      e.compileChanging (macrosOf sets) r = (e.withMacros set.macros).compile r) ∧
    (¬ (e.withMacros (sets 0).macros).IsCall r.query →
      e.compileChanging (macrosOf sets) r = (e.withMacros (sets 0).macros).compile r) ∧
    ((e.withMacros (sets 0).macros).IsCall r.query →
      StartsCall ((sets 1).macros.map (·.name)) r.query →
      (∀ next, (e.withMacros (sets 1).macros).ExpandsOnce r.query next →
        ¬ StartsCall ((sets 1).macros.map (·.name)) next ∧
          ¬ StartsCall ((sets 2).macros.map (·.name)) next) →
      e.compileChanging (macrosOf sets) r = (e.withMacros (sets 1).macros).compile r) ∧
    ((∃ name, e.compileChanging (macrosOf sets) r = .error (.notImplemented "macro" name)) ↔
      e.Vanishes (macrosOf sets) maxExpansions 0 r.query) ∧
    (e.Vanishes (macrosOf sets) maxExpansions 0 r.query → ∀ set : Macro.Registry,
      e.compileChanging (macrosOf sets) r ≠ (e.withMacros set.macros).compile r) := by
  have missing := @readingVanishes e (macrosOf sets) clientTemplates full maxExpansions 0 r
  rw [← Engine.compileChanging] at missing
  refine ⟨fun set => readingAgrees maxExpansions 0 r,@changingPlain e (macrosOf sets) r,
    @changingExpanded e (macrosOf sets) r,missing,fun vanishes set same => ?_⟩
  obtain ⟨name,failed⟩ := missing.mpr vanishes
  have whole : (e.withMacros set.macros).registry = Registry.full clientTemplates := full
  have refuses : Refuses ((e.withMacros set.macros).compile r) :=
    compileWithinRefuses whole rfl maxExpansions r
  rw [same] at failed
  exact refusesLookup refuses name failed

end Full

end Requests

/-- The sets of a registry that is replaced after a number of readings. -/
def replacedAfter (n : Nat) (old next : Macro.Registry) (i : Nat) : Macro.Registry :=
  if i < n then old else next

/-- A macro whose text is a call of another one, which is not in its set. -/
def outerMacro : Macro.Definition := { name := "outer", template := "inner()" }

/-- The macro that it calls. -/
def innerMacro : Macro.Definition := { name := "inner", template := "\x7bapp=\"api\"\x7d" }

/-- A set that is replaced behind an expansion gives a text that is read with the next set: what neither
of the two compiles is compiled with both of them. -/
theorem setsMixed : ∃ outer inner : Macro.Registry,
    ({} : Macro.Registry).replace [outerMacro] = .ok outer ∧ outer.replace [innerMacro] = .ok inner ∧
    ((macroEngine {}).compileChanging (macrosOf (replacedAfter 2 outer inner))
      { query := "outer()" }).toOption.isSome ∧
    ((macroEngine outer).compile { query := "outer()" }).toOption.isNone ∧
    ((macroEngine inner).compile { query := "outer()" }).toOption.isNone := by
  obtain ⟨outer,first,rest⟩ := okAny (x := ({} : Macro.Registry).replace [outerMacro])
    (p := fun outer => (outer.replace [innerMacro]).toOption.any fun inner =>
      ((macroEngine {}).compileChanging (macrosOf (replacedAfter 2 outer inner))
        { query := "outer()" }).toOption.isSome &&
      ((macroEngine outer).compile { query := "outer()" }).toOption.isNone &&
      ((macroEngine inner).compile { query := "outer()" }).toOption.isNone)
    (by decide +kernel)
  obtain ⟨inner,second,met⟩ := okAny rest
  simp only [Bool.and_eq_true] at met
  exact ⟨outer,inner,first,second,met.1.1,met.1.2,met.2⟩

/-- A registry that is emptied between the reading of a call and its expansion has the request fail as
with neither of its two sets, nor with any other. -/
theorem emptiedRegistryMet : ∃ logs none : Macro.Registry,
    ({} : Macro.Registry).replace [Macro.logsOf] = .ok logs ∧ logs.replace [] = .ok none ∧
    (∃ name, (macroEngine {}).compileChanging (macrosOf (replacedAfter 1 logs none))
      { query := Macro.apiCall } = .error (.notImplemented "macro" name)) ∧
    ∀ set : Macro.Registry, (macroEngine {}).compileChanging (macrosOf (replacedAfter 1 logs none))
      { query := Macro.apiCall } ≠ (macroEngine set).compile { query := Macro.apiCall } := by
  obtain ⟨logs,taken⟩ := Macro.logsOfTaken
  have names : logs.macros.map (·.name) = [Macro.logsOf.name] := (Macro.replaced taken).2.macroNames
  obtain ⟨ts,tokens,words⟩ := okAny (x := tokenize (Text.trim Macro.apiCall))
    (p := fun ts => decide (ts.tokens.map Token.word = callWords Macro.logsOf.name ["api"]))
    (by decide +kernel)
  have read : ((macroEngine {}).withMacros logs.macros).parse Macro.apiCall =
      .ok (Form.call Macro.logsOf.name ["api"]).node := by
    rw [Engine.parse,Engine.withMacros,names,callRead (by simp) tokens (of_decide_eq_true words)]
    rfl
  have vanishes : (macroEngine {}).Vanishes (macrosOf (replacedAfter 1 logs { logs with active := [] }))
      maxExpansions 0 Macro.apiCall := .now read (Form.callFound _ _) rfl
  have full : (macroEngine {}).registry = .full true := rfl
  obtain ⟨_,_,_,missing,apart⟩ := reloadsMet full (replacedAfter 1 logs { logs with active := [] })
    { query := Macro.apiCall }
  exact ⟨logs,_,taken,rfl,missing.mpr vanishes,apart vanishes⟩

end LogSql.Compile
