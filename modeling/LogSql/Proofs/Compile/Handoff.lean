import LogSql.Proofs.Compile.Extraction

/-! Where a pipeline leaves the database. The first stage that adds a hook ends what the statement
does: all stages from there on add one hook each, in their order, and none of them touches the
statement again. What a stage leaves to the client depends on the stage alone. -/
namespace LogSql.Compile

open Query
open Sql (Expr)

/-- The hook of a stage that is left to the client. -/
def clientHook (n : Node) : Except Error Hook :=
  if n.kind = Kind.lineFilterExpression then
    let operator := n.valueOf Kind.lineFilterOperator
    if operator = ("|=" : Text) ∨ operator = ("!=" : Text) then
      .ok (.contains (stageText n) (operator = ("!=" : Text)))
    else (pattern (stageText n)).map fun p => .matches p (operator = ("!~" : Text))
  else if n.kind = Kind.parserExpression then
    let parser := n.valueOf Kind.parserFnName
    if parser = ("json" : Text) then (jsonFields (n.findAll Kind.parserParam)).map .json
    else if parser = ("logfmt" : Text) then .ok .logfmt
    else (pattern (stageText n)).map .groups
  else if n.kind = Kind.labelFilterPipeline then
    match n.find? Kind.complexLabelFilterExpression with
    | some body => (predicate (filterBody body)).map .filter
    | none => .error .emptyFilter
  else match LineTemplate.parse? (stageText n) with
    | some template => .ok (.format template)
    | none => .error .badLineTemplate

/-- How a stage ends: with its hook, or in the statement while nothing was left before. -/
inductive Outcome (n : Node) (d : Draft) : Draft → Prop where
  | left {h : Hook} (hook : clientHook n = .ok h) : Outcome n d (d.addHook h)
  | done {next : Draft} (before : d.hooks = []) (after : next.hooks = []) : Outcome n d next

/-! ### Stages -/

section Stages

variable {n : Node} {d next : Draft}

theorem onServer? (server : ¬ d.onClient = true) : d.hooks = [] := by
  simpa [Draft.onClient] using server

theorem extraHooks (d : Draft) (labels : Expr) : (d.addExtraLabels labels).hooks = d.hooks := by
  unfold Draft.addExtraLabels
  split <;> rfl

theorem Outcome.extracted (server : ¬ d.onClient = true) (labels : Expr) :
    Outcome n d (d.addExtraLabels labels) :=
  .done (onServer? server) ((extraHooks d labels).trans (onServer? server))

theorem containsOutcome {negated : Bool}
    (hook : clientHook n = .ok (.contains (stageText n) negated))
    (ok : lineContains negated (some n) d = .ok next) : Outcome n d next := by
  simp only [lineContains,onNode,Option.getD_some] at ok
  split at ok
  · cases ok
    exact .left hook
  · rename_i server
    have none := onServer? server
    split at ok
    · cases ok
      split
      · exact .done none none
      · exact .done none none
    · cases ok
      exact .done none none

theorem matchesOutcome {negated : Bool}
    (hook : clientHook n = (pattern (stageText n)).map fun p => .matches p negated)
    (ok : lineMatches negated (some n) d = .ok next) : Outcome n d next := by
  obtain ⟨compiled,known,ok⟩ := bindOk ok
  rw [Option.getD_some] at known
  split at ok
  · cases ok
    exact .left (by rw [hook,known]; rfl)
  · rename_i server
    cases ok
    exact .done (onServer? server) (onServer? server)

theorem jsonOutcome (hook : clientHook n = (jsonFields (n.findAll Kind.parserParam)).map .json)
    (ok : jsonParser (some n) d = .ok next) : Outcome n d next := by
  simp only [jsonParser,onNode,Option.getD_some] at ok
  split at ok
  · obtain ⟨fields,known,ok⟩ := bindOk ok
    cases ok
    exact .left (by rw [hook,known]; rfl)
  · rename_i server
    split at ok
    · cases ok
      exact .extracted server _
    · obtain ⟨pairs,_,ok⟩ := bindOk ok
      cases ok
      exact .extracted server _

theorem logfmtOutcome (hook : clientHook n = .ok .logfmt) (ok : logfmtParser (some n) d = .ok next) :
    Outcome n d next := by
  unfold logfmtParser at ok
  split at ok
  · cases ok
    exact .left hook
  · rename_i server
    cases ok
    exact .extracted server _

theorem regexpOutcome (hook : clientHook n = (pattern (stageText n)).map .groups)
    (ok : regexpParser (some n) d = .ok next) : Outcome n d next := by
  obtain ⟨compiled,known,ok⟩ := bindOk ok
  rw [Option.getD_some] at known
  dsimp only at ok
  split at ok
  · contradiction
  · split at ok
    · cases ok
      exact .left (by rw [hook,known]; rfl)
    · rename_i server
      cases ok
      exact .extracted server _

theorem filterOutcome {body : Node} (hook : clientHook n = (predicate (filterBody body)).map .filter)
    (ok : labelFilter (some body) d = .ok next) : Outcome n d next := by
  unfold labelFilter at ok
  dsimp only at ok
  split at ok
  · obtain ⟨p,known,ok⟩ := bindOk ok
    cases ok
    exact .left (by rw [hook,known]; rfl)
  · rename_i server
    obtain ⟨cond,_,ok⟩ := bindOk ok
    cases ok
    exact .done (onServer? server) (onServer? server)

theorem formatOutcome {clientTemplates : Bool}
    (hook : ∀ template, LineTemplate.parse? (stageText n) = some template →
      clientHook n = .ok (.format template))
    (ok : lineFormat clientTemplates (some n) d = .ok next) : Outcome n d next := by
  simp only [lineFormat,onNode,Option.getD_some] at ok
  split at ok
  · rename_i pieces simple
    cases ok
    split at simple
    · cases simple
    · rename_i server
      exact .done (onServer? server) (onServer? server)
  · split at ok
    · cases ok
    · split at ok
      · rename_i template known
        cases ok
        exact .left (hook template known)
      · cases ok

/-- Every stage adds its hook or, while nothing was left, stays in the statement. -/
theorem stageOutcome {e : Engine} {clientTemplates : Bool}
    (full : e.registry = Registry.full clientTemplates) (ok : e.stage n d = .ok next) :
    Outcome n d next := by
  unfold Engine.stage at ok
  rw [full] at ok
  split at ok
  · rename_i kind
    obtain ⟨h,found,ok⟩ := bindOk ok
    have entry := getEntry found
    simp only [Registry.full,List.mem_cons,Prod.mk.injEq,List.not_mem_nil,or_false] at entry
    rcases entry with ⟨operator,rfl⟩ | ⟨operator,rfl⟩ | ⟨operator,rfl⟩ | ⟨operator,rfl⟩
    · exact containsOutcome (by simp [clientHook,kind,operator]) ok
    · exact containsOutcome (by simp [clientHook,kind,operator]) ok
    · exact matchesOutcome (by simp [clientHook,kind,operator]) ok
    · exact matchesOutcome (by simp [clientHook,kind,operator]) ok
  rename_i noLine
  split at ok
  · rename_i kind
    obtain ⟨h,found,ok⟩ := bindOk ok
    have entry := getEntry found
    simp only [Registry.full,List.mem_cons,Prod.mk.injEq,List.not_mem_nil,or_false] at entry
    rcases entry with ⟨parser,rfl⟩ | ⟨parser,rfl⟩ | ⟨parser,rfl⟩
    · exact jsonOutcome (by rw [clientHook,if_neg noLine,if_pos kind,parser]; simp) ok
    · exact logfmtOutcome (by rw [clientHook,if_neg noLine,if_pos kind,parser]; simp) ok
    · exact regexpOutcome (by rw [clientHook,if_neg noLine,if_pos kind,parser]; simp) ok
  rename_i noParser
  split at ok
  · rename_i kind
    cases body : n.find? Kind.complexLabelFilterExpression with
    | none =>
      rw [body] at ok
      cases ok
    | some body' =>
      rw [body] at ok
      exact filterOutcome
        (by rw [clientHook,if_neg noLine,if_neg noParser,if_pos kind,body]) ok
  rename_i noFilter
  split at ok
  · refine formatOutcome (fun template known => ?_) ok
    rw [clientHook,if_neg noLine,if_neg noParser,if_neg noFilter,known]
  split at ok
  · cases ok
  · cases ok

end Stages

/-! ### Pipelines -/

/-- The stage with a number is the first under a node that adds a hook: the stages before it reach a
draft without hooks, and behind it there is one. -/
structure Engine.HandsOff (e : Engine) (n : Node) (d : Draft) (i : Nat) (reached : Draft) : Prop where
  before : e.through n ((stageNodes n).take i) d = .ok reached
  server : reached.hooks = []
  adds : ∃ stage next, (stageNodes n)[i]? = some stage ∧ e.stage stage reached = .ok next ∧
    next.hooks ≠ []

section Pipelines

variable {e : Engine}

theorem stagesDone {stages : List Node} {d last : Draft} (server : d.hooks = [])
    (ok : stages.foldlM (fun d s => e.stage s d) d = .ok last)
    (none : ∀ i stage reached next, stages[i]? = some stage →
      (stages.take i).foldlM (fun d s => e.stage s d) d = .ok reached → reached.hooks = [] →
      e.stage stage reached = .ok next → next.hooks = []) : last.hooks = [] := by
  induction stages generalizing d with
  | nil =>
    cases ok
    exact server
  | cons s stages ih =>
    rw [List.foldlM_cons] at ok
    obtain ⟨next,head,tail⟩ := bindOk ok
    have first : next.hooks = [] := none 0 s d next rfl rfl server head
    refine ih first tail fun i stage reached after found before => ?_
    refine none (i + 1) stage reached after found ?_
    rw [List.take_succ_cons,List.foldlM_cons,head]
    exact before

variable {clientTemplates : Bool} (full : e.registry = Registry.full clientTemplates)

include full

theorem ruleHooksKept {rule : Node} {d next : Draft} (ok : e.selectorRule rule d = .ok next) :
    next.hooks = d.hooks := by
  have added {cond : Expr} (ok : d.addStreamCondition cond = .ok next) : next.hooks = d.hooks := by
    unfold Draft.addStreamCondition at ok
    split at ok
    · cases ok
      rfl
    · contradiction
  unfold Engine.selectorRule at ok
  rw [full] at ok
  obtain ⟨h,found,ok⟩ := bindOk ok
  have entry := getEntry found
  simp only [Registry.full,List.mem_cons,Prod.mk.injEq,List.not_mem_nil,or_false] at entry
  rcases entry with ⟨_,rfl⟩ | ⟨_,rfl⟩ | ⟨_,rfl⟩ | ⟨_,rfl⟩
  · exact added ok
  · exact added ok
  · obtain ⟨compiled,_,ok⟩ := bindOk ok
    exact added ok
  · obtain ⟨compiled,_,ok⟩ := bindOk ok
    exact added ok

/-- Behind a hook every stage only adds its own. -/
theorem stagesLeft {stages : List Node} {d last : Draft} (client : d.hooks ≠ [])
    (ok : stages.foldlM (fun d s => e.stage s d) d = .ok last) :
    ∃ hooks, stages.mapM clientHook = .ok hooks ∧ last = { d with hooks := d.hooks ++ hooks } := by
  induction stages generalizing d with
  | nil =>
    cases ok
    exact ⟨[],rfl,by simp⟩
  | cons s stages ih =>
    rw [List.foldlM_cons] at ok
    obtain ⟨next,head,tail⟩ := bindOk ok
    cases stageOutcome full head with
    | done before after => exact absurd before client
    | @left h hook =>
      obtain ⟨hooks,rest,rfl⟩ := ih (by simp [Draft.addHook]) tail
      refine ⟨h :: hooks,?_,by simp [Draft.addHook]⟩
      rw [List.mapM_cons,hook,rest]
      rfl

/-- The client takes over once: behind the first stage that adds a hook the statement is the one the
stages before it have made, and the hooks are those of the remaining stages, one for each in source
order; without such a stage there are none. -/
theorem clientTakesSuffix {n : Node} {d last : Draft} (fresh : d.hooks = [])
    (ok : e.selectorPipeline n d = .ok last) :
    (∀ i reached, e.HandsOff n d i reached →
      last = { reached with hooks := last.hooks } ∧
        last.hooks.length = (stageNodes n).length - i ∧
        ((stageNodes n).drop i).mapM clientHook = .ok last.hooks) ∧
      ((∀ i reached, ¬ e.HandsOff n d i reached) → last.hooks = []) := by
  rw [pipelineThrough] at ok
  obtain ⟨ruled,rules,ran⟩ := bindOk ok
  have started : ruled.hooks = [] :=
    foldOk (P := fun d => d.hooks = [])
      (fun rule _ d next none head => (ruleHooksKept full head).trans none) fresh rules
  have through (stages : List Node) :
      e.through n stages d = stages.foldlM (fun d s => e.stage s d) ruled := by
    rw [Engine.through,rules]
    rfl
  constructor
  · intro i reached handsOff
    obtain ⟨stage,next,found,head,left⟩ := handsOff.adds
    have before := handsOff.before
    rw [through] at before
    obtain ⟨small,rfl⟩ := List.getElem?_eq_some_iff.mp found
    -- The stages are those before the first hook, the one that adds it, and the rest.
    rw [← List.take_append_drop i (stageNodes n),List.foldlM_append,List.drop_eq_getElem_cons small]
      at ran
    obtain ⟨again,same,ran⟩ := bindOk ran
    obtain rfl : reached = again := Except.ok.inj (before.symm.trans same)
    rw [List.foldlM_cons] at ran
    obtain ⟨after,same,ran⟩ := bindOk ran
    obtain rfl : next = after := Except.ok.inj (head.symm.trans same)
    cases stageOutcome full head with
    | done before after => exact absurd after left
    | @left h hook =>
      obtain ⟨hooks,rest,rfl⟩ := stagesLeft full left ran
      have all : ((stageNodes n).drop i).mapM clientHook = .ok (h :: hooks) := by
        rw [List.drop_eq_getElem_cons small,List.mapM_cons,hook,rest]
        rfl
      have whole : (reached.addHook h).hooks ++ hooks = h :: hooks := by
        simp [Draft.addHook,handsOff.server]
      have count : (h :: hooks).length = (stageNodes n).length - i := by
        rw [mapMLength all,List.length_drop]
      exact ⟨by simp [Draft.addHook],(congrArg List.length whole).trans count,
        all.trans (congrArg Except.ok whole.symm)⟩
  · intro never
    refine stagesDone started ran fun i stage reached next found before server head => ?_
    refine Classical.byContradiction fun left => ?_
    exact never i reached ⟨by rw [through]; exact before,server,stage,next,found,head,left⟩

end Pipelines

/-- A template that only the client can run, with a filter before it and two stages behind it. -/
def templateBetween : Text :=
  "\x7bapp=\"api\"\x7d |= \"a\" | line_format \"\x7b\x7b .a | ToUpper \x7d\x7d\" |= \"X\" | json"

/-- The tree of a text, what its first two stages leave, and what its whole pipeline leaves. -/
def Engine.handed (e : Engine) (text : Text) : Except Error (Node × Draft × Draft × Draft) := do
  let n ← e.parse text
  let reached ← e.through n ((stageNodes n).take 1) (Draft.start {})
  let next ← e.through n ((stageNodes n).take 2) (Draft.start {})
  let last ← e.selectorPipeline n (Draft.start {})
  return (n,reached,next,last)

theorem templateBetweenHandsOff : ∃ n reached last,
    ({ registry := .full true } : Engine).parse templateBetween = .ok n ∧
      ({ registry := .full true } : Engine).HandsOff n (Draft.start {}) 1 reached ∧
      ({ registry := .full true } : Engine).selectorPipeline n (Draft.start {}) = .ok last ∧
      last = { reached with hooks := last.hooks } ∧ last.hooks.length = 3 := by
  obtain ⟨⟨n,reached,next,last⟩,ok,run⟩ := okAny
    (show (({ registry := .full true } : Engine).handed templateBetween).toOption.any
      (fun p => p.2.1.hooks.isEmpty && !p.2.2.1.hooks.isEmpty && (stageNodes p.1).length = 4) = true
      by decide +kernel)
  simp only [Bool.and_eq_true,Bool.not_eq_true',decide_eq_true_eq,List.isEmpty_iff,
    List.isEmpty_eq_false_iff] at run
  obtain ⟨⟨server,left⟩,size⟩ := run
  unfold Engine.handed at ok
  obtain ⟨_,read,ok⟩ := bindOk ok
  obtain ⟨_,before,ok⟩ := bindOk ok
  obtain ⟨_,behind,ok⟩ := bindOk ok
  obtain ⟨_,ran,ok⟩ := bindOk ok
  cases ok
  have small : 1 < (stageNodes n).length := by omega
  have handsOff : ({ registry := .full true } : Engine).HandsOff n (Draft.start {}) 1 reached := by
    refine ⟨before,server,_,next,List.getElem?_eq_getElem small,?_,left⟩
    obtain ⟨ruled,rules,first⟩ := bindOk before
    obtain ⟨again,same,both⟩ := bindOk behind
    obtain rfl : ruled = again := Except.ok.inj (rules.symm.trans same)
    rw [List.take_succ_eq_append_getElem small,List.foldlM_append] at both
    obtain ⟨middle,same,second⟩ := bindOk both
    obtain rfl : reached = middle := Except.ok.inj (first.symm.trans same)
    obtain ⟨_,second,done⟩ := bindOk second
    cases done
    exact second
  obtain ⟨same,count,-⟩ := (clientTakesSuffix rfl rfl ran).1 1 reached handsOff
  exact ⟨n,reached,last,read,handsOff,ran,same,by omega⟩

end LogSql.Compile
