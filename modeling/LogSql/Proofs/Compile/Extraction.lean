import LogSql.Proofs.Compile.Built

/-! Extracted labels along a pipeline. A condition or a line template names the column of the extracted
labels and does not copy its expression, while every parser puts a longer expression into that column;
what a stage reads is therefore what it was compiled against exactly when no parser follows it. -/
namespace LogSql.Compile

open Query
open Sql (Expr Select SelectOf Named)

/-! ### Columns by their alias -/

section Columns

variable {ε : Type} {name other : Text} {new : ε} {columns : List (Named ε)}

theorem replacedNone (missing : SelectOf.replaceColumn.go name new columns = none) :
    ∀ c ∈ columns, c.name ≠ name := by
  induction columns with
  | nil => simp
  | cons c columns ih =>
    rw [SelectOf.replaceColumn.go] at missing
    split at missing
    · contradiction
    · rename_i different
      exact List.forall_mem_cons.mpr ⟨different,ih (by simpa using missing)⟩

theorem replacedSome {after : List (Named ε)} (other : Text)
    (found : SelectOf.replaceColumn.go name new columns = some after) :
    after.find? (fun c => c.name = other) =
      (columns.find? fun c => c.name = other).map fun c => if name = other then { c with expr := new } else c := by
  induction columns generalizing after with
  | nil => contradiction
  | cons c columns ih =>
    rw [SelectOf.replaceColumn.go] at found
    split at found
    · rename_i same
      cases found
      by_cases here : name = other <;> simp [same,here]
    · rename_i different
      obtain ⟨rest,tail,rfl⟩ := Option.map_eq_some_iff.mp found
      by_cases here : c.name = other
      · have elsewhere : name ≠ other := fun same => different (here.trans same.symm)
        simp [here,elsewhere]
      · simp only [List.find?_cons,here,decide_false]
        exact ih tail

theorem columnReplaced (s : SelectOf ε) (different : name ≠ other) :
    (s.replaceColumn name new).column? other = s.column? other := by
  unfold SelectOf.replaceColumn
  split
  · rename_i after found
    have kept := replacedSome other found
    simpa [SelectOf.column?,different] using kept
  · simp [SelectOf.column?,SelectOf.addColumn,List.find?_append,different]

theorem columnRebound (s : SelectOf ε) {c : Named ε} (column : s.column? name = some c) :
    (s.replaceColumn name new).column? name = some { c with expr := new } := by
  unfold SelectOf.replaceColumn
  split
  · rename_i after found
    have kept := replacedSome name found
    rw [SelectOf.column?] at column ⊢
    simpa [column] using kept
  · rename_i missing
    have absent := replacedNone missing c (List.mem_of_find?_eq_some column)
    have named : c.name = name := by simpa using List.find?_some column
    exact absurd named absent

end Columns

/-! ### Stages -/

/-- The stages under a node in source order. -/
def stageNodes (n : Node) : List Node := (n.findAll Kind.logPipeline).filterMap (·.children.head?)

/-- The draft behind the selector rules under a node and some stages. -/
def Engine.through (e : Engine) (n : Node) (stages : List Node) (d : Draft) : Except Error Draft := do
  let d ← (n.findAll Kind.logStreamSelectorRule).foldlM (fun d rule => e.selectorRule rule d) d
  stages.foldlM (fun d s => e.stage s d) d

theorem stagesThrough (e : Engine) (ps : List Node) (d : Draft) :
    ps.foldlM (fun d p => match p.children with
      | s :: _ => e.stage s d
      | [] => .ok d) d = (ps.filterMap (·.children.head?)).foldlM (fun d s => e.stage s d) d := by
  induction ps generalizing d with
  | nil => rfl
  | cons p ps ih =>
    rw [List.foldlM_cons,List.filterMap_cons]
    cases p.children with
    | nil => exact ih d
    | cons s rest =>
      simp only [List.head?_cons,List.foldlM_cons]
      cases e.stage s d with
      | error err => rfl
      | ok next => exact ih next

theorem pipelineThrough (e : Engine) (n : Node) (d : Draft) :
    e.selectorPipeline n d = e.through n (stageNodes n) d := by
  rw [Engine.selectorPipeline,Engine.through]
  congr 1
  funext d
  exact stagesThrough e _ d

/-- What a stage can do to a draft. -/
inductive Effect (n : Node) (d : Draft) : Draft → Prop where
  | left (h : Hook) : Effect n d (d.addHook h)
  | kept (other : n.kind ≠ Kind.parserExpression) : Effect n d d
  | filtered (other : n.kind ≠ Kind.parserExpression) (cond : Expr) : Effect n d (d.addWhere cond)
  | formatted (other : n.kind ≠ Kind.parserExpression) (line : Expr) :
      Effect n d (d.mapSelect (·.replaceColumn lineColumn line))
  | extracted (parser : n.kind = Kind.parserExpression) (labels : Expr) :
      Effect n d (d.addExtraLabels labels)

section Effects

variable {n m : Node} {d next : Draft}

theorem getEntry {t : HandlerTable} {registry key : Text} {h : Handler}
    (ok : t.get registry key = .ok h) : (key, h) ∈ t := by
  unfold HandlerTable.get at ok
  split at ok
  · rename_i entry found
    cases ok
    have same : entry.1 = key := by simpa using List.find?_some found
    rw [← same]
    exact List.mem_of_find?_eq_some found
  · contradiction

theorem containsEffect (other : n.kind ≠ Kind.parserExpression) {negated : Bool} {node : Option Node}
    (ok : lineContains negated node d = .ok next) : Effect n d next := by
  simp only [lineContains,onNode] at ok
  split at ok
  · cases ok
    exact .left _
  · split at ok
    · cases ok
      split
      · exact .filtered other _
      · exact .kept other
    · cases ok
      exact .filtered other _

theorem matchesEffect (other : n.kind ≠ Kind.parserExpression) {negated : Bool} {node : Option Node}
    (ok : lineMatches negated node d = .ok next) : Effect n d next := by
  obtain ⟨compiled,_,ok⟩ := bindOk ok
  split at ok
  · cases ok
    exact .left _
  · cases ok
    exact .filtered other _

theorem jsonEffect (parser : n.kind = Kind.parserExpression) {node : Option Node}
    (ok : jsonParser node d = .ok next) : Effect n d next := by
  simp only [jsonParser,onNode] at ok
  split at ok
  · obtain ⟨fields,_,ok⟩ := bindOk ok
    cases ok
    exact .left _
  · split at ok
    · cases ok
      exact .extracted parser _
    · obtain ⟨pairs,_,ok⟩ := bindOk ok
      cases ok
      exact .extracted parser _

theorem logfmtEffect (parser : n.kind = Kind.parserExpression) {node : Option Node}
    (ok : logfmtParser node d = .ok next) : Effect n d next := by
  unfold logfmtParser at ok
  split at ok
  · cases ok
    exact .left _
  · cases ok
    exact .extracted parser _

theorem regexpEffect (parser : n.kind = Kind.parserExpression) {node : Option Node}
    (ok : regexpParser node d = .ok next) : Effect n d next := by
  obtain ⟨compiled,_,ok⟩ := bindOk ok
  dsimp only at ok
  split at ok
  · contradiction
  · split at ok
    · cases ok
      exact .left _
    · cases ok
      exact .extracted parser _

theorem filterEffect (other : n.kind ≠ Kind.parserExpression) {node : Option Node}
    (ok : labelFilter node d = .ok next) : Effect n d next := by
  unfold labelFilter at ok
  split at ok
  · contradiction
  · split at ok
    · obtain ⟨p,_,ok⟩ := bindOk ok
      cases ok
      exact .left _
    · obtain ⟨cond,_,ok⟩ := bindOk ok
      cases ok
      exact .filtered other _

theorem formatEffect (other : n.kind ≠ Kind.parserExpression) {clientTemplates : Bool}
    {node : Option Node} (ok : lineFormat clientTemplates node d = .ok next) : Effect n d next := by
  simp only [lineFormat,onNode] at ok
  split at ok
  · cases ok
    exact .formatted other _
  · split at ok
    · contradiction
    · split at ok
      · cases ok
        exact .left _
      · contradiction

theorem stageEffect {e : Engine} {clientTemplates : Bool}
    (full : e.registry = Registry.full clientTemplates) (ok : e.stage n d = .ok next) :
    Effect n d next := by
  unfold Engine.stage at ok
  rw [full] at ok
  split at ok
  · rename_i kind
    have other : n.kind ≠ Kind.parserExpression := by
      simp [kind,Kind.lineFilterExpression,Kind.parserExpression]
    obtain ⟨h,found,ok⟩ := bindOk ok
    have entry := getEntry found
    simp only [Registry.full,List.mem_cons,Prod.mk.injEq,List.not_mem_nil,or_false] at entry
    rcases entry with ⟨_,rfl⟩ | ⟨_,rfl⟩ | ⟨_,rfl⟩ | ⟨_,rfl⟩
    · exact containsEffect other ok
    · exact containsEffect other ok
    · exact matchesEffect other ok
    · exact matchesEffect other ok
  split at ok
  · rename_i parser
    obtain ⟨h,found,ok⟩ := bindOk ok
    have entry := getEntry found
    simp only [Registry.full,List.mem_cons,Prod.mk.injEq,List.not_mem_nil,or_false] at entry
    rcases entry with ⟨_,rfl⟩ | ⟨_,rfl⟩ | ⟨_,rfl⟩
    · exact jsonEffect parser ok
    · exact logfmtEffect parser ok
    · exact regexpEffect parser ok
  rename_i other
  split at ok
  · exact filterEffect other ok
  split at ok
  · exact formatEffect other ok
  split at ok
  · cases ok
  · cases ok

/-! ### The extracted labels -/

theorem hooksLeft (effect : Effect n d next) : next.hooks = [] → d.hooks = [] := by
  cases effect with
  | left h => simp [Draft.addHook]
  | kept other => exact id
  | filtered other cond => exact id
  | formatted other line => exact id
  | extracted parser labels =>
    unfold Draft.addExtraLabels
    split <;> exact id

/-- A stage in the statement keeps the extracted labels, unless it is a parser: then they grow. -/
theorem effectExtra (effect : Effect n d next) (server : next.hooks = []) {before : Expr}
    (column : d.select.column? extraColumn = some ⟨before,extraColumn⟩) :
    ∃ after, next.select.column? extraColumn = some ⟨after,extraColumn⟩ ∧
      (n.kind ≠ Kind.parserExpression → after = before) ∧
      (n.kind = Kind.parserExpression → sizeOf before < sizeOf after) := by
  cases effect with
  | left h => simp [Draft.addHook] at server
  | kept other => exact ⟨before,column,fun _ => rfl,fun parser => absurd parser other⟩
  | filtered other cond => exact ⟨before,column,fun _ => rfl,fun parser => absurd parser other⟩
  | formatted other line =>
    refine ⟨before,?_,fun _ => rfl,fun parser => absurd parser other⟩
    rw [← column]
    exact columnReplaced d.select (by simp [lineColumn,extraColumn])
  | extracted parser labels =>
    refine ⟨.call "arrayConcat" [labels, before],?_,fun other => absurd parser other,fun _ => ?_⟩
    · rw [Draft.addExtraLabels,column]
      exact columnRebound d.select column
    · simp
      omega

end Effects

section Pipelines

variable {e : Engine} {clientTemplates : Bool} (full : e.registry = Registry.full clientTemplates)

include full

theorem stagesServer {stages : List Node} {d last : Draft}
    (ok : stages.foldlM (fun d s => e.stage s d) d = .ok last) : last.hooks = [] → d.hooks = [] := by
  induction stages generalizing d with
  | nil =>
    cases ok
    exact id
  | cons s stages ih =>
    rw [List.foldlM_cons] at ok
    obtain ⟨next,head,tail⟩ := bindOk ok
    exact fun server => hooksLeft (stageEffect full head) (ih tail server)

theorem stagesExtra {stages : List Node} {d last : Draft}
    (ok : stages.foldlM (fun d s => e.stage s d) d = .ok last) (server : last.hooks = [])
    {before : Expr} (column : d.select.column? extraColumn = some ⟨before,extraColumn⟩) :
    ∃ after, last.select.column? extraColumn = some ⟨after,extraColumn⟩ ∧
      ((∀ s ∈ stages, s.kind ≠ Kind.parserExpression) → after = before) ∧
      ((∃ s ∈ stages, s.kind = Kind.parserExpression) → sizeOf before < sizeOf after) := by
  induction stages generalizing d before with
  | nil =>
    cases ok
    exact ⟨before,column,fun _ => rfl,by simp⟩
  | cons s stages ih =>
    rw [List.foldlM_cons] at ok
    obtain ⟨next,head,tail⟩ := bindOk ok
    obtain ⟨middle,reached,same,grown⟩ :=
      effectExtra (stageEffect full head) (stagesServer full tail server) column
    obtain ⟨after,final,kept,longer⟩ := ih tail reached
    refine ⟨after,final,fun none => ?_,fun some => ?_⟩
    · obtain ⟨first,rest⟩ := List.forall_mem_cons.mp none
      rw [kept rest,same first]
    · -- The labels never shrink, so one parser anywhere makes them longer for good.
      by_cases here : s.kind = Kind.parserExpression
      · by_cases more : ∃ x ∈ stages, x.kind = Kind.parserExpression
        · exact Nat.lt_trans (grown here) (longer more)
        · rw [kept (by simpa using more)]
          exact grown here
      · obtain ⟨x,mem,parser⟩ := some
        rcases List.mem_cons.mp mem with rfl | later
        · exact absurd parser here
        · rw [← same here]
          exact longer ⟨x,later,parser⟩

/-- A label filter or a line template reads the labels that it was compiled against exactly when no
parser stands behind it: the statement of the whole pipeline has them in the column that the stage
names only then. -/
theorem laterParsersRebind {n stage : Node} {c : Context} {before after : List Node}
    {reached last : Draft} {labels : Expr} (ok : e.selectorPipeline n (Draft.start c) = .ok last)
    (server : last.hooks = []) (stages : stageNodes n = before ++ stage :: after)
    (reads : stage.kind = Kind.labelFilterPipeline ∨ stage.kind = Kind.lineFormatExpression)
    (compiled : e.through n before (Draft.start c) = .ok reached)
    (column : reached.select.column? extraColumn = some ⟨labels,extraColumn⟩) :
    last.select.column? extraColumn = some ⟨labels,extraColumn⟩ ↔
      ∀ s ∈ after, s.kind ≠ Kind.parserExpression := by
  have other : stage.kind ≠ Kind.parserExpression := by
    rcases reads with kind | kind <;>
      simp [kind,Kind.labelFilterPipeline,Kind.lineFormatExpression,Kind.parserExpression]
  have rest : (stage :: after).foldlM (fun d s => e.stage s d) reached = .ok last := by
    obtain ⟨ruled,rules,ran⟩ := bindOk compiled
    rw [pipelineThrough,stages] at ok
    obtain ⟨again,same,ok⟩ := bindOk ok
    obtain rfl : ruled = again := Except.ok.inj (rules.symm.trans same)
    rw [List.foldlM_append] at ok
    obtain ⟨middle,first,ok⟩ := bindOk ok
    obtain rfl : reached = middle := Except.ok.inj (ran.symm.trans first)
    exact ok
  obtain ⟨final,found,kept,grown⟩ := stagesExtra full rest server column
  rw [found]
  constructor
  · intro same s mem parser
    have longer := grown ⟨s,List.mem_cons_of_mem _ mem,parser⟩
    cases same
    exact Nat.lt_irrefl _ longer
  · intro none
    rw [kept (List.forall_mem_cons.mpr ⟨other,none⟩)]

end Pipelines

/-- A filter on a label of the documents, with another parser behind it. -/
def parserBehindFilter : Text := "\x7bapp=\"api\"\x7d | json | level=\"error\" | logfmt"

/-- What the pipeline of a text has at its end and what its first stage leaves. -/
def Engine.rebound (e : Engine) (text : Text) : Except Error (Node × Draft × Draft) := do
  let n ← e.parse text
  let last ← e.selectorPipeline n (Draft.start {})
  let reached ← e.through n ((stageNodes n).take 1) (Draft.start {})
  return (n,last,reached)

theorem parserBehindFilterRebinds : ∃ n first stage parser last reached labels,
    ({ registry := .full true } : Engine).parse parserBehindFilter = .ok n ∧
      stageNodes n = [first,stage,parser] ∧ stage.kind = Kind.labelFilterPipeline ∧
      ({ registry := .full true } : Engine).selectorPipeline n (Draft.start {}) = .ok last ∧
      ({ registry := .full true } : Engine).through n [first] (Draft.start {}) = .ok reached ∧
      reached.select.column? extraColumn = some ⟨labels,extraColumn⟩ ∧
      last.select.column? extraColumn ≠ some ⟨labels,extraColumn⟩ := by
  obtain ⟨⟨n,last,reached⟩,ok,run⟩ := okAny
    (show (({ registry := .full true } : Engine).rebound parserBehindFilter).toOption.any
      (fun p => p.2.1.hooks.isEmpty && (p.2.2.select.column? extraColumn).isSome &&
        ((stageNodes p.1).map (·.kind) = [Kind.parserExpression,Kind.labelFilterPipeline,
          Kind.parserExpression])) = true by decide +kernel)
  simp only [Bool.and_eq_true,decide_eq_true_eq,List.isEmpty_iff] at run
  obtain ⟨⟨server,some⟩,kinds⟩ := run
  unfold Engine.rebound at ok
  obtain ⟨n',read,ok⟩ := bindOk ok
  obtain ⟨last',ran,ok⟩ := bindOk ok
  obtain ⟨reached',compiled,ok⟩ := bindOk ok
  cases ok
  obtain ⟨first,_,stages,-,kinds⟩ := List.map_eq_cons_iff.mp kinds
  obtain ⟨stage,_,rfl,filter,kinds⟩ := List.map_eq_cons_iff.mp kinds
  obtain ⟨parser,rest,rfl,later,kinds⟩ := List.map_eq_cons_iff.mp kinds
  obtain rfl := List.map_eq_nil_iff.mp kinds
  obtain ⟨⟨labels,name⟩,column⟩ := Option.isSome_iff_exists.mp some
  obtain rfl : name = extraColumn := by simpa using List.find?_some column
  rw [stages] at compiled
  have split : stageNodes n = [first] ++ stage :: [parser] := stages
  have rebinds := laterParsersRebind rfl ran server split (.inl filter) compiled column
  exact ⟨n,first,stage,parser,last,reached,labels,read,stages,filter,ran,compiled,column,
    fun same => rebinds.mp same parser (by simp) later⟩

end LogSql.Compile
