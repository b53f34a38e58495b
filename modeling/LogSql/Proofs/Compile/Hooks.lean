import LogSql.Proofs.Compile.Built

/-! Stages that are left to the client. The first stage that a statement cannot do, which only a line
template can be, is left to the client, and so are all later ones; aggregations do not look at what
was left. -/
namespace LogSql.Compile

open Query
open Sql (Expr Named)

/-- The stages that a statement can do: all but those that format lines with more than labels. -/
def onServer : Form.Stage → Bool
  | .lineFormat t => (LineTemplate.pieces? t).isSome
  | _ => true

/-! ### Stages -/

section Stages

variable {clientTemplates : Bool} {r next : Rows}

/-- While no stage is left to the client, rows keep what is left; afterwards one more is. -/
structure Follows (r next : Rows) : Prop where
  client : r.onClient = true → ∃ h, next = r.leave h
  server : r.onClient = false → next.hooks = r.hooks

theorem followsEither {h : Hook} (kept : next.hooks = r.hooks) :
    Follows r (if r.onClient then r.leave h else next) := by
  cases client : r.onClient with
  | true => exact ⟨fun _ => ⟨h,rfl⟩,fun other => by rw [client] at other; contradiction⟩
  | false => exact ⟨fun other => by rw [client] at other; contradiction,fun _ => kept⟩

theorem containsFollows (negated : Bool) (needle : Text) : Follows r (r.contains negated needle) := by
  refine followsEither ?_
  split
  · split <;> rfl
  · rfl

theorem matchingFollows {negated : Bool} {re : Text} (ok : r.matching negated re = .ok next) :
    Follows r next := by
  obtain ⟨compiled,_,rfl⟩ := mapOk ok
  exact followsEither rfl

theorem jsonFollows {params : List Node} (ok : r.json params = .ok next) : Follows r next := by
  unfold Rows.json at ok
  split at ok
  · rename_i client
    obtain ⟨fields,_,rfl⟩ := mapOk ok
    exact ⟨fun _ => ⟨_,rfl⟩,fun other => by simp [client] at other⟩
  · rename_i client
    refine ⟨fun other => absurd other client,fun _ => ?_⟩
    split at ok
    · cases ok
      rfl
    · obtain ⟨pairs,_,rfl⟩ := mapOk ok
      rfl

theorem regexpFollows {re : Text} (ok : r.regexp re = .ok next) : Follows r next := by
  obtain ⟨compiled,_,ok⟩ := bindOk ok
  split at ok
  · contradiction
  · split at ok
    · rename_i client
      cases ok
      exact ⟨fun _ => ⟨_,rfl⟩,fun other => by simp [client] at other⟩
    · rename_i client
      cases ok
      exact ⟨fun other => absurd other client,fun _ => rfl⟩

theorem filterFollows {body : Node} (ok : r.filter body = .ok next) : Follows r next := by
  unfold Rows.filter at ok
  split at ok
  · rename_i client
    obtain ⟨p,_,rfl⟩ := mapOk ok
    exact ⟨fun _ => ⟨_,rfl⟩,fun other => by simp [client] at other⟩
  · rename_i client
    obtain ⟨cond,_,rfl⟩ := mapOk ok
    exact ⟨fun other => absurd other client,fun _ => rfl⟩

theorem formatLeaves {text : Text} (ok : r.format clientTemplates text = .ok next) :
    (r.onClient = true ∨ onServer (.lineFormat text) = false → ∃ h, next = r.leave h) ∧
      (r.onClient = false → onServer (.lineFormat text) = true → next.hooks = r.hooks) := by
  unfold Rows.format at ok
  split at ok
  · rename_i pieces simple
    cases ok
    refine ⟨fun left => ?_,fun _ _ => rfl⟩
    split at simple
    · contradiction
    · rename_i client
      simp [onServer,simple,client] at left
  · rename_i none
    split at ok
    · contradiction
    · split at ok
      · cases ok
        refine ⟨fun _ => ⟨_,rfl⟩,fun client server => ?_⟩
        rw [if_neg (by simp [client])] at none
        simp [onServer,none] at server
      · contradiction

/-- A stage is left to the client when one was before or when the statement cannot do it. -/
theorem stageLeaves {s : Form.Stage} (ok : r.stage clientTemplates s = .ok next) :
    (r.onClient = true ∨ onServer s = false → ∃ h, next = r.leave h) ∧
      (r.onClient = false → onServer s = true → next.hooks = r.hooks) := by
  have plain (server : onServer s = true) (follows : Follows r next) :
      (r.onClient = true ∨ onServer s = false → ∃ h, next = r.leave h) ∧
        (r.onClient = false → onServer s = true → next.hooks = r.hooks) := by
    refine ⟨fun left => ?_,fun client _ => follows.server client⟩
    rcases left with client | other
    · exact follows.client client
    · rw [server] at other
      contradiction
  cases s with
  | line operator text known =>
    refine plain rfl ?_
    rw [Rows.stage] at ok
    split at ok
    · cases ok
      exact containsFollows _ text
    · exact matchingFollows ok
  | json params => exact plain rfl (jsonFollows ok)
  | logfmt =>
    cases ok
    exact plain rfl (followsEither rfl)
  | regexp re => exact plain rfl (regexpFollows ok)
  | filter body form => exact plain rfl (filterFollows ok)
  | lineFormat text => exact formatLeaves ok
  | labelsFormat rules => contradiction

theorem stageHooks {s : Form.Stage} (ok : r.stage clientTemplates s = .ok next) :
    next.hooks = [] ↔ r.hooks = [] ∧ onServer s = true := by
  obtain ⟨left,kept⟩ := stageLeaves ok
  by_cases here : r.onClient = true ∨ onServer s = false
  · obtain ⟨h,rfl⟩ := left here
    rcases here with client | other
    · simp only [Rows.onClient,Bool.not_eq_true',List.isEmpty_eq_false_iff] at client
      simp [Rows.leave,client]
    · simp [Rows.leave,other]
  · simp only [not_or,Bool.not_eq_true,Bool.not_eq_false] at here
    simp [kept here.1 here.2,here.2]

theorem stagesHooks {stages : List Form.Stage}
    (ok : stages.foldlM (Rows.stage clientTemplates) r = .ok next) :
    next.hooks = [] ↔ r.hooks = [] ∧ ∀ s ∈ stages, onServer s = true := by
  induction stages generalizing r with
  | nil =>
    cases ok
    simp
  | cons s stages ih =>
    rw [List.foldlM_cons] at ok
    obtain ⟨first,head,tail⟩ := bindOk ok
    rw [ih tail,stageHooks head]
    simp [and_assoc]

theorem rulesHooks {rules : List Form.Rule} (ok : rules.foldlM Rows.rule r = .ok next) :
    next.hooks = r.hooks := by
  refine foldOk (P := fun rows => rows.hooks = r.hooks) (fun rule _ rows chosen same head => ?_) rfl ok
  obtain ⟨cond,_,rfl⟩ := mapOk head
  exact same

/-- Nothing is left to the client exactly when a statement can do all stages. -/
theorem sourceHooks {s : Form.Source} (ok : Rows.ofSource clientTemplates s = .ok next) :
    next.hooks = [] ↔ ∀ stage ∈ s.stages, onServer stage = true := by
  obtain ⟨chosen,rules,stages⟩ := bindOk ok
  rw [stagesHooks stages,rulesHooks rules]
  simp

end Stages

/-! ### Statements -/

@[simp] theorem overHooks (d : Draft) (stem : Text) (l : Text → Layer) :
    (d.over stem l).hooks = d.hooks := rfl

@[simp] theorem orderHooks (d : Draft) (orders : List (Named Expr)) :
    (d.orderBy orders).hooks = d.hooks := rfl

@[simp] theorem bucketHooks (stem : Text) (value : Text → Text) (clause : Option Node) (d : Draft) :
    (bucket stem value clause d).hooks = d.hooks := by
  rw [bucketLayered,stepLayered]
  split <;> rfl

section Drafts

variable {clientTemplates : Bool} {c : Context} {orders : List (Named Expr)}

/-- What an unwrap function combines is never left to the client. -/
theorem unwrappedHooks {u : Form.Unwrapped} {rows : Rows × Projection}
    (ok : Rows.ofUnwrapped clientTemplates u = .ok rows) :
    Rows.ofSource clientTemplates u.source = .ok rows.1 ∧ rows.1.hooks = [] := by
  have numbered {conv name : Text}
      (ok : (Rows.ofSource clientTemplates u.source).bind (Rows.number conv name) = .ok rows) :
      Rows.ofSource clientTemplates u.source = .ok rows.1 ∧ rows.1.hooks = [] := by
    obtain ⟨r,source,ok⟩ := bindOk ok
    unfold Rows.number at ok
    split at ok
    · contradiction
    · rename_i client
      obtain ⟨e,_,rfl⟩ := mapOk ok
      exact ⟨source,by simpa [Rows.onClient] using client⟩
  unfold Rows.ofUnwrapped at ok
  split at ok
  · split at ok
    · rename_i none
      obtain ⟨r,source,rfl⟩ := mapOk ok
      refine ⟨source,(sourceHooks source).mpr fun stage mem => ?_⟩
      rw [List.isEmpty_iff.mp none] at mem
      contradiction
    · contradiction
  · exact numbered ok
  · exact numbered ok

theorem rangeHooks {r : Form.Range} {d : Draft} (ok : rangeDraft clientTemplates c orders r = .ok d) :
    ∃ rows, Rows.ofSource clientTemplates r.source = .ok rows ∧ d.hooks = rows.hooks ∧
      (rows.hooks ≠ [] → r.counts = true) := by
  cases r with
  | log fn known s span =>
    obtain ⟨rows,source,rfl⟩ := mapOk ok
    exact ⟨rows,source,by simp [Rows.draft],fun _ => rfl⟩
  | unwrap fn known u =>
    obtain ⟨rows,unwrapped,rfl⟩ := mapOk ok
    obtain ⟨source,none⟩ := unwrappedHooks unwrapped
    exact ⟨rows.1,source,by simp [projectedDraft,Rows.draft],fun left => absurd none left⟩

theorem matrixHooks {m : Form.Matrix} {d : Draft} (ok : matrixDraft clientTemplates c orders m = .ok d) :
    ∃ rows, Rows.ofSource clientTemplates m.source = .ok rows ∧ d.hooks = rows.hooks ∧
      (rows.hooks ≠ [] → m.counts = true) := by
  cases m with
  | range r => exact rangeHooks ok
  | quantile fn known x u =>
    obtain ⟨rows,unwrapped,ok⟩ := bindOk ok
    obtain ⟨phi,_,rfl⟩ := mapOk ok
    obtain ⟨source,none⟩ := unwrappedHooks unwrapped
    exact ⟨rows.1,source,by simp [projectedDraft,Rows.draft],fun left => absurd none left⟩
  | aggregate fn known g r =>
    obtain ⟨inner,range,rfl⟩ := mapOk ok
    obtain ⟨rows,source,same,counts⟩ := rangeHooks range
    exact ⟨rows,source,same,counts⟩

theorem seriesHooks {direction : Text} {m : Form.Matrix} {ranking : Option Form.Ranking}
    {threshold : Option Form.Threshold} {d : Draft}
    (ok : seriesDraft clientTemplates c direction m ranking threshold = .ok d) :
    ∃ rows, Rows.ofSource clientTemplates m.source = .ok rows ∧ d.hooks = rows.hooks ∧
      (rows.hooks ≠ [] → m.counts = true) := by
  obtain ⟨first,base,ok⟩ := bindOk ok
  obtain ⟨second,compared,ranked⟩ := bindOk ok
  obtain ⟨rows,source,same,counts⟩ := matrixHooks base
  have kept : second.hooks = first.hooks := by
    cases threshold with
    | none =>
      cases compared
      rfl
    | some t =>
      obtain ⟨want,_,rfl⟩ := mapOk compared
      rfl
  have last : d.hooks = second.hooks := by
    cases ranking with
    | none =>
      cases ranked
      rfl
    | some r =>
      obtain ⟨k,_,ranked⟩ := bindOk ranked
      split at ranked
      · cases ranked
        rfl
      · contradiction
  exact ⟨rows,source,by rw [last,kept,same],counts⟩

end Drafts

/-! ### Requests -/

theorem formatsAbsent : Kind.lineFormatExpression ∉ Form.shellKinds :=
  Form.shellAbsent _ (by simp [Form.innerKinds])

/-- The stages of a source that a statement cannot do are its line templates with more than labels. -/
theorem sourceFormatsLeft (s : Form.Source) :
    (∃ n ∈ Node.findAllIn Kind.lineFormatExpression s.nodes,
        LineTemplate.pieces? (stageText n) = none) ↔ ∃ stage ∈ s.stages, onServer stage = false := by
  constructor
  · rintro ⟨n,mem,left⟩
    obtain ⟨t,stage,rfl⟩ := (Form.sourceFormats s).mp mem
    refine ⟨_,stage,?_⟩
    simpa [onServer,stageText,Form.Stage.node,Node.valueOfHead] using left
  · rintro ⟨stage,mem,left⟩
    cases stage with
    | lineFormat t =>
      refine ⟨_,(Form.sourceFormats s).mpr ⟨t,mem,rfl⟩,?_⟩
      simpa [onServer,stageText,Form.Stage.node,Node.valueOfHead] using left
    | _ => simp [onServer] at left

/-- A matrix leaves stages to the client exactly when it counts rows behind a line template with more
than labels; functions over numbers refuse such templates. -/
theorem matrixLeavesStages {e : Engine} {clientTemplates : Bool}
    (full : e.registry = Registry.full clientTemplates) {r : Request} {compiled : Compiled}
    (ok : e.compile r = .ok compiled) (matrix : compiled.matrix = true) :
    ∃ text root, e.Expands r.query text ∧ e.parse text = .ok root ∧
      root.find? Kind.userMacro = none ∧
      (compiled.hooks ≠ [] ↔ (root.find? Kind.logRangeAggregation).isSome = true ∧
        ∃ n ∈ root.findAll Kind.lineFormatExpression, LineTemplate.pieces? (stageText n) = none) := by
  obtain ⟨text,expands,source⟩ := compileSource full ok
  cases source with
  | rows read window drafted =>
    have context := (supportedContext window).1
    rw [Form.classifyRows] at context
    exact absurd matrix (by simp [Engine.result,context])
  | @matrix m ranking threshold w d read window drafted =>
    refine ⟨text,_,expands,read,Form.matrixNoCall m ranking threshold,?_⟩
    obtain ⟨rows,source,same,counts⟩ := seriesHooks drafted
    rw [Form.matrixCounts,Form.matrixSource formatsAbsent,sourceFormatsLeft,resultHooks,same]
    have left : rows.hooks ≠ [] ↔ ∃ stage ∈ m.source.stages, onServer stage = false := by
      rw [Ne,sourceHooks source]
      simp
    exact ⟨fun some => ⟨counts some,left.mp some⟩,fun both => left.mpr both.2⟩

/-- A count of the lines that contain a letter after a template has made them upper case. -/
def upperCount : Request :=
  { query := "count_over_time(\x7bapp=\"api\"\x7d | line_format \"\x7b\x7b .a | ToUpper \x7d\x7d\" |= \"X\" [1m])" }

theorem upperCountLeaves : ∃ compiled,
    ({ registry := .full true } : Engine).compile upperCount = .ok compiled ∧
      compiled.matrix = true ∧ compiled.hooks.length = 2 ∧
      ∃ text root, ({ registry := .full true } : Engine).parse text = .ok root ∧
        ∃ n ∈ root.findAll Kind.lineFormatExpression, LineTemplate.pieces? (stageText n) = none := by
  obtain ⟨compiled,ok,run⟩ := okAny
    (show (({ registry := .full true } : Engine).compile upperCount).toOption.any
      (fun compiled => compiled.matrix && compiled.hooks.length = 2) = true by decide +kernel)
  simp only [Bool.and_eq_true,decide_eq_true_eq] at run
  obtain ⟨text,root,_,read,_,exactly⟩ := matrixLeavesStages rfl ok run.1
  have left : compiled.hooks ≠ [] := by
    intro none
    simp [none] at run
  exact ⟨compiled,ok,run.1,run.2,text,root,read,(exactly.mp left).2⟩

end LogSql.Compile
