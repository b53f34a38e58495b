import LogSql.Http.Params
import LogSql.Macro.Registry
import LogSql.Proofs.Compile.Recognition

/-! Why requests fail. With all handlers at hand, whatever a request asks and whatever macros are
active, it fails only because it is wrong or because its shape does not allow what it asks for: no
symbol is missing, and no statement turns out to be impossible while it is built. -/
namespace LogSql.Compile

open Query
open Sql (Expr Named)

/-- The errors that are the fault of the request. -/
def Refusal (err : Error) : Prop :=
  err.class? = some .badRequest ∨ err.class? = some .unsupported

/-- Every error of a computation is the fault of the request. -/
def Refuses {α : Type} (x : Except Error α) : Prop := ∀ err, x = .error err → Refusal err

/-- The errors of requests that are wrong. -/
def Wrong (err : Error) : Prop := err.class? = some .badRequest

section Rules

variable {α β ε : Type}

@[simp] theorem refusesOk {a : α} : Refuses (.ok a : Except Error α) := FailsWith.ok

@[simp] theorem refusesError {err : Error} :
    Refuses (.error err : Except Error α) ↔ Refusal err := FailsWith.error

theorem Refuses.bind {x : Except Error α} {f : α → Except Error β} (first : Refuses x)
    (next : ∀ a, x = .ok a → Refuses (f a)) : Refuses (x.bind f) := FailsWith.bind first next

@[simp] theorem refusesMap {x : Except Error α} {f : α → β} : Refuses (x.map f) ↔ Refuses x :=
  FailsWith.map

theorem refusesMapError {x : Except ε α} {f : ε → Error} (each : ∀ err, Refusal (f err)) :
    Refuses (x.mapError f) := FailsWith.mapError each

theorem refusesIte {P : Prop} [Decidable P] {x y : Except Error α} (yes : P → Refuses x)
    (no : ¬ P → Refuses y) : Refuses (if P then x else y) := FailsWith.ite yes no

theorem refusesMapM {f : α → Except Error β} {xs : List α} (each : ∀ x ∈ xs, Refuses (f x)) :
    Refuses (xs.mapM f) := FailsWith.mapM each

theorem refusesFold {f : β → α → Except Error β} {xs : List α}
    (each : ∀ b, ∀ x ∈ xs, Refuses (f b x)) (b : β) : Refuses (xs.foldlM f b) :=
  FailsWith.fold each b

theorem refusesWrong {x : Except Error α} (wrong : FailsWith Wrong x) : Refuses x :=
  fun err failed => .inl (wrong err failed)

end Rules

/-! ### Numbers, patterns and paths -/

theorem numberFails (t : Text) : FailsWith Wrong (number t) := .mapError fun _ => rfl

theorem patternFails (t : Text) : FailsWith Wrong (pattern t) := .mapError fun _ => rfl

theorem numberRefuses (t : Text) : Refuses (number t) := refusesWrong (numberFails t)

theorem patternRefuses (t : Text) : Refuses (pattern t) := refusesWrong (patternFails t)

/-- A path is refused as such. -/
theorem pathIndexesFail (path : Text) (fuel : Nat) (rest : Text) :
    FailsWith (fun err => ∃ r, err = .badPath path r) (pathIndexes path fuel rest) := by
  induction fuel generalizing rest with
  | zero => exact .ok
  | succ fuel ih =>
    rw [pathIndexes]
    refine .ite (fun _ => .ok) fun _ => ?_
    split
    · exact FailsWith.error.mpr ⟨none,rfl⟩
    · split
      · exact FailsWith.error.mpr ⟨_,rfl⟩
      · refine .ite (fun _ => FailsWith.error.mpr ⟨none,rfl⟩) fun _ => ?_
        exact (ih _).bind fun _ _ => .ok

theorem pathAccessorsFail (path : Text) :
    FailsWith (fun err => ∃ r, err = .badPath path r) (pathAccessors path) := by
  have segment (s : Text) : FailsWith (fun err => ∃ r, err = .badPath path r) (pathSegment path s) :=
    (pathIndexesFail path _ _).bind fun _ _ => .ok
  refine (FailsWith.mapM fun s _ => segment s).bind fun segments _ => ?_
  exact .ite (fun _ => FailsWith.error.mpr ⟨none,rfl⟩) fun _ => .ok

theorem pathAccessorsRefuses (path : Text) : Refuses (pathAccessors path) := by
  intro err failed
  obtain ⟨r,rfl⟩ := pathAccessorsFail path err failed
  exact .inl rfl

theorem jsonFieldsRefuses (params : List Node) : Refuses (jsonFields params) :=
  refusesMapM fun _ _ => (pathAccessorsRefuses _).bind fun _ _ => refusesOk

theorem jsonPairRefuses (line : Text) (n : Node) : Refuses (jsonPair line n) :=
  (pathAccessorsRefuses _).bind fun _ _ => refusesOk

/-! ### Label filters -/

theorem textConditionFails (value : Expr) (op want : Text) :
    FailsWith Wrong (textCondition value op want) := by
  refine .ite (fun _ => .ok) fun _ => .ite (fun _ => .ok) fun _ => ?_
  refine .ite (fun _ => ?_) fun _ => FailsWith.error.mpr rfl
  exact (patternFails want).bind fun _ _ => .ok

theorem conditionFails (d : Draft) {n : Node} (form : Form.Filter n) :
    FailsWith Wrong (condition d n) := by
  induction form with
  | test t =>
    rw [conditionTest]
    obtain ⟨label,op,operand⟩ := t
    cases operand with
    | text t known => exact textConditionFails _ op t
    | number t known => exact FailsWith.map.mpr (numberFails t)
    | duration t known readable => exact FailsWith.map.mpr (.mapError fun _ => rfl)
    | bytes t known => exact FailsWith.map.mpr (.mapError fun _ => rfl)
  | all two each ih =>
    rw [conditionAll]
    exact FailsWith.map.mpr (.mapM ih)
  | any two each ih =>
    rw [conditionAny]
    exact FailsWith.map.mpr (.mapM ih)

theorem textPredicateFails (label op want : Text) :
    FailsWith Wrong (textPredicate label op want) := by
  refine .ite (fun _ => .ok) fun _ => .ite (fun _ => .ok) fun _ => ?_
  refine .ite (fun _ => ?_) fun _ => FailsWith.error.mpr rfl
  split
  · exact .ok
  · exact FailsWith.error.mpr rfl

theorem predicateFails {n : Node} (form : Form.Filter n) : FailsWith Wrong (predicate n) := by
  induction form with
  | test t =>
    rw [predicateTest]
    obtain ⟨label,op,operand⟩ := t
    cases operand with
    | text t known => exact textPredicateFails label op t
    | number t known => exact FailsWith.map.mpr (.mapError fun _ => rfl)
    | duration t known readable => exact FailsWith.map.mpr (.mapError fun _ => rfl)
    | bytes t known => exact FailsWith.map.mpr (.mapError fun _ => rfl)
  | all two each ih =>
    rw [predicateAll]
    exact FailsWith.map.mpr (.mapM ih)
  | any two each ih =>
    rw [predicateAny]
    exact FailsWith.map.mpr (.mapM ih)

/-! ### Pipelines -/

theorem ruleRefuses (r : Rows) (rule : Form.Rule) : Refuses (r.rule rule) := by
  refine refusesMap.mpr (refusesIte (fun _ => refusesOk) fun _ => ?_)
  exact refusesMap.mpr (patternRefuses rule.value)

theorem formatRefuses (clientTemplates : Bool) (text : Text) (r : Rows) :
    Refuses (r.format clientTemplates text) := by
  rw [Rows.format]
  split
  · exact refusesOk
  · refine refusesIte (fun _ => refusesError.mpr (.inr rfl)) fun _ => ?_
    split
    · exact refusesOk
    · exact refusesError.mpr (.inl rfl)

theorem stageRefuses (clientTemplates : Bool) (r : Rows) (s : Form.Stage) :
    Refuses (r.stage clientTemplates s) := by
  cases s with
  | line operator text known =>
    exact refusesIte (fun _ => refusesOk) fun _ => refusesMap.mpr (patternRefuses text)
  | json params =>
    refine refusesIte (fun _ => ?_) fun _ => refusesIte (fun _ => refusesOk) fun _ => ?_
    · exact refusesMap.mpr (jsonFieldsRefuses _)
    · exact refusesMap.mpr (refusesMapM fun p _ => jsonPairRefuses _ p)
  | logfmt => exact refusesOk
  | regexp re =>
    refine (patternRefuses re).bind fun compiled _ => refusesIte (fun _ => ?_) fun _ => ?_
    · exact refusesError.mpr (.inl rfl)
    · exact refusesIte (fun _ => refusesOk) fun _ => refusesOk
  | filter body form =>
    refine refusesIte (fun _ => ?_) fun _ => ?_
    · exact refusesMap.mpr (refusesWrong (predicateFails form))
    · exact refusesMap.mpr (refusesWrong (conditionFails _ form))
  | lineFormat text => exact formatRefuses clientTemplates text r
  | labelsFormat rules => exact refusesError.mpr (.inr rfl)

theorem sourceRefuses (clientTemplates : Bool) (s : Form.Source) :
    Refuses (Rows.ofSource clientTemplates s) := by
  refine (refusesFold (fun r rule _ => ruleRefuses r rule) _).bind fun r _ => ?_
  exact refusesFold (fun r stage _ => stageRefuses clientTemplates r stage) r

/-! ### Matrices -/

theorem conversionRefuses {conv : Text} (known : conv = [] ∨ conv ∈ unwrapConversions) (value : Expr) :
    Refuses (conversion conv value) := by
  simp only [unwrapConversions,List.mem_cons,List.not_mem_nil,or_false] at known
  rcases known with rfl | rfl | rfl | rfl <;> simp [conversion]

theorem rowsNumberRefuses {conv : Text} (known : conv = [] ∨ conv ∈ unwrapConversions) (name : Text)
    (r : Rows) : Refuses (r.number conv name) := by
  refine refusesIte (fun _ => refusesError.mpr (.inr rfl)) fun _ => ?_
  exact refusesMap.mpr (conversionRefuses known _)

theorem unwrappedRefuses (clientTemplates : Bool) (u : Form.Unwrapped) :
    Refuses (Rows.ofUnwrapped clientTemplates u) := by
  have source := sourceRefuses clientTemplates u.source
  rw [Rows.ofUnwrapped]
  cases u.clause with
  | value => exact refusesIte (fun _ => refusesMap.mpr source) fun _ => refusesError.mpr (.inr rfl)
  | label name => exact source.bind fun r _ => rowsNumberRefuses (.inl rfl) name r
  | converted conv name known => exact source.bind fun r _ => rowsNumberRefuses (.inr known) name r

variable {c : Context} {orders : List (Named Expr)}

theorem rangeRefuses (clientTemplates : Bool) (r : Form.Range) :
    Refuses (rangeDraft clientTemplates c orders r) := by
  cases r with
  | log fn known s span => exact refusesMap.mpr (sourceRefuses clientTemplates s)
  | unwrap fn known u => exact refusesMap.mpr (unwrappedRefuses clientTemplates u)

theorem readQuantileRefuses (t : Text) : Refuses (readQuantile t) :=
  (numberRefuses t).bind fun _ _ =>
    refusesIte (fun _ => refusesError.mpr (.inl rfl)) fun _ => refusesOk

theorem matrixRefuses (clientTemplates : Bool) (m : Form.Matrix) :
    Refuses (matrixDraft clientTemplates c orders m) := by
  cases m with
  | range r => exact rangeRefuses clientTemplates r
  | quantile fn known x u =>
    refine (unwrappedRefuses clientTemplates u).bind fun r _ => ?_
    exact refusesMap.mpr (readQuantileRefuses x.text)
  | aggregate fn known g r => exact refusesMap.mpr (rangeRefuses clientTemplates r)

theorem compareRefuses (d : Draft) (t : Option Form.Threshold) : Refuses (compareDraft d t) := by
  cases t with
  | none => exact refusesOk
  | some t => exact refusesMap.mpr (numberRefuses t.bound.text)

theorem rankRefuses (d : Draft) (r : Option Form.Ranking) : Refuses (rankDraft d r) := by
  cases r with
  | none => exact refusesOk
  | some r =>
    refine (numberRefuses r.param.text).bind fun k _ => ?_
    exact refusesIte (fun _ => refusesOk) fun _ => refusesError.mpr (.inl rfl)

/-! ### Requests -/

theorem durationRefuses (t : Text) : Refuses (durationMs t) := by
  refine (refusesMapError fun _ => .inl rfl).bind fun d _ => ?_
  exact refusesIte (fun _ => refusesError.mpr (.inl rfl)) fun _ => refusesOk

theorem stepRefuses (t : Text) : Refuses (stepMs t) := by
  refine refusesIte (fun _ => refusesOk) fun _ => ?_
  split
  · dsimp only
    split
    · exact refusesIte (fun _ => refusesError.mpr (.inl rfl)) fun _ => refusesOk
    · exact refusesError.mpr (.inl rfl)
  · split
    · exact refusesOk
    · exact refusesError.mpr (.inl rfl)

theorem windowRefuses (e : Engine) (r : Request) (root : Node)
    (ranged : ∀ f n, classify root = some (f, n) → Refuses (rangeOf n)) : Refuses (e.window r root) := by
  unfold Engine.window
  refine (stepRefuses r.step).bind fun step _ => refusesIte (fun _ => ?_) fun _ => ?_
  · exact refusesError.mpr (.inl rfl)
  cases found : classify root with
  | none => exact refusesOk
  | some p => exact (ranged p.1 p.2 found).bind fun _ _ => refusesOk

theorem supportedRefuses (e : Engine) (r : Request) (root : Node)
    (ranged : ∀ f n, classify root = some (f, n) → Refuses (rangeOf n)) :
    Refuses (e.supported r root) :=
  refusesIte (fun _ => refusesError.mpr (.inr rfl)) fun _ => windowRefuses e r root ranged

/-- Every call names an active macro, and a macro answers for calls of its name. -/
theorem expandRefuses {e : Engine} {registry : Macro.Registry} (macros : e.macros = registry.macros)
    {name : Text} (args : List Text) (called : name ∈ e.macros.map (·.name)) :
    Refuses (e.expand (.mk Kind.userMacro name
      [.mk name name (args.map (.leaf Kind.macroArg))])) := by
  rw [Engine.expand]
  obtain ⟨m,mem,same⟩ := List.mem_map.mp called
  have handles : m.handles (.mk Kind.userMacro name
      [.mk name name (args.map (.leaf Kind.macroArg))]) = true := by
    rw [macros,Macro.Registry.macros] at mem
    obtain ⟨p,_,rfl⟩ := List.mem_map.mp mem
    simp only [Macro.Prepared.toMacro] at same ⊢
    simp [Macro.handlesByName,same,Node.findHead]
  split
  · exact refusesMapError fun _ => .inl rfl
  · rename_i absent
    exact absurd handles (List.find?_eq_none.mp absent m mem)

theorem parseRefuses (e : Engine) (t : Text) : Refuses (e.parse t) :=
  refusesMapError fun _ => .inl rfl

section Engines

variable {e : Engine} {clientTemplates : Bool} {registry : Macro.Registry}
variable (full : e.registry = Registry.full clientTemplates) (macros : e.macros = registry.macros)

include full

theorem compileRootRefuses (r : Request) {q : Form} (plain : q.node.find? Kind.userMacro = none) :
    Refuses (e.compileRoot r q.node) := by
  cases q with
  | call name args => simp [Form.callFound] at plain
  | rows s =>
    rw [compileRows full]
    have window := supportedRefuses e r (Form.rows s).node fun f n found => by
      rw [Form.classifyRows] at found
      contradiction
    exact window.bind fun w _ => refusesMap.mpr (refusesMap.mpr (sourceRefuses clientTemplates s))
  | matrix m ranking threshold =>
    rw [compileMatrix full]
    have window := supportedRefuses e r (Form.matrix m ranking threshold).node
      fun f n found => by
        rw [Form.classifyMatrix] at found
        cases found
        rw [Form.matrixRange]
        exact durationRefuses m.span.text
    refine window.bind fun w _ => refusesMap.mpr ?_
    refine (matrixRefuses clientTemplates m).bind fun d _ => ?_
    exact (compareRefuses d threshold).bind fun d _ => rankRefuses d ranking

include macros

theorem compileWithinRefuses (expansions : Nat) (r : Request) :
    Refuses (e.compileWithin expansions r) := by
  induction expansions generalizing r with
  | zero =>
    rw [Engine.compileWithin]
    refine (parseRefuses e r.query).bind fun root read => ?_
    obtain ⟨q,rfl,_⟩ := parseText read
    cases found : q.node.find? Kind.userMacro with
    | none => exact compileRootRefuses full r found
    | some call => exact refusesError.mpr (.inl rfl)
  | succ expansions ih =>
    rw [Engine.compileWithin]
    refine (parseRefuses e r.query).bind fun root read => ?_
    obtain ⟨q,rfl,calls⟩ := parseText read
    cases q with
    | call name args =>
      rw [Form.callFound]
      exact (expandRefuses macros args calls).bind fun text _ => ih _
    | rows s =>
      rw [Form.rowsNoCall]
      exact compileRootRefuses full r (Form.rowsNoCall s)
    | matrix m ranking threshold =>
      rw [Form.matrixNoCall]
      exact compileRootRefuses full r (Form.matrixNoCall m ranking threshold)

omit macros in
theorem compileTailRefuses (text : Text) : Refuses (e.compileTail text) := by
  unfold Engine.compileTail
  refine (parseRefuses e text).bind fun root read => ?_
  obtain ⟨q,rfl,_⟩ := parseText read
  cases denied : tailDenied.find? fun kind => (q.node.find? kind).isSome with
  | some kind => exact refusesError.mpr (.inr rfl)
  | none =>
    refine refusesIte (fun _ => refusesError.mpr (.inr rfl)) fun _ => ?_
    have absent := List.find?_eq_none.mp denied
    cases q with
    | call name args =>
      have none := absent Kind.userMacro (by simp [tailDenied])
      simp [Form.callFound] at none
    | rows s =>
      rw [startByTime,pipelineRows full (Form.rowsHold s)]
      exact (refusesMap.mpr (sourceRefuses clientTemplates s)).bind fun _ _ => refusesOk
    | matrix m ranking threshold =>
      have none := absent Kind.aggStatement (by simp [tailDenied])
      simp [Form.matrixStatement] at none

end Engines

/-! ### Series -/

theorem operandTextsOk (ts : List Text) :
    Sql.Clause.operandTexts (ts.map .text) = .ok ts := by
  induction ts with
  | nil => simp [Sql.Clause.operandTexts]
  | cons t ts ih => simp [Sql.Clause.operandTexts,ih,bind,Except.bind,pure,Except.pure]

/-- A statement that can be written. -/
def Writable (m : Sql.Clause.Request) : Prop := ∃ t, m.text = .ok t

/-- The label sets of the streams that satisfy some conditions. -/
def Engine.labelSets (e : Engine) (conds : List Text) : Sql.Clause.Request :=
  .mk [] { distinct := true, select := ["labels"]
           source := e.policy.timeSeriesTable ++ " AS time_series"
           filter := if conds.isEmpty then [] else .text "AND" :: conds.map .text }

/-- The conditions of a statement behind its keyword, if it has any. -/
def whereText (conds : List Text) : Text :=
  if conds.isEmpty then [] else " WHERE " ++ Text.join " AND " conds

/-- The text of the statement for some conditions. -/
def Engine.labelSetsText (e : Engine) (conds : List Text) : Text :=
  .concat ["SELECT DISTINCT labels FROM ", e.policy.timeSeriesTable, " AS time_series", whereText conds]

theorem labelSetsWritten (e : Engine) (conds : List Text) :
    (e.labelSets conds).text = .ok (e.labelSetsText conds) := by
  have source : (e.policy.timeSeriesTable ++ (" AS time_series" : Text)).isEmpty = false := by simp
  have head : Text.ofString "SELECT DISTINCT labels FROM " =
      Text.concat ["SELECT ","DISTINCT ",Text.join ", " ["labels"]," FROM "] := rfl
  cases conds with
  | nil =>
    simp [Engine.labelSets,Engine.labelSetsText,whereText,Sql.Clause.Request.text,Sql.Clause.withTexts,
      Sql.Clause.Body.text,source,Sql.Clause.joinTexts,Sql.Clause.clausePart,bind,Except.bind,pure,
      Except.pure,Sql.Clause.listPart,Sql.Clause.part,head,Text.concat]
  | cons cond conds =>
    have written := operandTextsOk (cond :: conds)
    have word : Text.concat [" ","AND"," "] = Text.ofString " AND " := rfl
    simp only [List.map_cons] at written
    simp [Engine.labelSets,Engine.labelSetsText,whereText,Sql.Clause.Request.text,Sql.Clause.withTexts,
      Sql.Clause.Body.text,source,Sql.Clause.joinTexts,Sql.Clause.clausePart,Sql.Clause.text,written,
      word,bind,Except.bind,pure,Except.pure,Sql.Clause.listPart,Sql.Clause.part,head]
    simp [Text.concat]

theorem memberConditions {e : Engine} {t : Text} {m : Sql.Clause.Request} (ok : e.seriesMember t = .ok m) :
    ∃ conds, m = e.labelSets conds := by
  obtain ⟨root,_,ok⟩ := bindOk ok
  obtain ⟨_,ok⟩ := guardOk ok
  obtain ⟨d,_,ok⟩ := bindOk ok
  dsimp only at ok
  split at ok
  · cases ok
  · cases ok
    exact ⟨_,rfl⟩

/-- The statement of a match can be written. -/
theorem memberWritable {e : Engine} {t : Text} {m : Sql.Clause.Request}
    (ok : e.seriesMember t = .ok m) : Writable m := by
  obtain ⟨conds,rfl⟩ := memberConditions ok
  exact ⟨_,labelSetsWritten e conds⟩

theorem seriesPlaced (e : Engine) : Placed e.seriesMember Error.inMatch e.seriesMembers :=
  ⟨fun _ => rfl,fun _ _ _ => rfl⟩

theorem unionWritable {members : List Sql.Clause.Request} (some : members ≠ [])
    (each : ∀ m ∈ members, Writable m) : ∃ t, Sql.Clause.unionText true members = .ok t := by
  have texts (i : Nat) : ∃ ts, Sql.Clause.memberTexts i members = .ok ts := by
    clear some
    induction members generalizing i with
    | nil => exact ⟨[],rfl⟩
    | cons m members ih =>
      obtain ⟨t,head⟩ := each m List.mem_cons_self
      obtain ⟨ts,tail⟩ := ih (fun x mem => each x (List.mem_cons_of_mem _ mem)) (i + 1)
      exact ⟨_,by simp [Sql.Clause.memberTexts,head,tail,bind,Except.bind]; rfl⟩
  obtain ⟨ts,written⟩ := texts 0
  have notEmpty : members.isEmpty = false := by simpa using some
  exact ⟨_,by simp [Sql.Clause.unionText,notEmpty,written,bind,Except.bind]; rfl⟩

theorem bindSelection (d : Draft) (c : Sql.Cell) (v : Sql.Value) :
    (d.bind c v).selection? = d.selection? := by
  rw [Draft.selection?,bindSelect,Draft.selection?]

@[simp] theorem draftSelection (r : Rows) (p : Projection) :
    (r.draft p c orders).selection? = some (r.selection c.legacy) := by
  simp [Draft.selection?,Sql.SelectOf.with?,Rows.draft]

theorem argumentsAbsent {k : Text} (other : Kind.macroArg ≠ k) (args : List Text) :
    Node.findAllIn k (args.map (.leaf Kind.macroArg)) = [] := by
  refine Node.findAllInAbsent _ fun found => ?_
  have inside : Node.kindsIn (args.map (.leaf Kind.macroArg)) ⊆ [Kind.macroArg] := by
    refine Node.kindsInSubset fun c mem => ?_
    obtain ⟨a,_,rfl⟩ := List.mem_map.mp mem
    simp
  exact other (List.mem_singleton.mp (inside found)).symm

/-- The construct of a selector is found in a call only when the macro is called like it. -/
theorem callNamed {name : Text} {args : List Text}
    (selector : ((Form.call name args).node.find? Kind.logStreamSelector).isSome) :
    name = Kind.logStreamSelector := by
  refine Decidable.byContradiction fun other => ?_
  have none := argumentsAbsent (k := Kind.logStreamSelector)
    (by simp [Kind.macroArg,Kind.logStreamSelector]) args
  simp only [Form.node,Form.children,Node.findHead,Node.findAllMk,Node.findAllInCons,
    Node.kindMk,none,other] at selector
  simp [Kind.userMacro,Kind.logStreamSelector] at selector

/-- A macro that is called like the construct of a selector has neither rules nor stages. -/
theorem callHolds {name : Text} {args : List Text}
    (selector : ((Form.call name args).node.find? Kind.logStreamSelector).isSome) :
    (Form.call name args).node.findAll Kind.logStreamSelectorRule = [] ∧
      (Form.call name args).node.findAll Kind.logPipeline = [] := by
  obtain rfl := callNamed selector
  constructor
  · simp only [Form.node,Form.children,Node.findAllMk,Node.findAllInCons,
      argumentsAbsent (k := Kind.logStreamSelectorRule)
        (by simp [Kind.macroArg,Kind.logStreamSelectorRule]) args]
    simp [Kind.userMacro,Kind.logStreamSelector,Kind.logStreamSelectorRule]
  · simp only [Form.node,Form.children,Node.findAllMk,Node.findAllInCons,
      argumentsAbsent (k := Kind.logPipeline) (by simp [Kind.macroArg,Kind.logPipeline]) args]
    simp [Kind.userMacro,Kind.logStreamSelector,Kind.logPipeline]

section Engines

variable {e : Engine} {clientTemplates : Bool} (full : e.registry = Registry.full clientTemplates)

include full

/-- The pipeline under the text of a series selector refuses, or gives rows. -/
theorem seriesRows {q : Form} (selector : (q.node.find? Kind.logStreamSelector).isSome)
    (statement : q.node.find? Kind.aggStatement = none) :
    ∃ x : Except Error Rows, Refuses x ∧
      e.selectorPipeline q.node (Rows.draft {} .line c orders) =
        x.map fun r => r.draft .line c orders := by
  cases q with
  | call name args =>
    obtain ⟨rules,stages⟩ := callHolds selector
    refine ⟨.ok {},refusesOk,?_⟩
    rw [Engine.selectorPipeline,rules,stages]
    rfl
  | rows s => exact ⟨_,sourceRefuses clientTemplates s,pipelineRows full (Form.rowsHold s)⟩
  | matrix m ranking threshold =>
    rw [Form.matrixStatement] at statement
    contradiction

theorem seriesMemberRefuses (text : Text) : Refuses (e.seriesMember text) := by
  rw [Engine.seriesMember]
  refine (parseRefuses e text).bind fun root read => ?_
  obtain ⟨q,rfl,_⟩ := parseText read
  refine refusesIte (fun _ => refusesError.mpr (.inl rfl)) fun accepted => ?_
  simp only [Bool.or_eq_true,Option.isNone_iff_eq_none,Option.isSome_iff_ne_none,not_or,
    ne_eq,Decidable.not_not] at accepted
  obtain ⟨x,refuses,rows⟩ := @seriesRows { legacy := true } [byTime "desc"] e _ full q
    (Option.isSome_iff_ne_none.mpr accepted.1) accepted.2
  rw [startByTime,rows]
  refine (refusesMap.mpr refuses).bind fun d ok => ?_
  obtain ⟨r,_,rfl⟩ := mapOk ok
  simp only [bindSelection,draftSelection]
  exact refusesOk

theorem seriesMembersSound (texts : List Text) (i : Nat) :
    Refuses (e.seriesMembers i texts) ∧
      ∀ ms, e.seriesMembers i texts = .ok ms → ms.length = texts.length ∧ ∀ m ∈ ms, Writable m := by
  constructor
  · intro err failed
    obtain ⟨_,t,_,cause,_,_,_,here,rfl⟩ := (seriesPlaced e).fails failed
    exact seriesMemberRefuses full t cause here
  · intro ms ok
    have read := (seriesPlaced e).ok.mp ok
    refine ⟨mapMLength read,fun m mem => ?_⟩
    obtain ⟨t,_,found⟩ := mapMOk read m mem
    exact memberWritable found

theorem compileSeriesRefuses (selectors : List Text) : Refuses (e.compileSeries selectors) := by
  obtain ⟨refuses,sound⟩ := seriesMembersSound full selectors 0
  unfold Engine.compileSeries
  refine refusesIte (fun _ => refusesOk) fun some => ?_
  refine refuses.bind fun ms ok => ?_
  obtain ⟨length,each⟩ := sound ms ok
  have notEmpty : ms ≠ [] := by
    rintro rfl
    cases selectors with
    | nil => simp at some
    | cons t ts => simp at length
  obtain ⟨t,written⟩ := unionWritable notEmpty each
  rw [written]
  exact refusesOk

end Engines

/-! ### Answers -/

theorem causeClass (err : Error) : err.cause.class? = err.class? := by
  induction err with
  | inMatch i err ih => simpa [Error.cause,Error.class?] using ih
  | _ => rfl

theorem refusalStatus {err : Error} (refusal : Refusal err) :
    (Http.ApiError.ofCompile err).status = 400 := by
  rw [Refusal,← causeClass] at refusal
  rw [Http.ApiError.ofCompile]
  rcases refusal with cls | cls <;> simp only [cls]

/-- Whatever a request, a live tail or a request for series asks, and whatever macros are active, it
fails only with an error that is the fault of the request and is answered as such; and every node that
a text without macro calls reads as is one that the handlers know. -/
theorem requestsRefused (e : Engine) (clientTemplates : Bool) (registry : Macro.Registry)
    (full : e.registry = Registry.full clientTemplates) (macros : e.macros = registry.macros) :
    (∀ r err, e.compile r = .error err →
      Refusal err ∧ (Http.ApiError.ofCompile err).status = 400) ∧
    (∀ query err, e.compileTail query = .error err →
      Refusal err ∧ (Http.ApiError.ofCompile err).status = 400) ∧
    (∀ selectors err, e.compileSeries selectors = .error err →
      Refusal err ∧ (Http.ApiError.ofCompile err).status = 400) ∧
    ∀ text root, e.parse text = .ok root → root.find? Kind.userMacro = none →
      ∀ n ∈ root.descendants, Recognised e.registry n := by
  have answered {α : Type} {x : Except Error α} (refuses : Refuses x) (err : Error)
      (failed : x = .error err) : Refusal err ∧ (Http.ApiError.ofCompile err).status = 400 :=
    ⟨refuses err failed,refusalStatus (refuses err failed)⟩
  refine ⟨fun r => answered (compileWithinRefuses full macros maxExpansions r),
    fun query => answered (compileTailRefuses full query),
    fun selectors => answered (compileSeriesRefuses full selectors),fun text root read plain => ?_⟩
  rw [full]
  exact parsedKnown clientTemplates (mapErrorOk read) plain

/-- The registry of a macro that takes no arguments. -/
def errorsMacro : Macro.Registry :=
  match Macro.Registry.ofDefinitions
      [{ name := "errors", template := "\x7blevel=\"error\"\x7d" }] with
  | .ok registry => registry
  | .error _ => {}

/-- An engine with that macro. -/
def errorsEngine : Engine := { registry := .full true, macros := errorsMacro.macros }

theorem badRankRefused :
    (match errorsEngine.compile { query := "topk(0,rate(\x7ba=\"b\"\x7d[1m]))" } with
      | .error err => some err
      | .ok _ => none) = some (.notPositive "topk") ∧
    (match errorsEngine.compile { query := "errors(\"x\")" } with
      | .error err => some err
      | .ok _ => none) = some (.expansion "errors" (.argumentCount 0 1)) ∧
    Refuses (errorsEngine.compile { query := "topk(0,rate(\x7ba=\"b\"\x7d[1m]))" }) ∧
    Refuses (errorsEngine.compile { query := "errors(\"x\")" }) := by
  have refused := (requestsRefused errorsEngine true errorsMacro rfl rfl).1
  exact and_assoc.mp ⟨by decide +kernel,fun err failed => (refused _ err failed).1,
    fun err failed => (refused _ err failed).1⟩

end LogSql.Compile
