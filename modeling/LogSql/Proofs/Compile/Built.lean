import LogSql.Proofs.Compile.Layers
import LogSql.Proofs.Query.Reading

/-! What queries compile to. The rows of a form are bucketed, and layer by layer its series are
merged, compared and ranked; a compiled query is such a statement with its cells bound. -/
namespace LogSql.Compile

open Query
open Sql (Expr Select SelectOf Named Join)

variable {c : Context} {orders : List (Named Expr)}

/-! ### Unwrapped rows -/

/-- The rows with a label read as a number. -/
def Rows.number (conv name : Text) (r : Rows) : Except Error (Rows × Projection) :=
  if r.onClient then .error (.unwrapOnClient Kind.unwrapExpression)
  else (conversion conv (.raw (r.plain.labelValue name))).map fun e => (r, .number e)

/-- The rows of an unwrap function and what it reads from them. -/
def Rows.ofUnwrapped (clientTemplates : Bool) (u : Form.Unwrapped) :
    Except Error (Rows × Projection) :=
  match u.clause with
  | .value =>
    if u.source.stages.isEmpty then
      (Rows.ofSource clientTemplates u.source).map fun r => (r, .sample)
    else .error (.pipelineBeforeValue Kind.logPipeline)
  | .label name => (Rows.ofSource clientTemplates u.source).bind (Rows.number [] name)
  | .converted conv name _ => (Rows.ofSource clientTemplates u.source).bind (Rows.number conv name)

/-- The draft of rows with what is read from them. -/
def projectedDraft (c : Context) (orders : List (Named Expr)) (r : Rows × Projection) : Draft :=
  r.1.draft r.2 c orders

theorem sampleDraft (r : Rows) :
    (r.draft .line c orders).mapSelect (fun s =>
      (s.removeColumn lineColumn).addColumn "samples.value" unwrappedColumn) =
      r.draft .sample c orders := by
  cases joined : c.joinLabels <;> cases extra : r.extra <;>
    simp [Draft.mapSelect,SelectOf.removeColumn,SelectOf.addColumn,Rows.draft,Rows.body,Rows.others,
      Projection.columns,Projection.filters,labelsEntry,joined,extra,lineColumn,timestampColumn,
      labelsColumn,extraColumn]

theorem numberDraft (r : Rows) (expr : Expr) :
    ((r.draft .line c orders).mapSelect (·.addColumn expr unwrappedColumn)).addWhere
      (.call "isNotNull" [.raw unwrappedColumn]) = r.draft (.number expr) c orders := by
  simp [Draft.mapSelect,Draft.addWhere,SelectOf.addColumn,SelectOf.andWhere,Rows.draft,Rows.body,
    Projection.columns,Projection.filters]

theorem unwrapExpressionRows (r : Rows) (n : Node) :
    unwrapExpression (some n) (r.draft .line c orders) =
      (r.number (n.valueOf Kind.unwrapConversion) (n.valueOf Kind.label)).map
        (projectedDraft c orders) := by
  simp only [unwrapExpression,Rows.draftOnClient,Rows.draftLabelValue,Rows.number]
  by_cases client : r.onClient = true
  · simp only [client,if_true]
    rfl
  · simp only [client]
    cases conversion (n.valueOf Kind.unwrapConversion)
        (.raw (r.plain.labelValue (n.valueOf Kind.label))) with
    | error e => rfl
    | ok expr => exact congrArg Except.ok (numberDraft r expr)

/-! ### Matrices -/

/-- What a function over rows computes from a bucket. -/
def logValue (fn : Text) (duration : Int) (a : Text) : Text :=
  if fn = ("count_over_time" : Text) then rowCount a
  else if fn = ("rate" : Text) then perSecond (rowCount a) duration
  else if fn = ("bytes_over_time" : Text) then byteCount a
  else perSecond (byteCount a) duration

/-- The aggregates of the unwrap functions that combine all numbers of a bucket. -/
def numberAggregates : List (Text × Text) :=
  [("sum_over_time", "sum"), ("avg_over_time", "avg"), ("max_over_time", "max"),
    ("min_over_time", "min"), ("stddev_over_time", "stddevPop"), ("stdvar_over_time", "varPop")]

/-- What a function over numbers computes from a bucket. -/
def unwrapValue (fn : Text) (duration : Int) (a : Text) : Text :=
  if fn = ("rate" : Text) then perSecond (unwrapAggregate "sum" a) duration
  else if fn = ("first_over_time" : Text) then unwrapByTime "argMin" a
  else if fn = ("last_over_time" : Text) then unwrapByTime "argMax" a
  else unwrapAggregate ((numberAggregates.lookup fn).getD []) a

/-- The aggregate of an operator over series. -/
def seriesAggregate (fn : Text) : Text :=
  if fn = ("stddev" : Text) then "stddevPop" else if fn = ("stdvar" : Text) then "varPop" else fn

/-- The grouping clause of an unwrap function. -/
def unwrapClause (u : Form.Unwrapped) : Option Node :=
  u.grouping.map (Form.Grouping.node Kind.optByWithoutUnwrap)

/-- The draft of a range. -/
def rangeDraft (clientTemplates : Bool) (c : Context) (orders : List (Named Expr)) :
    Form.Range → Except Error Draft
  | .log fn _ s _ =>
    (Rows.ofSource clientTemplates s).map fun r =>
      bucket fn (logValue fn c.duration) none (r.draft .line c orders)
  | .unwrap fn _ u =>
    (Rows.ofUnwrapped clientTemplates u).map fun r =>
      bucket fn (unwrapValue fn c.duration) (unwrapClause u) (projectedDraft c orders r)

/-- The quantile of the numbers of a bucket. -/
def quantileValue (phi : Binary64) (a : Text) : Text :=
  .concat ["quantile(", phi.general, ")(", columnOf a unwrappedColumn, ")"]

/-- The quantile that a text gives. -/
def readQuantile (t : Text) : Except Error Binary64 :=
  (number t).bind fun phi =>
    if phi.lt (.zero false) || (Binary64.ofInt 1).lt phi then .error .badQuantile else .ok phi

/-- The draft of a matrix. -/
def matrixDraft (clientTemplates : Bool) (c : Context) (orders : List (Named Expr)) :
    Form.Matrix → Except Error Draft
  | .range r => rangeDraft clientTemplates c orders r
  | .quantile fn _ x u =>
    (Rows.ofUnwrapped clientTemplates u).bind fun r =>
      (readQuantile x.text).map fun phi =>
        bucket fn (quantileValue phi) (unwrapClause u) (projectedDraft c orders r)
  | .aggregate fn _ g r =>
    (rangeDraft clientTemplates c orders r).map fun d =>
      (d.orderBy []).over "agg"
        (mergeLayer (seriesAggregate fn) (g.map (Form.Grouping.node Kind.optByWithout)))

/-- The draft with its samples compared. -/
def compareDraft (d : Draft) : Option Form.Threshold → Except Error Draft
  | none => .ok d
  | some t =>
    (number t.bound.text).map fun want =>
      (d.orderBy []).over "cmp"
        (thresholdLayer (if t.operator = ("==" : Text) then "=" else t.operator) want t.marked)

/-- The draft with its series ranked. -/
def rankDraft (d : Draft) : Option Form.Ranking → Except Error Draft
  | none => .ok d
  | some r =>
    (number r.param.text).bind fun k =>
      if isRank k then
        .ok (((d.orderBy []).over r.fn (topLayer
          (if r.fn = ("topk" : Text) then "arrayReverseSort" else "arraySort") k.toInt64)).over r.fn
            spreadLayer)
      else .error (.notPositive r.fn)

/-! ### The handlers of matrices -/

section Tables

variable (clientTemplates : Bool) {fn : Text}

theorem logHandler (known : fn ∈ logRangeFunctions) :
    ∃ h, (Registry.full clientTemplates).logRange.get "log range aggregation" fn = .ok h ∧
      ∀ n d, h n d = .ok (bucket fn (logValue fn d.context.duration) none d) := by
  simp only [logRangeFunctions,List.mem_cons,List.not_mem_nil,or_false] at known
  rcases known with rfl | rfl | rfl | rfl
  · refine ⟨logRange "rate" rowCount true,by simp [HandlerTable.get,Registry.full],fun n d => ?_⟩
    have value : logValue "rate" d.context.duration = fun a => perSecond (rowCount a) d.context.duration := by
      funext a; simp [logValue]
    rw [value]; rfl
  · refine ⟨logRange "count_over_time" rowCount false,by simp [HandlerTable.get,Registry.full],
      fun n d => ?_⟩
    have value : logValue "count_over_time" d.context.duration = rowCount := by
      funext a; simp [logValue]
    rw [value]; rfl
  · refine ⟨logRange "bytes_rate" byteCount true,by simp [HandlerTable.get,Registry.full],
      fun n d => ?_⟩
    have value : logValue "bytes_rate" d.context.duration =
        fun a => perSecond (byteCount a) d.context.duration := by
      funext a; simp [logValue]
    rw [value]; rfl
  · refine ⟨logRange "bytes_over_time" byteCount false,by simp [HandlerTable.get,Registry.full],
      fun n d => ?_⟩
    have value : logValue "bytes_over_time" d.context.duration = byteCount := by
      funext a; simp [logValue]
    rw [value]; rfl

theorem unwrapHandler (known : fn ∈ unwrapFunctions) :
    ∃ h, (Registry.full clientTemplates).unwrap.get "unwrap function" fn = .ok h ∧
      ∀ n d, h (some n) d = .ok (bucket fn (unwrapValue fn d.context.duration)
        (n.child? Kind.optByWithoutUnwrap) d) := by
  refine ⟨unwrapBucket fn (unwrapValue fn),?_,fun n d => rfl⟩
  simp only [unwrapFunctions,List.mem_cons,List.not_mem_nil,or_false] at known
  rcases known with rfl | rfl | rfl | rfl | rfl | rfl | rfl | rfl | rfl <;>
    simp [HandlerTable.get,Registry.full] <;> rfl

theorem seriesHandler (known : fn ∈ aggregationFunctions) :
    ∃ h, (Registry.full clientTemplates).aggregation.get "aggregation operator" fn = .ok h ∧
      ∀ n d, h (some n) d = .ok ((d.orderBy []).over "agg"
        (mergeLayer (seriesAggregate fn) (n.child? Kind.optByWithout))) := by
  refine ⟨aggregate (seriesAggregate fn),?_,fun n d => aggregateLayered _ n d⟩
  simp only [aggregationFunctions,List.mem_cons,List.not_mem_nil,or_false] at known
  rcases known with rfl | rfl | rfl | rfl | rfl | rfl | rfl <;>
    simp [HandlerTable.get,Registry.full,seriesAggregate]

theorem thresholdHandler {op : Text} (known : op ∈ Form.thresholdOperators) :
    (Registry.full clientTemplates).numberOperator.get "number operator" op =
      .ok (compareSamples (if op = ("==" : Text) then "=" else op)) := by
  simp only [Form.thresholdOperators,List.mem_cons,List.not_mem_nil,or_false] at known
  rcases known with rfl | rfl | rfl | rfl | rfl | rfl <;> simp [HandlerTable.get,Registry.full]

theorem rankHandler (known : fn ∈ parameterizedFunctions) :
    (Registry.full clientTemplates).parameterized.get "parameterized aggregation" fn =
      .ok (rank fn (if fn = ("topk" : Text) then "arrayReverseSort" else "arraySort")) := by
  simp only [parameterizedFunctions,List.mem_cons,List.not_mem_nil,or_false] at known
  rcases known with rfl | rfl <;> simp [HandlerTable.get,Registry.full]

theorem quantileLayered (n : Node) (d : Draft) :
    quantileOverTime (some n) d = (readQuantile (n.valueOf Kind.parameterValue)).map fun phi =>
      bucket "quantile_over_time" (quantileValue phi) (n.child? Kind.optByWithoutUnwrap) d := by
  simp only [quantileOverTime,onNode,Option.getD_some,readQuantile]
  cases number (n.valueOf Kind.parameterValue) with
  | error e => rfl
  | ok phi =>
    by_cases refused : (phi.lt (.zero false) || (Binary64.ofInt 1).lt phi) = true
    · simp only [bind,Except.bind,refused,if_true]
      rfl
    · simp only [bind,Except.bind,refused]
      rfl

end Tables

/-! ### Cells -/

section Cells

variable (d : Draft) (cell : Sql.Cell) (v : Sql.Value)

@[simp] theorem bindSelect : (d.bind cell v).select = d.select := by
  rw [Draft.bind]
  split <;> rfl

@[simp] theorem bindHooks : (d.bind cell v).hooks = d.hooks := by
  rw [Draft.bind]
  split <;> rfl

theorem setGet (b : Sql.Bindings) (other : Sql.Cell) :
    (b.set cell (some v)).get? other = if other = cell then some v else b.get? other := by
  by_cases same : other = cell
  · simp [Sql.Bindings.get?,Sql.Bindings.set,same]
  · simp only [Sql.Bindings.get?,Sql.Bindings.set,if_neg same,List.find?_cons,List.find?_filter,
      decide_eq_false (Ne.symm same)]
    congr 2
    funext entry
    by_cases here : entry.1 = other
    · simp [here,same]
    · simp [here]

end Cells

section Engines

variable {e : Engine} {clientTemplates : Bool} (full : e.registry = Registry.full clientTemplates)

include full

theorem unwrappedRows {n : Node} {u : Form.Unwrapped} (unwraps : Form.Unwraps n u) :
    e.unwrapped n (Rows.draft {} .line c orders) =
      (Rows.ofUnwrapped clientTemplates u).map (projectedDraft c orders) := by
  have holds := unwraps.holds
  have pipelines : (n.find? Kind.logPipeline).isSome = !u.source.stages.isEmpty := by
    rw [Node.findHead,holds.stages]
    cases u.source.stages <;> rfl
  have labelled (value : u.clause.isValue = false) (conv name : Text)
      (conversion : u.clause.node.valueOf Kind.unwrapConversion = conv)
      (label : u.clause.node.valueOf Kind.label = name) :
      e.unwrapped n (Rows.draft {} .line c orders) =
        ((Rows.ofSource clientTemplates u.source).bind (Rows.number conv name)).map
          (projectedDraft c orders) := by
    rw [Engine.unwrapped,unwraps.value,unwraps.expression,value,pipelineRows full holds]
    cases Rows.ofSource clientTemplates u.source with
    | error err => rfl
    | ok r =>
      have handled := @unwrapExpressionRows c orders r u.clause.node
      rw [conversion,label] at handled
      simp only [full]
      exact handled
  rw [Rows.ofUnwrapped]
  cases clause : u.clause with
  | value =>
    rw [Engine.unwrapped,unwraps.value,clause,pipelines,pipelineRows full holds]
    cases u.source.stages.isEmpty with
    | false => rfl
    | true =>
      cases Rows.ofSource clientTemplates u.source with
      | error err => rfl
      | ok r => exact congrArg Except.ok (sampleDraft r)
  | label name =>
    exact labelled (by rw [clause]; rfl) [] name (by rw [clause,Form.unwrapPlain])
      (by rw [clause,Form.unwrapLabel])
  | converted conv name known =>
    exact labelled (by rw [clause]; rfl) conv name (by rw [clause,Form.convertedConversion])
      (by rw [clause,Form.convertedLabel])

theorem logRangeDraft (fn : Text) (known : fn ∈ logRangeFunctions) (s : Form.Source)
    (span : Form.Span) :
    e.logRangeAggregation (Form.Range.log fn known s span).node (Rows.draft {} .line c orders) =
      rangeDraft clientTemplates c orders (.log fn known s span) := by
  obtain ⟨h,entry,bucketed⟩ := logHandler clientTemplates known
  rw [Engine.logRangeAggregation,Form.logRangeName,full,entry,
    pipelineRows full (Form.logRangeHolds fn known s span),rangeDraft]
  cases Rows.ofSource clientTemplates s with
  | error err => rfl
  | ok r => exact bucketed _ _

theorem unwrapFunctionDraft (fn : Text) (known : fn ∈ unwrapFunctions) (u : Form.Unwrapped) :
    e.unwrapFunction (Form.Range.unwrap fn known u).node (Rows.draft {} .line c orders) =
      rangeDraft clientTemplates c orders (.unwrap fn known u) := by
  obtain ⟨h,entry,bucketed⟩ := unwrapHandler clientTemplates known
  have unwraps := Form.rangeUnwraps fn known u
  rw [Engine.unwrapFunction,Form.unwrapName,full,entry,unwrappedRows full unwraps,rangeDraft]
  cases Rows.ofUnwrapped clientTemplates u with
  | error err => rfl
  | ok r =>
    refine (bucketed _ _).trans ?_
    rw [unwraps.grouping]
    rfl

theorem rangeNodeDraft (fn : Text) (known : fn ∈ aggregationFunctions) (g : Option Form.Grouping)
    (r : Form.Range) :
    e.aggregationOperator (Form.Matrix.aggregate fn known g r).node (Rows.draft {} .line c orders) =
      matrixDraft clientTemplates c orders (.aggregate fn known g r) := by
  obtain ⟨h,entry,merged⟩ := seriesHandler clientTemplates known
  have last (x : Except Error Draft) :
      (x >>= fun d => h (some (Form.Matrix.aggregate fn known g r).node) d) =
        x.map fun d => (d.orderBy []).over "agg"
          (mergeLayer (seriesAggregate fn) (g.map (Form.Grouping.node Kind.optByWithout))) := by
    cases x with
    | error err => rfl
    | ok d =>
      refine (merged _ d).trans ?_
      rw [Form.aggregateGrouping]
      rfl
  rw [Engine.aggregationOperator,Form.aggregateName,full,entry,matrixDraft]
  cases r with
  | log rangeFn range s span =>
    rw [Form.aggregateLog]
    simp only [logRangeDraft full]
    exact last _
  | unwrap rangeFn range u =>
    obtain ⟨noLog,inner⟩ := Form.aggregateUnwrap fn known g rangeFn range u
    rw [noLog,inner]
    simp only [unwrapFunctionDraft full]
    exact last _

theorem quantileDraft (fn : Text) (known : fn ∈ parameterizedUnwrappedFunctions) (x : Form.Numeral)
    (u : Form.Unwrapped) :
    e.parameterizedUnwrapped (Form.Matrix.quantile fn known x u).node
        (Rows.draft {} .line c orders) =
      matrixDraft clientTemplates c orders (.quantile fn known x u) := by
  obtain rfl : fn = "quantile_over_time" := by
    simpa [parameterizedUnwrappedFunctions] using known
  have unwraps := Form.quantileUnwraps "quantile_over_time" known x u
  have entry : (Registry.full clientTemplates).parameterizedUnwrapped.get
      "parameterized unwrapped function" "quantile_over_time" = .ok quantileOverTime := by
    simp [HandlerTable.get,Registry.full]
  rw [Engine.parameterizedUnwrapped,Form.quantileName,full,entry,unwrappedRows full unwraps,matrixDraft]
  cases Rows.ofUnwrapped clientTemplates u with
  | error err => rfl
  | ok r =>
    refine (quantileLayered _ _).trans ?_
    rw [Form.quantileParameter,unwraps.grouping]
    rfl

/-- The family of a matrix builds its draft. -/
theorem familyDraft (m : Form.Matrix) :
    e.family m.family m.node (Rows.draft {} .line c orders) =
      matrixDraft clientTemplates c orders m := by
  cases m with
  | range r =>
    cases r with
    | log fn known s span => exact logRangeDraft full fn known s span
    | unwrap fn known u => exact unwrapFunctionDraft full fn known u
  | quantile fn known x u => exact quantileDraft full fn known x u
  | aggregate fn known g r => exact rangeNodeDraft full fn known g r

/-! ### Queries -/

theorem modifiersMatrix (m : Form.Matrix) (ranking : Option Form.Ranking)
    (threshold : Option Form.Threshold) (d : Draft) :
    e.modifiers (Form.matrix m ranking threshold).node d =
      (compareDraft d threshold).bind fun d => rankDraft d ranking := by
  have compared (t : Form.Threshold) (d : Draft) :
      (do
        let h ← e.registry.numberOperator.get "number operator" (t.node.valueOf Kind.numberOperator)
        h (some t.node) d) = compareDraft d (some t) := by
    rw [Form.thresholdOperator,full,thresholdHandler clientTemplates t.known]
    refine (compareLayered _ t.node d).trans ?_
    rw [Form.thresholdBound,Form.thresholdMarked]
    rfl
  have ranked (r : Form.Ranking) (d : Draft) :
      (do
        let h ← e.registry.parameterized.get "parameterized aggregation"
          ((Form.rankingNode m r).valueOf Kind.parameterizedExpressionFn)
        h (some (Form.rankingNode m r)) d) = rankDraft d (some r) := by
    rw [Form.rankingName,full,rankHandler clientTemplates r.known]
    refine (rankLayered _ _ _ d).trans ?_
    rw [Form.rankingParameter]
    rfl
  rw [Engine.modifiers,Form.matrixThreshold,Form.matrixStatement,Form.matrixRanking]
  cases threshold with
  | none =>
    cases ranking with
    | none => rfl
    | some r => exact ranked r d
  | some t =>
    simp only [Option.map_some,← bind_assoc,compared]
    cases compareDraft d (some t) with
    | error err => rfl
    | ok d =>
      cases ranking with
      | none => rfl
      | some r => exact ranked r d

omit full in
theorem modifiersRows (s : Form.Source) (d : Draft) : e.modifiers (Form.rows s).node d = .ok d := by
  rw [Engine.modifiers,Form.rowsThreshold,Form.rowsRanking]
  rfl

/-- The window of a request, for queries that only use supported constructs. -/
def Engine.supported (e : Engine) (r : Request) (root : Node) : Except Error Engine.Window :=
  if (root.find? Kind.labelsFormatExpression).isSome then
    .error (.notSupported Kind.labelsFormatExpression)
  else e.window r root

omit full in
/-- The context of a request follows from its tree; no name is given yet. -/
theorem supportedContext {r : Request} {root : Node} {w : Engine.Window}
    (ok : e.supported r root = .ok w) :
    w.context.matrix = (classify root).isSome ∧
      w.context.joinLabels = root.hasAny labelConstructs ∧ w.context.names = [] := by
  unfold Engine.supported at ok
  split at ok
  · contradiction
  · rw [Engine.window] at ok
    obtain ⟨step,_,ok⟩ := bindOk ok
    dsimp only at ok
    generalize (if r.start = 0 then Int64Range.wrap (e.now - defaultWindow) else r.start) = start at ok
    generalize (if r.stop = 0 then e.now else r.stop) = stop at ok
    split at ok
    · contradiction
    · cases found : classify root with
      | none =>
        rw [found] at ok
        cases ok
        exact ⟨rfl,rfl,rfl⟩
      | some family =>
        rw [found] at ok
        obtain ⟨d,_,ok⟩ := bindOk ok
        cases ok
        exact ⟨rfl,rfl,rfl⟩

/-- The direction in which a request lists its rows. -/
def Request.direction (r : Request) : Text := if r.forward then "asc" else "desc"

/-- The draft of a request with its cells bound. -/
def Engine.bound (e : Engine) (r : Request) (w : Engine.Window) (d : Draft) : Draft :=
  let limit : Int := if r.limit ≤ 0 then e.limit else r.limit
  let d := d.bind timeSeriesCell (.verbatim e.policy.timeSeriesTable)
  let d := d.bind samplesCell (.verbatim (e.policy.tableFor w.start))
  let d := d.bind fromCell (.verbatim (nanosText w.start))
  let d := d.bind toCell (.verbatim (nanosText w.stop))
  let d := d.bind limitCell (.int limit)
  d.bind matrixCell (.bool w.context.matrix)

/-- The result of a request whose statement is complete. -/
def Engine.result (e : Engine) (r : Request) (w : Engine.Window) (d : Draft) : Compiled :=
  { select := (e.bound r w d).select, bindings := (e.bound r w d).bindings
    matrix := w.context.matrix, hooks := (e.bound r w d).hooks
    duration := if w.context.matrix && 0 < w.context.duration then w.context.duration
      else defaultDuration }

omit full in
@[simp] theorem resultSelect (r : Request) (w : Engine.Window) (d : Draft) :
    (e.result r w d).select = d.select := by
  simp [Engine.result,Engine.bound]

omit full in
@[simp] theorem resultHooks (r : Request) (w : Engine.Window) (d : Draft) :
    (e.result r w d).hooks = d.hooks := by
  simp [Engine.result,Engine.bound]

omit full in
/-- A draft that declares the base cells has them bound in its result. -/
theorem resultCells {r : Request} {w : Engine.Window} {d : Draft}
    (declared : d.select.params = baseCells) :
    (e.result r w d).bindings.get? samplesCell =
        some (.verbatim (e.policy.tableFor w.start)) ∧
      (e.result r w d).bindings.get? fromCell = some (.verbatim (nanosText w.start)) ∧
      (e.result r w d).bindings.get? toCell = some (.verbatim (nanosText w.stop)) ∧
      (e.result r w d).bindings.get? limitCell =
        some (.int (if r.limit ≤ 0 then e.limit else r.limit)) := by
  simp [Engine.result,Engine.bound,Draft.bind,SelectOf.param?,declared,setGet,baseCells,samplesCell,
    timeSeriesCell,fromCell,toCell,limitCell,matrixCell]

/-- The draft that lists rows. -/
def rowsDraft (clientTemplates : Bool) (c : Context) (direction : Text) (s : Form.Source) :
    Except Error Draft :=
  (Rows.ofSource clientTemplates s).map fun r =>
    (r.draft .line c [byTime direction]).over "sel" (listingLayer direction c.joinLabels)

/-- The draft of a matrix with its modifiers. -/
def seriesDraft (clientTemplates : Bool) (c : Context) (direction : Text) (m : Form.Matrix)
    (ranking : Option Form.Ranking) (threshold : Option Form.Threshold) : Except Error Draft :=
  (matrixDraft clientTemplates c [byTime direction] m).bind fun d =>
    (compareDraft d threshold).bind fun d => rankDraft d ranking

omit full in
theorem compileRootSteps (r : Request) (root : Node) :
    e.compileRoot r root = (e.supported r root).bind fun w =>
      ((match classify root with
        | some (f, n) => e.family f n (Rows.draft {} .line w.context [byTime r.direction])
        | none => (e.selectorPipeline root (Rows.draft {} .line w.context [byTime r.direction])).map
            (Engine.listing r.direction)).bind (e.modifiers root)).map (e.result r w) := by
  rw [Engine.compileRoot,Engine.supported]
  cases (Node.find? Kind.labelsFormatExpression root).isSome with
  | true => rfl
  | false =>
    cases e.window r root with
    | error err => rfl
    | ok w =>
      have finish (x : Except Error Draft) :
          (x >>= fun d => e.modifiers root d >>= fun d => pure (e.result r w d)) =
            (x.bind (e.modifiers root)).map (e.result r w) := by
        cases x with
        | error err => rfl
        | ok d => exact (map_eq_pure_bind (e.result r w) (e.modifiers root d)).symm
      simp only [bind,Except.bind,startRows]
      cases classify root with
      | none => exact finish _
      | some found => exact finish _

theorem compileRows (r : Request) (s : Form.Source) :
    e.compileRoot r (Form.rows s).node = (e.supported r (Form.rows s).node).bind fun w =>
      (rowsDraft clientTemplates w.context r.direction s).map (e.result r w) := by
  rw [compileRootSteps,Form.classifyRows]
  congr 1
  funext w
  simp only [pipelineRows full (Form.rowsHold s),rowsDraft]
  cases Rows.ofSource clientTemplates s with
  | error err => rfl
  | ok rows =>
    simp only [Except.map,Except.bind,modifiersRows,listingLayered]

theorem compileMatrix (r : Request) (m : Form.Matrix) (ranking : Option Form.Ranking)
    (threshold : Option Form.Threshold) :
    e.compileRoot r (Form.matrix m ranking threshold).node =
      (e.supported r (Form.matrix m ranking threshold).node).bind fun w =>
        (seriesDraft clientTemplates w.context r.direction m ranking threshold).map
          (e.result r w) := by
  rw [compileRootSteps,Form.classifyMatrix]
  congr 1
  funext w
  simp only [familyDraft full m,seriesDraft]
  cases matrixDraft clientTemplates w.context [byTime r.direction] m with
  | error err => rfl
  | ok d => simp only [Except.bind,modifiersMatrix full]

end Engines

/-! ### Requests -/

/-- What compiled queries come from: a request whose text reads as a selector or as a matrix. -/
inductive Compiles (clientTemplates : Bool) (e : Engine) (r : Request) : Compiled → Prop where
  | rows {s : Form.Source} {w : Engine.Window} {d : Draft}
      (read : e.parse r.query = .ok (Form.rows s).node)
      (window : e.supported r (Form.rows s).node = .ok w)
      (drafted : rowsDraft clientTemplates w.context r.direction s = .ok d) :
      Compiles clientTemplates e r (e.result r w d)
  | matrix {m : Form.Matrix} {ranking : Option Form.Ranking} {threshold : Option Form.Threshold}
      {w : Engine.Window} {d : Draft}
      (read : e.parse r.query = .ok (Form.matrix m ranking threshold).node)
      (window : e.supported r (Form.matrix m ranking threshold).node = .ok w)
      (drafted : seriesDraft clientTemplates w.context r.direction m ranking threshold = .ok d) :
      Compiles clientTemplates e r (e.result r w d)

theorem parseText {e : Engine} {text : Text} {root : Node} (ok : e.parse text = .ok root) :
    ∃ q : Form, root = q.node ∧ q.Calls (e.macros.map (·.name)) := by
  exact parseForm (mapErrorOk ok)

theorem rootSource {e : Engine} {clientTemplates : Bool}
    (full : e.registry = Registry.full clientTemplates) {r : Request} {root : Node}
    {compiled : Compiled} (read : e.parse r.query = .ok root)
    (plain : root.find? Kind.userMacro = none) (ok : e.compileRoot r root = .ok compiled) :
    Compiles clientTemplates e r compiled := by
  obtain ⟨q,rfl,_⟩ := parseText read
  cases q with
  | call name args => simp [Form.callFound] at plain
  | rows s =>
    rw [compileRows full] at ok
    obtain ⟨w,window,ok⟩ := bindOk ok
    obtain ⟨d,drafted,rfl⟩ := mapOk ok
    exact .rows read window drafted
  | matrix m ranking threshold =>
    rw [compileMatrix full] at ok
    obtain ⟨w,window,ok⟩ := bindOk ok
    obtain ⟨d,drafted,rfl⟩ := mapOk ok
    exact .matrix read window drafted

/-- A compilation reads the text; a macro call uses up an expansion and starts over with its text. -/
theorem compileStep {e : Engine} {expansions : Nat} {r : Request} {compiled : Compiled}
    (ok : e.compileWithin expansions r = .ok compiled) :
    ∃ root, e.parse r.query = .ok root ∧
      (root.find? Kind.userMacro = none ∧ e.compileRoot r root = .ok compiled ∨
        ∃ fewer call text, expansions = fewer + 1 ∧ root.find? Kind.userMacro = some call ∧
          e.expand call = .ok text ∧ e.compileWithin fewer { r with query := text } = .ok compiled) := by
  cases expansions with
  | zero =>
    rw [Engine.compileWithin] at ok
    obtain ⟨root,read,ok⟩ := bindOk ok
    refine ⟨root,read,.inl ?_⟩
    cases found : root.find? Kind.userMacro with
    | none => exact ⟨rfl,by simpa [found] using ok⟩
    | some call => simp [found] at ok
  | succ fewer =>
    rw [Engine.compileWithin] at ok
    obtain ⟨root,read,ok⟩ := bindOk ok
    refine ⟨root,read,?_⟩
    cases found : root.find? Kind.userMacro with
    | none => exact .inl ⟨rfl,by simpa [found] using ok⟩
    | some call =>
      rw [found] at ok
      obtain ⟨text,expanded,ok⟩ := bindOk ok
      exact .inr ⟨fewer,call,text,rfl,rfl,expanded,ok⟩

/-- The texts that a text stands for: itself, or what its macro call stands for. -/
inductive Engine.Expands (e : Engine) : Text → Text → Prop where
  | here (t : Text) : Expands e t t
  | call {t u v : Text} {root call : Node} (read : e.parse t = .ok root)
      (found : root.find? Kind.userMacro = some call) (expanded : e.expand call = .ok u)
      (rest : Expands e u v) : Expands e t v

theorem compileSource {e : Engine} {clientTemplates : Bool}
    (full : e.registry = Registry.full clientTemplates) {expansions : Nat} {r : Request}
    {compiled : Compiled} (ok : e.compileWithin expansions r = .ok compiled) :
    ∃ text, e.Expands r.query text ∧ Compiles clientTemplates e { r with query := text } compiled := by
  -- Every expansion puts another text in the place of the query and leaves the rest alone.
  induction expansions generalizing r with
  | zero =>
    obtain ⟨root,read,⟨plain,ok⟩ | ⟨fewer,_,_,positive,_⟩⟩ := compileStep ok
    · exact ⟨r.query,.here _,rootSource full read plain ok⟩
    · omega
  | succ expansions ih =>
    obtain ⟨root,read,⟨plain,ok⟩ | ⟨fewer,call,text,less,found,expanded,ok⟩⟩ := compileStep ok
    · exact ⟨r.query,.here _,rootSource full read plain ok⟩
    · obtain rfl : expansions = fewer := by omega
      obtain ⟨last,expands,source⟩ := ih ok
      exact ⟨last,.call read found expanded expands,source⟩

end LogSql.Compile
