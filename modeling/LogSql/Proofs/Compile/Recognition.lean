import Mathlib.Data.List.Nodup
import LogSql.Proofs.Compile.Built
import LogSql.Proofs.Compile.Filters

/-! What the compiler knows of trees. Every construct that is looked up by a symbol carries one that
has a handler, and every construct that is taken apart has the shape that is expected of it. -/
namespace LogSql.Compile

open Query Node

/-- A construct whose handler is found by a symbol inside it. -/
structure Dispatch where
  construct : Text
  symbol : Text
  table : Registry.Table

/-- The look-ups of the compiler. -/
def dispatches : List Dispatch :=
  [⟨Kind.logStreamSelectorRule, Kind.operator, .streamSelector⟩,
    ⟨Kind.lineFilterExpression, Kind.lineFilterOperator, .lineFilter⟩,
    ⟨Kind.parserExpression, Kind.parserFnName, .parser⟩,
    ⟨Kind.logRangeAggregation, Kind.logRangeAggregationFn, .logRange⟩,
    ⟨Kind.aggregationOperator, Kind.aggregationOperatorFn, .aggregation⟩,
    ⟨Kind.unwrapFunction, Kind.unwrapFn, .unwrap⟩,
    ⟨Kind.parameterizedUnwrapped, Kind.parameterizedUnwrappedFn, .parameterizedUnwrapped⟩,
    ⟨Kind.parameterizedExpression, Kind.parameterizedExpressionFn, .parameterized⟩,
    ⟨Kind.comparedAggStatementCmp, Kind.numberOperator, .numberOperator⟩]

/-- The constructs that are stages. -/
def stageConstructs : List Text :=
  [Kind.lineFilterExpression, Kind.parserExpression, Kind.labelFilterPipeline,
    Kind.lineFormatExpression, Kind.labelsFormatExpression]

/-- The constructs that are label filters. -/
def filterConstructs : List Text :=
  [Kind.simpleLabelFilter, Kind.labelFilterAnd, Kind.labelFilterOr]

/-- A pipeline step holds exactly one stage. -/
def HoldsStage (n : Node) : Prop := ∃ s, n.children = [s] ∧ s.kind ∈ stageConstructs

/-- A label filter stage holds exactly one filter. -/
def HoldsFilter (n : Node) : Prop :=
  ∃ body, n.find? Kind.complexLabelFilterExpression =
    some (.mk Kind.complexLabelFilterExpression [] [body]) ∧ body.kind ∈ filterConstructs

/-- A group consists of filters. -/
def HoldsFilters (n : Node) : Prop := ∀ part ∈ n.children, part.kind ∈ filterConstructs

/-- A filter on one label compares with a text, or compares a quantity by a known comparison. -/
def HoldsComparison (n : Node) : Prop :=
  (n.child? Kind.quotedStr).isSome ∨
    (filterQuantity n).isSome ∧ (Comparison.ofOperator? (n.valueOf Kind.labelFilterOperator)).isSome

/-- A conversion is known. -/
def HoldsConversion (n : Node) : Prop := ∀ value, ∃ number, conversion n.value value = .ok number

/-- The constructs that are taken apart, with the shapes that they have to have. -/
def shapes : List (Text × (Node → Prop)) :=
  [(Kind.logPipeline, HoldsStage), (Kind.labelFilterPipeline, HoldsFilter),
    (Kind.labelFilterAnd, HoldsFilters), (Kind.labelFilterOr, HoldsFilters),
    (Kind.simpleLabelFilter, HoldsComparison), (Kind.unwrapConversion, HoldsConversion)]

/-- A node that the compiler with the given handlers knows how to treat. -/
structure Recognised (r : Registry) (n : Node) : Prop where
  symbol : ∀ d ∈ dispatches, n.kind = d.construct →
    ∃ h, (n.valueOf d.symbol, h) ∈ r.table d.table
  shape : ∀ s ∈ shapes, n.kind = s.1 → s.2 n

variable {r : Registry} {n : Node}

theorem dispatchUnique : (dispatches.map (·.construct)).Nodup := by
  simp [dispatches,Kind.logStreamSelectorRule,Kind.lineFilterExpression,Kind.parserExpression,
    Kind.logRangeAggregation,Kind.aggregationOperator,Kind.unwrapFunction,
    Kind.parameterizedUnwrapped,Kind.parameterizedExpression,Kind.comparedAggStatementCmp]

theorem shapeUnique : (shapes.map (·.1)).Nodup := by
  simp [shapes,Kind.logPipeline,Kind.labelFilterPipeline,Kind.labelFilterAnd,Kind.labelFilterOr,
    Kind.simpleLabelFilter,Kind.unwrapConversion]

theorem dispatchShapes : ∀ d ∈ dispatches, ∀ s ∈ shapes, d.construct ≠ s.1 := by
  simp [dispatches,shapes,Kind.logStreamSelectorRule,Kind.lineFilterExpression,
    Kind.parserExpression,Kind.logRangeAggregation,Kind.aggregationOperator,Kind.unwrapFunction,
    Kind.parameterizedUnwrapped,Kind.parameterizedExpression,Kind.comparedAggStatementCmp,
    Kind.logPipeline,Kind.labelFilterPipeline,Kind.labelFilterAnd,Kind.labelFilterOr,
    Kind.simpleLabelFilter,Kind.unwrapConversion]

/-- The constructs that the compiler looks up or takes apart. -/
def constructs : List Text := dispatches.map (·.construct) ++ shapes.map (·.1)

theorem recognisedOther (other : n.kind ∉ constructs) : Recognised r n := by
  simp only [constructs,List.mem_append,not_or] at other
  constructor
  · intro d mem kind
    exact absurd (List.mem_map.mpr ⟨d,mem,kind.symm⟩) other.1
  · intro s mem kind
    exact absurd (List.mem_map.mpr ⟨s,mem,kind.symm⟩) other.2

theorem recognisedSymbol (symbol : Text) (table : Registry.Table)
    (mem : ⟨n.kind, symbol, table⟩ ∈ dispatches)
    (found : ∃ h, (n.valueOf symbol, h) ∈ r.table table) : Recognised r n := by
  constructor
  · intro d other same
    obtain rfl := List.inj_on_of_nodup_map dispatchUnique mem other same
    exact found
  · intro s shape same
    exact absurd same (dispatchShapes _ mem s shape)

theorem recognisedShape {P : Node → Prop} (mem : (n.kind, P) ∈ shapes) (shape : P n) :
    Recognised r n := by
  constructor
  · intro d other same
    exact absurd same.symm (dispatchShapes d other _ mem)
  · intro s other same
    obtain rfl := List.inj_on_of_nodup_map shapeUnique mem other same
    exact shape

/-! ### Trees -/

/-- A tree all of whose nodes are recognised. -/
def Known (r : Registry) (n : Node) : Prop := ∀ m, m = n ∨ m ∈ n.descendants → Recognised r m

theorem knownTree {kind value : Text} {cs : List Node} (head : Recognised r (.mk kind value cs))
    (each : ∀ c ∈ cs, Known r c) : Known r (.mk kind value cs) := by
  intro m mem
  rcases mem with rfl | below
  · exact head
  · obtain ⟨c,inside,found⟩ := descendantsInMem below
    exact each c inside m found

/-- The kinds of nodes that are only read. -/
def readKinds : List Text :=
  [Kind.label, Kind.operator, Kind.quotedStr, Kind.numberValue, Kind.durationValue, Kind.bytesValue,
    Kind.labelFilterOperator, Kind.lineFilterOperator, Kind.parserFnName, Kind.parserParam,
    Kind.complexLabelFilterExpression, Kind.lineFormatExpression, Kind.labelsFormatExpression,
    Kind.labelsFormatRule, Kind.logStreamSelector, Kind.logRangeAggregationFn,
    Kind.aggregationOperatorFn, Kind.optByWithout, Kind.optByWithoutUnwrap, Kind.byWithout,
    Kind.unwrapFn, Kind.unwrapExpression, Kind.unwrapStatement, Kind.unwrapValueStatement,
    Kind.parameterValue, Kind.parameterizedExpressionFn, Kind.parameterizedUnwrappedFn,
    Kind.numberOperator, Kind.boolModifier, Kind.aggStatement]

theorem readOther : ∀ k ∈ readKinds, k ∉ constructs := by
  simp [readKinds,constructs,dispatches,shapes,Kind.label,Kind.operator,Kind.quotedStr,
    Kind.numberValue,Kind.durationValue,Kind.bytesValue,Kind.labelFilterOperator,
    Kind.lineFilterOperator,Kind.parserFnName,Kind.parserParam,Kind.complexLabelFilterExpression,
    Kind.lineFormatExpression,Kind.labelsFormatExpression,Kind.labelsFormatRule,
    Kind.logStreamSelector,Kind.logRangeAggregationFn,Kind.aggregationOperatorFn,Kind.optByWithout,
    Kind.optByWithoutUnwrap,Kind.byWithout,Kind.unwrapFn,Kind.unwrapExpression,Kind.unwrapStatement,
    Kind.unwrapValueStatement,Kind.parameterValue,Kind.parameterizedExpressionFn,
    Kind.parameterizedUnwrappedFn,Kind.numberOperator,Kind.boolModifier,Kind.aggStatement,
    Kind.logStreamSelectorRule,Kind.lineFilterExpression,Kind.parserExpression,
    Kind.logRangeAggregation,Kind.aggregationOperator,Kind.unwrapFunction,
    Kind.parameterizedUnwrapped,Kind.parameterizedExpression,Kind.comparedAggStatementCmp,
    Kind.logPipeline,Kind.labelFilterPipeline,Kind.labelFilterAnd,Kind.labelFilterOr,
    Kind.simpleLabelFilter,Kind.unwrapConversion]

theorem knownRead {kind value : Text} {cs : List Node} (read : kind ∈ readKinds)
    (each : ∀ c ∈ cs, Known r c) : Known r (.mk kind value cs) :=
  knownTree (recognisedOther (readOther kind read)) each

theorem knownLeaf {kind value : Text} (read : kind ∈ readKinds) : Known r (.leaf kind value) :=
  knownRead read (by simp)

/-! ### Forms -/

section Forms

variable (clientTemplates : Bool)

theorem ruleKnown (rule : Form.Rule) : Known (.full clientTemplates) rule.node := by
  refine knownTree (recognisedSymbol Kind.operator .streamSelector (by simp [dispatches]) ?_) ?_
  · change ∃ h, (rule.node.valueOf Kind.operator,h) ∈ _
    have known := rule.known
    simp only [Form.matchers,List.mem_cons,List.not_mem_nil,or_false] at known
    rw [Form.ruleOperator]
    rcases known with op | op | op | op <;> simp [op,Registry.table,Registry.full]
  · simp only [List.forall_mem_cons]
    exact ⟨knownLeaf (by simp [readKinds]),knownLeaf (by simp [readKinds]),
      knownLeaf (by simp [readKinds]),by simp⟩

theorem filterConstruct {n : Node} (form : Form.Filter n) : n.kind ∈ filterConstructs := by
  cases form <;> simp [filterConstructs,Form.Test.node]

theorem testComparison (t : Form.Test) : HoldsComparison t.node := by
  obtain ⟨label,op,operand⟩ := t
  have compared (known : op ∈ Form.comparators) : (Comparison.ofOperator? op).isSome := by
    obtain ⟨how,found⟩ := comparatorKnown known
    simp [found]
  cases operand with
  | text t known =>
    refine .inl ?_
    simp [Form.Test.node,Form.Operand.node,child?,Kind.label,Kind.labelFilterOperator,Kind.quotedStr]
  | number t known =>
    refine .inr ⟨?_,?_⟩
    · simp [Form.Test.node,Form.Operand.node,filterQuantity,child?,Kind.label,
        Kind.labelFilterOperator,Kind.numberValue]
    · simpa [Form.Test.node,valueOfHead,Kind.label,Kind.labelFilterOperator] using compared known
  | duration t known readable =>
    refine .inr ⟨?_,?_⟩
    · simp [Form.Test.node,Form.Operand.node,filterQuantity,child?,Kind.label,
        Kind.labelFilterOperator,Kind.numberValue,Kind.durationValue]
    · simpa [Form.Test.node,valueOfHead,Kind.label,Kind.labelFilterOperator] using compared known
  | bytes t known =>
    refine .inr ⟨?_,?_⟩
    · simp [Form.Test.node,Form.Operand.node,filterQuantity,child?,Kind.label,
        Kind.labelFilterOperator,Kind.numberValue,Kind.durationValue,Kind.bytesValue]
    · simpa [Form.Test.node,valueOfHead,Kind.label,Kind.labelFilterOperator] using compared known

theorem filterKnown {n : Node} (form : Form.Filter n) : Known (.full clientTemplates) n := by
  induction form with
  | test t =>
    refine knownTree (recognisedShape (by simp [shapes]) (testComparison t)) ?_
    simp only [List.forall_mem_cons]
    refine ⟨knownLeaf (by simp [readKinds]),knownLeaf (by simp [readKinds]),?_,by simp⟩
    cases t.operand <;> exact knownLeaf (by simp [readKinds])
  | @all parts two each ih =>
    have groups : HoldsFilters (.mk Kind.labelFilterAnd [] parts) :=
      fun p mem => filterConstruct (each p mem)
    exact knownTree (recognisedShape (by simp [shapes]) groups) ih
  | @any parts two each ih =>
    have groups : HoldsFilters (.mk Kind.labelFilterOr [] parts) :=
      fun p mem => filterConstruct (each p mem)
    exact knownTree (recognisedShape (by simp [shapes]) groups) ih

theorem parserKnown {fn : Text} {params : List Node} (known : fn ∈ parserFunctions)
    (each : ∀ p ∈ params, Known (.full clientTemplates) p) :
    Known (.full clientTemplates) (Form.parserNode fn params) := by
  refine knownTree (recognisedSymbol Kind.parserFnName .parser (by simp [dispatches]) ?_) ?_
  · change ∃ h, ((Form.parserNode fn params).valueOf Kind.parserFnName,h) ∈ _
    rw [Form.parserName]
    simp only [parserFunctions,List.mem_cons,List.not_mem_nil,or_false] at known
    rcases known with rfl | rfl | rfl <;> simp [Registry.table,Registry.full]
  · simp only [List.forall_mem_cons]
    exact ⟨knownLeaf (by simp [readKinds]),each⟩

theorem stageKnown (s : Form.Stage) : Known (.full clientTemplates) s.node := by
  cases s with
  | line operator text known =>
    refine knownTree (recognisedSymbol Kind.lineFilterOperator .lineFilter (by simp [dispatches]) ?_) ?_
    · have name : (Form.Stage.line operator text known).node.valueOf Kind.lineFilterOperator =
          operator := by simp [Form.Stage.node,valueOfHead]
      change ∃ h, ((Form.Stage.line operator text known).node.valueOf Kind.lineFilterOperator,h) ∈ _
      rw [name]
      simp only [Form.lineOperators,List.mem_cons,List.not_mem_nil,or_false] at known
      rcases known with rfl | rfl | rfl | rfl <;> simp [Registry.table,Registry.full]
    · simp only [List.forall_mem_cons]
      exact ⟨knownLeaf (by simp [readKinds]),knownLeaf (by simp [readKinds]),by simp⟩
  | json params =>
    refine parserKnown clientTemplates (by simp [parserFunctions]) fun p mem => ?_
    obtain ⟨param,_,rfl⟩ := List.mem_map.mp mem
    refine knownRead (by simp [readKinds]) ?_
    simp only [List.forall_mem_cons]
    exact ⟨knownLeaf (by simp [readKinds]),knownLeaf (by simp [readKinds]),by simp⟩
  | logfmt => exact parserKnown clientTemplates (by simp [parserFunctions]) (by simp)
  | regexp re =>
    refine parserKnown clientTemplates (by simp [parserFunctions]) ?_
    simp only [List.forall_mem_cons]
    exact ⟨knownLeaf (by simp [readKinds]),by simp⟩
  | filter body form =>
    have holds : HoldsFilter (Form.Stage.filter body form).node :=
      ⟨body,Form.filterComplex body form,filterConstruct form⟩
    refine knownTree (recognisedShape (by simp [shapes]) holds) ?_
    simp only [List.forall_mem_cons]
    refine ⟨knownRead (by simp [readKinds]) ?_,by simp⟩
    simp only [List.forall_mem_cons]
    exact ⟨filterKnown clientTemplates form,by simp⟩
  | lineFormat text =>
    refine knownRead (by simp [readKinds]) ?_
    simp only [List.forall_mem_cons]
    exact ⟨knownLeaf (by simp [readKinds]),by simp⟩
  | labelsFormat rules =>
    refine knownRead (by simp [readKinds]) fun p mem => ?_
    obtain ⟨⟨name,source⟩,_,rfl⟩ := List.mem_map.mp mem
    refine knownRead (by simp [readKinds]) ?_
    simp only [List.forall_mem_cons]
    refine ⟨knownLeaf (by simp [readKinds]),?_,by simp⟩
    cases source <;> exact knownLeaf (by simp [readKinds])

theorem sourceKnown (s : Form.Source) : ∀ n ∈ s.nodes, Known (.full clientTemplates) n := by
  intro n mem
  simp only [Form.Source.nodes,List.mem_cons,List.mem_map] at mem
  rcases mem with rfl | ⟨stage,_,rfl⟩
  · refine knownRead (by simp [readKinds]) fun p inside => ?_
    obtain ⟨rule,_,rfl⟩ := List.mem_map.mp inside
    exact ruleKnown clientTemplates rule
  · have kind : stage.node.kind ∈ stageConstructs := by
      cases stage <;> simp [Form.Stage.node,Form.parserNode,stageConstructs]
    have holds : HoldsStage (Form.pipelineNode stage) := ⟨stage.node,rfl,kind⟩
    refine knownTree (recognisedShape (by simp [shapes]) holds) ?_
    simp only [List.forall_mem_cons]
    exact ⟨stageKnown clientTemplates stage,by simp⟩

theorem groupingKnown {kind : Text} (read : kind ∈ readKinds) (g : Option Form.Grouping) :
    ∀ n ∈ g.toList.map (Form.Grouping.node kind), Known (.full clientTemplates) n := by
  intro n mem
  obtain ⟨g,_,rfl⟩ := List.mem_map.mp mem
  refine knownRead read ?_
  simp only [List.forall_mem_cons]
  refine ⟨knownLeaf (by simp [readKinds]),fun p inside => ?_⟩
  obtain ⟨l,_,rfl⟩ := List.mem_map.mp inside
  exact knownLeaf (by simp [readKinds])

theorem unwrapKnown (u : Form.Unwrap) : Known (.full clientTemplates) u.node := by
  cases u with
  | value => exact knownLeaf (by simp [readKinds])
  | label name =>
    refine knownRead (by simp [readKinds]) ?_
    simp only [List.forall_mem_cons]
    refine ⟨knownRead (by simp [readKinds]) ?_,by simp⟩
    simp only [List.forall_mem_cons]
    exact ⟨knownLeaf (by simp [readKinds]),by simp⟩
  | converted conv name known =>
    have converts : HoldsConversion (.leaf Kind.unwrapConversion conv) := by
      intro value
      simp only [unwrapConversions,List.mem_cons,List.not_mem_nil,or_false] at known
      rcases known with rfl | rfl | rfl <;> simp [conversion]
    refine knownRead (by simp [readKinds]) ?_
    simp only [List.forall_mem_cons]
    refine ⟨knownRead (by simp [readKinds]) ?_,by simp⟩
    simp only [List.forall_mem_cons]
    exact ⟨knownTree (recognisedShape (by simp [shapes]) converts) (by simp),
      knownLeaf (by simp [readKinds]),by simp⟩

theorem bodyKnown (u : Form.Unwrapped) : ∀ n ∈ u.nodes, Known (.full clientTemplates) n := by
  intro n mem
  simp only [Form.Unwrapped.nodes,List.mem_append,List.mem_cons,List.not_mem_nil,or_false] at mem
  rcases mem with (source | rfl | rfl) | grouping
  · exact sourceKnown clientTemplates u.source n source
  · exact unwrapKnown clientTemplates u.clause
  · exact knownLeaf (by simp [readKinds])
  · exact groupingKnown clientTemplates (by simp [readKinds]) u.grouping n grouping

theorem rangeKnown (r : Form.Range) : Known (.full clientTemplates) r.node := by
  cases r with
  | log fn known s span =>
    refine knownTree (recognisedSymbol Kind.logRangeAggregationFn .logRange
      (by simp [dispatches]) ?_) ?_
    · change ∃ h, ((Form.Range.log fn known s span).node.valueOf Kind.logRangeAggregationFn,h) ∈ _
      rw [Form.logRangeName]
      simp only [logRangeFunctions,List.mem_cons,List.not_mem_nil,or_false] at known
      rcases known with rfl | rfl | rfl | rfl <;> simp [Registry.table,Registry.full]
    · intro n mem
      simp only [List.cons_append,List.mem_cons,List.mem_append,List.not_mem_nil,or_false] at mem
      rcases mem with rfl | source | rfl
      · exact knownLeaf (by simp [readKinds])
      · exact sourceKnown clientTemplates s n source
      · exact knownLeaf (by simp [readKinds])
  | unwrap fn known u =>
    refine knownTree (recognisedSymbol Kind.unwrapFn .unwrap (by simp [dispatches]) ?_) ?_
    · change ∃ h, ((Form.Range.unwrap fn known u).node.valueOf Kind.unwrapFn,h) ∈ _
      rw [Form.unwrapName]
      simp only [unwrapFunctions,List.mem_cons,List.not_mem_nil,or_false] at known
      rcases known with rfl | rfl | rfl | rfl | rfl | rfl | rfl | rfl | rfl <;>
        simp [Registry.table,Registry.full]
    · simp only [List.forall_mem_cons]
      exact ⟨knownLeaf (by simp [readKinds]),bodyKnown clientTemplates u⟩

theorem matrixKnown (m : Form.Matrix) : Known (.full clientTemplates) m.node := by
  cases m with
  | range r => exact rangeKnown clientTemplates r
  | quantile fn known x u =>
    refine knownTree (recognisedSymbol Kind.parameterizedUnwrappedFn .parameterizedUnwrapped
      (by simp [dispatches]) ?_) ?_
    · change ∃ h, ((Form.Matrix.quantile fn known x u).node.valueOf Kind.parameterizedUnwrappedFn,h) ∈ _
      rw [Form.quantileName]
      simp only [parameterizedUnwrappedFunctions,List.mem_cons,List.not_mem_nil,or_false] at known
      simp [known,Registry.table,Registry.full]
    · simp only [List.forall_mem_cons]
      exact ⟨knownLeaf (by simp [readKinds]),knownLeaf (by simp [readKinds]),
        bodyKnown clientTemplates u⟩
  | aggregate fn known g r =>
    refine knownTree (recognisedSymbol Kind.aggregationOperatorFn .aggregation
      (by simp [dispatches]) ?_) ?_
    · change ∃ h, ((Form.Matrix.aggregate fn known g r).node.valueOf Kind.aggregationOperatorFn,h) ∈ _
      rw [Form.aggregateName]
      simp only [aggregationFunctions,List.mem_cons,List.not_mem_nil,or_false] at known
      rcases known with rfl | rfl | rfl | rfl | rfl | rfl | rfl <;>
        simp [Registry.table,Registry.full]
    · intro n mem
      simp only [List.cons_append,List.mem_cons,List.mem_append,List.not_mem_nil,or_false] at mem
      rcases mem with rfl | grouping | rfl
      · exact knownLeaf (by simp [readKinds])
      · exact groupingKnown clientTemplates (by simp [readKinds]) g n grouping
      · exact rangeKnown clientTemplates r

theorem statementKnown (m : Form.Matrix) (ranking : Option Form.Ranking) :
    Known (.full clientTemplates) (Form.statementNode m ranking) := by
  have inner : Known (.full clientTemplates) (.mk Kind.aggStatement [] [m.node]) := by
    refine knownRead (by simp [readKinds]) ?_
    simp only [List.forall_mem_cons]
    exact ⟨matrixKnown clientTemplates m,by simp⟩
  cases ranking with
  | none => exact inner
  | some r =>
    refine knownRead (by simp [readKinds]) ?_
    simp only [List.forall_mem_cons]
    refine ⟨knownTree (recognisedSymbol Kind.parameterizedExpressionFn .parameterized
      (by simp [dispatches]) ?_) ?_,by simp⟩
    · change ∃ h, ((Form.rankingNode m r).valueOf Kind.parameterizedExpressionFn,h) ∈ _
      rw [Form.rankingName]
      have known := r.known
      simp only [parameterizedFunctions,List.mem_cons,List.not_mem_nil,or_false] at known
      rcases known with fn | fn <;> simp [fn,Registry.table,Registry.full]
    · simp only [List.forall_mem_cons]
      exact ⟨knownLeaf (by simp [readKinds]),knownLeaf (by simp [readKinds]),inner,by simp⟩

theorem thresholdKnown (t : Form.Threshold) : Known (.full clientTemplates) t.node := by
  refine knownTree (recognisedSymbol Kind.numberOperator .numberOperator (by simp [dispatches]) ?_) ?_
  · change ∃ h, (t.node.valueOf Kind.numberOperator,h) ∈ _
    rw [Form.thresholdOperator]
    have known := t.known
    simp only [Form.thresholdOperators,List.mem_cons,List.not_mem_nil,or_false] at known
    rcases known with op | op | op | op | op | op <;> simp [op,Registry.table,Registry.full]
  · intro n mem
    simp only [List.cons_append,List.mem_cons,List.mem_append,List.not_mem_nil,or_false] at mem
    rcases mem with rfl | modifier | rfl
    · exact knownLeaf (by simp [readKinds])
    · split at modifier
      · rcases List.mem_singleton.mp modifier with rfl
        exact knownLeaf (by simp [readKinds])
      · simp at modifier
    · exact knownLeaf (by simp [readKinds])

/-- Whatever is read, every node of it is recognised, unless it is a call of a macro. -/
theorem parsedKnown {macros : List Text} {t : Text} {root : Node}
    (read : Query.parse macros t = .ok root) (plain : root.find? Kind.userMacro = none) :
    ∀ n ∈ root.descendants, Recognised (.full clientTemplates) n := by
  obtain ⟨q,rfl,_⟩ := parseForm read
  have children : ∀ c ∈ q.children, Known (.full clientTemplates) c := by
    cases q with
    | call name args => simp [Form.callFound] at plain
    | rows s => exact sourceKnown clientTemplates s
    | matrix m ranking threshold =>
      simp only [Form.children,List.forall_mem_cons]
      refine ⟨statementKnown clientTemplates m ranking,fun c mem => ?_⟩
      obtain ⟨t,_,rfl⟩ := List.mem_map.mp mem
      exact thresholdKnown clientTemplates t
  intro n mem
  obtain ⟨c,inside,found⟩ := descendantsInMem mem
  exact children c inside n found

end Forms

end LogSql.Compile
