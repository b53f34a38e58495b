import LogSql.Proofs.Query.Form

/-! What searches find in the trees of forms. A form knows the kinds of its nodes, so that a search
for any other kind finds nothing in it; the searches the compiler makes find the parts of the form. -/
namespace LogSql.Query.Form

open Node

/-! ### Rules and stages -/

@[simp] theorem ruleOperator (r : Rule) : r.node.valueOf Kind.operator = r.operator := by
  simp [Rule.node,valueOfHead,Kind.label,Kind.operator,Kind.quotedStr]

@[simp] theorem ruleLabel (r : Rule) : r.node.valueOf Kind.label = r.label := by
  simp [Rule.node,valueOfHead,Kind.label,Kind.operator,Kind.quotedStr]

@[simp] theorem ruleValue (r : Rule) : r.node.valueOf Kind.quotedStr = r.value := by
  simp [Rule.node,valueOfHead,Kind.label,Kind.operator,Kind.quotedStr]

@[simp] theorem paramLabel (p : Text × Text) : (paramNode p).valueOf Kind.label = p.1 := by
  simp [paramNode,valueOfHead,Kind.label,Kind.quotedStr]

@[simp] theorem paramPath (p : Text × Text) : (paramNode p).valueOf Kind.quotedStr = p.2 := by
  simp [paramNode,valueOfHead,Kind.label,Kind.quotedStr]

@[simp] theorem parserName (fn : Text) (params : List Node) :
    (parserNode fn params).valueOf Kind.parserFnName = fn := by
  simp [parserNode,valueOfHead]

theorem jsonParameters (params : List (Text × Text)) :
    (Stage.json params).node.findAll Kind.parserParam = params.map paramNode := by
  have each : ∀ c ∈ params.map paramNode, c.kind = Kind.parserParam ∧
      c.findAll Kind.parserParam = [] := by
    intro c mem
    obtain ⟨p,_,rfl⟩ := List.mem_map.mp mem
    simp [paramNode,Kind.parserParam,Kind.label,Kind.quotedStr]
  simp only [Stage.node,parserNode,findAllMk,findAllInCons,findAllInEach each]
  simp [Kind.parserFnName,Kind.parserParam]

/-- The kinds of the nodes of label filters. -/
def filterKinds : List Text :=
  [Kind.simpleLabelFilter, Kind.labelFilterAnd, Kind.labelFilterOr, Kind.label,
    Kind.labelFilterOperator, Kind.quotedStr, Kind.numberValue, Kind.durationValue, Kind.bytesValue]

theorem Filter.kinds {n : Node} (form : Filter n) : n.kind ∈ filterKinds ∧ n.kinds ⊆ filterKinds := by
  induction form with
  | test t =>
    obtain ⟨label,operator,operand⟩ := t
    cases operand <;> simp [Test.node,Operand.node,filterKinds]
  | all two each ih => exact ⟨by simp [filterKinds],kindsInSubset ih⟩
  | any two each ih => exact ⟨by simp [filterKinds],kindsInSubset ih⟩

/-- The kinds of the nodes inside stages. -/
def partKinds : List Text :=
  [Kind.lineFilterOperator, Kind.parserFnName, Kind.parserParam, Kind.complexLabelFilterExpression,
    Kind.labelsFormatRule] ++ filterKinds

theorem stageParts (s : Stage) : s.node.kinds ⊆ partKinds := by
  cases s with
  | line operator text known => simp [Stage.node,partKinds,filterKinds]
  | json params =>
    have each : ∀ c ∈ params.map paramNode, c.kind ∈ partKinds ∧ c.kinds ⊆ partKinds := by
      intro c mem
      obtain ⟨p,_,rfl⟩ := List.mem_map.mp mem
      simp [paramNode,partKinds,filterKinds]
    have inside := kindsInSubset each
    simp [Stage.node,parserNode,inside]
    simp [partKinds]
  | logfmt => simp [Stage.node,parserNode,partKinds]
  | regexp pattern => simp [Stage.node,parserNode,partKinds,filterKinds]
  | filter body form =>
    have inside := form.kinds
    have head : body.kind ∈ partKinds := List.mem_append_right _ inside.1
    have tail : body.kinds ⊆ partKinds := fun k mem => List.mem_append_right _ (inside.2 mem)
    simp [Stage.node,head,tail]
    simp [partKinds]
  | lineFormat template => simp [Stage.node,partKinds,filterKinds]
  | labelsFormat rules =>
    have each : ∀ c ∈ rules.map labelRuleNode, c.kind ∈ partKinds ∧ c.kinds ⊆ partKinds := by
      intro c mem
      obtain ⟨⟨label,source⟩,_,rfl⟩ := List.mem_map.mp mem
      cases source <;> simp [labelRuleNode,LabelSource.node,partKinds,filterKinds]
    exact kindsInSubset each

/-- The kinds of the nodes of stages. -/
def stageKinds : List Text :=
  [Kind.lineFilterExpression, Kind.lineFilterOperator, Kind.parserExpression, Kind.parserFnName,
    Kind.parserParam, Kind.labelFilterPipeline, Kind.complexLabelFilterExpression,
    Kind.lineFormatExpression, Kind.labelsFormatExpression, Kind.labelsFormatRule] ++ filterKinds

theorem stageKindsOf (s : Stage) : s.node.kind ∈ stageKinds ∧ s.node.kinds ⊆ stageKinds := by
  have parts : partKinds ⊆ stageKinds := by
    refine List.append_subset.mpr ⟨?_,List.subset_append_right _ _⟩
    simp [stageKinds]
  refine ⟨?_,fun k mem => parts (stageParts s mem)⟩
  cases s <;> simp [Stage.node,parserNode,stageKinds]

/-- A construct that stands at the head of stages is found in the stages of its kind. -/
theorem stageFound {k : Text} (head : k ∉ partKinds) (pipeline : k ≠ Kind.logPipeline) (s : Stage) :
    findAllIn k [pipelineNode s] = if s.node.kind = k then [s.node] else [] := by
  have inside : s.node.findAll k = [] := findAllAbsent _ fun found => head (stageParts s found)
  simp [pipelineNode,inside,pipeline.symm]

theorem filterComplex (body : Node) (form : Filter body) :
    (Stage.filter body form).node.find? Kind.complexLabelFilterExpression =
      some (.mk Kind.complexLabelFilterExpression [] [body]) := by
  simp [Stage.node,findHead]

/-! ### Selectors with their pipelines -/

/-- The kinds of the nodes of a selector with its pipeline. -/
def sourceKinds : List Text :=
  [Kind.logStreamSelector, Kind.logStreamSelectorRule, Kind.operator, Kind.logPipeline] ++ stageKinds

theorem rulesKinds (rules : List Rule) : kindsIn (rules.map Rule.node) ⊆ sourceKinds := by
  refine kindsInSubset fun c mem => ?_
  obtain ⟨r,_,rfl⟩ := List.mem_map.mp mem
  simp [Rule.node,sourceKinds,stageKinds,filterKinds]

theorem stagesKinds (stages : List Stage) :
    kindsIn (stages.map pipelineNode) ⊆ Kind.logPipeline :: stageKinds := by
  refine kindsInSubset fun c mem => ?_
  obtain ⟨s,_,rfl⟩ := List.mem_map.mp mem
  have inside := stageKindsOf s
  simp [pipelineNode,inside.1]
  exact fun k found => List.mem_cons_of_mem _ (inside.2 found)

theorem sourceKindsOf (s : Source) : kindsIn s.nodes ⊆ sourceKinds := by
  have first := rulesKinds s.rules
  have second : kindsIn (s.stages.map pipelineNode) ⊆ sourceKinds := by
    intro k mem
    rcases List.mem_cons.mp (stagesKinds s.stages mem) with rfl | inside
    · simp [sourceKinds]
    · exact List.mem_append_right _ inside
  simp [Source.nodes,first,second]
  simp [sourceKinds]

theorem sourceAbsent {k : Text} (absent : k ∉ sourceKinds) (s : Source) : findAllIn k s.nodes = [] :=
  findAllInAbsent _ fun found => absent (sourceKindsOf s found)

/-- The kinds of nodes that stand outside selectors and pipelines. -/
def outerKinds : List Text :=
  [Kind.userMacro, Kind.aggStatement, Kind.logRangeAggregation, Kind.logRangeAggregationFn,
    Kind.aggregationOperator, Kind.aggregationOperatorFn, Kind.unwrapFunction, Kind.unwrapFn,
    Kind.unwrapExpression, Kind.unwrapStatement, Kind.unwrapConversion, Kind.unwrapValueStatement,
    Kind.optByWithout, Kind.optByWithoutUnwrap, Kind.byWithout, Kind.parameterValue,
    Kind.parameterizedExpression, Kind.parameterizedExpressionFn, Kind.parameterizedUnwrapped,
    Kind.parameterizedUnwrappedFn, Kind.comparedAggStatementCmp, Kind.numberOperator,
    Kind.boolModifier]

theorem outerAbsent : ∀ k ∈ outerKinds, k ∉ sourceKinds := by
  simp [outerKinds,sourceKinds,stageKinds,filterKinds,Kind.userMacro,Kind.aggStatement,
    Kind.logRangeAggregation,Kind.logRangeAggregationFn,Kind.aggregationOperator,
    Kind.aggregationOperatorFn,Kind.unwrapFunction,Kind.unwrapFn,Kind.unwrapExpression,
    Kind.unwrapStatement,Kind.unwrapConversion,Kind.unwrapValueStatement,Kind.optByWithout,
    Kind.optByWithoutUnwrap,Kind.byWithout,Kind.parameterValue,Kind.parameterizedExpression,
    Kind.parameterizedExpressionFn,Kind.parameterizedUnwrapped,Kind.parameterizedUnwrappedFn,
    Kind.comparedAggStatementCmp,Kind.numberOperator,Kind.boolModifier,Kind.logStreamSelector,
    Kind.logStreamSelectorRule,Kind.operator,Kind.logPipeline,Kind.lineFilterExpression,
    Kind.lineFilterOperator,Kind.parserExpression,Kind.parserFnName,Kind.parserParam,
    Kind.labelFilterPipeline,Kind.complexLabelFilterExpression,Kind.lineFormatExpression,
    Kind.labelsFormatExpression,Kind.labelsFormatRule,Kind.simpleLabelFilter,Kind.labelFilterAnd,
    Kind.labelFilterOr,Kind.label,Kind.labelFilterOperator,Kind.quotedStr,Kind.numberValue,
    Kind.durationValue,Kind.bytesValue]

theorem selectorAbsent : ∀ k ∈ [Kind.logStreamSelector, Kind.logStreamSelectorRule, Kind.logPipeline],
    k ∉ stageKinds := by
  simp [stageKinds,filterKinds,Kind.logStreamSelector,Kind.logStreamSelectorRule,Kind.logPipeline,
    Kind.lineFilterExpression,Kind.lineFilterOperator,Kind.parserExpression,Kind.parserFnName,
    Kind.parserParam,Kind.labelFilterPipeline,Kind.complexLabelFilterExpression,
    Kind.lineFormatExpression,Kind.labelsFormatExpression,Kind.labelsFormatRule,
    Kind.simpleLabelFilter,Kind.labelFilterAnd,Kind.labelFilterOr,Kind.label,
    Kind.labelFilterOperator,Kind.quotedStr,Kind.numberValue,Kind.durationValue,Kind.bytesValue]

theorem sourceRules (s : Source) :
    findAllIn Kind.logStreamSelectorRule s.nodes = s.rules.map Rule.node := by
  have each : ∀ c ∈ s.rules.map Rule.node, c.kind = Kind.logStreamSelectorRule ∧
      c.findAll Kind.logStreamSelectorRule = [] := by
    intro c mem
    obtain ⟨r,_,rfl⟩ := List.mem_map.mp mem
    simp [Rule.node,Kind.logStreamSelectorRule,Kind.label,Kind.operator,Kind.quotedStr]
  have stages : findAllIn Kind.logStreamSelectorRule (s.stages.map pipelineNode) = [] := by
    refine findAllInAbsent _ fun found => ?_
    rcases List.mem_cons.mp (stagesKinds s.stages found) with same | inside
    · simp [Kind.logStreamSelectorRule,Kind.logPipeline] at same
    · exact selectorAbsent _ (by simp) inside
  simp only [Source.nodes,findAllInCons,findAllMk,findAllInEach each,stages]
  simp [Kind.logStreamSelector,Kind.logStreamSelectorRule]

theorem sourcePipelines (s : Source) :
    findAllIn Kind.logPipeline s.nodes = s.stages.map pipelineNode := by
  have each : ∀ c ∈ s.stages.map pipelineNode, c.kind = Kind.logPipeline ∧
      c.findAll Kind.logPipeline = [] := by
    intro c mem
    obtain ⟨stage,_,rfl⟩ := List.mem_map.mp mem
    have inside := stageKindsOf stage
    have outside := selectorAbsent Kind.logPipeline (by simp)
    refine ⟨rfl,findAllInAbsent _ ?_⟩
    simp only [kindsInCons,kindsInNil,List.append_nil,List.mem_cons,not_or]
    exact ⟨fun same => outside (same ▸ inside.1),fun found => outside (inside.2 found)⟩
  have rules : findAllIn Kind.logPipeline (s.rules.map Rule.node) = [] := by
    induction s.rules with
    | nil => rfl
    | cons r rules ih =>
      simp only [List.map_cons,findAllInCons,ih,Rule.node]
      simp [Kind.logStreamSelectorRule,Kind.logPipeline,Kind.label,Kind.operator,Kind.quotedStr]
  simp only [Source.nodes,findAllInCons,findAllMk,findAllInEach each,rules]
  simp [Kind.logStreamSelector,Kind.logPipeline]

/-- The children of a selector with its pipeline are selectors and stages only. -/
theorem sourceChildren {k : Text} (s : Source) (selector : k ≠ Kind.logStreamSelector)
    (pipeline : k ≠ Kind.logPipeline) : s.nodes.find? (fun c => c.kind = k) = none := by
  simp only [Source.nodes,List.find?_eq_none,List.mem_cons,List.mem_map,decide_eq_true_eq]
  rintro c (rfl | ⟨stage,_,rfl⟩)
  · exact selector.symm
  · exact pipeline.symm

theorem sourceOuter {k : Text} (outer : k ∈ outerKinds) (s : Source) : findAllIn k s.nodes = [] :=
  sourceAbsent (outerAbsent k outer) s

/-- The constructs at the head of stages are found in a source where its stages are of their kind. -/
theorem sourceStages {k : Text} (head : k ∉ partKinds)
    (outside : k ∉ [Kind.logStreamSelector, Kind.logStreamSelectorRule, Kind.operator, Kind.logPipeline])
    (s : Source) : findAllIn k s.nodes = (s.stages.map Stage.node).filter fun n => n.kind = k := by
  simp only [List.mem_cons,List.not_mem_nil,or_false,not_or,← ne_eq] at outside
  obtain ⟨selector,rule,operator,pipeline⟩ := outside
  have rules : findAllIn k (s.rules.map Rule.node) = [] := by
    have apart : k ≠ Kind.label ∧ k ≠ Kind.quotedStr := by
      constructor <;> rintro rfl <;> exact head (by simp [partKinds,filterKinds])
    induction s.rules with
    | nil => rfl
    | cons r rules ih =>
      simp [Rule.node,ih,rule.symm,operator.symm,apart.1.symm,apart.2.symm]
  have stages : findAllIn k (s.stages.map pipelineNode) =
      (s.stages.map Stage.node).filter fun n => n.kind = k := by
    induction s.stages with
    | nil => rfl
    | cons stage stages ih =>
      rw [List.map_cons,← List.singleton_append,findAllInAppend,stageFound head pipeline,ih,
        List.map_cons,List.filter_cons]
      split <;> simp [*]
  simp [Source.nodes,rules,selector.symm,stages]

theorem sourceFormats (s : Source) {n : Node} :
    n ∈ findAllIn Kind.lineFormatExpression s.nodes ↔
      ∃ t, Stage.lineFormat t ∈ s.stages ∧ n = (Stage.lineFormat t).node := by
  rw [sourceStages
    (by simp [partKinds,filterKinds,Kind.lineFormatExpression,Kind.lineFilterOperator,Kind.parserFnName,
      Kind.parserParam,Kind.complexLabelFilterExpression,Kind.labelsFormatRule,Kind.simpleLabelFilter,
      Kind.labelFilterAnd,Kind.labelFilterOr,Kind.label,Kind.labelFilterOperator,Kind.quotedStr,
      Kind.numberValue,Kind.durationValue,Kind.bytesValue])
    (by simp [Kind.lineFormatExpression,Kind.logStreamSelector,Kind.logStreamSelectorRule,Kind.operator,
      Kind.logPipeline]),List.mem_filter,List.mem_map,decide_eq_true_eq]
  constructor
  · rintro ⟨⟨stage,mem,rfl⟩,kind⟩
    cases stage with
    | lineFormat t => exact ⟨t,mem,rfl⟩
    | _ =>
      simp [Stage.node,parserNode,Kind.lineFormatExpression,Kind.lineFilterExpression,
        Kind.parserExpression,Kind.labelFilterPipeline,Kind.labelsFormatExpression] at kind
  · rintro ⟨t,mem,rfl⟩
    exact ⟨⟨_,mem,rfl⟩,rfl⟩

/-- A node under which the rules and the stages of a source are found, in their order. -/
structure Holds (n : Node) (s : Source) : Prop where
  rules : n.findAll Kind.logStreamSelectorRule = s.rules.map Rule.node
  stages : n.findAll Kind.logPipeline = s.stages.map pipelineNode

theorem rowsHold (s : Source) : Holds (rows s).node s :=
  ⟨sourceRules s,sourcePipelines s⟩

theorem stageBelow {s : Source} {stage : Stage} (mem : stage ∈ s.stages) :
    stage.node ∈ (rows s).node.descendants := by
  have inside : stage.node ∈ (pipelineNode stage).descendants := by simp [pipelineNode]
  exact descendantsInBelow (List.mem_cons_of_mem _ (List.mem_map_of_mem mem)) inside

/-! ### Ranges -/

@[simp] theorem groupingWord (kind : Text) (g : Grouping) :
    (g.node kind).valueOf Kind.byWithout = g.word := by
  simp [Grouping.node,valueOfHead]

@[simp] theorem groupingLabels (kind : Text) (g : Grouping) :
    (g.node kind).findAll Kind.label = g.labels.map (.leaf Kind.label) := by
  have each : ∀ c ∈ g.labels.map (leaf Kind.label), c.kind = Kind.label ∧
      c.findAll Kind.label = [] := by
    intro c mem
    obtain ⟨l,_,rfl⟩ := List.mem_map.mp mem
    exact ⟨rfl,rfl⟩
  simp only [Grouping.node,findAllMk,findAllInCons,findAllInEach each]
  simp [Kind.byWithout,Kind.label]

theorem groupingKinds (kind : Text) (g : Option Grouping) :
    kindsIn (g.toList.map (Grouping.node kind)) ⊆ [kind, Kind.byWithout, Kind.label] := by
  cases g with
  | none => simp
  | some g =>
    have labels : kindsIn (g.labels.map (leaf Kind.label)) ⊆ [Kind.label] := by
      refine kindsInSubset fun c mem => ?_
      obtain ⟨l,_,rfl⟩ := List.mem_map.mp mem
      simp
    have more : kindsIn (g.labels.map (leaf Kind.label)) ⊆ [kind, Kind.byWithout, Kind.label] :=
      fun k mem => by simp [List.mem_singleton.mp (labels mem)]
    simp [Grouping.node,more]

theorem logRangeHolds (fn : Text) (known : fn ∈ logRangeFunctions) (s : Source) (span : Span) :
    Holds (Range.log fn known s span).node s := by
  constructor
  · simp only [Range.node,findAllMk,List.cons_append,findAllInCons,findAllInAppend,sourceRules]
    simp [Kind.logRangeAggregationFn,Kind.logStreamSelectorRule,Kind.durationValue]
  · simp only [Range.node,findAllMk,List.cons_append,findAllInCons,findAllInAppend,sourcePipelines]
    simp [Kind.logRangeAggregationFn,Kind.logPipeline,Kind.durationValue]

@[simp] theorem logRangeName (fn : Text) (known : fn ∈ logRangeFunctions) (s : Source) (span : Span) :
    (Range.log fn known s span).node.valueOf Kind.logRangeAggregationFn = fn := by
  simp [Range.node,valueOfHead]

/-- What follows the source of an unwrap function. -/
def Unwrapped.rest (u : Unwrapped) : List Node :=
  [u.clause.node, .leaf Kind.durationValue u.span.text] ++
    u.grouping.toList.map (Grouping.node Kind.optByWithoutUnwrap)

theorem unwrappedNodes (u : Unwrapped) : u.nodes = u.source.nodes ++ u.rest := by
  simp [Unwrapped.nodes,Unwrapped.rest]

/-- The kinds of the nodes that follow the source of an unwrap function. -/
def restKinds : List Text :=
  [Kind.unwrapValueStatement, Kind.unwrapExpression, Kind.unwrapStatement, Kind.unwrapConversion,
    Kind.durationValue, Kind.optByWithoutUnwrap, Kind.byWithout, Kind.label]

theorem restKindsOf (u : Unwrapped) : kindsIn u.rest ⊆ restKinds := by
  have grouping : kindsIn (u.grouping.toList.map (Grouping.node Kind.optByWithoutUnwrap)) ⊆ restKinds :=
    fun k mem => by
      have found := groupingKinds _ _ mem
      simp only [List.mem_cons,List.not_mem_nil,or_false] at found
      rcases found with rfl | rfl | rfl <;> simp [restKinds]
  simp only [Unwrapped.rest,kindsInAppend,List.append_subset]
  refine ⟨?_,grouping⟩
  cases u.clause <;> simp [Unwrap.node,restKinds]

/-- The leaves in front of the source of an unwrap function. -/
def plainKinds : List Text := [Kind.unwrapFn, Kind.parameterizedUnwrappedFn, Kind.parameterValue]

theorem plainAbsent : ∀ k ∈ [Kind.logStreamSelectorRule, Kind.logPipeline,
      Kind.unwrapValueStatement, Kind.unwrapExpression, Kind.optByWithoutUnwrap, Kind.durationValue],
    k ∉ plainKinds := by
  simp [plainKinds,Kind.unwrapFn,Kind.parameterizedUnwrappedFn,Kind.parameterValue,
    Kind.logStreamSelectorRule,Kind.logPipeline,Kind.unwrapValueStatement,Kind.unwrapExpression,
    Kind.optByWithoutUnwrap,Kind.durationValue]

/-- The node of an unwrap function: leaves with its name and parameter, and its body. -/
structure Unwraps (n : Node) (u : Unwrapped) : Prop where
  split : ∃ kind leaves, n = .mk kind [] (leaves ++ u.nodes) ∧ kindsIn leaves ⊆ plainKinds

theorem rangeUnwraps (fn : Text) (known : fn ∈ unwrapFunctions) (u : Unwrapped) :
    Unwraps (Range.unwrap fn known u).node u :=
  ⟨_,[.leaf Kind.unwrapFn fn],rfl,by simp [plainKinds]⟩

theorem quantileUnwraps (fn : Text) (known : fn ∈ parameterizedUnwrappedFunctions) (x : Numeral)
    (u : Unwrapped) : Unwraps (Matrix.quantile fn known x u).node u :=
  ⟨_,[.leaf Kind.parameterizedUnwrappedFn fn,.leaf Kind.parameterValue x.text],rfl,
    by simp [plainKinds]⟩

namespace Unwraps

variable {n : Node} {u : Unwrapped}

theorem findAll (h : Unwraps n u) {k : Text} (absent : k ∉ plainKinds) :
    n.findAll k = findAllIn k u.source.nodes ++ findAllIn k u.rest := by
  obtain ⟨kind,leaves,rfl,plain⟩ := h.split
  have none : findAllIn k leaves = [] := findAllInAbsent _ fun found => absent (plain found)
  simp [unwrappedNodes,none]

theorem holds (h : Unwraps n u) : Holds n u.source := by
  have outside : ∀ k ∈ [Kind.logStreamSelectorRule, Kind.logPipeline], k ∉ restKinds := by
    simp [restKinds,Kind.logStreamSelectorRule,Kind.logPipeline,Kind.unwrapValueStatement,
      Kind.unwrapExpression,Kind.unwrapStatement,Kind.unwrapConversion,Kind.durationValue,
      Kind.optByWithoutUnwrap,Kind.byWithout,Kind.label]
  have rest (k : Text) (mem : k ∈ [Kind.logStreamSelectorRule, Kind.logPipeline]) :
      findAllIn k u.rest = [] :=
    findAllInAbsent _ fun found => outside k mem (restKindsOf u found)
  constructor
  · rw [h.findAll (plainAbsent _ (by simp)),sourceRules,rest _ (by simp),List.append_nil]
  · rw [h.findAll (plainAbsent _ (by simp)),sourcePipelines,rest _ (by simp),List.append_nil]

theorem groupingAbsent {k : Text} (absent : k ∉ [Kind.optByWithoutUnwrap, Kind.byWithout, Kind.label])
    (g : Option Grouping) :
    findAllIn k (g.toList.map (Grouping.node Kind.optByWithoutUnwrap)) = [] :=
  findAllInAbsent _ fun found => absent (groupingKinds _ _ found)

theorem value (h : Unwraps n u) :
    (n.find? Kind.unwrapValueStatement).isSome = u.clause.isValue := by
  have grouping := groupingAbsent (k := Kind.unwrapValueStatement) (by
    simp [Kind.unwrapValueStatement,Kind.optByWithoutUnwrap,Kind.byWithout,Kind.label]) u.grouping
  rw [findHead,h.findAll (plainAbsent _ (by simp)),sourceOuter (by simp [outerKinds]),
    Unwrapped.rest,findAllInAppend,grouping]
  cases u.clause <;>
    simp [Unwrap.node,Unwrap.isValue,Kind.unwrapValueStatement,Kind.unwrapExpression,
      Kind.unwrapStatement,Kind.unwrapConversion,Kind.durationValue,Kind.label]

theorem expression (h : Unwraps n u) :
    n.find? Kind.unwrapExpression = if u.clause.isValue then none else some u.clause.node := by
  have grouping := groupingAbsent (k := Kind.unwrapExpression) (by
    simp [Kind.unwrapExpression,Kind.optByWithoutUnwrap,Kind.byWithout,Kind.label]) u.grouping
  rw [findHead,h.findAll (plainAbsent _ (by simp)),sourceOuter (by simp [outerKinds]),
    Unwrapped.rest,findAllInAppend,grouping]
  cases u.clause <;>
    simp [Unwrap.node,Unwrap.isValue,Kind.unwrapValueStatement,Kind.unwrapExpression,
      Kind.unwrapStatement,Kind.unwrapConversion,Kind.durationValue,Kind.label]

theorem kindInside {c : Node} {cs : List Node} {allowed : List Text} (inside : kindsIn cs ⊆ allowed)
    (mem : c ∈ cs) : c.kind ∈ allowed := by
  induction cs with
  | nil => simp at mem
  | cons first rest ih =>
    simp only [kindsInCons,List.cons_subset,List.append_subset] at inside
    rcases List.mem_cons.mp mem with rfl | later
    · exact inside.1
    · exact ih inside.2.2 later

theorem child (h : Unwraps n u) {k : Text} (plain : k ∉ plainKinds)
    (selector : k ≠ Kind.logStreamSelector) (pipeline : k ≠ Kind.logPipeline) :
    n.child? k = u.rest.find? fun c => c.kind = k := by
  obtain ⟨kind,leaves,rfl,inside⟩ := h.split
  have none : leaves.find? (fun c => c.kind = k) = Option.none := by
    simp only [List.find?_eq_none,decide_eq_true_eq]
    rintro c mem rfl
    exact plain (kindInside inside mem)
  simp [child?,unwrappedNodes,List.find?_append,none,sourceChildren u.source selector pipeline]

theorem grouping (h : Unwraps n u) :
    n.child? Kind.optByWithoutUnwrap = u.grouping.map (Grouping.node Kind.optByWithoutUnwrap) := by
  rw [h.child (plainAbsent _ (by simp))
    (by simp [Kind.optByWithoutUnwrap,Kind.logStreamSelector])
    (by simp [Kind.optByWithoutUnwrap,Kind.logPipeline]),Unwrapped.rest]
  cases u.clause <;> cases u.grouping <;>
    simp [Unwrap.node,Grouping.node,Kind.optByWithoutUnwrap,Kind.durationValue,
      Kind.unwrapValueStatement,Kind.unwrapExpression]

theorem span (h : Unwraps n u) :
    n.child? Kind.durationValue = some (.leaf Kind.durationValue u.span.text) := by
  rw [h.child (plainAbsent _ (by simp)) (by simp [Kind.durationValue,Kind.logStreamSelector])
    (by simp [Kind.durationValue,Kind.logPipeline]),Unwrapped.rest]
  cases u.clause <;>
    simp [Unwrap.node,Kind.durationValue,Kind.unwrapValueStatement,Kind.unwrapExpression]

end Unwraps

@[simp] theorem unwrapName (fn : Text) (known : fn ∈ unwrapFunctions) (u : Unwrapped) :
    (Range.unwrap fn known u).node.valueOf Kind.unwrapFn = fn := by
  simp [Range.node,valueOfHead]

@[simp] theorem quantileName (fn : Text) (known : fn ∈ parameterizedUnwrappedFunctions) (x : Numeral)
    (u : Unwrapped) :
    (Matrix.quantile fn known x u).node.valueOf Kind.parameterizedUnwrappedFn = fn := by
  simp [Matrix.node,valueOfHead]

@[simp] theorem quantileParameter (fn : Text) (known : fn ∈ parameterizedUnwrappedFunctions)
    (x : Numeral) (u : Unwrapped) :
    (Matrix.quantile fn known x u).node.valueOf Kind.parameterValue = x.text := by
  simp only [Matrix.node,valueOfHead,findAllMk,findAllInCons]
  simp [Kind.parameterizedUnwrappedFn,Kind.parameterValue]

theorem unwrapLabel (name : Text) : (Unwrap.label name).node.valueOf Kind.label = name := by
  simp [Unwrap.node,valueOfHead,Kind.unwrapStatement,Kind.label]

theorem unwrapPlain (name : Text) : (Unwrap.label name).node.valueOf Kind.unwrapConversion = [] := by
  simp [Unwrap.node,valueOfHead,Kind.unwrapStatement,Kind.unwrapConversion,Kind.label]

theorem convertedLabel (conv name : Text) (known : conv ∈ unwrapConversions) :
    (Unwrap.converted conv name known).node.valueOf Kind.label = name := by
  simp [Unwrap.node,valueOfHead,Kind.unwrapStatement,Kind.unwrapConversion,Kind.label]

theorem convertedConversion (conv name : Text) (known : conv ∈ unwrapConversions) :
    (Unwrap.converted conv name known).node.valueOf Kind.unwrapConversion = conv := by
  simp [Unwrap.node,valueOfHead,Kind.unwrapStatement,Kind.unwrapConversion,Kind.label]

end LogSql.Query.Form
