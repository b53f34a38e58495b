import LogSql.Proofs.Compile.Families
import LogSql.Proofs.Query.Reading

/-! The schema of query trees. The compiler looks nodes up by their kinds anywhere below the root, so
what it finds is right only when every kind of node has its place; this is said here about the trees
alone, and it holds of every tree that is read. -/
namespace LogSql.Query

/-! ### What the schema asks for -/

/-- Calls of macros: the only child repeats the name and holds the arguments. -/
inductive MacroCall (macros : List Text) : Node → Prop where
  | intro {name : Text} {args : List Node} (known : name ∈ macros)
      (each : ∀ a ∈ args, a.kind = Kind.macroArg) :
      MacroCall macros (.mk Kind.userMacro name [.mk name name args])

/-- What stands under the root: a macro call, a selector with its pipeline, or an aggregation that may
be compared. -/
inductive Top (macros : List Text) : List Node → Prop where
  | call {n : Node} (call : MacroCall macros n) : Top macros [n]
  | rows {selector : Node} {pipelines : List Node} (first : selector.kind = Kind.logStreamSelector)
      (rest : ∀ p ∈ pipelines, p.kind = Kind.logPipeline) : Top macros (selector :: pipelines)
  | matrix {statement : Node} {comparison : Option Node} (first : statement.kind = Kind.aggStatement)
      (last : ∀ c ∈ comparison, c.kind = Kind.comparedAggStatementCmp) :
      Top macros (statement :: comparison.toList)

/-- Rules of selectors. -/
inductive RuleNode : Node → Prop where
  | intro {operator : Text} (label value : Text) (known : operator ∈ Form.matchers) :
      RuleNode (.mk Kind.logStreamSelectorRule []
        [.leaf Kind.label label, .leaf Kind.operator operator, .leaf Kind.quotedStr value])

/-- The kinds of stages. -/
def stageHeads : List Text :=
  [Kind.lineFilterExpression, Kind.parserExpression, Kind.labelFilterPipeline,
    Kind.lineFormatExpression, Kind.labelsFormatExpression]

/-- What selectors, pipelines and label filters have below them. -/
structure Regular (n : Node) : Prop where
  selector : n.kind = Kind.logStreamSelector → n.children ≠ [] ∧ ∀ c ∈ n.children, RuleNode c
  pipeline : n.kind = Kind.logPipeline → ∃ stage, n.children = [stage] ∧ stage.kind ∈ stageHeads
  group : n.kind = Kind.labelFilterOr ∨ n.kind = Kind.labelFilterAnd → 2 ≤ n.children.length
  pattern : n.kind = Kind.simpleLabelFilter →
    n.valueOf Kind.labelFilterOperator ∈ Form.patternOperators →
      (n.child? Kind.quotedStr).isSome = true

/-- The kinds of ranges, each with the kind of its name and its functions. -/
def rangeNames : List (Text × Text × List Text) :=
  [(Kind.logRangeAggregation, Kind.logRangeAggregationFn, logRangeFunctions),
    (Kind.unwrapFunction, Kind.unwrapFn, unwrapFunctions),
    (Kind.parameterizedUnwrapped, Kind.parameterizedUnwrappedFn, parameterizedUnwrappedFunctions)]

/-- The ranges in a tree. -/
def Node.ranges (n : Node) : List Node := rangeNames.flatMap fun r => n.findAll r.1

/-- Ranges: a function with its name, one selector, a length, and an unwrap clause unless rows are
counted. -/
structure RangeNode (n : Node) : Prop where
  name : ∃ k fn fns, (n.kind,k,fns) ∈ rangeNames ∧ n.children.head? = some (.leaf k fn) ∧ fn ∈ fns
  selector : (n.findAll Kind.logStreamSelector).length = 1
  length : ∃ d nanos, n.children.filter (·.kind = Kind.durationValue) = [.leaf Kind.durationValue d] ∧
    Duration.readRange d = .ok nanos ∧ 0 < nanos
  clause : (n.findAll Kind.unwrapExpression ++ n.findAll Kind.unwrapValueStatement).length =
    if n.kind = Kind.logRangeAggregation then 0 else 1

/-- The schema of query trees. -/
structure Conforms (macros : List Text) (root : Node) : Prop where
  kind : root.kind = Kind.root
  top : Top macros root.children
  regular : root.find? Kind.userMacro = none → ∀ n ∈ root.descendants, Regular n
  one : root.find? Kind.userMacro = none → root.ranges.length ≤ 1
  present : root.find? Kind.userMacro = none →
    (root.ranges ≠ [] ↔ (root.find? Kind.aggStatement).isSome = true)
  range : root.find? Kind.userMacro = none → ∀ n ∈ root.ranges, RangeNode n

namespace Form

open Node

/-! ### Selectors, pipelines and label filters -/

/-- The kinds that the schema says something about. -/
def ruledKinds : List Text :=
  [Kind.logStreamSelector, Kind.logPipeline, Kind.labelFilterOr, Kind.labelFilterAnd,
    Kind.simpleLabelFilter]

theorem plainRegular {n : Node} (plain : n.kind ∉ ruledKinds) : Regular n := by
  simp only [ruledKinds,List.mem_cons,List.not_mem_nil,or_false,not_or] at plain
  obtain ⟨selector,pipeline,any,all,test⟩ := plain
  exact ⟨fun same => absurd same selector,fun same => absurd same pipeline,
    fun same => absurd same (by simp [any,all]),fun same => absurd same test⟩

/-- Every node of some trees is as the schema asks. -/
def RegularIn (cs : List Node) : Prop := ∀ n ∈ descendantsIn cs, Regular n

theorem regularNode {n : Node} (here : Regular n) (below : RegularIn n.children) : RegularIn [n] := by
  obtain ⟨kind,value,children⟩ := n
  intro m mem
  simp only [descendantsInCons,descendantsMk,descendantsInNil,List.append_nil,List.mem_cons] at mem
  rcases mem with rfl | inside
  · exact here
  · exact below m inside

theorem regularEach {cs : List Node} (each : ∀ c ∈ cs, RegularIn [c]) : RegularIn cs := by
  intro n mem
  obtain ⟨c,inside,found⟩ := descendantsInMem mem
  exact each c inside n (by simpa using found)

/-- Trees without nodes of such kinds. -/
theorem regularPlain {cs : List Node} (plain : ∀ k ∈ kindsIn cs, k ∉ ruledKinds) : RegularIn cs :=
  fun _ mem => plainRegular (plain _ (List.mem_map_of_mem mem))

theorem testRegular (t : Test) : Regular t.node := by
  obtain ⟨label,operator,operand⟩ := t
  have other (known : operator ∈ comparators) : operator ∉ patternOperators := by
    simp only [comparators,List.mem_cons,List.not_mem_nil,or_false] at known
    rcases known with rfl | rfl | rfl | rfl | rfl | rfl | rfl <;> simp [patternOperators]
  refine ⟨fun same => ?_,fun same => ?_,fun same => ?_,fun _ pattern => ?_⟩
  · simp [Test.node,Kind.simpleLabelFilter,Kind.logStreamSelector] at same
  · simp [Test.node,Kind.simpleLabelFilter,Kind.logPipeline] at same
  · simp [Test.node,Kind.simpleLabelFilter,Kind.labelFilterOr,Kind.labelFilterAnd] at same
  · have named : operator ∈ patternOperators := by
      simpa [Test.node,valueOfHead,Kind.label,Kind.labelFilterOperator] using pattern
    cases operand with
    | text t known => simp [Test.node,Operand.node,child?]
    | number t known => exact absurd named (other known)
    | duration t known readable => exact absurd named (other known)
    | bytes t known => exact absurd named (other known)

theorem groupRegular {kind : Text} {parts : List Node}
    (group : kind = Kind.labelFilterOr ∨ kind = Kind.labelFilterAnd) (two : 2 ≤ parts.length) :
    Regular (.mk kind [] parts) := by
  refine ⟨fun same => ?_,fun same => ?_,fun _ => two,fun same => ?_⟩ <;>
    rcases group with rfl | rfl <;>
    simp [Kind.labelFilterOr,Kind.labelFilterAnd,Kind.logStreamSelector,Kind.logPipeline,
      Kind.simpleLabelFilter] at same

theorem filterRegular {body : Node} (form : Filter body) : RegularIn [body] := by
  induction form with
  | test t =>
    refine regularNode (testRegular t) (regularPlain ?_)
    obtain ⟨label,operator,operand⟩ := t
    cases operand <;>
      simp [Test.node,Operand.node,ruledKinds,Kind.logStreamSelector,Kind.logPipeline,
        Kind.labelFilterOr,Kind.labelFilterAnd,Kind.simpleLabelFilter,Kind.label,
        Kind.labelFilterOperator,Kind.quotedStr,Kind.numberValue,Kind.durationValue,Kind.bytesValue]
  | all two each ih => exact regularNode (groupRegular (.inr rfl) two) (regularEach ih)
  | any two each ih => exact regularNode (groupRegular (.inl rfl) two) (regularEach ih)

/-- The kinds of the nodes of stages that filter no labels. -/
def plainStageKinds : List Text :=
  [Kind.lineFilterExpression, Kind.lineFilterOperator, Kind.parserExpression, Kind.parserFnName,
    Kind.parserParam, Kind.labelFilterPipeline, Kind.complexLabelFilterExpression,
    Kind.lineFormatExpression, Kind.labelsFormatExpression, Kind.labelsFormatRule, Kind.label,
    Kind.quotedStr]

theorem stageRegular (s : Stage) : RegularIn [s.node] := by
  have plain : ∀ k ∈ plainStageKinds, k ∉ ruledKinds := by
    simp [plainStageKinds,ruledKinds,Kind.lineFilterExpression,Kind.lineFilterOperator,
      Kind.parserExpression,Kind.parserFnName,Kind.parserParam,Kind.labelFilterPipeline,
      Kind.complexLabelFilterExpression,Kind.lineFormatExpression,Kind.labelsFormatExpression,
      Kind.labelsFormatRule,Kind.label,Kind.quotedStr,Kind.logStreamSelector,Kind.logPipeline,
      Kind.labelFilterOr,Kind.labelFilterAnd,Kind.simpleLabelFilter]
  have below {cs : List Node} (inside : kindsIn cs ⊆ plainStageKinds) : RegularIn cs :=
    regularPlain fun k mem => plain k (inside mem)
  cases s with
  | line operator text known => exact below (by simp [Stage.node,plainStageKinds])
  | json params =>
    have inside : kindsIn (params.map paramNode) ⊆ plainStageKinds := by
      refine kindsInSubset fun c mem => ?_
      obtain ⟨p,_,rfl⟩ := List.mem_map.mp mem
      simp [paramNode,plainStageKinds]
    refine below ?_
    simp only [Stage.node,parserNode,kindsInCons,kindsMk,kindsInNil,kindMk,kindLeaf,kindsLeaf,
      List.nil_append,List.append_nil,List.cons_subset,inside]
    simp [plainStageKinds]
  | logfmt => exact below (by simp [Stage.node,parserNode,plainStageKinds])
  | regexp pattern => exact below (by simp [Stage.node,parserNode,plainStageKinds])
  | filter body form =>
    refine regularNode (plainRegular ?_) (regularNode (plainRegular ?_) (filterRegular form))
    · exact plain _ (by simp [Stage.node,plainStageKinds])
    · exact plain _ (by simp [plainStageKinds])
  | lineFormat template => exact below (by simp [Stage.node,plainStageKinds])
  | labelsFormat rules =>
    have inside : kindsIn (rules.map labelRuleNode) ⊆ plainStageKinds := by
      refine kindsInSubset fun c mem => ?_
      obtain ⟨⟨label,source⟩,_,rfl⟩ := List.mem_map.mp mem
      cases source <;> simp [labelRuleNode,LabelSource.node,plainStageKinds]
    refine below ?_
    simp only [Stage.node,kindsInCons,kindsMk,kindsInNil,kindMk,List.append_nil,List.cons_subset,
      inside]
    simp [plainStageKinds]

theorem pipelineRegular (s : Stage) : RegularIn [pipelineNode s] := by
  refine regularNode ⟨fun same => ?_,fun _ => ⟨s.node,rfl,?_⟩,fun same => ?_,fun same => ?_⟩
    (stageRegular s)
  · simp [pipelineNode,Kind.logPipeline,Kind.logStreamSelector] at same
  · cases s <;> simp [Stage.node,parserNode,stageHeads]
  · simp [pipelineNode,Kind.logPipeline,Kind.labelFilterOr,Kind.labelFilterAnd] at same
  · simp [pipelineNode,Kind.logPipeline,Kind.simpleLabelFilter] at same

theorem selectorRegular (s : Source) :
    RegularIn [.mk Kind.logStreamSelector [] (s.rules.map Rule.node)] := by
  have rules : RegularIn (s.rules.map Rule.node) := by
    refine regularEach fun c mem => regularPlain ?_
    obtain ⟨r,_,rfl⟩ := List.mem_map.mp mem
    simp [Rule.node,ruledKinds,Kind.logStreamSelectorRule,Kind.label,Kind.operator,Kind.quotedStr,
      Kind.logStreamSelector,Kind.logPipeline,Kind.labelFilterOr,Kind.labelFilterAnd,
      Kind.simpleLabelFilter]
  refine regularNode ⟨fun _ => ⟨?_,fun c mem => ?_⟩,fun same => ?_,fun same => ?_,fun same => ?_⟩ rules
  · simpa using s.some
  · obtain ⟨r,_,rfl⟩ := List.mem_map.mp mem
    exact .intro r.label r.value r.known
  · simp [Kind.logPipeline,Kind.logStreamSelector] at same
  · simp [Kind.logStreamSelector,Kind.labelFilterOr,Kind.labelFilterAnd] at same
  · simp [Kind.logStreamSelector,Kind.simpleLabelFilter] at same

theorem sourceRegular (s : Source) : RegularIn s.nodes := by
  refine regularEach fun c mem => ?_
  rcases List.mem_cons.mp mem with rfl | later
  · exact selectorRegular s
  · obtain ⟨stage,_,rfl⟩ := List.mem_map.mp later
    exact pipelineRegular stage

/-- Outside its selector a matrix has no nodes of the kinds that selectors and pipelines have. -/
theorem matrixRegular (m : Matrix) (ranking : Option Ranking) (threshold : Option Threshold) :
    RegularIn (matrix m ranking threshold).children := by
  have outside : ∀ k ∈ ruledKinds, k ∉ shellKinds := by
    simp [ruledKinds,shellKinds,aroundKinds,restKinds,plainKinds,familyKinds,Kind.logStreamSelector,
      Kind.logPipeline,Kind.labelFilterOr,Kind.labelFilterAnd,Kind.simpleLabelFilter,
      Kind.aggStatement,Kind.parameterizedExpression,Kind.parameterizedExpressionFn,
      Kind.parameterValue,Kind.comparedAggStatementCmp,Kind.numberOperator,Kind.boolModifier,
      Kind.numberValue,Kind.unwrapValueStatement,Kind.unwrapExpression,Kind.unwrapStatement,
      Kind.unwrapConversion,Kind.durationValue,Kind.optByWithoutUnwrap,Kind.byWithout,Kind.label,
      Kind.unwrapFn,Kind.parameterizedUnwrappedFn,Kind.aggregationOperator,Kind.unwrapFunction,
      Kind.logRangeAggregation,Kind.parameterizedUnwrapped,Kind.logRangeAggregationFn,
      Kind.aggregationOperatorFn,Kind.optByWithout]
  intro n mem
  by_cases ruled : n.kind ∈ ruledKinds
  · have found : n ∈ (matrix m ranking threshold).node.findAll n.kind := by
      rw [findAllFilter]
      exact List.mem_filter.mpr ⟨mem,by simp⟩
    rw [matrixSource (outside _ ruled),findAllInFilter] at found
    exact sourceRegular m.source n (List.mem_filter.mp found).1
  · exact plainRegular ruled

/-! ### Ranges -/

theorem sourceSelectors (s : Source) :
    findAllIn Kind.logStreamSelector s.nodes =
      [.mk Kind.logStreamSelector [] (s.rules.map Rule.node)] := by
  have rules : findAllIn Kind.logStreamSelector (s.rules.map Rule.node) = [] := by
    refine findAllInAbsent _ fun found => ?_
    obtain ⟨m,mem,kind⟩ := List.mem_map.mp found
    obtain ⟨c,inside,at_⟩ := descendantsInMem mem
    obtain ⟨r,_,rfl⟩ := List.mem_map.mp inside
    simp [Rule.node] at at_
    rcases at_ with rfl | rfl | rfl | rfl <;>
      simp [Kind.logStreamSelector,Kind.logStreamSelectorRule,Kind.label,Kind.operator,
        Kind.quotedStr] at kind
  have stages : findAllIn Kind.logStreamSelector (s.stages.map pipelineNode) = [] := by
    refine findAllInAbsent _ fun found => ?_
    rcases List.mem_cons.mp (stagesKinds s.stages found) with same | inside
    · simp [Kind.logStreamSelector,Kind.logPipeline] at same
    · exact selectorAbsent _ (by simp) inside
  simp [Source.nodes,rules,stages]

theorem sourceNoLength (s : Source) :
    s.nodes.filter (fun c => c.kind = Kind.durationValue) = [] := by
  have past := sourceChildren (k := Kind.durationValue) s
    (by simp [Kind.durationValue,Kind.logStreamSelector])
    (by simp [Kind.durationValue,Kind.logPipeline])
  exact List.filter_eq_nil_iff.mpr (List.find?_eq_none.mp past)

theorem logRangeNode (fn : Text) (known : fn ∈ logRangeFunctions) (s : Source) (span : Span) :
    RangeNode (Range.log fn known s span).node := by
  obtain ⟨nanos,read,positive⟩ := span.positive
  refine ⟨⟨_,fn,_,by simp [Range.node,rangeNames],rfl,known⟩,?_,⟨span.text,nanos,?_,read,positive⟩,?_⟩
  · simp only [Range.node,findAllMk,List.cons_append,findAllInCons,findAllInAppend,sourceSelectors]
    simp [Kind.logRangeAggregationFn,Kind.durationValue,Kind.logStreamSelector]
  · simp only [Range.node,childrenMk,List.cons_append,List.filter_cons,List.filter_append,
      sourceNoLength]
    simp [Kind.logRangeAggregationFn,Kind.durationValue]
  · have expression := sourceOuter (k := Kind.unwrapExpression) (by simp [outerKinds]) s
    have value := sourceOuter (k := Kind.unwrapValueStatement) (by simp [outerKinds]) s
    simp only [Range.node,findAllMk,List.cons_append,findAllInCons,findAllInAppend,expression,value]
    simp [Kind.logRangeAggregationFn,Kind.durationValue,Kind.unwrapExpression,
      Kind.unwrapValueStatement]

section Unwraps

variable {n : Node} {u : Unwrapped}

theorem Unwraps.selectors (h : Unwraps n u) : (n.findAll Kind.logStreamSelector).length = 1 := by
  have outside : Kind.logStreamSelector ∉ plainKinds ∧ Kind.logStreamSelector ∉ restKinds := by
    simp [plainKinds,restKinds,Kind.logStreamSelector,Kind.unwrapFn,Kind.parameterizedUnwrappedFn,
      Kind.parameterValue,Kind.unwrapValueStatement,Kind.unwrapExpression,Kind.unwrapStatement,
      Kind.unwrapConversion,Kind.durationValue,Kind.optByWithoutUnwrap,Kind.byWithout,Kind.label]
  rw [h.findAll outside.1,sourceSelectors,
    findAllInAbsent u.rest fun found => outside.2 (restKindsOf u found)]
  rfl

theorem Unwraps.length (h : Unwraps n u) :
    n.children.filter (·.kind = Kind.durationValue) = [.leaf Kind.durationValue u.span.text] := by
  obtain ⟨kind,leaves,rfl,plain⟩ := h.split
  have none : leaves.filter (fun c => c.kind = Kind.durationValue) = [] := by
    refine List.filter_eq_nil_iff.mpr fun c mem same => ?_
    have kind := kindInside plain mem
    rw [of_decide_eq_true same] at kind
    exact plainAbsent _ (by simp) kind
  rw [childrenMk,unwrappedNodes,List.filter_append,List.filter_append,none,sourceNoLength,
    Unwrapped.rest]
  cases u.clause <;> cases u.grouping <;>
    simp [Unwrap.node,Grouping.node,Kind.optByWithoutUnwrap,Kind.durationValue,
      Kind.unwrapValueStatement,Kind.unwrapExpression]

theorem Unwraps.clauses (h : Unwraps n u) :
    n.findAll Kind.unwrapExpression ++ n.findAll Kind.unwrapValueStatement = [u.clause.node] := by
  have grouping {k : Text} (absent : k ∉ [Kind.optByWithoutUnwrap, Kind.byWithout, Kind.label]) :=
    groupingAbsent absent u.grouping
  rw [h.findAll (plainAbsent _ (by simp)),h.findAll (plainAbsent _ (by simp)),
    sourceOuter (by simp [outerKinds]),sourceOuter (by simp [outerKinds]),Unwrapped.rest,
    findAllInAppend,findAllInAppend,
    grouping (k := Kind.unwrapExpression) (by
      simp [Kind.unwrapExpression,Kind.optByWithoutUnwrap,Kind.byWithout,Kind.label]),
    grouping (k := Kind.unwrapValueStatement) (by
      simp [Kind.unwrapValueStatement,Kind.optByWithoutUnwrap,Kind.byWithout,Kind.label])]
  cases u.clause <;>
    simp [Unwrap.node,Kind.unwrapValueStatement,Kind.unwrapExpression,Kind.unwrapStatement,
      Kind.unwrapConversion,Kind.durationValue,Kind.label]

theorem Unwraps.range (h : Unwraps n u) {k fn : Text} {fns : List Text}
    (kind : (n.kind,k,fns) ∈ rangeNames) (numbers : n.kind ≠ Kind.logRangeAggregation)
    (name : n.children.head? = some (.leaf k fn)) (known : fn ∈ fns) : RangeNode n := by
  obtain ⟨nanos,read,positive⟩ := u.span.positive
  refine ⟨⟨k,fn,fns,kind,name,known⟩,h.selectors,⟨_,nanos,h.length,read,positive⟩,?_⟩
  rw [h.clauses,if_neg numbers]
  rfl

end Unwraps

theorem rangeNode (r : Range) : RangeNode r.node := by
  cases r with
  | log fn known s span => exact logRangeNode fn known s span
  | unwrap fn known u =>
    exact (rangeUnwraps fn known u).range (by simp [Range.node,rangeNames])
      (by simp [Range.node,Kind.unwrapFunction,Kind.logRangeAggregation]) rfl known

/-- The range that a matrix is computed from. -/
def Matrix.rangeNode : Matrix → Node
  | range r => r.node
  | quantile fn known x u => (Matrix.quantile fn known x u).node
  | aggregate _ _ _ r => r.node

theorem matrixRangeNode (m : Matrix) : RangeNode m.rangeNode := by
  cases m with
  | range r => exact rangeNode r
  | quantile fn known x u =>
    exact (quantileUnwraps fn known x u).range (by simp [Matrix.node,rangeNames])
      (by simp [Matrix.node,Kind.parameterizedUnwrapped,Kind.logRangeAggregation])
      rfl known
  | aggregate fn known g r => exact rangeNode r

/-- A matrix has one range; an operator over it is none itself. -/
theorem matrixRanges (m : Matrix) (ranking : Option Ranking) (threshold : Option Threshold) :
    (matrix m ranking threshold).node.ranges = [m.rangeNode] := by
  have found {k : Text} (family : k ∈ familyKinds) (range : k ≠ Kind.aggregationOperator) :
      (matrix m ranking threshold).node.findAll k =
        if m.rangeNode.kind = k then [m.rangeNode] else [] := by
    rw [matrixFindAll (familyAround family)]
    cases m with
    | range r =>
      rw [Matrix.node,rangeFamily r family]
      exact List.append_nil _
    | quantile fn known x u =>
      rw [unwrapsFamily (quantileUnwraps fn known x u) family]
      exact List.append_nil _
    | aggregate fn known g r =>
      have outer : (Matrix.aggregate fn known g r).node.kind ≠ k := range.symm
      rw [aggregateFamily fn known g r family,if_neg outer]
      rfl
  have kind : m.rangeNode.kind = Kind.logRangeAggregation ∨ m.rangeNode.kind = Kind.unwrapFunction ∨
      m.rangeNode.kind = Kind.parameterizedUnwrapped := by
    cases m with
    | range r => exact (rangeKind r).imp_right .inl
    | quantile fn known x u => exact .inr (.inr rfl)
    | aggregate fn known g r => exact (rangeKind r).imp_right .inl
  have log := found (k := Kind.logRangeAggregation) (by simp [familyKinds])
    (by simp [Kind.logRangeAggregation,Kind.aggregationOperator])
  have unwrap := found (k := Kind.unwrapFunction) (by simp [familyKinds])
    (by simp [Kind.unwrapFunction,Kind.aggregationOperator])
  have quantile := found (k := Kind.parameterizedUnwrapped) (by simp [familyKinds])
    (by simp [Kind.parameterizedUnwrapped,Kind.aggregationOperator])
  simp only [ranges,rangeNames,List.flatMap_cons,List.flatMap_nil,log,unwrap,quantile]
  rcases kind with kind | kind | kind <;>
    simp [kind,Kind.logRangeAggregation,Kind.unwrapFunction,Kind.parameterizedUnwrapped]

theorem rowsRanges (s : Source) : (rows s).node.ranges = [] := by
  have log := sourceOuter (k := Kind.logRangeAggregation) (by simp [outerKinds]) s
  have unwrap := sourceOuter (k := Kind.unwrapFunction) (by simp [outerKinds]) s
  have quantile := sourceOuter (k := Kind.parameterizedUnwrapped) (by simp [outerKinds]) s
  simp [ranges,rangeNames,node,children,log,unwrap,quantile]

/-! ### Queries -/

theorem callConforms {macros : List Text} {name : Text} {args : List Text} (known : name ∈ macros) :
    Conforms macros (call name args).node := by
  have called : (call name args).node.find? Kind.userMacro ≠ none := by simp [callFound]
  refine ⟨rfl,.call (.intro known fun a mem => ?_),fun none => absurd none called,
    fun none => absurd none called,fun none => absurd none called,fun none => absurd none called⟩
  obtain ⟨t,_,rfl⟩ := List.mem_map.mp mem
  rfl

theorem rowsConforms (macros : List Text) (s : Source) : Conforms macros (rows s).node := by
  refine ⟨rfl,.rows rfl fun p mem => ?_,fun _ => sourceRegular s,fun _ => ?_,fun _ => ?_,
    fun _ n mem => ?_⟩
  · obtain ⟨stage,_,rfl⟩ := List.mem_map.mp mem
    rfl
  · simp [rowsRanges]
  · simp [rowsRanges,rowsOuter s (k := Kind.aggStatement) (by simp [outerKinds])]
  · simp [rowsRanges] at mem

theorem matrixConforms (macros : List Text) (m : Matrix) (ranking : Option Ranking)
    (threshold : Option Threshold) : Conforms macros (matrix m ranking threshold).node := by
  refine ⟨rfl,?_,fun _ => matrixRegular m ranking threshold,fun _ => ?_,fun _ => ?_,fun _ n mem => ?_⟩
  · have top (comparison : Option Node) (last : ∀ c ∈ comparison, c.kind = Kind.comparedAggStatementCmp) :
        Top macros (statementNode m ranking :: comparison.toList) := by
      cases ranking with
      | none => exact .matrix rfl last
      | some r => exact .matrix rfl last
    have compared := top (threshold.map Threshold.node) (by
      cases threshold <;> simp [Threshold.node])
    cases threshold <;> exact compared
  · simp [matrixRanges]
  · simp [matrixRanges,matrixStatement]
  · rw [matrixRanges,List.mem_singleton] at mem
    rw [mem]
    exact matrixRangeNode m

end Form

/-- Every tree that is read conforms to the schema. -/
theorem parsedConforms {macros : List Text} {t : Text} {root : Node}
    (ok : parse macros t = .ok root) : Conforms macros root := by
  obtain ⟨q,rfl,known⟩ := parseForm ok
  cases q with
  | call name args => exact Form.callConforms known
  | rows s => exact Form.rowsConforms macros s
  | matrix m ranking threshold => exact Form.matrixConforms macros m ranking threshold

/-- A ranking of compared sums over a filtered selector. -/
def rankedErrors : Text :=
  "topk(2, sum by (app) (rate(\x7bapp=\"api\"\x7d | json | level=~\"e.*\" or size > 1KB [1m]))) > 1"

theorem rankedErrorsConform : ∃ root, parse [] rankedErrors = .ok root ∧ Conforms [] root ∧
    root.find? Kind.userMacro = none ∧ root.ranges.length = 1 := by
  obtain ⟨root,ok,facts⟩ := okAny (x := parse [] rankedErrors)
    (p := fun root => (root.find? Kind.userMacro).isNone && root.ranges.length = 1)
    (by decide +kernel)
  simp only [Bool.and_eq_true,decide_eq_true_eq,Option.isNone_iff_eq_none] at facts
  exact ⟨root,ok,parsedConforms ok,facts⟩

end LogSql.Query
