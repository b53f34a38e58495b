import LogSql.Compile.Engine
import LogSql.Proofs.Query.Lookup

/-! The families of forms. A matrix is classified by its outermost function, its range is the one its
selector is read over, and the trailing modifiers are those that the form has. -/
namespace LogSql.Query.Form

open Node Compile

/-! ### The parts of a matrix -/

def Range.source : Range → Source
  | log _ _ source _ => source
  | unwrap _ _ body => body.source

def Range.span : Range → Span
  | log _ _ _ span => span
  | unwrap _ _ body => body.span

/-- The selector that a matrix is computed from. -/
def Matrix.source : Matrix → Source
  | range r => r.source
  | quantile _ _ _ body => body.source
  | aggregate _ _ _ r => r.source

/-- The length of the buckets of a matrix. -/
def Matrix.span : Matrix → Span
  | range r => r.span
  | quantile _ _ _ body => body.span
  | aggregate _ _ _ r => r.span

def Matrix.family : Matrix → Family
  | range (.log ..) => .logRange
  | range (.unwrap ..) => .unwrap
  | quantile .. => .parameterizedUnwrapped
  | aggregate .. => .aggregation

/-- Whether a range counts rows or bytes, and does not combine numbers. -/
def Range.counts : Range → Bool
  | log .. => true
  | unwrap .. => false

@[inherit_doc Range.counts]
def Matrix.counts : Matrix → Bool
  | range r => r.counts
  | quantile .. => false
  | aggregate _ _ _ r => r.counts

/-! ### Ranges -/

theorem spanRange {n : Node} {t : Text}
    (child : n.child? Kind.durationValue = some (.leaf Kind.durationValue t)) :
    rangeOf n = durationMs t := by
  obtain ⟨kind,value,children⟩ := n
  rw [rangeOf]
  simp only [child?,childrenMk] at child
  rw [child]
  rfl

theorem logRangeSpan (fn : Text) (known : fn ∈ logRangeFunctions) (s : Source) (span : Span) :
    (Range.log fn known s span).node.child? Kind.durationValue =
      some (.leaf Kind.durationValue span.text) := by
  have past := sourceChildren (k := Kind.durationValue) s
    (by simp [Kind.durationValue,Kind.logStreamSelector])
    (by simp [Kind.durationValue,Kind.logPipeline])
  simp only [child?,Range.node,childrenMk,List.cons_append,List.find?_cons,List.find?_append,past]
  simp [Kind.logRangeAggregationFn,Kind.durationValue]

theorem rangeRange (r : Range) : rangeOf r.node = durationMs r.span.text := by
  cases r with
  | log fn known s span => exact spanRange (logRangeSpan fn known s span)
  | unwrap fn known u => exact spanRange (rangeUnwraps fn known u).span

theorem rangeKind (r : Range) :
    r.node.kind = Kind.logRangeAggregation ∨ r.node.kind = Kind.unwrapFunction := by
  cases r <;> simp [Range.node]

theorem matrixRange (m : Matrix) : rangeOf m.node = durationMs m.span.text := by
  cases m with
  | range r => exact rangeRange r
  | quantile fn known x u => exact spanRange (quantileUnwraps fn known x u).span
  | aggregate fn known g r =>
    -- Neither the name nor the clause of an operator is a range, so its function gives the range.
    have inner := rangeRange r
    rcases rangeKind r with kind | kind <;> cases g <;>
      simp [Matrix.node,Grouping.node,rangeOf,rangeIn,kind,inner,isRanged,Matrix.span,
        Kind.aggregationOperatorFn,Kind.durationValue,Kind.optByWithout,Kind.logRangeAggregation,
        Kind.unwrapFunction,Kind.parameterizedUnwrapped]

/-! ### Operators -/

section Aggregate

variable (fn : Text) (known : fn ∈ aggregationFunctions) (g : Option Grouping)

@[simp] theorem aggregateName (r : Range) :
    (Matrix.aggregate fn known g r).node.valueOf Kind.aggregationOperatorFn = fn := by
  simp [Matrix.node,valueOfHead]

theorem aggregateGrouping (r : Range) :
    (Matrix.aggregate fn known g r).node.child? Kind.optByWithout =
      g.map (Grouping.node Kind.optByWithout) := by
  rcases rangeKind r with kind | kind <;> cases g <;>
    simp [Matrix.node,Grouping.node,child?,kind,Kind.aggregationOperatorFn,Kind.optByWithout,
      Kind.logRangeAggregation,Kind.unwrapFunction]

theorem aggregateLog (rangeFn : Text) (range : rangeFn ∈ logRangeFunctions) (s : Source)
    (span : Span) :
    (Matrix.aggregate fn known g (.log rangeFn range s span)).node.child? Kind.logRangeAggregation =
      some (Range.log rangeFn range s span).node := by
  cases g <;>
    simp [Matrix.node,Range.node,Grouping.node,child?,Kind.aggregationOperatorFn,Kind.optByWithout,
      Kind.logRangeAggregation]

theorem aggregateUnwrap (rangeFn : Text) (range : rangeFn ∈ unwrapFunctions) (u : Unwrapped) :
    (Matrix.aggregate fn known g (.unwrap rangeFn range u)).node.child? Kind.logRangeAggregation =
        none ∧
      (Matrix.aggregate fn known g (.unwrap rangeFn range u)).node.child? Kind.unwrapFunction =
        some (Range.unwrap rangeFn range u).node := by
  cases g <;>
    simp [Matrix.node,Range.node,Grouping.node,child?,Kind.aggregationOperatorFn,Kind.optByWithout,
      Kind.logRangeAggregation,Kind.unwrapFunction]

end Aggregate

/-! ### Queries -/

/-- The kinds of the families. -/
def familyKinds : List Text :=
  [Kind.aggregationOperator, Kind.unwrapFunction, Kind.logRangeAggregation,
    Kind.parameterizedUnwrapped]

theorem familyOuter {k : Text} (family : k ∈ familyKinds) : k ∈ outerKinds := by
  simp only [familyKinds,List.mem_cons,List.not_mem_nil,or_false] at family
  rcases family with rfl | rfl | rfl | rfl <;> simp [outerKinds]

theorem unwrapsFamily {n : Node} {u : Unwrapped} (h : Unwraps n u) {k : Text}
    (family : k ∈ familyKinds) : n.findAll k = [] := by
  have plain : k ∉ plainKinds := by
    simp only [familyKinds,List.mem_cons,List.not_mem_nil,or_false] at family
    rcases family with rfl | rfl | rfl | rfl <;>
      simp [plainKinds,Kind.aggregationOperator,Kind.unwrapFunction,Kind.logRangeAggregation,
        Kind.parameterizedUnwrapped,Kind.unwrapFn,Kind.parameterizedUnwrappedFn,Kind.parameterValue]
  have rest : k ∉ restKinds := by
    simp only [familyKinds,List.mem_cons,List.not_mem_nil,or_false] at family
    rcases family with rfl | rfl | rfl | rfl <;>
      simp [restKinds,Kind.aggregationOperator,Kind.unwrapFunction,Kind.logRangeAggregation,
        Kind.parameterizedUnwrapped,Kind.unwrapValueStatement,Kind.unwrapExpression,
        Kind.unwrapStatement,Kind.unwrapConversion,Kind.durationValue,Kind.optByWithoutUnwrap,
        Kind.byWithout,Kind.label]
  rw [h.findAll plain,sourceOuter (familyOuter family),
    findAllInAbsent _ fun found => rest (restKindsOf u found)]
  rfl

theorem rangeFamily (r : Range) {k : Text} (family : k ∈ familyKinds) : r.node.findAll k = [] := by
  cases r with
  | log fn known s span =>
    simp only [Range.node,findAllMk,List.cons_append,findAllInCons,findAllInAppend,
      sourceOuter (familyOuter family)]
    simp only [familyKinds,List.mem_cons,List.not_mem_nil,or_false] at family
    rcases family with rfl | rfl | rfl | rfl <;>
      simp [Kind.aggregationOperator,Kind.unwrapFunction,Kind.logRangeAggregation,
        Kind.parameterizedUnwrapped,Kind.logRangeAggregationFn,Kind.durationValue]
  | unwrap fn known u => exact unwrapsFamily (rangeUnwraps fn known u) family

/-- The kinds of the nodes around a matrix. -/
def aroundKinds : List Text :=
  [Kind.aggStatement, Kind.parameterizedExpression, Kind.parameterizedExpressionFn,
    Kind.parameterValue, Kind.comparedAggStatementCmp, Kind.numberOperator, Kind.boolModifier,
    Kind.numberValue]

theorem matrixFindAll {k : Text} (absent : k ∉ aroundKinds) (m : Matrix) (ranking : Option Ranking)
    (threshold : Option Threshold) :
    (matrix m ranking threshold).node.findAll k =
      (if m.node.kind = k then [m.node] else []) ++ m.node.findAll k := by
  have around : ∀ kind ∈ aroundKinds, kind ≠ k := fun kind mem same => absent (same ▸ mem)
  simp only [aroundKinds,List.forall_mem_cons] at around
  have trailing : findAllIn k (threshold.toList.map Threshold.node) = [] := by
    cases threshold with
    | none => rfl
    | some t =>
      by_cases marked : t.marked <;> simp [Threshold.node,marked,around]
  cases ranking <;> simp [node,children,statementNode,trailing,around]

theorem familyAround {k : Text} (family : k ∈ familyKinds) : k ∉ aroundKinds := by
  simp only [familyKinds,List.mem_cons,List.not_mem_nil,or_false] at family
  rcases family with rfl | rfl | rfl | rfl <;>
    simp [aroundKinds,Kind.aggregationOperator,Kind.unwrapFunction,Kind.logRangeAggregation,
      Kind.parameterizedUnwrapped,Kind.aggStatement,Kind.parameterizedExpression,
      Kind.parameterizedExpressionFn,Kind.parameterValue,Kind.comparedAggStatementCmp,
      Kind.numberOperator,Kind.boolModifier,Kind.numberValue]

theorem aggregateFamily (fn : Text) (known : fn ∈ aggregationFunctions) (g : Option Grouping)
    (r : Range) {k : Text} (family : k ∈ familyKinds) :
    (Matrix.aggregate fn known g r).node.findAll k = if r.node.kind = k then [r.node] else [] := by
  have inner := rangeFamily r family
  have clause : findAllIn k (g.toList.map (Grouping.node Kind.optByWithout)) = [] := by
    refine findAllInAbsent _ fun found => ?_
    have kind := groupingKinds _ _ found
    simp only [List.mem_cons,List.not_mem_nil,or_false] at kind
    rcases kind with rfl | rfl | rfl <;>
      simp [familyKinds,Kind.aggregationOperator,Kind.unwrapFunction,Kind.logRangeAggregation,
        Kind.parameterizedUnwrapped,Kind.optByWithout,Kind.byWithout,Kind.label] at family
  simp only [Matrix.node,findAllMk,List.cons_append,findAllInCons,findAllInAppend,clause,inner]
  have name : Kind.aggregationOperatorFn ≠ k := by
    simp only [familyKinds,List.mem_cons,List.not_mem_nil,or_false] at family
    rcases family with rfl | rfl | rfl | rfl <;>
      simp [Kind.aggregationOperator,Kind.unwrapFunction,Kind.logRangeAggregation,
        Kind.parameterizedUnwrapped,Kind.aggregationOperatorFn]
  simp [name]

/-- The family of a matrix is that of its outermost function. -/
theorem classifyMatrix (m : Matrix) (ranking : Option Ranking) (threshold : Option Threshold) :
    classify (matrix m ranking threshold).node = some (m.family, m.node) := by
  have found {k : Text} (family : k ∈ familyKinds) :=
    matrixFindAll (familyAround family) m ranking threshold
  have aggregation := found (k := Kind.aggregationOperator) (by simp [familyKinds])
  have unwrap := found (k := Kind.unwrapFunction) (by simp [familyKinds])
  have logRange := found (k := Kind.logRangeAggregation) (by simp [familyKinds])
  have quantile := found (k := Kind.parameterizedUnwrapped) (by simp [familyKinds])
  simp only [classify,List.findSome?_cons,Family.kind,findHead,aggregation,unwrap,logRange,quantile]
  cases m with
  | range r =>
    have none {k : Text} (family : k ∈ familyKinds) := rangeFamily r family
    simp only [Matrix.node,none (k := Kind.aggregationOperator) (by simp [familyKinds]),
      none (k := Kind.unwrapFunction) (by simp [familyKinds]),
      none (k := Kind.logRangeAggregation) (by simp [familyKinds])]
    cases r <;>
      simp [Matrix.family,Range.node,Kind.aggregationOperator,Kind.unwrapFunction,
        Kind.logRangeAggregation]
  | quantile fn known x u =>
    have none {k : Text} (family : k ∈ familyKinds) :=
      unwrapsFamily (quantileUnwraps fn known x u) family
    simp only [none (k := Kind.aggregationOperator) (by simp [familyKinds]),
      none (k := Kind.unwrapFunction) (by simp [familyKinds]),
      none (k := Kind.logRangeAggregation) (by simp [familyKinds]),
      none (k := Kind.parameterizedUnwrapped) (by simp [familyKinds])]
    simp [Matrix.family,Matrix.node,Kind.aggregationOperator,Kind.unwrapFunction,
      Kind.logRangeAggregation,Kind.parameterizedUnwrapped]
  | aggregate fn known g r => simp [Matrix.family,Matrix.node]

theorem matrixCounts (m : Matrix) (ranking : Option Ranking) (threshold : Option Threshold) :
    ((matrix m ranking threshold).node.find? Kind.logRangeAggregation).isSome = m.counts := by
  have family : Kind.logRangeAggregation ∈ familyKinds := by simp [familyKinds]
  have range (r : Range) : decide (r.node.kind = Kind.logRangeAggregation) = r.counts := by
    cases r <;> simp [Range.node,Range.counts,Kind.unwrapFunction,Kind.logRangeAggregation]
  rw [findHead,matrixFindAll (familyAround family)]
  cases m with
  | range r =>
    rw [Matrix.node,rangeFamily r family,Matrix.counts,← range r]
    split <;> simp_all
  | quantile fn known x u =>
    rw [unwrapsFamily (quantileUnwraps fn known x u) family]
    simp [Matrix.node,Matrix.counts,Kind.parameterizedUnwrapped,Kind.logRangeAggregation]
  | aggregate fn known g r =>
    rw [aggregateFamily fn known g r family,Matrix.counts,← range r]
    split <;> split <;> simp_all [Matrix.node,Kind.aggregationOperator,Kind.logRangeAggregation]

theorem rowsOuter (s : Source) {k : Text} (outer : k ∈ outerKinds) : (rows s).node.find? k = none :=
  findNone (sourceOuter outer s)

theorem classifyRows (s : Source) : classify (rows s).node = none := by
  simp [classify,Family.kind,rowsOuter s (k := Kind.aggregationOperator) (by simp [outerKinds]),
    rowsOuter s (k := Kind.unwrapFunction) (by simp [outerKinds]),
    rowsOuter s (k := Kind.logRangeAggregation) (by simp [outerKinds]),
    rowsOuter s (k := Kind.parameterizedUnwrapped) (by simp [outerKinds])]

/-! ### Modifiers -/

/-- The kinds of the nodes inside a matrix. -/
def matrixKinds : List Text :=
  sourceKinds ++ restKinds ++ plainKinds ++
    [Kind.logRangeAggregation, Kind.logRangeAggregationFn, Kind.unwrapFunction,
      Kind.aggregationOperatorFn, Kind.optByWithout]

theorem unwrapsKinds {n : Node} {u : Unwrapped} (h : Unwraps n u) : n.kinds ⊆ matrixKinds := by
  obtain ⟨kind,leaves,rfl,plain⟩ := h.split
  have source := sourceKindsOf u.source
  have rest := restKindsOf u
  intro k mem
  simp only [kindsMk,unwrappedNodes,kindsInAppend,List.mem_append] at mem
  simp only [matrixKinds,List.mem_append]
  rcases mem with inside | inside | inside
  · exact .inl (.inr (plain inside))
  · exact .inl (.inl (.inl (source inside)))
  · exact .inl (.inl (.inr (rest inside)))

theorem rangeKinds (r : Range) : r.node.kinds ⊆ matrixKinds := by
  cases r with
  | log fn known s span =>
    have source : kindsIn s.nodes ⊆ matrixKinds := fun k mem => by
      simp [matrixKinds,sourceKindsOf s mem]
    simp only [Range.node,kindsMk,List.cons_append,kindsInCons,kindsInAppend,kindsInNil,kindsLeaf,
      kindLeaf,List.nil_append,List.cons_subset,List.append_subset,source]
    simp [matrixKinds,restKinds]
  | unwrap fn known u => exact unwrapsKinds (rangeUnwraps fn known u)

theorem matrixKindsOf (m : Matrix) : m.node.kinds ⊆ matrixKinds := by
  cases m with
  | range r => exact rangeKinds r
  | quantile fn known x u => exact unwrapsKinds (quantileUnwraps fn known x u)
  | aggregate fn known g r =>
    have clause : kindsIn (g.toList.map (Grouping.node Kind.optByWithout)) ⊆ matrixKinds :=
      fun k mem => by
        have kind := groupingKinds _ _ mem
        simp only [List.mem_cons,List.not_mem_nil,or_false] at kind
        rcases kind with rfl | rfl | rfl <;> simp [matrixKinds,restKinds]
    have range : r.node.kind ∈ matrixKinds := by
      rcases rangeKind r with kind | kind <;> simp [kind,matrixKinds]
    simp only [Matrix.node,kindsMk,List.cons_append,kindsInCons,kindsInAppend,kindsInNil,kindsLeaf,
      kindLeaf,List.nil_append,List.append_nil,List.cons_subset,List.append_subset,clause,range,
      rangeKinds r]
    simp [matrixKinds]

theorem matrixKind (m : Matrix) : m.node.kind ∈ familyKinds := by
  cases m with
  | range r => rcases rangeKind r with kind | kind <;> simp [Matrix.node,kind,familyKinds]
  | quantile fn known x u => simp [Matrix.node,familyKinds]
  | aggregate fn known g r => simp [Matrix.node,familyKinds]

/-- The kinds that are found around or instead of a matrix, and never inside one. -/
def modifierKinds : List Text := [Kind.userMacro, Kind.aggStatement, Kind.parameterizedExpression]

theorem modifierAbsent : ∀ k ∈ modifierKinds, k ∉ matrixKinds := by
  intro k modifier inside
  have outer : k ∈ outerKinds := by
    simp only [modifierKinds,List.mem_cons,List.not_mem_nil,or_false] at modifier
    rcases modifier with rfl | rfl | rfl <;> simp [outerKinds]
  have source := outerAbsent k outer
  simp only [modifierKinds,List.mem_cons,List.not_mem_nil,or_false] at modifier
  rcases modifier with rfl | rfl | rfl <;>
    simp [matrixKinds,source] at inside <;>
    simp [restKinds,plainKinds,Kind.userMacro,Kind.aggStatement,Kind.parameterizedExpression,
      Kind.logRangeAggregation,Kind.logRangeAggregationFn,Kind.unwrapFunction,
      Kind.aggregationOperatorFn,Kind.optByWithout,Kind.unwrapFn,Kind.parameterizedUnwrappedFn,
      Kind.parameterValue,Kind.unwrapValueStatement,Kind.unwrapExpression,Kind.unwrapStatement,
      Kind.unwrapConversion,Kind.durationValue,Kind.optByWithoutUnwrap,Kind.byWithout,
      Kind.label] at inside

theorem matrixModifier (m : Matrix) {k : Text} (modifier : k ∈ modifierKinds) :
    m.node.findAll k = [] ∧ m.node.kind ≠ k := by
  refine ⟨findAllAbsent _ fun found => modifierAbsent k modifier (matrixKindsOf m found),?_⟩
  have kind := matrixKind m
  rintro rfl
  simp only [familyKinds,List.mem_cons,List.not_mem_nil,or_false] at kind
  rcases kind with kind | kind | kind | kind <;>
    simp [kind,modifierKinds,Kind.userMacro,Kind.aggStatement,Kind.parameterizedExpression,
      Kind.aggregationOperator,Kind.unwrapFunction,Kind.logRangeAggregation,
      Kind.parameterizedUnwrapped] at modifier

theorem matrixNoCall (m : Matrix) (ranking : Option Ranking) (threshold : Option Threshold) :
    (matrix m ranking threshold).node.find? Kind.userMacro = none := by
  obtain ⟨none,kind⟩ := matrixModifier m (k := Kind.userMacro) (by simp [modifierKinds])
  refine findNone ?_
  rw [matrixFindAll,none,if_neg kind]
  · rfl
  · simp [aroundKinds,Kind.userMacro,Kind.aggStatement,Kind.parameterizedExpression,
      Kind.parameterizedExpressionFn,Kind.parameterValue,Kind.comparedAggStatementCmp,
      Kind.numberOperator,Kind.boolModifier,Kind.numberValue]

theorem rowsNoCall (s : Source) : (rows s).node.find? Kind.userMacro = none :=
  rowsOuter s (by simp [outerKinds])

theorem callFound (name : Text) (args : List Text) :
    (call name args).node.find? Kind.userMacro =
      some (.mk Kind.userMacro name [.mk name name (args.map (.leaf Kind.macroArg))]) := by
  simp [node,children,findHead]

/-- The kinds of the nodes of a matrix that belong to its functions and modifiers. -/
def shellKinds : List Text :=
  aroundKinds ++ restKinds ++ plainKinds ++ familyKinds ++
    [Kind.logRangeAggregationFn, Kind.aggregationOperatorFn, Kind.optByWithout]

/-- Kinds of nodes that only selectors and pipelines have. -/
def innerKinds : List Text :=
  [Kind.logPipeline, Kind.lineFormatExpression, Kind.logStreamSelectorRule, Kind.simpleLabelFilter,
    Kind.lineFilterExpression]

theorem shellAbsent : ∀ k ∈ innerKinds, k ∉ shellKinds := by
  simp [innerKinds,shellKinds,aroundKinds,restKinds,plainKinds,familyKinds,Kind.logPipeline,
    Kind.lineFormatExpression,Kind.logStreamSelectorRule,Kind.simpleLabelFilter,
    Kind.lineFilterExpression,Kind.aggStatement,Kind.parameterizedExpression,
    Kind.parameterizedExpressionFn,Kind.parameterValue,Kind.comparedAggStatementCmp,
    Kind.numberOperator,Kind.boolModifier,Kind.numberValue,Kind.unwrapValueStatement,
    Kind.unwrapExpression,Kind.unwrapStatement,Kind.unwrapConversion,Kind.durationValue,
    Kind.optByWithoutUnwrap,Kind.byWithout,Kind.label,Kind.unwrapFn,Kind.parameterizedUnwrappedFn,
    Kind.aggregationOperator,Kind.unwrapFunction,Kind.logRangeAggregation,Kind.parameterizedUnwrapped,
    Kind.logRangeAggregationFn,Kind.aggregationOperatorFn,Kind.optByWithout]

theorem rangeSource {k : Text} (absent : k ∉ shellKinds) (r : Range) :
    r.node.findAll k = findAllIn k r.source.nodes := by
  simp only [shellKinds,List.mem_append,not_or] at absent
  obtain ⟨⟨⟨⟨_,rest⟩,plain⟩,_⟩,names⟩ := absent
  cases r with
  | log fn known s span =>
    have name : Kind.logRangeAggregationFn ≠ k := fun same => names (by simp [← same])
    have length : Kind.durationValue ≠ k := fun same => rest (by simp [restKinds,← same])
    simp [Range.node,Range.source,name,length]
  | unwrap fn known u =>
    rw [(rangeUnwraps fn known u).findAll plain,
      findAllInAbsent u.rest fun found => rest (restKindsOf u found)]
    exact List.append_nil _

/-- What belongs to neither functions nor modifiers is found in the selector of a matrix. -/
theorem matrixSource {k : Text} (absent : k ∉ shellKinds) (m : Matrix) (ranking : Option Ranking)
    (threshold : Option Threshold) :
    (matrix m ranking threshold).node.findAll k = findAllIn k m.source.nodes := by
  have inside := absent
  simp only [shellKinds,List.mem_append,not_or] at inside
  obtain ⟨⟨⟨⟨around,rest⟩,plain⟩,family⟩,names⟩ := inside
  have outermost : m.node.kind ≠ k := fun same => family (same ▸ matrixKind m)
  rw [matrixFindAll around,if_neg outermost,List.nil_append]
  cases m with
  | range r => exact rangeSource absent r
  | quantile fn known x u =>
    rw [(quantileUnwraps fn known x u).findAll plain,
      findAllInAbsent u.rest fun found => rest (restKindsOf u found)]
    exact List.append_nil _
  | aggregate fn known g r =>
    have name : Kind.aggregationOperatorFn ≠ k := fun same => names (by simp [← same])
    have clause : findAllIn k (g.toList.map (Grouping.node Kind.optByWithout)) = [] := by
      refine findAllInAbsent _ fun found => ?_
      have kind := groupingKinds _ _ found
      simp only [List.mem_cons,List.not_mem_nil,or_false] at kind
      rcases kind with rfl | rfl | rfl
      · exact names (by simp)
      · exact rest (by simp [restKinds])
      · exact rest (by simp [restKinds])
    have range : r.node.kind ≠ k := by
      rintro rfl
      rcases rangeKind r with kind | kind <;> simp [kind,familyKinds] at family
    simp [Matrix.node,Matrix.source,name,clause,range,rangeSource absent]

theorem matrixThreshold (m : Matrix) (ranking : Option Ranking) (threshold : Option Threshold) :
    (matrix m ranking threshold).node.child? Kind.comparedAggStatementCmp =
      threshold.map Threshold.node := by
  cases ranking <;> cases threshold <;>
    simp [node,children,statementNode,child?,Threshold.node,Kind.aggStatement,
      Kind.comparedAggStatementCmp]

theorem rowsThreshold (s : Source) : (rows s).node.child? Kind.comparedAggStatementCmp = none :=
  sourceChildren s (by simp [Kind.comparedAggStatementCmp,Kind.logStreamSelector])
    (by simp [Kind.comparedAggStatementCmp,Kind.logPipeline])

theorem matrixStatement (m : Matrix) (ranking : Option Ranking) (threshold : Option Threshold) :
    (matrix m ranking threshold).node.find? Kind.aggStatement = some (statementNode m ranking) := by
  cases ranking <;> simp [node,children,statementNode,findHead]

/-- The node of a ranking over a matrix. -/
def rankingNode (m : Matrix) (r : Ranking) : Node :=
  .mk Kind.parameterizedExpression []
    [.leaf Kind.parameterizedExpressionFn r.fn, .leaf Kind.parameterValue r.param.text,
      .mk Kind.aggStatement [] [m.node]]

theorem matrixRanking (m : Matrix) (ranking : Option Ranking) (threshold : Option Threshold) :
    (matrix m ranking threshold).node.find? Kind.parameterizedExpression =
      ranking.map (rankingNode m) := by
  obtain ⟨inside,kind⟩ :=
    matrixModifier m (k := Kind.parameterizedExpression) (by simp [modifierKinds])
  have trailing : findAllIn Kind.parameterizedExpression (threshold.toList.map Threshold.node) = [] := by
    cases threshold with
    | none => rfl
    | some t =>
      by_cases marked : t.marked <;>
        simp [Threshold.node,marked,Kind.comparedAggStatementCmp,Kind.numberOperator,
          Kind.boolModifier,Kind.numberValue,Kind.parameterizedExpression]
  cases ranking with
  | none =>
    simp only [node,children,statementNode,findHead,findAllMk,findAllInCons,findAllInNil,inside,kind,
      trailing]
    simp [Kind.aggStatement,Kind.parameterizedExpression]
  | some r =>
    simp only [node,children,statementNode,findHead,findAllMk,findAllInCons,kindMk,if_true]
    simp [rankingNode,Kind.aggStatement,Kind.parameterizedExpression]

theorem rowsRanking (s : Source) : (rows s).node.find? Kind.parameterizedExpression = none :=
  rowsOuter s (by simp [outerKinds])

@[simp] theorem rankingName (m : Matrix) (r : Ranking) :
    (rankingNode m r).valueOf Kind.parameterizedExpressionFn = r.fn := by
  simp [rankingNode,valueOfHead]

@[simp] theorem rankingParameter (m : Matrix) (r : Ranking) :
    (rankingNode m r).valueOf Kind.parameterValue = r.param.text := by
  simp only [rankingNode,valueOfHead,findAllMk,findAllInCons]
  simp [Kind.parameterizedExpressionFn,Kind.parameterValue]

@[simp] theorem thresholdOperator (t : Threshold) : t.node.valueOf Kind.numberOperator = t.operator := by
  simp [Threshold.node,valueOfHead]

@[simp] theorem thresholdBound (t : Threshold) : t.node.valueOf Kind.numberValue = t.bound.text := by
  by_cases marked : t.marked <;>
    simp [Threshold.node,valueOfHead,marked,Kind.numberOperator,Kind.numberValue,Kind.boolModifier]

@[simp] theorem thresholdMarked (t : Threshold) :
    (t.node.child? Kind.boolModifier).isSome = t.marked := by
  by_cases marked : t.marked <;>
    simp [Threshold.node,child?,marked,Kind.numberOperator,Kind.numberValue,Kind.boolModifier]

end LogSql.Query.Form
