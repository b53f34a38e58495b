import Mathlib.Data.List.Basic
import LogSql.Proofs.Compile.Families

/-! Trees determine forms. Each form has one tree, and the tree says all that the form says, so that two
queries with one tree are the same query. -/
namespace LogSql.Query.Form

open Node

/-! ### Rules and stages -/

theorem ruleUnique {a b : Rule} (same : a.node = b.node) : a = b := by
  obtain ⟨label,operator,value,known⟩ := a
  obtain ⟨label',operator',value',known'⟩ := b
  simp only [Rule.node,leaf,Node.mk.injEq,List.cons.injEq,true_and,and_true] at same
  obtain ⟨rfl,rfl,rfl⟩ := same
  rfl

theorem testUnique {a b : Test} (same : a.node = b.node) : a = b := by
  obtain ⟨label,operator,x⟩ := a
  obtain ⟨label',operator',y⟩ := b
  simp only [Test.node,Node.mk.injEq,List.cons.injEq,true_and,and_true] at same
  obtain ⟨labels,operators,operands⟩ := same
  obtain rfl : label = label' := (Node.mk.inj labels).2.1
  obtain rfl : operator = operator' := (Node.mk.inj operators).2.1
  cases x <;> cases y <;>
    simp_all [Operand.node,leaf,Kind.quotedStr,Kind.numberValue,Kind.durationValue,Kind.bytesValue]

theorem paramUnique {a b : Text × Text} (same : paramNode a = paramNode b) : a = b := by
  simp only [paramNode,leaf,Node.mk.injEq,List.cons.injEq,true_and,and_true] at same
  exact Prod.ext same.1 same.2

theorem labelRuleUnique {a b : Text × LabelSource} (same : labelRuleNode a = labelRuleNode b) :
    a = b := by
  obtain ⟨label,source⟩ := a
  obtain ⟨label',source'⟩ := b
  cases source <;> cases source' <;>
    simp_all [labelRuleNode,LabelSource.node,leaf,Kind.label,Kind.quotedStr]

theorem stageUnique {a b : Stage} (same : a.node = b.node) : a = b := by
  have kinds := congrArg kind same
  cases a <;> cases b <;>
    simp [Stage.node,parserNode,Kind.lineFilterExpression,Kind.parserExpression,
      Kind.labelFilterPipeline,Kind.lineFormatExpression,Kind.labelsFormatExpression] at kinds <;>
    simp [Stage.node,parserNode,leaf] at same
  case line.line => simp [same]
  case json.json =>
    rw [List.map_injective_iff.mpr (fun _ _ => paramUnique) same]
  case logfmt.logfmt => rfl
  case regexp.regexp => simp [same]
  case filter.filter => simp [same]
  case lineFormat.lineFormat => simp [same]
  case labelsFormat.labelsFormat =>
    rw [List.map_injective_iff.mpr (fun _ _ => labelRuleUnique) same]

theorem pipelineUnique {a b : Stage} (same : pipelineNode a = pipelineNode b) : a = b := by
  simp only [pipelineNode,Node.mk.injEq,List.cons.injEq,true_and,and_true] at same
  exact stageUnique same

/-! ### Sources -/

/-- A list is split in one way where a test changes. -/
theorem splitUnique {α : Type} {p : α → Bool} {xs ys as bs : List α} (same : xs ++ as = ys ++ bs)
    (left : ∀ x ∈ xs, p x = true) (right : ∀ y ∈ ys, p y = true) (after : ∀ a ∈ as, p a = false)
    (behind : ∀ b ∈ bs, p b = false) : xs = ys ∧ as = bs := by
  have kept := congrArg (List.filter p) same
  have noAs : as.filter p = [] := List.filter_eq_nil_iff.mpr fun a mem => by simp [after a mem]
  have noBs : bs.filter p = [] := List.filter_eq_nil_iff.mpr fun b mem => by simp [behind b mem]
  rw [List.filter_append,List.filter_append,List.filter_eq_self.mpr left,List.filter_eq_self.mpr right,
    noAs,noBs,List.append_nil,List.append_nil] at kept
  exact ⟨kept,List.append_cancel_left (kept ▸ same)⟩

/-- A source ends where the stages do. -/
theorem sourceUnique {s t : Source} {as bs : List Node} (same : s.nodes ++ as = t.nodes ++ bs)
    (after : ∀ a ∈ as, a.kind ≠ Kind.logPipeline) (behind : ∀ b ∈ bs, b.kind ≠ Kind.logPipeline) :
    s = t ∧ as = bs := by
  simp only [Source.nodes,List.cons_append,List.cons.injEq,Node.mk.injEq,true_and] at same
  have stage (u : Source) : ∀ n ∈ u.stages.map pipelineNode, decide (n.kind = Kind.logPipeline) = true := by
    intro n mem
    obtain ⟨stage,_,rfl⟩ := List.mem_map.mp mem
    simp [pipelineNode]
  obtain ⟨stages,rest⟩ := splitUnique same.2 (stage s) (stage t)
    (fun a mem => by simp [after a mem]) (fun b mem => by simp [behind b mem])
  obtain ⟨rules,some,stages'⟩ := s
  obtain ⟨rules',some',stages''⟩ := t
  obtain rfl : rules = rules' := List.map_injective_iff.mpr (fun _ _ => ruleUnique) same.1
  obtain rfl : stages' = stages'' := List.map_injective_iff.mpr (fun _ _ => pipelineUnique) stages
  exact ⟨rfl,rest⟩

/-! ### Matrices -/

theorem leafUnique {k : Text} : Function.Injective (leaf k) :=
  fun _ _ same => (Node.mk.inj same).2.1

theorem groupingUnique {k : Text} {a b : Grouping} (same : a.node k = b.node k) : a = b := by
  obtain ⟨word,labels,known⟩ := a
  obtain ⟨word',labels',known'⟩ := b
  simp only [Grouping.node,Node.mk.injEq,List.cons.injEq,true_and] at same
  obtain ⟨words,labelled⟩ := same
  obtain rfl := leafUnique words
  obtain rfl : labels = labels' := List.map_injective_iff.mpr leafUnique labelled
  rfl

theorem clauseUnique {k : Text} {a b : Option Grouping}
    (same : a.toList.map (Grouping.node k) = b.toList.map (Grouping.node k)) : a = b := by
  cases a <;> cases b <;> simp at same
  case none.none => rfl
  case some.some => rw [groupingUnique same]

theorem unwrapUnique {a b : Unwrap} (same : a.node = b.node) : a = b := by
  cases a <;> cases b <;>
    simp_all [Unwrap.node,leaf,Kind.unwrapValueStatement,Kind.unwrapExpression]

theorem restPlain (u : Unwrapped) : ∀ n ∈ u.rest, n.kind ≠ Kind.logPipeline := by
  intro n mem same
  have inside := Unwraps.kindInside (restKindsOf u) mem
  rw [same] at inside
  simp [restKinds,Kind.logPipeline,Kind.unwrapValueStatement,Kind.unwrapExpression,
    Kind.unwrapStatement,Kind.unwrapConversion,Kind.durationValue,Kind.optByWithoutUnwrap,
    Kind.byWithout,Kind.label] at inside

theorem unwrappedUnique {a b : Unwrapped} (same : a.nodes = b.nodes) : a = b := by
  rw [unwrappedNodes,unwrappedNodes] at same
  obtain ⟨source,rest⟩ := sourceUnique same (restPlain a) (restPlain b)
  obtain ⟨s,clause,⟨span,positive⟩,grouping⟩ := a
  obtain ⟨s',clause',⟨span',positive'⟩,grouping'⟩ := b
  simp only [Unwrapped.rest,leaf,List.cons_append,List.nil_append,List.cons.injEq,Node.mk.injEq,true_and,
    and_true] at rest
  obtain ⟨clauses,rfl,groupings⟩ := rest
  obtain rfl := unwrapUnique clauses
  obtain rfl := clauseUnique groupings
  cases source
  rfl

theorem rangeUnique {a b : Range} (same : a.node = b.node) : a = b := by
  have kinds := congrArg kind same
  cases a <;> cases b <;>
    simp [Range.node,Kind.logRangeAggregation,Kind.unwrapFunction] at kinds
  case log.log fn known s span fn' known' s' span' =>
    simp only [Range.node,leaf,Node.mk.injEq,List.cons_append,List.cons.injEq,true_and,and_true] at same
    obtain ⟨rfl,nodes⟩ := same
    obtain ⟨rfl,spans⟩ := sourceUnique nodes (by simp [Kind.durationValue,Kind.logPipeline])
      (by simp [Kind.durationValue,Kind.logPipeline])
    obtain ⟨span,positive⟩ := span
    obtain ⟨span',positive'⟩ := span'
    obtain rfl : span = span' := by simpa using spans
    rfl
  case unwrap.unwrap fn known u fn' known' u' =>
    simp only [Range.node,leaf,Node.mk.injEq,List.cons.injEq,true_and,and_true] at same
    obtain ⟨rfl,nodes⟩ := same
    obtain rfl := unwrappedUnique nodes
    rfl

theorem numeralUnique {a b : Numeral} (same : a.text = b.text) : a = b := by
  obtain ⟨text,readable⟩ := a
  obtain rfl := same
  rfl

theorem matrixUnique {a b : Matrix} (same : a.node = b.node) : a = b := by
  have kinds := congrArg kind same
  cases a with
  | range r =>
    cases b with
    | range r' => rw [rangeUnique same]
    | quantile fn known x u =>
      rcases rangeKind r with kind | kind <;>
        simp [Matrix.node,kind,Kind.logRangeAggregation,Kind.unwrapFunction,
          Kind.parameterizedUnwrapped] at kinds
    | aggregate fn known g r' =>
      rcases rangeKind r with kind | kind <;>
        simp [Matrix.node,kind,Kind.logRangeAggregation,Kind.unwrapFunction,
          Kind.aggregationOperator] at kinds
  | quantile fn known x u =>
    cases b with
    | range r =>
      rcases rangeKind r with kind | kind <;>
        simp [Matrix.node,kind,Kind.logRangeAggregation,Kind.unwrapFunction,
          Kind.parameterizedUnwrapped] at kinds
    | quantile fn' known' x' u' =>
      simp only [Matrix.node,leaf,Node.mk.injEq,List.cons.injEq,true_and,and_true] at same
      obtain ⟨rfl,param,nodes⟩ := same
      obtain rfl := numeralUnique param
      obtain rfl := unwrappedUnique nodes
      rfl
    | aggregate fn' known' g r =>
      simp [Matrix.node,Kind.parameterizedUnwrapped,Kind.aggregationOperator] at kinds
  | aggregate fn known g r =>
    cases b with
    | range r' =>
      rcases rangeKind r' with kind | kind <;>
        simp [Matrix.node,kind,Kind.logRangeAggregation,Kind.unwrapFunction,
          Kind.aggregationOperator] at kinds
    | quantile fn' known' x u =>
      simp [Matrix.node,Kind.parameterizedUnwrapped,Kind.aggregationOperator] at kinds
    | aggregate fn' known' g' r' =>
      simp only [Matrix.node,leaf,Node.mk.injEq,List.cons_append,List.cons.injEq,true_and,and_true] at same
      obtain ⟨rfl,nodes⟩ := same
      obtain ⟨clauses,ranges⟩ := List.append_inj' nodes rfl
      obtain rfl := clauseUnique clauses
      obtain rfl := rangeUnique (List.cons.inj ranges).1
      rfl

theorem statementKind (m : Matrix) (ranking : Option Ranking) :
    (statementNode m ranking).kind = Kind.aggStatement := by
  cases ranking <;> rfl

theorem rankingUnique {m n : Matrix} {a b : Option Ranking}
    (same : statementNode m a = statementNode n b) : m = n ∧ a = b := by
  have outer (m : Matrix) : m.node.kind ≠ Kind.parameterizedExpression :=
    (matrixModifier m (by simp [modifierKinds])).2
  cases a with
  | none =>
    cases b with
    | none => exact ⟨matrixUnique (by simpa [statementNode] using same),rfl⟩
    | some r =>
      simp only [statementNode,Node.mk.injEq,List.cons.injEq,true_and,and_true] at same
      exact absurd (congrArg kind same) (outer m)
  | some r =>
    cases b with
    | none =>
      simp only [statementNode,Node.mk.injEq,List.cons.injEq,true_and,and_true] at same
      exact absurd (congrArg kind same).symm (outer n)
    | some r' =>
      obtain ⟨fn,known,x⟩ := r
      obtain ⟨fn',known',x'⟩ := r'
      simp only [statementNode,leaf,Node.mk.injEq,List.cons.injEq,true_and,and_true] at same
      obtain ⟨rfl,param,nodes⟩ := same
      obtain rfl := numeralUnique param
      exact ⟨matrixUnique nodes,rfl⟩

theorem thresholdUnique {a b : Threshold} (same : a.node = b.node) : a = b := by
  have operator := thresholdOperator a
  have marked := thresholdMarked a
  have bound := thresholdBound a
  rw [same,thresholdOperator] at operator
  rw [same,thresholdMarked] at marked
  rw [same,thresholdBound] at bound
  obtain ⟨op,known,mark,x⟩ := a
  obtain ⟨op',known',mark',x'⟩ := b
  obtain rfl : op' = op := operator
  obtain rfl : mark' = mark := marked
  obtain rfl : x' = x := numeralUnique bound
  rfl

/-! ### Queries -/

/-- Queries with one tree are the same. -/
theorem nodeUnique {p q : Form} (same : p.node = q.node) : p = q := by
  have children : p.children = q.children := (Node.mk.inj same).2.2
  have heads := congrArg (fun ns => ns.head?.map kind) children
  cases p <;> cases q <;>
    simp [Form.children,Source.nodes,statementKind,Kind.userMacro,Kind.logStreamSelector,
      Kind.aggStatement] at heads
  case call.call name args name' args' =>
    simp only [Form.children,List.cons.injEq,Node.mk.injEq,true_and,and_true] at children
    obtain ⟨rfl,_,_,texts⟩ := children
    rw [List.map_injective_iff.mpr leafUnique texts]
  case rows.rows s t =>
    obtain ⟨rfl,_⟩ := @sourceUnique _ _ [] [] (by simpa [Form.children] using children)
      (by simp) (by simp)
    rfl
  case matrix.matrix m ranking threshold m' ranking' threshold' =>
    simp only [Form.children,List.cons.injEq] at children
    obtain ⟨statements,thresholds⟩ := children
    obtain ⟨rfl,rfl⟩ := rankingUnique statements
    cases threshold <;> cases threshold' <;> simp at thresholds
    case none.none => rfl
    case some.some => rw [thresholdUnique thresholds]

end LogSql.Query.Form
