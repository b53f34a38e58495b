import LogSql.Compile.Filter
import LogSql.Proofs.Query.Lookup

/-! Label filters by what they compare with. A filter on one label becomes one condition, or one test
on rows, that its operand decides; the operators that the grammar allows all have a meaning. -/
namespace LogSql.Compile

open Query Node
open Sql (Expr)

theorem comparatorKnown {op : Text} (known : op ∈ Form.comparators) :
    ∃ how, Comparison.ofOperator? op = some how := by
  simp only [Form.comparators,List.mem_cons,List.not_mem_nil,or_false] at known
  rcases known with rfl | rfl | rfl | rfl | rfl | rfl | rfl <;> simp [Comparison.ofOperator?]

/-- The condition of a filter on one label. -/
def testCondition (value : Expr) : Form.Test → Except Error Expr
  | ⟨_, op, .text t _⟩ => textCondition value op t
  | ⟨_, op, .number t _⟩ =>
    (number t).map fun want =>
      .binary (((Comparison.ofOperator? op).map (·.text)).getD [])
        (.call "toFloat64OrNull" [value]) (.float want)
  | ⟨_, op, .duration t _ _⟩ =>
    ((Duration.readClock t).mapError .badFilterDuration).map fun want =>
      .binary (((Comparison.ofOperator? op).map (·.text)).getD [])
        (.call "parseTimeDelta" [value]) (.float (Duration.seconds want))
  | ⟨_, op, .bytes t _⟩ =>
    ((Number.readSize t).mapError .badFilterSize).map fun want =>
      .binary (((Comparison.ofOperator? op).map (·.text)).getD [])
        (.call "parseReadableSizeOrNull" [value]) (.float want)

theorem simpleConditionTest (d : Draft) (t : Form.Test) :
    simpleCondition d t.node = testCondition (.raw (d.labelValue t.label)) t := by
  obtain ⟨label,op,operand⟩ := t
  cases operand with
  | text t known =>
    simp [simpleCondition,testCondition,Form.Test.node,Form.Operand.node,child?,valueOfHead,
      Kind.label,Kind.labelFilterOperator,Kind.quotedStr]
  | number t known =>
    obtain ⟨how,found⟩ := comparatorKnown known
    simp only [testCondition,found]
    simp [simpleCondition,Form.Test.node,Form.Operand.node,child?,valueOfHead,found,Kind.label,
      Kind.labelFilterOperator,Kind.quotedStr,Kind.numberValue]
    cases number t <;> rfl
  | duration t known readable =>
    obtain ⟨how,found⟩ := comparatorKnown known
    simp only [testCondition,found]
    simp [simpleCondition,Form.Test.node,Form.Operand.node,child?,valueOfHead,found,Kind.label,
      Kind.labelFilterOperator,Kind.quotedStr,Kind.numberValue,Kind.durationValue]
    cases Duration.readClock t <;> rfl
  | bytes t known =>
    obtain ⟨how,found⟩ := comparatorKnown known
    simp only [testCondition,found]
    simp [simpleCondition,Form.Test.node,Form.Operand.node,child?,valueOfHead,found,Kind.label,
      Kind.labelFilterOperator,Kind.quotedStr,Kind.numberValue,Kind.durationValue,Kind.bytesValue]
    cases Number.readSize t <;> rfl

/-- The test of a filter on one label. -/
def testPredicate : Form.Test → Except Error Predicate
  | ⟨label, op, .text t _⟩ => textPredicate label op t
  | ⟨label, op, .number t _⟩ =>
    ((Number.float t).mapError fun r => .badFilterValue (.number t r)).map fun want =>
      .compares label .number ((Comparison.ofOperator? op).getD .equal) want
  | ⟨label, op, .duration t _ _⟩ =>
    ((Duration.readClock t).mapError fun r => .badFilterValue (.duration r)).map fun want =>
      .compares label .duration ((Comparison.ofOperator? op).getD .equal) (Duration.seconds want)
  | ⟨label, op, .bytes t _⟩ =>
    ((Number.readSize t).mapError fun r => .badFilterValue (.size r)).map fun want =>
      .compares label .size ((Comparison.ofOperator? op).getD .equal) want

theorem simplePredicateTest (t : Form.Test) : simplePredicate t.node = testPredicate t := by
  obtain ⟨label,op,operand⟩ := t
  cases operand with
  | text t known =>
    simp [simplePredicate,testPredicate,Form.Test.node,Form.Operand.node,child?,valueOfHead,
      Kind.label,Kind.labelFilterOperator,Kind.quotedStr]
  | number t known =>
    obtain ⟨how,found⟩ := comparatorKnown known
    simp only [testPredicate,found]
    simp [simplePredicate,filterQuantity,Form.Test.node,Form.Operand.node,child?,valueOfHead,found,
      Kind.label,Kind.labelFilterOperator,Kind.quotedStr,Kind.numberValue]
    cases Number.float t <;> rfl
  | duration t known readable =>
    obtain ⟨how,found⟩ := comparatorKnown known
    simp only [testPredicate,found]
    simp [simplePredicate,filterQuantity,Form.Test.node,Form.Operand.node,child?,valueOfHead,found,
      Kind.label,Kind.labelFilterOperator,Kind.quotedStr,Kind.numberValue,Kind.durationValue]
    cases Duration.readClock t <;> rfl
  | bytes t known =>
    obtain ⟨how,found⟩ := comparatorKnown known
    simp only [testPredicate,found]
    simp [simplePredicate,filterQuantity,Form.Test.node,Form.Operand.node,child?,valueOfHead,found,
      Kind.label,Kind.labelFilterOperator,Kind.quotedStr,Kind.numberValue,Kind.durationValue,
      Kind.bytesValue]
    cases Number.readSize t <;> rfl

/-! ### Groups -/

theorem conditionsEach (d : Draft) (ns : List Node) : conditions d ns = ns.mapM (condition d) := by
  induction ns with
  | nil => rfl
  | cons n ns ih => rw [conditions,ih,List.mapM_cons]

theorem predicatesEach (ns : List Node) : predicates ns = ns.mapM predicate := by
  induction ns with
  | nil => rfl
  | cons n ns ih => rw [predicates,ih,List.mapM_cons]

theorem conditionTest (d : Draft) (t : Form.Test) :
    condition d t.node = testCondition (.raw (d.labelValue t.label)) t := by
  rw [← simpleConditionTest,Form.Test.node,condition,
    if_neg (by simp [Kind.simpleLabelFilter,Kind.labelFilterOr]),
    if_neg (by simp [Kind.simpleLabelFilter,Kind.labelFilterAnd]),if_pos rfl]

theorem conditionAll (d : Draft) (parts : List Node) :
    condition d (.mk Kind.labelFilterAnd [] parts) = (parts.mapM (condition d)).map .all := by
  rw [condition,if_neg (by simp [Kind.labelFilterAnd,Kind.labelFilterOr]),if_pos rfl,conditionsEach]
  rfl

theorem conditionAny (d : Draft) (parts : List Node) :
    condition d (.mk Kind.labelFilterOr [] parts) = (parts.mapM (condition d)).map .any := by
  rw [condition,if_pos rfl,conditionsEach]
  rfl

theorem predicateTest (t : Form.Test) : predicate t.node = testPredicate t := by
  rw [← simplePredicateTest,Form.Test.node,predicate,
    if_neg (by simp [Kind.simpleLabelFilter,Kind.labelFilterOr]),
    if_neg (by simp [Kind.simpleLabelFilter,Kind.labelFilterAnd]),if_pos rfl]

theorem predicateAll (parts : List Node) :
    predicate (.mk Kind.labelFilterAnd [] parts) = (parts.mapM predicate).map .all := by
  rw [predicate,if_neg (by simp [Kind.labelFilterAnd,Kind.labelFilterOr]),if_pos rfl,predicatesEach]
  rfl

theorem predicateAny (parts : List Node) :
    predicate (.mk Kind.labelFilterOr [] parts) = (parts.mapM predicate).map .any := by
  rw [predicate,if_pos rfl,predicatesEach]
  rfl

end LogSql.Compile
