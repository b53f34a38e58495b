import LogSql.Proofs.Compile.Refusals
import LogSql.Proofs.Pattern.Anchored
import LogSql.Proofs.Query.Unique

/-! Which label filters are accepted. A filter is accepted when each of its tests is, and a test is
accepted by the statement and by the client under the same conditions but for its pattern: the statement
asks for the pattern as it is written and the client for the pattern in the group that anchors it. -/
namespace LogSql.Compile

open Query
open Sql (Expr)

/-- A test of a filter. -/
inductive TestIn (t : Form.Test) : Node → Prop where
  | here : TestIn t t.node
  | inside {kind : Text} {parts : List Node} {part : Node}
      (group : kind = Kind.labelFilterAnd ∨ kind = Kind.labelFilterOr) (mem : part ∈ parts)
      (inner : TestIn t part) : TestIn t (.mk kind [] parts)

/-- The operators that compare texts. -/
def equalities : List Text := ["=", "==", "!="]

/-- A test whose operand can be read and has the operator. -/
def Sound : Form.Test → Prop
  | ⟨_, op, .text _ _⟩ => op ∈ equalities ∨ op ∈ Form.patternOperators
  | ⟨_, _, .number t _⟩ => ∃ x, Number.float t = .ok x
  | ⟨_, _, .duration _ _ _⟩ => True
  | ⟨_, _, .bytes t _⟩ => ∃ x, Number.readSize t = .ok x

/-- The pattern that a test matches. -/
def matched? : Form.Test → Option Text
  | ⟨_, op, .text t _⟩ => if op ∈ Form.patternOperators then some t else none
  | _ => none

/-! ### Patterns -/

theorem compileValid {t : Text} : (∃ p, Pattern.compile t = .ok p) ↔ Pattern.Valid t := by
  unfold Pattern.compile Pattern.Valid
  cases Pattern.read t with
  | error err =>
    constructor
    all_goals
      rintro ⟨_,ok⟩
      contradiction
  | ok r => exact iff_of_true ⟨_,rfl⟩ ⟨r,rfl⟩

theorem anchoredEnclosed (t : Text) : anchored t = Pattern.enclosed t := by
  simp [anchored,Pattern.enclosed,Text.concat,Pattern.closing]
  rfl

/-! ### Tests -/

section Texts

variable {α : Type} {op : Text} {a b : α} {x : Except Error α} {err : Error}

/-- What is decided by the operator of a text. -/
theorem textSucceeds : (∃ e, (if op = ("=" : Text) ∨ op = ("==" : Text) then .ok a
      else if op = ("!=" : Text) then .ok b
      else if op = ("=~" : Text) ∨ op = ("!~" : Text) then x
      else .error err) = Except.ok e) ↔
    (op ∈ equalities ∨ op ∈ Form.patternOperators) ∧
      (op ∈ Form.patternOperators → ∃ e, x = .ok e) := by
  have equal : op ∈ equalities ↔
      (op = ("=" : Text) ∨ op = ("==" : Text)) ∨ op = ("!=" : Text) := by
    simp [equalities,or_assoc]
  have matching : op ∈ Form.patternOperators ↔ op = ("=~" : Text) ∨ op = ("!~" : Text) := by
    simp [Form.patternOperators]
  have apart : op ∈ equalities → op ∉ Form.patternOperators := by
    rw [equal,matching]
    rintro ((rfl | rfl) | rfl) <;> decide
  by_cases first : op = ("=" : Text) ∨ op = ("==" : Text)
  · have mem := equal.mpr (.inl first)
    rw [if_pos first]
    exact iff_of_true ⟨a,rfl⟩ ⟨.inl mem,fun other => absurd other (apart mem)⟩
  by_cases second : op = ("!=" : Text)
  · have mem := equal.mpr (.inr second)
    rw [if_neg first,if_pos second]
    exact iff_of_true ⟨b,rfl⟩ ⟨.inl mem,fun other => absurd other (apart mem)⟩
  have neither : op ∉ equalities := fun mem => (equal.mp mem).elim first second
  rw [if_neg first,if_neg second]
  by_cases third : op = ("=~" : Text) ∨ op = ("!~" : Text)
  · have mem := matching.mpr third
    rw [if_pos third]
    exact ⟨fun ok => ⟨.inr mem,fun _ => ok⟩,fun both => both.2 mem⟩
  · rw [if_neg third]
    refine iff_of_false ?_ fun both => both.1.elim neither fun mem => third (matching.mp mem)
    rintro ⟨_,ok⟩
    contradiction

end Texts

theorem matchedText {label op t : Text} {known : op ∈ Form.comparators ∨ op ∈ Form.patternOperators}
    {P : Text → Prop} : (∀ re ∈ matched? ⟨label,op,.text t known⟩, P re) ↔
      (op ∈ Form.patternOperators → P t) := by
  rw [matched?]
  split
  · rename_i mem
    simp [mem]
  · rename_i other
    simp [other]

theorem conditionSucceeds (value : Expr) (t : Form.Test) : (∃ e, testCondition value t = .ok e) ↔
    Sound t ∧ ∀ re ∈ matched? t, Pattern.Valid re := by
  obtain ⟨label,op,operand⟩ := t
  cases operand with
  | text t known =>
    have compiled (cond : Expr) :
        (∃ e, ((pattern t).map fun _ => cond) = .ok e) ↔ Pattern.Valid t := by
      rw [mapSucceeds,pattern,mapErrorSucceeds,compileValid]
    rw [matchedText,← compiled]
    exact textSucceeds
  | number t known =>
    rw [testCondition,mapSucceeds,number,mapErrorSucceeds]
    simp [Sound,matched?]
  | duration t known readable =>
    rw [testCondition,mapSucceeds,mapErrorSucceeds]
    simpa [Sound,matched?] using readable
  | bytes t known =>
    rw [testCondition,mapSucceeds,mapErrorSucceeds]
    simp [Sound,matched?]

theorem predicateSucceeds (t : Form.Test) : (∃ p, testPredicate t = .ok p) ↔
    Sound t ∧ ∀ re ∈ matched? t, Pattern.Valid (anchored re) := by
  obtain ⟨label,op,operand⟩ := t
  cases operand with
  | text t known =>
    rw [matchedText,← compileValid]
    show (∃ p, textPredicate label op t = .ok p) ↔ _
    unfold textPredicate
    cases Pattern.compile (anchored t) with
    | error err =>
      refine textSucceeds.trans (and_congr_right fun _ => imp_congr_right fun _ => ?_)
      constructor
      all_goals
        rintro ⟨_,ok⟩
        contradiction
    | ok p =>
      refine textSucceeds.trans (and_congr_right fun _ => imp_congr_right fun _ => ?_)
      exact iff_of_true ⟨_,rfl⟩ ⟨p,rfl⟩
  | number t known =>
    rw [testPredicate,mapSucceeds,mapErrorSucceeds]
    simp [Sound,matched?]
  | duration t known readable =>
    rw [testPredicate,mapSucceeds,mapErrorSucceeds]
    simpa [Sound,matched?] using readable
  | bytes t known =>
    rw [testPredicate,mapSucceeds,mapErrorSucceeds]
    simp [Sound,matched?]

/-! ### Filters -/

section Filters

variable {P : Form.Test → Prop} {kind : Text}
variable (group : kind = Kind.labelFilterAnd ∨ kind = Kind.labelFilterOr)

include group in
theorem testNoGroup (t : Form.Test) (parts : List Node) : t.node ≠ .mk kind [] parts := by
  intro same
  have kinds : Kind.simpleLabelFilter = kind := congrArg Node.kind same
  rcases group with rfl | rfl
  · simp [Kind.simpleLabelFilter,Kind.labelFilterAnd] at kinds
  · simp [Kind.simpleLabelFilter,Kind.labelFilterOr] at kinds

theorem testOnly (t : Form.Test) : (∀ u, TestIn u t.node → P u) ↔ P t := by
  constructor
  · exact fun all => all t .here
  · intro holds u inside
    generalize same : t.node = n at inside
    cases inside with
    | here =>
      cases Form.testUnique same
      exact holds
    | inside group mem inner => exact absurd same (testNoGroup group t _)

include group in
theorem testsInside (parts : List Node) : (∀ t, TestIn t (.mk kind [] parts) → P t) ↔
    ∀ part ∈ parts, ∀ t, TestIn t part → P t := by
  constructor
  · exact fun all part mem t inner => all t (.inside group mem inner)
  · intro each t inside
    generalize same : Node.mk kind [] parts = n at inside
    cases inside with
    | here => exact absurd same.symm (testNoGroup group t parts)
    | inside _ mem inner =>
      cases same
      exact each _ mem t inner

/-- Where a group is compiled part by part, a filter is accepted when its tests are. -/
theorem acceptsTests {α : Type} {f : Node → Except Error α}
    (tests : ∀ t : Form.Test, (∃ a, f t.node = .ok a) ↔ P t)
    (groups : ∀ kind parts, kind = Kind.labelFilterAnd ∨ kind = Kind.labelFilterOr →
      ((∃ a, f (.mk kind [] parts) = .ok a) ↔ ∃ as, parts.mapM f = .ok as))
    {n : Node} (form : Form.Filter n) : (∃ a, f n = .ok a) ↔ ∀ t, TestIn t n → P t := by
  induction form with
  | test t => rw [tests,testOnly]
  | all two each ih =>
    rw [groups _ _ (.inl rfl),mapMSucceeds,testsInside (.inl rfl)]
    exact forall₂_congr ih
  | any two each ih =>
    rw [groups _ _ (.inr rfl),mapMSucceeds,testsInside (.inr rfl)]
    exact forall₂_congr ih

end Filters

theorem conditionAccepts (d : Draft) {n : Node} (form : Form.Filter n) :
    (∃ e, condition d n = .ok e) ↔
      ∀ t, TestIn t n → Sound t ∧ ∀ re ∈ matched? t, Pattern.Valid re := by
  refine acceptsTests (fun t => ?_) (fun kind parts group => ?_) form
  · rw [conditionTest,conditionSucceeds]
  · rcases group with rfl | rfl
    · rw [conditionAll,mapSucceeds]
    · rw [conditionAny,mapSucceeds]

theorem predicateAccepts {n : Node} (form : Form.Filter n) : (∃ p, predicate n = .ok p) ↔
    ∀ t, TestIn t n → Sound t ∧ ∀ re ∈ matched? t, Pattern.Valid (anchored re) := by
  refine acceptsTests (fun t => ?_) (fun kind parts group => ?_) form
  · rw [predicateTest,predicateSucceeds]
  · rcases group with rfl | rfl
    · rw [predicateAll,mapSucceeds]
    · rw [predicateAny,mapSucceeds]

/-- A filter in a pipeline is compiled for the side that the pipeline has reached. -/
theorem labelFilterSide (d : Draft) (n : Node) :
    (∃ d', labelFilter (some (.mk Kind.complexLabelFilterExpression [] [n])) d = .ok d') ↔
      if d.onClient then ∃ p, predicate n = .ok p else ∃ e, condition d n = .ok e := by
  have body : filterBody (.mk Kind.complexLabelFilterExpression [] [n]) = n := if_pos rfl
  unfold labelFilter
  dsimp only
  rw [body]
  split
  · exact @mapSucceeds _ _ _ (predicate n) fun p => d.addHook (.filter p)
  · exact @mapSucceeds _ _ _ (condition d n) d.addWhere

/-- A pattern that closes the group it is put in, and opens another. -/
def splitTest : Form.Test := ⟨"a", "=~", .text "x)(?:y" (.inr (by decide))⟩

/-- A pattern that quotes what follows it. -/
def quotingTest : Form.Test := ⟨"a", "=~", .text "\\Qx" (.inr (by decide))⟩

/-- A statement without conditions. -/
def plainDraft : Draft := Rows.draft {} .line {} []

end LogSql.Compile
