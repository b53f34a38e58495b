import LogSql.Proofs.Query.Unique

/-! Masked queries. The strings of matchers, of label filters and of line filters can be masked in a
tree, and two trees that are the same behind their masks are queries that differ in these strings only;
what these strings are written as is listed in the order of the query. -/
namespace LogSql.Query

namespace Node

mutual

/-- Decides whether trees are the same. -/
def decEq : (m n : Node) → Decidable (m = n)
  | mk kind value cs, mk kind' value' cs' =>
    match decEqIn cs cs' with
    | .isTrue below =>
      if own : kind = kind' ∧ value = value' then .isTrue (by rw [own.1,own.2,below])
      else .isFalse fun same => own (by simpa [below] using same)
    | .isFalse below => .isFalse fun same => below (mk.inj same).2.2

@[inherit_doc decEq]
def decEqIn : (as bs : List Node) → Decidable (as = bs)
  | [], [] => .isTrue rfl
  | [], _ :: _ => .isFalse nofun
  | _ :: _, [] => .isFalse nofun
  | a :: as, b :: bs =>
    match decEq a b, decEqIn as bs with
    | .isTrue first, .isTrue rest => .isTrue (by rw [first,rest])
    | .isFalse first, _ => .isFalse fun same => first (List.cons.inj same).1
    | _, .isFalse rest => .isFalse fun same => rest (List.cons.inj same).2

end

instance : DecidableEq Node := decEq

/-- The nodes whose string is masked. -/
def bearers : List Text :=
  [Kind.logStreamSelectorRule, Kind.simpleLabelFilter, Kind.lineFilterExpression]

/-- Whether a node searches lines for its string. -/
def searches (n : Node) : Bool :=
  n.kind = Kind.lineFilterExpression &&
    (n.valueOf Kind.lineFilterOperator = ("|=" : Text) ||
      n.valueOf Kind.lineFilterOperator = ("!=" : Text))

/-- What a mask leaves of the string of a node: whether there is something to search for. -/
def veil (n : Node) (t : Text) : Text :=
  if bearers.elem n.kind then if n.searches && !t.isEmpty then "*" else [] else t

/-- The node with another text, if it is a string. -/
def reword (f : Text → Text) : Node → Node
  | mk kind value cs => if kind = Kind.quotedStr then mk kind (f value) cs else mk kind value cs

mutual

/-- The tree with its strings masked. -/
def masked : Node → Node
  | mk kind value cs => mk kind value (maskedIn (veil (mk kind value cs)) cs)

@[inherit_doc masked]
def maskedIn (f : Text → Text) : List Node → List Node
  | [] => []
  | c :: cs => reword f (masked c) :: maskedIn f cs

end

/-- A value that is compared, or the pattern of one that is matched. -/
def compared (operator value : Text) : Text :=
  if operator = ("=~" : Text) ∨ operator = ("!~" : Text) then Compile.anchored value else value

/-- What the string of a node is written as; nothing is written to search for the empty text. -/
def ownLiterals (n : Node) : List Text :=
  match n.child? Kind.quotedStr with
  | none => []
  | some s =>
    if n.kind = Kind.logStreamSelectorRule then [compared (n.valueOf Kind.operator) s.value]
    else if n.kind = Kind.simpleLabelFilter then
      [compared (n.valueOf Kind.labelFilterOperator) s.value]
    else if n.kind = Kind.lineFilterExpression then
      if n.searches && s.value.isEmpty then [] else [s.value]
    else []

mutual

/-- What the strings of a tree are written as, in their order. -/
def literals : Node → List Text
  | mk kind value cs => ownLiterals (mk kind value cs) ++ literalsIn cs

@[inherit_doc literals]
def literalsIn : List Node → List Text
  | [] => []
  | c :: cs => literals c ++ literalsIn cs

end

theorem maskedInMap (f : Text → Text) (cs : List Node) :
    maskedIn f cs = cs.map fun c => reword f (masked c) := by
  induction cs with
  | nil => rfl
  | cons c cs ih => rw [maskedIn,ih,List.map_cons]

theorem literalsInMap (cs : List Node) : literalsIn cs = cs.flatMap literals := by
  induction cs with
  | nil => rfl
  | cons c cs ih => rw [literalsIn,ih,List.flatMap_cons]

@[simp] theorem maskedLeaf (kind value : Text) : (leaf kind value).masked = leaf kind value := rfl

@[simp] theorem literalsLeaf (kind value : Text) : (leaf kind value).literals = [] := rfl

@[simp] theorem maskedKind (n : Node) : n.masked.kind = n.kind := by
  cases n
  rfl

theorem rewordKind (f : Text → Text) (n : Node) : (reword f n).kind = n.kind := by
  cases n
  rw [reword]
  split <;> rfl

theorem rewordKinds (f : Text → Text) (n : Node) : (reword f n).kinds = n.kinds := by
  cases n
  rw [reword]
  split <;> rfl

mutual

theorem maskedKinds : (n : Node) → n.masked.kinds = n.kinds
  | .mk kind value cs => maskedInKinds (veil (mk kind value cs)) cs

theorem maskedInKinds (f : Text → Text) : (cs : List Node) → kindsIn (maskedIn f cs) = kindsIn cs
  | [] => rfl
  | c :: cs => by
    rw [maskedIn,kindsInCons,kindsInCons,rewordKind,rewordKinds,maskedKind,maskedKinds c,
      maskedInKinds f cs]

end

/-- Under a node that bears no masked string only what is further below changes. -/
theorem maskedOther {kind : Text} (other : kind ∉ bearers) (value : Text) (cs : List Node) :
    (mk kind value cs).masked = mk kind value (cs.map masked) := by
  have veiled : veil (mk kind value cs) = id := by
    funext t
    simp [veil,other]
  rw [masked,veiled,maskedInMap]
  congr 2
  funext c
  cases c
  simp [masked,reword]

theorem literalsOther {kind : Text} (other : kind ∉ bearers) (value : Text) (cs : List Node) :
    (mk kind value cs).literals = cs.flatMap literals := by
  have own : ownLiterals (mk kind value cs) = [] := by
    simp only [bearers,List.mem_cons,List.not_mem_nil,or_false,not_or] at other
    unfold ownLiterals
    split
    · rfl
    · simp [other]
  rw [literals,own,literalsInMap,List.nil_append]

mutual

theorem maskedAbsent : (n : Node) → n.kind ∉ bearers → (∀ k ∈ n.kinds, k ∉ bearers) →
    n.masked = n ∧ n.literals = []
  | .mk kind value cs => fun other below => by
    obtain ⟨same,none⟩ := maskedInAbsent cs below
    constructor
    · rw [maskedOther (by simpa using other),same]
    · rw [literalsOther (by simpa using other),none]

theorem maskedInAbsent : (cs : List Node) → (∀ k ∈ kindsIn cs, k ∉ bearers) →
    cs.map masked = cs ∧ cs.flatMap literals = []
  | [] => fun _ => ⟨rfl,rfl⟩
  | c :: cs => fun below => by
    simp only [kindsInCons,List.forall_mem_cons,List.forall_mem_append] at below
    obtain ⟨same,none⟩ := maskedAbsent c below.1 below.2.1
    obtain ⟨sames,nones⟩ := maskedInAbsent cs below.2.2
    rw [List.map_cons,List.flatMap_cons,same,none,sames,nones]
    exact ⟨rfl,rfl⟩

end

end Node

namespace Form

open Node

/-! ### Rules and stages -/

def Rule.masked (r : Rule) : Rule := { r with value := [] }

/-- What the value of a rule is written as. -/
def Rule.literal (r : Rule) : Text := compared r.operator r.value

theorem ruleMasked (r : Rule) : r.masked.node = r.node.masked := by
  simp [Rule.masked,Rule.node,Node.masked,maskedInMap,reword,veil,bearers,searches,leaf,Kind.label,
    Kind.operator,Kind.quotedStr,Kind.logStreamSelectorRule,Kind.simpleLabelFilter,
    Kind.lineFilterExpression]

theorem ruleLiterals (r : Rule) : r.node.literals = [r.literal] := by
  have child : r.node.child? Kind.quotedStr = some (.leaf Kind.quotedStr r.value) := by
    simp [Rule.node,child?,Kind.label,Kind.operator,Kind.quotedStr]
  have own : ownLiterals r.node = [r.literal] := by
    rw [ownLiterals,child,ruleOperator]
    exact if_pos rfl
  simpa [Rule.node,literals,literalsInMap] using own

def Operand.masked {operator : Text} : Operand operator → Operand operator
  | text _ known => text [] known
  | o => o

def Test.masked (t : Test) : Test := { t with operand := t.operand.masked }

theorem testMasked (t : Test) : t.masked.node = t.node.masked := by
  obtain ⟨label,operator,operand⟩ := t
  cases operand <;>
    simp [Test.masked,Operand.masked,Test.node,Operand.node,Node.masked,maskedInMap,reword,veil,
      bearers,searches,leaf,Kind.label,Kind.labelFilterOperator,Kind.quotedStr,Kind.numberValue,
      Kind.durationValue,Kind.bytesValue,Kind.logStreamSelectorRule,Kind.simpleLabelFilter,
      Kind.lineFilterExpression]

/-- What a label filter compares with is written as, if it is a text. -/
def Test.literals : Test → List Text
  | ⟨_, operator, .text t _⟩ => [compared operator t]
  | _ => []

theorem testLiterals (t : Test) : t.node.literals = t.literals := by
  obtain ⟨label,operator,operand⟩ := t
  cases operand <;>
    simp [Test.literals,Test.node,Operand.node,Node.literals,literalsInMap,ownLiterals,child?,
      valueOfHead,Kind.label,Kind.labelFilterOperator,Kind.quotedStr,Kind.numberValue,
      Kind.durationValue,Kind.bytesValue,Kind.logStreamSelectorRule,Kind.simpleLabelFilter]

theorem groupOther : Kind.labelFilterAnd ∉ bearers ∧ Kind.labelFilterOr ∉ bearers := by
  simp [bearers,Kind.labelFilterAnd,Kind.labelFilterOr,Kind.logStreamSelectorRule,
    Kind.simpleLabelFilter,Kind.lineFilterExpression]

theorem Filter.masked {n : Node} (form : Filter n) : Filter n.masked := by
  induction form with
  | test t => exact testMasked t ▸ .test t.masked
  | @all parts two each ih =>
    rw [maskedOther groupOther.1]
    refine .all (by simpa using two) fun p mem => ?_
    obtain ⟨q,inside,rfl⟩ := List.mem_map.mp mem
    exact ih q inside
  | @any parts two each ih =>
    rw [maskedOther groupOther.2]
    refine .any (by simpa using two) fun p mem => ?_
    obtain ⟨q,inside,rfl⟩ := List.mem_map.mp mem
    exact ih q inside

/-- Masks keep the number of strings. -/
theorem Filter.count {n : Node} (form : Filter n) :
    n.masked.literals.length = n.literals.length := by
  have group {parts : List Node}
      (each : ∀ p ∈ parts, p.masked.literals.length = p.literals.length) :
      ((parts.map Node.masked).flatMap Node.literals).length =
        (parts.flatMap Node.literals).length := by
    rw [List.flatMap_map,List.length_flatMap,List.length_flatMap]
    exact congrArg List.sum (List.map_congr_left each)
  induction form with
  | test t =>
    rw [← testMasked,testLiterals,testLiterals]
    obtain ⟨label,operator,operand⟩ := t
    cases operand <;> rfl
  | all two each ih =>
    rw [maskedOther groupOther.1,literalsOther groupOther.1,literalsOther groupOther.1]
    exact group ih
  | any two each ih =>
    rw [maskedOther groupOther.2,literalsOther groupOther.2,literalsOther groupOther.2]
    exact group ih

/-- Whether an operator searches lines for a text. -/
def searching (operator : Text) : Bool := operator = ("|=" : Text) || operator = ("!=" : Text)

/-- What a mask leaves of the text of a line filter. -/
def sought (operator text : Text) : Text :=
  if searching operator && !text.isEmpty then "*" else []

def Stage.masked : Stage → Stage
  | line operator text known => line operator (sought operator text) known
  | filter body form => filter body.masked form.masked
  | s => s

/-- What the strings of a stage are written as. -/
def Stage.literals : Stage → List Text
  | line operator text _ => if searching operator && text.isEmpty then [] else [text]
  | filter body _ => body.literals
  | _ => []

theorem stageCount (s : Stage) : s.masked.literals.length = s.literals.length := by
  cases s with
  | line operator text known =>
    cases text with
    | nil => simp [Stage.masked,Stage.literals,sought]
    | cons b text => cases searched : searching operator <;> simp [Stage.masked,Stage.literals,sought,searched]
  | filter body form => exact form.count
  | _ => rfl

theorem lineSearches (operator text : Text) (known : operator ∈ lineOperators) :
    (Stage.line operator text known).node.searches = searching operator := by
  simp [searches,searching,Stage.node,valueOfHead]

/-- The kinds of the nodes of stages that are neither line filters nor label filters. -/
def quietKinds : List Text :=
  [Kind.parserExpression, Kind.parserFnName, Kind.parserParam, Kind.lineFormatExpression,
    Kind.labelsFormatExpression, Kind.labelsFormatRule, Kind.label, Kind.quotedStr]

theorem quietAbsent : ∀ k ∈ quietKinds, k ∉ bearers := by
  simp [quietKinds,bearers,Kind.parserExpression,Kind.parserFnName,Kind.parserParam,
    Kind.lineFormatExpression,Kind.labelsFormatExpression,Kind.labelsFormatRule,Kind.label,
    Kind.quotedStr,Kind.logStreamSelectorRule,Kind.simpleLabelFilter,Kind.lineFilterExpression]

theorem quietNode {n : Node} (kind : n.kind ∈ quietKinds) (kinds : n.kinds ⊆ quietKinds) :
    n.masked = n ∧ n.literals = [] :=
  maskedAbsent n (quietAbsent _ kind) fun k mem => quietAbsent k (kinds mem)

theorem jsonQuiet (params : List (Text × Text)) : (Stage.json params).node.kinds ⊆ quietKinds := by
  have each : kindsIn (params.map paramNode) ⊆ quietKinds := by
    refine kindsInSubset fun c mem => ?_
    obtain ⟨p,_,rfl⟩ := List.mem_map.mp mem
    simp [paramNode,quietKinds]
  simp only [Stage.node,parserNode,kindsMk,kindsInCons,kindLeaf,kindsLeaf,List.nil_append,
    List.cons_subset]
  exact ⟨by simp [quietKinds],each⟩

theorem labelsQuiet (rules : List (Text × LabelSource)) :
    (Stage.labelsFormat rules).node.kinds ⊆ quietKinds := by
  refine kindsInSubset fun c mem => ?_
  obtain ⟨⟨label,source⟩,_,rfl⟩ := List.mem_map.mp mem
  cases source <;> simp [labelRuleNode,LabelSource.node,quietKinds]

theorem lineMasked (operator text : Text) (known : operator ∈ lineOperators) :
    (Stage.line operator text known).masked.node = (Stage.line operator text known).node.masked := by
  have veiled : veil (Stage.line operator text known).node text = sought operator text := by
    rw [veil,lineSearches]
    exact if_pos (by simp [Stage.node,bearers])
  have name : Kind.lineFilterOperator ≠ Kind.quotedStr := by
    simp [Kind.lineFilterOperator,Kind.quotedStr]
  change _ = Node.mk _ _ (maskedIn (veil (Stage.line operator text known).node) _)
  simp only [maskedInMap,List.map_cons,List.map_nil,maskedLeaf]
  simp only [leaf,reword,if_neg name,if_true,veiled]
  rfl

theorem lineLiterals (operator text : Text) (known : operator ∈ lineOperators) :
    (Stage.line operator text known).node.literals =
      (Stage.line operator text known).literals := by
  have child : (Stage.line operator text known).node.child? Kind.quotedStr =
      some (.leaf Kind.quotedStr text) := by
    simp [Stage.node,child?,Kind.lineFilterOperator,Kind.quotedStr]
  have own : ownLiterals (Stage.line operator text known).node =
      if searching operator && text.isEmpty then [] else [text] := by
    rw [ownLiterals,child]
    simp only [lineSearches,valueLeaf]
    simp [Stage.node,Kind.logStreamSelectorRule,Kind.simpleLabelFilter,Kind.lineFilterExpression]
  simpa [Stage.node,Node.literals,literalsInMap,Stage.literals] using own

theorem stageMasked (s : Stage) : s.masked.node = s.node.masked ∧ s.node.literals = s.literals := by
  have quiet {s : Stage} (same : s.masked = s) (none : s.literals = []) (kind : s.node.kind ∈ quietKinds)
      (kinds : s.node.kinds ⊆ quietKinds) :
      s.masked.node = s.node.masked ∧ s.node.literals = s.literals := by
    obtain ⟨masked,literals⟩ := quietNode kind kinds
    rw [same,none,masked,literals]
    exact ⟨rfl,rfl⟩
  cases s with
  | line operator text known => exact ⟨lineMasked operator text known,lineLiterals operator text known⟩
  | json params => exact quiet rfl rfl (by simp [Stage.node,parserNode,quietKinds]) (jsonQuiet params)
  | logfmt =>
    exact quiet rfl rfl (by simp [Stage.node,parserNode,quietKinds])
      (by simp [Stage.node,parserNode,quietKinds])
  | regexp pattern =>
    exact quiet rfl rfl (by simp [Stage.node,parserNode,quietKinds])
      (by simp [Stage.node,parserNode,quietKinds])
  | filter body form =>
    have outer : Kind.labelFilterPipeline ∉ bearers ∧ Kind.complexLabelFilterExpression ∉ bearers := by
      simp [bearers,Kind.labelFilterPipeline,Kind.complexLabelFilterExpression,
        Kind.logStreamSelectorRule,Kind.simpleLabelFilter,Kind.lineFilterExpression]
    simp [Stage.masked,Stage.node,Stage.literals,maskedOther outer.1,maskedOther outer.2,
      literalsOther outer.1,literalsOther outer.2]
  | lineFormat template =>
    exact quiet rfl rfl (by simp [Stage.node,quietKinds]) (by simp [Stage.node,quietKinds])
  | labelsFormat rules => exact quiet rfl rfl (by simp [Stage.node,quietKinds]) (labelsQuiet rules)

/-! ### Sources -/

def Source.masked (s : Source) : Source where
  rules := s.rules.map Rule.masked
  some := by simpa using s.some
  stages := s.stages.map Stage.masked

/-- What the strings of a selector with its pipeline are written as. -/
def Source.literals (s : Source) : List Text :=
  s.rules.map Rule.literal ++ s.stages.flatMap Stage.literals

theorem sourceMasked (s : Source) :
    s.masked.nodes = s.nodes.map Node.masked ∧ s.nodes.flatMap Node.literals = s.literals := by
  have outer : Kind.logStreamSelector ∉ bearers ∧ Kind.logPipeline ∉ bearers := by
    simp [bearers,Kind.logStreamSelector,Kind.logPipeline,Kind.logStreamSelectorRule,
      Kind.simpleLabelFilter,Kind.lineFilterExpression]
  constructor
  · have rules : (s.rules.map Rule.masked).map Rule.node = (s.rules.map Rule.node).map Node.masked := by
      simp [ruleMasked]
    have stages : (s.stages.map Stage.masked).map pipelineNode =
        (s.stages.map pipelineNode).map Node.masked := by
      simp [pipelineNode,maskedOther outer.2,stageMasked]
    rw [Source.masked,Source.nodes,Source.nodes,List.map_cons,maskedOther outer.1,rules,stages]
  · simp only [Source.nodes,List.flatMap_cons,literalsOther outer.1,Source.literals,List.flatMap_map]
    congr 1
    · simp only [ruleLiterals]
      exact List.map_eq_flatMap.symm
    · refine List.flatMap_congr fun stage _ => ?_
      simp [pipelineNode,literalsOther outer.2,(stageMasked stage).2]

theorem sourceCount (s : Source) : s.masked.literals.length = s.literals.length := by
  have stages : ((s.stages.map Stage.masked).flatMap Stage.literals).length =
      (s.stages.flatMap Stage.literals).length := by
    rw [List.flatMap_map,List.length_flatMap,List.length_flatMap]
    exact congrArg List.sum (List.map_congr_left fun stage _ => stageCount stage)
  simp [Source.literals,Source.masked,stages]

/-! ### Matrices -/

def Unwrapped.masked (u : Unwrapped) : Unwrapped := { u with source := u.source.masked }

def Range.masked : Range → Range
  | log fn known source span => log fn known source.masked span
  | unwrap fn known body => unwrap fn known body.masked

def Matrix.masked : Matrix → Matrix
  | range r => range r.masked
  | quantile fn known param body => quantile fn known param body.masked
  | aggregate fn known grouping r => aggregate fn known grouping r.masked

theorem maskedSource (m : Matrix) : m.masked.source = m.source.masked := by
  rcases m with (_ | _) | _ | ⟨_,_,_,_ | _⟩ <;> rfl

theorem maskedSpan (m : Matrix) : m.masked.span = m.span := by
  rcases m with (_ | _) | _ | ⟨_,_,_,_ | _⟩ <;> rfl

theorem shellOther : ∀ k ∈ shellKinds, k ∉ bearers := by
  intro k shell bearer
  have inner : k ∈ innerKinds := by
    simp only [bearers,List.mem_cons,List.not_mem_nil,or_false] at bearer
    rcases bearer with rfl | rfl | rfl <;> simp [innerKinds]
  exact shellAbsent k inner shell

theorem shellNodes {cs : List Node} (kinds : kindsIn cs ⊆ shellKinds) :
    cs.map Node.masked = cs ∧ cs.flatMap Node.literals = [] :=
  maskedInAbsent cs fun k mem => shellOther k (kinds mem)

theorem unwrappedMasked (u : Unwrapped) :
    u.masked.nodes = u.nodes.map Node.masked ∧ u.nodes.flatMap Node.literals = u.source.literals := by
  obtain ⟨same,none⟩ := shellNodes fun k mem => by
    have inside := restKindsOf u mem
    simp [shellKinds,inside]
  obtain ⟨masked,literals⟩ := sourceMasked u.source
  rw [unwrappedNodes,unwrappedNodes,List.map_append,List.flatMap_append,same,none,literals]
  refine ⟨?_,List.append_nil _⟩
  rw [← masked]
  rfl

theorem rangeMasked (r : Range) :
    r.masked.node = r.node.masked ∧ r.node.literals = r.source.literals := by
  have outer : Kind.logRangeAggregation ∉ bearers ∧ Kind.unwrapFunction ∉ bearers :=
    ⟨shellOther _ (by simp [shellKinds,familyKinds]),
      shellOther _ (by simp [shellKinds,familyKinds])⟩
  cases r with
  | log fn known s span =>
    obtain ⟨masked,literals⟩ := sourceMasked s
    simp [Range.masked,Range.node,Range.source,maskedOther outer.1,literalsOther outer.1,masked,literals]
  | unwrap fn known u =>
    obtain ⟨masked,literals⟩ := unwrappedMasked u
    simp [Range.masked,Range.node,Range.source,maskedOther outer.2,literalsOther outer.2,masked,literals]

theorem matrixMasked (m : Matrix) :
    m.masked.node = m.node.masked ∧ m.node.literals = m.source.literals := by
  have outer : Kind.parameterizedUnwrapped ∉ bearers ∧ Kind.aggregationOperator ∉ bearers :=
    ⟨shellOther _ (by simp [shellKinds,familyKinds]),
      shellOther _ (by simp [shellKinds,familyKinds])⟩
  cases m with
  | range r => exact rangeMasked r
  | quantile fn known x u =>
    obtain ⟨masked,literals⟩ := unwrappedMasked u
    simp [Matrix.masked,Matrix.node,Matrix.source,maskedOther outer.1,literalsOther outer.1,masked,
      literals]
  | aggregate fn known g r =>
    obtain ⟨masked,literals⟩ := rangeMasked r
    obtain ⟨same,none⟩ := shellNodes fun k mem => by
      have inside := groupingKinds Kind.optByWithout g mem
      simp only [List.mem_cons,List.not_mem_nil,or_false] at inside
      rcases inside with rfl | rfl | rfl <;> simp [shellKinds,restKinds]
    simp only [Matrix.masked,Matrix.node,Matrix.source,maskedOther outer.2,literalsOther outer.2,
      List.cons_append,List.map_cons,List.map_append,List.flatMap_cons,List.flatMap_append,same,none,
      masked,literals]
    simp

theorem statementMasked (m : Matrix) (ranking : Option Ranking) :
    statementNode m.masked ranking = (statementNode m ranking).masked ∧
      (statementNode m ranking).literals = m.source.literals := by
  have outer : Kind.aggStatement ∉ bearers ∧ Kind.parameterizedExpression ∉ bearers :=
    ⟨shellOther _ (by simp [shellKinds,aroundKinds]),
      shellOther _ (by simp [shellKinds,aroundKinds])⟩
  obtain ⟨masked,literals⟩ := matrixMasked m
  cases ranking <;>
    simp [statementNode,maskedOther outer.1,maskedOther outer.2,literalsOther outer.1,
      literalsOther outer.2,masked,literals]

/-! ### Queries -/

def masked : Form → Form
  | call name args => call name args
  | rows s => rows s.masked
  | matrix m ranking threshold => matrix m.masked ranking threshold

/-- What the strings of a query are written as. -/
def literals : Form → List Text
  | call _ _ => []
  | rows s => s.literals
  | matrix m _ _ => m.source.literals

theorem callMasked (name : Text) (args : List Text) :
    (mk name name (args.map (leaf Kind.macroArg))).masked =
        mk name name (args.map (leaf Kind.macroArg)) ∧
      (mk name name (args.map (leaf Kind.macroArg))).literals = [] := by
  have other : Kind.macroArg ≠ Kind.quotedStr := by simp [Kind.macroArg,Kind.quotedStr]
  have child : (mk name name (args.map (leaf Kind.macroArg))).child? Kind.quotedStr = none := by
    simp [child?,other]
  have each (f : Text → Text) (arg : Text) :
      reword f (leaf Kind.macroArg arg) = leaf Kind.macroArg arg := by
    rw [leaf,reword,if_neg other]
  constructor
  · rw [Node.masked,maskedInMap]
    simp [each]
  · rw [Node.literals,ownLiterals,child,literalsInMap]
    simp

theorem nodeMasked (q : Form) : q.masked.node = q.node.masked ∧ q.node.literals = q.literals := by
  have root : Kind.root ∉ bearers := by
    simp [bearers,Kind.root,Kind.logStreamSelectorRule,Kind.simpleLabelFilter,
      Kind.lineFilterExpression]
  cases q with
  | call name args =>
    have user : Kind.userMacro ∉ bearers := by
      simp [bearers,Kind.userMacro,Kind.logStreamSelectorRule,Kind.simpleLabelFilter,
        Kind.lineFilterExpression]
    obtain ⟨masked,literals⟩ := callMasked name args
    simp [Form.masked,Form.literals,node,children,maskedOther root,literalsOther root,maskedOther user,
      literalsOther user,masked,literals]
  | rows s =>
    obtain ⟨masked,literals⟩ := sourceMasked s
    simp [Form.masked,Form.literals,node,children,maskedOther root,literalsOther root,masked,literals]
  | matrix m ranking threshold =>
    obtain ⟨masked,literals⟩ := statementMasked m ranking
    have threshold' : (threshold.toList.map Threshold.node).map Node.masked =
          threshold.toList.map Threshold.node ∧
        (threshold.toList.map Threshold.node).flatMap Node.literals = [] := by
      refine shellNodes ?_
      cases threshold with
      | none => simp
      | some t =>
        by_cases marked : t.marked <;>
          simp [Threshold.node,marked,shellKinds,aroundKinds]
    simp only [Form.masked,Form.literals,node,children,maskedOther root,literalsOther root,List.map_cons,
      List.flatMap_cons,masked,literals,threshold'.1,threshold'.2,List.append_nil]
    exact ⟨trivial,trivial⟩

/-- Queries whose trees are the same behind their masks are the same behind theirs. -/
theorem maskedUnique {p q : Form} (same : p.node.masked = q.node.masked) : p.masked = q.masked :=
  nodeUnique ((nodeMasked p).1.trans (same.trans (nodeMasked q).1.symm))

/-- Such queries have the same number of strings. -/
theorem literalsCount {p q : Form} (same : p.masked = q.masked) :
    p.literals.length = q.literals.length := by
  have count (q : Form) : q.masked.literals.length = q.literals.length := by
    cases q with
    | call name args => rfl
    | rows s => exact sourceCount s
    | matrix m ranking threshold =>
      simp only [Form.masked,Form.literals,maskedSource,sourceCount]
  rw [← count p,same,count q]

end Form
end LogSql.Query
