import LogSql.Query.Parser
import LogSql.Proofs.Query.Search
import LogSql.Proofs.Text.Strings

/-! The forms of queries: what a query tree says, without the tree. Each form carries what the reader
has checked, so that a symbol without a meaning or a range without a length cannot be written, and
each form has one tree. -/
namespace LogSql.Query.Form

/-! ### Selectors and stages -/

/-- The operators of selector rules. -/
def matchers : List Text := ["=", "!=", "=~", "!~"]

/-- A rule of a stream selector. -/
structure Rule where
  label : Text
  operator : Text
  value : Text
  known : operator ∈ matchers

def Rule.node (r : Rule) : Node :=
  .mk Kind.logStreamSelectorRule []
    [.leaf Kind.label r.label, .leaf Kind.operator r.operator, .leaf Kind.quotedStr r.value]

/-- The operators of label filters that compare numbers and texts. -/
def comparators : List Text := ["=", "!=", "==", ">", ">=", "<", "<="]

/-- The operators of label filters that match patterns. -/
def patternOperators : List Text := ["=~", "!~"]

/-- What a label filter compares with, and the operators it allows. -/
inductive Operand (operator : Text) where
  | text (t : Text) (known : operator ∈ comparators ∨ operator ∈ patternOperators)
  | number (t : Text) (known : operator ∈ comparators)
  | duration (t : Text) (known : operator ∈ comparators)
      (readable : ∃ d, Duration.readClock t = .ok d)
  | bytes (t : Text) (known : operator ∈ comparators)

def Operand.node {operator : Text} : Operand operator → Node
  | text t _ => .leaf Kind.quotedStr t
  | number t _ => .leaf Kind.numberValue t
  | duration t _ _ => .leaf Kind.durationValue t
  | bytes t _ => .leaf Kind.bytesValue t

/-- A filter on one label. -/
structure Test where
  label : Text
  operator : Text
  operand : Operand operator

def Test.node (t : Test) : Node :=
  .mk Kind.simpleLabelFilter []
    [.leaf Kind.label t.label, .leaf Kind.labelFilterOperator t.operator, t.operand.node]

/-- The trees of label filters: tests, and groups of at least two filters. -/
inductive Filter : Node → Prop where
  | test (t : Test) : Filter t.node
  | all {parts : List Node} (two : 2 ≤ parts.length) (each : ∀ p ∈ parts, Filter p) :
      Filter (.mk Kind.labelFilterAnd [] parts)
  | any {parts : List Node} (two : 2 ≤ parts.length) (each : ∀ p ∈ parts, Filter p) :
      Filter (.mk Kind.labelFilterOr [] parts)

/-- The operators of line filters. -/
def lineOperators : List Text := ["|=", "|~", "!=", "!~"]

/-- What a label of the label format stage is set to. -/
inductive LabelSource where
  | label (name : Text)
  | template (t : Text)

def LabelSource.node : LabelSource → Node
  | label name => .leaf Kind.label name
  | template t => .leaf Kind.quotedStr t

/-- A stage of a log pipeline. -/
inductive Stage where
  | line (operator text : Text) (known : operator ∈ lineOperators)
  | json (params : List (Text × Text))
  | logfmt
  | regexp (pattern : Text)
  | filter (body : Node) (form : Filter body)
  | lineFormat (template : Text)
  | labelsFormat (rules : List (Text × LabelSource))

def paramNode (p : Text × Text) : Node :=
  .mk Kind.parserParam [] [.leaf Kind.label p.1, .leaf Kind.quotedStr p.2]

def labelRuleNode (r : Text × LabelSource) : Node :=
  .mk Kind.labelsFormatRule [] [.leaf Kind.label r.1, r.2.node]

def parserNode (fn : Text) (params : List Node) : Node :=
  .mk Kind.parserExpression [] (.leaf Kind.parserFnName fn :: params)

def Stage.node : Stage → Node
  | line operator text _ =>
    .mk Kind.lineFilterExpression []
      [.leaf Kind.lineFilterOperator operator, .leaf Kind.quotedStr text]
  | json params => parserNode "json" (params.map paramNode)
  | logfmt => parserNode "logfmt" []
  | regexp pattern => parserNode "regexp" [.leaf Kind.quotedStr pattern]
  | filter body _ =>
    .mk Kind.labelFilterPipeline [] [.mk Kind.complexLabelFilterExpression [] [body]]
  | lineFormat template => .mk Kind.lineFormatExpression [] [.leaf Kind.quotedStr template]
  | labelsFormat rules => .mk Kind.labelsFormatExpression [] (rules.map labelRuleNode)

/-- A stream selector with its pipeline. -/
structure Source where
  rules : List Rule
  some : rules ≠ []
  stages : List Stage

/-- The node that holds a stage. -/
def pipelineNode (s : Stage) : Node := .mk Kind.logPipeline [] [s.node]

def Source.nodes (s : Source) : List Node :=
  .mk Kind.logStreamSelector [] (s.rules.map Rule.node) :: s.stages.map pipelineNode

/-! ### Aggregations -/

/-- A grouping clause. -/
structure Grouping where
  word : Text
  labels : List Text
  known : word = ("by" : Text) ∨ word = ("without" : Text)

def Grouping.node (kind : Text) (g : Grouping) : Node :=
  .mk kind [] (.leaf Kind.byWithout g.word :: g.labels.map (.leaf Kind.label))

/-- What an unwrap function combines: the value of the sample, or a label read as a number. -/
inductive Unwrap where
  | value
  | label (name : Text)
  | converted (conversion name : Text) (known : conversion ∈ unwrapConversions)

def Unwrap.node : Unwrap → Node
  | value => .leaf Kind.unwrapValueStatement []
  | label name =>
    .mk Kind.unwrapExpression [] [.mk Kind.unwrapStatement [] [.leaf Kind.label name]]
  | converted conversion name _ =>
    .mk Kind.unwrapExpression [] [.mk Kind.unwrapStatement []
      [.leaf Kind.unwrapConversion conversion, .leaf Kind.label name]]

def Unwrap.isValue : Unwrap → Bool
  | value => true
  | _ => false

/-- The range of an aggregation: a positive duration. -/
structure Span where
  text : Text
  positive : ∃ nanos, Duration.readRange text = .ok nanos ∧ 0 < nanos

/-- A number in a query. -/
structure Numeral where
  text : Text
  readable : ∃ x, Number.readFloat text = .ok x

/-- An unwrap function at work: everything but its own name. -/
structure Unwrapped where
  source : Source
  clause : Unwrap
  span : Span
  grouping : Option Grouping

def Unwrapped.nodes (u : Unwrapped) : List Node :=
  u.source.nodes ++ [u.clause.node, .leaf Kind.durationValue u.span.text] ++
    u.grouping.toList.map (Grouping.node Kind.optByWithoutUnwrap)

/-- A function over ranges that an aggregation can combine. -/
inductive Range where
  | log (fn : Text) (known : fn ∈ logRangeFunctions) (source : Source) (span : Span)
  | unwrap (fn : Text) (known : fn ∈ unwrapFunctions) (body : Unwrapped)

def Range.node : Range → Node
  | log fn _ source span =>
    .mk Kind.logRangeAggregation []
      (.leaf Kind.logRangeAggregationFn fn :: source.nodes ++ [.leaf Kind.durationValue span.text])
  | unwrap fn _ body => .mk Kind.unwrapFunction [] (.leaf Kind.unwrapFn fn :: body.nodes)

/-- A matrix before its trailing modifiers. -/
inductive Matrix where
  | range (r : Range)
  | quantile (fn : Text) (known : fn ∈ parameterizedUnwrappedFunctions) (param : Numeral)
      (body : Unwrapped)
  | aggregate (fn : Text) (known : fn ∈ aggregationFunctions) (grouping : Option Grouping)
      (r : Range)

def Matrix.node : Matrix → Node
  | range r => r.node
  | quantile fn _ param body =>
    .mk Kind.parameterizedUnwrapped []
      (.leaf Kind.parameterizedUnwrappedFn fn :: .leaf Kind.parameterValue param.text :: body.nodes)
  | aggregate fn _ grouping r =>
    .mk Kind.aggregationOperator [] (.leaf Kind.aggregationOperatorFn fn ::
      grouping.toList.map (Grouping.node Kind.optByWithout) ++ [r.node])

/-- A ranking of series. -/
structure Ranking where
  fn : Text
  known : fn ∈ parameterizedFunctions
  param : Numeral

/-- An aggregation statement: a matrix that may be ranked. -/
def statementNode (m : Matrix) : Option Ranking → Node
  | none => .mk Kind.aggStatement [] [m.node]
  | some r =>
    .mk Kind.aggStatement [] [.mk Kind.parameterizedExpression []
      [.leaf Kind.parameterizedExpressionFn r.fn, .leaf Kind.parameterValue r.param.text,
        .mk Kind.aggStatement [] [m.node]]]

/-- The operators that compare samples. -/
def thresholdOperators : List Text := [">", ">=", "<", "<=", "==", "!="]

/-- A comparison of samples with a number. -/
structure Threshold where
  operator : Text
  known : operator ∈ thresholdOperators
  marked : Bool
  bound : Numeral

def Threshold.node (t : Threshold) : Node :=
  .mk Kind.comparedAggStatementCmp []
    (Node.leaf Kind.numberOperator t.operator ::
      (if t.marked then [Node.leaf Kind.boolModifier "bool"] else []) ++
      [Node.leaf Kind.numberValue t.bound.text])

end Form

/-- A query. -/
inductive Form where
  | call (name : Text) (args : List Text)
  | rows (s : Form.Source)
  | matrix (m : Form.Matrix) (ranking : Option Form.Ranking) (threshold : Option Form.Threshold)

namespace Form

def children : Form → List Node
  | call name args => [.mk Kind.userMacro name [.mk name name (args.map (.leaf Kind.macroArg))]]
  | rows s => s.nodes
  | matrix m ranking threshold => statementNode m ranking :: threshold.toList.map Threshold.node

/-- The tree of a query. -/
def node (q : Form) : Node := .mk Kind.root [] q.children

end Form
end LogSql.Query
