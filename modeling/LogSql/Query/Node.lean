import LogSql.Text.Basic

/-!
Query trees. A node carries the name of the grammar rule that produced it, a literal text and its
children in source order. Looking a rule up searches all proper descendants, parents before their
children and older siblings first.
-/
namespace LogSql.Query

/-- A tree node. -/
inductive Node where
  | mk (kind value : Text) (children : List Node)
  deriving Repr, Inhabited

namespace Node

/-- The grammar rule. -/
def kind : Node → Text
  | mk k _ _ => k

/-- The literal text; strings are unquoted. -/
def value : Node → Text
  | mk _ v _ => v

/-- The direct children. -/
def children : Node → List Node
  | mk _ _ cs => cs

/-- A node without children. -/
def leaf (kind value : Text) : Node := mk kind value []

mutual

/-- The first proper descendant of a kind. -/
def find? (kind : Text) : Node → Option Node
  | mk _ _ cs => findIn? kind cs

@[inherit_doc find?]
def findIn? (kind : Text) : List Node → Option Node
  | [] => none
  | c :: cs =>
    if c.kind = kind then some c
    else match find? kind c with
      | some n => some n
      | none => findIn? kind cs

end

mutual

/-- All proper descendants of a kind. -/
def findAll (kind : Text) : Node → List Node
  | mk _ _ cs => findAllIn kind cs

@[inherit_doc findAll]
def findAllIn (kind : Text) : List Node → List Node
  | [] => []
  | c :: cs =>
    let below := findAll kind c ++ findAllIn kind cs
    if c.kind = kind then c :: below else below

end

/-- The first direct child of a kind. -/
def child? (n : Node) (kind : Text) : Option Node := n.children.find? fun c => c.kind = kind

/-- The text of the first descendant of a kind, empty when there is none. -/
def valueOf (n : Node) (kind : Text) : Text := ((n.find? kind).map value).getD []

/-- Whether a descendant of one of the kinds exists. -/
def hasAny (n : Node) (kinds : List Text) : Bool := kinds.any fun k => (n.find? k).isSome

mutual

/-- The tree as indented lines, one for each node. -/
def outline (depth : Nat) : Node → Text
  | mk k v cs =>
    (List.replicate (2 * depth) (Text.byte ' ')) ++ k ++
      (if v.isEmpty then [] else Text.byte ' ' :: v) ++ [10] ++ outlineIn (depth + 1) cs

@[inherit_doc outline]
def outlineIn (depth : Nat) : List Node → Text
  | [] => []
  | c :: cs => outline depth c ++ outlineIn depth cs

end

/-- Follows child positions from a node. -/
def descend (n : Node) : List Nat → Option Node
  | [] => some n
  | i :: path =>
    match n.children[i]? with
    | some c => descend c path
    | none => none

end Node

/-! The names of the grammar rules. -/
namespace Kind

def root : Text := "root"
def userMacro : Text := "user_macro"
def macroArg : Text := "macro_arg"
def logStreamSelector : Text := "log_stream_selector"
def logStreamSelectorRule : Text := "log_stream_selector_rule"
def label : Text := "label"
def operator : Text := "operator"
def quotedStr : Text := "quoted_str"
def logPipeline : Text := "log_pipeline"
def lineFilterExpression : Text := "line_filter_expression"
def lineFilterOperator : Text := "line_filter_operator"
def parserExpression : Text := "parser_expression"
def parserFnName : Text := "parser_fn_name"
def parserParam : Text := "parser_param"
def labelFilterPipeline : Text := "label_filter_pipeline"
def complexLabelFilterExpression : Text := "complex_label_filter_expression"
def labelFilterOr : Text := "label_filter_or"
def labelFilterAnd : Text := "label_filter_and"
def simpleLabelFilter : Text := "simple_label_filter"
def labelFilterOperator : Text := "label_filter_operator"
def lineFormatExpression : Text := "line_format_expression"
def labelsFormatExpression : Text := "labels_format_expression"
def labelsFormatRule : Text := "labels_format_rule"
def numberValue : Text := "number_value"
def durationValue : Text := "duration_value"
def bytesValue : Text := "bytes_value"
def aggStatement : Text := "agg_statement"
def logRangeAggregation : Text := "log_range_aggregation"
def logRangeAggregationFn : Text := "log_range_aggregation_fn"
def aggregationOperator : Text := "aggregation_operator"
def aggregationOperatorFn : Text := "aggregation_operator_fn"
def optByWithout : Text := "opt_by_without"
def optByWithoutUnwrap : Text := "opt_by_without_unwrap"
def byWithout : Text := "by_without"
def unwrapFunction : Text := "unwrap_function"
def unwrapFn : Text := "unwrap_fn"
def unwrapExpression : Text := "unwrap_expression"
def unwrapStatement : Text := "unwrap_statement"
def unwrapConversion : Text := "unwrap_conversion"
def unwrapValueStatement : Text := "unwrap_value_statement"
def parameterValue : Text := "parameter_value"
def parameterizedExpression : Text := "parameterized_expression"
def parameterizedExpressionFn : Text := "parameterized_expression_fn"
def parameterizedUnwrapped : Text := "parameterized_unwrapped_expression"
def parameterizedUnwrappedFn : Text := "parameterized_unwrapped_expression_fn"
def comparedAggStatementCmp : Text := "compared_agg_statement_cmp"
def numberOperator : Text := "number_operator"
def boolModifier : Text := "bool_modifier"

end Kind
end LogSql.Query
