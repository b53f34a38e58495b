import LogSql.Query.Lexer
import LogSql.Query.Node
import LogSql.Time.Duration

/-!
From tokens to trees, by recursive descent. Statements and filter groups may nest to a fixed depth;
that depth is also what the recursion runs on. Lists are read as long as tokens are ahead.
-/
namespace LogSql.Query

/-! ### Function names by their place in the grammar -/

def logRangeFunctions : List Text :=
  ["rate", "count_over_time", "bytes_rate", "bytes_over_time"]

def unwrapFunctions : List Text :=
  ["rate", "sum_over_time", "avg_over_time", "max_over_time", "min_over_time", "first_over_time",
   "last_over_time", "stddev_over_time", "stdvar_over_time"]

def parameterizedUnwrappedFunctions : List Text := ["quantile_over_time"]

def aggregationFunctions : List Text :=
  ["sum", "min", "max", "avg", "count", "stddev", "stdvar"]

def parameterizedFunctions : List Text := ["topk", "bottomk"]

def parserFunctions : List Text := ["json", "logfmt", "regexp"]

def unwrapConversions : List Text := ["bytes", "duration", "duration_seconds"]

/-- How deep statements and filter groups may nest. -/
def maxDepth : Nat := 64

/-! ### Looking ahead and moving on -/

/-- The tokens still to be read; the end token stays when they are used up. -/
structure Cursor where
  ahead : List Token
  stop : Token
  deriving DecidableEq, Repr

/-- A parsing step. -/
abbrev Parse := StateT Cursor (Except Error)

namespace Parse

/-- The token `n` places ahead, the end token beyond the last one. -/
def peek (n : Nat) : Parse Token := do
  let c ← get
  return (c.ahead[n]?).getD c.stop

/-- The current token. -/
def current : Parse Token := peek 0

/-- Moves past the current token and returns it; the end token is never passed. -/
def next : Parse Token := do
  let c ← get
  match c.ahead with
  | [] => return c.stop
  | t :: rest =>
    set { c with ahead := rest }
    return t

/-- Fails at a token. -/
def failAt {α : Type} (t : Token) (p : Problem) : Parse α := throw (.at_ t.pos p)

/-- Whether the current token has a kind. -/
def is (kind : TokenKind) : Parse Bool := return (← current).kind = kind

/-- Whether the current token is the given identifier. -/
def isWord (word : Text) : Parse Bool := do
  let t ← current
  return t.kind = .identifier ∧ t.literal = word

/-- Moves past a token that must have the given kind. -/
def expect (kind : TokenKind) : Parse Token := do
  let t ← current
  if t.kind = kind then next else failAt t (.expected kind t)

/-- A bound on the number of steps that can still consume a token. -/
def fuel : Parse Nat := return (← get).ahead.length + 1

/-- Repeats a step until it declines, at most `n` times. -/
def repeatStep {α : Type} (step : Parse (Option α)) : Nat → Parse (List α)
  | 0 => return []
  | n + 1 => do
    match ← step with
    | none => return []
    | some a => return a :: (← repeatStep step n)

/-- Repeats a step until it declines; each accepted step moves past a token. -/
def many {α : Type} (step : Parse (Option α)) : Parse (List α) := do
  repeatStep step (← fuel)

/-- Items separated by commas up to a closing parenthesis, which is not read; a comma may precede
it. -/
def listBeforeParen {α : Type} (item : Parse α) : Nat → Parse (List α)
  | 0 => return []
  | n + 1 => do
    if ← is .rightParen then return []
    let a ← item
    if ← is .comma then
      let _ ← next
      return a :: (← listBeforeParen item n)
    return [a]

end Parse

open Parse

/-! ### Selectors and pipeline stages -/

/-- A rule of a stream selector: label, operator, value. -/
def selectorRule : Parse Node := do
  let label ← expect .identifier
  let op ← next
  unless op.kind ∈ [.equal, .notEqual, .match_, .notMatch] do failAt op (.notAMatcher op)
  let val ← expect .string
  return .mk Kind.logStreamSelectorRule []
    [.leaf Kind.label label.literal, .leaf Kind.operator op.literal,
     .leaf Kind.quotedStr val.literal]

/-- A stream selector. -/
def selector : Parse Node := do
  let _ ← expect .leftBrace
  let first ← selectorRule
  let more ← many do
    if ← is .comma then
      let _ ← next
      return some (← selectorRule)
    return none
  let _ ← expect .rightBrace
  return .mk Kind.logStreamSelector [] (first :: more)

/-- A simple filter on a label, or a group in parentheses. -/
def filterPrimary (group : Parse Node) : Parse Node := do
  if ← is .leftParen then
    let _ ← next
    let inner ← group
    let _ ← expect .rightParen
    return inner
  let label ← expect .identifier
  let op ← next
  unless op.kind ∈ [.equal, .notEqual, .match_, .notMatch, .equalEqual, .greater, .greaterEqual,
      .less, .lessEqual] do
    failAt op (.notAFilterOperator op)
  let val ← next
  let value ← match val.kind with
    | .string => pure (Node.leaf Kind.quotedStr val.literal)
    | .number => pure (Node.leaf Kind.numberValue val.literal)
    | .duration =>
      match Duration.readClock val.literal with
      | .ok _ => pure (Node.leaf Kind.durationValue val.literal)
      | .error _ => failAt val (.badDuration val.literal)
    | .bytes => pure (Node.leaf Kind.bytesValue val.literal)
    | _ => failAt val (.notAFilterValue val)
  if (op.kind = .match_ ∨ op.kind = .notMatch) ∧ val.kind ≠ .string then
    failAt val .patternNotString
  return .mk Kind.simpleLabelFilter []
    [.leaf Kind.label label.literal, .leaf Kind.labelFilterOperator op.literal, value]

/-- Filters joined by `and` or commas. -/
def filterAnd (group : Parse Node) : Parse Node := do
  let left ← filterPrimary group
  let more ← many do
    if (← isWord "and") || (← is .comma) then
      let _ ← next
      return some (← filterPrimary group)
    return none
  return if more.isEmpty then left else .mk Kind.labelFilterAnd [] (left :: more)

/-- Filters joined by `or`, with `room` levels left for groups. -/
def filterOr : (room : Nat) → Parse Node
  | 0 => do
    let t ← current
    failAt t .nestedTooDeeply
  | room + 1 => do
    let group := filterOr room
    let left ← filterAnd group
    let more ← many do
      if ← isWord "or" then
        let _ ← next
        return some (← filterAnd group)
      return none
    return if more.isEmpty then left else .mk Kind.labelFilterOr [] (left :: more)

/-- Parameters of the json stage: label, equal sign, path. -/
def jsonParams : Nat → Parse (List Node)
  | 0 => return []
  | n + 1 => do
    unless (← peek 0).kind = .identifier ∧ (← peek 1).kind = .equal ∧ (← peek 2).kind = .string do
      return []
    let label ← next
    let _ ← next
    let path ← next
    let param := Node.mk Kind.parserParam []
      [.leaf Kind.label label.literal, .leaf Kind.quotedStr path.literal]
    if ← is .comma then
      let _ ← next
      return param :: (← jsonParams n)
    return [param]

/-- A parser stage after the pipe. -/
def parserStage : Parse Node := do
  let fn ← next
  let params ←
    if fn.literal = ("regexp" : Text) then do
      let re ← expect .string
      pure [Node.leaf Kind.quotedStr re.literal]
    else if fn.literal = ("json" : Text) then jsonParams (← fuel)
    else pure []
  return .mk Kind.parserExpression [] (.leaf Kind.parserFnName fn.literal :: params)

/-- A rule of the label format stage. -/
def labelsFormatRule : Parse Node := do
  let dst ← expect .identifier
  let _ ← expect .equal
  let src ← next
  match src.kind with
  | .identifier =>
    return .mk Kind.labelsFormatRule []
      [.leaf Kind.label dst.literal, .leaf Kind.label src.literal]
  | .string =>
    return .mk Kind.labelsFormatRule []
      [.leaf Kind.label dst.literal, .leaf Kind.quotedStr src.literal]
  | _ => failAt src (.notAFormatSource src)

/-- The rules of a label format stage. -/
def labelsFormat : Parse Node := do
  let first ← labelsFormatRule
  let more ← many do
    if ← is .comma then
      let _ ← next
      return some (← labelsFormatRule)
    return none
  return .mk Kind.labelsFormatExpression [] (first :: more)

/-- A pipeline stage, or nothing when none starts here. Before an unwrap clause the stages end when
one may follow. -/
def stage (room : Nat) (allowUnwrap : Bool) : Parse (Option Node) := do
  let t ← current
  match t.kind with
  | .pipeExact | .pipeMatch | .notEqual | .notMatch =>
    let op ← next
    let val ← expect .string
    return some (.mk Kind.lineFilterExpression []
      [.leaf Kind.lineFilterOperator op.literal, .leaf Kind.quotedStr val.literal])
  | .pipe =>
    let kw ← peek 1
    let word := kw.kind = .identifier
    if word ∧ (kw.literal = ("unwrap" : Text) ∨ kw.literal = ("unwrap_value" : Text)) then
      if allowUnwrap then return none
      failAt kw .misplacedUnwrap
    let _ ← next
    if word ∧ kw.literal ∈ parserFunctions then return some (← parserStage)
    if word ∧ kw.literal = ("line_format" : Text) then
      let _ ← next
      let tmpl ← expect .string
      return some (.mk Kind.lineFormatExpression [] [.leaf Kind.quotedStr tmpl.literal])
    if word ∧ kw.literal = ("label_format" : Text) then
      let _ ← next
      return some (← labelsFormat)
    if word ∨ kw.kind = .leftParen then
      let filter ← filterOr room
      return some (.mk Kind.labelFilterPipeline []
        [.mk Kind.complexLabelFilterExpression [] [filter]])
    failAt kw (.unexpectedStage kw)
  | _ => return none

/-- A stream selector and its pipeline. -/
def selectorExpr (room : Nat) (allowUnwrap : Bool) : Parse (List Node) := do
  let sel ← selector
  let stages ← many (stage room allowUnwrap)
  return sel :: stages.map fun s => .mk Kind.logPipeline [] [s]

/-! ### Aggregations -/

/-- A grouping clause. -/
def grouping (kind : Text) : Parse Node := do
  let kw ← next
  let _ ← expect .leftParen
  let labels ← listBeforeParen
    (do let label ← expect .identifier; return Node.leaf Kind.label label.literal) (← fuel)
  let _ ← expect .rightParen
  return .mk kind [] (.leaf Kind.byWithout kw.literal :: labels)

/-- Whether a grouping clause starts here. -/
def atGrouping : Parse Bool := return (← isWord "by") || (← isWord "without")

/-- A grouping clause, if one starts here. -/
def optGrouping (kind : Text) : Parse (List Node) := do
  if ← atGrouping then return [← grouping kind] else return []

/-- A numeric parameter. -/
def parameter : Parse Node := do
  let t ← expect .number
  match Number.readFloat t.literal with
  | .ok _ => return .leaf Kind.parameterValue t.literal
  | .error _ => failAt t (.badNumber t.literal)

/-- An unwrap clause, if one starts here. -/
def unwrapClause : Parse (Option Node) := do
  unless ← is .pipe do return none
  let _ ← next
  let kw ← next
  if kw.literal = ("unwrap_value" : Text) then
    return some (.leaf Kind.unwrapValueStatement [])
  let label ← expect .identifier
  let body ←
    if label.literal ∈ unwrapConversions ∧ (← is .leftParen) then do
      let _ ← next
      let inner ← expect .identifier
      let _ ← expect .rightParen
      pure [Node.leaf Kind.unwrapConversion label.literal, Node.leaf Kind.label inner.literal]
    else pure [Node.leaf Kind.label label.literal]
  return some (.mk Kind.unwrapExpression [] [.mk Kind.unwrapStatement [] body])

/-- A range function: an optional parameter, a selector with its pipeline, an optional unwrap
clause and the range. Its kind depends on the function and on the unwrap clause. -/
def rangeCall (room : Nat) : Parse Node := do
  let fn ← next
  let _ ← expect .leftParen
  let parameterized : Bool := fn.literal ∈ parameterizedUnwrappedFunctions
  let param ←
    if parameterized then do
      let p ← parameter
      let _ ← expect .comma
      pure [p]
    else pure []
  let body ← selectorExpr room true
  let unwrap ← unwrapClause
  let _ ← expect .leftBracket
  let dur ← expect .duration
  match Duration.readRange dur.literal with
  | .ok nanos => if nanos ≤ 0 then failAt dur (.badRange dur.literal)
  | .error _ => failAt dur (.badRange dur.literal)
  let _ ← expect .rightBracket
  let _ ← expect .rightParen
  let duration := Node.leaf Kind.durationValue dur.literal
  if parameterized then
    match unwrap with
    | none => failAt fn (.needsUnwrap fn.literal)
    | some clause =>
      let by_ ← optGrouping Kind.optByWithoutUnwrap
      return .mk Kind.parameterizedUnwrapped []
        (.leaf Kind.parameterizedUnwrappedFn fn.literal :: param ++ body ++
          [clause, duration] ++ by_)
  else
    match unwrap with
    | some clause =>
      unless fn.literal ∈ unwrapFunctions do failAt fn (.refusesUnwrap fn.literal)
      let by_ ← optGrouping Kind.optByWithoutUnwrap
      return .mk Kind.unwrapFunction []
        (.leaf Kind.unwrapFn fn.literal :: body ++ [clause, duration] ++ by_)
    | none =>
      unless fn.literal ∈ logRangeFunctions do failAt fn (.needsUnwrap fn.literal)
      return .mk Kind.logRangeAggregation []
        (.leaf Kind.logRangeAggregationFn fn.literal :: body ++ [duration])

/-- An aggregation over a range function; the grouping may stand before or after it. -/
def aggregationOperator (room : Nat) : Parse Node := do
  let fn ← next
  let before ← optGrouping Kind.optByWithout
  let _ ← expect .leftParen
  let inner ← current
  unless inner.kind = .identifier ∧
      (inner.literal ∈ logRangeFunctions ∨ inner.literal ∈ unwrapFunctions) do
    failAt inner (.notARange fn.literal inner)
  let call ← rangeCall room
  let _ ← expect .rightParen
  let by_ ← if before.isEmpty then optGrouping Kind.optByWithout else pure before
  return .mk Kind.aggregationOperator []
    (.leaf Kind.aggregationOperatorFn fn.literal :: by_ ++ [call])

/-- A ranking of an inner statement. -/
def parameterizedExpression (inner : Parse Node) : Parse Node := do
  let fn ← next
  let _ ← expect .leftParen
  let param ← parameter
  let _ ← expect .comma
  let t ← current
  if t.kind = .identifier ∧ t.literal ∈ parameterizedFunctions then
    failAt t (.nestedRanking t.literal fn.literal)
  let statement ← inner
  let _ ← expect .rightParen
  return .mk Kind.parameterizedExpression []
    [.leaf Kind.parameterizedExpressionFn fn.literal, param, statement]

/-- An aggregation statement, with `room` levels left. -/
def aggStatement : (room : Nat) → Parse Node
  | 0 => do
    let t ← current
    failAt t .nestedTooDeeply
  | room + 1 => do
    let fn ← current
    unless fn.kind = .identifier do failAt fn (.notAQuery fn)
    let node ←
      if fn.literal ∈ aggregationFunctions then aggregationOperator room
      else if fn.literal ∈ parameterizedFunctions then
        parameterizedExpression (aggStatement room)
      else if fn.literal ∈ logRangeFunctions ∨ fn.literal ∈ unwrapFunctions ∨
          fn.literal ∈ parameterizedUnwrappedFunctions then rangeCall room
      else failAt fn (.unknownFunction fn.literal)
    return .mk Kind.aggStatement [] [node]

/-- A comparison with a number, if one starts here. -/
def comparison : Parse (List Node) := do
  let op ← current
  unless op.kind ∈ [.greater, .greaterEqual, .less, .lessEqual, .equalEqual, .notEqual] do
    return []
  let _ ← next
  let asBool ← isWord "bool"
  if asBool then
    let _ ← next
  let num ← expect .number
  match Number.readFloat num.literal with
  | .error _ => failAt num (.badNumber num.literal)
  | .ok _ =>
    return [.mk Kind.comparedAggStatementCmp []
      (.leaf Kind.numberOperator op.literal ::
        (if asBool then [.leaf Kind.boolModifier "bool"] else []) ++
        [.leaf Kind.numberValue num.literal])]

/-! ### Queries -/

/-- A call of a user macro. -/
def macroCall : Parse Node := do
  let name ← next
  let _ ← expect .leftParen
  let args ← listBeforeParen
    (do let arg ← expect .string; return Node.leaf Kind.macroArg arg.literal) (← fuel)
  let _ ← expect .rightParen
  return .mk Kind.userMacro name.literal [.mk name.literal name.literal args]

/-- A whole query, given the names of the user macros. -/
def query (macros : List Text) : Parse Node := do
  let t ← current
  let children ←
    if t.kind = .identifier ∧ t.literal ∈ macros ∧ (← peek 1).kind = .leftParen then do
      pure [← macroCall]
    else if t.kind = .leftBrace then selectorExpr maxDepth false
    else do
      let agg ← aggStatement maxDepth
      pure (agg :: (← comparison))
  let stop ← current
  unless stop.kind = .eof do failAt stop (.unexpected stop)
  return .mk Kind.root [] children

/-- Reads a query from its text. -/
def parse (macros : List Text) (t : Text) : Except Error Node := do
  if (Text.trim t).isEmpty then throw .blank
  let ts ← tokenize t
  let (node, _) ← (query macros).run ⟨ts.tokens, ts.eof⟩
  return node

end LogSql.Query
