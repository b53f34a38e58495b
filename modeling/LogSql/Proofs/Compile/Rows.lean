import LogSql.Proofs.Compile.Families

/-! The rows that a pipeline selects. Before anything is aggregated a statement is the base statement
with some conditions, an expression for the line and perhaps extracted labels; what the handlers do to
a statement is said here once in these terms, and later proofs speak of rows only. -/
namespace LogSql.Compile

open Query
open Sql (Expr Select SelectOf Named Join)

/-- Rows under construction: the conditions on their streams and on themselves, the line, the labels
that were extracted and the stages left to the client. -/
structure Rows where
  streams : List Expr := []
  line : Expr := "samples.string"
  extra : Option Expr := none
  filters : List Expr := []
  hooks : List Hook := []

/-- What is read from every row: its line, the value of the sample, or a number beside the line. -/
inductive Projection where
  | line
  | sample
  | number (e : Expr)

namespace Projection

/-- The columns of rows, given the line and what stands beside it. -/
def columns (line : Expr) (others : List (Named Expr)) : Projection → List (Named Expr)
  | .line => ⟨line, lineColumn⟩ :: others
  | sample => others ++ [⟨"samples.value", unwrappedColumn⟩]
  | number e => ⟨line, lineColumn⟩ :: others ++ [⟨e, unwrappedColumn⟩]

/-- Rows whose label is no number are left out. -/
def filters : Projection → List Expr
  | number _ => [.call "isNotNull" [.raw unwrappedColumn]]
  | _ => []

end Projection

/-- The labels of a row's stream as a column. -/
def labelsEntry : Named Expr :=
  ⟨.raw (.concat ["JSONExtractKeysAndValues(", streamSelection, ".labels, 'String')"]), labelsColumn⟩

/-- The join that the labels of a row's stream come from. -/
def labelsJoin (source : Text) : Join Expr :=
  { kind := "ANY LEFT", table := .raw streamSelection
    on := some (.eq (.raw (source ++ ".fingerprint")) (.raw (streamSelection ++ ".fingerprint"))) }

/-- The streams of the rows are the selected ones. -/
def selectedStreams : Expr :=
  .isIn "samples.fingerprint" (.sub (.raw ("SELECT fingerprint FROM " ++ streamSelection)))

namespace Rows

/-- The statement that selects the streams. -/
def selection (r : Rows) (legacy : Bool) : Select :=
  { baseSelection legacy with filters := dateCondition legacy :: r.streams }

/-- The columns beside the line. -/
def others (r : Rows) (joinLabels : Bool) : List (Named Expr) :=
  [⟨"samples.fingerprint", "fingerprint"⟩, ⟨timestampExpr, timestampColumn⟩] ++
    (if joinLabels then [labelsEntry] else []) ++ r.extra.toList.map fun e => ⟨e, extraColumn⟩

/-- The statement that reads the rows, apart from the selection of their streams. -/
def body (r : Rows) (p : Projection) (c : Context) (orders : List (Named Expr)) : Select :=
  { columns := p.columns r.line (r.others c.joinLabels)
    source := some (.cell samplesCell)
    sourceAlias := "samples"
    joins := if c.joinLabels then [labelsJoin "samples"] else []
    filters := [windowCondition, selectedStreams] ++ r.filters ++ p.filters
    orders
    limit := some (.cell limitCell)
    params := baseCells }

/-- The draft that reads the rows. -/
def draft (r : Rows) (p : Projection) (c : Context) (orders : List (Named Expr)) : Draft :=
  { select := { r.body p c orders with
      withs := [⟨.query (r.selection c.legacy), streamSelection⟩] }
    bindings := [(limitCell, .int defaultLimit)]
    context := c
    hooks := r.hooks }

/-- The draft of rows whose surroundings do not matter. -/
def plain (r : Rows) : Draft := r.draft .line {} []

end Rows

variable {c : Context} {orders : List (Named Expr)}

theorem startRows (c : Context) (orders : List (Named Expr)) :
    (Draft.start c).orderBy orders = Rows.draft {} .line c orders := by
  cases joined : c.joinLabels <;>
    simp [Draft.start,Draft.orderBy,Draft.mapSelect,Rows.draft,Rows.body,Rows.others,Rows.selection,
      baseSelect,baseSelection,joinStreamLabels,SelectOf.addColumn,labelsEntry,labelsJoin,
      selectedStreams,Projection.columns,Projection.filters,joined]

theorem startByTime (c : Context) : Draft.start c = Rows.draft {} .line c [byTime "desc"] := by
  rw [← startRows]
  cases joined : c.joinLabels <;>
    simp [Draft.start,Draft.orderBy,Draft.mapSelect,baseSelect,joinStreamLabels,SelectOf.addColumn,
      joined]

/-! ### What handlers ask of a draft, and what they do to it -/

namespace Rows

variable (r : Rows)

/-- The rows with one more condition on their streams. -/
def choose (cond : Expr) : Rows := { r with streams := r.streams ++ [cond] }

/-- The rows with one more condition. -/
def keep (cond : Expr) : Rows := { r with filters := r.filters ++ [cond] }

/-- The rows with one more stage left to the client. -/
def leave (h : Hook) : Rows := { r with hooks := r.hooks ++ [h] }

/-- The rows with extracted labels in front of those extracted before. -/
def extract (labels : Expr) : Rows :=
  { r with extra := some (match r.extra with
      | some e => .call "arrayConcat" [labels, e]
      | none => labels) }

/-- Whether a stage was left to the client. -/
def onClient : Bool := !r.hooks.isEmpty

@[simp] theorem draftChoose (cond : Expr) :
    (r.draft .line c orders).addStreamCondition cond = .ok ((r.choose cond).draft .line c orders) := by
  simp [Draft.addStreamCondition,Draft.selection?,SelectOf.with?,draft,Draft.mapSelect,
    SelectOf.modifyWith,SelectOf.modifyWith.go,SelectOf.andWhere,choose,selection,body,others]

@[simp] theorem draftKeep (cond : Expr) :
    (r.draft .line c orders).addWhere cond = (r.keep cond).draft .line c orders := by
  simp [Draft.addWhere,Draft.mapSelect,SelectOf.andWhere,draft,body,keep,selection,others,
    Projection.filters]

@[simp] theorem draftLeave (h : Hook) :
    (r.draft .line c orders).addHook h = (r.leave h).draft .line c orders := rfl

@[simp] theorem draftOnClient (p : Projection) : (r.draft p c orders).onClient = r.onClient := rfl

@[simp] theorem draftLine : (r.draft .line c orders).lineExpr = r.line := by
  simp [Draft.lineExpr,SelectOf.column?,draft,body,Projection.columns]

theorem othersColumn (joinLabels : Bool) :
    (r.others joinLabels).find? (fun e => e.name = extraColumn) =
      r.extra.map fun e => ⟨e,extraColumn⟩ := by
  cases joinLabels <;> cases found : r.extra <;>
    simp [others,found,labelsEntry,timestampColumn,extraColumn,labelsColumn]

theorem draftExtraColumn (p : Projection) :
    (r.draft p c orders).select.column? extraColumn = r.extra.map fun e => ⟨e,extraColumn⟩ := by
  have names : lineColumn ≠ extraColumn ∧ unwrappedColumn ≠ extraColumn := by
    simp [lineColumn,unwrappedColumn,extraColumn]
  cases p <;>
    simp [SelectOf.column?,draft,body,Projection.columns,othersColumn,List.find?_append,names]

@[simp] theorem draftHasExtra (p : Projection) :
    (r.draft p c orders).hasExtraLabels = r.extra.isSome := by
  simp [Draft.hasExtraLabels,draftExtraColumn]

@[simp] theorem draftLabelValue (p : Projection) (name : Text) :
    (r.draft p c orders).labelValue name = r.plain.labelValue name := by
  simp [Draft.labelValue,plain]

theorem replaceLast {ε : Type} (name : Text) (before : List (Named ε)) (old new : ε)
    (fresh : ∀ e ∈ before, e.name ≠ name) :
    SelectOf.replaceColumn.go name new (before ++ [⟨old,name⟩]) = some (before ++ [⟨new,name⟩]) := by
  induction before with
  | nil => simp [SelectOf.replaceColumn.go]
  | cons first before ih =>
    have head := fresh first List.mem_cons_self
    have tail := ih fun e mem => fresh e (List.mem_cons_of_mem _ mem)
    simp [SelectOf.replaceColumn.go,head,tail]

@[simp] theorem draftExtract (labels : Expr) :
    (r.draft .line c orders).addExtraLabels labels = (r.extract labels).draft .line c orders := by
  rw [Draft.addExtraLabels,draftExtraColumn]
  cases found : r.extra with
  | none =>
    simp [found,Draft.mapSelect,SelectOf.addColumn,draft,body,others,extract,selection,
      Projection.columns]
  | some e =>
    -- The column of the extracted labels is the last one, so only its expression changes.
    have fresh : ∀ x ∈ (⟨r.line,lineColumn⟩ : Named Expr) ::
        [⟨"samples.fingerprint", "fingerprint"⟩, ⟨timestampExpr, timestampColumn⟩] ++
          (if c.joinLabels then [labelsEntry] else []), x.name ≠ extraColumn := by
      cases c.joinLabels <;>
        simp [labelsEntry,lineColumn,timestampColumn,labelsColumn,extraColumn]
    have replaced := replaceLast extraColumn _ e (.call "arrayConcat" [labels,e]) fresh
    simp only [List.cons_append,List.nil_append] at replaced
    simp [found,Draft.mapSelect,SelectOf.replaceColumn,draft,body,others,extract,selection,
      Projection.columns,replaced]

@[simp] theorem draftFormat (line : Expr) :
    (r.draft .line c orders).mapSelect (·.replaceColumn lineColumn line) =
      ({ r with line } : Rows).draft .line c orders := by
  simp [Draft.mapSelect,SelectOf.replaceColumn,SelectOf.replaceColumn.go,draft,body,others,selection,
    Projection.columns]

end Rows

mutual

theorem conditionRows (r : Rows) (p : Projection) :
    (n : Node) → condition (r.draft p c orders) n = condition r.plain n
  | .mk kind value children => by
    simp only [condition,conditionsRows r p children,simpleCondition,Rows.draftLabelValue]

theorem conditionsRows (r : Rows) (p : Projection) :
    (ns : List Node) → conditions (r.draft p c orders) ns = conditions r.plain ns
  | [] => rfl
  | n :: ns => by simp only [conditions,conditionRows r p n,conditionsRows r p ns]

end

theorem pieceRows (r : Rows) : pieceExpr (r.draft .line c orders) = pieceExpr r.plain := by
  funext piece
  cases piece <;> simp [pieceExpr,Rows.plain]

/-! ### Rules and stages -/

namespace Rows

/-- The condition of a selector rule. -/
def ruleCondition (rule : Form.Rule) : Except Error Expr :=
  let label := Expr.call "JSONExtractString" ["labels", .str rule.label]
  if rule.operator = ("=" : Text) ∨ rule.operator = ("!=" : Text) then
    .ok (.binary rule.operator label (.str rule.value))
  else
    (pattern rule.value).map fun _ => negateIf (rule.operator = ("!~" : Text))
      (.call "match" [label, .str (anchored rule.value)])

/-- The rows of the streams that a rule selects. -/
def rule (r : Rows) (rule : Form.Rule) : Except Error Rows := (ruleCondition rule).map r.choose

/-- The rows whose line contains a text. -/
def contains (negated : Bool) (needle : Text) (r : Rows) : Rows :=
  if r.onClient then r.leave (.contains needle negated)
  else if needle.isEmpty then if negated then r.keep "0" else r
  else r.keep (.binary (if negated then "=" else "!=") (.call "position" [r.line, .str needle]) (.int 0))

/-- The rows whose line matches a pattern. -/
def matching (negated : Bool) (re : Text) (r : Rows) : Except Error Rows :=
  (pattern re).map fun compiled =>
    if r.onClient then r.leave (.matches compiled negated)
    else r.keep (negateIf negated (.call "match" [r.line, .str re]))

/-- The labels of a document that no parameter names. -/
def allFields (line : Text) : Expr :=
  .raw (.concat [
    "arrayMap(x -> (x.1, if(JSONType(x.2) = 'String', JSONExtractString(x.2), x.2)), ",
    "JSONExtractKeysAndValuesRaw(", line, "))"])

/-- The rows with labels from lines that are JSON documents. -/
def json (params : List Node) (r : Rows) : Except Error Rows :=
  if r.onClient then (jsonFields params).map fun fields => r.leave (.json fields)
  else if params.isEmpty then .ok (r.extract (allFields (Draft.fixedText r.line)))
  else (params.mapM (jsonPair (Draft.fixedText r.line))).map fun pairs => r.extract (.array pairs)

/-- The labels of a line of pairs. -/
def pairFields (line : Text) : Expr :=
  let pairs : Text := .concat ["extractKeyValuePairs(", line, ", '=', ' ', '\"')"]
  .raw (.concat ["arrayZip(mapKeys(", pairs, "), mapValues(", pairs, "))"])

/-- The rows with labels from lines of pairs. -/
def logfmt (r : Rows) : Rows :=
  if r.onClient then r.leave .logfmt else r.extract (pairFields (Draft.fixedText r.line))

/-- The labels that the groups of a pattern capture. -/
def groupFields (line re : Text) (groups : List Text) : Expr :=
  .raw (.concat [
    "arrayFilter(x -> x.1 != '', if(match(", line, ", ", Sql.literal re, "), arrayZip([",
    Text.join ", " (groups.map Sql.literal), "], extractGroups(", line, ", ", Sql.literal re,
    ")), []))"])

/-- The rows with labels from the groups of a pattern. -/
def regexp (re : Text) (r : Rows) : Except Error Rows :=
  (pattern re).bind fun compiled =>
    if compiled.groupNames.all (·.isEmpty) then .error (.noNamedGroup re)
    else if r.onClient then .ok (r.leave (.groups compiled))
    else .ok (r.extract (groupFields (Draft.fixedText r.line) re compiled.groupNames))

/-- The rows that pass a label filter. -/
def filter (filterBody : Node) (r : Rows) : Except Error Rows :=
  if r.onClient then (predicate filterBody).map fun p => r.leave (.filter p)
  else (condition r.plain filterBody).map r.keep

/-- The rows with another line. -/
def format (clientTemplates : Bool) (text : Text) (r : Rows) : Except Error Rows :=
  match if r.onClient then none else LineTemplate.pieces? text with
  | some pieces =>
    let args := pieces.map (pieceExpr r.plain)
    let padded := args ++ List.replicate (2 - args.length) (.str [])
    .ok { r with line := .call "concat" padded }
  | none =>
    if !clientTemplates then .error (.notSupported Kind.lineFormatExpression)
    else match LineTemplate.parse? text with
      | some template => .ok (r.leave (.format template))
      | none => .error .badLineTemplate

/-- The rows behind a stage. -/
def stage (clientTemplates : Bool) (r : Rows) : Form.Stage → Except Error Rows
  | .line operator text _ =>
    if operator = ("|=" : Text) ∨ operator = ("!=" : Text) then
      .ok (r.contains (operator = ("!=" : Text)) text)
    else r.matching (operator = ("!~" : Text)) text
  | .json params => r.json (params.map Form.paramNode)
  | .logfmt => .ok r.logfmt
  | .regexp re => r.regexp re
  | .filter body _ => r.filter body
  | .lineFormat text => r.format clientTemplates text
  | .labelsFormat _ => .error (.notSupported Kind.labelsFormatExpression)

/-- The rows of a selector with its pipeline. -/
def ofSource (clientTemplates : Bool) (s : Form.Source) : Except Error Rows := do
  let r ← s.rules.foldlM rule {}
  s.stages.foldlM (stage clientTemplates) r

end Rows

/-! ### The handlers on rows -/

section Handlers

variable (r : Rows) (n : Node)

theorem streamComparisonRows (op : Text) :
    streamComparison op (some n) (r.draft .line c orders) =
      .ok ((r.choose (.binary op (streamLabel n) (.str (stageText n)))).draft .line c orders) := by
  simp [streamComparison,onNode]

theorem streamMatchRows (negated : Bool) :
    streamMatch negated (some n) (r.draft .line c orders) =
      (pattern (stageText n)).map fun _ =>
        (r.choose (negateIf negated
          (.call "match" [streamLabel n, .str (anchored (stageText n))]))).draft .line c orders := by
  simp only [streamMatch,onNode,Option.getD_some,Rows.draftChoose]
  cases pattern (stageText n) <;> rfl

theorem lineContainsRows (negated : Bool) :
    lineContains negated (some n) (r.draft .line c orders) =
      .ok ((r.contains negated (stageText n)).draft .line c orders) := by
  simp only [lineContains,onNode,Option.getD_some,Rows.draftOnClient,Rows.draftLine,Rows.draftLeave,
    Rows.draftKeep,Rows.contains]
  split
  · rfl
  split
  · cases negated <;> rfl
  · rfl

theorem lineMatchesRows (negated : Bool) :
    lineMatches negated (some n) (r.draft .line c orders) =
      (r.matching negated (stageText n)).map fun r => r.draft .line c orders := by
  simp only [lineMatches,onNode,Option.getD_some,Rows.draftOnClient,Rows.draftLine,Rows.draftLeave,
    Rows.draftKeep,Rows.matching]
  cases pattern (stageText n) with
  | error e => rfl
  | ok compiled => cases r.onClient <;> rfl

theorem jsonParserRows :
    jsonParser (some n) (r.draft .line c orders) =
      (r.json (n.findAll Kind.parserParam)).map fun r => r.draft .line c orders := by
  simp only [jsonParser,onNode,Option.getD_some,Rows.draftOnClient,Rows.draftLine,Rows.draftLeave,
    Rows.draftExtract,Rows.json]
  cases r.onClient with
  | true => cases jsonFields (n.findAll Kind.parserParam) <;> rfl
  | false =>
    cases (n.findAll Kind.parserParam).isEmpty with
    | true => rfl
    | false =>
      cases (n.findAll Kind.parserParam).mapM (jsonPair (Draft.fixedText r.line)) <;> rfl

theorem logfmtParserRows (node : Option Node) :
    logfmtParser node (r.draft .line c orders) = .ok (r.logfmt.draft .line c orders) := by
  simp only [logfmtParser,Rows.draftOnClient,Rows.draftLine,Rows.draftLeave,Rows.draftExtract,
    Rows.logfmt]
  cases r.onClient <;> rfl

theorem regexpParserRows :
    regexpParser (some n) (r.draft .line c orders) =
      (r.regexp (stageText n)).map fun r => r.draft .line c orders := by
  simp only [regexpParser,onNode,Option.getD_some,Rows.draftOnClient,Rows.draftLine,Rows.draftLeave,
    Rows.draftExtract,Rows.regexp]
  cases pattern (stageText n) with
  | error e => rfl
  | ok compiled =>
    cases unnamed : compiled.groupNames.all (·.isEmpty) <;> cases r.onClient <;>
      simp [unnamed,bind,Except.bind,pure,Except.pure,throw,throwThe,MonadExceptOf.throw,
        Except.map,Rows.groupFields]

theorem labelFilterRows (body : Node) :
    labelFilter (some (.mk Kind.complexLabelFilterExpression [] [body])) (r.draft .line c orders) =
      (r.filter body).map fun r => r.draft .line c orders := by
  simp only [labelFilter,filterBody,Node.kindMk,if_true,Node.childrenMk,Rows.draftOnClient,
    Rows.draftLeave,Rows.draftKeep,conditionRows,Rows.filter]
  cases r.onClient with
  | true => cases predicate body <;> rfl
  | false => cases condition r.plain body <;> rfl

theorem lineFormatRows (clientTemplates : Bool) :
    lineFormat clientTemplates (some n) (r.draft .line c orders) =
      (r.format clientTemplates (stageText n)).map fun r => r.draft .line c orders := by
  have left : (if !clientTemplates then .error (.notSupported Kind.lineFormatExpression)
      else match LineTemplate.parse? (stageText n) with
        | some template => .ok ((r.leave (.format template)).draft .line c orders)
        | none => .error .badLineTemplate : Except Error Draft) =
      (if !clientTemplates then .error (.notSupported Kind.lineFormatExpression)
      else match LineTemplate.parse? (stageText n) with
        | some template => .ok (r.leave (.format template))
        | none => .error .badLineTemplate : Except Error Rows).map fun r => r.draft .line c orders := by
    cases clientTemplates with
    | false => rfl
    | true => cases LineTemplate.parse? (stageText n) <;> rfl
  simp only [lineFormat,onNode,Option.getD_some,Rows.draftOnClient,Rows.draftLeave,Rows.draftFormat,
    pieceRows,Rows.format]
  by_cases client : r.onClient = true
  · simp only [client,if_true]
    exact left
  · simp only [client]
    cases LineTemplate.pieces? (stageText n) with
    | some pieces => rfl
    | none => exact left

end Handlers

/-! ### Pipelines -/

section Pipelines

variable {e : Engine} {clientTemplates : Bool} (full : e.registry = Registry.full clientTemplates)

include full

theorem selectorRuleRows (r : Rows) (rule : Form.Rule) :
    e.selectorRule rule.node (r.draft .line c orders) =
      (r.rule rule).map fun r => r.draft .line c orders := by
  have text : stageText rule.node = rule.value := Form.ruleValue rule
  have label : streamLabel rule.node = .call "JSONExtractString" ["labels", .str rule.label] := by
    rw [streamLabel,Form.ruleLabel]
  have found (h : Handler)
      (entry : (Registry.full clientTemplates).streamSelector.get "stream selector operator"
        rule.operator = .ok h) :
      e.selectorRule rule.node (r.draft .line c orders) =
        h (some rule.node) (r.draft .line c orders) := by
    rw [Engine.selectorRule,full,Form.ruleOperator,entry]
    rfl
  have known := rule.known
  simp only [Form.matchers,List.mem_cons,List.not_mem_nil,or_false] at known
  rcases known with operator | operator | operator | operator
  · rw [found (streamComparison "=") (by rw [operator]; rfl),streamComparisonRows,label,text]
    simp [Rows.rule,Rows.ruleCondition,operator,Except.map]
  · rw [found (streamComparison "!=") (by rw [operator]; rfl),streamComparisonRows,label,text]
    simp [Rows.rule,Rows.ruleCondition,operator,Except.map]
  · rw [found (streamMatch false) (by rw [operator]; rfl),streamMatchRows,label,text]
    simp only [Rows.rule,Rows.ruleCondition,operator]
    cases pattern rule.value <;> simp [Except.map]
  · rw [found (streamMatch true) (by rw [operator]; rfl),streamMatchRows,label,text]
    simp only [Rows.rule,Rows.ruleCondition,operator]
    cases pattern rule.value <;> simp [Except.map]

theorem lineStageRows (r : Rows) (operator text : Text) (known : operator ∈ Form.lineOperators) :
    e.stage (Form.Stage.line operator text known).node (r.draft .line c orders) =
      (r.stage clientTemplates (.line operator text known)).map fun r => r.draft .line c orders := by
  have value : stageText (Form.Stage.line operator text known).node = text := by
    simp [stageText,Form.Stage.node,Node.valueOfHead,Kind.lineFilterOperator,Kind.quotedStr]
  have name : (Form.Stage.line operator text known).node.valueOf Kind.lineFilterOperator = operator := by
    simp [Form.Stage.node,Node.valueOfHead]
  have found (h : Handler)
      (entry : (Registry.full clientTemplates).lineFilter.get "line filter operator" operator = .ok h) :
      e.stage (Form.Stage.line operator text known).node (r.draft .line c orders) =
        h (some (Form.Stage.line operator text known).node) (r.draft .line c orders) := by
    have kind : (Form.Stage.line operator text known).node.kind = Kind.lineFilterExpression := rfl
    rw [Engine.stage,if_pos kind,name,full,entry]
    rfl
  have cases := known
  simp only [Form.lineOperators,List.mem_cons,List.not_mem_nil,or_false] at cases
  rcases cases with rfl | rfl | rfl | rfl
  · rw [found (lineContains false) rfl,lineContainsRows,value]
    simp [Rows.stage,Except.map]
  · rw [found (lineMatches false) rfl,lineMatchesRows,value]
    simp [Rows.stage]
  · rw [found (lineContains true) rfl,lineContainsRows,value]
    simp [Rows.stage,Except.map]
  · rw [found (lineMatches true) rfl,lineMatchesRows,value]
    simp [Rows.stage]

theorem parserStageRows (r : Rows) (s : Form.Stage) (fn : Text) (params : List Node) (h : Handler)
    (shape : s.node = Form.parserNode fn params)
    (entry : (Registry.full clientTemplates).parser.get "parser" fn = .ok h) :
    e.stage s.node (r.draft .line c orders) = h (some s.node) (r.draft .line c orders) := by
  have kind : s.node.kind = Kind.parserExpression := by rw [shape]; rfl
  have name : s.node.valueOf Kind.parserFnName = fn := by rw [shape,Form.parserName]
  rw [Engine.stage,name,kind,if_neg (by simp [Kind.parserExpression,Kind.lineFilterExpression]),
    if_pos rfl,full,entry]
  rfl

theorem stageRows (r : Rows) (s : Form.Stage) :
    e.stage s.node (r.draft .line c orders) =
      (r.stage clientTemplates s).map fun r => r.draft .line c orders := by
  cases s with
  | line operator text known => exact lineStageRows full r operator text known
  | json params =>
    rw [parserStageRows full r _ "json" _ jsonParser rfl rfl,jsonParserRows,Form.jsonParameters]
    rfl
  | logfmt =>
    rw [parserStageRows full r _ "logfmt" _ logfmtParser rfl rfl,logfmtParserRows]
    rfl
  | regexp re =>
    have text : stageText (Form.Stage.regexp re).node = re := by
      simp [stageText,Form.Stage.node,Form.parserNode,Node.valueOfHead,Kind.parserFnName,Kind.quotedStr]
    rw [parserStageRows full r _ "regexp" _ regexpParser rfl rfl,regexpParserRows,text]
    rfl
  | filter body form =>
    rw [Engine.stage,Form.filterComplex,full]
    simp only [Form.Stage.node,Node.kindMk]
    rw [if_neg (by simp [Kind.labelFilterPipeline,Kind.lineFilterExpression]),
      if_neg (by simp [Kind.labelFilterPipeline,Kind.parserExpression]),if_pos trivial]
    exact labelFilterRows r body
  | lineFormat text =>
    have value : stageText (Form.Stage.lineFormat text).node = text := by
      simp [stageText,Form.Stage.node,Node.valueOfHead]
    have handled := @lineFormatRows c orders r (Form.Stage.lineFormat text).node
      clientTemplates
    rw [value] at handled
    rw [Engine.stage,full,Rows.stage,← handled]
    simp only [Form.Stage.node,Node.kindMk]
    rw [if_neg (by simp [Kind.lineFormatExpression,Kind.lineFilterExpression]),
      if_neg (by simp [Kind.lineFormatExpression,Kind.parserExpression]),
      if_neg (by simp [Kind.lineFormatExpression,Kind.labelFilterPipeline]),if_pos trivial]
    rfl
  | labelsFormat rules =>
    rw [Engine.stage]
    simp only [Form.Stage.node,Node.kindMk]
    rw [if_neg (by simp [Kind.labelsFormatExpression,Kind.lineFilterExpression]),
      if_neg (by simp [Kind.labelsFormatExpression,Kind.parserExpression]),
      if_neg (by simp [Kind.labelsFormatExpression,Kind.labelFilterPipeline]),
      if_neg (by simp [Kind.labelsFormatExpression,Kind.lineFormatExpression]),if_pos trivial]
    rfl

omit full in
/-- Steps that agree on one side of a map agree over a list. -/
theorem foldMapped {α β γ ε : Type} {f : β → α → Except ε β} {g : γ → β} {h : γ → α → Except ε γ}
    (each : ∀ r x, f (g r) x = (h r x).map g) (xs : List α) (r : γ) :
    xs.foldlM f (g r) = (xs.foldlM h r).map g := by
  induction xs generalizing r with
  | nil => rfl
  | cons x xs ih =>
    rw [List.foldlM_cons,List.foldlM_cons,each]
    cases h r x with
    | error e => rfl
    | ok r' => exact ih r'

/-- A pipeline makes of the base statement what it makes of rows. -/
theorem pipelineRows {n : Node} {s : Form.Source} (holds : Form.Holds n s) :
    e.selectorPipeline n (Rows.draft {} .line c orders) =
      (Rows.ofSource clientTemplates s).map fun r => r.draft .line c orders := by
  have rules := foldMapped (f := fun d rule => e.selectorRule (Form.Rule.node rule) d)
    (g := fun r : Rows => r.draft .line c orders) (selectorRuleRows full) s.rules {}
  have stages (r : Rows) := foldMapped (f := fun d stage => e.stage (Form.Stage.node stage) d)
    (g := fun r : Rows => r.draft .line c orders) (stageRows full) s.stages r
  rw [Engine.selectorPipeline,holds.rules,holds.stages,List.foldlM_map,rules,Rows.ofSource]
  cases s.rules.foldlM Rows.rule {} with
  | error err => rfl
  | ok r =>
    change (s.stages.map Form.pipelineNode).foldlM _ (r.draft .line c orders) = _
    rw [List.foldlM_map]
    exact stages r

end Pipelines

end LogSql.Compile
