import LogSql.Proofs.Compile.Refusals
import LogSql.Proofs.Compile.Tail
import LogSql.Proofs.Macro.Definition
import LogSql.Proofs.Query.Calls

/-! Requests for series. Each match is compiled by itself to a statement over the label sets, and the
statements stand in the order of the matches; the conditions of a statement are those of the rules of
its selector, whatever stages follow them, and a live tail chooses its streams by the same ones. -/
namespace LogSql

theorem Text.joinAppend (sep : Text) {xs ys : List Text} (some : xs ≠ []) (more : ys ≠ []) :
    Text.join sep (xs ++ ys) = Text.join sep xs ++ sep ++ Text.join sep ys := by
  have cons (t : Text) {rest : List Text} (others : rest ≠ []) :
      Text.join sep (t :: rest) = t ++ sep ++ Text.join sep rest := by
    cases rest with
    | nil => contradiction
    | cons u rest => rfl
  induction xs with
  | nil => contradiction
  | cons x xs ih =>
    cases xs with
    | nil => exact cons x more
    | cons u xs =>
      rw [List.cons_append,cons x (by simp),ih (by simp),cons x (List.cons_ne_nil u xs)]
      simp

/-! ### Unions -/

namespace Sql.Clause

/-- The text of a statement as a member of a union. -/
def memberText (r : Request) : Except Error Text := r.text.map fun t => .concat ["(", t, ")"]

theorem membersPlaced : Placed memberText Error.inMember memberTexts := by
  refine ⟨fun _ => rfl,fun i r rest => ?_⟩
  rw [memberTexts,memberText]
  cases r.text <;> rfl

theorem unionOk {members : List Request} {t : Text} :
    unionText true members = .ok t ↔ members ≠ [] ∧
      ∃ texts, members.mapM memberText = .ok texts ∧ t = Text.join " UNION DISTINCT " texts := by
  unfold unionText
  cases members with
  | nil => simp [throw,throwThe,MonadExceptOf.throw,bind,Except.bind]
  | cons m members =>
    constructor
    · intro ok
      obtain ⟨texts,written,ok⟩ := bindOk ok
      cases ok
      exact ⟨List.cons_ne_nil m members,texts,membersPlaced.ok.mp written,rfl⟩
    · rintro ⟨_,texts,written,rfl⟩
      have all := (membersPlaced.ok (i := 0)).mpr written
      simp only [List.isEmpty_cons,Bool.false_eq_true,if_false,all]
      rfl

end Sql.Clause

end LogSql

namespace LogSql.Compile

open Query
open Sql (Expr)
open Sql.Clause (memberText unionOk)

/-! ### Matches one after the other -/

/-- The statement over the label sets for some conditions as it stands in a union. -/
def Engine.labelSetsMember (e : Engine) (conds : List Text) : Text :=
  .concat ["(", e.labelSetsText conds, ")"]

section Members

variable {e : Engine} {t : Text} {ts : List Text}

theorem membersWritten (conds : List (List Text)) :
    (conds.map e.labelSets).mapM memberText = .ok (conds.map e.labelSetsMember) := by
  induction conds with
  | nil => rfl
  | cons first conds ih =>
    rw [List.map_cons,List.mapM_cons,memberText,labelSetsWritten,ih]
    rfl

theorem seriesOk {s : Text} : e.compileSeries ts = .ok s ↔ ∃ members texts,
    ts.mapM e.seriesMember = .ok members ∧ members.mapM memberText = .ok texts ∧
      s = Text.join " UNION DISTINCT " texts := by
  unfold Engine.compileSeries
  cases ts with
  | nil =>
    constructor
    · intro ok
      cases ok
      exact ⟨[],[],rfl,rfl,rfl⟩
    · rintro ⟨members,texts,none,nothing,rfl⟩
      cases none
      cases nothing
      rfl
  | cons t ts =>
    constructor
    · intro ok
      obtain ⟨members,read,ok⟩ := bindOk ok
      obtain ⟨_,texts,written,rfl⟩ := unionOk.mp (mapErrorOk ok)
      exact ⟨members,texts,(seriesPlaced e).ok.mp read,written,rfl⟩
    · rintro ⟨members,texts,read,written,rfl⟩
      have some : members ≠ [] := List.ne_nil_of_length_pos (by simp [mapMLength read])
      have union := unionOk.mpr ⟨some,texts,written,rfl⟩
      simp only [List.isEmpty_cons,Bool.false_eq_true,if_false,(seriesPlaced e).ok.mpr read,bind,
        Except.bind,union]
      rfl

/-- The statement of a match can be written, so nothing but the matches makes a request fail. -/
theorem seriesSucceeds :
    (∃ s, e.compileSeries ts = .ok s) ↔ ∃ members, ts.mapM e.seriesMember = .ok members := by
  constructor
  · rintro ⟨s,ok⟩
    obtain ⟨members,_,read,_,_⟩ := seriesOk.mp ok
    exact ⟨members,read⟩
  · rintro ⟨members,read⟩
    have each : ∀ m ∈ members, Writable m := by
      intro m mem
      obtain ⟨t,_,found⟩ := mapMOk read m mem
      exact memberWritable found
    cases ts with
    | nil => exact ⟨[],rfl⟩
    | cons t ts =>
      have some : members ≠ [] := List.ne_nil_of_length_pos (by simp [mapMLength read])
      obtain ⟨s,written⟩ := unionWritable some each
      obtain ⟨_,texts,inner,_⟩ := unionOk.mp written
      exact ⟨_,seriesOk.mpr ⟨members,texts,read,inner,rfl⟩⟩

theorem seriesSingleFails {cause : Error} (failed : e.seriesMember t = .error cause) :
    e.compileSeries [t] = .error (.inMatch 0 cause) := by
  unfold Engine.compileSeries
  simp [Engine.seriesMembers,failed,bind,Except.bind]

theorem seriesBoth {xs ys : List Text} : (∃ s, e.compileSeries (xs ++ ys) = .ok s) ↔
    (∃ s, e.compileSeries xs = .ok s) ∧ ∃ s, e.compileSeries ys = .ok s := by
  simp only [seriesSucceeds,mapMAppend]
  constructor
  · rintro ⟨_,front,back,first,second,_⟩
    exact ⟨⟨front,first⟩,back,second⟩
  · rintro ⟨⟨front,first⟩,back,second⟩
    exact ⟨_,front,back,first,second,rfl⟩

theorem seriesJoined {xs ys : List Text} {s u : Text} (some : xs ≠ []) (more : ys ≠ [])
    (first : e.compileSeries xs = .ok s) (second : e.compileSeries ys = .ok u) :
    e.compileSeries (xs ++ ys) = .ok (s ++ " UNION DISTINCT " ++ u) := by
  obtain ⟨front,starts,read,written,rfl⟩ := seriesOk.mp first
  obtain ⟨back,ends,others,inner,rfl⟩ := seriesOk.mp second
  have texts {members : List Sql.Clause.Request} {ts texts : List Text} (some : ts ≠ [])
      (read : ts.mapM e.seriesMember = .ok members) (ok : members.mapM memberText = .ok texts) :
      texts ≠ [] := by
    refine List.ne_nil_of_length_pos ?_
    rw [mapMLength ok,mapMLength read]
    exact List.length_pos_of_ne_nil some
  refine seriesOk.mpr ⟨front ++ back,starts ++ ends,mapMAppend.mpr ⟨_,_,read,others,rfl⟩,
    mapMAppend.mpr ⟨_,_,written,inner,rfl⟩,?_⟩
  rw [Text.joinAppend _ (texts some read written) (texts more others inner)]

/-- A request fails as its first match that fails by itself, whose place among the matches is told. -/
def FailsFirst (e : Engine) (ts : List Text) (err : Error) : Prop :=
  ∃ before : List Text, ∃ t after cause, ts = before ++ t :: after ∧
    (∀ x ∈ before, ∃ s, e.compileSeries [x] = .ok s) ∧
    e.compileSeries [t] = .error (.inMatch 0 cause) ∧ err = .inMatch before.length cause ∧
    err.message = .concat ["match[", Text.ofNat before.length, "]: ", cause.message]

theorem seriesFailsFirst {err : Error} (failed : e.compileSeries ts = .error err) :
    FailsFirst e ts err := by
  cases read : e.seriesMembers 0 ts with
  | ok members =>
    obtain ⟨s,ok⟩ := seriesSucceeds.mpr ⟨members,(seriesPlaced e).ok.mp read⟩
    cases ok.symm.trans failed
  | error other =>
    obtain ⟨before,t,after,cause,members,rfl,earlier,here,rfl⟩ := (seriesPlaced e).fails read
    have same : err = .inMatch before.length cause := by
      unfold Engine.compileSeries at failed
      simpa [read,bind,Except.bind] using failed.symm
    refine ⟨before,t,after,cause,rfl,?_,seriesSingleFails here,same,same ▸ rfl⟩
    -- What comes before the failure has its statements, so every match of it compiles by itself.
    intro x mem
    obtain ⟨front,back,rfl⟩ := List.append_of_mem mem
    have rest : ∃ s, e.compileSeries ([x] ++ back) = .ok s :=
      (seriesBoth.mp (seriesSucceeds.mpr ⟨members,earlier⟩)).2
    exact (seriesBoth.mp rest).1

end Members

/-! ### The conditions of a selector -/

/-- The condition of a selector rule as it stands in a statement. -/
def ruleText (rule : Node) : Text :=
  let label : Text := .concat ["JSONExtractString(labels, ", Sql.literal (rule.valueOf Kind.label), ")"]
  let operator := rule.valueOf Kind.operator
  let value := rule.valueOf Kind.quotedStr
  let matching : Text := .concat ["match(", label, ", ", Sql.literal (anchored value), ")"]
  if operator = ("=~" : Text) then matching
  else if operator = ("!~" : Text) then .concat ["NOT (", matching, ")"]
  else .concat [label, " ", operator, " ", Sql.literal value]

/-- The conditions of the selector rules below a node, in source order. -/
def ruleTexts (root : Node) : List Text := (root.findAll Kind.logStreamSelectorRule).map ruleText

theorem ruleTextSome (rule : Node) : ruleText rule ≠ [] := by
  have some {s : String} {rest : List Text} (word : s ≠ "") : Text.concat (Text.ofString s :: rest) ≠ [] := by
    simp [Text.concat,word]
  unfold ruleText
  dsimp only
  split
  · exact some (by decide)
  · split
    · exact some (by decide)
    · simp [Text.concat]

theorem ruleTextsKept (root : Node) :
    ([] :: ruleTexts root).filter (fun t => !t.isEmpty) = ruleTexts root := by
  rw [List.filter_cons_of_neg (by simp),List.filter_eq_self]
  intro t mem
  obtain ⟨rule,_,rfl⟩ := List.mem_map.mp mem
  simpa using ruleTextSome rule

theorem whereClause (root : Node) :
    Sql.SelectOf.clause " WHERE " (Text.join " AND " (ruleTexts root)) = whereText (ruleTexts root) := by
  rw [ruleTexts,whereText]
  cases root.findAll Kind.logStreamSelectorRule with
  | nil => rfl
  | cons rule rules =>
    have some : (Text.join " AND " (ruleText rule :: rules.map ruleText)).isEmpty = false := by
      cases rules <;> simp [Text.join,ruleTextSome]
    rw [List.map_cons,Sql.SelectOf.clause,some]
    rfl

theorem streamLabelText (label : Text) (v : Sql.CellView) :
    (Expr.call "JSONExtractString" ["labels", .str label]).text v =
      .concat ["JSONExtractString(labels, ", Sql.literal label, ")"] := by
  have head : Text.ofString "JSONExtractString(labels, " =
      Text.concat ["JSONExtractString","(","labels",", "] := rfl
  simp [Expr.text,Expr.texts,Expr.ofString,Text.join,Text.concat,head]

theorem ruleConditionText {rule : Form.Rule} {c : Expr} (ok : Rows.ruleCondition rule = .ok c)
    (v : Sql.CellView) : c.text v = ruleText rule.node := by
  have matching (label value : Text) :
      (Expr.call "match" [.call "JSONExtractString" ["labels", .str label], .str value]).text v =
        .concat ["match(", .concat ["JSONExtractString(labels, ", Sql.literal label, ")"], ", ",
          Sql.literal value, ")"] := by
    have head : Text.ofString "match(" = Text.concat ["match","("] := rfl
    rw [Expr.text,Expr.texts,streamLabelText]
    simp [Expr.text,Expr.texts,Text.join,Text.concat,head]
  obtain ⟨label,operator,value,known⟩ := rule
  simp only [Form.matchers,List.mem_cons,List.not_mem_nil,or_false] at known
  unfold ruleText Rows.ruleCondition at *
  simp only [Form.ruleLabel,Form.ruleOperator,Form.ruleValue]
  rcases known with rfl | rfl | rfl | rfl
  · cases ok
    rw [Expr.text,streamLabelText]
    simp [Expr.text]
  · cases ok
    rw [Expr.text,streamLabelText]
    simp [Expr.text]
  · obtain ⟨_,_,rfl⟩ := mapOk ok
    exact matching label (anchored value)
  · obtain ⟨_,_,rfl⟩ := mapOk ok
    exact congrArg (fun t => Text.concat ["NOT (",t,")"]) (matching label (anchored value))

section Matches

variable {e : Engine} {clientTemplates : Bool} {t : Text} {s : Form.Source} {r : Rows}

/-- The streams of rows are chosen by the rules of their selector, and by no date. -/
theorem selectionTexts (source : Rows.ofSource clientTemplates s = .ok r) (v : Sql.CellView) :
    (r.selection true).filters.map (·.text v) = [] :: ruleTexts (Form.rows s).node := by
  obtain ⟨chosen,read,fixed⟩ := Rows.sourceFixed source
  have texts := mapMImage (fun _ _ ok => ruleConditionText ok v) read
  have rules : ruleTexts (Form.rows s).node = s.rules.map fun rule => ruleText rule.node := by
    rw [ruleTexts,(Form.rowsHold s).rules,List.map_map]
    rfl
  rw [rules,← texts,← fixed.streams]
  rfl

/-- A selector with its pipeline is a match when its pipeline gives rows. -/
theorem seriesMemberRows (full : e.registry = Registry.full clientTemplates)
    (read : e.parse t = .ok (Form.rows s).node) :
    e.seriesMember t =
      (Rows.ofSource clientTemplates s).map fun _ => e.labelSets (ruleTexts (Form.rows s).node) := by
  have selector : ((Form.rows s).node.find? Kind.logStreamSelector).isNone = false := by
    simp [Form.node,Form.children,Form.Source.nodes,Node.findHead]
  have statement : ((Form.rows s).node.find? Kind.aggStatement).isSome = false := by
    rw [Form.rowsOuter s (by simp [Form.outerKinds])]
    rfl
  rw [Engine.seriesMember,read]
  simp only [bind,Except.bind,selector,statement,Bool.or_self,Bool.false_eq_true,if_false,startByTime,
    pipelineRows full (Form.rowsHold s)]
  cases source : Rows.ofSource clientTemplates s with
  | error err => rfl
  | ok r =>
    simp only [Except.map,bindSelection,draftSelection,selectionTexts source,ruleTextsKept]
    rfl

/-- A text that selects the streams of a series request: a selector with its pipeline or, when a macro
bears the name of the construct that is looked for, a call of that macro. -/
inductive SeriesMatch (e : Engine) (root : Node) : Prop where
  | selector (direct : (root.child? Kind.logStreamSelector).isSome = true)
      (some : ruleTexts root ≠ []) : SeriesMatch e root
  | call (args : List Text) (tree : root = (Form.call Kind.logStreamSelector args).node)
      (named : Kind.logStreamSelector ∈ e.macros.map (·.name)) (none : ruleTexts root = []) :
      SeriesMatch e root

/-- A call of that macro is a match without conditions. -/
theorem seriesMemberCall {args : List Text}
    (read : e.parse t = .ok (Form.call Kind.logStreamSelector args).node) :
    e.seriesMember t = .ok (e.labelSets []) := by
  have selector : ((Form.call Kind.logStreamSelector args).node.find? Kind.logStreamSelector).isSome := by
    simp [Form.node,Form.children,Node.findHead]
  have statement : (Form.call Kind.logStreamSelector args).node.find? Kind.aggStatement = none := by
    have absent := argumentsAbsent (k := Kind.aggStatement)
      (by simp [Kind.macroArg,Kind.aggStatement]) args
    simp only [Form.node,Form.children,Node.findHead,Node.findAllMk,Node.findAllInCons,absent]
    simp [Kind.userMacro,Kind.logStreamSelector,Kind.aggStatement]
  obtain ⟨rules,stages⟩ := callHolds selector
  have accepted := Option.isNone_eq_false_iff.mpr selector
  rw [Engine.seriesMember,read]
  simp only [bind,Except.bind,accepted,statement,Engine.selectorPipeline,rules,stages,startByTime]
  simp only [Option.isSome_none,Bool.or_self,Bool.false_eq_true,if_false,List.foldlM_nil,pure,Except.pure,
    bindSelection,draftSelection]
  rfl

theorem seriesMemberMatch (full : e.registry = Registry.full clientTemplates)
    {m : Sql.Clause.Request} (ok : e.seriesMember t = .ok m) :
    ∃ root, e.parse t = .ok root ∧ m = e.labelSets (ruleTexts root) ∧ SeriesMatch e root := by
  have opened := ok
  rw [Engine.seriesMember] at opened
  obtain ⟨root,read,given⟩ := bindOk opened
  obtain ⟨q,rfl,known⟩ := parseText read
  obtain ⟨accepted,_⟩ := guardOk given
  refine ⟨_,read,?_⟩
  cases q with
  | rows s =>
    rw [seriesMemberRows full read] at ok
    obtain ⟨r,_,rfl⟩ := mapOk ok
    have some : s.rules.map Form.Rule.node ≠ [] := by simpa using s.some
    refine ⟨rfl,.selector ?_ ?_⟩
    · simp [Form.node,Form.children,Form.Source.nodes,Node.child?]
    · rw [ruleTexts,(Form.rowsHold s).rules]
      simpa using some
  | matrix m ranking threshold => simp [Form.matrixStatement] at accepted
  | call name args =>
    have selector : ((Form.call name args).node.find? Kind.logStreamSelector).isSome := by
      refine Option.isNone_eq_false_iff.mp (Bool.eq_false_iff.mpr fun missing => accepted ?_)
      rw [missing,Bool.true_or]
    obtain rfl := callNamed selector
    have rules : ruleTexts (Form.call Kind.logStreamSelector args).node = [] := by
      rw [ruleTexts,(callHolds selector).1]
      rfl
    rw [seriesMemberCall read] at ok
    cases ok
    exact ⟨by rw [rules],.call args rfl known rules⟩

/-- Every statement of a series request stands for one match, in order, and has one condition for each
rule of its selector, in source order; it has none exactly when the match calls a macro that is named
like the construct of a selector, and every such call is accepted. -/
theorem seriesConditioned (full : e.registry = Registry.full clientTemplates) :
    (∀ ts s, e.compileSeries ts = .ok s → ∃ roots, ts.mapM e.parse = .ok roots ∧
      s = Text.join " UNION DISTINCT " (roots.map fun root => e.labelSetsMember (ruleTexts root)) ∧
      ∀ root ∈ roots, SeriesMatch e root) ∧
    ∀ t args, e.parse t = .ok (Form.call Kind.logStreamSelector args).node →
      e.compileSeries [t] = .ok (e.labelSetsMember []) := by
  constructor
  · intro ts s ok
    obtain ⟨members,texts,read,inner,rfl⟩ := seriesOk.mp ok
    obtain ⟨roots,parsed,rfl,each⟩ := mapMThrough
      (h := fun root => e.labelSets (ruleTexts root)) (P := SeriesMatch e)
      (fun t _ m member => seriesMemberMatch full member) read
    have written := membersWritten (e := e) (roots.map ruleTexts)
    rw [List.map_map] at written
    cases inner.symm.trans written
    exact ⟨roots,parsed,by rw [List.map_map]; rfl,each⟩
  · intro t args read
    refine seriesOk.mpr ⟨[e.labelSets []],[e.labelSetsMember []],?_,membersWritten [[]],rfl⟩
    rw [List.mapM_cons,seriesMemberCall read]
    rfl

end Matches

/-- A macro that is named like the construct of a selector. -/
def selectorMacro : Macro.Definition :=
  { name := Kind.logStreamSelector, template := "\x7bapp=\"api\"\x7d" }

/-- No word of the language is the name of that macro, so a registry takes it, and the series of its
call are those of all streams. -/
theorem selectorMacroWidens : ∃ registry : Macro.Registry,
    ({} : Macro.Registry).replace [selectorMacro] = .ok registry ∧
      ({ registry := .full true, macros := registry.macros } : Engine).compileSeries
        ["log_stream_selector()"] = .ok "(SELECT DISTINCT labels FROM time_series AS time_series)" := by
  obtain ⟨registry,ok,_⟩ := okAny (x := ({} : Macro.Registry).replace [selectorMacro])
    (p := fun _ => true) (by decide +kernel)
  have names : registry.macros.map (·.name) = [Kind.logStreamSelector] :=
    (Macro.replaced ok).2.macroNames
  obtain ⟨ts,tokens,words⟩ := okAny (x := tokenize (Text.trim "log_stream_selector()"))
    (p := fun ts => decide (ts.tokens.map Token.word = callWords Kind.logStreamSelector []))
    (by decide +kernel)
  have full : ({ registry := .full true, macros := registry.macros } : Engine).registry = .full true := rfl
  refine ⟨registry,ok,(seriesConditioned full).2 _ [] ?_⟩
  rw [Engine.parse,names,callRead (by simp) tokens (of_decide_eq_true words)]
  rfl

/-! ### Beside live tails -/

section Tails

variable {e : Engine} {clientTemplates : Bool} {t : Text} {s : Form.Source} {r : Rows}

/-- A pipeline that gives rows renames no labels. -/
theorem renamesAbsent (source : Rows.ofSource clientTemplates s = .ok r) :
    (Form.rows s).node.find? Kind.labelsFormatExpression = none := by
  obtain ⟨_,_,stages⟩ := bindOk source
  have plain : ∀ n ∈ s.stages.map Form.Stage.node, n.kind ≠ Kind.labelsFormatExpression := by
    intro n mem
    obtain ⟨stage,inside,rfl⟩ := List.mem_map.mp mem
    obtain ⟨rows,next,done⟩ := foldEach stages stage inside
    cases stage with
    | labelsFormat rules => contradiction
    | _ =>
      simp [Form.Stage.node,Form.parserNode,Kind.lineFormatExpression,Kind.lineFilterExpression,
        Kind.parserExpression,Kind.labelFilterPipeline,Kind.labelsFormatExpression]
  have outside : Kind.labelsFormatExpression ∉ Form.partKinds ∧ Kind.labelsFormatExpression ∉
      [Kind.logStreamSelector,Kind.logStreamSelectorRule,Kind.operator,Kind.logPipeline] := by
    simp [Form.partKinds,Form.filterKinds,Kind.labelsFormatExpression,Kind.lineFilterOperator,
      Kind.parserFnName,Kind.parserParam,Kind.complexLabelFilterExpression,Kind.labelsFormatRule,
      Kind.simpleLabelFilter,Kind.labelFilterAnd,Kind.labelFilterOr,Kind.label,
      Kind.labelFilterOperator,Kind.quotedStr,Kind.numberValue,Kind.durationValue,Kind.bytesValue,
      Kind.logStreamSelector,Kind.logStreamSelectorRule,Kind.operator,Kind.logPipeline]
  refine Node.findNone ?_
  refine (Form.sourceStages outside.1 outside.2 s).trans (List.filter_eq_nil_iff.mpr fun n mem => ?_)
  simpa using plain n mem

/-- A match whose streams are chosen by a live tail as well: the conditions of its rules stand in both
statements, and nothing else does behind the keyword. -/
structure SelectsAsTail (e : Engine) (t : Text) (root : Node) (tail : Compiled) : Prop where
  series : e.compileSeries [t] = .ok (e.labelSetsMember (ruleTexts root))
  streams : ∃ streams, tail.select.withs = [⟨.query streams,streamSelection⟩] ∧
    streams.filters.map (·.text tail.bindings.view) = [] :: ruleTexts root ∧
    Sql.SelectOf.clause " WHERE "
      (Sql.conjunction (streams.filters.map (·.text tail.bindings.view))) = whereText (ruleTexts root)

theorem seriesAsTail (full : e.registry = Registry.full clientTemplates) {root : Node}
    (read : e.parse t = .ok root) (selector : (root.child? Kind.logStreamSelector).isSome = true) :
    (∃ err other, e.compileSeries [t] = .error err ∧ e.compileTail t = .error other) ∨
      ∃ tail, e.compileTail t = .ok tail ∧ SelectsAsTail e t root tail := by
  obtain ⟨q,rfl,_⟩ := parseText read
  obtain ⟨s,rfl⟩ := Form.selectorRows selector
  have member := seriesMemberRows full read
  rw [compileTailRows full read]
  cases source : Rows.ofSource clientTemplates s with
  | error err =>
    rw [source] at member
    have failed : e.compileSeries [t] = .error (.inMatch 0 err) := seriesSingleFails member
    split
    · exact .inl ⟨_,_,failed,rfl⟩
    · exact .inl ⟨_,_,failed,rfl⟩
  | ok r =>
    rw [source] at member
    rw [renamesAbsent source]
    have texts := selectionTexts source (e.tailOf r).bindings.view
    refine .inr ⟨e.tailOf r,rfl,?_,r.selection true,?_,texts,?_⟩
    · refine seriesOk.mpr ⟨[_],[_],?_,membersWritten [ruleTexts (Form.rows s).node],rfl⟩
      rw [List.mapM_cons,member]
      rfl
    · simp only [Engine.tailOf,Engine.tailBound,Draft.orderBy,Draft.setLimit,Draft.mapSelect,bindSelect]
      rfl
    · rw [texts,Sql.conjunction,ruleTextsKept,whereClause]

/-- A request for series is the union of its matches. Two lists of matches succeed together when each
does, and their texts are joined; a list fails as the first of its matches that fails by itself; and a
selector with its pipeline succeeds with the live tail of the same text, by the same conditions. -/
theorem seriesUnion (full : e.registry = Registry.full clientTemplates) {xs ys : List Text}
    (some : xs ≠ []) (more : ys ≠ []) :
    ((∃ s, e.compileSeries (xs ++ ys) = .ok s) ↔
      (∃ s, e.compileSeries xs = .ok s) ∧ ∃ s, e.compileSeries ys = .ok s) ∧
    (∀ s u, e.compileSeries xs = .ok s → e.compileSeries ys = .ok u →
      e.compileSeries (xs ++ ys) = .ok (s ++ " UNION DISTINCT " ++ u)) ∧
    (∀ ts err, e.compileSeries ts = .error err → FailsFirst e ts err) ∧
    ∀ t root, e.parse t = .ok root → (root.child? Kind.logStreamSelector).isSome = true →
      (∃ err other, e.compileSeries [t] = .error err ∧ e.compileTail t = .error other) ∨
        ∃ tail, e.compileTail t = .ok tail ∧ SelectsAsTail e t root tail :=
  ⟨seriesBoth,fun _ _ => seriesJoined some more,fun _ _ => seriesFailsFirst,
    fun _ _ => seriesAsTail full⟩

end Tails

/-- The label sets of an app, whatever is done with its lines. -/
def apiMatch : Text := "\x7bapp=\"api\"\x7d | json"

/-- The label sets of all apps but one. -/
def otherMatch : Text := "\x7bapp!=\"api\"\x7d"

/-- The engine of these matches. -/
def bareEngine : Engine := { registry := .full true }

theorem apiSeriesJoined :
    bareEngine.compileSeries ([apiMatch] ++ [otherMatch]) = .ok
      (bareEngine.labelSetsMember ["JSONExtractString(labels, 'app') = 'api'"] ++
        " UNION DISTINCT " ++
        bareEngine.labelSetsMember ["JSONExtractString(labels, 'app') != 'api'"]) ∧
    FailsFirst bareEngine [apiMatch, "rate(\x7ba=\"b\"\x7d[1m])", "\x7b"] (.inMatch 1 .notASelector) ∧
    ∃ root tail, bareEngine.compileTail apiMatch = .ok tail ∧
      SelectsAsTail bareEngine apiMatch root tail := by
  have full : bareEngine.registry = .full true := rfl
  obtain ⟨_,joined,fails,tails⟩ := seriesUnion full (List.cons_ne_nil apiMatch [])
    (List.cons_ne_nil otherMatch [])
  have run : (bareEngine.compileSeries [apiMatch]).toOption.any (fun s => s =
        bareEngine.labelSetsMember ["JSONExtractString(labels, 'app') = 'api'"]) = true ∧
      (bareEngine.compileSeries [otherMatch]).toOption.any (fun s => s =
        bareEngine.labelSetsMember ["JSONExtractString(labels, 'app') != 'api'"]) = true ∧
      (bareEngine.parse apiMatch).toOption.any
        (fun root => (root.child? Kind.logStreamSelector).isSome) = true := by
    decide +kernel
  obtain ⟨api,first,same⟩ := okAny run.1
  obtain rfl := of_decide_eq_true same
  obtain ⟨other,second,same⟩ := okAny run.2.1
  obtain rfl := of_decide_eq_true same
  obtain ⟨root,read,selector⟩ := okAny run.2.2
  obtain ⟨err,failed,same⟩ := errorAny
    (x := bareEngine.compileSeries [apiMatch, "rate(\x7ba=\"b\"\x7d[1m])", "\x7b"])
    (p := fun err => err = .inMatch 1 .notASelector) (by decide +kernel)
  obtain rfl := of_decide_eq_true same
  refine ⟨joined _ _ first second,fails _ _ failed,?_⟩
  rcases tails apiMatch root read selector with ⟨err,_,failed,_⟩ | ⟨tail,found,selects⟩
  · cases first.symm.trans failed
  · exact ⟨root,tail,found,selects⟩

end LogSql.Compile
