import Mathlib.Data.List.Induction
import Mathlib.Logic.Relation
import LogSql.Proofs.Compile.Extraction
import LogSql.Proofs.Compile.Hooks
import LogSql.Proofs.Compile.Tail
import LogSql.Proofs.Compile.Uses

/-! Aliases that are defined by themselves. The extracted labels are the one alias of a select list that
can use itself: a line template reads them by their alias, and the next parser reads the line by its
expression. The aliases that the line and the extracted labels use are followed along the stages, so
that the queries with such a select list are told by their stages alone. -/
namespace LogSql.Compile

open Query
open LineTemplate (Piece)
open Sql (Expr Select Named)

/-! ### The graph of a select list -/

/-- Whether the expression of an alias uses an alias of the same select list. -/
def Refers (v : Sql.CellView) (columns : List (Named Expr)) (a b : Text) : Prop :=
  a ∈ aliases columns ∧ b ∈ aliases columns ∧
    ∃ c ∈ columns, c.name = a ∧ b ∈ Sql.identifiers (c.expr.text v)

/-- Select lists in which no alias is defined by itself. -/
def Acyclic (v : Sql.CellView) (columns : List (Named Expr)) : Prop :=
  ∀ a, ¬Relation.TransGen (Refers v columns) a a

section Graphs

variable {v : Sql.CellView} {columns : List (Named Expr)}

theorem acyclicRank (rank : Text → Nat) (down : ∀ a b, Refers v columns a b → rank b < rank a) :
    Acyclic v columns := by
  have below {a b : Text} (path : Relation.TransGen (Refers v columns) a b) : rank b < rank a := by
    induction path with
    | single edge => exact down _ _ edge
    | tail _ edge ih => exact Nat.lt_trans (down _ _ edge) ih
  exact fun a path => Nat.lt_irrefl _ (below path)

theorem aliasKnown {name : Text} (mem : name ∈ aliases columns)
    (known : ∀ c ∈ columns, c.name ∈ ([] : Text) :: aliasNames) : name ∈ aliasNames := by
  obtain ⟨listed,some⟩ := List.mem_filter.mp mem
  obtain ⟨c,inside,rfl⟩ := List.mem_map.mp listed
  rcases List.mem_cons.mp (known c inside) with none | found
  · simp [none] at some
  · exact found

theorem silentAcyclic (silent : Silent columns) : Acyclic v columns := by
  refine acyclicRank (fun _ => 0) fun a b refers => ?_
  obtain ⟨_,target,c,mem,_,used⟩ := refers
  have name := aliasKnown target fun c mem => (silent c mem).1
  have none := (((silent c mem).2 v).exactly b name).mp used
  contradiction

end Graphs

/-! ### The aliases along stages -/

/-- What is known of rows behind some stages: the aliases that the line uses, those that the extracted
labels use when there are some, and whether a stage was left to the client. -/
structure Trace where
  line : List Text := []
  extra : Option (List Text) := none
  left : Bool := false

namespace Trace

/-- The aliases that a piece of a template uses. -/
def piece (t : Trace) : Piece → List Text
  | .text _ => []
  | .label name => if name = ("_line" : Text) then t.line else labelUses t.extra.isSome

/-- What a stage makes of a trace. -/
def step (t : Trace) (n : Node) : Trace :=
  if t.left then t
  else if n.kind = Kind.parserExpression then { t with extra := some (t.line ++ t.extra.getD []) }
  else if n.kind = Kind.lineFormatExpression then
    match LineTemplate.pieces? (stageText n) with
    | some pieces => { t with line := pieces.flatMap t.piece }
    | none => { t with left := true }
  else t

/-- The trace of stages. -/
def ofStages (stages : List Node) : Trace := stages.foldl step {}

/-- Whether the extracted labels use themselves. -/
def Loops (t : Trace) : Prop := extraColumn ∈ t.extra.getD []

end Trace

/-- Rows that use aliases as a trace says. -/
structure Traced (t : Trace) (r : Rows) : Prop where
  line : Using t.line r.line
  extra : Option.Rel (fun e found => Using found e) r.extra t.extra
  left : r.onClient = t.left

section Traces

variable {t : Trace} {r next : Rows} {clientTemplates : Bool}

theorem Traced.same (traced : Traced t r) (line : next.line = r.line) (extra : next.extra = r.extra)
    (hooks : next.hooks = r.hooks) : Traced t next :=
  ⟨line ▸ traced.line,extra ▸ traced.extra,by rw [← traced.left,Rows.onClient,Rows.onClient,hooks]⟩

theorem Traced.leave (traced : Traced t r) (h : Hook) : Traced { t with left := true } (r.leave h) :=
  ⟨traced.line,traced.extra,by simp [Rows.onClient,Rows.leave]⟩

theorem Traced.extract (traced : Traced t r) {labels : Expr} (known : Using t.line labels) :
    Traced { t with extra := some (t.line ++ t.extra.getD []) } (r.extract labels) := by
  refine ⟨traced.line,?_,traced.left⟩
  have extra := traced.extra
  rw [Rows.extract]
  revert extra
  rcases r.extra with _ | before <;> rcases t.extra with _ | found <;> intro extra
  · exact .some (known.congr (by simp))
  · cases extra
  · cases extra
  · cases extra with
    | some before =>
      exact .some ((usingCall (Sql.stringNaming rfl (by decide))
        (.cons known (.cons before .nil))).congr (by simp))

theorem startTraced : Traced {} {} := ⟨usingRaw (Sql.stringNaming rfl (by decide)),.none,rfl⟩

theorem ruleTraced (traced : Traced t r) {rule : Form.Rule} (ok : r.rule rule = .ok next) :
    Traced t next := by
  obtain ⟨cond,_,rfl⟩ := mapOk ok
  exact traced.same rfl rfl rfl

theorem Traced.extracted (traced : Traced t r) : t.extra.isSome = r.extra.isSome := by
  have extra := traced.extra
  revert extra
  rcases r.extra with _ | before <;> rcases t.extra with _ | found <;> intro extra <;>
    first | rfl | cases extra

theorem pieceUsing (traced : Traced t r) (p : Piece) : Using (t.piece p) (pieceExpr r.plain p) := by
  cases p with
  | text text => exact usingStr text
  | label name =>
    rw [Trace.piece,pieceExpr]
    split
    · rw [Rows.plain,Rows.draftLine]
      exact traced.line
    · have label := usesLabel r.plain name
      rw [Rows.plain,Rows.draftHasExtra,← traced.extracted] at label
      exact usingRaw label

theorem formatUsing (traced : Traced t r) (pieces : List Piece) :
    Using (pieces.flatMap t.piece) (.call "concat" (pieces.map (pieceExpr r.plain) ++
      List.replicate (2 - (pieces.map (pieceExpr r.plain)).length) (Expr.str []))) := by
  have args : List.Forall₂ (fun e found => Using found e) (pieces.map (pieceExpr r.plain))
      (pieces.map t.piece) := by
    rw [List.forall₂_map_left_iff,List.forall₂_map_right_iff,List.forall₂_same]
    exact fun p _ => pieceUsing traced p
  have padding : ∀ e ∈ List.replicate (2 - (pieces.map (pieceExpr r.plain)).length) (Expr.str []),
      Using [] e := by
    intro e mem
    rw [(List.mem_replicate.mp mem).2]
    exact usingStr []
  refine (usingCall (Sql.stringNaming rfl (by decide)) (List.rel_append args (usingEach padding))).congr ?_
  simp [List.flatMap]

theorem parserTraced (traced : Traced t r) (server : r.onClient = false) {s : Form.Stage}
    (parser : s.node.kind = Kind.parserExpression) {labels : Expr} (known : Using t.line labels)
    (same : next = r.extract labels) : Traced (t.step s.node) next := by
  have here : ¬t.left = true := by simp [← traced.left,server]
  rw [Trace.step,if_neg here,if_pos parser,same]
  exact traced.extract known

theorem formatTraced (traced : Traced t r) (server : r.onClient = false) {text : Text}
    (ok : r.format clientTemplates text = .ok next) :
    Traced (t.step (Form.Stage.lineFormat text).node) next := by
  have here : ¬t.left = true := by simp [← traced.left,server]
  have value : stageText (Form.Stage.lineFormat text).node = text := by
    simp [stageText,Form.Stage.node,Node.valueOfHead]
  have other : Kind.lineFormatExpression ≠ Kind.parserExpression := by
    simp [Kind.lineFormatExpression,Kind.parserExpression]
  have kind : (Form.Stage.lineFormat text).node.kind = Kind.lineFormatExpression := rfl
  rw [Trace.step,if_neg here,kind,if_neg other,if_pos rfl,value]
  unfold Rows.format at ok
  rw [if_neg (by simp [server])] at ok
  cases simple : LineTemplate.pieces? text with
  | some pieces =>
    rw [simple] at ok
    cases ok
    exact ⟨formatUsing traced pieces,traced.extra,traced.left⟩
  | none =>
    rw [simple] at ok
    dsimp only at ok
    split at ok
    · cases ok
    · split at ok
      · cases ok
        exact traced.leave _
      · cases ok

/-- Stages that only choose rows leave the trace as it is. -/
theorem choiceTraced (traced : Traced t r) (server : r.onClient = false) {s : Form.Stage}
    (ok : r.stage clientTemplates s = .ok next) (chosen : onServer s = true)
    (line : next.line = r.line) (extra : next.extra = r.extra)
    (other : s.node.kind ≠ Kind.parserExpression ∧ s.node.kind ≠ Kind.lineFormatExpression) :
    Traced (t.step s.node) next := by
  have here : ¬t.left = true := by simp [← traced.left,server]
  rw [Trace.step,if_neg here,if_neg other.1,if_neg other.2]
  exact traced.same line extra ((stageLeaves ok).2 server chosen)

theorem lineTraced (traced : Traced t r) (server : r.onClient = false) {operator text : Text}
    {known : operator ∈ Form.lineOperators}
    (ok : r.stage clientTemplates (.line operator text known) = .ok next) :
    Traced (t.step (Form.Stage.line operator text known).node) next := by
  have both : next.line = r.line ∧ next.extra = r.extra := by
    have ok := ok
    rw [Rows.stage] at ok
    split at ok
    · cases ok
      rw [Rows.contains,server]
      split
      · contradiction
      · split
        · split <;> exact ⟨rfl,rfl⟩
        · exact ⟨rfl,rfl⟩
    · obtain ⟨compiled,_,rfl⟩ := mapOk ok
      rw [server]
      exact ⟨rfl,rfl⟩
  exact choiceTraced traced server ok rfl both.1 both.2 (by simp [Form.Stage.node,
    Kind.lineFilterExpression,Kind.parserExpression,Kind.lineFormatExpression])

theorem jsonTraced (traced : Traced t r) (server : r.onClient = false) {params : List (Text × Text)}
    (ok : r.stage clientTemplates (.json params) = .ok next) :
    Traced (t.step (Form.Stage.json params).node) next := by
  have fixed : Uses (Draft.fixedText r.line) t.line := traced.line _
  rw [Rows.stage,Rows.json,server,if_neg (by simp)] at ok
  split at ok
  · exact parserTraced traced server rfl (usingAllFields fixed) (Except.ok.inj ok).symm
  · rename_i some
    obtain ⟨pairs,read,rfl⟩ := mapOk ok
    refine parserTraced traced server rfl ?_ rfl
    have each : ∀ e ∈ pairs, Using t.line e := by
      intro e mem
      obtain ⟨n,_,pair⟩ := mapMOk read e mem
      exact usingJsonPair fixed pair
    have first : pairs ≠ [] := by
      rintro rfl
      exact some (List.isEmpty_iff.mpr (List.length_eq_zero_iff.mp (mapMLength read).symm))
    exact (usingArray (usingEach each)).congr (by simp [first])

/-- A stage does to the aliases of rows what it does to their trace. -/
theorem stageTraced (traced : Traced t r) {s : Form.Stage} (ok : r.stage clientTemplates s = .ok next) :
    Traced (t.step s.node) next := by
  by_cases client : r.onClient = true
  · have left : t.left = true := by rw [← traced.left,client]
    obtain ⟨h,rfl⟩ := (stageLeaves ok).1 (.inl client)
    rw [Trace.step,left,if_pos rfl]
    exact ⟨traced.line,traced.extra,by simp [Rows.onClient,Rows.leave,left]⟩
  have server : r.onClient = false := by simpa using client
  have fixed : Uses (Draft.fixedText r.line) t.line := traced.line _
  cases s with
  | line operator text known => exact lineTraced traced server ok
  | json params => exact jsonTraced traced server ok
  | logfmt =>
    rw [Rows.stage,Rows.logfmt,server] at ok
    exact parserTraced traced server rfl (usingPairFields fixed) (Except.ok.inj ok).symm
  | regexp re =>
    obtain ⟨compiled,_,ok⟩ := bindOk ok
    rw [if_neg client] at ok
    split at ok
    · contradiction
    · exact parserTraced traced server rfl (usingGroupFields fixed re _) (Except.ok.inj ok).symm
  | filter body form =>
    have kept := ok
    rw [Rows.stage,Rows.filter,server] at kept
    obtain ⟨cond,_,rfl⟩ := mapOk kept
    exact choiceTraced traced server ok rfl rfl rfl (by simp [Form.Stage.node,
      Kind.labelFilterPipeline,Kind.parserExpression,Kind.lineFormatExpression])
  | lineFormat text => exact formatTraced traced server ok
  | labelsFormat rules => contradiction

theorem stagesTraced {stages : List Form.Stage} (traced : Traced t r)
    (ok : stages.foldlM (Rows.stage clientTemplates) r = .ok next) :
    Traced ((stages.map Form.Stage.node).foldl Trace.step t) next := by
  induction stages generalizing r t with
  | nil =>
    cases ok
    exact traced
  | cons stage stages ih =>
    rw [List.foldlM_cons] at ok
    obtain ⟨middle,head,tail⟩ := bindOk ok
    exact ih (stageTraced traced head) tail

theorem sourceTraced {s : Form.Source} (ok : Rows.ofSource clientTemplates s = .ok next) :
    Traced (Trace.ofStages (s.stages.map Form.Stage.node)) next := by
  obtain ⟨chosen,rules,stages⟩ := bindOk ok
  exact stagesTraced (foldOk (fun rule _ rows after traced head => ruleTraced traced head) startTraced
    rules) stages

end Traces

/-! ### The stages that make a loop -/

/-- Line templates that a statement can do. -/
def Simple (n : Node) : Prop :=
  n.kind = Kind.lineFormatExpression → (LineTemplate.pieces? (stageText n)).isSome = true

/-- Line templates that read a label. -/
def ReadsLabel (n : Node) : Prop :=
  n.kind = Kind.lineFormatExpression ∧
    ∃ pieces ∈ LineTemplate.pieces? (stageText n), ∃ name, .label name ∈ pieces ∧
      name ≠ ("_line" : Text)

/-- Stages behind which the line is still there: others than templates, and templates that read it. -/
def KeepsLine (n : Node) : Prop :=
  n.kind = Kind.lineFormatExpression →
    ∃ pieces ∈ LineTemplate.pieces? (stageText n), .label "_line" ∈ pieces

/-- Stages behind which the line uses extracted labels: behind a parser a template reads a label, and
all later templates keep the line. -/
def LineReads (stages : List Node) : Prop :=
  ∃ before : List Node, ∃ format between, stages = before ++ format :: between ∧
    (∃ p ∈ before, p.kind = Kind.parserExpression) ∧ ReadsLabel format ∧ ∀ n ∈ between, KeepsLine n

/-- Stages with a parser of such a line, as long as the statement does them. -/
def LoopsBack (stages : List Node) : Prop :=
  ∃ (before : List Node) (parser : Node) (after : List Node), stages = before ++ parser :: after ∧
    parser.kind = Kind.parserExpression ∧ LineReads before ∧ ∀ n ∈ before, Simple n

/-- A split of a list that is one longer: the last one is split off, or it is in what follows. -/
theorem splitSnoc {α : Type} {xs before after : List α} {x y : α} :
    xs ++ [x] = before ++ y :: after ↔
      (after = [] ∧ xs = before ∧ x = y) ∨ ∃ rest, after = rest ++ [x] ∧ xs = before ++ y :: rest := by
  rcases List.eq_nil_or_concat after with rfl | ⟨rest,last,rfl⟩
  · constructor
    · intro same
      obtain ⟨rfl,final⟩ := List.append_inj' same rfl
      exact .inl ⟨rfl,rfl,by simpa using final⟩
    · rintro (⟨_,rfl,rfl⟩ | ⟨rest,wrong,_⟩)
      · rfl
      · simp at wrong
  · constructor
    · intro same
      have split : xs ++ [x] = (before ++ y :: rest) ++ [last] := by simpa using same
      obtain ⟨rfl,final⟩ := List.append_inj' split rfl
      obtain rfl : x = last := by simpa using final
      exact .inr ⟨rest,by simp,rfl⟩
    · rintro (⟨wrong,_⟩ | ⟨other,same,rfl⟩)
      · simp at wrong
      · obtain ⟨rfl,final⟩ := List.append_inj' (by simpa using same : rest ++ [last] = other ++ [x]) rfl
        obtain rfl : last = x := by simpa using final
        simp

theorem lineReadsSnoc {stages : List Node} {n : Node} :
    LineReads (stages ++ [n]) ↔
      ((∃ p ∈ stages, p.kind = Kind.parserExpression) ∧ ReadsLabel n) ∨
        LineReads stages ∧ KeepsLine n := by
  simp only [LineReads,splitSnoc]
  constructor
  · rintro ⟨before,format,between,⟨rfl,rfl,rfl⟩ | ⟨rest,rfl,rfl⟩,parsed,reads,kept⟩
    · exact .inl ⟨parsed,reads⟩
    · obtain ⟨kept,last⟩ := List.forall_mem_append.mp kept
      exact .inr ⟨⟨before,format,rest,rfl,parsed,reads,kept⟩,last n (by simp)⟩
  · rintro (⟨parsed,reads⟩ | ⟨⟨before,format,between,rfl,parsed,reads,kept⟩,last⟩)
    · exact ⟨stages,n,[],.inl ⟨rfl,rfl,rfl⟩,parsed,reads,by simp⟩
    · refine ⟨before,format,between ++ [n],.inr ⟨between,rfl,rfl⟩,parsed,reads,?_⟩
      exact List.forall_mem_append.mpr ⟨kept,by simpa using last⟩

theorem loopsBackSnoc {stages : List Node} {n : Node} :
    LoopsBack (stages ++ [n]) ↔ LoopsBack stages ∨
      n.kind = Kind.parserExpression ∧ LineReads stages ∧ ∀ m ∈ stages, Simple m := by
  simp only [LoopsBack,splitSnoc]
  constructor
  · rintro ⟨before,parser,after,⟨rfl,rfl,rfl⟩ | ⟨rest,rfl,rfl⟩,kind,reads,simple⟩
    · exact .inr ⟨kind,reads,simple⟩
    · exact .inl ⟨before,parser,rest,rfl,kind,reads,simple⟩
  · rintro (⟨before,parser,after,rfl,kind,reads,simple⟩ | ⟨kind,reads,simple⟩)
    · exact ⟨before,parser,after ++ [n],.inr ⟨after,rfl,rfl⟩,kind,reads,simple⟩
    · exact ⟨stages,n,[],.inl ⟨rfl,rfl,rfl⟩,kind,reads,simple⟩

/-- What the trace of stages knows, in terms of the stages. -/
structure Told (stages : List Node) (t : Trace) : Prop where
  left : t.left = false ↔ ∀ n ∈ stages, Simple n
  extracted : t.left = false → (t.extra.isSome = true ↔ ∃ p ∈ stages, p.kind = Kind.parserExpression)
  reads : t.left = false → (extraColumn ∈ t.line ↔ LineReads stages)
  loops : t.Loops ↔ LoopsBack stages
  bounded : ∀ x ∈ t.line ++ t.extra.getD [], x ∈ [extraColumn, labelsColumn]

section Tales

variable {stages : List Node} {t : Trace} {n : Node}

theorem labelUsesBounded (extracted : Bool) :
    ∀ x ∈ labelUses extracted, x ∈ [extraColumn, labelsColumn] := by
  cases extracted <;> simp [labelUses]

theorem extraLabelUses (extracted : Bool) : extraColumn ∈ labelUses extracted ↔ extracted = true := by
  cases extracted <;> simp [labelUses,extraColumn,labelsColumn]

/-- A template uses extracted labels when it reads a label behind a parser, or the line when this one
does. -/
theorem piecesRead (t : Trace) (pieces : List Piece) :
    extraColumn ∈ pieces.flatMap t.piece ↔
      (t.extra.isSome = true ∧ ∃ name, .label name ∈ pieces ∧ name ≠ ("_line" : Text)) ∨
        extraColumn ∈ t.line ∧ .label "_line" ∈ pieces := by
  rw [List.mem_flatMap]
  constructor
  · rintro ⟨piece,mem,used⟩
    cases piece with
    | text text => contradiction
    | label name =>
      rw [Trace.piece] at used
      split at used
      · rename_i line
        exact .inr ⟨used,line ▸ mem⟩
      · rename_i other
        exact .inl ⟨(extraLabelUses _).mp used,name,mem,other⟩
  · rintro (⟨extracted,name,mem,other⟩ | ⟨used,mem⟩)
    · refine ⟨_,mem,?_⟩
      rw [Trace.piece,if_neg other]
      exact (extraLabelUses _).mpr extracted
    · refine ⟨_,mem,?_⟩
      rw [Trace.piece,if_pos rfl]
      exact used

theorem simpleSnoc : (∀ m ∈ stages ++ [n], Simple m) ↔ (∀ m ∈ stages, Simple m) ∧ Simple n := by
  rw [List.forall_mem_append]
  simp

/-- Behind a stage that was left to the client nothing changes. -/
theorem Told.stepLeft (told : Told stages t) (left : t.left = true) : Told (stages ++ [n]) t := by
  have some : ¬∀ m ∈ stages, Simple m := fun all => by simp [told.left.mpr all] at left
  refine ⟨?_,fun here => ?_,fun here => ?_,?_,told.bounded⟩
  · rw [simpleSnoc,left]
    simp [some]
  · simp [left] at here
  · simp [left] at here
  · rw [loopsBackSnoc,told.loops]
    exact ⟨.inl,fun either => either.resolve_right fun wrong => some wrong.2.2⟩

theorem Told.stepParser (told : Told stages t) (here : t.left = false)
    (parser : n.kind = Kind.parserExpression) :
    Told (stages ++ [n]) { t with extra := some (t.line ++ t.extra.getD []) } := by
  have other : n.kind ≠ Kind.lineFormatExpression := by
    simp [parser,Kind.parserExpression,Kind.lineFormatExpression]
  have simple := told.left.mp here
  refine ⟨?_,fun _ => ?_,fun _ => ?_,?_,?_⟩
  · rw [simpleSnoc]
    exact ⟨fun _ => ⟨simple,fun kind => absurd kind other⟩,fun _ => here⟩
  · simp [parser]
  · rw [lineReadsSnoc,told.reads here]
    exact ⟨fun reads => .inr ⟨reads,fun kind => absurd kind other⟩,
      fun either => either.elim (fun wrong => absurd wrong.2.1 other) (·.1)⟩
  · rw [loopsBackSnoc,← told.loops,← told.reads here]
    rw [Trace.Loops,Option.getD_some,List.mem_append]
    exact ⟨fun either => either.elim (fun line => .inr ⟨parser,line,simple⟩) .inl,
      fun either => either.elim .inr fun back => .inl back.2.1⟩
  · intro x mem
    exact told.bounded x (by simpa using mem)

theorem Told.stepFormat (told : Told stages t) (here : t.left = false)
    (format : n.kind = Kind.lineFormatExpression) {pieces : List Piece}
    (read : LineTemplate.pieces? (stageText n) = some pieces) :
    Told (stages ++ [n]) { t with line := pieces.flatMap t.piece } := by
  have other : n.kind ≠ Kind.parserExpression := by
    simp [format,Kind.parserExpression,Kind.lineFormatExpression]
  have simple := told.left.mp here
  refine ⟨?_,fun _ => ?_,fun _ => ?_,?_,?_⟩
  · rw [simpleSnoc]
    exact ⟨fun _ => ⟨simple,fun _ => by simp [read]⟩,fun _ => here⟩
  · rw [told.extracted here]
    simp [other]
  · rw [piecesRead,lineReadsSnoc,told.extracted here,told.reads here]
    simp [ReadsLabel,KeepsLine,format,read]
  · rw [loopsBackSnoc]
    simp only [other,false_and,or_false]
    exact told.loops
  · intro x mem
    rcases List.mem_append.mp mem with line | extra
    · obtain ⟨piece,_,used⟩ := List.mem_flatMap.mp line
      cases piece with
      | text text => cases used
      | label name =>
        rw [Trace.piece] at used
        split at used
        · exact told.bounded x (List.mem_append_left _ used)
        · exact labelUsesBounded _ x used
    · exact told.bounded x (List.mem_append_right _ extra)

theorem Told.stepOther (told : Told stages t) (here : t.left = false)
    (other : n.kind ≠ Kind.parserExpression) (plain : n.kind ≠ Kind.lineFormatExpression) :
    Told (stages ++ [n]) t := by
  have simple := told.left.mp here
  refine ⟨?_,fun _ => ?_,fun _ => ?_,?_,told.bounded⟩
  · rw [simpleSnoc]
    exact ⟨fun _ => ⟨simple,fun kind => absurd kind plain⟩,fun _ => here⟩
  · rw [told.extracted here]
    simp [other]
  · rw [lineReadsSnoc,told.reads here]
    simp [ReadsLabel,KeepsLine,plain]
  · rw [loopsBackSnoc,told.loops]
    simp [other]

theorem Told.stepStop (told : Told stages t) (format : n.kind = Kind.lineFormatExpression)
    (none : LineTemplate.pieces? (stageText n) = none) :
    Told (stages ++ [n]) { t with left := true } := by
  have other : n.kind ≠ Kind.parserExpression := by
    simp [format,Kind.parserExpression,Kind.lineFormatExpression]
  refine ⟨?_,fun left => by simp at left,fun left => by simp at left,?_,told.bounded⟩
  · rw [simpleSnoc]
    simp [Simple,format,none]
  · rw [loopsBackSnoc]
    simp only [other,false_and,or_false]
    exact told.loops

theorem Told.step (told : Told stages t) : Told (stages ++ [n]) (t.step n) := by
  rw [Trace.step]
  split
  · rename_i left
    exact told.stepLeft left
  · rename_i here
    have here : t.left = false := by simpa using here
    split
    · rename_i parser
      exact told.stepParser here parser
    · rename_i other
      split
      · rename_i format
        split
        · rename_i pieces read
          exact told.stepFormat here format read
        · rename_i none
          exact told.stepStop format none
      · rename_i plain
        exact told.stepOther here other plain

theorem toldStages (stages : List Node) : Told stages (Trace.ofStages stages) := by
  induction stages using List.reverseRecOn with
  | nil =>
    refine ⟨by simp [Trace.ofStages],fun _ => by simp [Trace.ofStages],fun _ => ?_,?_,?_⟩
    · simp [Trace.ofStages,LineReads]
    · simp [Trace.ofStages,Trace.Loops,LoopsBack]
    · simp [Trace.ofStages]
  | append_singleton stages n ih =>
    have last : Trace.ofStages (stages ++ [n]) = (Trace.ofStages stages).step n := by
      simp [Trace.ofStages]
    rw [last]
    exact ih.step

end Tales

/-! ### Rows -/

/-- What is read from rows uses labels only. -/
def Projection.Using (extracted : Bool) : Projection → Prop
  | .number e => Compile.Using (labelUses extracted) e
  | _ => True

/-- The rank of an alias: what its expression can use is of lower rank. -/
def aliasRank (a : Text) : Nat := if a = labelsColumn then 0 else if a = extraColumn then 1 else 2

section Rows

variable {t : Trace} {r : Rows} {p : Projection} {stages : List Node} {v : Sql.CellView}

theorem timestampUsing : Using [] timestampExpr := by
  intro v
  rw [timestampExpr,Expr.text]
  split
  · exact Sql.stringNaming rfl (by decide)
  · exact Sql.stringNaming rfl (by decide)

theorem Traced.labels (traced : Traced t r) {e : Expr} (some : r.extra = some e) :
    ∃ found, t.extra = .some found ∧ Using found e := by
  have extra := traced.extra
  rw [some] at extra
  rcases split : t.extra with _ | found
  · rw [split] at extra
    cases extra
  · rw [split] at extra
    cases extra with
    | some known => exact ⟨found,rfl,known⟩

/-- A column with a known alias that uses aliases of lower rank, unless it is that of extracted labels
that use themselves. -/
def Descends (t : Trace) (c : Named Expr) : Prop :=
  c.name ∈ ([] : Text) :: aliasNames ∧ ∃ found, Using found c.expr ∧
    ∀ x ∈ found, aliasRank x < aliasRank c.name ∨ c.name = extraColumn ∧ t.Loops

theorem silentDescends {e : Expr} {name : Text} (known : name ∈ aliasNames) (silent : Using [] e) :
    Descends t ⟨e,name⟩ :=
  ⟨List.mem_cons_of_mem _ known,[],silent,by simp⟩

theorem boundedDescends {e : Expr} {name : Text} (known : name ∈ aliasNames)
    (high : aliasRank name = 2) {found : List Text} (uses : Using found e)
    (bounded : ∀ x ∈ found, x ∈ [extraColumn, labelsColumn]) : Descends t ⟨e,name⟩ := by
  refine ⟨List.mem_cons_of_mem _ known,found,uses,fun x mem => .inl ?_⟩
  have lower : ∀ x ∈ [extraColumn, labelsColumn], aliasRank x < 2 := by decide
  rw [high]
  exact lower x (bounded x mem)

theorem othersDescend (traced : Traced t r) (told : Told stages t) (joinLabels : Bool) :
    ∀ c ∈ r.others joinLabels, Descends t c := by
  have fixed : ∀ c ∈ [⟨"samples.fingerprint", "fingerprint"⟩, ⟨timestampExpr, timestampColumn⟩],
      Descends t c := by
    simp only [List.forall_mem_cons]
    exact ⟨silentDescends (by decide) (usingRaw (Sql.stringNaming rfl (by decide))),
      silentDescends (by decide) timestampUsing,by simp⟩
  have labels : ∀ c ∈ if joinLabels then [labelsEntry] else [], Descends t c := by
    split
    · simp only [List.forall_mem_cons]
      exact ⟨silentDescends (by decide) usingStreamLabels,by simp⟩
    · simp
  refine List.forall_mem_append.mpr ⟨List.forall_mem_append.mpr ⟨fixed,labels⟩,fun c mem => ?_⟩
  obtain ⟨e,inside,rfl⟩ := List.mem_map.mp mem
  obtain ⟨found,some,uses⟩ := traced.labels (Option.mem_toList.mp inside)
  refine ⟨List.mem_cons_of_mem _ (show extraColumn ∈ aliasNames by decide),found,uses,fun x used => ?_⟩
  have bounded := told.bounded x (List.mem_append_right _ (by simp [some,used]))
  simp only [List.mem_cons,List.not_mem_nil,or_false] at bounded
  rcases bounded with rfl | rfl
  · exact .inr ⟨rfl,by simp [Trace.Loops,some,used]⟩
  · exact .inl (show aliasRank labelsColumn < aliasRank extraColumn by decide)

theorem columnsDescend (traced : Traced t r) (told : Told stages t) (reads : p.Using t.extra.isSome)
    (joinLabels : Bool) : ∀ c ∈ p.columns r.line (r.others joinLabels), Descends t c := by
  have others := othersDescend traced told joinLabels
  have line : Descends t ⟨r.line,lineColumn⟩ :=
    boundedDescends (by decide) (by decide) traced.line fun x mem =>
      told.bounded x (List.mem_append_left _ mem)
  cases p with
  | line => exact List.forall_mem_cons.mpr ⟨line,others⟩
  | sample =>
    refine List.forall_mem_append.mpr ⟨others,?_⟩
    simp only [List.forall_mem_cons]
    exact ⟨silentDescends (by decide) (usingRaw (Sql.stringNaming rfl (by decide))),by simp⟩
  | number e =>
    refine List.forall_mem_cons.mpr ⟨line,List.forall_mem_append.mpr ⟨others,?_⟩⟩
    simp only [List.forall_mem_cons]
    exact ⟨boundedDescends (by decide) (by decide) reads (labelUsesBounded _),by simp⟩

theorem rowsAcyclic (traced : Traced t r) (told : Told stages t) (reads : p.Using t.extra.isSome)
    (joinLabels : Bool) :
    Acyclic v (p.columns r.line (r.others joinLabels)) ↔ ¬LoopsBack stages := by
  rw [← told.loops]
  constructor
  · intro acyclic loops
    obtain ⟨e,some⟩ : ∃ e, r.extra = some e := by
      rw [← Option.isSome_iff_exists,← traced.extracted]
      cases found : t.extra with
      | none => simp [Trace.Loops,found] at loops
      | some found => rfl
    obtain ⟨found,extracted,uses⟩ := traced.labels some
    have other : ⟨e,extraColumn⟩ ∈ r.others joinLabels := by simp [Rows.others,some]
    have column : ⟨e,extraColumn⟩ ∈ p.columns r.line (r.others joinLabels) := by
      cases p <;> simp [Projection.columns,other]
    have named : extraColumn ∈ aliases (p.columns r.line (r.others joinLabels)) :=
      List.mem_filter.mpr ⟨List.mem_map_of_mem column,by decide⟩
    have used : extraColumn ∈ Sql.identifiers (e.text v) :=
      ((uses v).exactly _ (by decide)).mpr (by simpa [Trace.Loops,extracted] using loops)
    exact acyclic extraColumn (.single ⟨named,named,_,column,rfl,used⟩)
  · intro none
    refine acyclicRank aliasRank fun a b refers => ?_
    obtain ⟨_,target,c,mem,rfl,used⟩ := refers
    have columns := columnsDescend traced told reads joinLabels
    obtain ⟨_,found,known,lower⟩ := columns c mem
    have name := aliasKnown target fun c mem => (columns c mem).1
    exact (lower b (((known v).exactly b name).mp used)).resolve_right fun wrong => none wrong.2

end Rows

/-! ### Statements -/

/-- Layers with known stems that use no alias, whatever they read from. -/
def SilentLayers (layers : Layers) : Prop :=
  ∀ l ∈ layers, l.1 ∈ stems ∧ ∀ a, Apart a → Silent (l.2 a).columns

section Statements

variable {c : Context} {layers : Layers} {d : Draft} {bodies : Bodies} {v : Sql.CellView}

theorem bucketLayersSilent {extra : Bool} {stem : Text} {value : Text → Text} (known : stem ∈ stems)
    (clause : Option Node) (values : ∀ a, Apart a → Uses (value a) []) :
    SilentLayers (bucketLayers c extra stem value clause) := by
  refine List.forall_mem_cons.mpr ⟨⟨known,fun a apart => bucketSilent apart clause (values a apart)⟩,?_⟩
  rw [stepLayers]
  split
  · simp
  · simp only [List.forall_mem_cons]
    exact ⟨⟨by simp [stems],fun a apart => stepSilent apart _⟩,by simp⟩

theorem rangeSilent (extra : Bool) (r : Form.Range) : SilentLayers (rangeLayers c extra r) := by
  cases r with
  | log fn function s span =>
    exact bucketLayersSilent (by simp [stems,function]) none fun a apart => usesLogValue apart fn _
  | unwrap fn function u =>
    exact bucketLayersSilent (by simp [stems,function]) _ fun a apart => usesUnwrapValue apart fn _

theorem usesAggregate {fn : Text} (known : fn ∈ aggregationFunctions) : Uses (seriesAggregate fn) [] := by
  unfold seriesAggregate
  split
  · exact Sql.stringNaming rfl (by decide)
  · split
    · exact Sql.stringNaming rfl (by decide)
    · simp only [aggregationFunctions,List.mem_cons,List.not_mem_nil,or_false] at known
      rcases known with rfl | rfl | rfl | rfl | rfl | rfl | rfl <;>
        exact Sql.stringNaming rfl (by decide)

theorem usesComparison {op : Text} (known : op ∈ Form.thresholdOperators) :
    Uses (if op = ("==" : Text) then "=" else op) [] := by
  split
  · exact Sql.stringNaming rfl (by decide)
  · simp only [Form.thresholdOperators,List.mem_cons,List.not_mem_nil,or_false] at known
    rcases known with rfl | rfl | rfl | rfl | rfl | rfl <;> exact Sql.stringNaming rfl (by decide)

theorem matrixLayersSilent {extra : Bool} {m : Form.Matrix}
    (ok : matrixLayers c extra m = .ok layers) : SilentLayers layers := by
  cases m with
  | range r =>
    cases ok
    exact rangeSilent extra r
  | quantile fn function x u =>
    obtain ⟨phi,_,rfl⟩ := mapOk ok
    exact bucketLayersSilent (by simp [stems,function]) _ fun a apart => usesQuantile apart phi
  | aggregate fn function g r =>
    cases ok
    refine List.forall_mem_append.mpr ⟨rangeSilent extra r,?_⟩
    simp only [List.forall_mem_cons]
    exact ⟨⟨by simp [stems],fun a apart => mergeSilent apart (usesAggregate function) _⟩,by simp⟩

theorem thresholdLayersSilent {threshold : Option Form.Threshold}
    (ok : thresholdLayers threshold = .ok layers) : SilentLayers layers := by
  cases threshold with
  | none =>
    cases ok
    simp [SilentLayers]
  | some t =>
    obtain ⟨want,_,rfl⟩ := mapOk ok
    simp only [SilentLayers,List.forall_mem_cons]
    exact ⟨⟨by simp [stems],fun a apart => thresholdSilent apart (usesComparison t.known) want _⟩,
      by simp⟩

theorem rankingLayersSilent {ranking : Option Form.Ranking}
    (ok : rankingLayers ranking = .ok layers) : SilentLayers layers := by
  cases ranking with
  | none =>
    cases ok
    simp [SilentLayers]
  | some r =>
    obtain ⟨k,_,ok⟩ := bindOk ok
    split at ok
    · cases ok
      have known : r.fn ∈ stems := by simp [stems,r.known]
      simp only [SilentLayers,List.forall_mem_cons]
      refine ⟨⟨known,fun a apart => topSilent apart ?_ _⟩,⟨known,fun a apart => spreadSilent apart⟩,
        by simp⟩
      split <;> exact Sql.stringNaming rfl (by decide)
    · contradiction

theorem seriesLayersSilent {extra : Bool} {m : Form.Matrix} {ranking : Option Form.Ranking}
    {threshold : Option Form.Threshold}
    (ok : seriesLayers c extra m ranking threshold = .ok layers) : SilentLayers layers := by
  obtain ⟨first,matrix,ok⟩ := bindOk ok
  obtain ⟨tests,tested,ok⟩ := bindOk ok
  obtain ⟨ranks,ranked,ok⟩ := bindOk ok
  cases ok
  exact List.forall_mem_append.mpr ⟨List.forall_mem_append.mpr
    ⟨matrixLayersSilent matrix,thresholdLayersSilent tested⟩,rankingLayersSilent ranked⟩

theorem linksAcyclic {last : Select} : (∀ s ∈ links bodies last, Acyclic v s.columns) ↔
    (∀ p ∈ bodies, Acyclic v p.2.columns) ∧ Acyclic v last.columns := by
  rw [links,List.forall_mem_append,List.forall_mem_map]
  simp [bare]

/-- A layer that uses no alias changes nothing about loops. -/
theorem overAcyclic {stem : Text} {l : Text → Layer} (known : stem ∈ stems)
    (silent : ∀ a, Apart a → Silent (l a).columns)
    (withs : d.select.withs = bodies.map fun p => ⟨.query p.2,p.1⟩) :
    (d.over stem l).select.withs = (d.behind stem bodies).map (fun p => ⟨.query p.2,p.1⟩) ∧
      ((∀ s ∈ links (d.behind stem bodies) (d.over stem l).select, Acyclic v s.columns) ↔
        ∀ s ∈ links bodies d.select, Acyclic v s.columns) := by
  have last : Acyclic v (d.over stem l).select.columns :=
    silentAcyclic (silent (d.next stem) (nameApart known _))
  refine ⟨by simp [overWiths,withs,Draft.behind],?_⟩
  rw [linksAcyclic,linksAcyclic,Draft.behind,List.forall_mem_append]
  simp [last,bare]

theorem stackAcyclic (silent : SilentLayers layers)
    (withs : d.select.withs = bodies.map fun p => ⟨.query p.2,p.1⟩) :
    ∃ more : Bodies, (d.stack layers).select.withs = more.map (fun p => ⟨.query p.2,p.1⟩) ∧
      ((∀ s ∈ links more (d.stack layers).select, Acyclic v s.columns) ↔
        ∀ s ∈ links bodies d.select, Acyclic v s.columns) := by
  induction layers generalizing d bodies with
  | nil => exact ⟨bodies,withs,Iff.rfl⟩
  | cons l layers ih =>
    obtain ⟨here,later⟩ := List.forall_mem_cons.mp silent
    have unordered : (d.orderBy []).select.withs = bodies.map fun p => ⟨.query p.2,p.1⟩ := withs
    obtain ⟨next,same⟩ := overAcyclic (v := v) here.1 here.2 unordered
    obtain ⟨more,found,rest⟩ := ih later next
    refine ⟨more,found,rest.trans (same.trans ?_)⟩
    rw [linksAcyclic,linksAcyclic]
    rfl

end Statements

/-! ### Requests -/

section Requests

variable {clientTemplates : Bool} {v : Sql.CellView}

theorem selectionAcyclic (r : Rows) (legacy : Bool) : Acyclic v (r.selection legacy).columns := by
  refine acyclicRank (fun _ => 0) fun a b refers => ?_
  have none : aliases (r.selection legacy).columns = [] := by
    simp [Rows.selection,baseSelection,aliases]
  have target := refers.1
  rw [none] at target
  contradiction

/-- A statement with the columns of rows has a loop exactly when their stages make one. -/
theorem draftAcyclic {s : Form.Source} {r : Rows} {p : Projection} {last : Select}
    (source : Rows.ofSource clientTemplates s = .ok r) (reads : p.Using r.extra.isSome)
    {joinLabels : Bool} (columns : last.columns = p.columns r.line (r.others joinLabels))
    (legacy : Bool) :
    (∀ x ∈ links [(streamSelection, r.selection legacy)] last, Acyclic v x.columns) ↔
      ¬LoopsBack (s.stages.map Form.Stage.node) := by
  have traced := sourceTraced source
  rw [← traced.extracted] at reads
  rw [linksAcyclic,← rowsAcyclic (v := v) traced (toldStages _) reads joinLabels,columns]
  simp [selectionAcyclic]

theorem matrixRowsSource {m : Form.Matrix} {rows : Rows × Projection}
    (ok : matrixRows clientTemplates m = .ok rows) :
    Rows.ofSource clientTemplates m.source = .ok rows.1 ∧ rows.2.Using rows.1.extra.isSome := by
  have numbered {source : Form.Source} {conv name : Text}
      (ok : (Rows.ofSource clientTemplates source).bind (Rows.number conv name) = .ok rows) :
      Rows.ofSource clientTemplates source = .ok rows.1 ∧ rows.2.Using rows.1.extra.isSome := by
    obtain ⟨r,found,ok⟩ := bindOk ok
    unfold Rows.number at ok
    split at ok
    · contradiction
    · obtain ⟨e,converted,rfl⟩ := mapOk ok
      refine ⟨found,usingConversion (usingRaw ?_) converted⟩
      have label := usesLabel r.plain name
      rwa [Rows.plain,Rows.draftHasExtra] at label
  have unwrapped {u : Form.Unwrapped} (ok : Rows.ofUnwrapped clientTemplates u = .ok rows) :
      Rows.ofSource clientTemplates u.source = .ok rows.1 ∧ rows.2.Using rows.1.extra.isSome := by
    unfold Rows.ofUnwrapped at ok
    split at ok
    · split at ok
      · obtain ⟨r,found,rfl⟩ := mapOk ok
        exact ⟨found,trivial⟩
      · contradiction
    · exact numbered ok
    · exact numbered ok
  have ranged {r : Form.Range} (ok : rangeRows clientTemplates r = .ok rows) :
      Rows.ofSource clientTemplates r.source = .ok rows.1 ∧ rows.2.Using rows.1.extra.isSome := by
    cases r with
    | log fn known s span =>
      obtain ⟨r,found,rfl⟩ := mapOk ok
      exact ⟨found,trivial⟩
    | unwrap fn known u => exact unwrapped ok
  cases m with
  | range r => exact ranged ok
  | quantile fn known x u => exact unwrapped ok
  | aggregate fn known g r => exact ranged ok

theorem stagesBelow {n : Node} {s : Form.Source}
    (found : n.findAll Kind.logPipeline = s.stages.map Form.pipelineNode) :
    stageNodes n = s.stages.map Form.Stage.node := by
  rw [stageNodes,found,List.filterMap_map]
  simp [Function.comp_def,Form.pipelineNode]

theorem pipelinesAbsent : Kind.logPipeline ∉ Form.shellKinds :=
  Form.shellAbsent _ (by simp [Form.innerKinds])

theorem matrixStages (m : Form.Matrix) (ranking : Option Form.Ranking)
    (threshold : Option Form.Threshold) :
    stageNodes (Form.matrix m ranking threshold).node = m.source.stages.map Form.Stage.node := by
  refine stagesBelow ?_
  rw [Form.matrixSource pipelinesAbsent,Form.sourcePipelines]

/-- A live tail is the draft of rows itself. -/
theorem tailRows {e : Engine} (full : e.registry = Registry.full clientTemplates) {text : Text}
    {compiled : Compiled} (ok : e.compileTail text = .ok compiled) :
    ∃ s r, e.parse text = .ok (Form.rows s).node ∧ Rows.ofSource clientTemplates s = .ok r ∧
      compiled.select = ((r.draft .line { joinLabels := true, legacy := true }
        [byTime "asc"]).setLimit none).select := by
  obtain ⟨root,read,rest⟩ := bindOk ok
  obtain ⟨q,rfl,_⟩ := parseText read
  have allowed : ∀ kind ∈ tailDenied, ¬(q.node.find? kind).isSome = true := by
    cases denied : tailDenied.find? fun kind => (q.node.find? kind).isSome with
    | some kind =>
      rw [denied] at rest
      cases rest
    | none => exact List.find?_eq_none.mp denied
  cases q with
  | call name args =>
    have none := allowed Kind.userMacro (by simp [tailDenied])
    simp [Form.callFound] at none
  | matrix m ranking threshold =>
    have none := allowed Kind.aggStatement (by simp [tailDenied])
    simp [Form.matrixStatement] at none
  | rows s =>
    have ok := (compileTailRows full read).symm.trans ok
    split at ok
    · cases ok
    · obtain ⟨r,source,rfl⟩ := mapOk ok
      refine ⟨s,r,read,source,?_⟩
      simp only [Engine.tailOf,Engine.tailBound,Draft.setLimit,Draft.orderBy,Draft.mapSelect,bindSelect]
      rfl

theorem listingAcyclic {c : Context} {direction : Text} {s : Form.Source} {d : Draft}
    (ok : rowsDraft clientTemplates c direction s = .ok d) :
    ∃ bodies : Bodies, d.select.withs = bodies.map (fun p => ⟨.query p.2,p.1⟩) ∧
      ((∀ x ∈ links bodies d.select, Acyclic v x.columns) ↔
        ¬LoopsBack (s.stages.map Form.Stage.node)) := by
  obtain ⟨rows,source,rfl⟩ := mapOk ok
  have known : ("sel" : Text) ∈ stems := by simp [stems]
  have start : (rows.draft .line c [byTime direction]).select.withs =
      ([(streamSelection, rows.selection c.legacy)] : Bodies).map fun p => ⟨.query p.2,p.1⟩ := rfl
  obtain ⟨withs,same⟩ := overAcyclic (v := v) known
    (fun a apart => listingSilent apart direction c.joinLabels) start
  exact ⟨_,withs,same.trans (draftAcyclic (p := .line) source trivial rfl c.legacy)⟩

theorem seriesAcyclic {c : Context} {direction : Text} {m : Form.Matrix}
    {ranking : Option Form.Ranking} {threshold : Option Form.Threshold} {d : Draft}
    (ok : seriesDraft clientTemplates c direction m ranking threshold = .ok d) :
    ∃ bodies : Bodies, d.select.withs = bodies.map (fun p => ⟨.query p.2,p.1⟩) ∧
      ((∀ x ∈ links bodies d.select, Acyclic v x.columns) ↔
        ¬LoopsBack (m.source.stages.map Form.Stage.node)) := by
  obtain ⟨rows,layers,found,known,rfl⟩ := seriesStacked ok
  obtain ⟨source,reads⟩ := matrixRowsSource found
  have start : (groundDraft c rows).select.withs =
      ([(streamSelection, rows.1.selection c.legacy)] : Bodies).map fun p => ⟨.query p.2,p.1⟩ := rfl
  obtain ⟨bodies,withs,same⟩ := stackAcyclic (v := v) (seriesLayersSilent known) start
  exact ⟨bodies,withs,same.trans (draftAcyclic source reads rfl c.legacy)⟩

/-- No alias of a compiled statement is defined by itself, unless the query puts extracted labels into
the line with a template and then parses this line again. -/
theorem aliasesLoop {e : Engine} (full : e.registry = Registry.full clientTemplates) {r : Request}
    {compiled : Compiled}
    (ok : e.compile r = .ok compiled ∨ e.compileTail r.query = .ok compiled) :
    ∃ text root, e.Expands r.query text ∧ e.parse text = .ok root ∧
      ∃ bodies : Bodies, compiled.select.withs = (bodies.map fun p => ⟨.query p.2,p.1⟩) ∧
        ((∀ s ∈ links bodies compiled.select, Acyclic compiled.bindings.view s.columns) ↔
          ¬LoopsBack (stageNodes root)) := by
  rcases ok with ok | ok
  · obtain ⟨text,expands,source⟩ := compileSource full ok
    cases source with
    | @rows s w d read window drafted =>
      obtain ⟨bodies,withs,loops⟩ := listingAcyclic drafted
      rw [← resultSelect] at withs loops
      rw [← stagesBelow (Form.rowsHold s).stages] at loops
      exact ⟨text,_,expands,read,bodies,withs,loops⟩
    | @matrix m ranking threshold w d read window drafted =>
      obtain ⟨bodies,withs,loops⟩ := seriesAcyclic drafted
      rw [← resultSelect] at withs loops
      rw [← matrixStages] at loops
      exact ⟨text,_,expands,read,bodies,withs,loops⟩
  · obtain ⟨s,rows,read,source,select⟩ := tailRows full ok
    refine ⟨r.query,_,.here _,read,[(streamSelection, rows.selection true)],?_,?_⟩
    · rw [select]
      rfl
    · rw [select,stagesBelow (Form.rowsHold s).stages]
      exact draftAcyclic (p := .line) source trivial rfl true

/-- Stages are a loop when a template of one label stands between two parsers. -/
theorem loopsBetween {first format last : Node} (before : first.kind = Kind.parserExpression)
    (kind : format.kind = Kind.lineFormatExpression) {name : Text}
    (read : LineTemplate.pieces? (stageText format) = some [.label name])
    (other : name ≠ ("_line" : Text)) (after : last.kind = Kind.parserExpression) :
    LoopsBack [first, format, last] := by
  have reads : ReadsLabel format := ⟨kind,_,read,name,by simp,other⟩
  refine ⟨[first, format],last,[],rfl,after,⟨[first],format,[],rfl,?_,reads,by simp⟩,?_⟩
  · simpa using before
  · simp only [List.forall_mem_cons]
    refine ⟨fun wrong => ?_,fun _ => by simp [read],by simp⟩
    simp [before,Kind.parserExpression,Kind.lineFormatExpression] at wrong

end Requests

/-- A document whose line is set to one of its fields, which is parsed as a document again. -/
def parsedTwice : Request :=
  { query := "\x7bapp=\"api\"\x7d | json | line_format \"\x7b\x7b.x\x7d\x7d\" | json" }

theorem parsedTwiceLoops : ∃ compiled bodies,
    ({ registry := .full true } : Engine).compile parsedTwice = .ok compiled ∧
      compiled.select.withs = (bodies.map fun p => ⟨.query p.2,p.1⟩) ∧
      ¬∀ s ∈ links bodies compiled.select, Acyclic compiled.bindings.view s.columns := by
  obtain ⟨root,read,run⟩ := okAny
    (show (({ registry := .full true } : Engine).parse parsedTwice.query).toOption.any
      (fun root => ((root.find? Kind.userMacro).isNone &&
        (stageNodes root).map (fun n => (n.kind, LineTemplate.pieces? (stageText n))) =
          [(Kind.parserExpression, some []), (Kind.lineFormatExpression, some [.label "x"]),
            (Kind.parserExpression, some [])]) &&
        (({ registry := .full true } : Engine).compile parsedTwice).toOption.any fun _ => true) =
      true by decide +kernel)
  simp only [Bool.and_eq_true,decide_eq_true_eq,Option.isNone_iff_eq_none] at run
  obtain ⟨⟨plain,stages⟩,run⟩ := run
  obtain ⟨compiled,ok,_⟩ := okAny run
  obtain ⟨text,found,expands,parsed,bodies,withs,loops⟩ := aliasesLoop rfl (.inl ok)
  have same : found = root := by
    cases expands with
    | here => exact Except.ok.inj (parsed.symm.trans read)
    | call first called => simp [Except.ok.inj (first.symm.trans read),plain] at called
  refine ⟨compiled,bodies,ok,withs,fun acyclic => loops.mp acyclic ?_⟩
  obtain ⟨first,_,split,one,stages⟩ := List.map_eq_cons_iff.mp stages
  obtain ⟨format,_,rfl,two,stages⟩ := List.map_eq_cons_iff.mp stages
  obtain ⟨last,rest,rfl,three,stages⟩ := List.map_eq_cons_iff.mp stages
  obtain rfl := List.map_eq_nil_iff.mp stages
  obtain ⟨kind,read⟩ := Prod.mk.inj two
  rw [same,split]
  exact loopsBetween (congrArg Prod.fst one) kind read (by decide) (congrArg Prod.fst three)

end LogSql.Compile
