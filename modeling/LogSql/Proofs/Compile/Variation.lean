import LogSql.Proofs.Compile.Cited
import LogSql.Proofs.Compile.Hooks
import LogSql.Proofs.Compile.Stacks
import LogSql.Proofs.Query.Masks
import LogSql.Proofs.Sql.Pieces

/-! Rows of masked queries. Two queries that are the same behind their masks choose and keep their rows
by conditions that differ in literals only, which are the strings of the queries; all else about the
rows is the same. -/
namespace LogSql.Compile

open Query
open Sql (Expr Closed Varies AllVary stringClosed mentionsClosed)

/-- Texts of two queries that stand in the same places. -/
abbrev Pairs := List (Text × Text)

/-! ### Conditions -/

section Conditions

variable {columns : List Text} {vs : Pairs} {e f value : Expr}

theorem citingVaries (citing : Citing columns e) : Varies [] e e :=
  .same (citesNeutral columns) citing

theorem negateVaries (negated : Bool) (varies : Varies vs e f) :
    Varies vs (negateIf negated e) (negateIf negated f) := by
  cases negated with
  | false => exact varies
  | true => exact varies.not

theorem matchVaries (known : Citing columns value) (a b : Text) :
    Varies [(a, b)] (.call "match" [value, .str a]) (.call "match" [value, .str b]) :=
  (AllVary.cons (citingVaries known) (.cons (.str a b) .nil)).call (stringClosed rfl (by decide))

/-- Conditions of rules that are the same behind their masks. -/
theorem ruleVaries {a b : Form.Rule} (same : a.masked = b.masked) (first : Rows.ruleCondition a = .ok e)
    (second : Rows.ruleCondition b = .ok f) : Varies [(a.literal, b.literal)] e f := by
  obtain ⟨label,operator,x,known⟩ := a
  obtain ⟨label',operator',y,known'⟩ := b
  obtain ⟨rfl,rfl⟩ : label = label' ∧ operator = operator' := by simpa [Form.Rule.masked] using same
  have stream := streamCiting label
  unfold Rows.ruleCondition at first second
  dsimp only at first second
  simp only [Form.matchers,List.mem_cons,List.not_mem_nil,or_false] at known
  rcases known with rfl | rfl | rfl | rfl
  · cases first
    cases second
    exact .binary (stringClosed rfl (by decide)) (citingVaries stream) (.str x y)
  · cases first
    cases second
    exact .binary (stringClosed rfl (by decide)) (citingVaries stream) (.str x y)
  · obtain ⟨_,_,rfl⟩ := mapOk first
    obtain ⟨_,_,rfl⟩ := mapOk second
    exact matchVaries stream (anchored x) (anchored y)
  · obtain ⟨_,_,rfl⟩ := mapOk first
    obtain ⟨_,_,rfl⟩ := mapOk second
    exact (matchVaries stream (anchored x) (anchored y)).not

/-- Conditions that compare one value with two texts. -/
theorem textVaries (known : Citing columns value) {operator a b : Text}
    (first : textCondition value operator a = .ok e) (second : textCondition value operator b = .ok f) :
    Varies [(Node.compared operator a, Node.compared operator b)] e f := by
  unfold textCondition at first second
  split at first
  · rename_i equal
    rw [if_pos equal] at second
    cases first
    cases second
    have plain (t : Text) : Node.compared operator t = t := by
      rcases equal with rfl | rfl <;> exact if_neg (by simp)
    rw [plain,plain]
    exact .binary (stringClosed rfl (by decide)) (citingVaries known) (.str a b)
  · rename_i unequal
    rw [if_neg unequal] at second
    split at first
    · rename_i other
      rw [if_pos other] at second
      cases first
      cases second
      have plain (t : Text) : Node.compared operator t = t := by
        rw [other]
        exact if_neg (by simp)
      rw [plain,plain]
      exact .binary (stringClosed rfl (by decide)) (citingVaries known) (.str a b)
    · rename_i other
      rw [if_neg other] at second
      split at first
      · rename_i pattern
        rw [if_pos pattern] at second
        obtain ⟨_,_,first⟩ := bindOk first
        obtain ⟨_,_,second⟩ := bindOk second
        cases first
        cases second
        have whole (t : Text) : Node.compared operator t = anchored t := if_pos pattern
        rw [whole,whole]
        have matched := matchVaries known (anchored a) (anchored b)
        split
        · exact matched.not
        · exact matched
      · contradiction

/-- Conditions of tests that are the same behind their masks. -/
theorem testVaries (known : Citing columns value) {a b : Form.Test} (same : a.masked = b.masked)
    (first : testCondition value a = .ok e) (second : testCondition value b = .ok f) :
    Varies (a.literals.zip b.literals) e f := by
  obtain ⟨label,operator,x⟩ := a
  obtain ⟨label',operator',y⟩ := b
  simp only [Form.Test.masked,Form.Test.mk.injEq] at same
  obtain ⟨rfl,rfl,operands⟩ := same
  have operands := eq_of_heq operands
  -- Only texts are masked, so tests with other operands are the same.
  have unmasked {t : Form.Test} (none : t.literals = []) (first : testCondition value t = .ok e)
      (second : testCondition value t = .ok f) : Varies (t.literals.zip t.literals) e f := by
    obtain rfl := Except.ok.inj (first.symm.trans second)
    rw [none]
    exact citingVaries (testConditionCiting known first)
  cases x <;> cases y <;> simp [Form.Operand.masked] at operands
  case text.text => exact textVaries known first second
  case number.number =>
    subst operands
    exact unmasked rfl first second
  case duration.duration =>
    subst operands
    exact unmasked rfl first second
  case bytes.bytes =>
    subst operands
    exact unmasked rfl first second

/-- Lists of conditions that differ in their strings only. -/
theorem partsVary {g h : Node → Except Error Expr} {ps qs : List Node} {es fs : List Expr}
    (left : ∀ p ∈ ps, Form.Filter p) (right : ∀ q ∈ qs, Form.Filter q)
    (same : ps.map Node.masked = qs.map Node.masked)
    (each : ∀ p ∈ ps, ∀ q ∈ qs, p.masked = q.masked → ∀ e f, g p = .ok e → h q = .ok f →
      Varies (p.literals.zip q.literals) e f)
    (first : ps.mapM g = .ok es) (second : qs.mapM h = .ok fs) :
    AllVary ((ps.flatMap Node.literals).zip (qs.flatMap Node.literals)) es fs := by
  induction ps generalizing qs es fs with
  | nil =>
    obtain rfl : qs = [] := by simpa using same.symm
    cases first
    cases second
    exact .nil
  | cons p ps ih =>
    cases qs with
    | nil => simp at same
    | cons q qs =>
      simp only [List.map_cons,List.cons.injEq] at same
      simp only [List.forall_mem_cons] at left right
      rw [List.mapM_cons] at first second
      obtain ⟨e,head,first⟩ := bindOk first
      obtain ⟨es,tail,first⟩ := bindOk first
      obtain ⟨f,head',second⟩ := bindOk second
      obtain ⟨fs,tail',second⟩ := bindOk second
      cases first
      cases second
      have count : p.literals.length = q.literals.length := by
        rw [← left.1.count,same.1,right.1.count]
      rw [List.flatMap_cons,List.flatMap_cons,List.zip_append count]
      refine .cons (each p List.mem_cons_self q List.mem_cons_self same.1 e f head head') ?_
      exact ih left.2 right.2 same.2
        (fun p mem q mem' => each p (List.mem_cons_of_mem _ mem) q (List.mem_cons_of_mem _ mem'))
        tail tail'

/-- Conditions of label filters that are the same behind their masks. -/
theorem conditionVaries {d d' : Draft} (value : ∀ name, d.labelValue name = d'.labelValue name)
    (known : ∀ name, Sql.Mentions (Cites columns) (d.labelValue name)) {n m : Node}
    (left : Form.Filter n) (right : Form.Filter m) (same : n.masked = m.masked)
    (first : condition d n = .ok e) (second : condition d' m = .ok f) :
    Varies (n.literals.zip m.literals) e f := by
  -- The outermost kind is not masked, so the second filter has the form of the first.
  have kinds : n.kind = m.kind := by simpa using congrArg Node.kind same
  induction left generalizing m e f with
  | test t =>
    cases right with
    | test u =>
      rw [← Form.testMasked,← Form.testMasked] at same
      rw [conditionTest] at first second
      have masked := Form.testUnique same
      have label : t.masked.label = u.masked.label := congrArg Form.Test.label masked
      change t.label = u.label at label
      rw [← value,← label] at second
      rw [Form.testLiterals,Form.testLiterals]
      exact testVaries (.raw (known t.label)) masked first second
    | all => simp [Form.Test.node,Kind.simpleLabelFilter,Kind.labelFilterAnd] at kinds
    | any => simp [Form.Test.node,Kind.simpleLabelFilter,Kind.labelFilterOr] at kinds
  | @all ps two each ih =>
    cases right with
    | test u => simp [Form.Test.node,Kind.simpleLabelFilter,Kind.labelFilterAnd] at kinds
    | @all qs two' each' =>
      rw [Node.maskedOther Form.groupOther.1,Node.maskedOther Form.groupOther.1] at same
      rw [conditionAll] at first second
      obtain ⟨es,read,rfl⟩ := mapOk first
      obtain ⟨fs,read',rfl⟩ := mapOk second
      rw [Node.literalsOther Form.groupOther.1,Node.literalsOther Form.groupOther.1]
      refine (partsVary each each' (Node.mk.inj same).2.2 (fun p mem q mem' alike e f ok ok' => ?_)
        read read').all
      exact ih p mem (each' q mem') alike ok ok' (by simpa using congrArg Node.kind alike)
    | any => simp [Kind.labelFilterAnd,Kind.labelFilterOr] at kinds
  | @any ps two each ih =>
    cases right with
    | test u => simp [Form.Test.node,Kind.simpleLabelFilter,Kind.labelFilterOr] at kinds
    | all => simp [Kind.labelFilterAnd,Kind.labelFilterOr] at kinds
    | @any qs two' each' =>
      rw [Node.maskedOther Form.groupOther.2,Node.maskedOther Form.groupOther.2] at same
      rw [conditionAny] at first second
      obtain ⟨es,read,rfl⟩ := mapOk first
      obtain ⟨fs,read',rfl⟩ := mapOk second
      rw [Node.literalsOther Form.groupOther.2,Node.literalsOther Form.groupOther.2]
      refine (partsVary each each' (Node.mk.inj same).2.2 (fun p mem q mem' alike e f ok ok' => ?_)
        read read').any
      exact ih p mem (each' q mem') alike ok ok' (by simpa using congrArg Node.kind alike)

end Conditions
/-! ### Rows -/

namespace Rows

/-- Rows that differ in literals only: those of the conditions on their streams, and those of the
conditions on themselves. -/
structure Alike (vs ws : Pairs) (r s : Rows) : Prop where
  streams : AllVary vs r.streams s.streams
  filters : AllVary ws r.filters s.filters
  line : r.line = s.line
  extra : r.extra = s.extra
  client : r.onClient = s.onClient

variable {vs ws us : Pairs} {r s next next' : Rows} {clientTemplates : Bool}

theorem startAlike : Alike [] [] {} {} := ⟨.nil,.nil,rfl,rfl,rfl⟩

theorem Alike.choose (alike : Alike vs ws r s) {e f : Expr} (varies : Varies us e f) :
    Alike (vs ++ us) ws (r.choose e) (s.choose f) :=
  ⟨alike.streams.snoc varies,alike.filters,alike.line,alike.extra,alike.client⟩

theorem Alike.keep (alike : Alike vs ws r s) {e f : Expr} (varies : Varies us e f) :
    Alike vs (ws ++ us) (r.keep e) (s.keep f) :=
  ⟨alike.streams,alike.filters.snoc varies,alike.line,alike.extra,alike.client⟩

theorem Alike.leave (alike : Alike vs ws r s) (h k : Hook) : Alike vs ws (r.leave h) (s.leave k) :=
  ⟨alike.streams,alike.filters,alike.line,alike.extra,by
    simp only [onClient,Rows.leave]
    cases r.hooks <;> cases s.hooks <;> rfl⟩

theorem Alike.extract (alike : Alike vs ws r s) (labels : Expr) :
    Alike vs ws (r.extract labels) (s.extract labels) :=
  ⟨alike.streams,alike.filters,alike.line,by simp only [Rows.extract,alike.extra],alike.client⟩

theorem Alike.rewrite (alike : Alike vs ws r s) (line : Expr) :
    Alike vs ws { r with line } { s with line } :=
  ⟨alike.streams,alike.filters,rfl,alike.extra,alike.client⟩

theorem Alike.value (alike : Alike vs ws r s) (name : Text) :
    r.plain.labelValue name = s.plain.labelValue name := by
  simp only [Draft.labelValue,plain,draftHasExtra,alike.extra]

theorem Alike.piece (alike : Alike vs ws r s) : pieceExpr r.plain = pieceExpr s.plain := by
  funext piece
  cases piece with
  | text t => rfl
  | label name =>
    have line : r.plain.lineExpr = s.plain.lineExpr := by
      rw [plain,plain,draftLine,draftLine,alike.line]
    simp only [pieceExpr,alike.value,line]

/-- Rules that are the same behind their masks choose streams alike. -/
theorem ruleAlike (alike : Alike vs ws r s) {a b : Form.Rule} (same : a.masked = b.masked)
    (first : r.rule a = .ok next) (second : s.rule b = .ok next') :
    Alike (vs ++ [(a.literal, b.literal)]) ws next next' := by
  obtain ⟨e,read,rfl⟩ := mapOk first
  obtain ⟨f,read',rfl⟩ := mapOk second
  exact alike.choose (ruleVaries same read read')

/-- A text that is sought is empty in both queries or in neither. -/
theorem soughtEmpty {operator a b : Text} (searching : Form.searching operator = true)
    (same : Form.sought operator a = Form.sought operator b) : a.isEmpty = b.isEmpty := by
  cases a <;> cases b <;> simp_all [Form.sought]

theorem containsAlike (alike : Alike vs ws r s) (cited : r.Cited true) (server : r.onClient = false)
    (negated : Bool) {a b : Text} (empty : a.isEmpty = b.isEmpty) :
    Alike vs (ws ++ if a.isEmpty then [] else [(a, b)]) (r.contains negated a)
      (s.contains negated b) := by
  have server' : s.onClient = false := alike.client ▸ server
  have constant : Citing [] "0" := .raw (stringCites rfl (by decide))
  have zero : Varies [] ("0" : Expr) "0" := citingVaries constant
  rw [contains,contains,server,server',← empty]
  cases none : a.isEmpty with
  | true =>
    cases negated with
    | true => exact alike.keep zero
    | false => simpa using alike
  | false =>
    have operator : Closed (if negated then "=" else "!=" : Text) := by
      cases negated <;> exact stringClosed rfl (by decide)
    have position : Varies [(a, b)] (.call "position" [r.line, .str a])
        (.call "position" [s.line, .str b]) := by
      rw [← alike.line]
      exact (AllVary.cons (citingVaries cited.line) (.cons (.str a b) .nil)).call
        (stringClosed rfl (by decide))
    have number : Citing [] (.int 0) := .int 0
    exact alike.keep (.binary operator position (citingVaries number))

theorem matchingAlike (alike : Alike vs ws r s) (cited : r.Cited true) (server : r.onClient = false)
    {negated : Bool} {a b : Text} (first : r.matching negated a = .ok next)
    (second : s.matching negated b = .ok next') : Alike vs (ws ++ [(a, b)]) next next' := by
  have server' : s.onClient = false := alike.client ▸ server
  obtain ⟨_,_,rfl⟩ := mapOk first
  obtain ⟨_,_,rfl⟩ := mapOk second
  rw [server,server',← alike.line]
  exact alike.keep (negateVaries negated (matchVaries cited.line a b))

theorem lineAlike (alike : Alike vs ws r s) (cited : r.Cited true) (server : r.onClient = false)
    {operator a b : Text} {known known' : operator ∈ Form.lineOperators}
    (same : Form.sought operator a = Form.sought operator b)
    (first : r.stage clientTemplates (.line operator a known) = .ok next)
    (second : s.stage clientTemplates (.line operator b known') = .ok next') :
    Alike vs (ws ++ (Form.Stage.line operator a known).literals.zip
      (Form.Stage.line operator b known').literals) next next' := by
  rw [Rows.stage] at first second
  by_cases searched : operator = ("|=" : Text) ∨ operator = ("!=" : Text)
  · have searching : Form.searching operator = true := by simpa [Form.searching] using searched
    have empty := soughtEmpty searching same
    rw [if_pos searched] at first second
    cases first
    cases second
    have literals : (Form.Stage.line operator a known).literals.zip
        (Form.Stage.line operator b known').literals = if a.isEmpty then [] else [(a, b)] := by
      simp only [Form.Stage.literals,searching,Bool.true_and,← empty]
      split <;> rfl
    rw [literals]
    exact containsAlike alike cited server _ empty
  · have plain : Form.searching operator = false := by simpa [Form.searching] using searched
    rw [if_neg searched] at first second
    have literals : (Form.Stage.line operator a known).literals.zip
        (Form.Stage.line operator b known').literals = [(a, b)] := by
      simp [Form.Stage.literals,plain]
    rw [literals]
    exact matchingAlike alike cited server first second

theorem filterAlike (alike : Alike vs ws r s) (server : r.onClient = false)
    {body body' : Node} (form : Form.Filter body) (form' : Form.Filter body')
    (same : body.masked = body'.masked) (first : r.filter body = .ok next)
    (second : s.filter body' = .ok next') :
    Alike vs (ws ++ body.literals.zip body'.literals) next next' := by
  have server' : s.onClient = false := alike.client ▸ server
  rw [filter,server] at first
  rw [filter,server'] at second
  obtain ⟨e,read,rfl⟩ := mapOk first
  obtain ⟨f,read',rfl⟩ := mapOk second
  exact alike.keep (conditionVaries alike.value (labelCites r rfl) form form' same read read')

theorem jsonAlike (alike : Alike vs ws r s) (server : r.onClient = false) {params : List Node}
    (first : r.json params = .ok next) (second : s.json params = .ok next') :
    Alike vs ws next next' := by
  have server' : s.onClient = false := alike.client ▸ server
  rw [json,server,if_neg (by simp)] at first
  rw [json,server',if_neg (by simp),← alike.line] at second
  split at first
  · rename_i none
    rw [if_pos none] at second
    cases first
    cases second
    exact alike.extract _
  · rename_i some
    rw [if_neg some] at second
    obtain ⟨pairs,read,rfl⟩ := mapOk first
    obtain ⟨pairs',read',rfl⟩ := mapOk second
    obtain rfl := Except.ok.inj (read.symm.trans read')
    exact alike.extract _

theorem logfmtAlike (alike : Alike vs ws r s) (server : r.onClient = false) :
    Alike vs ws r.logfmt s.logfmt := by
  have server' : s.onClient = false := alike.client ▸ server
  rw [logfmt,logfmt,server,server',← alike.line]
  exact alike.extract _

theorem regexpAlike (alike : Alike vs ws r s) (server : r.onClient = false) {re : Text}
    (first : r.regexp re = .ok next) (second : s.regexp re = .ok next') : Alike vs ws next next' := by
  have server' : s.onClient = false := alike.client ▸ server
  obtain ⟨compiled,read,first⟩ := bindOk first
  obtain ⟨compiled',read',second⟩ := bindOk second
  obtain rfl := Except.ok.inj (read.symm.trans read')
  split at first
  · contradiction
  · rename_i named
    rw [if_neg named,server',← alike.line] at second
    rw [server] at first
    cases first
    cases second
    exact alike.extract _

theorem formatAlike (alike : Alike vs ws r s) (server : r.onClient = false) {text : Text}
    (first : r.format clientTemplates text = .ok next)
    (second : s.format clientTemplates text = .ok next') : Alike vs ws next next' := by
  have server' : s.onClient = false := alike.client ▸ server
  cases simple : LineTemplate.pieces? text with
  | some pieces =>
    simp only [format,server,simple] at first
    simp only [format,server',simple] at second
    cases first
    cases second
    rw [alike.piece]
    exact alike.rewrite _
  | none =>
    have left : onServer (.lineFormat text) = false := by simp [onServer,simple]
    obtain ⟨h,rfl⟩ := (formatLeaves first).1 (.inr left)
    obtain ⟨k,rfl⟩ := (formatLeaves second).1 (.inr left)
    exact alike.leave h k

/-- Stages that are the same behind their masks act alike; what is left to the client is not written. -/
theorem stageAlike (alike : Alike vs ws r s) (cited : r.Cited true) {a b : Form.Stage}
    (same : a.masked = b.masked) (first : r.stage clientTemplates a = .ok next)
    (second : s.stage clientTemplates b = .ok next') :
    Alike vs (ws ++ if r.onClient then [] else a.literals.zip b.literals) next next' := by
  cases server : r.onClient with
  | true =>
    obtain ⟨h,rfl⟩ := (stageLeaves first).1 (.inl server)
    obtain ⟨k,rfl⟩ := (stageLeaves second).1 (.inl (alike.client ▸ server))
    simpa using alike.leave h k
  | false =>
    have quiet (done : Alike vs ws next next') : Alike vs (ws ++ []) next next' := by
      simpa using done
    cases a <;> cases b <;> simp only [Form.Stage.masked,reduceCtorEq,Form.Stage.line.injEq,
      Form.Stage.json.injEq,Form.Stage.regexp.injEq,Form.Stage.filter.injEq,
      Form.Stage.lineFormat.injEq,Form.Stage.labelsFormat.injEq] at same
    case line.line =>
      obtain ⟨rfl,same⟩ := same
      exact lineAlike alike cited server same first second
    case json.json =>
      subst same
      exact quiet (jsonAlike alike server first second)
    case logfmt.logfmt =>
      cases first
      cases second
      exact quiet (logfmtAlike alike server)
    case regexp.regexp =>
      subst same
      exact quiet (regexpAlike alike server first second)
    case filter.filter body form body' form' =>
      exact filterAlike alike server form form' same first second
    case lineFormat.lineFormat =>
      subst same
      exact quiet (formatAlike alike server first second)
    case labelsFormat.labelsFormat => contradiction

/-! ### Sources -/

theorem rulesAlike (alike : Alike vs ws r s) {as bs : List Form.Rule}
    (same : as.map Form.Rule.masked = bs.map Form.Rule.masked)
    (first : as.foldlM rule r = .ok next) (second : bs.foldlM rule s = .ok next') :
    Alike (vs ++ (as.map Form.Rule.literal).zip (bs.map Form.Rule.literal)) ws next next' := by
  induction as generalizing bs vs r s with
  | nil =>
    obtain rfl : bs = [] := by simpa using same.symm
    cases first
    cases second
    simpa using alike
  | cons a as ih =>
    cases bs with
    | nil => simp at same
    | cons b bs =>
      simp only [List.map_cons,List.cons.injEq] at same
      rw [List.foldlM_cons] at first second
      obtain ⟨middle,head,tail⟩ := bindOk first
      obtain ⟨middle',head',tail'⟩ := bindOk second
      have rest := ih (ruleAlike alike same.1 head head') same.2 tail tail'
      rwa [List.append_assoc] at rest

/-- From the first stage that is left to the client on no more strings are written. -/
theorem stagesAlike (alike : Alike vs ws r s) (cited : r.Cited true) {as bs : List Form.Stage}
    (same : as.map Form.Stage.masked = bs.map Form.Stage.masked)
    (first : as.foldlM (stage clientTemplates) r = .ok next)
    (second : bs.foldlM (stage clientTemplates) s = .ok next') :
    ∃ us, Alike vs (ws ++ us) next next' ∧ (r.onClient = true → us = []) ∧
      us <+: (as.flatMap Form.Stage.literals).zip (bs.flatMap Form.Stage.literals) ∧
      (next.onClient = false →
        us = (as.flatMap Form.Stage.literals).zip (bs.flatMap Form.Stage.literals)) := by
  induction as generalizing bs ws r s with
  | nil =>
    obtain rfl : bs = [] := by simpa using same.symm
    cases first
    cases second
    exact ⟨[],by simpa using alike,fun _ => rfl,by simp,fun _ => rfl⟩
  | cons a as ih =>
    cases bs with
    | nil => simp at same
    | cons b bs =>
      simp only [List.map_cons,List.cons.injEq] at same
      rw [List.foldlM_cons] at first second
      obtain ⟨middle,head,tail⟩ := bindOk first
      obtain ⟨middle',head',tail'⟩ := bindOk second
      have count : a.literals.length = b.literals.length := by
        rw [← Form.stageCount,same.1,Form.stageCount]
      have step := stageAlike alike cited same.1 head head'
      obtain ⟨us,done,ended,part,whole⟩ :=
        ih step (stageCited cited (fun _ => rfl) head) same.2 tail tail'
      rw [List.flatMap_cons,List.flatMap_cons,List.zip_append count]
      rw [List.append_assoc] at done
      cases server : r.onClient with
      | true =>
        obtain ⟨h,rfl⟩ := (stageLeaves head).1 (.inl server)
        obtain rfl := ended (by simp [onClient,Rows.leave])
        have left : next.onClient = true := by
          have hooks := stagesHooks tail
          simpa [onClient,Rows.leave] using hooks
        refine ⟨[],by simpa [server] using done,fun _ => rfl,by simp,fun other => ?_⟩
        rw [left] at other
        contradiction
      | false =>
        rw [server] at done
        refine ⟨_,done,fun other => by contradiction,(List.prefix_append_right_inj _).mpr part,
          fun kept => ?_⟩
        rw [whole kept]
        rfl

/-- Sources that are the same behind their masks have rows that differ in their strings only. -/
theorem sourceAlike {a b : Form.Source} (same : a.masked = b.masked)
    (first : ofSource clientTemplates a = .ok next) (second : ofSource clientTemplates b = .ok next') :
    ∃ vs ws, Alike vs ws next next' ∧ vs ++ ws <+: a.literals.zip b.literals ∧
      (next.onClient = false → vs ++ ws = a.literals.zip b.literals) := by
  have rules : a.rules.map Form.Rule.masked = b.rules.map Form.Rule.masked :=
    congrArg Form.Source.rules same
  have stages : a.stages.map Form.Stage.masked = b.stages.map Form.Stage.masked :=
    congrArg Form.Source.stages same
  obtain ⟨chosen,head,tail⟩ := bindOk first
  obtain ⟨chosen',head',tail'⟩ := bindOk second
  have cited : chosen.Cited true :=
    foldOk (fun rule _ rows after cited ok => ruleCited cited ok) startCited head
  obtain ⟨us,done,_,part,whole⟩ :=
    stagesAlike (rulesAlike startAlike rules head head') cited stages tail tail'
  have count : (a.rules.map Form.Rule.literal).length = (b.rules.map Form.Rule.literal).length := by
    simpa using congrArg List.length rules
  rw [Form.Source.literals,Form.Source.literals,List.zip_append count]
  refine ⟨_,_,done,(List.prefix_append_right_inj _).mpr part,fun kept => ?_⟩
  rw [← whole kept]
  rfl

end Rows

/-! ### Matrices -/

section Matrices

variable {clientTemplates : Bool} {rows rows' : Rows × Projection}

/-- Rows of two queries with what is read from them. -/
structure ReadAlike (a b : Form.Source) (rows rows' : Rows × Projection) : Prop where
  alike : ∃ vs ws, rows.1.Alike vs ws rows'.1 ∧ vs ++ ws <+: a.literals.zip b.literals ∧
    (rows.1.onClient = false → vs ++ ws = a.literals.zip b.literals)
  projection : rows.2 = rows'.2

theorem unwrappedAlike {a b : Form.Unwrapped} (same : a.masked = b.masked)
    (first : Rows.ofUnwrapped clientTemplates a = .ok rows)
    (second : Rows.ofUnwrapped clientTemplates b = .ok rows') :
    ReadAlike a.source b.source rows rows' := by
  have sources : a.source.masked = b.source.masked := congrArg Form.Unwrapped.source same
  have clause : a.masked.clause = b.masked.clause := by rw [same]
  change a.clause = b.clause at clause
  have numbered {conv name : Text}
      (first : (Rows.ofSource clientTemplates a.source).bind (Rows.number conv name) = .ok rows)
      (second : (Rows.ofSource clientTemplates b.source).bind (Rows.number conv name) = .ok rows') :
      ReadAlike a.source b.source rows rows' := by
    obtain ⟨r,source,first⟩ := bindOk first
    obtain ⟨s,source',second⟩ := bindOk second
    obtain ⟨vs,ws,alike,written⟩ := Rows.sourceAlike sources source source'
    unfold Rows.number at first second
    split at first
    · contradiction
    split at second
    · contradiction
    rw [← alike.value] at second
    obtain ⟨e,number,rfl⟩ := mapOk first
    obtain ⟨f,number',rfl⟩ := mapOk second
    obtain rfl := Except.ok.inj (number.symm.trans number')
    exact ⟨⟨vs,ws,alike,written⟩,rfl⟩
  unfold Rows.ofUnwrapped at first second
  rw [← clause] at second
  split at first
  · rename_i value
    simp only [value] at second
    split at first
    · split at second
      · obtain ⟨r,source,rfl⟩ := mapOk first
        obtain ⟨s,source',rfl⟩ := mapOk second
        exact ⟨Rows.sourceAlike sources source source',rfl⟩
      · contradiction
    · contradiction
  · rename_i name label
    simp only [label] at second
    exact numbered first second
  · rename_i conv name known converted
    simp only [converted] at second
    exact numbered first second

theorem rangeAlike {a b : Form.Range} (same : a.masked = b.masked)
    (first : rangeRows clientTemplates a = .ok rows) (second : rangeRows clientTemplates b = .ok rows') :
    ReadAlike a.source b.source rows rows' := by
  cases a <;> cases b <;>
    simp only [Form.Range.masked,reduceCtorEq,Form.Range.log.injEq,Form.Range.unwrap.injEq] at same
  case log.log =>
    obtain ⟨r,source,rfl⟩ := mapOk first
    obtain ⟨s,source',rfl⟩ := mapOk second
    exact ⟨Rows.sourceAlike same.2.1 source source',rfl⟩
  case unwrap.unwrap => exact unwrappedAlike same.2 first second

/-- Matrices that are the same behind their masks read rows that differ in their strings only. -/
theorem matrixAlike {a b : Form.Matrix} (same : a.masked = b.masked)
    (first : matrixRows clientTemplates a = .ok rows)
    (second : matrixRows clientTemplates b = .ok rows') : ReadAlike a.source b.source rows rows' := by
  cases a <;> cases b <;>
    simp only [Form.Matrix.masked,reduceCtorEq,Form.Matrix.range.injEq,Form.Matrix.quantile.injEq,
      Form.Matrix.aggregate.injEq] at same
  case range.range => exact rangeAlike same first second
  case quantile.quantile => exact unwrappedAlike same.2.2 first second
  case aggregate.aggregate => exact rangeAlike same.2.2 first second

end Matrices

end LogSql.Compile
