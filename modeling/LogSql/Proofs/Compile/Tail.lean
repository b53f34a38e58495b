import LogSql.Proofs.Compile.Cited

/-! Live tails beside listings. Both fold the same selector and pipeline over the base statement, so
they fail together; where they compile, they leave the same stages to the client and choose streams
and rows by the same conditions, which no binding changes. -/
namespace LogSql.Sql.Expr

/-! ### Expressions without cells -/

mutual

/-- Whether an expression has neither cells nor statements inside it. -/
def isFixed : Expr → Bool
  | raw _ => true
  | str _ => true
  | int _ => true
  | float _ => true
  | cell _ => false
  | query _ => false
  | call _ args => areFixed args
  | binary _ l r => isFixed l && isFixed r
  | between e lo hi => isFixed e && isFixed lo && isFixed hi
  | all conds => areFixed conds
  | any conds => areFixed conds
  | not e => isFixed e
  | sub e => isFixed e
  | array items => areFixed items
  | tuple items => areFixed items
  | ifBound _ _ _ => false
  | ifTrue _ _ _ => false

@[inherit_doc isFixed]
def areFixed : List Expr → Bool
  | [] => true
  | e :: rest => isFixed e && areFixed rest

end

theorem fixedEach (es : List Expr) : areFixed es = es.all isFixed := by
  induction es with
  | nil => rfl
  | cons e es ih => rw [areFixed,ih,List.all_cons]

mutual

/-- The text of such an expression is the same under all bindings. -/
theorem fixedText (v w : CellView) : (e : Expr) → e.isFixed = true → e.text v = e.text w
  | raw _, _ => rfl
  | str _, _ => rfl
  | int _, _ => rfl
  | float _, _ => rfl
  | call _ args, fixed => by rw [text,text,fixedTexts v w args fixed]
  | binary _ l r, fixed => by
    simp only [isFixed,Bool.and_eq_true] at fixed
    rw [text,text,fixedText v w l fixed.1,fixedText v w r fixed.2]
  | between e lo hi, fixed => by
    simp only [isFixed,Bool.and_eq_true] at fixed
    rw [text,text,fixedText v w e fixed.1.1,fixedText v w lo fixed.1.2,fixedText v w hi fixed.2]
  | all conds, fixed => by rw [text,text,fixedTexts v w conds fixed]
  | any conds, fixed => by rw [text,text,fixedTexts v w conds fixed]
  | not e, fixed => by rw [text,text,fixedText v w e fixed]
  | sub e, fixed => by rw [text,text,fixedText v w e fixed]
  | array items, fixed => by rw [text,text,fixedTexts v w items fixed]
  | tuple items, fixed => by rw [text,text,fixedTexts v w items fixed]

theorem fixedTexts (v w : CellView) : (es : List Expr) → areFixed es = true → texts v es = texts w es
  | [], _ => rfl
  | e :: rest, fixed => by
    simp only [areFixed,Bool.and_eq_true] at fixed
    rw [texts,texts,fixedText v w e fixed.1,fixedTexts v w rest fixed.2]

end

end LogSql.Sql.Expr

namespace LogSql.Compile

open Query
open Sql (Expr Select)
open Sql.Expr (isFixed areFixed fixedEach fixedText)

/-! ### Conditions -/

theorem negateFixed (negated : Bool) {e : Expr} (fixed : e.isFixed = true) :
    (negateIf negated e).isFixed = true := by
  cases negated <;> exact fixed

theorem ruleFixed {rule : Form.Rule} {e : Expr} (ok : Rows.ruleCondition rule = .ok e) :
    e.isFixed = true := by
  unfold Rows.ruleCondition at ok
  dsimp only at ok
  split at ok
  · cases ok
    rfl
  · obtain ⟨_,_,rfl⟩ := mapOk ok
    exact negateFixed _ rfl

theorem textConditionFixed {value e : Expr} {op want : Text} (fixed : value.isFixed = true)
    (ok : textCondition value op want = .ok e) : e.isFixed = true := by
  unfold textCondition at ok
  split at ok
  · cases ok
    simp [isFixed,Expr.eq,fixed]
  · split at ok
    · cases ok
      simp [isFixed,Expr.neq,fixed]
    · split at ok
      · obtain ⟨_,_,ok⟩ := bindOk ok
        cases ok
        split <;> simp [isFixed,areFixed,fixed]
      · contradiction

theorem testConditionFixed {value e : Expr} {t : Form.Test} (fixed : value.isFixed = true)
    (ok : testCondition value t = .ok e) : e.isFixed = true := by
  obtain ⟨label,op,operand⟩ := t
  cases operand with
  | text t _ => exact textConditionFixed fixed ok
  | number t _ =>
    obtain ⟨want,_,rfl⟩ := mapOk ok
    simp [isFixed,areFixed,fixed]
  | duration t _ _ =>
    obtain ⟨want,_,rfl⟩ := mapOk ok
    simp [isFixed,areFixed,fixed]
  | bytes t _ =>
    obtain ⟨want,_,rfl⟩ := mapOk ok
    simp [isFixed,areFixed,fixed]

theorem conditionFixed {d : Draft} {n : Node} (form : Form.Filter n) {e : Expr}
    (ok : condition d n = .ok e) : e.isFixed = true := by
  have parts {ns : List Node} {es : List Expr} (read : ns.mapM (condition d) = .ok es)
      (each : ∀ n ∈ ns, ∀ {e : Expr}, condition d n = .ok e → e.isFixed = true) :
      areFixed es = true := by
    rw [fixedEach,List.all_eq_true]
    intro x mem
    obtain ⟨part,inside,found⟩ := mapMOk read x mem
    exact each part inside found
  induction form generalizing e with
  | test t =>
    rw [conditionTest] at ok
    exact testConditionFixed rfl ok
  | all two each ih =>
    rw [conditionAll] at ok
    obtain ⟨es,read,rfl⟩ := mapOk ok
    exact parts read fun n mem => ih n mem
  | any two each ih =>
    rw [conditionAny] at ok
    obtain ⟨es,read,rfl⟩ := mapOk ok
    exact parts read fun n mem => ih n mem

/-! ### Rows -/

namespace Rows

/-- Rows of some chosen streams whose line and conditions have no cells inside them. -/
structure Fixed (chosen : List Expr) (r : Rows) : Prop where
  streams : r.streams = chosen
  line : r.line.isFixed = true
  filters : ∀ e ∈ r.filters, e.isFixed = true

variable {clientTemplates : Bool} {chosen : List Expr} {r next : Rows}

theorem Fixed.keep (fixed : r.Fixed chosen) {cond : Expr} (known : cond.isFixed = true) :
    (r.keep cond).Fixed chosen := by
  refine ⟨fixed.streams,fixed.line,?_⟩
  simpa [Rows.keep,or_imp,forall_and,known] using fixed.filters

theorem Fixed.leave (fixed : r.Fixed chosen) (h : Hook) : (r.leave h).Fixed chosen :=
  ⟨fixed.streams,fixed.line,fixed.filters⟩

theorem Fixed.extract (fixed : r.Fixed chosen) (labels : Expr) : (r.extract labels).Fixed chosen :=
  ⟨fixed.streams,fixed.line,fixed.filters⟩

theorem containsFixed (fixed : r.Fixed chosen) (negated : Bool) (needle : Text) :
    (r.contains negated needle).Fixed chosen := by
  unfold contains
  split
  · exact fixed.leave _
  · split
    · split
      · exact fixed.keep rfl
      · exact fixed
    · exact fixed.keep (by simp [isFixed,areFixed,fixed.line])

theorem matchingFixed (fixed : r.Fixed chosen) {negated : Bool} {re : Text}
    (ok : r.matching negated re = .ok next) : next.Fixed chosen := by
  obtain ⟨compiled,_,rfl⟩ := mapOk ok
  split
  · exact fixed.leave _
  · exact fixed.keep (negateFixed _ (by simp [isFixed,areFixed,fixed.line]))

theorem jsonFixed (fixed : r.Fixed chosen) {params : List Node} (ok : r.json params = .ok next) :
    next.Fixed chosen := by
  unfold json at ok
  split at ok
  · obtain ⟨fields,_,rfl⟩ := mapOk ok
    exact fixed.leave _
  · split at ok
    · cases ok
      exact fixed.extract _
    · obtain ⟨pairs,_,rfl⟩ := mapOk ok
      exact fixed.extract _

theorem regexpFixed (fixed : r.Fixed chosen) {re : Text} (ok : r.regexp re = .ok next) : next.Fixed chosen := by
  obtain ⟨compiled,_,ok⟩ := bindOk ok
  split at ok
  · contradiction
  · split at ok
    · cases ok
      exact fixed.leave _
    · cases ok
      exact fixed.extract _

theorem filterFixed (fixed : r.Fixed chosen) {body : Node} (form : Form.Filter body)
    (ok : r.filter body = .ok next) : next.Fixed chosen := by
  unfold filter at ok
  split at ok
  · obtain ⟨p,_,rfl⟩ := mapOk ok
    exact fixed.leave _
  · obtain ⟨cond,condition,rfl⟩ := mapOk ok
    exact fixed.keep (conditionFixed form condition)

theorem formatFixed (fixed : r.Fixed chosen) {text : Text} (ok : r.format clientTemplates text = .ok next) :
    next.Fixed chosen := by
  have piece (p : LineTemplate.Piece) : (pieceExpr r.plain p).isFixed = true := by
    cases p with
    | text t => rfl
    | label name =>
      unfold pieceExpr
      dsimp only
      split
      · rw [plain,draftLine]
        exact fixed.line
      · rfl
  unfold format at ok
  split at ok
  · cases ok
    refine ⟨fixed.streams,?_,fixed.filters⟩
    simp [isFixed,fixedEach,piece]
  · split at ok
    · contradiction
    · split at ok
      · cases ok
        exact fixed.leave _
      · contradiction

theorem stageFixed (fixed : r.Fixed chosen) {s : Form.Stage} (ok : r.stage clientTemplates s = .ok next) :
    next.Fixed chosen := by
  cases s with
  | line operator text known =>
    rw [stage] at ok
    split at ok
    · cases ok
      exact containsFixed fixed _ text
    · exact matchingFixed fixed ok
  | json params => exact jsonFixed fixed ok
  | logfmt =>
    cases ok
    unfold logfmt
    split
    · exact fixed.leave _
    · exact fixed.extract _
  | regexp re => exact regexpFixed fixed ok
  | filter body form => exact filterFixed fixed form ok
  | lineFormat text => exact formatFixed fixed ok
  | labelsFormat rules => contradiction

theorem rulesChosen {rules : List Form.Rule} (ok : rules.foldlM rule r = .ok next) :
    ∃ conds, rules.mapM ruleCondition = .ok conds ∧ next = { r with streams := r.streams ++ conds } := by
  induction rules generalizing r with
  | nil =>
    cases ok
    exact ⟨[],rfl,by simp⟩
  | cons first rules ih =>
    rw [List.foldlM_cons] at ok
    obtain ⟨_,head,tail⟩ := bindOk ok
    obtain ⟨cond,condition,rfl⟩ := mapOk head
    obtain ⟨conds,read,rfl⟩ := ih tail
    refine ⟨cond :: conds,?_,by simp [Rows.choose]⟩
    rw [List.mapM_cons,condition,read]
    rfl

/-- A source chooses streams by one condition for each of its rules. -/
theorem sourceFixed {s : Form.Source} (ok : ofSource clientTemplates s = .ok next) :
    ∃ chosen, s.rules.mapM ruleCondition = .ok chosen ∧ next.Fixed chosen := by
  obtain ⟨_,rules,stages⟩ := bindOk ok
  obtain ⟨chosen,read,rfl⟩ := rulesChosen rules
  refine ⟨chosen,read,foldOk (fun stage _ rows after fixed head => stageFixed fixed head) ?_ stages⟩
  exact ⟨rfl,rfl,by simp⟩

end Rows

/-! ### Requests -/

section Requests

variable {e : Engine} {clientTemplates : Bool}

/-- The draft of a live tail with its cells bound. -/
def Engine.tailBound (e : Engine) (d : Draft) : Draft :=
  let d := d.bind timeSeriesCell (.verbatim e.policy.timeSeriesTable)
  let d := d.bind samplesCell (.verbatim (e.policy.tableFor e.now))
  let d := d.bind fromCell (.expr "(toUnixTimestamp(now()) - 5) * 1000000000")
  (d.orderBy [byTime "asc"]).setLimit none

/-- The live tail of rows. -/
def Engine.tailOf (e : Engine) (r : Rows) : Compiled :=
  let d := e.tailBound (r.draft .line { joinLabels := true, legacy := true } [byTime "desc"])
  { select := d.select, bindings := d.bindings, hooks := d.hooks }

theorem compileTailRows (full : e.registry = Registry.full clientTemplates) {text : Text}
    {s : Form.Source} (read : e.parse text = .ok (Form.rows s).node) :
    e.compileTail text =
      if ((Form.rows s).node.find? Kind.labelsFormatExpression).isSome then
        .error (.notSupported Kind.labelsFormatExpression)
      else (Rows.ofSource clientTemplates s).map e.tailOf := by
  have allowed : tailDenied.find? (fun kind => ((Form.rows s).node.find? kind).isSome) = none := by
    refine List.find?_eq_none.mpr fun kind mem => ?_
    have outer : kind ∈ Form.outerKinds := by
      simp only [tailDenied,List.mem_cons,List.not_mem_nil,or_false] at mem
      rcases mem with rfl | rfl | rfl | rfl | rfl <;> simp [Form.outerKinds]
    simp [Form.rowsOuter s outer]
  rw [Engine.compileTail,read]
  simp only [bind,Except.bind,allowed,startByTime,pipelineRows full (Form.rowsHold s)]
  cases ((Form.rows s).node.find? Kind.labelsFormatExpression).isSome with
  | true => rfl
  | false => cases Rows.ofSource clientTemplates s <;> rfl

theorem compileListing (full : e.registry = Registry.full clientTemplates) {r : Request}
    {s : Form.Source} (read : e.parse r.query = .ok (Form.rows s).node) :
    e.compile r = (e.supported r (Form.rows s).node).bind fun w =>
      (rowsDraft clientTemplates w.context r.direction s).map (e.result r w) := by
  rw [Engine.compile,maxExpansions,Engine.compileWithin,read,← compileRows full]
  simp only [bind,Except.bind,Form.rowsNoCall]

/-- A window that a request gives in full is its window. -/
theorem windowGiven {r : Request} (s : Form.Source) (starts : r.start ≠ 0) (stops : r.stop ≠ 0)
    (ordered : r.start ≤ r.stop) (step : r.step = []) :
    ∃ w, e.window r (Form.rows s).node = .ok w := by
  have forward : ¬ r.stop < r.start := Int.not_lt.mpr ordered
  rw [Engine.window,step,Form.classifyRows]
  simp only [starts,stops,if_false,forward]
  exact ⟨_,rfl⟩

/-- A listing and a live tail that read their rows alike: the same stages are left to the client, the
streams are chosen behind their date, and the rows kept behind their time, by the same conditions,
which are written in the same way. -/
structure FollowsListing (root : Node) (listing tail : Compiled) : Prop where
  hooks : listing.hooks = tail.hooks
  statements : ∃ name streams followed rows legacy chosen kept,
    listing.select.withs = [⟨.query streams,streamSelection⟩,⟨.query rows,name⟩] ∧
      tail.select.withs = [⟨.query followed,streamSelection⟩] ∧
      streams.filters = dateCondition legacy :: chosen ∧
      followed.filters = dateCondition true :: chosen ∧
      rows.filters = windowCondition :: kept ∧ tail.select.filters = windowCondition :: kept ∧
      chosen.length = (root.findAll Kind.logStreamSelectorRule).length ∧
      ∀ x ∈ chosen ++ kept, x.text listing.bindings.view = x.text tail.bindings.view

theorem tailOfFollows {r : Request} {s : Form.Source} {rows : Rows}
    (source : Rows.ofSource clientTemplates s = .ok rows) (w : Engine.Window) :
    FollowsListing (Form.rows s).node
      (e.result r w ((rows.draft .line w.context [byTime r.direction]).over "sel"
        (listingLayer r.direction w.context.joinLabels))) (e.tailOf rows) := by
  obtain ⟨chosen,read,fixed⟩ := Rows.sourceFixed source
  have rules : (Form.rows s).node.findAll Kind.logStreamSelectorRule = s.rules.map Form.Rule.node :=
    (Form.rowsHold s).rules
  have tail : (e.tailOf rows).select = { (rows.draft .line { joinLabels := true, legacy := true }
      [byTime "asc"]).select with limit := none } := by
    simp only [Engine.tailOf,Engine.tailBound,Draft.orderBy,Draft.setLimit,Draft.mapSelect,bindSelect]
    rfl
  have kept (p : Context) (orders : List (Sql.Named Expr)) :
      (rows.body .line p orders).filters = windowCondition :: selectedStreams :: rows.filters := by
    simp [Rows.body,Projection.filters]
  refine ⟨?_,(w.context.names.fresh "sel").1,rows.selection w.context.legacy,rows.selection true,
    rows.body .line w.context [byTime r.direction],w.context.legacy,chosen,
    selectedStreams :: rows.filters,?_,?_,?_,?_,kept _ _,?_,?_,fun x mem => fixedText _ _ x ?_⟩
  · simp only [resultHooks,Engine.tailOf,Engine.tailBound,Draft.orderBy,Draft.setLimit,
      Draft.mapSelect,bindHooks]
    rfl
  · rw [resultSelect]
    rfl
  · rw [tail]
    rfl
  · rw [← fixed.streams]
    rfl
  · rw [← fixed.streams]
    rfl
  · rw [tail]
    exact kept { joinLabels := true, legacy := true } [byTime "asc"]
  · rw [rules,List.length_map,mapMLength read]
  · rcases List.mem_append.mp mem with chosen | kept
    · obtain ⟨rule,_,condition⟩ := mapMOk read x chosen
      exact ruleFixed condition
    · rcases List.mem_cons.mp kept with rfl | kept
      · rfl
      · exact fixed.filters x kept

/-- A tree with a selector at its top is that of a selector with its pipeline. -/
theorem Form.selectorRows {q : Form} (selector : (q.node.child? Kind.logStreamSelector).isSome = true) :
    ∃ s, q = .rows s := by
  cases q with
  | call name args =>
    simp [Form.node,Form.children,Node.child?,Kind.userMacro,Kind.logStreamSelector] at selector
  | matrix m ranking threshold =>
    cases ranking <;> cases threshold <;>
      simp [Form.node,Form.children,Form.statementNode,Form.Threshold.node,Node.child?,
        Kind.aggStatement,Kind.comparedAggStatementCmp,Kind.logStreamSelector] at selector
  | rows s => exact ⟨s,rfl⟩

/-- Listing and tailing a selector with its pipeline fail alike or read the same rows. -/
theorem tailFollowsListing (full : e.registry = Registry.full clientTemplates) {r : Request}
    {root : Node} (read : e.parse r.query = .ok root)
    (selector : (root.child? Kind.logStreamSelector).isSome = true) (starts : r.start ≠ 0)
    (stops : r.stop ≠ 0) (ordered : r.start ≤ r.stop) (step : r.step = []) :
    (∃ err, e.compile r = .error err ∧ e.compileTail r.query = .error err) ∨
      ∃ listing tail, e.compile r = .ok listing ∧ e.compileTail r.query = .ok tail ∧
        FollowsListing root listing tail := by
  obtain ⟨q,rfl,_⟩ := parseText read
  obtain ⟨s,rfl⟩ := Form.selectorRows selector
  obtain ⟨w,window⟩ := windowGiven (e := e) s starts stops ordered step
  rw [compileListing full read,compileTailRows full read,Engine.supported,window]
  split
  · exact .inl ⟨_,rfl,rfl⟩
  · cases source : Rows.ofSource clientTemplates s with
    | error err => exact .inl ⟨err,by simp only [Except.bind,rowsDraft,source,Except.map],rfl⟩
    | ok rows =>
      refine .inr ⟨_,_,?_,rfl,tailOfFollows (r := r) source w⟩
      simp only [Except.bind,rowsDraft,source,Except.map]

/-- A request that filters rows on extracted labels and leaves a template to the client. -/
def upperErrors : Request :=
  { query :=
      "\x7bapp=\"api\"\x7d |= \"x\" | json | level=\"error\" | line_format \"\x7b\x7b .a | ToUpper \x7d\x7d\""
    start := 1714561200000, stop := 1714564800000 }

theorem upperErrorsFollow : ∃ root listing tail,
    ({ registry := .full true } : Engine).parse upperErrors.query = .ok root ∧
      ({ registry := .full true } : Engine).compile upperErrors = .ok listing ∧
      ({ registry := .full true } : Engine).compileTail upperErrors.query = .ok tail ∧
      FollowsListing root listing tail := by
  obtain ⟨root,read,run⟩ := okAny
    (show (({ registry := .full true } : Engine).parse upperErrors.query).toOption.any (fun root =>
      (root.child? Kind.logStreamSelector).isSome &&
        (({ registry := .full true } : Engine).compile upperErrors).toOption.any fun _ => true) = true by
      decide +kernel)
  obtain ⟨selector,run⟩ := Bool.and_eq_true_iff.mp run
  obtain ⟨compiled,ok,_⟩ := okAny run
  have window : upperErrors.start ≠ 0 ∧ upperErrors.stop ≠ 0 ∧ upperErrors.start ≤ upperErrors.stop := by
    simp [upperErrors]
  rcases tailFollowsListing rfl read selector window.1 window.2.1 window.2.2 rfl with
    ⟨err,failed,_⟩ | ⟨listing,tail,found,tailed,follows⟩
  · cases ok.symm.trans failed
  · exact ⟨root,listing,tail,read,found,tailed,follows⟩

end Requests

end LogSql.Compile
