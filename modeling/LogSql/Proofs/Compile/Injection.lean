import LogSql.Proofs.Compile.Binding
import LogSql.Proofs.Compile.Columns
import LogSql.Proofs.Compile.Variation
import LogSql.Proofs.Tables

/-! Strings stay literals. Requests for queries that are the same behind their masks are written as one
skeleton: the strings that the masks hide stand in it as literals, each of which reads back as its
string, and nothing else of a statement depends on them. -/
namespace LogSql.Compile

open Query
open Sql (Expr Select SelectOf Named Closed Corresponds Renders AllRender Mentions Written mentionsClosed
  stringClosed pieces skeleton)

/-! ### Closed statements -/

section Closed

variable {e : Engine} {r : Request} {w : Engine.Window} {d : Draft} {columns : List Text} {x : Expr}

theorem tableClosed {t : Text} (table : t.all Tables.isTableByte = true) : Closed t :=
  mentionsClosed (P := fun _ => True) (Sql.mentionsBytes table (by decide) fun _ _ => trivial)

/-- The view of a result closes what mentions its bounds and its limit. -/
theorem citedClosed (declared : d.select.params = baseCells)
    (cited : Written (Mentions (Cites columns)) boundCells x) :
    Closed (x.text (e.result r w d).bindings.view) :=
  mentionsClosed (cited.mentions (citesNeutral columns) (resultMentions (citesNeutral columns) declared))

theorem tablesClosed (checked : e.policy.Checked) (declared : d.select.params = baseCells) :
    Closed ((e.result r w d).bindings.view.text samplesCell) ∧
      Closed ((e.result r w d).bindings.view.text timeSeriesCell) := by
  obtain ⟨samples,_⟩ := resultCells (e := e) (r := r) (w := w) declared
  obtain ⟨series,_⟩ := resultTables (e := e) (r := r) (w := w) declared
  obtain ⟨table,other⟩ := Tables.Policy.tableBytes checked w.start
  rw [viewText samples,viewText series]
  exact ⟨tableClosed table,tableClosed other⟩

theorem selectionOpens (checked : e.policy.Checked) (declared : d.select.params = baseCells)
    (rows : Rows) (legacy : Bool) :
    (Expr.selectTexts (e.result r w d).bindings.view (rows.selection legacy)).Opens := by
  obtain ⟨_,table⟩ := tablesClosed (r := r) (w := w) checked declared
  constructor
  · simp only [Expr.selectTexts,Rows.selection,baseSelection,Expr.namedTexts,List.forall_mem_cons,
      Expr.text,Expr.ofString]
    exact ⟨⟨stringClosed rfl (by decide),Sql.closedNil⟩,⟨stringClosed rfl (by decide),Sql.closedNil⟩,
      by simp⟩
  · simpa [Expr.selectTexts,Rows.selection,baseSelection,Expr.optText,Expr.text] using table
  · exact stringClosed rfl (by decide)
  · simp [Expr.selectTexts,Rows.selection,baseSelection,Expr.joinTexts]

/-- The names of the columns of rows. -/
def rowNames : List Text :=
  [lineColumn, "fingerprint", timestampColumn, labelsColumn, extraColumn, unwrappedColumn]

theorem namesClosed : ∀ name ∈ rowNames, Closed name := by
  simp only [rowNames,List.forall_mem_cons]
  and_intros <;> first | exact stringClosed rfl (by decide) | simp

theorem columnsNamed (rows : Rows) (p : Projection) (joinLabels : Bool) :
    ∀ col ∈ p.columns rows.line (rows.others joinLabels), col.name ∈ rowNames := by
  have others : ∀ col ∈ rows.others joinLabels, col.name ∈ rowNames := by
    cases joinLabels <;> cases rows.extra <;> simp [Rows.others,labelsEntry,rowNames]
  cases p <;>
    simp only [Projection.columns,List.cons_append,List.forall_mem_cons,List.forall_mem_append] <;>
    simp_all [rowNames]

theorem bodyOpens (checked : e.policy.Checked) (declared : d.select.params = baseCells) {rows : Rows}
    {p : Projection} {c : Context} (cited : rows.Cited c.joinLabels)
    (number : p.Cited (rows.own c.joinLabels)) (orders : List (Named Expr)) (limit : Option Expr) :
    (Expr.selectTexts (e.result r w d).bindings.view
      { rows.body p c orders with limit := limit }).Opens := by
  obtain ⟨table,_⟩ := tablesClosed (r := r) (w := w) checked declared
  have part {x : Expr} (mem : x ∈ (bare (rows.draft p c []).select).parts) :
      Closed (x.text (e.result r w d).bindings.view) :=
    citedClosed declared (bodyCited cited number (by simp) x mem)
  refine ⟨?_,?_,?_,?_⟩
  · simp only [Expr.selectTexts,Rows.body,Expr.namedTextsMap]
    intro col mem
    obtain ⟨column,inside,rfl⟩ := List.mem_map.mp mem
    refine ⟨part ?_,namesClosed _ (columnsNamed rows p c.joinLabels column inside)⟩
    simp only [SelectOf.parts,List.mem_append]
    exact .inl (.inl (.inl (.inl (.inl (.inl (.inl (List.mem_map_of_mem inside)))))))
  · simpa [Expr.selectTexts,Rows.body,Expr.optText,Expr.text] using table
  · exact stringClosed rfl (by decide)
  · simp only [Expr.selectTexts,Rows.body,Expr.joinTextsMap]
    intro j mem
    obtain ⟨join,inside,rfl⟩ := List.mem_map.mp mem
    have parts : ∀ x ∈ join.table :: join.on.toList, Closed (x.text (e.result r w d).bindings.view) := by
      intro x found
      refine part ?_
      simp only [SelectOf.parts,List.mem_append]
      exact .inl (.inl (.inl (.inl (.inl (.inl (.inr (List.mem_flatMap.mpr ⟨join,inside,found⟩)))))))
    split at inside
    · rw [List.mem_singleton.mp inside] at parts ⊢
      simp only [List.forall_mem_cons] at parts
      refine ⟨stringClosed rfl (by decide),parts.1,Sql.closedNil,fun t on => ?_⟩
      change t ∈ Option.map _ (labelsJoin "samples").on at on
      obtain ⟨x,found,rfl⟩ := Option.map_eq_some_iff.mp on
      exact parts.2 x (Option.mem_toList.mpr found)
    · contradiction

end Closed

/-! ### Corresponding results -/

section Results

variable {e : Engine} {r : Request} {w : Engine.Window} {d d' : Draft} {rows rows' : Rows}
  {p : Projection} {c : Context} {vs ws : Pairs}

/-- What is bound in a result follows from the cells of its draft. -/
theorem boundSame (params : d.select.params = d'.select.params) (bindings : d.bindings = d'.bindings) :
    (e.result r w d).bindings = (e.result r w d').bindings := by
  have step {d d' : Draft} (params : d.select.params = d'.select.params)
      (bindings : d.bindings = d'.bindings) (cell : Sql.Cell) (v : Sql.Value) :
      (d.bind cell v).select.params = (d'.bind cell v).select.params ∧
        (d.bind cell v).bindings = (d'.bind cell v).bindings := by
    refine ⟨by rw [bindSelect,bindSelect,params],?_⟩
    have found : d.select.param? cell.name = d'.select.param? cell.name := by
      rw [SelectOf.param?,SelectOf.param?,params]
    rw [Draft.bind,Draft.bind,found]
    split
    · rw [bindings]
    · exact bindings
  obtain ⟨params,bindings⟩ := step params bindings timeSeriesCell (.verbatim e.policy.timeSeriesTable)
  obtain ⟨params,bindings⟩ := step params bindings samplesCell (.verbatim (e.policy.tableFor w.start))
  obtain ⟨params,bindings⟩ := step params bindings fromCell (.verbatim (nanosText w.start))
  obtain ⟨params,bindings⟩ := step params bindings toCell (.verbatim (nanosText w.stop))
  obtain ⟨params,bindings⟩ := step params bindings limitCell
    (.int (if r.limit ≤ 0 then e.limit else r.limit))
  exact (step params bindings matrixCell (.bool w.context.matrix)).2

theorem selectionRenders (checked : e.policy.Checked) (declared : d.select.params = baseCells)
    (alike : rows.Alike vs ws rows') (legacy : Bool) :
    Renders vs (Expr.selectTexts (e.result r w d).bindings.view (rows.selection legacy)).text
      (Expr.selectTexts (e.result r w d).bindings.view (rows'.selection legacy)).text := by
  have dated : Written (Mentions (Cites [])) boundCells (dateCondition legacy) := dateCited legacy
  have date : Closed ((dateCondition legacy).text (e.result r w d).bindings.view) :=
    citedClosed declared dated
  have filters : AllRender vs
      (Expr.selectTexts (e.result r w d).bindings.view (rows.selection legacy)).filters
      (Expr.selectTexts (e.result r w d).bindings.view (rows'.selection legacy)).filters :=
    .cons (.same date) (alike.streams _)
  have whole := SelectOf.openingRenders (selectionOpens checked declared rows legacy) filters
  rw [SelectOf.bareText rfl,SelectOf.bareText rfl]
  exact whole.before Sql.closedNil

theorem bodyRenders (checked : e.policy.Checked) (declared : d.select.params = baseCells)
    (alike : rows.Alike vs ws rows') (cited : rows.Cited c.joinLabels)
    (number : p.Cited (rows.own c.joinLabels)) (orders : List (Named Expr)) (limit : Option Expr) :
    Renders ws
      (Expr.selectTexts (e.result r w d).bindings.view
        { rows.body p c orders with limit := limit }).opening
      (Expr.selectTexts (e.result r w d).bindings.view
        { rows'.body p c orders with limit := limit }).opening := by
  have tested : ∀ x ∈ p.filters, Closed (x.text (e.result r w d).bindings.view) := fun x mem => by
    have part : x ∈ (bare (rows.draft p c []).select).parts := by
      simp [SelectOf.parts,bare,Rows.draft,Rows.body,mem]
    exact citedClosed declared (bodyCited cited number (by simp) x part)
  have window : Written (Mentions (Cites [])) boundCells windowCondition := windowCited
  have selected : Written (Mentions (Cites [])) boundCells selectedStreams := selectedCited.cells _
  have first : ∀ t ∈ Expr.texts (e.result r w d).bindings.view [windowCondition, selectedStreams],
      Closed t := by
    simp only [Expr.texts,List.forall_mem_cons]
    exact ⟨citedClosed declared window,citedClosed declared selected,by simp⟩
  have last : ∀ t ∈ Expr.texts (e.result r w d).bindings.view p.filters, Closed t := by
    rw [Expr.textsMap]
    intro t mem
    obtain ⟨x,inside,rfl⟩ := List.mem_map.mp mem
    exact tested x inside
  have filters : AllRender ws
      (Expr.texts (e.result r w d).bindings.view
        ([windowCondition, selectedStreams] ++ rows.filters ++ p.filters))
      (Expr.texts (e.result r w d).bindings.view
        ([windowCondition, selectedStreams] ++ rows'.filters ++ p.filters)) := by
    have whole := ((AllRender.same first).append
      (alike.filters (e.result r w d).bindings.view)).append (.same last)
    simpa only [Expr.textsMap,List.map_append,List.nil_append,List.append_nil] using whole
  have same : rows'.body p c orders = { rows.body p c orders with
      filters := [windowCondition, selectedStreams] ++ rows'.filters ++ p.filters } := by
    simp only [Rows.body,Rows.others,alike.line,alike.extra]
  rw [same]
  exact SelectOf.openingRenders (bodyOpens checked declared cited number orders limit) filters

/-- Results that differ in two corresponding statements of rows correspond. -/
theorem resultsCorrespond (checked : e.policy.Checked) (declared : d.select.params = baseCells)
    (twin : d.Twin d') (bindings : d.bindings = d'.bindings) (alike : rows.Alike vs ws rows')
    (cited : rows.Cited c.joinLabels) (number : p.Cited (rows.own c.joinLabels))
    {orders : List (Named Expr)} {limit : Option Expr} {name : Text} (named : Closed name)
    {more : List (Named Expr)}
    (withs : d.select.withs = ⟨.query (rows.selection c.legacy),streamSelection⟩ ::
      ⟨.query { rows.body p c orders with limit := limit },name⟩ :: more)
    (withs' : d'.select.withs = ⟨.query (rows'.selection c.legacy),streamSelection⟩ ::
      ⟨.query { rows'.body p c orders with limit := limit },name⟩ :: more) :
    Corresponds (vs ++ ws) (pieces (e.result r w d).text) (pieces (e.result r w d').text) := by
  have params := congrArg SelectOf.params twin.bare
  have bound : (e.result r w d').bindings = (e.result r w d).bindings :=
    (boundSame params bindings).symm
  have streams := selectionRenders (r := r) (w := w) checked declared alike c.legacy
  have body := bodyRenders (r := r) (w := w) checked declared alike cited number orders limit
  rw [Compiled.text,Compiled.text,Select.text,Select.text,bound,resultSelect,resultSelect]
  generalize (e.result r w d).bindings.view = v at streams body ⊢
  have whole (s : Select) : (Expr.query s).text v =
      ({ Expr.selectTexts v (bare s) with withs := Expr.namedTexts v s.withs } : SelectOf Text).text := by
    rw [Expr.text,Expr.selectTextsFields,Expr.selectTextsFields v (bare s)]
    rfl
  have written (rows : Rows) : (Expr.selectTexts v { rows.body p c orders with limit := limit }).text =
      (Expr.selectTexts v { rows.body p c orders with limit := limit }).opening ++
        (Expr.selectTexts v { ({} : Rows).body p c orders with limit := limit }).closing :=
    SelectOf.bareText rfl
  obtain ⟨tail,second⟩ := SelectOf.secondText (Expr.selectTexts v (bare d.select)) streamSelection name
    (Expr.selectTexts v { ({} : Rows).body p c orders with limit := limit }).closing
    (Expr.namedTexts v more)
  rw [whole,whole,← twin.bare,withs,withs']
  simp only [Expr.namedTexts,Expr.text,written,second]
  refine Renders.followed ?_ tail
  have before : Closed (.concat ["WITH ", streamSelection, " AS ("]) :=
    Sql.closedConcat (by
      simp only [List.forall_mem_cons]
      exact ⟨stringClosed rfl (by decide),stringClosed rfl (by decide),stringClosed rfl (by decide),
        by simp⟩)
  have between : Closed (.concat ["), ", name, " AS ("]) :=
    Sql.closedConcat (by
      simp only [List.forall_mem_cons]
      exact ⟨stringClosed rfl (by decide),named,stringClosed rfl (by decide),by simp⟩)
  have joined := ((streams.after before).before between).append body
  simpa [Text.concat] using joined

/-! ### Drafts -/

theorem nameClosed {stem : Text} (known : stem ∈ stems) : Closed (d.next stem) :=
  mentionsClosed (P := fun _ => True) (Sql.mentionsWord (nextBytes known) trivial)

theorem listingCorresponds (checked : e.policy.Checked) {clientTemplates : Bool} {s t : Form.Source}
    (same : s.masked = t.masked) (window : e.supported r (Form.rows s).node = .ok w)
    (first : rowsDraft clientTemplates w.context r.direction s = .ok d)
    (second : rowsDraft clientTemplates w.context r.direction t = .ok d') :
    ∃ used, used <+: s.literals.zip t.literals ∧ (d.hooks = [] → used = s.literals.zip t.literals) ∧
      Corresponds used (pieces (e.result r w d).text) (pieces (e.result r w d').text) := by
  obtain ⟨rows,source,rfl⟩ := mapOk first
  obtain ⟨rows',source',rfl⟩ := mapOk second
  obtain ⟨vs,ws,alike,part,whole⟩ := Rows.sourceAlike same source source'
  obtain ⟨_,labels,_⟩ := supportedContext window
  have cited : rows.Cited w.context.joinLabels :=
    Rows.sourceCited source fun reads => labels.trans (rowsLabelled reads)
  have kept (none : rows.hooks = []) : rows.onClient = false := by simp [Rows.onClient,none]
  have name : Closed ((rows.draft .line w.context [byTime r.direction]).next "sel") :=
    nameClosed (by simp [stems])
  have twin : ((rows.draft .line w.context [byTime r.direction]).over "sel"
      (listingLayer r.direction w.context.joinLabels)).Twin
      ((rows'.draft .line w.context [byTime r.direction]).over "sel"
        (listingLayer r.direction w.context.joinLabels)) := ⟨rfl,rfl⟩
  have number : Projection.line.Cited (rows.own w.context.joinLabels) := trivial
  exact ⟨vs ++ ws,part,fun none => whole (kept none),
    resultsCorrespond checked rfl twin rfl alike cited number name (overWiths _ _ _)
      (overWiths _ _ _)⟩

theorem seriesStem {extra : Bool} {m : Form.Matrix} {ranking : Option Form.Ranking}
    {threshold : Option Form.Threshold} {layers : Layers}
    (ok : seriesLayers c extra m ranking threshold = .ok layers) :
    ∃ stem l rest, layers = (stem, l) :: rest ∧ stem ∈ stems := by
  obtain ⟨first,matrix,ok⟩ := bindOk ok
  obtain ⟨tests,_,ok⟩ := bindOk ok
  obtain ⟨ranks,_,ok⟩ := bindOk ok
  cases ok
  have range (range : Form.Range) : ∃ stem l rest,
      rangeLayers c extra range = (stem, l) :: rest ∧ stem ∈ stems := by
    cases range with
    | log fn known s span => exact ⟨fn,_,_,rfl,by simp [stems,known]⟩
    | unwrap fn known u => exact ⟨fn,_,_,rfl,by simp [stems,known]⟩
  cases m with
  | range r =>
    cases matrix
    obtain ⟨stem,l,rest,split,known⟩ := range r
    exact ⟨stem,l,rest ++ tests ++ ranks,by rw [split]; rfl,known⟩
  | quantile fn known x u =>
    obtain ⟨phi,_,rfl⟩ := mapOk matrix
    exact ⟨fn,_,_,rfl,by simp [stems,known]⟩
  | aggregate fn known g r =>
    cases matrix
    obtain ⟨stem,l,rest,split,known⟩ := range r
    exact ⟨stem,l,_,by rw [split]; rfl,known⟩

theorem layersMasked {c : Context} (extra : Bool) (m : Form.Matrix) (ranking : Option Form.Ranking)
    (threshold : Option Form.Threshold) :
    seriesLayers c extra m.masked ranking threshold = seriesLayers c extra m ranking threshold := by
  have range (r : Form.Range) : rangeLayers c extra r.masked = rangeLayers c extra r := by
    cases r <;> rfl
  cases m with
  | range r => simp only [seriesLayers,matrixLayers,Form.Matrix.masked,range]
  | quantile fn known x u => rfl
  | aggregate fn known g r => simp only [seriesLayers,matrixLayers,Form.Matrix.masked,range]

/-- The rows of a matrix name what rows name, and what is read from them does too. -/
theorem readCited {clientTemplates labelled : Bool} (reads : labelled = true) {m : Form.Matrix}
    {rows : Rows × Projection} (ok : matrixRows clientTemplates m = .ok rows) :
    rows.1.Cited labelled ∧ rows.2.Cited (rows.1.own labelled) := by
  have unwrapped {u : Form.Unwrapped} (ok : Rows.ofUnwrapped clientTemplates u = .ok rows) :
      rows.1.Cited labelled ∧ rows.2.Cited (rows.1.own labelled) := by
    obtain ⟨cited,number,_⟩ := unwrappedCited reads ok
    exact ⟨cited,number⟩
  have range {r : Form.Range} (ok : rangeRows clientTemplates r = .ok rows) :
      rows.1.Cited labelled ∧ rows.2.Cited (rows.1.own labelled) := by
    cases r with
    | log fn known s span =>
      obtain ⟨rows,source,rfl⟩ := mapOk ok
      exact ⟨Rows.sourceCited source fun _ => reads,trivial⟩
    | unwrap fn known u => exact unwrapped ok
  cases m with
  | range r => exact range ok
  | quantile fn known x u => exact unwrapped ok
  | aggregate fn known g r => exact range ok

theorem seriesCorresponds (checked : e.policy.Checked) {clientTemplates : Bool} {m n : Form.Matrix}
    (same : m.masked = n.masked) {ranking : Option Form.Ranking} {threshold : Option Form.Threshold}
    (window : e.supported r (Form.matrix m ranking threshold).node = .ok w)
    (first : seriesDraft clientTemplates w.context r.direction m ranking threshold = .ok d)
    (second : seriesDraft clientTemplates w.context r.direction n ranking threshold = .ok d') :
    ∃ used, used <+: m.source.literals.zip n.source.literals ∧
      (d.hooks = [] → used = m.source.literals.zip n.source.literals) ∧
      Corresponds used (pieces (e.result r w d).text) (pieces (e.result r w d').text) := by
  obtain ⟨rows,layers,source,known,rfl⟩ := seriesStacked first
  obtain ⟨rows',layers',source',known',rfl⟩ := seriesStacked second
  obtain ⟨⟨vs,ws,alike,part,whole⟩,projection⟩ := matrixAlike same source source'
  rw [← layersMasked,← same,layersMasked,← alike.extra,known] at known'
  obtain rfl := Except.ok.inj known'
  obtain ⟨stem,l,rest,rfl,stemmed⟩ := seriesStem known
  obtain ⟨_,labels,_⟩ := supportedContext window
  obtain ⟨cited,number⟩ := readCited (labels.trans (matrixLabelled m ranking threshold)) source
  obtain ⟨rows,p⟩ := rows
  obtain ⟨rows',p'⟩ := rows'
  obtain rfl : p = p' := projection
  -- The first layer puts the rows into a statement of their own; from there on the drafts are twins.
  have first : ((groundDraft w.context (rows, p)).under (stem, l)).Twin
      ((groundDraft w.context (rows', p)).under (stem, l)) := ⟨rfl,rfl⟩
  obtain ⟨twin,more,withs,withs'⟩ := stackTwin first rest
  have kept (none : rows.hooks = []) : rows.onClient = false := by simp [Rows.onClient,none]
  refine ⟨vs ++ ws,part,fun none => whole (kept ?_),?_⟩
  · rwa [stackHooks] at none
  · exact resultsCorrespond checked (stackParams _ _) twin (by rw [stackBindings,stackBindings]; rfl)
      alike cited number (nameClosed stemmed) withs withs'

end Results

/-! ### Requests -/

section Requests

variable {e : Engine} {r : Request}

/-- The window of a request follows from the kinds in its tree and from its range. -/
theorem supportedSame {root root' : Node} (kinds : root.kinds = root'.kinds)
    (ranges : (classify root).map (fun f => rangeOf f.2) =
      (classify root').map (fun f => rangeOf f.2)) :
    e.supported r root = e.supported r root' := by
  have found (k : Text) : (root.find? k).isSome = (root'.find? k).isSome := by
    rw [Node.findKinds,Node.findKinds,kinds]
  have labels : root.hasAny labelConstructs = root'.hasAny labelConstructs := by
    simp only [Node.hasAny,found]
  rw [Engine.supported,Engine.supported,found,Engine.window,Engine.window,labels]
  cases first : classify root with
  | none =>
    cases second : classify root' with
    | none => rfl
    | some f => simp [first,second] at ranges
  | some f =>
    cases second : classify root' with
    | none => simp [first,second] at ranges
    | some g =>
      have span : rangeOf f.2 = rangeOf g.2 := by simpa [first,second] using ranges
      simp only [span]

theorem maskedSupported {p q : Form} (same : p.masked = q.masked) :
    e.supported r p.node = e.supported r q.node := by
  have kinds : p.node.kinds = q.node.kinds := by
    rw [← Node.maskedKinds,← (Form.nodeMasked p).1,same,(Form.nodeMasked q).1,Node.maskedKinds]
  refine supportedSame kinds ?_
  cases p <;> cases q <;>
    simp only [Form.masked,reduceCtorEq,Form.matrix.injEq,Form.call.injEq] at same
  case call.call => rw [same.1,same.2]
  case rows.rows => rw [Form.classifyRows,Form.classifyRows]
  case matrix.matrix m _ _ n _ _ =>
    rw [Form.classifyMatrix,Form.classifyMatrix]
    simp only [Option.map_some,Form.matrixRange,← Form.maskedSpan m,same.1,Form.maskedSpan n]

theorem compileRead {expansions : Nat} {root : Node} {compiled : Compiled}
    (read : e.parse r.query = .ok root) (plain : root.find? Kind.userMacro = none)
    (ok : e.compileWithin expansions r = .ok compiled) : e.compileRoot r root = .ok compiled := by
  obtain ⟨found,again,⟨_,ok⟩ | ⟨_,_,_,_,call,_⟩⟩ := compileStep ok
  · obtain rfl := Except.ok.inj (read.symm.trans again)
    exact ok
  · obtain rfl := Except.ok.inj (read.symm.trans again)
    rw [plain] at call
    cases call

/-- Texts that read as one tree compile to one statement. -/
theorem compileSame {t : Text} (same : e.parse r.query = e.parse t) (expansions : Nat) :
    e.compileWithin expansions r = e.compileWithin expansions { r with query := t } := by
  cases expansions with
  | zero =>
    rw [Engine.compileWithin,Engine.compileWithin,same]
    rfl
  | succ expansions =>
    rw [Engine.compileWithin,Engine.compileWithin,same]
    rfl

/-- What corresponds when two forms are the same behind their masks. -/
theorem formsCorrespond {clientTemplates : Bool} (full : e.registry = Registry.full clientTemplates)
    (checked : e.policy.Checked) {t : Text} {p q : Form} (read : e.parse r.query = .ok p.node)
    (read' : e.parse t = .ok q.node) (same : p.masked = q.masked) {first second : Compiled}
    (ok : e.compile r = .ok first) (ok' : e.compile { r with query := t } = .ok second) :
    ∃ used, used <+: p.literals.zip q.literals ∧
      (first.hooks = [] → used = p.literals.zip q.literals) ∧
      Corresponds used (pieces first.text) (pieces second.text) := by
  have windows := maskedSupported (e := e) (r := r) same
  cases p <;> cases q <;>
    simp only [Form.masked,reduceCtorEq,Form.matrix.injEq,Form.rows.injEq,Form.call.injEq] at same
  case call.call =>
    obtain ⟨rfl,rfl⟩ := same
    have compiled := compileSame (read.trans read'.symm) maxExpansions
    obtain rfl : first = second := Except.ok.inj (ok.symm.trans (compiled.trans ok'))
    exact ⟨[],List.prefix_rfl,fun _ => rfl,.refl _⟩
  case rows.rows s u =>
    have done := compileRead read (Form.rowsNoCall s) ok
    have done' := compileRead (r := { r with query := t }) read' (Form.rowsNoCall u) ok'
    rw [compileRows full] at done done'
    obtain ⟨w,window,done⟩ := bindOk done
    obtain ⟨w',window',done'⟩ := bindOk done'
    obtain rfl : w = w' := Except.ok.inj (window.symm.trans (windows.trans window'))
    obtain ⟨d,draft,rfl⟩ := mapOk done
    obtain ⟨d',draft',rfl⟩ := mapOk done'
    rw [resultHooks]
    exact listingCorresponds checked same window draft draft'
  case matrix.matrix m ranking threshold n _ _ =>
    obtain ⟨same,rfl,rfl⟩ := same
    have done := compileRead read (Form.matrixNoCall m ranking threshold) ok
    have done' := compileRead (r := { r with query := t }) read' (Form.matrixNoCall n ranking threshold) ok'
    rw [compileMatrix full] at done done'
    obtain ⟨w,window,done⟩ := bindOk done
    obtain ⟨w',window',done'⟩ := bindOk done'
    obtain rfl : w = w' := Except.ok.inj (window.symm.trans (windows.trans window'))
    obtain ⟨d,draft,rfl⟩ := mapOk done
    obtain ⟨d',draft',rfl⟩ := mapOk done'
    rw [resultHooks]
    exact seriesCorresponds checked same window draft draft'

/-- Two texts whose trees are the same behind their masks compile to one skeleton. The strings behind
the masks come, in order, as literals that read back as them, and the statements are the same
elsewhere; only strings of stages that are left to the client do not come. -/
theorem stringsStayLiterals {clientTemplates : Bool} (full : e.registry = Registry.full clientTemplates)
    {config : Tables.Config} (configured : Tables.Policy.ofConfig config = .ok e.policy) {t : Text}
    {p q : Node} (read : e.parse r.query = .ok p) (read' : e.parse t = .ok q)
    (same : p.masked = q.masked) {first second : Compiled} (ok : e.compile r = .ok first)
    (ok' : e.compile { r with query := t } = .ok second) :
    skeleton first.text = skeleton second.text ∧ p.literals.length = q.literals.length ∧
      ∃ used, used <+: p.literals.zip q.literals ∧
        (first.hooks = [] → used = p.literals.zip q.literals) ∧
        Corresponds used (pieces first.text) (pieces second.text) := by
  obtain ⟨p,rfl,_⟩ := parseText read
  obtain ⟨q,rfl,_⟩ := parseText read'
  have forms := Form.maskedUnique same
  obtain ⟨used,part,whole,corresponds⟩ := formsCorrespond full
    (Tables.Policy.ofConfigChecked configured) read read' forms ok ok'
  rw [(Form.nodeMasked p).2,(Form.nodeMasked q).2]
  exact ⟨corresponds.blank,Form.literalsCount forms,used,part,whole,corresponds⟩

/-- A query with harmless strings. -/
def plainStrings : Request :=
  { query := "\x7bapp=~\"a\"\x7d |= \"b\" | level=\"c\"" }

/-- The same query with strings that try to end their literals. -/
def hostileStrings : Text := "\x7bapp=~\"\\\\'\"\x7d |= \"' OR 1=1 --\" | level=\"\\\\\""

/-- Their strings, as they are written. -/
def hostilePairs : Pairs := [("^(?:a)$", "^(?:\\')$"), ("b", "' OR 1=1 --"), ("c", "\\")]

theorem hostileCorrespond : ∃ first second,
    ({ registry := .full true } : Engine).compile plainStrings = .ok first ∧
      ({ registry := .full true } : Engine).compile { plainStrings with query := hostileStrings } =
        .ok second ∧
      skeleton first.text = skeleton second.text ∧
      Corresponds hostilePairs (pieces first.text) (pieces second.text) := by
  obtain ⟨p,read,run⟩ := okAny
    (show (({ registry := .full true } : Engine).parse plainStrings.query).toOption.any (fun p =>
      (({ registry := .full true } : Engine).parse hostileStrings).toOption.any fun q =>
        (decide (p.masked = q.masked) && decide (p.literals.zip q.literals = hostilePairs)) &&
        (({ registry := .full true } : Engine).compile plainStrings).toOption.any fun first =>
          first.hooks.isEmpty && (({ registry := .full true } : Engine).compile
            { plainStrings with query := hostileStrings }).toOption.any fun _ => true) = true by
      decide +kernel)
  obtain ⟨q,read',run⟩ := okAny run
  simp only [Bool.and_eq_true,decide_eq_true_eq] at run
  obtain ⟨⟨masks,strings⟩,run⟩ := run
  obtain ⟨first,ok,run⟩ := okAny run
  obtain ⟨server,run⟩ := Bool.and_eq_true_iff.mp run
  obtain ⟨second,ok',_⟩ := okAny run
  have configured : Tables.Policy.ofConfig {} = .ok .default := by decide +kernel
  obtain ⟨blank,_,used,_,whole,corresponds⟩ :=
    stringsStayLiterals rfl configured read read' masks ok ok'
  rw [whole (by simpa using server),strings] at corresponds
  exact ⟨first,second,ok,ok',blank,corresponds⟩

end Requests

end LogSql.Compile
