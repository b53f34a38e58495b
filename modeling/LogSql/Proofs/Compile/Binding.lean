import LogSql.Proofs.Compile.Stacks

/-! Late binding. The cells of a statement are declared on the rows, which every layer moves one
statement further in, and they are bound on the outermost statement; what the rows and the selected
streams are written with are the bounds, the tables and the limit of the request. -/
namespace LogSql.Compile

open Query
open Sql (Expr Select SelectOf Named)

/-! ### The window of a request -/

/-- The start of a request in milliseconds: an hour ago when it gives none. -/
def Engine.opening (e : Engine) (r : Request) : Int :=
  if r.start = 0 then Int64Range.wrap (e.now - defaultWindow) else r.start

/-- The end of a request in milliseconds: now when it gives none. -/
def Engine.closing (e : Engine) (r : Request) : Int := if r.stop = 0 then e.now else r.stop

/-- The start of what a compiled query reads; buckets are read from their start. -/
def Engine.readsFrom (e : Engine) (r : Request) (compiled : Compiled) : Int :=
  if compiled.matrix then floorMultiple (e.opening r) compiled.duration else e.opening r

/-- The end of what a compiled query reads; buckets are read to their end. -/
def Engine.readsTo (e : Engine) (r : Request) (compiled : Compiled) : Int :=
  if compiled.matrix then ceilMultiple (e.closing r) compiled.duration else e.closing r

/-- The row limit of a request. -/
def Engine.rowLimit (e : Engine) (r : Request) : Int := if r.limit ≤ 0 then e.limit else r.limit

theorem durationPositive {t : Text} {ms : Int} (ok : durationMs t = .ok ms) : 0 < ms := by
  obtain ⟨d,_,ok⟩ := bindOk ok
  dsimp only at ok
  split at ok
  · contradiction
  · cases ok
    omega

mutual

/-- The range of a construct is read from a text inside it. -/
theorem rangeRead {ms : Int} : (n : Node) → rangeOf n = .ok ms → ∃ t, durationMs t = .ok ms
  | .mk kind value children => by
    intro ok
    rw [rangeOf] at ok
    split at ok
    · exact ⟨_,ok⟩
    · exact rangeInRead kind children ok

theorem rangeInRead {ms : Int} (kind : Text) :
    (ns : List Node) → rangeIn kind ns = .ok ms → ∃ t, durationMs t = .ok ms
  | [] => by
    intro ok
    contradiction
  | n :: ns => by
    intro ok
    rw [rangeIn] at ok
    split at ok
    · exact rangeRead n ok
    · exact rangeInRead kind ns ok

end

/-- A window does not end before it starts, and its bounds are those of its request; a matrix cuts them to
whole buckets, which are as long as the range of its query. -/
theorem windowRead {e : Engine} {r : Request} {root : Node} {w : Engine.Window}
    (ok : e.supported r root = .ok w) : e.opening r ≤ e.closing r ∧
      ((w.start = e.opening r ∧ w.stop = e.closing r ∧ w.context.matrix = false) ∨
        ∃ t, durationMs t = .ok w.context.duration ∧ w.context.matrix = true ∧
          w.start = floorMultiple (e.opening r) w.context.duration ∧
          w.stop = ceilMultiple (e.closing r) w.context.duration) := by
  unfold Engine.supported at ok
  split at ok
  · contradiction
  · rw [Engine.window] at ok
    obtain ⟨step,_,ok⟩ := bindOk ok
    change (if e.closing r < e.opening r then _ else _) = _ at ok
    split at ok
    · contradiction
    · refine ⟨by omega,?_⟩
      cases found : classify root with
      | none =>
        rw [found] at ok
        cases ok
        exact .inl ⟨rfl,rfl,rfl⟩
      | some family =>
        rw [found] at ok
        obtain ⟨length,range,ok⟩ := bindOk ok
        cases ok
        obtain ⟨t,read⟩ := rangeRead _ range
        exact .inr ⟨t,read,rfl,rfl,rfl⟩

theorem windowBounds {e : Engine} {r : Request} {root : Node} {w : Engine.Window}
    (ok : e.supported r root = .ok w) (d : Draft) :
    w.start = e.readsFrom r (e.result r w d) ∧ w.stop = e.readsTo r (e.result r w d) := by
  obtain ⟨_,⟨start,stop,rows⟩ | ⟨t,read,matrix,start,stop⟩⟩ := windowRead ok
  · simp [Engine.readsFrom,Engine.readsTo,Engine.result,rows,start,stop]
  · have positive := durationPositive read
    simp [Engine.readsFrom,Engine.readsTo,Engine.result,matrix,positive,start,stop]

/-! ### The cells of a result -/

section Cells

variable {e : Engine} {r : Request} {w : Engine.Window} {d : Draft}

theorem resultTables (declared : d.select.params = baseCells) :
    (e.result r w d).bindings.get? timeSeriesCell = some (.verbatim e.policy.timeSeriesTable) ∧
      (e.result r w d).bindings.get? matrixCell = some (.bool w.context.matrix) := by
  simp [Engine.result,Engine.bound,Draft.bind,SelectOf.param?,declared,setGet,baseCells,samplesCell,
    timeSeriesCell,fromCell,toCell,limitCell,matrixCell]

theorem resultAllBound (declared : d.select.params = baseCells) :
    ∀ cell ∈ baseCells, ((e.result r w d).bindings.get? cell).isSome = true := by
  obtain ⟨samples,start,stop,limit⟩ := resultCells (e := e) (r := r) (w := w) declared
  obtain ⟨series,matrix⟩ := resultTables (e := e) (r := r) (w := w) declared
  simp [baseCells,samples,start,stop,limit,series,matrix]

theorem viewText {b : Sql.Bindings} {cell : Sql.Cell} {t : Text}
    (bound : b.get? cell = some (.verbatim t)) : b.view.text cell = t := by
  simp only [Sql.Bindings.view,Sql.Bindings.viewTo,bound,Sql.Value.text]

theorem viewInt {b : Sql.Bindings} {cell : Sql.Cell} {n : Int}
    (bound : b.get? cell = some (.int n)) : b.view.text cell = Text.ofInt n := by
  simp only [Sql.Bindings.view,Sql.Bindings.viewTo,bound,Sql.Value.text]

end Cells

/-! ### What is written -/

/-- The condition that rows lie within bounds of milliseconds. -/
def windowText (start stop : Int) : Text :=
  .concat ["samples.timestamp_ns BETWEEN ", Text.ofInt start, "000000 AND ", Text.ofInt stop, "000000"]

/-- The time of a row as it is written. -/
def timeText (matrix : Bool) : Text :=
  if matrix then "intDiv(samples.timestamp_ns, 1000000)" else "samples.timestamp_ns"

/-- Written statements that read the samples of a window. -/
structure ReadsWindow (p : Tables.Policy) (start stop : Int) (matrix : Bool) (s : SelectOf Text) :
    Prop where
  whole : s.withs = []
  source : s.source = some (p.tableFor start)
  named : s.sourceAlias = "samples"
  window : s.filters.head? = some (windowText start stop)
  time : s.columns.filter (fun c => c.name = timestampColumn) = [⟨timeText matrix,timestampColumn⟩]

/-- Written statements that read the labels of the streams. -/
structure ReadsStreams (p : Tables.Policy) (s : SelectOf Text) : Prop where
  whole : s.withs = []
  source : s.source = some p.timeSeriesTable
  named : s.sourceAlias = "time_series"

theorem conjunctionFirst {first : Text} (some : first ≠ []) (others : List Text) :
    ∃ rest, Sql.conjunction (first :: others) = first ++ rest := by
  rw [Sql.conjunction,List.filter_cons_of_pos (by simpa using some)]
  cases others.filter fun t => !t.isEmpty with
  | nil => exact ⟨[],by simp [Text.join]⟩
  | cons second more => exact ⟨_,by rw [Text.join,List.append_assoc]; simp⟩

theorem windowSome (start stop : Int) : windowText start stop ≠ [] := by
  simp [windowText,Text.concat]

/-- What such a statement is as a text. -/
theorem ReadsWindow.written {p : Tables.Policy} {start stop : Int} {matrix : Bool} {s : SelectOf Text}
    (reads : ReadsWindow p start stop matrix s) :
    ∃ columns rest, s.text = .concat ["SELECT ", columns, " FROM ", p.tableFor start, " AS samples",
      s.joins.flatMap fun j => Text.byte ' ' :: SelectOf.joinText j, " WHERE ",
      windowText start stop, rest] := by
  obtain ⟨others,filters⟩ : ∃ others, s.filters = windowText start stop :: others := by
    have first := reads.window
    cases split : s.filters with
    | nil => simp [split] at first
    | cons f others => exact ⟨others,by simpa [split] using first⟩
  obtain ⟨rest,conditions⟩ := conjunctionFirst (windowSome start stop) others
  have some : (windowText start stop ++ rest).isEmpty = false := by simp [windowSome]
  have spelled : Text.ofString " AS samples" = Text.ofString " AS " ++ Text.ofString "samples" := by
    decide
  refine ⟨(if s.distinct then Text.ofString "DISTINCT " else []) ++
      (if s.columns.isEmpty then Text.ofString "*"
        else Text.join ", " (s.columns.map SelectOf.columnText)),
    rest ++ .concat [SelectOf.listClause " GROUP BY " s.groups,
      SelectOf.clause " HAVING " (Sql.conjunction s.havings),
      SelectOf.listClause " ORDER BY " (s.orders.map SelectOf.orderText),s.limitText],?_⟩
  rw [SelectOf.text,SelectOf.sourceText,reads.whole,reads.source,reads.named,filters,conditions,
    SelectOf.clause,SelectOf.clause,some]
  simp [Text.concat,spelled]

section Rows

variable {e : Engine} {r : Request} {w : Engine.Window} {d : Draft} {rows : Rows} {p : Projection}

theorem columnsTime (line : Expr) (rows : Rows) (joinLabels : Bool) (p : Projection) :
    (p.columns line (rows.others joinLabels)).filter (fun c => c.name = timestampColumn) =
      [⟨timestampExpr,timestampColumn⟩] := by
  have others : (rows.others joinLabels).filter (fun c => c.name = timestampColumn) =
      [⟨timestampExpr,timestampColumn⟩] := by
    cases joinLabels <;> cases rows.extra <;>
      simp [Rows.others,labelsEntry,timestampColumn,labelsColumn,extraColumn]
  cases p <;>
    simp [Projection.columns,lineColumn,unwrappedColumn,timestampColumn] <;> exact others

/-- The rows are written with the bounds and the table of their request. -/
theorem rowsWritten (declared : d.select.params = baseCells) (rows : Rows) (p : Projection)
    (orders : List (Named Expr)) (limit : Option Expr) :
    ReadsWindow e.policy w.start w.stop w.context.matrix
      (Expr.selectTexts (e.result r w d).bindings.view
        { rows.body p w.context orders with limit := limit }) := by
  obtain ⟨samples,start,stop,_⟩ := resultCells (e := e) (r := r) (w := w) declared
  obtain ⟨_,matrix⟩ := resultTables (e := e) (r := r) (w := w) declared
  have ended : (e.result r w d).bindings.view.isBound toCell = true := by
    simp [Sql.Bindings.view,Sql.Bindings.viewTo,stop]
  have buckets : (e.result r w d).bindings.view.isTrue matrixCell = w.context.matrix := by
    simp [Sql.Bindings.view,Sql.Bindings.viewTo,matrix]
  refine ⟨rfl,?_,rfl,?_,?_⟩
  · simp only [Expr.selectTexts,Rows.body,Expr.optText,Expr.text,viewText samples]
  · have spelled : Text.ofString "samples.timestamp_ns BETWEEN " =
        Text.ofString "samples.timestamp_ns" ++ Text.ofString " BETWEEN " := by decide
    have joined : Text.ofString "000000 AND " = Text.ofString "000000" ++ Text.ofString " AND " := by
      decide
    simp [Expr.selectTexts,Rows.body,Expr.texts,windowCondition,Expr.text,Expr.ofString,ended,
      viewText start,viewText stop,windowText,nanosText,Text.concat,spelled,joined]
  · have written : timestampExpr.text (e.result r w d).bindings.view = timeText w.context.matrix := by
      simp only [timestampExpr,Expr.text,buckets,timeText,Expr.ofString]
    simp only [Expr.selectTexts,Rows.body,Expr.namedTextsMap,List.filter_map,Function.comp_def]
    rw [columnsTime]
    simp [written]

theorem streamsWritten (declared : d.select.params = baseCells) (rows : Rows) (legacy : Bool) :
    ReadsStreams e.policy
      (Expr.selectTexts (e.result r w d).bindings.view (rows.selection legacy)) := by
  obtain ⟨series,_⟩ := resultTables (e := e) (r := r) (w := w) declared
  refine ⟨rfl,?_,rfl⟩
  simp only [Expr.selectTexts,Rows.selection,baseSelection,Expr.optText,Expr.text,viewText series]

end Rows

/-! ### Limits -/

/-- A row limit as it is written. -/
def limitClause (n : Int) : Text := Text.ofString " LIMIT " ++ Text.ofInt n

theorem intSome (n : Int) : Text.ofInt n ≠ [] := by
  unfold Text.ofInt
  split
  · simp
  · simp [Text.ofNat]

theorem concatLast {ts : List Text} {t : Text} (last : ts.getLast? = some t) : t <:+ Text.concat ts := by
  obtain ⟨before,rfl⟩ := List.getLast?_eq_some_iff.mp last
  exact ⟨before.flatten,by simp [Text.concat]⟩

/-- A statement with a limit and no offset ends with it. -/
theorem limitLast {s : SelectOf Text} {n : Int} (limit : s.limit = some (Text.ofInt n))
    (offset : s.offset = none) : limitClause n <:+ s.text := by
  have last : s.limitText = limitClause n := by
    have some : (Text.ofInt n).isEmpty = false := by simpa using intSome n
    simp [SelectOf.limitText,limit,offset,some,SelectOf.clause,limitClause,Text.concat]
  rw [SelectOf.text,last]
  exact concatLast rfl

/-! ### Requests -/

/-- What the bindings of a compiled query reach, given its first two common table expressions, the name
of the second and what follows them. -/
structure Reached (e : Engine) (r : Request) (compiled : Compiled) (streams rows : SelectOf Text)
    (name : Text) (more : List (Named Text)) : Prop where
  withs : (Expr.selectTexts compiled.bindings.view compiled.select).withs =
    ⟨streams.text,streamSelection⟩ :: ⟨rows.text,name⟩ :: more
  first : ReadsStreams e.policy streams
  second : ReadsWindow e.policy (e.readsFrom r compiled) (e.readsTo r compiled) compiled.matrix rows
  /-- Lists of rows are limited within and without. -/
  limited : compiled.matrix = false → name = "sel_a" ∧ more = [] ∧
    limitClause (e.rowLimit r) <:+ rows.text ∧ limitClause (e.rowLimit r) <:+ compiled.text

section Requests

variable {e : Engine} {clientTemplates : Bool} {r : Request} {root : Node} {w : Engine.Window}
  {d : Draft}

/-- The bindings reach the rows of a draft wherever they stand in it. -/
theorem rowsReached (window : e.supported r root = .ok w) (declared : d.select.params = baseCells)
    {rows : Rows} {p : Projection} {orders : List (Named Expr)} {limit : Option Expr} {name : Text}
    {more : List (Named Expr)}
    (withs : d.select.withs = ⟨.query (rows.selection w.context.legacy),streamSelection⟩ ::
      ⟨.query { rows.body p w.context orders with limit := limit },name⟩ :: more)
    (limited : w.context.matrix = false → name = "sel_a" ∧ more = [] ∧
      limit = some (.cell limitCell) ∧ d.select.limit = some (.cell limitCell) ∧
      d.select.offset = none) :
    ∃ streams written others, Reached e r (e.result r w d) streams written name others := by
  obtain ⟨start,stop⟩ := windowBounds window d
  have bound := (resultCells (e := e) (r := r) (w := w) declared).2.2.2
  have rowsText := rowsWritten (e := e) (r := r) (w := w) declared rows p orders limit
  rw [start,stop] at rowsText
  refine ⟨_,_,Expr.namedTexts (e.result r w d).bindings.view more,?_,
    streamsWritten (r := r) (w := w) declared rows w.context.legacy,rowsText,fun listed => ?_⟩
  · rw [resultSelect,Expr.selectTextsFields,withs]
    rfl
  · obtain ⟨rfl,rfl,rfl,outer,offset⟩ := limited listed
    refine ⟨rfl,rfl,limitLast ?_ rfl,limitLast ?_ ?_⟩
    · simp only [Expr.selectTexts,Expr.optText,Expr.text,viewInt bound]
      rfl
    · rw [resultSelect,Expr.selectTextsFields,outer]
      simp only [Expr.optText,Expr.text,viewInt bound]
      rfl
    · rw [resultSelect,Expr.selectTextsFields,offset]
      rfl

theorem listingReached {s : Form.Source} (window : e.supported r (Form.rows s).node = .ok w)
    (drafted : rowsDraft clientTemplates w.context r.direction s = .ok d) :
    d.select.params = baseCells ∧
      ∃ streams rows name more, Reached e r (e.result r w d) streams rows name more := by
  obtain ⟨rows,_,rfl⟩ := mapOk drafted
  have name : (rows.draft .line w.context [byTime r.direction]).next "sel" = "sel_a" := by
    simp only [Draft.next,Rows.draft,(supportedContext window).2.2]
    decide
  have withs : ((rows.draft .line w.context [byTime r.direction]).over "sel"
      (listingLayer r.direction w.context.joinLabels)).select.withs =
        ⟨.query (rows.selection w.context.legacy),streamSelection⟩ ::
        ⟨.query { rows.body .line w.context [byTime r.direction] with
          limit := some (.cell limitCell) },"sel_a"⟩ :: [] := by
    rw [overWiths,name]
    rfl
  obtain ⟨streams,written,others,reached⟩ := rowsReached window rfl withs
    fun _ => ⟨rfl,rfl,rfl,rfl,rfl⟩
  exact ⟨rfl,streams,written,_,others,reached⟩

theorem seriesReached {m : Form.Matrix} {ranking : Option Form.Ranking}
    {threshold : Option Form.Threshold}
    (window : e.supported r (Form.matrix m ranking threshold).node = .ok w)
    (drafted : seriesDraft clientTemplates w.context r.direction m ranking threshold = .ok d) :
    d.select.params = baseCells ∧
      ∃ streams rows name more, Reached e r (e.result r w d) streams rows name more := by
  obtain ⟨rows,layers,_,known,rfl⟩ := seriesStacked drafted
  obtain ⟨name,more,withs⟩ := stackWiths (seriesSome known) (groundDraft w.context rows)
  have declared := stackParams (groundDraft w.context rows) layers
  have matrix : w.context.matrix = true := by
    rw [(supportedContext window).1,Form.classifyMatrix]
    rfl
  obtain ⟨streams,written,others,reached⟩ := rowsReached window declared withs.symm
    fun listed => by simp [matrix] at listed
  exact ⟨declared,streams,written,name,others,reached⟩

/-- However many layers a query puts over its rows, all cells are declared and bound on the outermost
statement, and the rows and the selected streams are written with the tables, the bounds and the limit
of the request. -/
theorem bindingsReach (full : e.registry = Registry.full clientTemplates) {compiled : Compiled}
    (ok : e.compile r = .ok compiled) :
    compiled.select.params = baseCells ∧
      (∀ cell ∈ baseCells, (compiled.bindings.get? cell).isSome = true) ∧
      ∃ streams rows name more, Reached e r compiled streams rows name more ∧
        ∃ columns rest, rows.text = .concat ["SELECT ", columns, " FROM ",
          e.policy.tableFor (e.readsFrom r compiled), " AS samples",
          rows.joins.flatMap fun j => Text.byte ' ' :: SelectOf.joinText j, " WHERE ",
          windowText (e.readsFrom r compiled) (e.readsTo r compiled), rest] := by
  obtain ⟨text,_,source⟩ := compileSource full ok
  obtain ⟨declared,bound,streams,rows,name,more,reached⟩ : compiled.select.params = baseCells ∧
      (∀ cell ∈ baseCells, (compiled.bindings.get? cell).isSome = true) ∧
      ∃ streams rows name more, Reached e { r with query := text } compiled streams rows name more := by
    cases source with
    | rows read window drafted =>
      obtain ⟨declared,reached⟩ := listingReached window drafted
      exact ⟨by rw [resultSelect,declared],resultAllBound declared,reached⟩
    | matrix read window drafted =>
      obtain ⟨declared,reached⟩ := seriesReached window drafted
      exact ⟨by rw [resultSelect,declared],resultAllBound declared,reached⟩
  exact ⟨declared,bound,streams,rows,name,more,
    ⟨reached.withs,reached.first,reached.second,reached.limited⟩,reached.second.written⟩

end Requests

/-- A count of rows that is merged, with a step and bounds that lie inside buckets. -/
def steppedCount : Request :=
  { query := "sum(count_over_time(\x7bapp=\"api\"\x7d [1m]))", start := 90000, stop := 150000
    step := "120" }

theorem steppedCountReached : ∃ compiled streams rows name more,
    ({ registry := .full true } : Engine).compile steppedCount = .ok compiled ∧
      compiled.matrix = true ∧ more.length = 2 ∧
      Reached { registry := .full true } steppedCount compiled streams rows name more ∧
      ReadsWindow .default 60000 180000 true rows := by
  obtain ⟨compiled,ok,run⟩ := okAny
    (show (({ registry := .full true } : Engine).compile steppedCount).toOption.any
      (fun compiled => compiled.matrix && compiled.duration = 60000 &&
        compiled.select.withs.length = 4) = true by decide +kernel)
  simp only [Bool.and_eq_true,decide_eq_true_eq] at run
  obtain ⟨⟨matrix,duration⟩,length⟩ := run
  obtain ⟨_,_,streams,rows,name,more,reached,_⟩ := bindingsReach rfl ok
  have four := congrArg List.length reached.withs
  rw [Expr.selectTextsFields,Expr.namedTextsMap,List.length_map,length] at four
  have second := reached.second
  rw [Engine.readsFrom,Engine.readsTo,matrix,duration] at second
  exact ⟨compiled,streams,rows,name,more,ok,matrix,by simpa using four.symm,reached,second⟩

end LogSql.Compile
