import LogSql.Proofs.Compile.Chain

/-! The statements of requests. Rows are the start of a chain, and each step of a matrix continues it:
buckets, steps, merged series, thresholds and rankings. -/
namespace LogSql.Compile

open Query
open Sql (Expr Select Named Mentions Written mentionsWord)

/-! ### The base statement -/

section Base

variable {columns : List Text}

theorem dateCited (legacy : Bool) :
    Written (Mentions (Cites columns)) boundCells (dateCondition legacy) := by
  have day {c : Sql.Cell} (known : c ∈ boundCells) :
      Written (Mentions (Cites columns)) boundCells (dayOf c) := by
    refine .call (stringCites rfl (by decide)) ?_
    simp only [List.forall_mem_cons]
    refine ⟨.call (stringCites rfl (by decide)) ?_,by simp⟩
    simp only [List.forall_mem_cons]
    exact ⟨.cell known,.int _,by simp⟩
  have series : Written (Mentions (Cites columns)) boundCells "time_series.date" :=
    .raw (stringCites rfl (by decide))
  have lower : Written (Mentions (Cites columns)) boundCells
      (.binary ">=" "time_series.date" (dayOf fromCell)) :=
    .binary (stringCites rfl (by decide)) series (day (by simp [boundCells]))
  have upper : Written (Mentions (Cites columns)) boundCells
      (.binary "<=" "time_series.date" (dayOf toCell)) :=
    .binary (stringCites rfl (by decide)) series (day (by simp [boundCells]))
  unfold dateCondition
  split
  · exact .raw (citesNeutral columns).nil
  · refine .ifBound (.ifBound (.all ?_) lower) (.raw (citesNeutral columns).nil)
    simp only [List.forall_mem_cons]
    exact ⟨lower,upper,by simp⟩

theorem windowCited : Written (Mentions (Cites columns)) boundCells windowCondition := by
  have time : Written (Mentions (Cites columns)) boundCells "samples.timestamp_ns" :=
    .raw (stringCites rfl (by decide))
  have start : Written (Mentions (Cites columns)) boundCells (.cell fromCell) :=
    .cell (by simp [boundCells])
  exact .ifBound (.between time start (.cell (by simp [boundCells])))
    (.binary (stringCites rfl (by decide)) time start)

theorem selectedCited : Citing columns selectedStreams := by
  have streams : Mentions (Cites columns) (("SELECT fingerprint FROM " : Text) ++ streamSelection) :=
    Sql.mentionsAppend (stringCites rfl (by decide)) (stringCites rfl (by decide)) (.inl (by decide))
  exact .binary (stringCites rfl (by decide)) (.raw (stringCites rfl (by decide))) (.sub (.raw streams))

theorem byTimeCited (direction : Text) : ∀ o ∈ [byTime direction], Citing columns o.expr := by
  simp only [List.forall_mem_cons]
  exact ⟨.raw (stringCites rfl (by decide)),by simp⟩

theorem timestampCited : Citing columns timestampExpr :=
  .ifTrue (.raw (stringCites rfl (by decide))) (.raw (stringCites rfl (by decide)))

end Base

section Rows

variable {labelled : Bool} {r : Rows} {p : Projection} {c : Context} {orders : List (Named Expr)}

theorem selectionLink (cited : r.Cited labelled) (legacy : Bool) :
    Link [(streamSelection, r.selection legacy)] 0 (r.selection legacy) := by
  have elsewhere : ¬Reads (r.selection legacy) (.cell samplesCell) := by
    rintro (source | ⟨j,mem,_⟩)
    · simp [Rows.selection,baseSelection,samplesCell,timeSeriesCell] at source
    · simp [Rows.selection,baseSelection] at mem
  have own : ∀ w ∈ [labelsColumn],
      Resolves [(streamSelection, r.selection legacy)] (r.selection legacy) w := by
    simp only [List.forall_mem_cons]
    exact ⟨.inr (.inl ⟨by simp [ownColumns],fun base => absurd base elsewhere⟩),by simp⟩
  have cites : ∀ e ∈ (r.selection legacy).parts,
      Written (Mentions (Cites [labelsColumn])) boundCells e := by
    have columns : ∀ e ∈ [Expr.raw "fingerprint", .raw "labels"],
        Written (Mentions (Cites [labelsColumn])) boundCells e := by
      simp only [List.forall_mem_cons]
      exact ⟨.raw (stringCites rfl (by decide)),.raw (mentionsWord (by decide) (.inr (by decide))),
        by simp⟩
    have filters : ∀ e ∈ dateCondition legacy :: r.streams,
        Written (Mentions (Cites [labelsColumn])) boundCells e := by
      simp only [List.forall_mem_cons]
      exact ⟨dateCited legacy,fun e mem => (cited.streams e mem).cells _⟩
    intro e mem
    refine List.forall_mem_append.mpr ⟨columns,filters⟩ e ?_
    simpa [Rows.selection,baseSelection,Sql.SelectOf.parts,Expr.ofString,or_assoc] using mem
  have resolved : Resolved [(streamSelection, r.selection legacy)] (r.selection legacy) :=
    fun e mem => citedResolves (cites e mem) own (List.Subset.refl _)
  refine ⟨⟨rfl,?_,resolved.apart⟩,?_,fun _ later => by omega,resolved,?_⟩
  · simp [Rows.selection,baseSelection,Expr.subterms]
  · exact ⟨fun reads => absurd reads elsewhere,fun wrong => by omega⟩
  · simp [Rows.selection,baseSelection,aliases]

/-- The columns that a projection names by itself. -/
def Projection.own : Projection → List Text
  | .number _ => [unwrappedColumn]
  | _ => []

/-- Projections whose number names only columns of the rows. -/
def Projection.Cited (columns : List Text) : Projection → Prop
  | .number e => Citing columns e
  | _ => True

/-- The columns of the selected streams. -/
def streamColumns : List Text :=
  [columnOf streamSelection "fingerprint", columnOf streamSelection labelsColumn]

/-- The columns that the statement of rows names. -/
def Rows.named (r : Rows) (p : Projection) (joinLabels : Bool) : List Text :=
  r.own joinLabels ++ p.own ++
    if joinLabels then columnOf "samples" "fingerprint" :: streamColumns else []

theorem ownOthers (r : Rows) (joinLabels : Bool) :
    r.own joinLabels ⊆ (r.others joinLabels).map (·.name) := by
  intro w mem
  rcases List.mem_append.mp mem with stream | extracted
  · split at stream
    · rename_i joined
      simp [Rows.others,joined,labelsEntry,List.mem_singleton.mp stream]
    · contradiction
  · split at extracted
    · rename_i some
      obtain ⟨e,found⟩ := Option.isSome_iff_exists.mp some
      simp [Rows.others,found,List.mem_singleton.mp extracted]
    · contradiction

/-- Rows project the columns that they name. -/
theorem bodyColumns (r : Rows) (p : Projection) (joinLabels : Bool) :
    r.own joinLabels ++ p.own ⊆ (p.columns r.line (r.others joinLabels)).map (·.name) := by
  intro w mem
  rcases List.mem_append.mp mem with rows | number
  · have other := ownOthers r joinLabels rows
    cases p <;> simp_all [Projection.columns]
  · cases p <;> simp_all [Projection.own,Projection.columns]

theorem bodyAliased (r : Rows) (p : Projection) (joinLabels : Bool) :
    (aliases (p.columns r.line (r.others joinLabels))).Nodup := by
  cases p <;> cases joinLabels <;> cases found : r.extra <;>
    simp [aliases,Projection.columns,Rows.others,labelsEntry,found,lineColumn,timestampColumn,
      labelsColumn,extraColumn,unwrappedColumn]

theorem streamResolves {bodies : Bodies} {body : Select} {legacy : Bool}
    (mem : (streamSelection, r.selection legacy) ∈ bodies) (reads : Reads body (.raw streamSelection)) :
    ∀ w ∈ streamColumns, Resolves bodies body w := by
  have column {name : Text} (known : name ∈ (r.selection legacy).columns.map columnName) :
      Resolves bodies body (columnOf streamSelection name) :=
    .inr (.inr ⟨_,mem,reads,name,List.mem_cons_of_mem _ known,rfl⟩)
  simp only [streamColumns,List.forall_mem_cons]
  exact ⟨column (by simp [Rows.selection,baseSelection,columnName,Expr.ofString]),
    column (by simp [Rows.selection,baseSelection,columnName,Expr.ofString,labelsColumn]),by simp⟩

theorem namedResolves (r : Rows) (p : Projection) (c : Context) (orders : List (Named Expr)) :
    ∀ w ∈ r.named p c.joinLabels, Resolves [(streamSelection, r.selection c.legacy)]
      (bare (r.draft p c orders).select) w := by
  intro w mem
  rcases List.mem_append.mp mem with own | joined
  · refine .inr (.inl ⟨?_,fun _ => bodyColumns r p c.joinLabels own⟩)
    rcases List.mem_append.mp own with rows | number
    · unfold Rows.own at rows
      split at rows <;> split at rows <;> simp_all [ownColumns]
      rcases rows with rfl | rfl <;> simp
    · cases p <;> simp_all [Projection.own,ownColumns]
  · split at joined
    · rename_i labels
      have reads : Reads (bare (r.draft p c orders).select) (.raw streamSelection) :=
        .inr ⟨labelsJoin "samples",by simp [bare,Rows.draft,Rows.body,labels],rfl⟩
      rcases List.mem_cons.mp joined with rfl | stream
      · exact .inl (by decide)
      · exact streamResolves (List.mem_singleton_self _) reads w stream
    · contradiction

theorem ownNamed (r : Rows) (p : Projection) (joinLabels : Bool) :
    r.own joinLabels ⊆ r.named p joinLabels := by
  rw [Rows.named,List.append_assoc]
  exact List.subset_append_left _ _

theorem othersCited (cited : r.Cited c.joinLabels) :
    ∀ col ∈ r.others c.joinLabels, Citing (r.named p c.joinLabels) col.expr := by
  have own := ownNamed r p c.joinLabels
  intro col mem
  simp only [Rows.others,List.cons_append,List.nil_append,List.mem_cons,List.mem_append] at mem
  rcases mem with rfl | rfl | labels | extracted
  · exact .raw (stringCites rfl (by decide))
  · exact timestampCited
  · split at labels
    · rename_i joined
      rw [List.mem_singleton.mp labels]
      exact labelsEntryCites (by simp [Rows.named,joined,streamColumns])
    · contradiction
  · obtain ⟨e,found,rfl⟩ := List.mem_map.mp extracted
    exact (cited.extra e (Option.mem_toList.mp found)).widen own

theorem bodyCited (cited : r.Cited c.joinLabels) (number : p.Cited (r.own c.joinLabels))
    (ordered : ∀ o ∈ orders, Citing [] o.expr) :
    ∀ e ∈ (bare (r.draft p c orders).select).parts,
      Written (Mentions (Cites (r.named p c.joinLabels))) boundCells e := by
  have own := ownNamed r p c.joinLabels
  have columns : ∀ col ∈ p.columns r.line (r.others c.joinLabels),
      Citing (r.named p c.joinLabels) col.expr := by
    have others := othersCited (p := p) cited
    have line := cited.line.widen own
    cases p with
    | line => exact List.forall_mem_cons.mpr ⟨line,others⟩
    | sample =>
      refine List.forall_mem_append.mpr ⟨others,List.forall_mem_cons.mpr ⟨?_,by simp⟩⟩
      exact .raw (stringCites rfl (by decide))
    | number e =>
      refine List.forall_mem_cons.mpr ⟨line,List.forall_mem_append.mpr ⟨others,?_⟩⟩
      exact List.forall_mem_cons.mpr ⟨number.widen own,by simp⟩
  have tested : ∀ e ∈ p.filters, Citing (r.named p c.joinLabels) e := by
    cases p with
    | number e =>
      refine List.forall_mem_cons.mpr ⟨.call (stringCites rfl (by decide)) ?_,by simp⟩
      refine List.forall_mem_cons.mpr ⟨.raw (mentionsWord (by decide) (.inr ?_)),by simp⟩
      simp [Rows.named,Projection.own]
    | _ => simp [Projection.filters]
  have joined : ∀ j ∈ (if c.joinLabels then [labelsJoin "samples"] else []),
      ∀ e ∈ j.table :: j.on.toList, Citing (r.named p c.joinLabels) e := by
    intro j mem
    split at mem
    · rename_i labels
      rw [List.mem_singleton.mp mem]
      exact joinCited (by decide) (by simp [Rows.named,labels])
        (by simp [Rows.named,labels,streamColumns])
    · contradiction
  intro e mem
  simp only [Sql.SelectOf.parts,bare,Rows.draft,Rows.body,List.append_nil,List.mem_append,
    List.mem_map,List.mem_flatMap,Option.toList_some,Option.toList_none,List.mem_cons,
    List.not_mem_nil,or_false] at mem
  rcases mem with ((((⟨col,column,rfl⟩ | ⟨j,join,part⟩) | ((window | selected) | filter) | test) |
    ⟨o,order,rfl⟩) | limit)
  · exact (columns col column).cells _
  · exact (joined j join e (List.mem_cons.mpr part)).cells _
  · rw [window]
    exact windowCited
  · rw [selected]
    exact selectedCited.cells _
  · exact ((cited.filters e filter).widen own).cells _
  · exact (tested e test).cells _
  · exact ((ordered o order).widen (List.nil_subset _)).cells _
  · rw [limit]
    exact .cell (by simp [boundCells])

/-- The statement of rows starts a chain. -/
theorem rowsChained (cited : r.Cited c.joinLabels) (number : p.Cited (r.own c.joinLabels))
    (ordered : ∀ o ∈ orders, Citing [] o.expr) :
    Chained (r.draft p c orders) [(streamSelection, r.selection c.legacy)] where
  declared := rfl
  withs := rfl
  first := rfl
  distinct := by simp
  given := by simp
  inner i body found := by
    obtain ⟨rfl,rfl⟩ : i = 0 ∧ (streamSelection, r.selection c.legacy) = body := by
      cases i <;> simp_all
    exact selectionLink cited c.legacy
  last := by
    have resolved : Resolved [(streamSelection, r.selection c.legacy)]
        (bare (r.draft p c orders).select) := fun e mem =>
      citedResolves (bodyCited cited number ordered e mem) (namedResolves r p c orders)
        (List.Subset.refl _)
    refine ⟨⟨rfl,?_,resolved.apart⟩,?_,fun _ later => ?_,resolved,bodyAliased r p c.joinLabels⟩
    · simp [bare,Rows.draft,Rows.body,Expr.subterms]
    · exact ⟨fun _ => rfl,fun _ => .inl rfl⟩
    · simp at later

end Rows

/-! ### Layers -/

/-- The names of the columns of a matrix. -/
def matrixNames : List Text := [labelsColumn, timestampColumn, valueColumn]

/-- Statements in the shape of a matrix. -/
structure Tabular (s : Select) : Prop where
  columns : s.columns.map (·.name) = matrixNames
  orders : s.orders = matrixOrder
  limit : s.limit = none

/-- The columns that a draft offers to what reads from it. -/
def Draft.offers (d : Draft) : List Text := d.select.columns.map columnName

/-- The columns that a layer over a draft may name. -/
def Draft.reading (d : Draft) (stem : Text) : List Text :=
  labelsColumn :: d.offers.map (columnOf (d.next stem))

section Layers

variable {d : Draft} {bodies : Bodies} {stem : Text}

theorem offersNamed {name : Text} (mem : name ∈ d.select.columns.map (·.name)) (some : name ≠ []) :
    name ∈ d.offers := by
  obtain ⟨column,inside,rfl⟩ := List.mem_map.mp mem
  refine List.mem_map.mpr ⟨column,inside,?_⟩
  rw [columnName,if_neg (by simpa using some)]

theorem readingOf {name : Text} (offered : name ∈ d.offers) :
    columnOf (d.next stem) name ∈ d.reading stem :=
  List.mem_cons_of_mem _ (List.mem_map_of_mem offered)

theorem Chained.unordered (chained : Chained d bodies) : Chained (d.orderBy []) bodies :=
  chained.smaller rfl rfl rfl rfl rfl fun e mem => by
    simp only [Sql.SelectOf.parts,List.mem_append,List.map_nil,List.not_mem_nil,or_false] at mem ⊢
    exact mem.imp (Or.imp Or.inl id) id

theorem Chained.unlimited (chained : Chained d bodies) : Chained (d.setLimit none) bodies :=
  chained.smaller rfl rfl rfl rfl rfl fun e mem => by
    simp only [Sql.SelectOf.parts,List.mem_append,Option.toList_none,List.not_mem_nil,or_false] at mem ⊢
    exact .inl (.inl mem)

theorem layerBase {l : Text → Layer}
    (tables : ∀ j ∈ (l (d.next stem)).joins, j.table ≠ .cell samplesCell) :
    ¬Reads ((l (d.next stem)).body (d.next stem)) (.cell samplesCell) := by
  rintro (source | ⟨j,mem,table⟩)
  · simp [Layer.body] at source
  · exact tables j mem table

/-- What a layer may name resolves behind it. -/
theorem readingResolves {l : Text → Layer}
    (tables : ∀ j ∈ (l (d.next stem)).joins, j.table ≠ .cell samplesCell) :
    ∀ w ∈ columnOf (d.next stem) "*" :: d.reading stem,
      Resolves (d.behind stem bodies) ((l (d.next stem)).body (d.next stem)) w := by
  have column {name : Text} (offered : name ∈ ("*" : Text) :: d.offers) :
      Resolves (d.behind stem bodies) ((l (d.next stem)).body (d.next stem))
        (columnOf (d.next stem) name) :=
    .inr (.inr ⟨(d.next stem, bare d.select),by simp [Draft.behind],.inl rfl,name,offered,rfl⟩)
  intro w mem
  rcases List.mem_cons.mp mem with rfl | mem
  · exact column List.mem_cons_self
  · rcases List.mem_cons.mp mem with rfl | mem
    · exact .inr (.inl ⟨by simp [ownColumns],fun base => absurd base (layerBase tables)⟩)
    · obtain ⟨name,offered,rfl⟩ := List.mem_map.mp mem
      exact column (List.mem_cons_of_mem _ offered)

theorem Chained.layer (chained : Chained d bodies) (known : stem ∈ stems) {l : Text → Layer}
    (tables : ∀ j ∈ (l (d.next stem)).joins, j.table ≠ .cell samplesCell)
    (cited : (l (d.next stem)).Cited (d.reading stem))
    (aliased : (aliases (l (d.next stem)).columns).Nodup) :
    Chained (d.over stem l) (d.behind stem bodies) :=
  chained.over known tables cited
    (fun w mem => readingResolves tables w (List.mem_cons_of_mem _ mem)) aliased

/-- Drafts of a chain that ends with a matrix. -/
def Tabulated (d : Draft) : Prop :=
  ∃ bodies : Bodies, 2 ≤ bodies.length ∧ Chained d bodies ∧ Tabular d.select

/-- A layer in the shape of a matrix makes a matrix of a chain. -/
theorem Chained.table (chained : Chained d bodies) (known : stem ∈ stems) {l : Text → Layer}
    (tables : ∀ j ∈ (l (d.next stem)).joins, j.table ≠ .cell samplesCell)
    (cited : (l (d.next stem)).Cited (d.reading stem))
    (tabular : Tabular ((l (d.next stem)).body (d.next stem))) : Tabulated (d.over stem l) := by
  have names : (l (d.next stem)).columns.map (·.name) = matrixNames := tabular.columns
  have aliased : (aliases (l (d.next stem)).columns).Nodup := by
    rw [aliases,names]
    simp [matrixNames,labelsColumn,timestampColumn,valueColumn]
  refine ⟨d.behind stem bodies,?_,chained.layer known tables cited aliased,tabular.columns,
    tabular.orders,tabular.limit⟩
  have some := chained.some
  simp only [Draft.behind,List.length_append,List.length_singleton]
  omega

theorem Tabular.offered {stem name : Text} (tabular : Tabular d.select) (known : name ∈ matrixNames) :
    columnOf (d.next stem) name ∈ d.reading stem := by
  refine readingOf (offersNamed (tabular.columns ▸ known) ?_)
  rintro rfl
  simp [matrixNames,labelsColumn,timestampColumn,valueColumn] at known

theorem Tabulated.step (tabulated : Tabulated d) : Tabulated (applyStep d) := by
  rw [stepLayered]
  split
  · exact tabulated
  · obtain ⟨bodies,_,chained,tabular⟩ := tabulated
    have known : ("step" : Text) ∈ stems := by simp [stems]
    refine chained.unordered.table known (by simp [stepLayer]) ?_ ⟨rfl,rfl,rfl⟩
    exact stepCited (nextBytes known) _ (tabular.offered (by simp [matrixNames]))
      (tabular.offered (by simp [matrixNames])) (tabular.offered (by simp [matrixNames]))
      List.mem_cons_self

theorem seriesAggregateCites {columns : List Text} {fn : Text} (known : fn ∈ aggregationFunctions) :
    Mentions (Cites columns) (seriesAggregate fn) := by
  unfold seriesAggregate
  split
  · exact stringCites rfl (by decide)
  · split
    · exact stringCites rfl (by decide)
    · simp only [aggregationFunctions,List.mem_cons,List.not_mem_nil,or_false] at known
      rcases known with rfl | rfl | rfl | rfl | rfl | rfl | rfl <;> exact stringCites rfl (by decide)

theorem Tabulated.merge (tabulated : Tabulated d) {fn : Text} (function : fn ∈ aggregationFunctions)
    (clause : Option Node) :
    Tabulated ((d.orderBy []).over "agg" (mergeLayer (seriesAggregate fn) clause)) := by
  obtain ⟨bodies,_,chained,tabular⟩ := tabulated
  have known : ("agg" : Text) ∈ stems := by simp [stems]
  refine chained.unordered.table known (by simp [mergeLayer]) ?_ ⟨rfl,rfl,rfl⟩
  exact mergeCited (nextBytes known) (seriesAggregateCites function) clause
    (tabular.offered (by simp [matrixNames])) (tabular.offered (by simp [matrixNames]))
    (tabular.offered (by simp [matrixNames])) List.mem_cons_self

theorem comparisonCites {columns : List Text} {op : Text} (known : op ∈ Form.thresholdOperators) :
    Mentions (Cites columns) (if op = ("==" : Text) then "=" else op) := by
  split
  · exact stringCites rfl (by decide)
  · simp only [Form.thresholdOperators,List.mem_cons,List.not_mem_nil,or_false] at known
    rcases known with rfl | rfl | rfl | rfl | rfl | rfl <;> exact stringCites rfl (by decide)

theorem Tabulated.compare (tabulated : Tabulated d) {threshold : Option Form.Threshold} {next : Draft}
    (ok : compareDraft d threshold = .ok next) : Tabulated next := by
  cases threshold with
  | none =>
    cases ok
    exact tabulated
  | some t =>
    obtain ⟨want,_,rfl⟩ := mapOk ok
    obtain ⟨bodies,_,chained,tabular⟩ := tabulated
    have known : ("cmp" : Text) ∈ stems := by simp [stems]
    refine chained.unordered.table known (by simp [thresholdLayer]) ?_ ⟨rfl,rfl,rfl⟩
    exact thresholdCited (nextBytes known) (comparisonCites t.known) want t.marked
      (tabular.offered (by simp [matrixNames])) (tabular.offered (by simp [matrixNames]))
      (tabular.offered (by simp [matrixNames])) List.mem_cons_self

/-- A ranking is two layers: the best series at every time, and then their samples. -/
theorem Tabulated.rank (tabulated : Tabulated d) {ranking : Option Form.Ranking} {next : Draft}
    (ok : rankDraft d ranking = .ok next) : Tabulated next := by
  cases ranking with
  | none =>
    cases ok
    exact tabulated
  | some r =>
    obtain ⟨k,_,ok⟩ := bindOk ok
    split at ok
    · cases ok
      obtain ⟨bodies,_,chained,tabular⟩ := tabulated
      have known : r.fn ∈ stems := by simp [stems,r.known]
      have top := chained.unordered.layer known (l := topLayer
          (if r.fn = ("topk" : Text) then "arrayReverseSort" else "arraySort") k.toInt64)
        (by simp [topLayer])
        (topCited (nextBytes known) (by split <;> exact stringCites rfl (by decide)) _
          (tabular.offered (by simp [matrixNames])) (tabular.offered (by simp [matrixNames]))
          (tabular.offered (by simp [matrixNames])))
        (by simp [topLayer,aliases,timestampColumn])
      refine top.table known (by simp [spreadLayer]) ?_ ⟨rfl,rfl,rfl⟩
      refine spreadCited (nextBytes known) (readingOf (offersNamed ?_ (by simp [timestampColumn])))
        (readingOf (offersNamed ?_ (by simp))) List.mem_cons_self
      · simp [Draft.over,Layer.body,topLayer]
      · simp [Draft.over,Layer.body,topLayer]
    · contradiction

theorem extraOffered (extracted : d.hasExtraLabels = true) : extraColumn ∈ d.offers := by
  obtain ⟨column,found⟩ := Option.isSome_iff_exists.mp extracted
  have name : column.name = extraColumn := by simpa using List.find?_some found
  exact offersNamed (name ▸ List.mem_map_of_mem (List.mem_of_find?_eq_some found))
    (by simp [extraColumn])

theorem Chained.bucket (chained : Chained d bodies) (known : stem ∈ stems) {value : Text → Text}
    (clause : Option Node) (labels : labelsColumn ∈ d.offers) (time : timestampColumn ∈ d.offers)
    (cited : Mentions (Cites (d.reading stem)) (value (d.next stem))) :
    Tabulated (bucket stem value clause d) := by
  rw [bucketLayered]
  refine Tabulated.step (chained.unordered.unlimited.table known (by simp [bucketLayer]) ?_
    ⟨rfl,rfl,rfl⟩)
  exact bucketCited (nextBytes known) clause (readingOf labels)
    (fun extracted => readingOf (extraOffered extracted)) (readingOf time) cited List.mem_cons_self

end Layers

/-! ### Drafts of requests -/

section Requests

variable {clientTemplates : Bool} {c : Context} {orders : List (Named Expr)}

theorem rowsOffer (joined : c.joinLabels = true) (r : Rows) (p : Projection) :
    labelsColumn ∈ (r.draft p c orders).offers ∧ timestampColumn ∈ (r.draft p c orders).offers := by
  have others : ∀ name ∈ [labelsColumn, timestampColumn], name ∈ (r.others c.joinLabels).map (·.name) := by
    simp [Rows.others,joined,labelsEntry]
  have columns {name : Text} (other : name ∈ (r.others c.joinLabels).map (·.name)) :
      name ∈ (p.columns r.line (r.others c.joinLabels)).map (·.name) := by
    cases p <;> simp_all [Projection.columns]
  exact ⟨offersNamed (columns (others _ (by simp))) (by simp [labelsColumn]),
    offersNamed (columns (others _ (by simp))) (by simp [timestampColumn])⟩

theorem lineOffered (r : Rows) : lineColumn ∈ (r.draft .line c orders).offers :=
  offersNamed List.mem_cons_self (by simp [lineColumn])

theorem numberOffered (r : Rows) {p : Projection} (number : p ≠ .line) :
    unwrappedColumn ∈ (r.draft p c orders).offers := by
  refine offersNamed ?_ (by simp [unwrappedColumn])
  cases p with
  | line => contradiction
  | sample => simp [Rows.draft,Rows.body,Projection.columns]
  | number e => simp [Rows.draft,Rows.body,Projection.columns]

/-- Unwrapped rows name what rows name, and give a number. -/
theorem unwrappedCited {labelled : Bool} (reads : labelled = true) {u : Form.Unwrapped}
    {rows : Rows × Projection} (ok : Rows.ofUnwrapped clientTemplates u = .ok rows) :
    rows.1.Cited labelled ∧ rows.2.Cited (rows.1.own labelled) ∧ rows.2 ≠ .line := by
  have numbered {conv name : Text}
      (ok : (Rows.ofSource clientTemplates u.source).bind (Rows.number conv name) = .ok rows) :
      rows.1.Cited labelled ∧ rows.2.Cited (rows.1.own labelled) ∧ rows.2 ≠ .line := by
    obtain ⟨r,source,ok⟩ := bindOk ok
    unfold Rows.number at ok
    split at ok
    · contradiction
    · obtain ⟨e,converted,rfl⟩ := mapOk ok
      exact ⟨Rows.sourceCited source fun _ => reads,
        conversionCiting (.raw (r.labelCites reads name)) converted,nofun⟩
  unfold Rows.ofUnwrapped at ok
  split at ok
  · split at ok
    · obtain ⟨r,source,rfl⟩ := mapOk ok
      exact ⟨Rows.sourceCited source fun _ => reads,trivial,nofun⟩
    · contradiction
  · exact numbered ok
  · exact numbered ok

theorem rangeTabulated (joined : c.joinLabels = true) (ordered : ∀ o ∈ orders, Citing [] o.expr)
    {r : Form.Range} {d : Draft} (ok : rangeDraft clientTemplates c orders r = .ok d) :
    Tabulated d := by
  cases r with
  | log fn function s span =>
    obtain ⟨rows,source,rfl⟩ := mapOk ok
    have known : fn ∈ stems := by simp [stems,function]
    obtain ⟨labels,time⟩ := @rowsOffer c orders joined rows .line
    have cited : rows.Cited c.joinLabels := Rows.sourceCited source fun _ => joined
    exact (rowsChained (p := .line) cited trivial ordered).bucket known none labels time
      (logValueCites (nextBytes known) (readingOf (lineOffered rows)) fn c.duration)
  | unwrap fn function u =>
    obtain ⟨rows,unwrapped,rfl⟩ := mapOk ok
    have known : fn ∈ stems := by simp [stems,function]
    obtain ⟨labels,time⟩ := @rowsOffer c orders joined rows.1 rows.2
    obtain ⟨cited,number,projected⟩ := unwrappedCited joined unwrapped
    exact (rowsChained cited number ordered).bucket known _ labels time
      (unwrapValueCites (nextBytes known) (readingOf (numberOffered rows.1 projected))
        (readingOf time) fn c.duration)

theorem matrixTabulated (joined : c.joinLabels = true) (ordered : ∀ o ∈ orders, Citing [] o.expr)
    {m : Form.Matrix} {d : Draft} (ok : matrixDraft clientTemplates c orders m = .ok d) :
    Tabulated d := by
  cases m with
  | range r => exact rangeTabulated joined ordered ok
  | quantile fn function x u =>
    obtain ⟨rows,unwrapped,ok⟩ := bindOk ok
    obtain ⟨phi,_,rfl⟩ := mapOk ok
    have known : fn ∈ stems := by simp [stems,function]
    obtain ⟨labels,time⟩ := @rowsOffer c orders joined rows.1 rows.2
    obtain ⟨cited,number,projected⟩ := unwrappedCited joined unwrapped
    exact (rowsChained cited number ordered).bucket known _ labels time
      (quantileCites (nextBytes known) (readingOf (numberOffered rows.1 projected)) phi)
  | aggregate fn function g r =>
    obtain ⟨inner,range,rfl⟩ := mapOk ok
    exact (rangeTabulated joined ordered range).merge function _

theorem seriesTabulated (joined : c.joinLabels = true) {direction : Text} {m : Form.Matrix}
    {ranking : Option Form.Ranking} {threshold : Option Form.Threshold} {d : Draft}
    (ok : seriesDraft clientTemplates c direction m ranking threshold = .ok d) : Tabulated d := by
  obtain ⟨first,base,ok⟩ := bindOk ok
  obtain ⟨second,compared,ranked⟩ := bindOk ok
  exact ((matrixTabulated joined (byTimeCited direction) base).compare compared).rank ranked

theorem listingChained {r : Rows} {direction : Text} (cited : r.Cited c.joinLabels) :
    ∃ bodies : Bodies, 2 ≤ bodies.length ∧
      Chained ((r.draft .line c [byTime direction]).over "sel"
        (listingLayer direction c.joinLabels)) bodies := by
  have known : ("sel" : Text) ∈ stems := by simp [stems]
  have chained := rowsChained (p := .line) cited trivial (byTimeCited direction)
  generalize drafted : r.draft .line c [byTime direction] = d at chained ⊢
  have offered : ("fingerprint" : Text) ∈ d.offers := by
    refine offersNamed ?_ (by simp)
    simp [← drafted,Rows.draft,Rows.body,Projection.columns,Rows.others]
  have tables : ∀ j ∈ (listingLayer direction c.joinLabels (d.next "sel")).joins,
      j.table ≠ .cell samplesCell := by
    intro j mem
    simp only [listingLayer] at mem
    split at mem
    · contradiction
    · simp [List.mem_singleton.mp mem,labelsJoin]
  let columns := (columnOf (d.next "sel") "*" :: d.reading "sel") ++
    if c.joinLabels then [] else streamColumns
  have layer : (listingLayer direction c.joinLabels (d.next "sel")).Cited columns := by
    refine listingCited (nextBytes known) direction (fun _ => ⟨?_,?_⟩) (fun apart => ⟨?_,?_⟩) ?_
    · exact List.mem_append_left _ (List.mem_cons_of_mem _ (readingOf offered))
    · exact List.mem_append_left _ List.mem_cons_self
    · simp [columns,apart,streamColumns]
    · simp [columns,apart,streamColumns]
    · simp [columns,Draft.reading]
  refine ⟨d.behind "sel" _,?_,chained.over known tables layer (fun w mem => ?_) ?_⟩
  · simp [Draft.behind]
  · rcases List.mem_append.mp mem with source | stream
    · exact readingResolves tables w source
    · split at stream
      · contradiction
      · rename_i apart
        have selected : (streamSelection, r.selection c.legacy) ∈
            d.behind "sel" [(streamSelection, r.selection c.legacy)] := by simp [Draft.behind]
        refine streamResolves selected (.inr ?_) w stream
        exact ⟨labelsJoin (d.next "sel"),by simp [Layer.body,listingLayer,apart],rfl⟩
  · cases c.joinLabels <;> simp [listingLayer,aliases,labelsEntry,labelsColumn]

/-- Rows whose stages read labels are joined with them. -/
theorem rowsLabelled {s : Form.Source} (reads : s.stages.any readsLabels = true) :
    (Form.rows s).node.hasAny labelConstructs = true := by
  obtain ⟨stage,mem,reading⟩ := List.any_eq_true.mp reads
  have found := Node.findBelow (Form.stageBelow mem)
  refine List.any_eq_true.mpr ⟨stage.node.kind,?_,found⟩
  cases stage <;> simp [readsLabels,Form.Stage.node,labelConstructs] at reading ⊢

theorem matrixLabelled (m : Form.Matrix) (ranking : Option Form.Ranking)
    (threshold : Option Form.Threshold) :
    (Form.matrix m ranking threshold).node.hasAny labelConstructs = true := by
  refine List.any_eq_true.mpr ⟨Kind.aggStatement,by simp [labelConstructs],?_⟩
  rw [Form.matrixStatement]
  rfl

/-- A compiled query is a chain with its cells bound, and a matrix has the shape of one. -/
theorem compiledChained {e : Engine} (full : e.registry = Registry.full clientTemplates) {r : Request}
    {compiled : Compiled} (ok : e.compile r = .ok compiled) :
    ∃ request window draft bodies, compiled = e.result request window draft ∧
      2 ≤ bodies.length ∧ Chained draft bodies ∧
      (compiled.matrix = true → Tabular draft.select) := by
  obtain ⟨text,_,source⟩ := compileSource full ok
  cases source with
  | @rows s w d read supported drafted =>
    obtain ⟨matrix,labels,_⟩ := supportedContext supported
    obtain ⟨rows,source,rfl⟩ := mapOk drafted
    have cited : rows.Cited w.context.joinLabels :=
      Rows.sourceCited source fun reads => labels.trans (rowsLabelled reads)
    obtain ⟨bodies,two,chained⟩ := listingChained cited
    refine ⟨_,w,_,bodies,rfl,two,chained,fun tabular => ?_⟩
    rw [Form.classifyRows] at matrix
    exact absurd tabular (by simp [Engine.result,matrix])
  | @matrix m ranking threshold w d read supported drafted =>
    obtain ⟨_,labels,_⟩ := supportedContext supported
    have joined := labels.trans (matrixLabelled m ranking threshold)
    obtain ⟨bodies,two,chained,tabular⟩ := seriesTabulated joined drafted
    exact ⟨_,w,d,bodies,rfl,two,chained,fun _ => tabular⟩

/-- Every statement that a request compiles to is a chain, whose second statement alone reads the
samples of the request's window. -/
theorem requestsChain {e : Engine} (full : e.registry = Registry.full clientTemplates) {r : Request}
    {compiled : Compiled} (ok : e.compile r = .ok compiled) :
    ∃ bodies : Bodies, 2 ≤ bodies.length ∧ Chain compiled.select bodies ∧
      ∃ start, compiled.bindings.get? samplesCell = some (.verbatim (e.policy.tableFor start)) := by
  obtain ⟨request,window,draft,bodies,rfl,two,chained,_⟩ := compiledChained full ok
  refine ⟨bodies,two,?_,window.start,(resultCells chained.declared).1⟩
  rw [resultSelect]
  exact chained.chain

/-- A ranking of compared sums whose step is longer than their buckets. -/
def rankedRates : Request :=
  { query := "topk(2, sum by (app) (rate(\x7bapp=\"api\"\x7d | json [1m]))) > 1", step := "120" }

theorem rankedRatesChain : ∃ compiled bodies,
    ({ registry := .full true } : Engine).compile rankedRates = .ok compiled ∧
      bodies.length = 7 ∧ Chain compiled.select bodies := by
  obtain ⟨compiled,ok,run⟩ := okAny
    (show (({ registry := .full true } : Engine).compile rankedRates).toOption.any
      (fun compiled => compiled.select.withs.length = 7) = true by decide +kernel)
  obtain ⟨bodies,_,chain,_⟩ := requestsChain rfl ok
  have length : compiled.select.withs.length = bodies.length := by
    rw [chain.withs,List.length_map]
  exact ⟨compiled,bodies,ok,length.symm.trans (by simpa using run),chain⟩

end Requests
end LogSql.Compile
