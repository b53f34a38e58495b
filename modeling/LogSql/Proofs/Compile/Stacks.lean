import LogSql.Proofs.Compile.Chain

/-! Stacks of layers. The draft of a matrix is the draft of its rows under a list of layers, and this
list depends on the selector and the pipeline of the query only by whether labels were extracted. -/
namespace LogSql.Compile

open Query
open Sql (Expr Select SelectOf Named)

/-- Layers with the stems of the names that they read from. -/
abbrev Layers := List (Text × (Text → Layer))

/-- The draft under a layer; what is ordered there has no order below it. -/
def Draft.under (d : Draft) (l : Text × (Text → Layer)) : Draft := (d.orderBy []).over l.1 l.2

/-- The draft under layers, the first of them next to it. -/
def Draft.stack (d : Draft) (layers : Layers) : Draft := layers.foldl Draft.under d

/-! ### The layers of matrices -/

/-- The layer of a step that is longer than the buckets. -/
def stepLayers (c : Context) : Layers :=
  if c.step ≤ c.duration then [] else [("step", stepLayer c.step)]

/-- The layers that put rows into buckets. -/
def bucketLayers (c : Context) (extra : Bool) (stem : Text) (value : Text → Text)
    (clause : Option Node) : Layers :=
  (stem, bucketLayer extra clause c.duration value) :: stepLayers c

/-- The layers of a range. -/
def rangeLayers (c : Context) (extra : Bool) : Form.Range → Layers
  | .log fn _ _ _ => bucketLayers c extra fn (logValue fn c.duration) none
  | .unwrap fn _ u => bucketLayers c extra fn (unwrapValue fn c.duration) (unwrapClause u)

/-- The layers of a matrix. -/
def matrixLayers (c : Context) (extra : Bool) : Form.Matrix → Except Error Layers
  | .range r => .ok (rangeLayers c extra r)
  | .quantile fn _ x u =>
    (readQuantile x.text).map fun phi =>
      bucketLayers c extra fn (quantileValue phi) (unwrapClause u)
  | .aggregate fn _ g r =>
    .ok (rangeLayers c extra r ++
      ([("agg", mergeLayer (seriesAggregate fn) (g.map (Form.Grouping.node Kind.optByWithout)))] :
        Layers))

/-- The layer of a comparison. -/
def thresholdLayers : Option Form.Threshold → Except Error Layers
  | none => .ok []
  | some t =>
    (number t.bound.text).map fun want =>
      [("cmp", thresholdLayer (if t.operator = ("==" : Text) then "=" else t.operator) want t.marked)]

/-- The layers of a ranking. -/
def rankingLayers : Option Form.Ranking → Except Error Layers
  | none => .ok []
  | some r =>
    (number r.param.text).bind fun k =>
      if isRank k then
        .ok [(r.fn, topLayer (if r.fn = ("topk" : Text) then "arrayReverseSort" else "arraySort")
          k.toInt64), (r.fn, spreadLayer)]
      else .error (.notPositive r.fn)

/-- The layers of a matrix with its modifiers. -/
def seriesLayers (c : Context) (extra : Bool) (m : Form.Matrix) (ranking : Option Form.Ranking)
    (threshold : Option Form.Threshold) : Except Error Layers := do
  let first ← matrixLayers c extra m
  let compared ← thresholdLayers threshold
  let ranked ← rankingLayers ranking
  return first ++ compared ++ ranked

/-- The rows of a range and what is read from them. -/
def rangeRows (clientTemplates : Bool) : Form.Range → Except Error (Rows × Projection)
  | .log _ _ s _ => (Rows.ofSource clientTemplates s).map fun r => (r, .line)
  | .unwrap _ _ u => Rows.ofUnwrapped clientTemplates u

/-- The rows of a matrix and what is read from them. -/
def matrixRows (clientTemplates : Bool) : Form.Matrix → Except Error (Rows × Projection)
  | .range r => rangeRows clientTemplates r
  | .quantile _ _ _ u => Rows.ofUnwrapped clientTemplates u
  | .aggregate _ _ _ r => rangeRows clientTemplates r

/-- The draft that layers stand on: all rows in no order. -/
def groundDraft (c : Context) (rows : Rows × Projection) : Draft :=
  (projectedDraft c [] rows).setLimit none

/-! ### Drafts as stacks -/

section Stacks

variable {clientTemplates : Bool} {c : Context} {orders : List (Named Expr)} {d : Draft}

theorem stackAppend (d : Draft) (first second : Layers) :
    d.stack (first ++ second) = (d.stack first).stack second := List.foldl_append

theorem stepStacked (d : Draft) : applyStep d = d.stack (stepLayers d.context) := by
  rw [stepLayered,stepLayers]
  split <;> rfl

theorem bucketStacked (stem : Text) (value : Text → Text) (clause : Option Node)
    (rows : Rows × Projection) :
    bucket stem value clause (projectedDraft c orders rows) =
      (groundDraft c rows).stack (bucketLayers c rows.1.extra.isSome stem value clause) := by
  rw [bucketLayered,stepStacked,projectedDraft,Rows.draftHasExtra]
  rfl

theorem rangeStacked {r : Form.Range} (ok : rangeDraft clientTemplates c orders r = .ok d) :
    ∃ rows, rangeRows clientTemplates r = .ok rows ∧
      d = (groundDraft c rows).stack (rangeLayers c rows.1.extra.isSome r) := by
  cases r with
  | log fn known s span =>
    obtain ⟨rows,source,rfl⟩ := mapOk ok
    exact ⟨(rows, .line),by rw [rangeRows,source]; rfl,bucketStacked fn _ none (rows, .line)⟩
  | unwrap fn known u =>
    obtain ⟨rows,source,rfl⟩ := mapOk ok
    exact ⟨rows,source,bucketStacked fn _ _ rows⟩

theorem matrixStacked {m : Form.Matrix} (ok : matrixDraft clientTemplates c orders m = .ok d) :
    ∃ rows layers, matrixRows clientTemplates m = .ok rows ∧
      matrixLayers c rows.1.extra.isSome m = .ok layers ∧ d = (groundDraft c rows).stack layers := by
  cases m with
  | range r =>
    obtain ⟨rows,source,rfl⟩ := rangeStacked ok
    exact ⟨rows,_,source,rfl,rfl⟩
  | quantile fn known x u =>
    obtain ⟨rows,source,ok⟩ := bindOk ok
    obtain ⟨phi,quantile,rfl⟩ := mapOk ok
    exact ⟨rows,_,source,by rw [matrixLayers,quantile]; rfl,bucketStacked fn _ _ rows⟩
  | aggregate fn known g r =>
    obtain ⟨inner,range,rfl⟩ := mapOk ok
    obtain ⟨rows,source,rfl⟩ := rangeStacked range
    exact ⟨rows,_,source,rfl,by rw [stackAppend]; rfl⟩

theorem compareStacked {threshold : Option Form.Threshold} {next : Draft}
    (ok : compareDraft d threshold = .ok next) :
    ∃ layers, thresholdLayers threshold = .ok layers ∧ next = d.stack layers := by
  cases threshold with
  | none =>
    cases ok
    exact ⟨[],rfl,rfl⟩
  | some t =>
    obtain ⟨want,read,rfl⟩ := mapOk ok
    exact ⟨_,by rw [thresholdLayers,read]; rfl,rfl⟩

theorem rankStacked {ranking : Option Form.Ranking} {next : Draft}
    (ok : rankDraft d ranking = .ok next) :
    ∃ layers, rankingLayers ranking = .ok layers ∧ next = d.stack layers := by
  cases ranking with
  | none =>
    cases ok
    exact ⟨[],rfl,rfl⟩
  | some r =>
    obtain ⟨k,read,ok⟩ := bindOk ok
    split at ok
    · rename_i whole
      cases ok
      exact ⟨_,by rw [rankingLayers,read]; exact if_pos whole,rfl⟩
    · contradiction

/-- The draft of a matrix is its rows under its layers. -/
theorem seriesStacked {direction : Text} {m : Form.Matrix} {ranking : Option Form.Ranking}
    {threshold : Option Form.Threshold}
    (ok : seriesDraft clientTemplates c direction m ranking threshold = .ok d) :
    ∃ rows layers, matrixRows clientTemplates m = .ok rows ∧
      seriesLayers c rows.1.extra.isSome m ranking threshold = .ok layers ∧
      d = (groundDraft c rows).stack layers := by
  obtain ⟨first,base,ok⟩ := bindOk ok
  obtain ⟨second,compared,ranked⟩ := bindOk ok
  obtain ⟨rows,layers,source,known,rfl⟩ := matrixStacked base
  obtain ⟨tests,tested,rfl⟩ := compareStacked compared
  obtain ⟨ranks,sorted,rfl⟩ := rankStacked ranked
  refine ⟨rows,layers ++ tests ++ ranks,source,?_,by rw [stackAppend,stackAppend]⟩
  rw [seriesLayers,known,tested,sorted]
  rfl

/-! ### What layers leave alone -/

/-- The lowest layer of a matrix puts rows into buckets. -/
theorem seriesBuckets {extra : Bool} {m : Form.Matrix} {ranking : Option Form.Ranking}
    {threshold : Option Form.Threshold} {layers : Layers}
    (ok : seriesLayers c extra m ranking threshold = .ok layers) :
    ∃ stem clause value rest,
      layers = (stem, bucketLayer extra clause c.duration value) :: rest := by
  obtain ⟨first,matrix,ok⟩ := bindOk ok
  obtain ⟨tests,_,ok⟩ := bindOk ok
  obtain ⟨ranks,_,ok⟩ := bindOk ok
  cases ok
  cases m with
  | range r =>
    cases matrix
    cases r <;> exact ⟨_,_,_,_,rfl⟩
  | quantile fn known x u =>
    obtain ⟨phi,_,rfl⟩ := mapOk matrix
    exact ⟨_,_,_,_,rfl⟩
  | aggregate fn known g r =>
    cases matrix
    cases r <;> exact ⟨_,_,_,_,rfl⟩

theorem seriesSome {extra : Bool} {m : Form.Matrix} {ranking : Option Form.Ranking}
    {threshold : Option Form.Threshold} {layers : Layers}
    (ok : seriesLayers c extra m ranking threshold = .ok layers) : layers ≠ [] := by
  obtain ⟨stem,clause,value,rest,rfl⟩ := seriesBuckets ok
  simp

theorem overWiths (d : Draft) (stem : Text) (l : Text → Layer) :
    (d.over stem l).select.withs = d.select.withs ++ [⟨.query (bare d.select),d.next stem⟩] := rfl

theorem stackParams (d : Draft) (layers : Layers) :
    (d.stack layers).select.params = d.select.params := by
  induction layers generalizing d with
  | nil => rfl
  | cons l layers ih => exact ih _

theorem stackBindings (d : Draft) (layers : Layers) : (d.stack layers).bindings = d.bindings := by
  induction layers generalizing d with
  | nil => rfl
  | cons l layers ih => exact ih _

theorem stackHooks (d : Draft) (layers : Layers) : (d.stack layers).hooks = d.hooks := by
  induction layers generalizing d with
  | nil => rfl
  | cons l layers ih => exact ih _

/-- Drafts that differ in their common table expressions only. -/
structure Draft.Twin (d d' : Draft) : Prop where
  bare : bare d.select = bare d'.select
  context : d.context = d'.context

theorem overTwin {d' : Draft} (context : d.context = d'.context)
    (params : d.select.params = d'.select.params) (stem : Text) (l : Text → Layer) :
    (d.over stem l).Twin (d'.over stem l) := by
  constructor
  · simp only [bare,Draft.over,context,params]
  · simp only [Draft.over,context]

/-- The same layers add the same common table expressions to twins. -/
theorem stackTwin {d' : Draft} (twin : d.Twin d') (layers : Layers) :
    (d.stack layers).Twin (d'.stack layers) ∧
      ∃ more, (d.stack layers).select.withs = d.select.withs ++ more ∧
        (d'.stack layers).select.withs = d'.select.withs ++ more := by
  induction layers generalizing d d' with
  | nil => exact ⟨twin,[],(List.append_nil _).symm,(List.append_nil _).symm⟩
  | cons l layers ih =>
    have params := congrArg SelectOf.params twin.bare
    change d.select.params = d'.select.params at params
    have context : (d.orderBy []).context = (d'.orderBy []).context := twin.context
    have next : (d.under l).Twin (d'.under l) := overTwin context params l.1 l.2
    have body : bare (d.orderBy []).select = bare (d'.orderBy []).select :=
      congrArg (fun s : Select => { s with orders := [] }) twin.bare
    have name : (d.orderBy []).next l.1 = (d'.orderBy []).next l.1 := by
      simp only [Draft.next,Draft.orderBy,Draft.mapSelect,twin.context]
    obtain ⟨last,more,left,right⟩ := ih next
    refine ⟨last,⟨.query (bare (d.orderBy []).select),(d.orderBy []).next l.1⟩ :: more,left.trans ?_,
      right.trans ?_⟩
    · rw [Draft.under,overWiths,List.append_assoc]
      rfl
    · rw [Draft.under,overWiths,List.append_assoc,body,name]
      rfl

theorem stackKeeps (d : Draft) (layers : Layers) : d.select.withs <+: (d.stack layers).select.withs := by
  induction layers generalizing d with
  | nil => exact List.prefix_rfl
  | cons l layers ih => exact (List.prefix_append _ _).trans (ih (d.under l))

/-- Under some layers the ground is a common table expression of its own. -/
theorem stackWiths {layers : Layers} (some : layers ≠ []) (d : Draft) :
    ∃ name, d.select.withs ++ [⟨.query { d.select with withs := [], orders := [] },name⟩] <+:
      (d.stack layers).select.withs := by
  cases layers with
  | nil => contradiction
  | cons l layers => exact ⟨_,stackKeeps (d.under l) layers⟩

end Stacks

end LogSql.Compile
