import LogSql.Proofs.Compile.Window

/-! Buckets at the bounds of a window. A matrix reads the samples between two bounds, both included, and
groups them by their time in milliseconds divided by its range. The bounds are whole buckets away from
each other, so the one past the end is admitted by its first instant alone; division towards zero turns
this around before the epoch, where it is the bucket in front of the start, and makes the bucket around
the epoch reach to both sides. All other buckets are whole. -/
namespace LogSql.Compile

open Query
open Sql (Expr Select SelectOf Named)
open Int64Range (fits least greatest)
open Duration (longest)

/-! ### Instants and their buckets -/

/-- The bucket of an instant in nanoseconds, for buckets of some milliseconds. -/
def bucketAt (d t : Int) : Int := (t.tdiv 1000000).tdiv d

theorem timesLess {d k l : Int} (positive : 0 < d) (less : k < l) : k * d + d ≤ l * d := by
  have next := Int.mul_le_mul_of_nonneg_right (Int.add_one_le_of_lt less) (Int.le_of_lt positive)
  rwa [Int.add_mul,Int.one_mul] at next

/-- The sign of a bucket is that of its bounds. -/
theorem timesSign {d : Int} (positive : 0 < d) (k : Int) :
    (0 < k → d ≤ k * d) ∧ (k < 0 → k * d ≤ -d) ∧ (k = 0 → k * d = 0) := by
  refine ⟨fun above => ?_,fun below => ?_,fun zero => by rw [zero,Int.zero_mul]⟩
  · have far := timesLess positive above
    omega
  · have far := timesLess positive below
    omega

/-- The instants of a bucket. Division towards zero makes the one around zero twice as wide. -/
def Span (d k t : Int) : Prop :=
  (0 < k → k * d * 1000000 ≤ t ∧ t < (k * d + d) * 1000000) ∧
  (k < 0 → (k * d - d) * 1000000 < t ∧ t ≤ k * d * 1000000) ∧
  (k = 0 → -d * 1000000 < t ∧ t < d * 1000000)

theorem spanBucket {d : Int} (positive : 0 < d) (t : Int) : Span d (bucketAt d t) t := by
  unfold Span bucketAt
  obtain ⟨whole,high,low,above,below⟩ := tdivRest t (d := 1000000) (by omega)
  obtain ⟨whole',high',low',above',below'⟩ := tdivRest (t.tdiv 1000000) positive
  obtain ⟨up,down,zero⟩ := timesSign positive ((t.tdiv 1000000).tdiv d)
  refine ⟨fun h => ?_,fun h => ?_,fun h => ?_⟩
  · have := up h
    omega
  · have := down h
    omega
  · have := zero h
    omega

theorem spanUnique {d k l t : Int} (positive : 0 < d) (first : Span d k t) (second : Span d l t) :
    k = l := by
  obtain ⟨up,down,zero⟩ := timesSign positive k
  obtain ⟨up',down',zero'⟩ := timesSign positive l
  unfold Span at first second
  rcases Int.lt_trichotomy k l with less | same | more
  · have apart := timesLess positive less
    omega
  · exact same
  · have apart := timesLess positive more
    omega

theorem bucketIff {d k t : Int} (positive : 0 < d) : bucketAt d t = k ↔ Span d k t :=
  ⟨fun same => same ▸ spanBucket positive t,fun span => spanUnique positive (spanBucket positive t) span⟩


theorem multiplesApart {d x y : Int} (first : d ∣ x) (second : d ∣ y) :
    x = y ∨ x + d ≤ y ∨ y + d ≤ x := by
  rcases Int.lt_trichotomy x y with less | same | more
  · have rest := Int.le_of_dvd (by omega) (Int.dvd_sub second first)
    omega
  · exact .inl same
  · have rest := Int.le_of_dvd (by omega) (Int.dvd_sub first second)
    omega

/-- Instants between two bounds, both of them included. -/
def Admits (start stop t : Int) : Prop := start ≤ t ∧ t ≤ stop

/-- The instants whose bucket is cut by the bounds. -/
def Torn (start stop d t : Int) : Prop :=
  0 < bucketAt d t ∧ t = stop ∨ bucketAt d t < 0 ∧ t = start ∨
    bucketAt d t = 0 ∧ (0 ≤ start ∨ stop ≤ 0)

section Torn

variable {d a b t : Int} (positive : 0 < d) (low : d ∣ a) (high : d ∣ b)
  (admits : Admits (a * 1000000) (b * 1000000) t)
include positive low high admits

theorem tornCut (torn : Torn (a * 1000000) (b * 1000000) d t) (inside : fits t = true) :
    ∃ other, fits other = true ∧ bucketAt d other = bucketAt d t ∧
      ¬ Admits (a * 1000000) (b * 1000000) other := by
  have span := spanBucket positive t
  have multiple : d ∣ bucketAt d t * d := Int.dvd_mul_left _ _
  have first := multiplesApart multiple low
  have last := multiplesApart multiple high
  rw [Int64Range.fitsRange,least,greatest] at inside
  unfold Admits at admits ⊢
  rcases torn with ⟨later,atStop⟩ | ⟨earlier,atStart⟩ | ⟨zero,outside⟩
  · refine ⟨t + 1,Int64Range.fitsRange.mpr (by unfold least greatest; omega),
      (bucketIff positive).mpr ?_,by omega⟩
    unfold Span at span ⊢
    omega
  · refine ⟨t - 1,Int64Range.fitsRange.mpr (by unfold least greatest; omega),
      (bucketIff positive).mpr ?_,by omega⟩
    unfold Span at span ⊢
    omega
  · rcases outside with start | stop
    · refine ⟨-1,by decide,(bucketIff positive).mpr ?_,by omega⟩
      unfold Span
      omega
    · refine ⟨1,by decide,(bucketIff positive).mpr ?_,by omega⟩
      unfold Span
      omega

theorem wholeKept (whole : ¬ Torn (a * 1000000) (b * 1000000) d t) {other : Int}
    (same : bucketAt d other = bucketAt d t) : Admits (a * 1000000) (b * 1000000) other := by
  obtain ⟨up,down,middle⟩ := spanBucket positive t
  obtain ⟨up',down',middle'⟩ := (bucketIff positive).mp same
  have multiple : d ∣ bucketAt d t * d := Int.dvd_mul_left _ _
  have first := multiplesApart multiple low
  have last := multiplesApart multiple high
  unfold Admits at admits ⊢
  rcases Int.lt_trichotomy (bucketAt d t) 0 with below | zero | above
  · have apart : t ≠ a * 1000000 := fun start => whole (.inr (.inl ⟨below,start⟩))
    specialize down below
    specialize down' below
    clear up up' middle middle'
    omega
  · have started := multiplesApart low (Int.dvd_zero d)
    have ended := multiplesApart high (Int.dvd_zero d)
    have around : ¬ (0 ≤ a * 1000000 ∨ b * 1000000 ≤ 0) :=
      fun outside => whole (.inr (.inr ⟨zero,outside⟩))
    specialize middle zero
    specialize middle' zero
    clear up up' down down' first last
    omega
  · have apart : t ≠ b * 1000000 := fun stop => whole (.inl ⟨above,stop⟩)
    specialize up above
    specialize up' above
    clear down down' middle middle'
    omega

end Torn

/-! ### What is written -/

/-- The statement behind the first common table expressions of a statement. -/
inductive Behind (s : Select) (n : Nat) : Select → Prop where
  | inner {q : Select} {name : Text} (found : s.withs[n]? = some ⟨.query q,name⟩) : Behind s n q
  | outer (last : s.withs.length = n) : Behind s n (bare s)

/-- A matrix that reads rows between two bounds of nanoseconds and groups them by their buckets. -/
structure Bucketed (compiled : Compiled) (start stop : Int) (rows : SelectOf Text) (name : Text)
    (grouped : Select) : Prop where
  written : (Expr.selectTexts compiled.bindings.view compiled.select).withs[1]? = some ⟨rows.text,name⟩
  window : ∃ low high, Numeral low start ∧ Numeral high stop ∧ rows.filters.head? =
    some (.concat ["samples.timestamp_ns BETWEEN ", low, " AND ", high])
  time : rows.columns.filter (fun c => c.name = timestampColumn) =
    [⟨"intDiv(samples.timestamp_ns, 1000000)",timestampColumn⟩]
  place : Behind compiled.select 2 grouped
  source : grouped.source = some (.raw name)
  cut : ⟨.raw (cutTime name compiled.duration),timestampColumn⟩ ∈ grouped.columns
  groups : grouped.groups = [.raw labelsColumn, .raw timestampColumn]

theorem stackTop (d : Draft) (layers : Layers) : ∃ grouped,
    Behind (d.stack layers).select d.select.withs.length grouped ∧ grouped.columns = d.select.columns ∧
      grouped.source = d.select.source ∧ grouped.groups = d.select.groups := by
  cases layers with
  | nil => exact ⟨bare d.select,.outer rfl,rfl,rfl,rfl⟩
  | cons l layers =>
    obtain ⟨more,kept⟩ := stackKeeps (d.under l) layers
    have under : (d.under l).select.withs =
      d.select.withs ++ [⟨.query (bare (d.orderBy []).select),(d.orderBy []).next l.1⟩] := rfl
    have found : ((d.under l).stack layers).select.withs[d.select.withs.length]? =
        some ⟨.query (bare (d.orderBy []).select),(d.orderBy []).next l.1⟩ := by
      rw [← kept,under]
      simp
    exact ⟨_,.inner found,rfl,rfl,rfl⟩

section Requests

variable {e : Engine} {clientTemplates : Bool} {r : Request} {w : Engine.Window} {d : Draft}

theorem windowSpelled (start stop : Int) : windowText start stop =
    .concat ["samples.timestamp_ns BETWEEN ", nanosText start, " AND ", nanosText stop] := by
  have joined : Text.ofString "000000 AND " = Text.ofString "000000" ++ Text.ofString " AND " := by
    decide
  simp [windowText,nanosText,Text.concat,joined]

theorem resultLength {root : Node} (window : e.supported r root = .ok w)
    (matrix : w.context.matrix = true) (d : Draft) :
    (e.result r w d).duration = w.context.duration ∧ 0 < w.context.duration ∧
      w.context.duration ≤ longest := by
  obtain ⟨_,⟨_,_,rows⟩ | ⟨t,read,_,_,_⟩⟩ := windowRead window
  · simp [matrix] at rows
  · have positive := durationPositive read
    exact ⟨by simp [Engine.result,matrix,positive],positive,durationLongest read⟩

theorem seriesBucketed {m : Form.Matrix} {ranking : Option Form.Ranking}
    {threshold : Option Form.Threshold}
    (window : e.supported r (Form.matrix m ranking threshold).node = .ok w)
    (drafted : seriesDraft clientTemplates w.context r.direction m ranking threshold = .ok d) :
    ∃ rows name grouped, Bucketed (e.result r w d) (e.readsFrom r (e.result r w d) * 1000000)
      (e.readsTo r (e.result r w d) * 1000000) rows name grouped := by
  obtain ⟨rows,layers,_,known,stacked⟩ := seriesStacked drafted
  obtain ⟨stem,clause,value,rest,rfl⟩ := seriesBuckets known
  let ground := groundDraft w.context rows
  let lowest := (stem,bucketLayer rows.1.extra.isSome clause w.context.duration value)
  let name := (ground.orderBy []).next stem
  have stacked : d = (ground.under lowest).stack rest := stacked
  obtain ⟨more,withs⟩ := stackKeeps (ground.under lowest) rest
  obtain ⟨grouped,place,columns,source,groups⟩ := stackTop (ground.under lowest) rest
  rw [← stacked] at withs place
  have declared : d.select.params = baseCells := by
    rw [stacked,stackParams]
    rfl
  have matrix : w.context.matrix = true := by
    rw [(supportedContext window).1,Form.classifyMatrix]
    rfl
  obtain ⟨length,_,_⟩ := resultLength window matrix d
  obtain ⟨streams,written,others,reached⟩ : ∃ streams written others,
      Reached e r (e.result r w d) streams written name others :=
    rowsReached window declared withs.symm fun listed => by simp [matrix] at listed
  refine ⟨written,name,grouped,?_,⟨_,_,nanosNumeral _,nanosNumeral _,?_⟩,?_,?_,source,?_,groups⟩
  · rw [reached.withs]
    rfl
  · rw [reached.second.window,windowSpelled]
  · rw [reached.second.time]
    simp [Engine.result,Engine.bound,matrix,timeText]
  · rw [resultSelect]
    exact place
  · rw [columns,length]
    simp [ground,lowest,Draft.under,Draft.over,Layer.body,bucketLayer,matrixEntries,name,Draft.next]

theorem bucketsTorn {compiled : Compiled} (matrix : compiled.matrix = true)
    (positive : 0 < compiled.duration) (short : compiled.duration ≤ longest)
    (start : fits r.start = true) (stop : fits r.stop = true) (now : fits e.now = true) {t : Int}
    (inside : fits t = true)
    (admits : Admits (e.readsFrom r compiled * 1000000) (e.readsTo r compiled * 1000000) t) :
    (∀ other, fits other = true → bucketAt compiled.duration other = bucketAt compiled.duration t →
        Admits (e.readsFrom r compiled * 1000000) (e.readsTo r compiled * 1000000) other) ↔
      ¬ Torn (e.readsFrom r compiled * 1000000) (e.readsTo r compiled * 1000000)
        compiled.duration t := by
  have bounds := Int64Range.fitsRange.mp inside
  have low : compiled.duration ∣ e.readsFrom r compiled := by
    rcases floorAligned (openingFits (e := e) start) positive short with aligned | beyond
    · simpa only [Engine.readsFrom,matrix,if_true] using aligned
    · have first := admits.1
      simp only [Engine.readsFrom,matrix,if_true] at first
      omega
  have high : compiled.duration ∣ e.readsTo r compiled := by
    rcases ceilAligned (closingFits stop now) positive short with aligned | beyond
    · simpa only [Engine.readsTo,matrix,if_true] using aligned
    · have last := admits.2
      simp only [Engine.readsTo,matrix,if_true] at last
      omega
  constructor
  · intro whole torn
    obtain ⟨other,fitting,same,outside⟩ := tornCut positive low high admits torn inside
    exact outside (whole other fitting same)
  · exact fun whole other _ same => wholeKept positive low high admits whole same

/-- Whatever the layers above, a matrix reads its rows between two bounds and groups them by bucket, and
of the buckets that an admitted sample falls into just those at the bounds are not read as a whole. -/
theorem bucketsRead (full : e.registry = Registry.full clientTemplates) (start : fits r.start = true)
    (stop : fits r.stop = true) (now : fits e.now = true) {compiled : Compiled}
    (ok : e.compile r = .ok compiled) (matrix : compiled.matrix = true) :
    ∃ low high rows name grouped, low = e.readsFrom r compiled * 1000000 ∧
      high = e.readsTo r compiled * 1000000 ∧ Bucketed compiled low high rows name grouped ∧
      ∀ t, fits t = true → Admits low high t →
        ((∀ other, fits other = true →
            bucketAt compiled.duration other = bucketAt compiled.duration t → Admits low high other) ↔
          ¬ Torn low high compiled.duration t) := by
  obtain ⟨text,_,source⟩ := compileSource full ok
  cases source with
  | rows read window drafted =>
    -- Rows that are listed are no matrix.
    have listed := (supportedContext window).1
    rw [Form.classifyRows] at listed
    exact absurd (matrix.symm.trans listed) (by simp)
  | matrix read window drafted =>
    obtain ⟨rows,name,grouped,bucketed⟩ := seriesBucketed window drafted
    obtain ⟨length,positive,short⟩ := resultLength window matrix _
    refine ⟨_,_,rows,name,grouped,rfl,rfl,bucketed,fun t inside admits => ?_⟩
    exact bucketsTorn matrix (length ▸ positive) (length ▸ short) start stop now inside admits

end Requests

def hourCount : Request :=
  { query := "count_over_time(\x7bapp=\"api\"\x7d [1m])", start := 1714561200000, stop := 1714564800000 }

/-- A full hour of minutes admits one instant of a further minute. -/
theorem hourTorn : ∃ compiled low high rows name grouped,
    ({ registry := .full true } : Engine).compile hourCount = .ok compiled ∧
      Bucketed compiled low high rows name grouped ∧ Admits low high high ∧
      ∃ other, fits other = true ∧
        bucketAt compiled.duration other = bucketAt compiled.duration high ∧
        ¬ Admits low high other := by
  obtain ⟨compiled,ok,run⟩ := okAny
    (show (({ registry := .full true } : Engine).compile hourCount).toOption.any
      (fun compiled => compiled.matrix && compiled.duration = 60000) = true by decide +kernel)
  simp only [Bool.and_eq_true,decide_eq_true_eq] at run
  obtain ⟨matrix,duration⟩ := run
  obtain ⟨low,high,rows,name,grouped,first,last,bucketed,whole⟩ :=
    bucketsRead rfl (by decide) (by decide) (by decide) ok matrix
  rw [Engine.readsFrom,matrix,duration] at first
  rw [Engine.readsTo,matrix,duration] at last
  have start : low = 1714561200000000000 := first.trans (by decide)
  have stop : high = 1714564800000000000 := last.trans (by decide)
  have admits : Admits low high high := by
    unfold Admits
    omega
  have torn : Torn low high compiled.duration high := by
    rw [duration,stop]
    exact .inl ⟨by decide,rfl⟩
  have cut := (not_congr (whole high (by rw [stop]; decide) admits)).mpr (not_not_intro torn)
  simp only [Classical.not_forall] at cut
  obtain ⟨other,inside,same,outside⟩ := cut
  exact ⟨compiled,low,high,rows,name,grouped,ok,bucketed,admits,other,inside,same,outside⟩

end LogSql.Compile
