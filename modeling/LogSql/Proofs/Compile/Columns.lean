import Mathlib.Data.List.Nodup
import LogSql.Proofs.Compile.Statements

/-! The columns of compiled statements. Whatever a statement of a chain mentions in its text is no
column of a common table expression, or a column that this one projects; what the rows name without a
table they project themselves. -/
namespace LogSql.Compile

open Query
open Sql (Select Mentions Neutral)

/-- Whether the text of a statement mentions a word in one of its expressions. -/
def Mentioned (v : Sql.CellView) (s : Select) (w : Text) : Prop :=
  ∃ e ∈ s.parts, w ∈ Sql.words (e.text v)

/-- Statements of a chain whose columns are all there. -/
structure Referenced (v : Sql.CellView) (bodies : Bodies) (s : Select) : Prop where
  /-- A column of a common table expression is named only where it is read, and projected there. -/
  qualified : ∀ w, Mentioned v s w → ∀ name column body, Text.cut "." w = some (name, column) →
    (name, body) ∈ bodies →
      Reads s (.raw name) ∧ column ∈ ("*" : Text) :: body.columns.map columnName
  /-- The rows project the columns that they name without a table. -/
  own : Reads s (.cell samplesCell) → ∀ w ∈ ownColumns, Mentioned v s w →
    w ∈ s.columns.map (·.name)
  aliased : (aliases s.columns).Nodup

section Chains

variable {d : Draft} {bodies : Bodies}

/-- The names of common table expressions have an underscore and no point, and no other table has
them. -/
theorem Chained.names (chained : Chained d bodies) : ∀ name ∈ bodies.map (·.1),
    Text.byte '.' ∉ name ∧ Text.byte '_' ∈ name ∧ name ∉ plainTables := by
  have first := chained.first
  have given := chained.given
  cases split : bodies.map (·.1) with
  | nil => simp
  | cons name rest =>
    rw [split] at first given
    obtain rfl : name = streamSelection := Option.some.inj first
    refine List.forall_mem_cons.mpr ⟨by decide,fun name mem => ?_⟩
    obtain ⟨stem,known,n,_,rfl⟩ := given name mem
    refine ⟨partPoint (nameBytes known n),?_,(nameOther known n).2⟩
    rw [nameOfSplit]
    simp

theorem ownPoint : ∀ w ∈ ownColumns, Text.byte '.' ∉ w := by decide

theorem pointText : Text.ofString "." = [Text.byte '.'] := by decide

theorem pointCut {w name column : Text} (found : Text.cut "." w = some (name, column)) :
    Text.byte '.' ∈ w := by
  rw [Text.cutParts found,pointText]
  simp

theorem columnOfPoint (name column : Text) : columnOf name column = name ++ Text.byte '.' :: column := by
  simp [columnOf,Text.concat,pointText]

theorem Resolves.qualified (chained : Chained d bodies) {s : Select} {w : Text}
    (resolves : Resolves bodies s w) {name column : Text} {body : Select}
    (found : Text.cut "." w = some (name, column)) (mem : (name, body) ∈ bodies) :
    Reads s (.raw name) ∧ column ∈ ("*" : Text) :: body.columns.map columnName := by
  have named := chained.names
  rcases resolves with plain | ⟨own,_⟩ | ⟨p,inside,reads,c,offered,rfl⟩
  · obtain ⟨_,under,other⟩ := named name (List.mem_map_of_mem (f := (·.1)) mem)
    rw [isPlain,found] at plain
    simp [under,other] at plain
  · exact absurd (pointCut found) (ownPoint w own)
  · have whole := Text.cutFirst (named p.1 (List.mem_map_of_mem inside)).1 c
    rw [← columnOfPoint,← pointText,found] at whole
    obtain ⟨rfl,rfl⟩ := Prod.mk.inj (Option.some.inj whole)
    have same : (p.1, body) = p := List.inj_on_of_nodup_map chained.distinct mem inside rfl
    rw [← same] at offered
    exact ⟨reads,offered⟩

theorem Resolves.own {s : Select} {w : Text} (resolves : Resolves bodies s w) (own : w ∈ ownColumns)
    (base : Reads s (.cell samplesCell)) : w ∈ s.columns.map (·.name) := by
  rcases resolves with plain | ⟨_,projected⟩ | ⟨p,_,_,c,_,rfl⟩
  · have some : ∀ w ∈ ownColumns, isPlain w = false := by decide
    rw [some w own] at plain
    contradiction
  · exact projected base
  · exact absurd (by simp [columnOfPoint]) (ownPoint _ own)

theorem nanosBytes (ms : Int) : (nanosText ms).all Sql.isNumberByte = true := by
  rw [nanosText,List.all_append,Sql.intBytes,Bool.true_and]
  exact stringBytes rfl (by decide)

/-- The cells of a result that expressions mention are numbers. -/
theorem resultMentions {P : Text → Prop} (neutral : Neutral P) {e : Engine} {r : Request}
    {w : Engine.Window} (declared : d.select.params = baseCells) :
    ∀ cell ∈ boundCells, Mentions P ((e.result r w d).bindings.view.text cell) := by
  have text {cell : Sql.Cell} {v : Sql.Value}
      (bound : (e.result r w d).bindings.get? cell = some v) :
      (e.result r w d).bindings.view.text cell =
        v.text ((e.result r w d).bindings.viewTo (e.result r w d).bindings.length) := by
    simp only [Sql.Bindings.view,Sql.Bindings.viewTo,bound]
  obtain ⟨_,first,last,limit⟩ := resultCells (e := e) (r := r) (w := w) declared
  simp only [boundCells,List.forall_mem_cons,text first,text last,text limit,Sql.Value.text]
  exact ⟨neutral.bytes (nanosBytes _),neutral.bytes (nanosBytes _),neutral.bytes (Sql.intBytes _),
    by simp⟩

theorem Chained.referenced (chained : Chained d bodies) {v : Sql.CellView}
    (view : ∀ s, ∀ cell ∈ boundCells, Mentions (Resolves bodies s) (v.text cell)) :
    ∀ s ∈ links bodies d.select, Referenced v bodies s := by
  intro s mem
  obtain ⟨i,found⟩ := List.mem_iff_getElem?.mp mem
  have link := chained.link found
  have resolves {w : Text} (mentioned : Mentioned v s w) : Resolves bodies s w := by
    obtain ⟨e,part,word⟩ := mentioned
    have written := (link.resolved e part).mentions (resolvesNeutral bodies s) (view s)
    exact Sql.mentionsWords written word
  exact ⟨fun w mentioned name column body cut inside =>
      (resolves mentioned).qualified chained cut inside,
    fun base w own mentioned => (resolves mentioned).own own base,link.aliased⟩

end Chains

/-- Every column that a compiled statement mentions is there: its rows project what they name, every
layer reads what the statement before it projects, and a matrix has the columns and the order of
one. -/
theorem columnsResolve {e : Engine} {clientTemplates : Bool}
    (full : e.registry = Registry.full clientTemplates) {r : Request} {compiled : Compiled}
    (ok : e.compile r = .ok compiled) :
    ∃ bodies : Bodies, compiled.select.withs = (bodies.map fun p => ⟨.query p.2,p.1⟩) ∧
      (∃ s ∈ links bodies compiled.select, Reads s (.cell samplesCell)) ∧
      (∀ s ∈ links bodies compiled.select, Referenced compiled.bindings.view bodies s) ∧
      (compiled.matrix = true → Tabular compiled.select) := by
  obtain ⟨request,window,draft,bodies,rfl,two,chained,tabular⟩ := compiledChained full ok
  rw [resultSelect]
  refine ⟨bodies,chained.withs,?_,?_,tabular⟩
  · obtain ⟨rows,found⟩ : ∃ rows, (links bodies draft.select)[1]? = some rows :=
      Option.isSome_iff_exists.mp (by simp [links]; omega)
    exact ⟨rows,List.mem_of_getElem? found,(chained.link found).samples.mpr rfl⟩
  · exact chained.referenced fun s => resultMentions (resolvesNeutral bodies s) chained.declared

/-- A sum of numbers that a stage extracts from the lines. -/
def unwrappedSum : Request :=
  { query := "sum_over_time(\x7bapp=\"api\"\x7d | json | unwrap latency [1m])" }

theorem unwrappedSumResolves : ∃ compiled bodies,
    ({ registry := .full true } : Engine).compile unwrappedSum = .ok compiled ∧
      compiled.select.withs = (bodies.map fun p => ⟨.query p.2,p.1⟩) ∧ bodies.length = 2 ∧
      (∀ s ∈ links bodies compiled.select, Referenced compiled.bindings.view bodies s) ∧
      Tabular compiled.select := by
  obtain ⟨compiled,ok,run⟩ := okAny
    (show (({ registry := .full true } : Engine).compile unwrappedSum).toOption.any
      (fun compiled => compiled.matrix && compiled.select.withs.length = 2) = true by decide +kernel)
  simp only [Bool.and_eq_true,decide_eq_true_eq] at run
  obtain ⟨bodies,withs,_,referenced,tabular⟩ := columnsResolve rfl ok
  have length : bodies.length = 2 := by
    rw [← run.2,withs,List.length_map]
  exact ⟨compiled,bodies,ok,withs,length,referenced,tabular run.1⟩

end LogSql.Compile
