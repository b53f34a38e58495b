import LogSql.Proofs.Compile.CitedLayers
import LogSql.Proofs.Compile.Names

/-! Chains of statements. A compiled query is a list of common table expressions and a statement over
the last of them: the selected streams come first, the rows of the samples table second, and every
layer reads from the statement before it. -/
namespace LogSql.Compile

open Query
open Sql (Expr Select Named Mentions Written Neutral)

/-- Common table expressions by name. -/
abbrev Bodies := List (Text × Select)

/-- A statement without its common table expressions. -/
def bare (s : Select) : Select := { s with withs := [] }

/-- The statements of a chain in their order. -/
def links (bodies : Bodies) (s : Select) : List Select := bodies.map (·.2) ++ [bare s]

/-- Whether a statement reads from a table or joins it. -/
def Reads (s : Select) (table : Expr) : Prop := s.source = some table ∨ ∃ j ∈ s.joins, j.table = table

/-- Statements with no statement inside, which name the table of the samples nowhere but as what they
read from. -/
structure Flat (s : Select) : Prop where
  withs : s.withs = []
  source : ∀ e ∈ s.source, ∀ q, .query q ∉ e.subterms
  parts : ∀ e ∈ s.parts, (∀ q, .query q ∉ e.subterms) ∧ .cell samplesCell ∉ e.subterms

/-- A statement whose common table expressions form a chain. -/
structure Chain (s : Select) (bodies : Bodies) : Prop where
  withs : s.withs = bodies.map fun p => ⟨.query p.2,p.1⟩
  first : (bodies.map (·.1)).head? = some streamSelection
  distinct : (bodies.map (·.1)).Nodup
  flat : ∀ body ∈ links bodies s, Flat body
  /-- The second statement alone reads the samples. -/
  samples : ∀ i body, (links bodies s)[i]? = some body → (Reads body (.cell samplesCell) ↔ i = 1)
  /-- From there on every statement reads from the one before it. -/
  order : ∀ i name body, 1 ≤ i → (bodies.map (·.1))[i]? = some name →
    (links bodies s)[i + 1]? = some body → body.source = some (.raw name)

/-! ### Words -/

/-- The name of a column: its alias, or else its own text. -/
def columnName (c : Named Expr) : Text :=
  if c.name.isEmpty then
    match c.expr with
    | .raw t => t
    | _ => []
  else c.name

/-- The words that a statement of a chain may mention: those that name no column, columns of its own,
and columns of the common table expressions that it reads. -/
def Resolves (bodies : Bodies) (body : Select) (w : Text) : Prop :=
  isPlain w = true ∨
    (w ∈ ownColumns ∧ (Reads body (.cell samplesCell) → w ∈ body.columns.map (·.name))) ∨
    ∃ p ∈ bodies, Reads body (.raw p.1) ∧
      ∃ c ∈ ("*" : Text) :: p.2.columns.map columnName, w = columnOf p.1 c

/-- The cells that expressions mention. -/
def boundCells : List Sql.Cell := [fromCell, toCell, limitCell]

/-- Statements whose words all resolve. -/
def Resolved (bodies : Bodies) (body : Select) : Prop :=
  ∀ e ∈ body.parts, Written (Mentions (Resolves bodies body)) boundCells e

section Words

variable {bodies more : Bodies} {body : Select} {columns : List Text} {e : Expr}

theorem resolvesNeutral (bodies : Bodies) (body : Select) : Neutral (Resolves bodies body) where
  empty := .inl (by decide)
  number _ number := .inl (numberPlain number)
  connective w known := .inl (by
    simp only [Sql.connectives,List.mem_cons,List.not_mem_nil,or_false] at known
    rcases known with rfl | rfl | rfl | rfl <;> decide)

theorem Resolves.widen {w : Text} (resolves : Resolves bodies body w) (subset : bodies ⊆ more) :
    Resolves more body w := by
  refine resolves.imp id fun named => named.imp id ?_
  rintro ⟨p,mem,rest⟩
  exact ⟨p,subset mem,rest⟩

theorem Resolved.widen (resolved : Resolved bodies body) (subset : bodies ⊆ more) :
    Resolved more body := fun e mem =>
  (resolved e mem).imp (fun _ mentions => mentions.imp fun _ known => known.widen subset)
    (List.Subset.refl _)

/-- Expressions resolve where the columns they name do. -/
theorem citedResolves {cells : List Sql.Cell} (cited : Written (Mentions (Cites columns)) cells e)
    (named : ∀ w ∈ columns, Resolves bodies body w) (bound : cells ⊆ boundCells) :
    Written (Mentions (Resolves bodies body)) boundCells e := by
  refine cited.imp (fun t mentions => mentions.imp fun w cites => ?_) bound
  rcases cites with plain | mem
  · exact .inl plain
  · exact named w mem

theorem Resolved.apart (resolved : Resolved bodies body) :
    ∀ e ∈ body.parts, (∀ q, .query q ∉ e.subterms) ∧ .cell samplesCell ∉ e.subterms := by
  intro e mem
  refine ⟨(resolved e mem).noStatement,(resolved e mem).noCell ?_⟩
  simp [boundCells,samplesCell,fromCell,toCell,limitCell]

end Words

/-! ### Names -/

/-- The stems of the names of common table expressions. -/
def stems : List Text :=
  [("sel" : Text), "step", "agg", "cmp"] ++ parameterizedFunctions ++ logRangeFunctions ++
    unwrapFunctions ++ parameterizedUnwrappedFunctions

theorem stringBytes {p : UInt8 → Bool} {s : String} {cs : List Char} (spelled : s = String.ofList cs)
    (all : (cs.flatMap Text.ofChar).all p = true) : (Text.ofString s).all p = true := by
  rw [spelled,Sql.ofStringChars]
  exact all

theorem stemBytes : ∀ stem ∈ stems, stem.all Text.isNamePart = true := by
  simp only [stems,parameterizedFunctions,logRangeFunctions,unwrapFunctions,
    parameterizedUnwrappedFunctions,List.forall_mem_append,List.forall_mem_cons]
  and_intros <;> first | exact stringBytes rfl (by decide) | simp

theorem stemOther : ∀ stem ∈ stems, stem ∉ [("str" : Text), "top", "time"] := by
  simp [stems,parameterizedFunctions,logRangeFunctions,unwrapFunctions,
    parameterizedUnwrappedFunctions]

theorem nameBytes {stem : Text} (known : stem ∈ stems) (n : Nat) :
    (nameOf stem n).all Text.isNamePart = true := by
  have under : Text.isNamePart (Text.byte '_') = true := by decide
  have letter : ∀ b ∈ letters n, Text.isNamePart b = true := by
    intro b mem
    have lower := lettersLower b mem
    simp only [Text.isNamePart,Text.isNameStart,Text.isAlpha,Bool.or_eq_true,Bool.and_eq_true,
      decide_eq_true_eq,UInt8.le_iff_toNat_le]
    exact .inl (.inl (.inl lower))
  rw [nameOfSplit,List.all_append,List.all_cons,stemBytes stem known,under,List.all_eq_true.mpr letter]
  rfl

theorem partWord {t : Text} (parts : t.all Text.isNamePart = true) : t.all Sql.isWordByte = true := by
  rw [List.all_eq_true] at parts ⊢
  intro b mem
  simp [Sql.isWordByte,parts b mem]

theorem partPoint {t : Text} (parts : t.all Text.isNamePart = true) : Text.byte '.' ∉ t := by
  intro mem
  have point := List.all_eq_true.mp parts _ mem
  exact absurd point (by decide)

/-- No table of another kind has the name of a common table expression. -/
theorem nameOther {stem : Text} (known : stem ∈ stems) (n : Nat) :
    nameOf stem n ≠ streamSelection ∧ nameOf stem n ∉ plainTables := by
  have other := stemOther stem known
  simp only [List.mem_cons,List.not_mem_nil,or_false,not_or] at other
  have apart {before after : Text} (under : Text.byte '_' ∉ after) (different : stem ≠ before) :
      nameOf stem n ≠ before ++ Text.byte '_' :: after := by
    intro same
    rw [nameOfSplit] at same
    exact different (Text.splitLast (lettersAbsent (by decide) n) under same).1
  have streams := @apart "str" "sel" (by decide) other.1
  have items := @apart "top" "item" (by decide) other.2.1
  have series := @apart "time" "series" (by decide) other.2.2
  refine ⟨streams,?_⟩
  simp only [plainTables,List.mem_cons,List.not_mem_nil,or_false,not_or]
  exact ⟨items,series⟩

/-! ### Drafts -/

/-- The aliases of a list of columns. -/
def aliases (columns : List (Named Expr)) : List Text :=
  (columns.map (·.name)).filter fun name => !name.isEmpty

/-- What holds of the statement at a place of a chain. -/
structure Link (bodies : Bodies) (i : Nat) (body : Select) : Prop where
  flat : Flat body
  samples : Reads body (.cell samplesCell) ↔ i = 1
  order : ∀ name, 2 ≤ i → (bodies.map (·.1))[i - 1]? = some name → body.source = some (.raw name)
  resolved : Resolved bodies body
  aliased : (aliases body.columns).Nodup

/-- Drafts whose statement is a chain, with names that were all given. -/
structure Chained (d : Draft) (bodies : Bodies) : Prop where
  declared : d.select.params = baseCells
  withs : d.select.withs = bodies.map fun p => ⟨.query p.2,p.1⟩
  first : (bodies.map (·.1)).head? = some streamSelection
  distinct : (bodies.map (·.1)).Nodup
  given : ∀ name ∈ (bodies.map (·.1)).tail,
    ∃ stem ∈ stems, ∃ n, d.context.names.Gave stem n ∧ name = nameOf stem n
  inner : ∀ i p, bodies[i]? = some p → Link bodies i p.2
  last : Link bodies bodies.length (bare d.select)

section Drafts

variable {d : Draft} {bodies : Bodies}

theorem Link.widen {i : Nat} {body : Select} (link : Link bodies i body) (inside : i ≤ bodies.length)
    (p : Text × Select) : Link (bodies ++ [p]) i body where
  flat := link.flat
  samples := link.samples
  order name later found := by
    refine link.order name later ?_
    rwa [List.map_append,List.getElem?_append_left (by simp; omega)] at found
  resolved := link.resolved.widen (List.subset_append_left bodies [p])
  aliased := link.aliased

/-- A statement that only loses parts stays what it is in its chain. -/
theorem Link.smaller {i : Nat} {s before : Select} (link : Link bodies i (bare before))
    (source : s.source = before.source) (joins : s.joins = before.joins)
    (columns : s.columns = before.columns) (parts : s.parts ⊆ before.parts) :
    Link bodies i (bare s) := by
  have reads (table : Expr) : Reads (bare s) table ↔ Reads (bare before) table := by
    simp only [Reads,bare,source,joins]
  refine ⟨⟨rfl,?_,fun e mem => link.flat.parts e (parts mem)⟩,(reads _).trans link.samples,?_,
    fun e mem => ?_,?_⟩
  · simpa only [bare,source] using link.flat.source
  · simpa only [bare,source] using link.order
  · refine (link.resolved e (parts mem)).imp (fun t mentions => mentions.imp fun w known => ?_)
      (List.Subset.refl _)
    rcases known with plain | ⟨own,projected⟩ | ⟨p,found,table,column⟩
    · exact .inl plain
    · refine .inr (.inl ⟨own,fun base => ?_⟩)
      simpa only [bare,columns] using projected ((reads _).mp base)
    · exact .inr (.inr ⟨p,found,(reads _).mpr table,column⟩)
  · simpa only [bare,columns] using link.aliased

theorem Chained.some (chained : Chained d bodies) : 1 ≤ bodies.length := by
  have first := chained.first
  cases bodies with
  | nil => contradiction
  | cons p rest => simp

theorem Chained.smaller (chained : Chained d bodies) {s : Select}
    (declared : s.params = d.select.params) (withs : s.withs = d.select.withs)
    (source : s.source = d.select.source) (joins : s.joins = d.select.joins)
    (columns : s.columns = d.select.columns) (parts : s.parts ⊆ d.select.parts) :
    Chained { d with select := s } bodies :=
  ⟨declared.trans chained.declared,withs.trans chained.withs,chained.first,chained.distinct,
    chained.given,chained.inner,chained.last.smaller source joins columns parts⟩

theorem Chained.link (chained : Chained d bodies) {i : Nat} {body : Select}
    (found : (links bodies d.select)[i]? = Option.some body) : Link bodies i body := by
  have bound : i < (links bodies d.select).length := (List.getElem?_eq_some_iff.mp found).1
  simp only [links,List.length_append,List.length_map,List.length_cons,List.length_nil] at bound
  by_cases inside : i < bodies.length
  · rw [links,List.getElem?_append_left (by simpa using inside),List.getElem?_map] at found
    obtain ⟨p,mem,rfl⟩ := Option.map_eq_some_iff.mp found
    exact chained.inner i p mem
  · obtain rfl : i = bodies.length := by omega
    have final : bare d.select = body := by simpa [links] using found
    rw [← final]
    exact chained.last

/-- The statement of such a draft is a chain. -/
theorem Chained.chain (chained : Chained d bodies) : Chain d.select bodies where
  withs := chained.withs
  first := chained.first
  distinct := chained.distinct
  flat body mem := by
    obtain ⟨i,found⟩ := List.mem_iff_getElem?.mp mem
    exact (chained.link found).flat
  samples i body found := (chained.link found).samples
  order i name body later named found := (chained.link found).order name (by omega) named

/-- The name that the next layer reads from. -/
def Draft.next (d : Draft) (stem : Text) : Text := (d.context.names.fresh stem).1

/-- The common table expressions behind the next layer. -/
def Draft.behind (d : Draft) (stem : Text) (bodies : Bodies) : Bodies :=
  bodies ++ [(d.next stem, bare d.select)]

theorem nextBytes {stem : Text} (known : stem ∈ stems) :
    (d.next stem).all Sql.isWordByte = true := partWord (nameBytes known _)

theorem Chained.fresh (chained : Chained d bodies) {stem : Text} (known : stem ∈ stems) :
    d.next stem ∉ bodies.map (·.1) := by
  intro mem
  have first := chained.first
  have given := chained.given
  cases names : bodies.map (·.1) with
  | nil => simp [names] at mem
  | cons name rest =>
    rw [names] at first given mem
    rcases List.mem_cons.mp mem with same | later
    · obtain rfl := Option.some.inj first
      exact (nameOther known _).1 same
    · obtain ⟨other,_,n,gave,same⟩ := given _ later
      exact Names.freshNew gave same

/-- A layer continues a chain when the columns that it names resolve. -/
theorem Chained.over (chained : Chained d bodies) {stem : Text} (known : stem ∈ stems)
    {l : Text → Layer} {columns : List Text}
    (tables : ∀ j ∈ (l (d.next stem)).joins, j.table ≠ .cell samplesCell)
    (cited : (l (d.next stem)).Cited columns)
    (named : ∀ w ∈ columns,
      Resolves (d.behind stem bodies) ((l (d.next stem)).body (d.next stem)) w)
    (aliased : (aliases (l (d.next stem)).columns).Nodup) :
    Chained (d.over stem l) (d.behind stem bodies) := by
  have fresh := chained.fresh known
  refine ⟨chained.declared,?_,?_,?_,fun name mem => ?_,fun i p found => ?_,?_⟩
  · simp [Draft.over,Draft.behind,Draft.next,Sql.Select.wrap,chained.withs,bare]
  · rw [Draft.behind,List.map_append,List.head?_append,chained.first]
    rfl
  · rw [Draft.behind,List.map_append,List.nodup_append]
    refine ⟨chained.distinct,by simp,fun name before last after => ?_⟩
    rw [List.map_singleton,List.mem_singleton] at after
    rintro rfl
    have same : name = d.next stem := after
    exact fresh (same ▸ before)
  · -- The new name counts one further than its stem did, and all older names are still given.
    obtain ⟨p,rest,split⟩ : ∃ p rest, bodies = p :: rest := by
      have some := chained.some
      cases bodies with
      | nil => simp at some
      | cons p rest => exact ⟨p,rest,rfl⟩
    have given := chained.given
    rw [split] at given
    simp only [Draft.behind,split,List.cons_append,List.map_cons,List.map_append,List.tail_cons,
      List.map_nil,List.mem_append,List.mem_singleton] at mem
    rcases mem with before | rfl
    · obtain ⟨other,stemmed,n,gave,same⟩ := given name (by simpa using before)
      exact ⟨other,stemmed,n,Names.freshKeeps gave,same⟩
    · exact ⟨stem,known,_,Names.freshGave,rfl⟩
  · have bound : i < bodies.length + 1 := by
      simpa [Draft.behind] using (List.getElem?_eq_some_iff.mp found).1
    by_cases inside : i < bodies.length
    · rw [Draft.behind,List.getElem?_append_left inside] at found
      exact (chained.inner i p found).widen (by omega) _
    · obtain rfl : i = bodies.length := by omega
      have same : (d.next stem, bare d.select) = p := by simpa [Draft.behind] using found
      rw [← same]
      exact chained.last.widen (Nat.le_refl _) _
  · have some := chained.some
    have elsewhere : ¬Reads ((l (d.next stem)).body (d.next stem)) (.cell samplesCell) := by
      rintro (source | ⟨j,mem,table⟩)
      · simp [Layer.body] at source
      · exact tables j mem table
    have resolved : Resolved (d.behind stem bodies) ((l (d.next stem)).body (d.next stem)) :=
      fun e mem => citedResolves (cited e mem) named (by simp [boundCells])
    refine ⟨⟨rfl,?_,resolved.apart⟩,?_,fun name later found => ?_,resolved,aliased⟩
    · simp [bare,Draft.over,Layer.body,Expr.subterms]
    · refine ⟨fun reads => absurd reads elsewhere,fun one => ?_⟩
      rw [Draft.behind,List.length_append,List.length_singleton] at one
      omega
    · have last : d.next stem = name := by simpa [Draft.behind] using found
      rw [← last]
      rfl

end Drafts
end LogSql.Compile
