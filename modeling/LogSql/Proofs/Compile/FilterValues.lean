import LogSql.Proofs.Compile.FilterAcceptance
import LogSql.Proofs.Sql.Logic
import LogSql.Proofs.Sql.Parts

/-! What the condition of a label filter says. Whatever the tests of a filter come to, its text is read as
the filter is: each group stands in parentheses of its own, so that neither the groups around it nor the
conditions it is joined with take anything from it. -/
namespace LogSql.Compile

open Query
open Sql (Expr CellView)
open Sql.Logic

/-! ### Values of filters -/

mutual

/-- The value of a filter, given those of its tests. -/
def holds (assign : Node → Bool) : Node → Bool
  | .mk kind value children =>
    if kind = Kind.labelFilterOr then (holdsEach assign children).any id
    else if kind = Kind.labelFilterAnd then (holdsEach assign children).all id
    else assign (.mk kind value children)

def holdsEach (assign : Node → Bool) : List Node → List Bool
  | [] => []
  | n :: rest => holds assign n :: holdsEach assign rest

end

mutual

/-- The tests of a filter in order. -/
def tests : Node → List Node
  | .mk kind value children =>
    if kind = Kind.labelFilterOr then testsEach children
    else if kind = Kind.labelFilterAnd then testsEach children
    else [.mk kind value children]

def testsEach : List Node → List Node
  | [] => []
  | n :: rest => tests n ++ testsEach rest

end

section Values

variable {assign : Node → Bool} (parts : List Node) (t : Form.Test)

theorem holdsEachMap : holdsEach assign parts = parts.map (holds assign) := by
  induction parts with
  | nil => rfl
  | cons n rest ih => rw [holdsEach,ih,List.map_cons]

theorem testsEachFlat : testsEach parts = parts.flatMap tests := by
  induction parts with
  | nil => rfl
  | cons n rest ih => rw [testsEach,ih,List.flatMap_cons]

theorem holdsAll : holds assign (.mk Kind.labelFilterAnd [] parts) = parts.all (holds assign) := by
  rw [holds,if_neg (by decide),if_pos rfl,holdsEachMap,List.all_map]
  rfl

theorem holdsAny : holds assign (.mk Kind.labelFilterOr [] parts) = parts.any (holds assign) := by
  rw [holds,if_pos rfl,holdsEachMap,List.any_map]
  rfl

theorem holdsTest : holds assign t.node = assign t.node := by
  rw [Form.Test.node,holds,if_neg (by decide),if_neg (by decide)]

theorem testsAll : tests (.mk Kind.labelFilterAnd [] parts) = parts.flatMap tests := by
  rw [tests,if_neg (by decide),if_pos rfl,testsEachFlat]

theorem testsAny : tests (.mk Kind.labelFilterOr [] parts) = parts.flatMap tests := by
  rw [tests,if_pos rfl,testsEachFlat]

theorem testsTest : tests t.node = [t.node] := by
  rw [Form.Test.node,tests,if_neg (by decide),if_neg (by decide)]

end Values

/-! ### Words of conditions -/

theorem textWritten {value e : Expr} {op want : Text} (v : CellView)
    (ok : textCondition value op want = .ok e) : e.text v ≠ [] := by
  unfold textCondition at ok
  split at ok
  · cases ok
    simp [Expr.eq,Expr.text,Text.concat]
  split at ok
  · cases ok
    simp [Expr.neq,Expr.text,Text.concat]
  split at ok
  · obtain ⟨p,_,ok⟩ := bindOk ok
    cases ok
    split
    all_goals simp [Expr.text,Text.concat]
  · contradiction

/-- The condition of a test is never left out for want of a text. -/
theorem testWritten {value e : Expr} {t : Form.Test} (v : CellView)
    (ok : testCondition value t = .ok e) : e.text v ≠ [] := by
  obtain ⟨label,op,operand⟩ := t
  cases operand with
  | text t known => exact textWritten v ok
  | number t known | duration t known readable | bytes t known =>
    obtain ⟨x,_,rfl⟩ := mapOk ok
    simp [Expr.text,Text.concat]

section Written

variable (v : CellView) (d : Draft) (assign : Node → Bool)

/-- An atom is the text of the condition of a test, with the value of the test. -/
def AtomOf (n : Node) (atom : Text × Bool) : Prop :=
  ∃ e, condition d n = .ok e ∧ atom = (e.text v,assign n)

/-- The words of a condition, which keep to themselves wherever they are put. -/
structure Written (n : Node) (e : Expr) (ws : List Word) : Prop where
  text : e.text v = wording ws
  atoms : List.Forall₂ (AtomOf v d assign) (tests n) (atoms ws)
  reads : Denotes .factor ws (holds assign n)

end Written

section Filters

variable {v : CellView} {d : Draft} {assign : Node → Bool} {n : Node} {e : Expr}

/-- The words of the parts of a group, one after the other. -/
theorem partsWritten {parts : List Node} {es : List Expr}
    (ok : parts.mapM (condition d) = .ok es)
    (each : ∀ n ∈ parts, ∀ e, condition d n = .ok e → ∃ ws, Written v d assign n e ws) :
    ∃ ps : List (List Word × Bool), Expr.texts v es = ps.map (fun p => wording p.1) ∧
      ps.map Prod.snd = parts.map (holds assign) ∧ (∀ p ∈ ps, Denotes .factor p.1 p.2) ∧
      List.Forall₂ (AtomOf v d assign) (parts.flatMap tests) (ps.flatMap fun p => atoms p.1) := by
  induction parts generalizing es with
  | nil =>
    cases ok
    exact ⟨[],rfl,rfl,by simp,.nil⟩
  | cons n parts ih =>
    rw [List.mapM_cons] at ok
    obtain ⟨e,first,ok⟩ := bindOk ok
    obtain ⟨es,rest,ok⟩ := bindOk ok
    cases ok
    obtain ⟨here,later⟩ := List.forall_mem_cons.mp each
    obtain ⟨ws,written⟩ := here e first
    obtain ⟨ps,texts,values,reads,same⟩ := ih rest later
    refine ⟨(ws,holds assign n) :: ps,?_,?_,List.forall_mem_cons.mpr ⟨written.reads,reads⟩,
      List.rel_append written.atoms same⟩
    · rw [Expr.texts,written.text,texts,List.map_cons]
    · rw [List.map_cons,List.map_cons,values]

/-- A group of two or more is put in parentheses, whatever its connective. -/
theorem groupWritten {parts : List Node} {es : List Expr} {kind op : Text} {w : Word}
    (two : 2 ≤ parts.length) (ok : parts.mapM (condition d) = .ok es)
    (each : ∀ n ∈ parts, ∀ e, condition d n = .ok e → ∃ ws, Written v d assign n e ws)
    (connective : w.text = Text.concat [" ",op," "]) (noAtom : w.atom? = none)
    (text : e.text v = Sql.logical op (Expr.texts v es))
    (inner : tests (.mk kind [] parts) = parts.flatMap tests)
    (value : ∀ ps : List (List Word × Bool), ps ≠ [] → (∀ p ∈ ps, Denotes .factor p.1 p.2) →
      ps.map Prod.snd = parts.map (holds assign) →
      Denotes .any (joined w (ps.map Prod.fst)) (holds assign (.mk kind [] parts))) :
    ∃ ws, Written v d assign (.mk kind [] parts) e ws := by
  obtain ⟨ps,texts,values,reads,same⟩ := partsWritten ok each
  have length : ps.length = parts.length := by simpa using congrArg List.length values
  have some : ps ≠ [] := List.ne_nil_of_length_pos (by omega)
  refine ⟨parenthesized w (ps.map Prod.fst),?_,?_,.group (value ps some reads values)⟩
  · rw [text,texts]
    exact logicalParenthesized connective (length ▸ two) fun p mem => (reads p mem).some
  · rw [inner,atomsParenthesized _ noAtom,List.flatMap_map]
    exact same

theorem filterWritten (v : CellView) (assign : Node → Bool) (form : Form.Filter n) (ok : condition d n = .ok e) :
    ∃ ws, Written v d assign n e ws := by
  induction form generalizing e with
  | test t =>
    have text := ok
    rw [conditionTest] at text
    refine ⟨[.atom (e.text v) (assign t.node)],(List.append_nil _).symm,?_,?_⟩
    · rw [testsTest]
      exact .cons ⟨e,ok,rfl⟩ .nil
    · rw [holdsTest]
      exact .atom (testWritten v text)
  | @all parts two each ih =>
    rw [conditionAll] at ok
    obtain ⟨es,read,rfl⟩ := mapOk ok
    refine groupWritten (w := .and) two read (fun n mem e => ih n mem) rfl rfl rfl (testsAll parts) ?_
    intro ps some reads values
    have value : parts.all (holds assign) = ps.all Prod.snd := by
      simpa [List.all_map,Function.comp_def] using congrArg (List.all · id) values.symm
    rw [holdsAll,value]
    exact (denotesAll some fun p mem => (reads p mem).factor).all
  | @any parts two each ih =>
    rw [conditionAny] at ok
    obtain ⟨es,read,rfl⟩ := mapOk ok
    refine groupWritten (w := .or) two read (fun n mem e => ih n mem) rfl rfl rfl (testsAny parts) ?_
    intro ps some reads values
    have value : parts.any (holds assign) = ps.any Prod.snd := by
      simpa [List.any_map,Function.comp_def] using congrArg (List.any · id) values.symm
    rw [holdsAny,value]
    exact denotesAny some fun p mem => (reads p mem).factor.all

/-- The text of a filter has the value of the filter, alone and among conditions that have no alternative
outside parentheses, whatever the values of its tests. -/
theorem filterReads (v : CellView) (assign : Node → Bool) (form : Form.Filter n)
    (ok : condition d n = .ok e) :
    ∃ ws, e.text v = wording ws ∧ List.Forall₂ (AtomOf v d assign) (tests n) (atoms ws) ∧
      (∀ c, Denotes .any ws c ↔ c = holds assign n) ∧
      ∀ before after : List (List Word × Bool),
        (∀ p ∈ before ++ after, p.1 = [] ∧ p.2 = true ∨ Denotes .all p.1 p.2) →
        ∃ whole, Sql.conjunction (before.map (fun p => wording p.1) ++ e.text v ::
            after.map fun p => wording p.1) = wording whole ∧
          atoms whole = before.flatMap (fun p => atoms p.1) ++ atoms ws ++
            after.flatMap (fun p => atoms p.1) ∧
          ∀ c, Denotes .any whole c ↔
            c = (before.all Prod.snd && holds assign n && after.all Prod.snd) := by
  obtain ⟨ws,written⟩ := filterWritten v assign form ok
  refine ⟨ws,written.text,written.atoms,written.reads.factor.all.unique,?_⟩
  intro before after others
  have reads := written.reads.factor
  obtain ⟨whole,text,inside,all⟩ := conjunctionDenotes (before ++ (ws,holds assign n) :: after)
    ⟨(ws,holds assign n),by simp,fun empty => reads.some (congrArg wording empty)⟩ (by
      intro p mem
      rcases List.mem_append.mp mem with first | second
      · exact others p (List.mem_append_left _ first)
      · rcases List.mem_cons.mp second with rfl | later
        · exact .inr reads
        · exact others p (List.mem_append_right _ later))
  refine ⟨whole,?_,?_,?_⟩
  · rw [written.text,← text]
    simp
  · rw [inside]
    simp
  · rw [List.all_append,List.all_cons,← Bool.and_assoc] at all
    exact all.all.unique

end Filters

/-- The test that a label is equal to a text. -/
def equals (label t : Text) : Form.Test := ⟨label, "=", .text t (.inl (by decide))⟩

/-- A choice inside of a conjunction, with a conjunction inside. -/
def nestedFilter : Node :=
  .mk Kind.labelFilterAnd [] [(equals "a" "x").node,
    .mk Kind.labelFilterOr [] [(equals "b" "x").node,
      .mk Kind.labelFilterAnd [] [(equals "a" "y").node, (equals "c" "y").node]]]

theorem nestedForm : Form.Filter nestedFilter :=
  .all (by decide) (by
    simp only [List.forall_mem_cons,List.not_mem_nil,IsEmpty.forall_iff,implies_true,and_true]
    refine ⟨.test _,.any (by decide) ?_⟩
    simp only [List.forall_mem_cons,List.not_mem_nil,IsEmpty.forall_iff,implies_true,and_true]
    refine ⟨.test _,.all (by decide) ?_⟩
    simp only [List.forall_mem_cons,List.not_mem_nil,IsEmpty.forall_iff,implies_true,and_true]
    exact ⟨.test _,.test _⟩)

/-- The filter holds when the tests for one text do, but not beside a condition that fails. -/
theorem nestedReads : ∃ e ws whole, condition plainDraft nestedFilter = .ok e ∧
    e.text (Sql.Bindings.view []) = wording ws ∧ Denotes .any ws true ∧
    Sql.conjunction [e.text (Sql.Bindings.view []), "late"] = wording whole ∧
    Denotes .any whole false := by
  obtain ⟨e,ok,_⟩ := okAny
    (show (condition plainDraft nestedFilter).toOption.any (fun _ => true) = true by decide +kernel)
  have value : holds (fun n => n.valueOf Kind.quotedStr = "x") nestedFilter = true := by decide +kernel
  have late : Denotes .all [.atom "late" false] false := .factor (.atom (by decide))
  obtain ⟨ws,text,_,alone,beside⟩ := filterReads (Sql.Bindings.view [])
    (fun n => n.valueOf Kind.quotedStr = "x") nestedForm ok
  obtain ⟨whole,joined,_,among⟩ := beside [] [([.atom "late" false],false)] (by simpa using late)
  rw [value] at alone among
  exact ⟨e,ws,whole,ok,text,(alone true).mpr rfl,joined,(among false).mpr rfl⟩

end LogSql.Compile
