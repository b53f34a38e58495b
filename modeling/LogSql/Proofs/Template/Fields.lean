import LogSql.Row.Formatter
import LogSql.Proofs.Template.Leading

/-! Line templates of texts and single labels. Such a template never fails: it prints its texts as they are
and, for a label, what it sees of the row, which is nothing where the row has no such label. It does not matter
which functions a template may call besides: where more of them are known no template is read differently. -/
namespace LogSql.Template

namespace Parse

/-- A reader that reads whatever another one does, and the same of it. -/
def Extends {α : Type} (p q : Parse α) : Prop := ∀ s r, p s = some r → q s = some r

namespace Extends

variable {α β : Type} {p q : Parse α} {f g : α → Parse β}

theorem refl (p : Parse α) : Extends p p := fun _ _ ok => ok

theorem refused (q : Parse β) : Extends ((refuse : Parse α) >>= f) q := fun _ _ ok => nomatch ok

theorem bind (first : Extends p q) (rest : ∀ a, Extends (f a) (g a)) :
    Extends (p >>= f) (q >>= g) := by
  intro s r ok
  obtain ⟨⟨a,s'⟩,here,later⟩ := Option.bind_eq_some_iff.mp ok
  exact Option.bind_eq_some_iff.mpr ⟨(a,s'),first s _ here,rest a s' r later⟩

theorem ite {C : Prop} [Decidable C] {p' q' : Parse α} (yes : Extends p q) (no : Extends p' q') :
    Extends (if C then p else p') (if C then q else q') := by
  split
  · exact yes
  · exact no

theorem inOwnTree (inner : Extends p q) : Extends (inOwnTree p) (inOwnTree q) :=
  .bind (.refl _) fun _ => .bind (.refl _) fun _ => .bind inner fun _ => .refl _

end Extends

/-- The readers of pipelines, each of which reads more where more is known. -/
structure PipesExtend (known more : Text → Bool) (n : Nat) : Prop where
  pipeline : ∀ inRange last, Extends (pipeline known inRange last n) (pipeline more inRange last n)
  commands : ∀ last, Extends (commands known last n) (commands more last n)
  command : Extends (command known n) (command more n)
  operand : Extends (operand? known n) (operand? more n)

/-- The readers of parts likewise. -/
structure PartsExtend (known more : Text → Bool) (n : Nat) : Prop where
  items : Extends (items known n) (items more n)
  item : Extends (item known n) (item more n)
  guarded : ∀ guard, Extends (guarded known guard n) (guarded more guard n)

variable {known more : Text → Bool} (wider : ∀ name, known name = true → more name = true)
include wider

/-- The only reader that asks what is known is that of an operand. -/
theorem pipesExtend (n : Nat) : PipesExtend known more n := by
  induction n with
  | zero => exact ⟨fun _ _ => .refl _,fun _ => .refl _,.refl _,.refl _⟩
  | succ n ih =>
    refine ⟨fun inRange last => ?_,fun last => ?_,?_,?_⟩
    · rw [pipeline,pipeline]
      exact .bind (.refl _) fun _ => .bind (ih.commands _) fun _ => .refl _
    · rw [commands,commands]
      refine .bind (.refl _) fun token => ?_
      cases token with
      | none => exact .refl _
      | some token =>
        refine .ite (.refl _) (.bind ih.command fun _ => .ite (.refused _) ?_)
        exact .bind (ih.commands _) fun _ => .refl _
    · rw [command,command]
      refine .bind (.refl _) fun _ => .bind ih.operand fun operand => .bind (.refl _) fun token => ?_
      cases token with
      | none => exact .refl _
      | some token =>
        cases token with
        | space => exact .bind ih.command fun _ => .refl _
        | _ => exact .refl _
    · rw [operand?,operand?]
      refine .bind (.refl _) fun token => ?_
      cases token with
      | none => exact .refl _
      | some token =>
        cases token with
        | identifier name =>
          cases named : known name with
          | false => simpa [named] using .refused _
          | true => simpa [named,wider name named] using .refl _
        | leftParen => exact .bind (.refl _) fun _ => .bind (ih.pipeline _ _) fun _ => .refl _
        | _ => exact .refl _

theorem itemExtends {n : Nat} (ih : PartsExtend known more n) :
    Extends (item known (n + 1)) (item more (n + 1)) := by
  have pipe := (pipesExtend wider n).pipeline
  rw [item,item]
  refine .bind (.refl _) fun token => ?_
  cases token with
  | none => exact .refl _
  | some token =>
    cases token with
    | leftDelim =>
      have action := Extends.bind (pipe false .rightDelim) fun p =>
        .refl (pure (Item.part (.action p)))
      refine .bind (.refl _) fun word => ?_
      cases word with
      | none => exact action
      | some word =>
        cases word with
        | keyword k =>
          refine .bind (.refl _) fun _ => ?_
          cases k with
          | block =>
            refine .bind (.refl _) fun _ => .bind (pipe _ _) fun _ => ?_
            exact .bind ih.items.inOwnTree fun _ => .refl _
          | condition | within | range => exact .bind (ih.guarded _) fun _ => .refl _
          | template =>
            refine .bind (.refl _) fun _ => .bind (.refl _) fun _ => .ite (.refl _) ?_
            exact .bind (pipe _ _) fun _ => .refl _
          | _ => exact .refl _
        | _ => exact action
    | _ => exact .refl _

theorem guardedExtends {n : Nat} (ih : PartsExtend known more n) (guard : Guard) :
    Extends (guarded known guard (n + 1)) (guarded more guard (n + 1)) := by
  have pipe := (pipesExtend wider n).pipeline
  -- What follows the items is another guard, or parts without one.
  have chained {f : Part → Parse Part} (guard : Guard) := Extends.bind (.refl next) fun _ =>
    Extends.bind (ih.guarded guard) fun part => .refl (f part)
  have alone {f : List Part × Bool → Parse Part} := Extends.bind ih.items fun no => .refl (f no)
  rw [guarded,guarded]
  refine .bind (.refl _) fun _ => .bind (pipe _ _) fun _ => .bind (.refl _) fun _ => ?_
  refine .bind ih.items fun body => ?_
  obtain ⟨yes,closed⟩ := body
  refine .bind (.refl _) fun _ => .ite (.refl _) (.bind (.refl _) fun token => ?_)
  cases token with
  | none => cases guard <;> exact alone
  | some token =>
    cases token with
    | keyword k =>
      cases guard <;> cases k
      all_goals first | exact alone | exact chained _
    | _ => cases guard <;> exact alone

theorem partsExtend (n : Nat) : PartsExtend known more n := by
  induction n with
  | zero => exact ⟨.refl _,.refl _,fun _ => .refl _⟩
  | succ n ih =>
    refine ⟨?_,itemExtends wider ih,guardedExtends wider ih⟩
    rw [items,items]
    refine .bind ih.item fun found => ?_
    cases found with
    | part p => exact .bind ih.items fun _ => .refl _
    | _ => exact .refl _

theorem rootExtends (n : Nat) : Extends (root known n) (root more n) := by
  have parts (n : Nat) := partsExtend wider n
  induction n with
  | zero => exact .refl _
  | succ n ih =>
    have plain : Extends (plainItem known (root known n)) (plainItem more (root more n)) := by
      refine .bind (.refl _) fun s => .bind (parts _).item fun found => ?_
      cases found with
      | part p => exact .bind ih fun _ => .refl _
      | _ => exact .refl _
    rw [root,root]
    refine .bind (.refl _) fun s => ?_
    cases s.tokens with
    | nil => exact .refl _
    | cons token rest =>
      cases token with
      | leftDelim =>
        dsimp only
        generalize rest.dropWhile (fun t => t = .space) = behind
        cases behind with
        | nil => exact plain
        | cons word after =>
          cases word with
          | keyword k =>
            cases k with
            | define =>
              refine .bind (.refl _) fun _ => .bind (.refl _) fun _ => .bind (.refl _) fun _ => ?_
              refine .bind (parts n).items.inOwnTree fun _ => .ite (.refused _) ?_
              exact .bind (.refl _) fun _ => ih
            | _ => exact plain
          | _ => exact plain
      | _ => exact plain

end Parse

theorem parseMore {known more : Text → Bool} {name text : Text} {trees : Trees}
    (wider : ∀ name, known name = true → more name = true) (ok : parse known name text = some trees) :
    parse more name text = some trees := by
  obtain ⟨ts,read,ok⟩ := Option.bind_eq_some_iff.mp ok
  obtain ⟨⟨parts,s⟩,root,added⟩ := Option.bind_eq_some_iff.mp ok
  refine Option.bind_eq_some_iff.mpr ⟨ts,read,Option.bind_eq_some_iff.mpr ⟨(parts,s),?_,added⟩⟩
  exact Parse.rootExtends wider _ _ _ root

end LogSql.Template

/-! ### Texts and labels -/

namespace LogSql

namespace Template

/-- A tree that was added can be found. -/
theorem addSome {ts trees : Trees} {name : Text} {parts : List Part}
    (ok : ts.add name parts = some trees) : ∃ tree, trees.get? name = some tree := by
  have front : Trees.get? ((name,parts) :: ts) name = some parts := by simp [Trees.get?]
  unfold Trees.add at ok
  split at ok
  · cases ok
    exact ⟨parts,front⟩
  · rename_i old present
    split at ok
    · cases ok
      exact ⟨parts,front⟩
    · split at ok
      · cases ok
        exact ⟨old,present⟩
      · contradiction

theorem parseSome {known : Text → Bool} {name text : Text} {trees : Trees}
    (ok : parse known name text = some trees) : ∃ tree, trees.get? name = some tree := by
  obtain ⟨_,_,ok⟩ := Option.bind_eq_some_iff.mp ok
  obtain ⟨_,_,added⟩ := Option.bind_eq_some_iff.mp ok
  exact addSome added

/-- A text is printed as it is. -/
theorem textPlain (t : Text) : (Value.text t).plain = t := by
  simp [Value.plain,Value.shown,Directive.pad,Directive.truncated]

theorem runBind {α β : Type} {first : Run α} {m m' : Machine} {a : α}
    (ran : first.run.run m = (.ok a,m')) (rest : α → Run β) :
    (first >>= rest).run.run m = (rest a).run.run m' := by
  simp only [ExceptT.run_bind,StateT.run_bind,ran]
  rfl

/-- An action prints the text that its pipeline ends with. -/
theorem actionRun {p : Program} {call : Text → Value → Run Unit} {dot : Value} {q : Pipe} {t : Text}
    {m m' : Machine} (ran : (pipe p dot q).run.run m = (.ok (.text t),m')) (silent : q.vars = []) :
    (part p call dot (.action q)).run.run m = (.ok (), { m' with printed := t :: m'.printed }) := by
  rw [part]
  refine (runBind ran _).trans ?_
  simp only [silent,List.isEmpty_nil,if_true,reduceCtorEq,if_false,textPlain]
  rfl

/-- A template whose parts come to their end prints what they print. -/
theorem runTree {p : Program} {tree : List Part} (found : p.trees.get? p.name = some tree)
    {data : Labels} {printed : List Text} {vars : List (Text × Value)}
    (ran : (parts p (callNamed p 1999) (.table data) tree).run.run
      ⟨[],[([Text.byte '$'], .table data)]⟩ = (.ok (),⟨printed,vars⟩)) :
    p.run data = (Text.concat printed.reverse,true) := by
  have depth : maxCallDepth = 1999 + 1 := rfl
  have whole : (callNamed p maxCallDepth p.name (.table data)).run.run ⟨[],[]⟩ =
      (.ok (),⟨printed,[]⟩) := by
    rw [depth,callNamed,found]
    exact runBind ran _
  rw [Program.run,whole]

end Template

namespace LineTemplate

open Template (Program Part part parts runBind)

/-- What a template prints for a piece. -/
def Piece.shown (data : Labels) : Piece → Text
  | text t => t
  | label name => (data.get? name).getD []

section Running

variable {p : Program} (lenient : p.strict = false) {call : Text → Template.Value → Template.Run Unit}
include lenient

theorem pieceRun {x : Part} {piece : Piece} (read : piece? x = some piece) (data : Labels)
    (m : Template.Machine) :
    (part p call (.table data) x).run.run m =
      (.ok (), { m with printed := piece.shown data :: m.printed }) := by
  unfold piece? at read
  split at read
  · cases read
    rfl
  · cases read
    rename_i assigns name
    have field : Template.fieldPath p.strict (.table data) false [name] =
        some (.text ((data.get? name).getD [])) := by
      rw [Template.fieldPath,Template.fieldOf,lenient]
      cases data.get? name <;> rfl
    have ran : (Template.pipe p (.table data) ⟨assigns,[],[[.field [name]]]⟩).run.run m =
        (.ok (.text ((data.get? name).getD [])),m) := by
      rw [Template.pipe,Template.commands,Template.command]
      simp only [List.isEmpty_nil,Option.isSome_none,Bool.not_true,Bool.or_false,field]
      rfl
    exact Template.actionRun ran rfl
  · contradiction

theorem piecesRun {tree : List Part} {pieces : List Piece} (read : tree.mapM piece? = some pieces)
    (data : Labels) (m : Template.Machine) :
    (parts p call (.table data) tree).run.run m =
      (.ok (), { m with printed := (pieces.map (Piece.shown data)).reverse ++ m.printed }) := by
  induction tree generalizing pieces m with
  | nil =>
    cases read
    rfl
  | cons x tree ih =>
    rw [List.mapM_cons] at read
    obtain ⟨piece,first,read⟩ := Option.bind_eq_some_iff.mp read
    obtain ⟨more,rest,read⟩ := Option.bind_eq_some_iff.mp read
    cases read
    rw [parts,runBind (pieceRun lenient first data m),ih rest]
    simp

/-- A template of texts and labels comes to its end and has printed them in order. -/
theorem programRun {pieces : List Piece} {tree : List Part} (found : p.trees.get? p.name = some tree)
    (read : tree.mapM piece? = some pieces) (data : Labels) :
    p.run data = (pieces.flatMap (Piece.shown data),true) := by
  rw [Template.runTree found (piecesRun lenient read data _)]
  simp [Text.concat,List.flatMap]

end Running

/-- What is read as texts and labels is read by the formatter too, whatever it may call. -/
theorem formatPieces {text : Text} {pieces : List Piece} (simple : pieces? text = some pieces)
    (f : Formatter) (r : Row) :
    (f.format text r).1 = some (pieces.flatMap (Piece.shown (dataOf r)),true) := by
  obtain ⟨trees,parsed,read⟩ := Option.bind_eq_some_iff.mp simple
  obtain ⟨tree,found⟩ := Template.parseSome parsed
  have known : parse? text = some { name, trees, functions := allFunctions } := by
    rw [parse?,Template.parseMore (by simp) parsed]
    rfl
  rw [found] at read
  have ran := programRun (p := { name, trees, functions := allFunctions }) rfl found read (dataOf r)
  rw [Formatter.format,Formatter.parse,known]
  exact congrArg some ran

end LineTemplate
end LogSql
