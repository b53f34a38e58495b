import LogSql.Template.Run
import LogSql.Proofs.Computation

/-! What templates print. A run only adds to what is printed, whatever it evaluates, so that a template
which starts with a text prints that text first. -/
namespace LogSql.Template

/-! ### Runs only print -/

/-- A run keeps what was printed before it. -/
def Adds {α : Type} (r : Run α) : Prop := ∀ m : Machine, m.printed <:+ (r.run.run m).2.printed

section Runs

variable {α β : Type}

theorem addsPure (a : α) : Adds (pure a : Run α) := fun _ => List.suffix_rfl

theorem addsStop (s : Stop) : Adds (throw s : Run α) := fun _ => List.suffix_rfl

theorem addsFail : Adds (Run.fail : Run α) := addsStop .failed

theorem addsBind {r : Run α} {f : α → Run β} (first : Adds r) (then_ : ∀ a, Adds (f a)) :
    Adds (r >>= f) := by
  intro m
  have before := first m
  simp only [ExceptT.run_bind,StateT.run_bind]
  cases result : r.run.run m with
  | mk outcome m' =>
    simp only [result] at before
    cases outcome with
    | ok a => exact before.trans (then_ a m')
    | error s => exact before

theorem addsIte {P : Prop} [Decidable P] {a b : Run α} (yes : Adds a) (no : Adds b) :
    Adds (if P then a else b) := by
  split
  · exact yes
  · exact no

theorem addsOption (o : Option α) : Adds (Run.ofOption o) := by
  cases o with
  | none => exact addsFail
  | some a => exact addsPure a

theorem addsGuard {P : Prop} [Decidable P] {r : Run α} (rest : Adds r) :
    Adds (if P then Run.fail >>= fun _ : PUnit => r else r) :=
  addsIte (addsBind addsFail fun _ => rest) rest

theorem addsCatch {r : Run α} {handler : Stop → Run α} (body : Adds r)
    (stopped : ∀ s, Adds (handler s)) : Adds (tryCatch r handler) := by
  intro m
  have before := body m
  cases result : r.run.run m with
  | mk outcome m' =>
    have state : StateT.run r m = (outcome,m') := result
    simp only [result] at before
    simp only [tryCatch,tryCatchThe,MonadExceptOf.tryCatch,ExceptT.tryCatch,ExceptT.run_mk,
      StateT.run_bind]
    rw [state]
    -- The handler goes on from what the body had printed when it stopped.
    cases outcome with
    | ok a => exact before
    | error s => exact before.trans (stopped s m')

theorem addsGet : Adds (get : Run Machine) := fun _ => List.suffix_rfl

theorem addsModify {f : Machine → Machine} (kept : ∀ m, m.printed <:+ (f m).printed) :
    Adds (modify f : Run Unit) := kept

theorem addsPrint (t : Text) : Adds (Run.print t) :=
  addsModify fun _ => List.suffix_cons ..

theorem addsLookup (name : Text) : Adds (Run.lookup name) :=
  addsBind addsGet fun _ => addsOption _

theorem addsDeclare (name : Text) (v : Value) : Adds (Run.declare name v) :=
  addsModify fun _ => List.suffix_rfl

theorem addsAssign (name : Text) (v : Value) : Adds (Run.assign name v) :=
  addsBind addsGet fun _ => addsBind (addsOption _) fun _ => addsModify fun _ => List.suffix_rfl

theorem addsAssignAt (distance : Nat) (v : Value) : Adds (Run.assignAt distance v) :=
  addsModify fun _ => List.suffix_rfl

theorem addsMark : Adds Run.mark := addsBind addsGet fun _ => addsPure _

theorem addsRelease (mark : Nat) : Adds (Run.release mark) :=
  addsModify fun _ => List.suffix_rfl

theorem addsLoop {xs : List β} {init : α} {f : β → α → Run (ForInStep α)}
    (each : ∀ x a, Adds (f x a)) : Adds (forIn xs init f) := by
  induction xs generalizing init with
  | nil => exact addsPure init
  | cons x xs ih =>
    rw [List.forIn_cons]
    refine addsBind (each x init) fun step => ?_
    cases step with
    | done a => exact addsPure a
    | yield a => exact ih

end Runs

/-! ### Values -/

theorem addsInvoke (f : Function) (args : List Value) : Adds (invoke f args) :=
  addsIte (addsOption _) addsFail

mutual

theorem argumentAdds (p : Program) (dot : Value) (kind : Kind) : (o : Operand) →
    Adds (argument p dot kind o)
  | .absent | .dot | .bool _ | .text _ => by rw [argument]; exact addsOption _
  | .number l => by
    rw [argument]
    exact addsIte (addsOption _) (addsBind (addsOption _) fun _ => addsOption _)
  | .field path => by rw [argument]; exact addsBind (addsOption _) fun _ => addsOption _
  | .variable name path => by
    rw [argument]
    exact addsBind (addsLookup name) fun _ => addsBind (addsOption _) fun _ => addsOption _
  | .function name => by
    rw [argument]
    exact addsBind (addsOption _) fun f => addsBind (addsInvoke f []) fun _ => addsOption _
  | .pipe q => by rw [argument]; exact addsBind (pipeAdds p dot q) fun _ => addsOption _
  | .chain base path => by
    rw [argument]
    exact addsBind (argumentAdds p dot .any base) fun _ => addsBind (addsOption _) fun _ => addsOption _

theorem argumentsAdds (p : Program) (dot : Value) (f : Function) (i : Nat) : (os : List Operand) →
    Adds (arguments p dot f i os)
  | [] => by rw [arguments]; exact addsPure []
  | o :: rest => by
    rw [arguments]
    exact addsBind (argumentAdds p dot _ o) fun _ =>
      addsBind (argumentsAdds p dot f (i + 1) rest) fun _ => addsPure _

theorem commandAdds (p : Program) (dot : Value) (final : Option Value) : (c : List Operand) →
    Adds (command p dot final c)
  | [] => by rw [command]; exact addsFail
  | .field path :: rest => by rw [command]; exact addsOption _
  | .chain base path :: rest => by
    rw [command]
    exact addsBind (argumentAdds p dot .any base) fun _ => addsOption _
  | .variable name path :: rest => by
    rw [command]
    exact addsBind (addsLookup name) fun _ => addsGuard (addsOption _)
  | .function name :: rest => by
    rw [command]
    refine addsBind (addsOption _) fun f => addsGuard (addsIte (connectiveAdds p dot false final rest)
      (addsIte (connectiveAdds p dot true final rest) ?_))
    refine addsBind (argumentsAdds p dot f 0 rest) fun args => ?_
    cases final with
    | none => exact addsInvoke f _
    | some v => exact addsBind (addsOption _) fun _ => addsInvoke f _
  | .pipe q :: rest => by rw [command]; exact addsIte addsFail (pipeAdds p dot q)
  | .dot :: rest | .bool _ :: rest | .text _ :: rest => by
    rw [command]
    exact addsIte addsFail (addsPure _)
  | .number l :: rest => by rw [command]; exact addsIte addsFail (addsOption _)
  | .absent :: rest => by rw [command]; exact addsFail

theorem connectiveAdds (p : Program) (dot : Value) (stop : Bool) (final : Option Value) :
    (os : List Operand) → Adds (connective p dot stop final os)
  | [] => by rw [connective]; exact addsOption final
  | o :: rest => by
    rw [connective]
    exact addsBind (argumentAdds p dot .any o) fun v => addsIte (addsPure v)
      (addsIte (addsPure v) (connectiveAdds p dot stop final rest))

theorem commandsAdds (p : Program) (dot : Value) (final : Option Value) : (cs : List (List Operand)) →
    Adds (commands p dot final cs)
  | [] => by rw [commands]; exact addsPure final
  | c :: rest => by
    rw [commands]
    exact addsBind (commandAdds p dot final c) fun v => commandsAdds p dot (some v) rest

theorem pipeAdds (p : Program) (dot : Value) : (q : PipeOf Operand) → Adds (pipe p dot q)
  | ⟨assigns,vars,cs⟩ => by
    rw [pipe]
    exact addsBind (commandsAdds p dot none cs) fun found => addsBind (addsOption found) fun v =>
      addsBind (addsLoop fun name _ => addsIte (addsBind (addsAssign name v) fun _ => addsPure _)
        (addsBind (addsDeclare name v) fun _ => addsPure _)) fun _ => addsPure v

end

/-! ### Parts -/

section Parts

variable {p : Program} {call : Text → Value → Run Unit}

theorem bindAdds (assigns : Bool) (vars : List Text) (key element : Value) :
    Adds (bindElement assigns vars key element) := by
  unfold bindElement
  split
  · exact addsPure ()
  · exact addsAssign _ _
  · exact addsBind (addsAssign _ _) fun _ => addsAssign _ _
  · exact addsAssignAt _ _
  · exact addsBind (addsAssignAt _ _) fun _ => addsAssignAt _ _

theorem visitAdds {body : Value → Value → Run Unit} (each : ∀ key element, Adds (body key element))
    (mark : Nat) (xs : List (Value × Value)) : Adds (visit body mark xs) := by
  induction xs with
  | nil => exact addsPure ()
  | cons x xs ih =>
    refine addsBind (addsCatch (addsBind (each x.1 x.2) fun _ => addsPure false) fun s => ?_)
      fun ended => addsBind (addsRelease mark) fun _ => addsIte (addsPure ()) ih
    cases s with
    | failed => exact addsFail
    | broke | continued => exact addsPure _

mutual

theorem partAdds (called : ∀ name v, Adds (call name v)) (dot : Value) :
    ∀ x : Part, Adds (part p call dot x)
  | .text t => by rw [part]; exact addsPrint t
  | .action q => by
    rw [part]
    exact addsBind (pipeAdds p dot q) fun v => addsIte (addsPrint _) (addsPure ())
  | .choose q yes no => by
    rw [part]
    exact addsBind addsMark fun mark => addsBind (pipeAdds p dot q) fun v =>
      addsIte (addsBind (partsAdd called dot yes) fun _ => addsRelease mark)
        (addsBind (partsAdd called dot no) fun _ => addsRelease mark)
  | .within q yes no => by
    rw [part]
    exact addsBind addsMark fun mark => addsBind (pipeAdds p dot q) fun v =>
      addsIte (addsBind (partsAdd called v yes) fun _ => addsRelease mark)
        (addsBind (partsAdd called dot no) fun _ => addsRelease mark)
  | .range q body no => by
    rw [part]
    refine addsBind addsMark fun outer => addsBind (pipeAdds p dot q) fun v =>
      addsBind addsMark fun mark => addsBind (addsOption _) fun found => ?_
    have rounds (xs : List (Value × Value)) := visitAdds (fun key element =>
      addsBind (bindAdds q.assigns q.vars key element) fun _ => partsAdd called element body) mark xs
    cases found with
    | nil => exact addsBind (partsAdd called dot no) fun _ => addsRelease outer
    | cons x xs => exact addsBind (rounds (x :: xs)) fun _ => addsRelease outer
  | .call name none => by rw [part]; exact addsBind (addsPure _) fun v => called name v
  | .call name (some q) => by rw [part]; exact addsBind (pipeAdds p dot q) fun v => called name v
  | .breakLoop => by rw [part]; exact addsStop .broke
  | .continueLoop => by rw [part]; exact addsStop .continued

theorem partsAdd (called : ∀ name v, Adds (call name v)) (dot : Value) :
    ∀ xs : List Part, Adds (parts p call dot xs)
  | [] => by rw [parts]; exact addsPure ()
  | x :: xs => by
    rw [parts]
    exact addsBind (partAdds called dot x) fun _ => partsAdd called dot xs

end

theorem callAdds (p : Program) (depth : Nat) (name : Text) (v : Value) :
    Adds (callNamed p depth name v) := by
  -- A template that is called runs with one call less.
  induction depth generalizing name v with
  | zero => exact addsFail
  | succ depth ih =>
    rw [callNamed]
    exact addsBind (addsOption _) fun tree => addsBind addsGet fun m =>
      addsBind (addsModify fun _ => List.suffix_rfl) fun _ =>
        addsBind (partsAdd ih v tree) fun _ => addsModify fun _ => List.suffix_rfl

end Parts

/-! ### Texts at the start -/

section Starts

variable {p : Program} {t : Text} {rest : List Part}

/-- What is run behind the first part of a template. -/
def behind (p : Program) (data : Labels) (rest : List Part) : Run Unit := do
  parts p (callNamed p 1999) (.table data) rest
  modify fun m => { m with vars := [] }

theorem behindAdds (p : Program) (data : Labels) (rest : List Part) : Adds (behind p data rest) :=
  addsBind (partsAdd (callAdds p 1999) (.table data) rest) fun _ => addsModify fun _ => List.suffix_rfl

/-- A text at the start of a template is printed before the parts behind it run. -/
theorem textFirst (tree : p.trees.get? p.name = some (.text t :: rest)) (data : Labels) :
    (p.run data).1 = Text.concat ((behind p data rest).run.run
      ⟨[t],[([Text.byte '$'], .table data)]⟩).2.printed.reverse := by
  have depth : maxCallDepth = 1999 + 1 := rfl
  rw [Program.run,depth,callNamed,tree]
  rfl

/-- A template prints the text that it starts with. -/
theorem runStarts (tree : p.trees.get? p.name = some (.text t :: rest)) (data : Labels) :
    ∃ more, (p.run data).1 = t ++ more := by
  obtain ⟨more,same⟩ := behindAdds p data rest ⟨[t],[([Text.byte '$'], .table data)]⟩
  rw [textFirst tree,← same]
  exact ⟨more.reverse.flatten,by simp [Text.concat]⟩

/-- A template that is nothing but a text prints it. -/
theorem runText (tree : p.trees.get? p.name = some [.text t]) (data : Labels) : (p.run data).1 = t := by
  rw [textFirst tree,behind,parts]
  exact List.append_nil t

end Starts

end LogSql.Template
