/-! Computations that can fail. What is known of a result is known of the steps it came from. -/
namespace LogSql

theorem bindOk {ε α β : Type} {x : Except ε α} {f : α → Except ε β} {b : β}
    (ok : x.bind f = .ok b) : ∃ a, x = .ok a ∧ f a = .ok b := by
  cases x with
  | error err => contradiction
  | ok a => exact ⟨a,rfl,ok⟩

theorem mapOk {ε α β : Type} {x : Except ε α} {f : α → β} {b : β} (ok : x.map f = .ok b) :
    ∃ a, x = .ok a ∧ f a = b := by
  cases x with
  | error err => contradiction
  | ok a => exact ⟨a,rfl,Except.ok.inj ok⟩

/-- A check that was passed. -/
theorem guardOk {ε α β : Type} {P : Prop} [Decidable P] {err : ε} {f : β → Except ε α}
    {x : Except ε α} {a : α} (ok : (if P then throw err >>= f else x) = .ok a) : ¬ P ∧ x = .ok a := by
  split at ok
  · contradiction
  · exact ⟨‹_›,ok⟩

theorem mapMOk {ε α β : Type} {f : α → Except ε β} {xs : List α} {ys : List β}
    (ok : xs.mapM f = .ok ys) : ∀ y ∈ ys, ∃ x ∈ xs, f x = .ok y := by
  induction xs generalizing ys with
  | nil =>
    cases ok
    simp
  | cons x xs ih =>
    rw [List.mapM_cons] at ok
    obtain ⟨y,head,ok⟩ := bindOk ok
    obtain ⟨rest,tail,ok⟩ := bindOk ok
    cases ok
    intro z mem
    rcases List.mem_cons.mp mem with rfl | later
    · exact ⟨x,List.mem_cons_self,head⟩
    · obtain ⟨w,inside,found⟩ := ih tail z later
      exact ⟨w,List.mem_cons_of_mem _ inside,found⟩

theorem mapMSucceeds {ε α β : Type} {f : α → Except ε β} {xs : List α} :
    (∃ ys, xs.mapM f = .ok ys) ↔ ∀ x ∈ xs, ∃ y, f x = .ok y := by
  induction xs with
  | nil => exact ⟨fun _ => by simp,fun _ => ⟨[],rfl⟩⟩
  | cons x xs ih =>
    rw [List.mapM_cons,List.forall_mem_cons,← ih]
    constructor
    · rintro ⟨ys,ok⟩
      obtain ⟨y,head,ok⟩ := bindOk ok
      obtain ⟨rest,tail,_⟩ := bindOk ok
      exact ⟨⟨y,head⟩,rest,tail⟩
    · rintro ⟨⟨y,head⟩,rest,tail⟩
      exact ⟨y :: rest,by rw [head,tail]; rfl⟩

theorem mapSucceeds {ε α β : Type} {x : Except ε α} {f : α → β} :
    (∃ b, x.map f = .ok b) ↔ ∃ a, x = .ok a := by
  constructor
  · rintro ⟨b,ok⟩
    obtain ⟨a,found,_⟩ := mapOk ok
    exact ⟨a,found⟩
  · rintro ⟨a,rfl⟩
    exact ⟨f a,rfl⟩

theorem mapMLength {ε α β : Type} {f : α → Except ε β} {xs : List α} {ys : List β}
    (ok : xs.mapM f = .ok ys) : ys.length = xs.length := by
  induction xs generalizing ys with
  | nil =>
    cases ok
    rfl
  | cons x xs ih =>
    rw [List.mapM_cons] at ok
    obtain ⟨y,_,ok⟩ := bindOk ok
    obtain ⟨rest,tail,ok⟩ := bindOk ok
    cases ok
    simp [ih tail]

/-- What is read off the results is what is read off their sources. -/
theorem mapMImage {ε α β γ : Type} {f : α → Except ε β} {g : β → γ} {h : α → γ} {xs : List α}
    {ys : List β} (each : ∀ x y, f x = .ok y → g y = h x) (ok : xs.mapM f = .ok ys) :
    ys.map g = xs.map h := by
  induction xs generalizing ys with
  | nil =>
    cases ok
    rfl
  | cons x xs ih =>
    rw [List.mapM_cons] at ok
    obtain ⟨y,head,ok⟩ := bindOk ok
    obtain ⟨rest,tail,ok⟩ := bindOk ok
    cases ok
    rw [List.map_cons,List.map_cons,each x y head,ih tail]

theorem mapMAppend {ε α β : Type} {f : α → Except ε β} {xs ys : List α} {zs : List β} :
    (xs ++ ys).mapM f = .ok zs ↔
      ∃ front back, xs.mapM f = .ok front ∧ ys.mapM f = .ok back ∧ zs = front ++ back := by
  rw [List.mapM_append]
  constructor
  · intro ok
    obtain ⟨front,first,ok⟩ := bindOk ok
    obtain ⟨back,second,ok⟩ := bindOk ok
    cases ok
    exact ⟨front,back,first,second,rfl⟩
  · rintro ⟨front,back,first,second,rfl⟩
    rw [first,second]
    rfl

@[simp] theorem mapErrorSuccess {ε δ α : Type} (f : ε → δ) (a : α) :
    (Except.ok a : Except ε α).mapError f = .ok a := rfl

@[simp] theorem mapErrorFailure {ε δ α : Type} (f : ε → δ) (err : ε) :
    (Except.error err : Except ε α).mapError f = .error (f err) := rfl

theorem mapErrorOk {ε δ α : Type} {x : Except ε α} {f : ε → δ} {a : α}
    (ok : x.mapError f = .ok a) : x = .ok a := by
  cases x with
  | error err => contradiction
  | ok b => exact congrArg Except.ok (Except.ok.inj ok)

theorem mapErrorSucceeds {ε δ α : Type} {x : Except ε α} {f : ε → δ} :
    (∃ a, x.mapError f = .ok a) ↔ ∃ a, x = .ok a := by
  constructor
  · rintro ⟨a,ok⟩
    exact ⟨a,mapErrorOk ok⟩
  · rintro ⟨a,rfl⟩
    exact ⟨a,rfl⟩

/-- A run over a list that does one thing with each of its items and tells the place of what fails. -/
structure Placed {ε δ α β : Type} (f : α → Except ε β) (place : Nat → ε → δ)
    (run : Nat → List α → Except δ (List β)) : Prop where
  nil : ∀ i, run i [] = .ok []
  cons : ∀ i x xs, run i (x :: xs) =
    ((f x).mapError (place i)).bind fun y => (run (i + 1) xs).bind fun ys => .ok (y :: ys)

namespace Placed

variable {ε δ α β : Type} {f : α → Except ε β} {place : Nat → ε → δ}
variable {run : Nat → List α → Except δ (List β)}

theorem ok (placed : Placed f place run) {i : Nat} {xs : List α} {ys : List β} :
    run i xs = .ok ys ↔ xs.mapM f = .ok ys := by
  induction xs generalizing i ys with
  | nil =>
    rw [placed.nil,List.mapM_nil]
    exact ⟨fun done => by cases done; rfl,fun done => by cases done; rfl⟩
  | cons x xs ih =>
    rw [placed.cons,List.mapM_cons]
    constructor
    · intro done
      obtain ⟨y,head,done⟩ := bindOk done
      obtain ⟨rest,tail,done⟩ := bindOk done
      cases done
      rw [mapErrorOk head,ih.mp tail]
      rfl
    · intro done
      obtain ⟨y,head,done⟩ := bindOk done
      obtain ⟨rest,tail,done⟩ := bindOk done
      cases done
      rw [head,mapErrorSuccess,Except.bind,ih.mpr tail]
      rfl

/-- The first item that fails decides the error. -/
theorem fails (placed : Placed f place run) {i : Nat} {xs : List α} {err : δ}
    (failed : run i xs = .error err) : ∃ (before : List α) (x : α) (after : List α) (cause : ε)
      (ys : List β), xs = before ++ x :: after ∧ before.mapM f = .ok ys ∧ f x = .error cause ∧
      err = place (i + before.length) cause := by
  induction xs generalizing i err with
  | nil => cases (placed.nil i).symm.trans failed
  | cons x xs ih =>
    rw [placed.cons] at failed
    cases head : f x with
    | error cause =>
      rw [head] at failed
      cases failed
      exact ⟨[],x,xs,cause,[],rfl,rfl,head,rfl⟩
    | ok y =>
      rw [head] at failed
      cases tail : run (i + 1) xs with
      | ok rest =>
        rw [tail] at failed
        cases failed
      | error other =>
        rw [tail] at failed
        cases failed
        obtain ⟨before,z,after,cause,ys,rfl,earlier,here,rfl⟩ := ih tail
        refine ⟨x :: before,z,after,cause,y :: ys,rfl,?_,here,?_⟩
        · rw [List.mapM_cons,head,earlier]
          rfl
        · rw [List.length_cons,Nat.add_assoc,Nat.add_comm 1]

end Placed

/-- Results that come from those of another computation come from them all over a list. -/
theorem mapMThrough {ε α β γ : Type} {f : α → Except ε β} {g : α → Except ε γ} {h : γ → β}
    {P : γ → Prop} {xs : List α} {ys : List β}
    (each : ∀ x ∈ xs, ∀ y, f x = .ok y → ∃ z, g x = .ok z ∧ y = h z ∧ P z) (ok : xs.mapM f = .ok ys) :
    ∃ zs, xs.mapM g = .ok zs ∧ ys = zs.map h ∧ ∀ z ∈ zs, P z := by
  induction xs generalizing ys with
  | nil =>
    cases ok
    exact ⟨[],rfl,rfl,by simp⟩
  | cons x xs ih =>
    rw [List.mapM_cons] at ok
    obtain ⟨y,head,ok⟩ := bindOk ok
    obtain ⟨rest,tail,ok⟩ := bindOk ok
    cases ok
    obtain ⟨z,given,rfl,holds⟩ := each x List.mem_cons_self y head
    obtain ⟨zs,others,rfl,all⟩ := ih (fun w mem => each w (List.mem_cons_of_mem _ mem)) tail
    refine ⟨z :: zs,?_,rfl,List.forall_mem_cons.mpr ⟨holds,all⟩⟩
    rw [List.mapM_cons,given,others]
    rfl

/-- What every step of a fold keeps, the fold keeps. -/
theorem foldOk {ε α β : Type} {P : β → Prop} {f : β → α → Except ε β} {xs : List α} {first last : β}
    (step : ∀ x ∈ xs, ∀ b next, P b → f b x = .ok next → P next) (start : P first)
    (ok : xs.foldlM f first = .ok last) : P last := by
  induction xs generalizing first with
  | nil =>
    cases ok
    exact start
  | cons x xs ih =>
    rw [List.foldlM_cons] at ok
    obtain ⟨b,head,tail⟩ := bindOk ok
    exact ih (fun y mem => step y (List.mem_cons_of_mem _ mem))
      (step x List.mem_cons_self first b start head) tail

/-- A fold that succeeds succeeds at each of its steps. -/
theorem foldEach {ε α β : Type} {f : β → α → Except ε β} {xs : List α} {first last : β}
    (ok : xs.foldlM f first = .ok last) : ∀ x ∈ xs, ∃ b next, f b x = .ok next := by
  induction xs generalizing first with
  | nil => simp
  | cons x xs ih =>
    rw [List.foldlM_cons] at ok
    obtain ⟨b,head,tail⟩ := bindOk ok
    exact List.forall_mem_cons.mpr ⟨⟨first,b,head⟩,ih tail⟩

/-- Every error of a computation is one of a kind. -/
def FailsWith {ε α : Type} (P : ε → Prop) (x : Except ε α) : Prop := ∀ err, x = .error err → P err

namespace FailsWith

variable {ε δ α β : Type} {P : ε → Prop}

@[simp] theorem ok {a : α} : FailsWith P (.ok a : Except ε α) := by
  intro err same
  contradiction

@[simp] theorem error {err : ε} : FailsWith P (.error err : Except ε α) ↔ P err := by
  constructor
  · intro h
    exact h err rfl
  · intro h other same
    cases same
    exact h

theorem bind {x : Except ε α} {f : α → Except ε β} (first : FailsWith P x)
    (next : ∀ a, x = .ok a → FailsWith P (f a)) : FailsWith P (x.bind f) := by
  cases x with
  | error err => exact error.mpr (first err rfl)
  | ok a => exact next a rfl

@[simp] theorem map {x : Except ε α} {f : α → β} : FailsWith P (x.map f) ↔ FailsWith P x := by
  cases x <;> simp [Except.map]

theorem mapError {x : Except δ α} {f : δ → ε} (each : ∀ err, P (f err)) :
    FailsWith P (x.mapError f) := by
  cases x with
  | error err => exact error.mpr (each err)
  | ok a => exact ok

theorem ite {C : Prop} [Decidable C] {x y : Except ε α} (yes : C → FailsWith P x)
    (no : ¬ C → FailsWith P y) : FailsWith P (if C then x else y) := by
  split
  · exact yes ‹_›
  · exact no ‹_›

theorem mapM {f : α → Except ε β} {xs : List α} (each : ∀ x ∈ xs, FailsWith P (f x)) :
    FailsWith P (xs.mapM f) := by
  induction xs with
  | nil => exact ok
  | cons x xs ih =>
    rw [List.mapM_cons]
    refine (each x List.mem_cons_self).bind fun b _ => ?_
    refine (ih fun y mem => each y (List.mem_cons_of_mem _ mem)).bind fun bs _ => ?_
    exact ok

theorem fold {f : β → α → Except ε β} {xs : List α} (each : ∀ b, ∀ x ∈ xs, FailsWith P (f b x))
    (b : β) : FailsWith P (xs.foldlM f b) := by
  induction xs generalizing b with
  | nil => exact ok
  | cons x xs ih =>
    rw [List.foldlM_cons]
    refine (each b x List.mem_cons_self).bind fun b' _ => ?_
    exact ih (fun b y mem => each b y (List.mem_cons_of_mem _ mem)) b'

end FailsWith

/-- Every result of a computation has a property. -/
def Gives {ε α : Type} (P : α → Prop) (x : Except ε α) : Prop := ∀ a, x = .ok a → P a

namespace Gives

variable {ε α β : Type} {P : α → Prop} {Q : β → Prop}

@[simp] theorem ok {a : α} : Gives P (.ok a : Except ε α) ↔ P a := by
  constructor
  · intro h
    exact h a rfl
  · intro h other same
    cases same
    exact h

@[simp] theorem error {err : ε} : Gives P (.error err : Except ε α) := by
  intro a same
  contradiction

theorem bind {x : Except ε α} {f : α → Except ε β} (first : Gives P x)
    (next : ∀ a, P a → Gives Q (f a)) : Gives Q (x.bind f) := by
  cases x with
  | error err => exact error
  | ok a => exact next a (first a rfl)

theorem imp {P' : α → Prop} {x : Except ε α} (first : Gives P x) (weaker : ∀ a, P a → P' a) :
    Gives P' x := fun a ok => weaker a (first a ok)

theorem ite {C : Prop} [Decidable C] {x y : Except ε α} (yes : C → Gives P x)
    (no : ¬ C → Gives P y) : Gives P (if C then x else y) := by
  split
  · exact yes ‹_›
  · exact no ‹_›

end Gives

theorem okAny {ε α : Type} {x : Except ε α} {p : α → Bool} (any : x.toOption.any p = true) :
    ∃ a, x = .ok a ∧ p a = true := by
  cases x with
  | error err => contradiction
  | ok a => exact ⟨a,rfl,any⟩

theorem errorAny {ε α : Type} {x : Except ε α} {p : ε → Bool}
    (any : (match x with | .error err => some err | .ok _ => none).any p = true) :
    ∃ err, x = .error err ∧ p err = true := by
  cases x with
  | error err => exact ⟨err,rfl,any⟩
  | ok a => contradiction

end LogSql
