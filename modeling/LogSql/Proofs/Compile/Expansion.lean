import LogSql.Compile.Engine
import LogSql.Proofs.Computation

/-! Expansion of macro calls. The first macro that answers for a call gives the text that is compiled in
its place. Whatever the macros do, a request ends after eight of them, and until then a call and its
text are one request: nothing but the query changes from one expansion to the next. -/
namespace LogSql.Compile

open Query

namespace Engine

/-- A text that reads as a macro call. -/
def IsCall (e : Engine) (t : Text) : Prop :=
  ∃ root call, e.parse t = .ok root ∧ root.find? Kind.userMacro = some call

/-- A call and the text that the first macro answering for it gives. -/
inductive ExpandsOnce (e : Engine) (t next : Text) : Prop where
  | intro {root call : Node} {m : Macro} (read : e.parse t = .ok root)
      (called : root.find? Kind.userMacro = some call)
      (first : e.macros.find? (fun m => m.handles call) = some m) (given : m.expand call = .ok next)

/-- What a number of expansions leads to. -/
inductive Reaches (e : Engine) : Nat → Text → Text → Prop where
  | here (t : Text) : Reaches e 0 t t
  | step {k : Nat} {t next last : Text} (first : e.ExpandsOnce t next) (rest : Reaches e k next last) :
      Reaches e (k + 1) t last

/-- Compiles a request with a number of macro expansions left, and lists the macros that were asked for
a text. -/
def compileAsking (e : Engine) : (expansions : Nat) → Request → List Macro × Except Error Compiled
  | 0, r =>
    match e.parse r.query with
    | .error err => ([], .error err)
    | .ok root =>
      match root.find? Kind.userMacro with
      | none => ([], e.compileRoot r root)
      | some _ => ([], .error (.expansionTooDeep maxExpansions))
  | expansions + 1, r =>
    match e.parse r.query with
    | .error err => ([], .error err)
    | .ok root =>
      match root.find? Kind.userMacro with
      | none => ([], e.compileRoot r root)
      | some call =>
        let asked := (e.macros.find? fun m => m.handles call).toList
        match e.expand call with
        | .error err => (asked, .error err)
        | .ok text =>
          let rest := e.compileAsking expansions { r with query := text }
          (asked ++ rest.1, rest.2)

section Requests

variable {e : Engine}

theorem compileRead {r : Request} {root : Node} (read : e.parse r.query = .ok root)
    (settled : root.find? Kind.userMacro = none) (n : Nat) :
    e.compileWithin n r = e.compileRoot r root := by
  cases n <;> simp [compileWithin,read,settled,bind,Except.bind]

theorem compileCalled {r : Request} {root call : Node} (read : e.parse r.query = .ok root)
    (called : root.find? Kind.userMacro = some call) (n : Nat) :
    e.compileWithin (n + 1) r =
      (e.expand call).bind fun t => e.compileWithin n { r with query := t } := by
  simp [compileWithin,read,called,bind,Except.bind]

/-- The list beside it does not change what is compiled. -/
theorem askingResult (n : Nat) (r : Request) : (e.compileAsking n r).2 = e.compileWithin n r := by
  induction n generalizing r with
  | zero =>
    rw [compileAsking,compileWithin]
    cases e.parse r.query with
    | error err => rfl
    | ok root => cases called : root.find? Kind.userMacro <;> simp [bind,Except.bind,called] <;> rfl
  | succ n ih =>
    rw [compileAsking,compileWithin]
    cases e.parse r.query with
    | error err => rfl
    | ok root =>
      cases called : root.find? Kind.userMacro with
      | none => simp [bind,Except.bind,called]
      | some call =>
        simp only [bind,Except.bind,called]
        cases e.expand call with
        | error err => rfl
        | ok text => exact ih { r with query := text }

theorem askingBounded (n : Nat) (r : Request) : (e.compileAsking n r).1.length ≤ n := by
  induction n generalizing r with
  | zero =>
    rw [compileAsking]
    cases e.parse r.query with
    | error err => simp
    | ok root => cases called : root.find? Kind.userMacro <;> simp [called]
  | succ n ih =>
    rw [compileAsking]
    cases e.parse r.query with
    | error err => simp
    | ok root =>
      cases called : root.find? Kind.userMacro with
      | none => simp [called]
      | some call =>
        have one : (e.macros.find? fun m => m.handles call).toList.length ≤ 1 := by
          cases e.macros.find? fun m => m.handles call <;> simp
        simp only [called]
        cases e.expand call with
        | error err => exact Nat.le_trans one (Nat.le_add_left 1 n)
        | ok text =>
          have more := ih { r with query := text }
          simp only [List.length_append]
          omega

theorem askingStep {r : Request} {next : Text} (first : e.ExpandsOnce r.query next) (n : Nat) :
    ∃ m, e.compileAsking (n + 1) r =
      (m :: (e.compileAsking n { r with query := next }).1,
        (e.compileAsking n { r with query := next }).2) := by
  obtain @⟨root,call,m,read,called,answers,given⟩ := first
  have text : e.expand call = .ok next := by rw [expand,answers]; simp [given]
  exact ⟨m,by simp [compileAsking,read,called,answers,text]⟩

theorem askingReaches {k : Nat} {t last : Text} (chain : e.Reaches k t last) {r : Request}
    (start : r.query = t) (n : Nat) :
    ∃ asked, asked.length = k ∧ e.compileAsking (n + k) r =
      (asked ++ (e.compileAsking n { r with query := last }).1,
        (e.compileAsking n { r with query := last }).2) := by
  -- Every expansion of the chain takes one of those that are left, and the last text has the rest.
  induction chain generalizing r with
  | here t =>
    subst start
    exact ⟨[],rfl,rfl⟩
  | @step k t next last first _ ih =>
    subst start
    obtain ⟨m,one⟩ := askingStep first (n + k)
    obtain ⟨asked,length,more⟩ := @ih { r with query := next } rfl
    refine ⟨m :: asked,by simp [length],?_⟩
    rw [← Nat.add_assoc,one,more]
    rfl

/-- A text that is no call is compiled without asking a macro, however many may be asked. -/
theorem askingSettled {r : Request} (settled : ¬ e.IsCall r.query) (m n : Nat) :
    e.compileAsking n r = ([], e.compileWithin m r) := by
  have plain {root : Node} (read : e.parse r.query = .ok root) :
      root.find? Kind.userMacro = none :=
    Option.eq_none_iff_forall_ne_some.mpr fun call found => settled ⟨root,call,read,found⟩
  have nothing : (e.compileAsking n r).1 = [] := by
    cases n <;> rw [compileAsking] <;> cases read : e.parse r.query with
    | error err => rfl
    | ok root => simp [plain read]
  have same : e.compileWithin n r = e.compileWithin m r := by
    cases read : e.parse r.query with
    | error err => cases n <;> cases m <;> simp [compileWithin,read,bind,Except.bind]
    | ok root => cases n <;> cases m <;> simp [compileWithin,read,bind,Except.bind,plain read]
  rw [← same,← askingResult,← nothing]

/-- As many expansions as are left settle a request when they end at a text that is no call. -/
theorem askingTransparent {n k : Nat} (few : k ≤ n) {r : Request} {last : Text}
    (chain : e.Reaches k r.query last) (settled : ¬ e.IsCall last) :
    ∃ asked, asked.length = k ∧
      e.compileAsking n r = (asked, e.compileWithin n { r with query := last }) := by
  obtain ⟨left,rfl⟩ := Nat.exists_eq_add_of_le' few
  obtain ⟨asked,length,reached⟩ := askingReaches chain rfl left
  have rest := @askingSettled e { r with query := last } settled (left + k) left
  exact ⟨asked,length,by rw [reached,rest,List.append_nil]⟩

/-- When no text of a call is a call itself, one expansion is all that a request needs. -/
theorem askingOnce {r : Request} (single : ∀ t, e.ExpandsOnce r.query t → ¬ e.IsCall t)
    (m n : Nat) :
    (e.compileAsking (n + 1) r).1.length ≤ 1 ∧
      e.compileWithin (m + 1) r = e.compileWithin (n + 1) r := by
  cases read : e.parse r.query with
  | error err => simp [compileAsking,compileWithin,read,bind,Except.bind]
  | ok root =>
    cases called : root.find? Kind.userMacro with
    | none => simp [compileAsking,compileRead read called,read,called]
    | some call =>
      rw [compileCalled read called,compileCalled read called]
      cases answers : e.macros.find? fun m => m.handles call with
      | none => simp [compileAsking,read,called,answers,expand,Except.bind]
      | some first =>
        cases given : first.expand call with
        | error err => simp [compileAsking,read,called,answers,expand,given,Except.bind]
        | ok t =>
          -- Both limits allow this expansion, and its text needs no other.
          have settled := single t (.intro read called answers given)
          have once := @askingSettled e { r with query := t } settled m n
          have same := askingResult (e := e) n { r with query := t }
          rw [once] at same
          have text : e.expand call = .ok t := by rw [expand,answers]; simp [given]
          rw [text]
          exact ⟨by simp [compileAsking,read,called,answers,text,once],same⟩

/-- A call that is left when no expansion is allowed any more is refused. -/
theorem askingStopped {n : Nat} {r : Request} {last : Text} (chain : e.Reaches n r.query last)
    (called : e.IsCall last) :
    ∃ asked, asked.length = n ∧
      e.compileAsking n r = (asked, .error (.expansionTooDeep maxExpansions)) := by
  obtain ⟨asked,length,reached⟩ := askingReaches chain rfl 0
  obtain ⟨root,call,read,found⟩ := called
  rw [Nat.zero_add] at reached
  exact ⟨asked,length,by rw [reached]; simp [compileAsking,read,found]⟩

end Requests

/-- The text at the end of at most eight expansions stands for the whole request, and one macro was
asked for each of them; a call behind the eighth is refused. No request asks more macros than that,
whatever they give. -/
theorem expansionsTransparent (e : Engine) (r : Request) :
    (∀ k last, k ≤ 8 → e.Reaches k r.query last → ¬ e.IsCall last →
      e.compile r = e.compile { r with query := last } ∧ (e.compileAsking 8 r).1.length = k) ∧
    (∀ last, e.Reaches 8 r.query last → e.IsCall last →
      e.compile r = .error (.expansionTooDeep 8) ∧
        (Error.expansionTooDeep 8).class? = some .badRequest ∧ (e.compileAsking 8 r).1.length = 8) ∧
    (e.compileAsking 8 r).2 = e.compile r ∧ (e.compileAsking 8 r).1.length ≤ 8 := by
  refine ⟨fun k last few chain settled => ?_,fun last chain called => ?_,askingResult 8 r,
    askingBounded 8 r⟩
  · obtain ⟨asked,length,reached⟩ := askingTransparent few chain settled
    have result := askingResult (e := e) 8 r
    rw [reached] at result ⊢
    exact ⟨result.symm,length⟩
  · obtain ⟨asked,length,reached⟩ := askingStopped chain called
    have result := askingResult (e := e) 8 r
    rw [reached] at result ⊢
    exact ⟨result.symm,rfl,length⟩

/-! ### Chains of macros -/

theorem expandsOf {e : Engine} {t next : Text} (given : (e.parse t).toOption.any (fun root =>
      (root.find? Kind.userMacro).any fun call =>
        (e.macros.find? fun m => m.handles call).any fun m =>
          (m.expand call).toOption = some next) = true) : e.ExpandsOnce t next := by
  obtain ⟨root,read,found⟩ := okAny given
  obtain ⟨call,called,found⟩ := (Option.any_eq_true _ _).mp found
  obtain ⟨m,first,found⟩ := (Option.any_eq_true _ _).mp found
  refine .intro read called first ?_
  cases given : m.expand call with
  | error err => simp [given,Except.toOption] at found
  | ok text => simpa [given,Except.toOption] using found

theorem settledOf {e : Engine} {t : Text} (plain : (e.parse t).toOption.any (fun root =>
      (root.find? Kind.userMacro).isNone) = true) : ¬ e.IsCall t := by
  obtain ⟨root,read,none⟩ := okAny plain
  rintro ⟨_,call,same,called⟩
  obtain rfl := Except.ok.inj (read.symm.trans same)
  simp [called] at none

theorem ExpandsOnce.isCall {e : Engine} {t next : Text} (expands : e.ExpandsOnce t next) :
    e.IsCall t := by
  obtain ⟨read,called,_,_⟩ := expands
  exact ⟨_,_,read,called⟩

theorem ExpandsOnce.repeated {e : Engine} {t : Text} (again : e.ExpandsOnce t t) (n : Nat) :
    e.Reaches n t t := by
  induction n with
  | zero => exact .here t
  | succ n ih => exact .step again ih

end Engine

/-- A macro that gives the same text for every call of its name. -/
def fixedMacro (name text : Text) : Macro :=
  { name, handles := Macro.handlesByName name, expand := fun _ => .ok text }

/-- The selector of an app. -/
def apiRows : Text := "\x7bapp=\"api\"\x7d"

/-- An engine with a macro that leads to another one, and a macro that leads to itself. -/
def chainedEngine : Engine :=
  { registry := .full true
    macros := [fixedMacro "outer" "inner()", fixedMacro "inner" apiRows, fixedMacro "loop" "loop()"] }

theorem chainTransparent :
    chainedEngine.Reaches 2 "outer()" apiRows ∧ ¬ chainedEngine.IsCall apiRows ∧
    chainedEngine.compile { query := "outer()" } = chainedEngine.compile { query := apiRows } ∧
    (chainedEngine.compileAsking 8 { query := "outer()" }).1.length = 2 ∧
    chainedEngine.Reaches 8 "loop()" "loop()" ∧ chainedEngine.IsCall "loop()" ∧
    chainedEngine.compile { query := "loop()" } = .error (.expansionTooDeep 8) ∧
    (chainedEngine.compileAsking 8 { query := "loop()" }).1.length = 8 := by
  have outer : chainedEngine.ExpandsOnce "outer()" "inner()" := Engine.expandsOf (by decide +kernel)
  have inner : chainedEngine.ExpandsOnce "inner()" apiRows := Engine.expandsOf (by decide +kernel)
  have loop : chainedEngine.ExpandsOnce "loop()" "loop()" := Engine.expandsOf (by decide +kernel)
  have settled : ¬ chainedEngine.IsCall apiRows := Engine.settledOf (by decide +kernel)
  have chain : chainedEngine.Reaches 2 "outer()" apiRows := .step outer (.step inner (.here _))
  have few := (Engine.expansionsTransparent chainedEngine { query := "outer()" }).1 2 apiRows
    (by decide) chain settled
  have many := (Engine.expansionsTransparent chainedEngine { query := "loop()" }).2.1 "loop()"
    (loop.repeated 8) loop.isCall
  exact ⟨chain,settled,few.1,few.2,loop.repeated 8,loop.isCall,many.1,many.2.2⟩

end LogSql.Compile
