import Mathlib.Data.List.Forall2
import LogSql.Proofs.Sql.Clauses
import LogSql.Proofs.Sql.Logic

/-! Clause trees as conditions. A clause joins its operands by AND or OR, and a nested clause stands in
parentheses, however it is given. The text of a tree whose atoms are opaque is read as a condition with
one value: the value of the tree. -/
namespace LogSql.Sql.Clause
open Logic

/-! ### Trees and their values -/

/-- Trees in which each clause joins at least one operand by AND or OR, over known atoms. -/
inductive Condition (atomic : Text → Prop) : Operand → Prop where
  | atom {t : Text} (known : atomic t) : Condition atomic (.text t)
  | clause {op : Text} {operands : List Operand} (known : op = "AND" ∨ op = "OR") (some : operands ≠ [])
      (each : ∀ o ∈ operands, Condition atomic o) : Condition atomic (.clause (.text op :: operands))
  | list {op : Text} {operands : List Operand} (known : op = "AND" ∨ op = "OR") (some : operands ≠ [])
      (each : ∀ o ∈ operands, Condition atomic o) : Condition atomic (.list (.text op :: operands))

mutual

/-- The value of an operand where atoms have values. -/
def holds (truth : Text → Bool) : Operand → Bool
  | .text t => truth t
  | .clause items => clauseHolds truth items
  | .list items => clauseHolds truth items
  | _ => false

/-- The value of a clause. -/
def clauseHolds (truth : Text → Bool) : List Operand → Bool
  | .text op :: operands => if op = "AND" then allHold truth operands else anyHolds truth operands
  | _ => false

def allHold (truth : Text → Bool) : List Operand → Bool
  | [] => true
  | o :: rest => holds truth o && allHold truth rest

def anyHolds (truth : Text → Bool) : List Operand → Bool
  | [] => false
  | o :: rest => holds truth o || anyHolds truth rest

end

/-! ### Texts of trees -/

/-- What an operand writes, read as one factor with its value. -/
structure Told (atomic : Text → Prop) (o : Operand) (t : Text) : Prop where
  written : OperandText o t
  reads (truth : Text → Bool) : Reads atomic truth .factor t (holds truth o)

section Told

variable {atomic : Text → Prop} {operands : List Operand} {ts : List Text}

theorem toldEach (each : ∀ o ∈ operands, ∃ t, Told atomic o t) : ∃ ts, List.Forall₂ (Told atomic) operands ts := by
  induction operands with
  | nil => exact ⟨[],.nil⟩
  | cons o operands ih =>
    obtain ⟨first,others⟩ := List.forall_mem_cons.mp each
    obtain ⟨t,told⟩ := first
    obtain ⟨ts,rest⟩ := ih others
    exact ⟨t :: ts,.cons told rest⟩

theorem toldTexts (told : List.Forall₂ (Told atomic) operands ts) : operandTexts operands = .ok ts := by
  induction told with
  | nil => rw [operandTexts]
  | cons first rest ih =>
    cases first.written with
    | text t => rw [operandTexts,ih]; rfl
    | clause ok | list ok => rw [operandTexts,ok,ih]; rfl

theorem allRead (truth : Text → Bool) (told : List.Forall₂ (Told atomic) operands ts) (some : operands ≠ []) :
    Reads atomic truth .all (Text.join " AND " ts) (allHold truth operands) := by
  induction told with
  | nil => contradiction
  | @cons o t operands ts first rest ih =>
    cases rest with
    | nil => simpa [Text.join,allHold] using (first.reads truth).level .all
    | cons second rest =>
      rw [Text.joinCons _ _ (List.cons_ne_nil _ _)]
      exact ((first.reads truth).level .all).both (ih (List.cons_ne_nil _ _))

theorem anyRead (truth : Text → Bool) (told : List.Forall₂ (Told atomic) operands ts) (some : operands ≠ []) :
    Reads atomic truth .any (Text.join " OR " ts) (anyHolds truth operands) := by
  induction told with
  | nil => contradiction
  | @cons o t operands ts first rest ih =>
    cases rest with
    | nil => simpa [Text.join,anyHolds] using (first.reads truth).level .any
    | cons second rest =>
      rw [Text.joinCons _ _ (List.cons_ne_nil _ _)]
      exact ((first.reads truth).level .any).either (ih (List.cons_ne_nil _ _))

/-- A clause over operands that are told is read without the parentheses that it gets inside of another. -/
theorem clauseTold {op : Text} (known : op = "AND" ∨ op = "OR") (some : operands ≠ [])
    (each : ∀ o ∈ operands, ∃ t, Told atomic o t) : ∃ t, text (.text op :: operands) = .ok t ∧
      ∀ truth, Reads atomic truth .any t (clauseHolds truth (.text op :: operands)) := by
  obtain ⟨ts,told⟩ := toldEach each
  refine ⟨Text.join (.concat [" ", op, " "]) ts,by rw [text,toldTexts told]; rfl,fun truth => ?_⟩
  rw [clauseHolds]
  obtain rfl | rfl := known
  · exact (allRead truth told some).any
  · exact anyRead truth told some

theorem Condition.told (delimited : Delimited atomic) {o : Operand} (sound : Condition atomic o) :
    ∃ t, Told atomic o t := by
  induction sound with
  | atom known => exact ⟨_,.text _,fun truth => readsAtom delimited known⟩
  | clause known some each ih =>
    obtain ⟨t,ok,reads⟩ := clauseTold known some ih
    exact ⟨_,.clause ok,fun truth => (reads truth).grouped⟩
  | list known some each ih =>
    obtain ⟨t,ok,reads⟩ := clauseTold known some ih
    exact ⟨_,.list ok,fun truth => (reads truth).grouped⟩

end Told

/-- The text of a condition is read with one value whatever the atoms are worth, the value of its tree. -/
theorem conditionsKept {atomic : Text → Prop} (delimited : Delimited atomic) {c : List Operand}
    (sound : Condition atomic (.clause c)) :
    ∃ t, text c = .ok t ∧ ∀ truth b, Reads atomic truth .any t b ↔ b = clauseHolds truth c := by
  cases sound with
  | clause known some each =>
    obtain ⟨t,ok,reads⟩ := clauseTold known some fun o mem => (each o mem).told delimited
    exact ⟨t,ok,fun truth b => (reads truth).unique delimited b⟩

/-- Both connectives and both spellings of nested clauses, over atoms with connectives and parentheses of
their own. -/
def mixed : List Operand :=
  [.text "OR",
    .clause [.text "AND", .text "a = 1",
      .list [.text "OR", .text "has(b, 'x) OR (y')", .text "c IS NOT NULL"]],
    .list [.text "AND", .clause [.text "OR", .text "f(d AND e) = 2"]]]

theorem mixedSound : Condition (fun t => isClosed t = true) (.clause mixed) := by
  have single {o : Operand} (sound : Condition (fun t => isClosed t = true) o) :
      ∀ x ∈ [o], Condition (fun t => isClosed t = true) x := by simpa using sound
  have pair {o p : Operand} (first : Condition (fun t => isClosed t = true) o)
      (second : Condition (fun t => isClosed t = true) p) :
      ∀ x ∈ [o, p], Condition (fun t => isClosed t = true) x := by simpa using ⟨first,second⟩
  have choice := Condition.list (.inr rfl) (List.cons_ne_nil _ _) (pair
    (.atom (t := "has(b, 'x) OR (y')") (by decide +kernel)) (.atom (t := "c IS NOT NULL") (by decide +kernel)))
  have call := Condition.clause (.inr rfl) (List.cons_ne_nil _ _)
    (single (.atom (t := "f(d AND e) = 2") (by decide +kernel)))
  exact .clause (.inr rfl) (List.cons_ne_nil _ _) (pair
    (.clause (.inl rfl) (List.cons_ne_nil _ _) (pair (.atom (by decide +kernel)) choice))
    (.list (.inl rfl) (List.cons_ne_nil _ _) (single call)))

/-- Where only the second choice holds the tree does not, as its choice stands in a conjunction. -/
theorem mixedKept : Delimited (fun t => isClosed t = true) ∧
    Condition (fun t => isClosed t = true) (.clause mixed) ∧
    text mixed = .ok "(a = 1 AND (has(b, 'x) OR (y') OR c IS NOT NULL)) OR ((f(d AND e) = 2))" ∧
    ∀ b, Reads (fun t => isClosed t = true) (fun t => t = "c IS NOT NULL") .any
      "(a = 1 AND (has(b, 'x) OR (y') OR c IS NOT NULL)) OR ((f(d AND e) = 2))" b ↔ b = false := by
  have written : text mixed =
      .ok "(a = 1 AND (has(b, 'x) OR (y') OR c IS NOT NULL)) OR ((f(d AND e) = 2))" := by
    simp only [mixed,text,operandTexts,bind,Except.bind,pure,Except.pure]
    exact congrArg Except.ok (by decide +kernel)
  have value : clauseHolds (fun t => t = "c IS NOT NULL") mixed = false := by
    simp [mixed,clauseHolds,anyHolds,allHold,holds]
  obtain ⟨t,ok,reads⟩ := conditionsKept closedDelimited mixedSound
  obtain rfl := Except.ok.inj (written.symm.trans ok)
  exact ⟨closedDelimited,mixedSound,written,fun b => value ▸ reads _ b⟩

end LogSql.Sql.Clause
