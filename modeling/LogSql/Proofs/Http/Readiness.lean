import Mathlib.Tactic.ByContra
import LogSql.Http.Server

/-! Readiness. The reports of checks are merged by name, and the last check of a name is the one that is
shown; the verdict is taken over all of them. It is read off the words of a failure and not off the failure
itself, so a check that fails without a word is reported as failed and makes nobody wait. -/
namespace LogSql

/-! ### Members by name -/

namespace Json

variable {α : Type} {name : Text}

/-- The members with one more, in the place of one of its name. -/
def placed (acc : List (Text × α)) (m : Text × α) : List (Text × α) :=
  let others := acc.filter fun n => n.1 ≠ m.1
  others.takeWhile (fun n => Text.lt n.1 m.1) ++ [m] ++ others.dropWhile (fun n => Text.lt n.1 m.1)

theorem lookupAbsent {ms : List (Text × α)} (absent : ∀ m ∈ ms, m.1 ≠ name) :
    ms.lookup name = none := by
  induction ms with
  | nil => rfl
  | cons m ms ih =>
    obtain ⟨first,rest⟩ := List.forall_mem_cons.mp absent
    rw [List.lookup_cons,beq_false_of_ne first.symm]
    exact ih rest

theorem lookupKept (ms : List (Text × α)) {other : Text} (apart : name ≠ other) :
    (ms.filter fun m => m.1 ≠ other).lookup name = ms.lookup name := by
  induction ms with
  | nil => rfl
  | cons m ms ih =>
    by_cases same : m.1 = other
    · rw [List.filter_cons_of_neg (by simpa using same),ih,List.lookup_cons,
        beq_false_of_ne (same ▸ apart)]
    · rw [List.filter_cons_of_pos (by simpa using same),List.lookup_cons,List.lookup_cons,ih]

theorem lookupPlaced (acc : List (Text × α)) (m : Text × α) :
    (placed acc m).lookup name = if name = m.1 then some m.2 else acc.lookup name := by
  have split := List.takeWhile_append_dropWhile (p := fun n => Text.lt n.1 m.1)
    (l := acc.filter fun n => n.1 ≠ m.1)
  rw [placed,List.append_assoc,List.lookup_append,List.lookup_append,List.lookup_cons,List.lookup_nil]
  by_cases same : name = m.1
  · have before : ∀ n ∈ (acc.filter fun n => n.1 ≠ m.1).takeWhile fun n => Text.lt n.1 m.1,
        n.1 ≠ name := by
      intro n mem
      rw [same]
      exact of_decide_eq_true (List.mem_filter.mp ((List.takeWhile_sublist _).subset mem)).2
    rw [lookupAbsent before,if_pos same,beq_iff_eq.mpr same]
    rfl
  · rw [if_neg same,beq_false_of_ne same,← lookupKept acc same]
    conv => rhs; rw [← split,List.lookup_append]
    rfl

/-- Sorting members by name keeps the last one of each name. -/
theorem lookupSorted (ms : List (Text × α)) : (sorted ms).lookup name = ms.reverse.lookup name := by
  have run (acc : List (Text × α)) :
      (ms.foldl placed acc).lookup name = (ms.reverse.lookup name).or (acc.lookup name) := by
    induction ms generalizing acc with
    | nil => rfl
    | cons m ms ih =>
      rw [List.foldl_cons,ih,lookupPlaced,List.reverse_cons,List.lookup_append,List.lookup_cons,
        List.lookup_nil,Option.or_assoc]
      by_cases same : name = m.1
      · rw [if_pos same,beq_iff_eq.mpr same]
        rfl
      · rw [if_neg same,beq_false_of_ne same]
        rfl
  exact (run []).trans (Option.or_none)

end Json

/-! ### Verdicts -/

namespace Http

namespace Probe

/-- A check that came back with an error, whatever its text. -/
def Failed (p : Probe) : Prop := ∃ words, p.failure = some words

/-- A check whose error has an empty text. -/
def Wordless (p : Probe) : Prop := p.failure = some []

theorem objectsWords {p : Probe} : p.objects = true ↔ ∃ words, p.failure = some words ∧ words ≠ [] := by
  rw [objects]
  cases p.failure with
  | none => simp
  | some words => simp

theorem objectsFailed {p : Probe} : p.objects = true ↔ p.Failed ∧ ¬ p.Wordless := by
  rw [objectsWords,Failed,Wordless]
  cases p.failure <;> simp

end Probe

/-- A response with a verdict and the reports of the checks by their names. -/
structure Verdict (ready : Bool) (checks : List (Text × Json)) (response : Response) : Prop where
  status : response.status = if ready then 200 else 503
  body : response.body = (Json.object (("status", .string (if ready then "ready" else "not_ready")) ::
    if checks.isEmpty then [] else [("checks", .object checks)])).text ++ [10]

theorem readyVerdict (ps : List Probe) :
    Verdict (!ps.any Probe.objects) (Json.sorted (ps.map fun p => (p.name, p.report))) (Health.ready ps) := by
  constructor <;> cases objected : ps.any Probe.objects <;> simp [Health.ready,jsonResponse,objected]

theorem reportedLast (ps : List Probe) (name : Text) :
    (Json.sorted (ps.map fun p => (p.name, p.report))).lookup name =
      (ps.reverse.find? fun p => p.name = name).map Probe.report := by
  rw [Json.lookupSorted,← List.map_reverse]
  induction ps.reverse with
  | nil => rfl
  | cons p ps ih =>
    rw [List.map_cons,List.lookup_cons,List.find?_cons,ih]
    by_cases same : p.name = name
    · simp [same]
    · rw [beq_false_of_ne (Ne.symm same),decide_eq_false same]

/-- Headers change neither the status nor the body. -/
theorem missingSet (response : Response) (hs : Headers) :
    (response.setMissing hs).status = response.status ∧ (response.setMissing hs).body = response.body := by
  induction hs generalizing response with
  | nil => exact ⟨rfl,rfl⟩
  | cons h hs ih =>
    obtain ⟨status,body⟩ := ih (if response.headers.any fun g => sameHeader g.1 h.1 then response
      else response.set h.1 h.2)
    refine ⟨status.trans ?_,body.trans ?_⟩ <;> split <;> rfl

namespace Server

variable {s : Server} {r : Request}

/-- A question about readiness is answered whatever the client and its allowance. -/
theorem readyServed (get : r.method = ("GET" : Text)) (path : r.path = ("/health/ready" : Text))
    (now : Instant) (fresh : Text) (l : Limiter) :
    ∃ response, s.serve now fresh r l = (.answered response, l) ∧
      response.status = (Health.ready s.probes).status ∧ response.body = (Health.ready s.probes).body := by
  have known : r.method ∈ methods := by simp [get,methods]
  have outside : apiPath? r.path = none := by rw [path]; decide
  have found : s.openRoutes.find? (fun route => route.1 = r.path) =
      some (Text.ofString "/health/ready", Health.ready s.probes) := by
    rw [path]
    rfl
  have routed : s.route now r l = (.answered (Health.ready s.probes), l) := by
    rw [route,if_neg (not_not_intro known),outside]
    simp only [found,if_pos get]
  obtain ⟨status,body⟩ := missingSet (Health.ready s.probes) (securityHeaders r.secure)
  refine ⟨((Health.ready s.probes).setMissing (securityHeaders r.secure)).set "X-Request-Id" (r.id fresh),
    ?_,status,body⟩
  rw [serve,routed]
  rfl

/-- The verdict is negative exactly when a check failed with words to say. That is the verdict of the failures
unless all of them are wordless. -/
theorem readinessWorded (get : r.method = ("GET" : Text)) (path : r.path = ("/health/ready" : Text))
    (now : Instant) (fresh : Text) (l : Limiter) :
    ∃ response ready checks, s.serve now fresh r l = (.answered response, l) ∧
      Verdict ready checks response ∧
      (∀ name, checks.lookup name = (s.probes.reverse.find? fun p => p.name = name).map Probe.report) ∧
      (ready = false ↔ ∃ p ∈ s.probes, p.Failed ∧ ¬ p.Wordless) ∧
      ((ready = false ↔ ∃ p ∈ s.probes, p.Failed) ↔
        ((∀ p ∈ s.probes, p.Failed → p.Wordless) → ∀ p ∈ s.probes, ¬ p.Failed)) := by
  obtain ⟨response,served,status,body⟩ := readyServed (s := s) get path now fresh l
  obtain ⟨status',body'⟩ := readyVerdict s.probes
  have negative : (!s.probes.any Probe.objects) = false ↔ ∃ p ∈ s.probes, p.Failed ∧ ¬ p.Wordless := by
    rw [Bool.not_eq_false',List.any_eq_true]
    simp only [Probe.objectsFailed]
  refine ⟨response,_,_,served,⟨status.trans status',body.trans body'⟩,reportedLast s.probes,negative,?_⟩
  rw [negative]
  constructor
  · intro same wordless p mem failed
    obtain ⟨q,one,loud,words⟩ := same.mpr ⟨p,mem,failed⟩
    exact words (wordless q one loud)
  · intro agrees
    refine ⟨fun ⟨p,mem,failed,_⟩ => ⟨p,mem,failed⟩,fun ⟨p,mem,failed⟩ => ?_⟩
    by_contra silent
    simp only [not_exists,not_and,not_not] at silent
    exact agrees silent p mem failed

/-- A service whose only check fails without a word. -/
def unspoken : Server where
  settings := ({} : Settings).withDefaults
  compiler := .failing .aborted
  probes := [.function "queue" (some (some []))]

def readinessQuestion : Request := .ofTarget "GET" "/health/ready"

theorem unspokenReady : ∃ response checks,
    unspoken.serve 0 [] readinessQuestion unspoken.limiter = (.answered response, unspoken.limiter) ∧
      Verdict true checks response ∧
      checks.lookup ("queue" : Text) = some (.object [("status", .string "failed"), ("latency_ms", .int 0)]) ∧
      ∃ p ∈ unspoken.probes, p.Failed := by
  obtain ⟨response,ready,checks,served,verdict,reports,negative,_⟩ :=
    readinessWorded (s := unspoken) (r := readinessQuestion) (by decide) (by decide) 0 [] unspoken.limiter
  have failed : ∀ p ∈ unspoken.probes, p.Failed ∧ p.Wordless := by
    simp [unspoken,Probe.Failed,Probe.Wordless,Probe.failure]
  have positive : ready = true := by
    refine Bool.of_not_eq_false fun no => ?_
    obtain ⟨p,mem,_,words⟩ := negative.mp no
    exact words (failed p mem).2
  subst positive
  have sole := List.mem_singleton_self (Probe.function "queue" (some (some [])))
  refine ⟨response,checks,served,verdict,(reports _).trans ?_,_,sole,(failed _ sole).1⟩
  rfl

end Server
end Http
end LogSql
