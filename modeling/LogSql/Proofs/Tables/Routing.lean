import LogSql.Proofs.Tables
import Mathlib.Data.List.Nodup

/-! Which partition a window reads. Partitions are ordered by their exact starts and looked up by whole
milliseconds. The one that is found is the latest of those that have started, and the first listed one of
those that start with it, however the configuration lists them. -/
namespace LogSql.Tables

/-- The partition of a window that starts at `ms`: the latest of those that have started, the first
listed one of those that start together, and none as long as none has started. -/
inductive Routed (ps : List Partition) (ms : Int) : Option Partition → Prop where
  | samples (early : ∀ p ∈ ps, p.started ms = false) : Routed ps ms none
  | partition {p : Partition} (started : p.started ms = true)
      (latest : ∀ q ∈ ps, q.started ms = true → q.since ≤ p.since)
      (first : ps.find? (fun q => q.since = p.since) = some p) : Routed ps ms (some p)

/-! ### The order of the partitions -/

/-- A list with the latest start first. -/
def LatestFirst (ps : List Partition) : Prop := ps.Pairwise fun p q => q.since ≤ p.since

section Order

variable {ps : List Partition} {p : Partition} {ms : Int}

theorem insertLatestFirst (sorted : LatestFirst ps) : LatestFirst (insertPartition p ps) := by
  induction ps with
  | nil => exact List.pairwise_singleton _ p
  | cons q ps ih =>
    obtain ⟨first,others⟩ := List.pairwise_cons.mp sorted
    rw [insertPartition]
    split
    · rename_i later
      refine List.pairwise_cons.mpr ⟨List.forall_mem_cons.mpr ⟨Int.le_of_lt later,fun r mem => ?_⟩,sorted⟩
      exact Int.le_trans (first r mem) (Int.le_of_lt later)
    · rename_i earlier
      refine List.pairwise_cons.mpr ⟨fun r mem => ?_,ih others⟩
      rcases List.mem_cons.mp ((insertPerm p ps).mem_iff.mp mem) with rfl | inside
      · exact Int.not_lt.mp earlier
      · exact first r inside

theorem sortLatestFirst (ps : List Partition) : LatestFirst (sortPartitions ps) := by
  induction ps using List.reverseRecOn with
  | nil => exact List.Pairwise.nil
  | append_singleton ps p ih => rw [sortSnoc]; exact insertLatestFirst ih

/-- Partitions with different starts have one order. -/
theorem sortUnique {order : List Partition} (same : order.Perm ps)
    (apart : (ps.map Partition.since).Nodup) : sortPartitions order = sortPartitions ps := by
  have sorted : (sortPartitions order).Perm (sortPartitions ps) :=
    (sortPerm order).trans (same.trans (sortPerm ps).symm)
  refine sorted.eq_of_pairwise (fun p q front back later earlier => ?_) (sortLatestFirst order)
    (sortLatestFirst ps)
  have inside : p ∈ ps := same.mem_iff.mp ((sortPerm order).mem_iff.mp front)
  exact List.inj_on_of_nodup_map apart inside ((sortPerm ps).mem_iff.mp back)
    (Int.le_antisymm earlier later)

/-! ### The first that has started -/

theorem insertOther (early : p.started ms = false) (ps : List Partition) :
    (insertPartition p ps).find? (Partition.started ms) = ps.find? (Partition.started ms) := by
  induction ps with
  | nil => simp [insertPartition,early]
  | cons q ps ih =>
    rw [insertPartition]
    split
    · rw [List.find?_cons,early]
    · rw [List.find?_cons,List.find?_cons,ih]

/-- A partition that has started is found before those that start earlier. -/
theorem insertStarted (sorted : LatestFirst ps) (started : p.started ms = true) :
    (insertPartition p ps).find? (Partition.started ms) =
      match ps.find? (Partition.started ms) with
      | some q => if q.since < p.since then some p else some q
      | none => some p := by
  induction ps with
  | nil => simp [insertPartition,started]
  | cons q ps ih =>
    obtain ⟨first,others⟩ := List.pairwise_cons.mp sorted
    rw [insertPartition]
    split
    · rename_i later
      rw [List.find?_cons,started]
      cases found : (q :: ps).find? (Partition.started ms) with
      | none => rfl
      | some r =>
        have before : r.since < p.since := by
          rcases List.mem_cons.mp (List.mem_of_find?_eq_some found) with rfl | inside
          · exact later
          · exact Int.lt_of_le_of_lt (first r inside) later
        simp only [before,if_true]
    · rename_i earlier
      rw [List.find?_cons,List.find?_cons]
      cases q.started ms with
      | false => exact ih others
      | true => simp only [earlier,if_false]

theorem startedSame {q : Partition} (same : q.since = p.since) : q.started ms = p.started ms := by
  rw [Partition.started,same]
  rfl

theorem foundLast (apart : ∀ q ∈ ps, q.since ≠ p.since) :
    (ps ++ [p]).find? (fun q => q.since = p.since) = some p := by
  rw [List.find?_append,List.find?_eq_none.mpr (by simpa using apart)]
  simp

theorem sortRouted (ps : List Partition) (ms : Int) :
    Routed ps ms ((sortPartitions ps).find? (Partition.started ms)) := by
  induction ps using List.reverseRecOn with
  | nil => exact .samples (by simp)
  | append_singleton ps p ih =>
    rw [sortSnoc]
    -- The new partition is listed last: it is taken where it starts later than what was found.
    cases started : p.started ms with
    | false =>
      rw [insertOther started]
      generalize (sortPartitions ps).find? (Partition.started ms) = route at ih
      cases ih with
      | samples early =>
        exact .samples (List.forall_mem_append.mpr ⟨early,by simpa using started⟩)
      | partition here latest first =>
        exact .partition here (List.forall_mem_append.mpr ⟨latest,by simp [started]⟩)
          (by rw [List.find?_append,first]; rfl)
    | true =>
      rw [insertStarted (sortLatestFirst ps) started]
      generalize (sortPartitions ps).find? (Partition.started ms) = route at ih
      cases ih with
      | samples early =>
        refine .partition started (List.forall_mem_append.mpr ⟨fun q mem now => ?_,by simp⟩) ?_
        · simp [early q mem] at now
        · exact foundLast fun q mem same => by simp [← startedSame same,early q mem] at started
      | @partition q here latest first =>
        simp only
        split
        · rename_i later
          have behind (r : Partition) (mem : r ∈ ps) (now : r.started ms = true) : r.since < p.since :=
            Int.lt_of_le_of_lt (latest r mem now) later
          refine .partition started (List.forall_mem_append.mpr ⟨fun r mem now => ?_,by simp⟩) ?_
          · exact Int.le_of_lt (behind r mem now)
          · exact foundLast fun r mem same => Int.ne_of_lt (behind r mem (startedSame same ▸ started)) same
        · rename_i earlier
          refine .partition here (List.forall_mem_append.mpr ⟨latest,?_⟩)
            (by rw [List.find?_append,first]; rfl)
          simpa using fun _ => Int.not_lt.mp earlier

end Order

/-! ### Routes -/

section Routes

variable {ps : List Partition} {ms ms' : Int} {p : Partition} {route other : Option Partition}

theorem Routed.unique (routed : Routed ps ms route) (also : Routed ps ms other) : route = other := by
  cases routed with
  | samples early => cases also with
    | samples => rfl
    | partition started _ first => simp [early _ (List.mem_of_find?_eq_some first)] at started
  | partition started latest first => cases also with
    | samples early => simp [early _ (List.mem_of_find?_eq_some first)] at started
    | partition here other listed =>
      have same := Int.le_antisymm (other _ (List.mem_of_find?_eq_some first) started)
        (latest _ (List.mem_of_find?_eq_some listed) here)
      rw [← first,← listed,same]

/-- Later windows read partitions that start no earlier. -/
theorem Routed.advances (routed : Routed ps ms (some p)) (later : ms ≤ ms')
    (next : Routed ps ms' route) : ∃ q, route = some q ∧ p.since ≤ q.since := by
  cases routed with
  | partition started _ first =>
    have mem := List.mem_of_find?_eq_some first
    have still : p.started ms' = true := by
      simp only [Partition.started,decide_eq_true_eq] at started ⊢
      exact Int.le_trans started later
    cases next with
    | samples early => simp [early p mem] at still
    | partition _ latest => exact ⟨_,rfl,latest p mem still⟩

end Routes

/-- The samples table of a window is that of its partition, or the configured one where none has
started. Partitions with different starts may be listed in any order, and the start of the partition
that is read does not go back as windows move on. -/
theorem partitionsRouted {c : Config} {p : Policy} (ok : Policy.ofConfig c = .ok p) :
    (∀ ms, Routed c.partitions ms (p.selected ms) ∧
      (∀ route, Routed c.partitions ms route → route = p.selected ms) ∧
      p.tableFor ms = p.qualify (((p.selected ms).map Partition.table).getD c.samplesName)) ∧
    (∀ order, order.Perm c.partitions → (c.partitions.map Partition.since).Nodup →
      Policy.ofConfig { c with partitions := order } = .ok p) ∧
    ∀ ms ms' q, ms ≤ ms' → p.selected ms = some q →
      ∃ r, p.selected ms' = some r ∧ q.since ≤ r.since := by
  obtain ⟨accepted,rfl⟩ := Policy.ofConfigOk.mp ok
  have routed (ms : Int) : Routed c.partitions ms (c.policy.selected ms) := sortRouted c.partitions ms
  refine ⟨fun ms => ⟨routed ms,fun route also => also.unique (routed ms),c.policy.tableQualified ms⟩,
    fun order same apart => ?_,fun ms ms' q later found => ?_⟩
  · refine Policy.ofConfigOk.mpr ⟨?_,?_⟩
    · exact ⟨accepted.database,accepted.samples,accepted.timeSeries,
        fun q mem => accepted.partitions q (same.mem_iff.mp mem)⟩
    · simp only [Config.policy,sortUnique same apart]
      rfl
  · exact Routed.advances (found ▸ routed ms) later (routed ms')

/-- Partitions that are listed out of order, two of them with one start within a millisecond. -/
def twinConfig : Config where
  database := "logs"
  partitions := [⟨Instant.ofMillis 500,"old"⟩,⟨Instant.ofMillis 1000 + 1,"first"⟩,
    ⟨Instant.ofMillis 1000 + 1,"second"⟩]

/-- The first of the two is read from their millisecond on. -/
theorem twinRouted : Policy.ofConfig twinConfig = .ok twinConfig.policy ∧
    Routed twinConfig.partitions 1000 (some ⟨Instant.ofMillis 1000 + 1,"first"⟩) ∧
    twinConfig.policy.tableFor 999 = Text.ofString "logs.old" ∧
    twinConfig.policy.tableFor 1000 = Text.ofString "logs.first" := by
  have ok : Policy.ofConfig twinConfig = .ok twinConfig.policy := by decide +kernel
  have routes := (partitionsRouted ok).1
  have found : twinConfig.policy.selected 1000 = some ⟨Instant.ofMillis 1000 + 1,"first"⟩ := by
    decide +kernel
  exact ⟨ok,found ▸ (routes 1000).1,(routes 999).2.2.trans (by decide +kernel),
    (routes 1000).2.2.trans (by decide +kernel)⟩

end LogSql.Tables
