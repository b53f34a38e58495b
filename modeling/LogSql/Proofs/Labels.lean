import LogSql.Labels

/-! Labels that are set. Of the values that are set for a name the last one counts, and the other names
keep theirs. -/
namespace LogSql.Labels

theorem getSet (ls : Labels) (name value other : Text) :
    (ls.set name value).get? other = if name = other then some value else ls.get? other := by
  induction ls with
  | nil => by_cases same : name = other <;> simp [set,get?,same]
  | cons l ls ih =>
    rw [set]
    split
    · rename_i same
      by_cases here : name = other <;> simp [get?,same,here]
    · split
      · by_cases here : name = other <;> simp [get?,here]
      · rename_i different _
        by_cases here : l.1 = other
        · have elsewhere : name ≠ other := fun same => different (here.trans same.symm)
          simp [get?,here,elsewhere]
        · simpa [get?,here] using ih

theorem getSetLast (ls : Labels) (more : List (Text × Text)) (other : Text) :
    (ls.setAll more).get? other = (more.reverse.lookup other).or (ls.get? other) := by
  induction more generalizing ls with
  | nil => rfl
  | cons l more ih =>
    have step : ls.setAll (l :: more) = (ls.set l.1 l.2).setAll more := rfl
    rw [step,ih,getSet,List.reverse_cons,List.lookup_append,Option.or_assoc,List.lookup_cons,
      List.lookup_nil]
    by_cases same : l.1 = other
    · simp [same]
    · have differ : (other == l.1) = false := by simpa using Ne.symm same
      simp [same,differ]

theorem getSetAllOther {names values : List Text} {name : Text} (other : name ∉ names) (ls : Labels) :
    (ls.setAll (names.zip values)).get? name = ls.get? name := by
  have unset : (names.zip values).reverse.lookup name = none := by
    refine List.lookup_eq_none_iff.mpr fun p mem => ?_
    have named : p.1 ∈ names := (List.of_mem_zip (List.mem_reverse.mp mem)).1
    simpa using fun same : name = p.1 => other (same ▸ named)
  rw [getSetLast,unset]
  rfl

/-- Each of some names that differ has the value at its place. -/
theorem getSetAll {names values : List Text} (unique : names.Nodup)
    (same : values.length = names.length) (ls : Labels) (i : Nat) (inside : i < names.length) :
    (ls.setAll (names.zip values)).get? names[i] = values[i]? := by
  induction names generalizing values ls i with
  | nil => simp at inside
  | cons n names ih =>
    obtain ⟨fresh,unique⟩ := List.nodup_cons.mp unique
    cases values with
    | nil => simp at same
    | cons v values =>
      have step : ls.setAll ((n :: names).zip (v :: values)) =
          (ls.set n v).setAll (names.zip values) := rfl
      rw [step]
      cases i with
      | zero =>
        show ((ls.set n v).setAll (names.zip values)).get? n = some v
        rw [getSetAllOther fresh,getSet,if_pos rfl]
      | succ i => exact ih unique (Nat.succ.inj same) (ls.set n v) i (Nat.lt_of_succ_lt_succ inside)

end LogSql.Labels
