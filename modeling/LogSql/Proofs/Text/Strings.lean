import LogSql.Text.Basic

/-! Texts that are written as strings, and texts that are cut or split. Two strings give the same text
only when they are equal, so comparisons of names never look at bytes. The pieces of a split at a byte are the
text without the byte, and they are found again when they are joined with it. -/
namespace LogSql.Text

theorem ofStringEncodes (s : String) : (ofString s).toByteArray = s.toByteArray :=
  String.utf8Encode_toList

@[simp] theorem ofStringInj {a b : String} : ofString a = ofString b ↔ a = b := by
  refine ⟨fun same => String.toByteArray_inj.mp ?_,fun same => by rw [same]⟩
  rw [← ofStringEncodes,← ofStringEncodes,same]

theorem ofStringAppend (a b : String) : ofString (a ++ b) = ofString a ++ ofString b := by
  simp [ofString,String.toList_append]

@[simp] theorem nilNeOfString {s : String} : [] = ofString s ↔ s = "" := by
  rw [← ofStringInj,eq_comm]
  exact Iff.rfl

@[simp] theorem ofStringEqNil {s : String} : ofString s = [] ↔ s = "" := by
  rw [eq_comm,nilNeOfString]

/-! ### Cutting -/

theorem cutParts {t sep a b : Text} (found : cut sep t = some (a, b)) : t = a ++ sep ++ b := by
  induction t generalizing a with
  | nil =>
    unfold cut at found
    split at found
    · rename_i empty
      obtain ⟨rfl,rfl⟩ := Prod.mk.inj (Option.some.inj found)
      simp [List.isEmpty_iff.mp empty]
    · contradiction
  | cons byte t ih =>
    unfold cut at found
    split at found
    · rename_i starts
      obtain ⟨rfl,rfl⟩ := Prod.mk.inj (Option.some.inj found)
      obtain ⟨rest,whole⟩ := List.isPrefixOf_iff_prefix.mp starts
      rw [← whole]
      simp
    · obtain ⟨⟨x,y⟩,later,same⟩ := Option.map_eq_some_iff.mp found
      obtain ⟨rfl,rfl⟩ := Prod.mk.inj same
      rw [ih later]
      simp

theorem cutFirst {x : UInt8} {a : Text} (absent : x ∉ a) (b : Text) :
    cut [x] (a ++ x :: b) = some (a, b) := by
  induction a with
  | nil => simp [Text.cut,List.isPrefixOf]
  | cons byte a ih =>
    simp only [List.mem_cons,not_or] at absent
    simp [Text.cut,List.isPrefixOf,absent.1,ih absent.2]

/-- A text is cut in one way only at the last place of a byte. -/
theorem splitLast {x : UInt8} {a b c d : Text} (left : x ∉ b) (right : x ∉ d)
    (same : a ++ x :: b = c ++ x :: d) : a = c ∧ b = d := by
  have reversed := congrArg List.reverse same
  simp only [List.reverse_append,List.reverse_cons,List.append_assoc,List.singleton_append] at reversed
  have cuts := congrArg (cut [x]) reversed
  rw [cutFirst (by simpa using left),cutFirst (by simpa using right)] at cuts
  obtain ⟨ends,starts⟩ := Prod.mk.inj (Option.some.inj cuts)
  exact ⟨List.reverse_inj.mp starts,List.reverse_inj.mp ends⟩

/-! ### Names -/

theorem nameParts {t : Text} (name : isName t = true) :
    ∃ b rest, t = b :: rest ∧ isNameStart b = true ∧ ∀ x ∈ t, isNamePart x = true := by
  cases t with
  | nil => contradiction
  | cons b rest =>
    simp only [isName,Bool.and_eq_true,List.all_eq_true] at name
    exact ⟨b,rest,rfl,name.1,List.forall_mem_cons.mpr ⟨by simp [isNamePart,name.1],name.2⟩⟩

variable {sep : UInt8}

/-! ### One cut -/

theorem cutStep (x b : UInt8) (t : Text) :
    cut [x] (b :: t) = if x = b then some ([],t) else (cut [x] t).map fun r => (b :: r.1, r.2) := by
  rw [cut]
  by_cases same : x = b
  · simp [same,List.isPrefixOf]
  · simp [same,List.isPrefixOf]

theorem cutNone {x : UInt8} {t : Text} : cut [x] t = none ↔ x ∉ t := by
  induction t with
  | nil => simp [cut]
  | cons b t ih =>
    rw [cutStep]
    by_cases same : x = b
    · simp [same]
    · simp [same,ih]

theorem cutBefore {x : UInt8} {t a b : Text} (found : cut [x] t = some (a, b)) :
    x ∉ a ∧ t = a ++ x :: b := by
  refine ⟨?_,by rw [cutParts found,List.append_assoc,List.singleton_append]⟩
  induction t generalizing a with
  | nil => simp [cut] at found
  | cons y t ih =>
    rw [cutStep] at found
    split at found
    · cases found
      simp
    · rename_i other
      obtain ⟨⟨front,back⟩,later,same⟩ := Option.map_eq_some_iff.mp found
      cases same
      rw [List.mem_cons,not_or]
      exact ⟨other,ih later⟩

theorem stripLeaves {head t rest : Text} {b : UInt8} (filled : head ≠ [])
    (found : stripStart head (b :: t) = some rest) : rest <:+ t := by
  obtain ⟨x,head,rfl⟩ := List.exists_cons_of_ne_nil filled
  rw [stripStart] at found
  split at found
  · cases found
    exact List.drop_suffix head.length t
  · contradiction

theorem cutLeaves {head t front rest : Text} {b : UInt8} (filled : head ≠ [])
    (found : cut head (b :: t) = some (front, rest)) : rest <:+ t := by
  have whole := cutParts found
  cases before : front ++ head with
  | nil => exact absurd (List.append_eq_nil_iff.mp before).2 filled
  | cons x before' =>
    rw [before,List.cons_append] at whole
    exact ⟨before',(List.cons.inj whole).2.symm⟩

/-! ### A text behind, without the bytes that are looked for -/

section Behind

variable {head w : Text} (apart : ∀ x ∈ head, x ∉ w)

include apart

theorem prefixBehind (t : Text) : head.isPrefixOf (t ++ w) = head.isPrefixOf t := by
  induction head generalizing t with
  | nil => rfl
  | cons x head ih =>
    obtain ⟨first,others⟩ := List.forall_mem_cons.mp apart
    cases t with
    | cons b t => simp [List.isPrefixOf,ih others]
    | nil => cases w with
      | nil => rfl
      | cons y w =>
        simp only [List.mem_cons,not_or] at first
        simp [List.isPrefixOf,first.1]

theorem stripBehind (t : Text) : stripStart head (t ++ w) = (stripStart head t).map (· ++ w) := by
  rw [stripStart,stripStart,prefixBehind apart]
  split
  · rename_i start
    have inside := (List.isPrefixOf_iff_prefix.mp start).length_le
    rw [Option.map_some,List.drop_append_of_le_length inside]
  · rfl

theorem cutBehind (some : head ≠ []) (t : Text) :
    cut head (t ++ w) = (cut head t).map fun r => (r.1, r.2 ++ w) := by
  have filled : head.isEmpty = false := by simpa using some
  induction t with
  | cons b t ih =>
    rw [List.cons_append,cut,cut,ih,← List.cons_append,prefixBehind apart]
    split
    · rename_i start
      have inside := (List.isPrefixOf_iff_prefix.mp start).length_le
      rw [Option.map_some,List.drop_append_of_le_length inside]
    · cases cut head t <;> rfl
  | nil =>
    have none : cut head [] = none := by simp [cut,filled]
    rw [none,List.nil_append,Option.map_none]
    have start (t : Text) (inside : ∀ x ∈ head, x ∉ t) : head.isPrefixOf t = false := by
      have same := prefixBehind inside []
      cases head with
      | nil => contradiction
      | cons x head => simpa [List.isPrefixOf] using same
    induction w with
    | nil => exact none
    | cons y w ih =>
      rw [cut,start _ apart,if_neg (by simp),ih fun x mem later => apart x mem (.tail _ later)]
      rfl

end Behind

/-! ### All pieces -/

theorem splitSome (sep : UInt8) (t : Text) : splitByte sep t ≠ [] := by
  cases t with
  | nil => simp [splitByte]
  | cons b t =>
    rw [splitByte]
    split
    · simp
    · split <;> simp

theorem splitAbsent {t : Text} (absent : sep ∉ t) : splitByte sep t = [t] := by
  induction t with
  | nil => rfl
  | cons b t ih =>
    simp only [List.mem_cons,not_or] at absent
    rw [splitByte,if_neg (Ne.symm absent.1),ih absent.2]

theorem splitFront {a : Text} (absent : sep ∉ a) (b : Text) :
    splitByte sep (a ++ sep :: b) = a :: splitByte sep b := by
  induction a with
  | nil => simp [splitByte]
  | cons x a ih =>
    simp only [List.mem_cons,not_or] at absent
    rw [List.cons_append,splitByte,if_neg (Ne.symm absent.1),ih absent.2]

theorem splitApart {t part : Text} (mem : part ∈ splitByte sep t) : sep ∉ part := by
  induction t generalizing part with
  | nil =>
    obtain rfl : part = [] := by simpa [splitByte] using mem
    simp
  | cons b t ih =>
    rw [splitByte] at mem
    split at mem
    · rcases List.mem_cons.mp mem with rfl | later
      · simp
      · exact ih later
    · rename_i other
      cases pieces : splitByte sep t with
      | nil => exact absurd pieces (splitSome sep t)
      | cons piece more =>
        rw [pieces] at mem
        rcases List.mem_cons.mp mem with rfl | later
        · rw [List.mem_cons,not_or]
          exact ⟨Ne.symm other,ih (by simp [pieces])⟩
        · exact ih (by simp [pieces,later])

theorem joinCons (sep part : Text) {parts : List Text} (some : parts ≠ []) :
    join sep (part :: parts) = part ++ sep ++ join sep parts := by
  cases parts with
  | nil => contradiction
  | cons next parts => rfl

theorem joinSplit (sep : UInt8) (t : Text) : join [sep] (splitByte sep t) = t := by
  induction t with
  | nil => rfl
  | cons b t ih =>
    rw [splitByte]
    split
    · rename_i same
      rw [joinCons _ _ (splitSome sep t),ih,same]
      rfl
    · cases pieces : splitByte sep t with
      | nil => exact absurd pieces (splitSome sep t)
      | cons piece more =>
        rw [pieces] at ih
        rw [← ih]
        cases more with
        | nil => rfl
        | cons next more =>
          rw [joinCons _ _ (List.cons_ne_nil _ _),joinCons _ _ (List.cons_ne_nil _ _)]
          rfl

theorem splitJoin {parts : List Text} (some : parts ≠ []) (apart : ∀ part ∈ parts, sep ∉ part) :
    splitByte sep (join [sep] parts) = parts := by
  induction parts with
  | nil => contradiction
  | cons part parts ih =>
    obtain ⟨first,others⟩ := List.forall_mem_cons.mp apart
    cases parts with
    | nil => exact splitAbsent first
    | cons next parts =>
      rw [joinCons _ _ (List.cons_ne_nil _ _),List.append_assoc,List.singleton_append,
        splitFront first,ih (by simp) others]

end LogSql.Text
