import LogSql.Proofs.Pattern.Closing

/-! Character classes with the closing behind them. -/
namespace LogSql.Pattern

theorem classEscapeLeaves {flags : Flags} {b : UInt8} {t : Text} {p : ClassItem × Text}
    (found : classEscape? flags (b :: t) = some p) : Leaves t p := by
  cases t with
  | nil => contradiction
  | cons c t =>
    unfold classEscape? at found
    dsimp only at found
    split at found
    · contradiction
    · split at found
      iterate 6
        cases found
        exact List.suffix_cons c t
      contradiction

theorem classEscapeBehind (flags : Flags) (t : Text) :
    SameItem (classEscape? flags t) (classEscape? flags (t ++ closing)) := by
  match t with
  | [] => rfl
  | [b] =>
    rw [SameItem,List.singleton_append,closing,classEscape?]
    split
    · rfl
    · rfl
  | b :: c :: t =>
    rw [SameItem,List.cons_append,List.cons_append,classEscape?,classEscape?]
    split
    · rfl
    · dsimp only
      split <;> rfl

theorem namedClassLeaves (flags : Flags) (b : UInt8) (t : Text) :
    Gives (fun o => ∀ p, o = some p → Leaves t p) (namedClass? flags (b :: t)) := by
  unfold namedClass?
  split
  · exact Gives.ok.mpr (by simp)
  rename_i body start
  split
  · exact Gives.ok.mpr (by simp)
  rename_i name rest found
  dsimp only
  split
  · refine Gives.ok.mpr ?_
    rintro _ ⟨⟩
    have inner : rest <:+ body := ⟨name ++ Text.ofString ":]",(Text.cutParts found).symm⟩
    exact inner.trans (Text.stripLeaves (by decide) start)
  · exact .error

theorem namedClassAlong (flags : Flags) (t : Text) :
    Along SameItem (fun _ => False) (namedClass? flags t) (namedClass? flags (t ++ closing)) := by
  have opening : ∀ x ∈ Text.ofString "[:", x ∉ closing := by decide +kernel
  have ending : ∀ x ∈ Text.ofString ":]", x ∉ closing := by decide +kernel
  unfold namedClass?
  rw [Text.stripBehind opening]
  cases Text.stripStart "[:" t with
  | none => exact .ok rfl
  | some body =>
    rw [Option.map_some]
    dsimp only
    rw [Text.cutBehind ending (by decide)]
    cases Text.cut ":]" body with
    | none => exact .ok rfl
    | some parts =>
      obtain ⟨name,rest⟩ := parts
      dsimp only [Option.map_some]
      split
      · exact .ok rfl
      · exact .error

theorem upToBehind (t rest : Text) : upTo (t ++ closing) (rest ++ closing) = upTo t rest := by
  rw [upTo,List.length_append,List.length_append,Nat.add_sub_add_right,
    List.take_append_of_le_length (Nat.sub_le _ _)]
  rfl

theorem unicodeClassLeaves (flags : Flags) (b : UInt8) (t : Text) :
    Gives (fun o => ∀ p, o = some p → Leaves t p) (unicodeClass? flags (b :: t)) := by
  cases t with
  | nil => exact Gives.ok.mpr (by simp)
  | cons p after =>
    unfold unicodeClass?
    dsimp only
    refine .ite (fun _ => Gives.ok.mpr (by simp)) fun _ => ?_
    refine (nextCharRest after).bind fun q left => ?_
    obtain ⟨c,rest⟩ := q
    refine .ite (fun _ => ?_) fun _ => ?_
    · split
      · exact Gives.bind (fun _ _ => trivial) fun _ _ => Gives.bind .error fun _ => False.elim
      · rename_i front behind found
        refine Gives.bind (fun _ _ => trivial) fun _ _ => ?_
        simp only [pure_bind]
        split
        · exact .error
        · refine Gives.ok.mpr ?_
          rintro _ ⟨⟩
          exact Text.cutLeaves (by decide) found
    · simp only [pure_bind]
      split
      · exact .error
      · refine Gives.ok.mpr ?_
        rintro _ ⟨⟩
        exact left.trans (List.suffix_cons p after)

/-- There is no class of the empty name, and none of the parenthesis. -/
theorem unicodeRangesNone : unicodeRanges? [] = none ∧ unicodeRanges? [Text.byte ')'] = none := by
  decide

theorem unicodeClassAlong (flags : Flags) (t : Text) :
    Along SameItem (fun _ => False) (unicodeClass? flags t) (unicodeClass? flags (t ++ closing)) := by
  match t with
  | [] => exact .ok rfl
  | [b] =>
    have other : b ≠ Text.byte '\\' ∨ Text.byte ')' ≠ Text.byte 'p' ∧
      Text.byte ')' ≠ Text.byte 'P' := .inr (by decide)
    unfold unicodeClass?
    dsimp only [List.singleton_append,closing]
    rw [if_pos other]
    exact .ok rfl
  | b :: p :: after =>
    unfold unicodeClass?
    dsimp only [List.cons_append]
    refine .ite .rfl (fun _ => .ok rfl) fun _ => ?_
    have part (rest : Text) : upTo (b :: p :: (after ++ closing)) (rest ++ closing) =
      upTo (b :: p :: after) rest := upToBehind (b :: p :: after) rest
    cases after with
    | nil =>
      have character : nextChar closing = .ok (some ')',[Text.byte '$']) := rfl
      have ending : nextChar [] = .ok (none,[]) := rfl
      have caret : Text.byte ')' ≠ Text.byte '^' := by decide
      rw [List.nil_append,character,ending]
      simp only [bind,Except.bind,pure,Except.pure,reduceCtorEq,↓reduceIte,Option.some.injEq,
        Char.reduceEq,upTo,closing,List.length_cons,List.length_nil,Nat.reduceAdd,Nat.zero_add,Nat.sub_zero,
        Nat.add_one_sub_one,List.take_succ_cons,List.take_nil,List.take_zero,List.drop_succ_cons,
        List.drop_nil,List.drop_zero,List.head?_nil,List.head?_cons,unicodeRangesNone,caret]
      exact .error
    | cons e after =>
      refine (nextCharAlong (by simp)).bind ?_ fun _ => False.elim
      rintro ⟨c,rest⟩ _ _ rfl
      dsimp only [id]
      refine .ite .rfl (fun _ => ?_) fun _ => ?_
      · have cut := @Text.cutBehind "\x7d" closing (by decide +kernel) (by decide) (b :: p :: e :: after)
        rw [List.cons_append,List.cons_append] at cut
        rw [cut]
        cases Text.cut "\x7d" (b :: p :: e :: after) with
        | none =>
          have fails {x : Except Error Unit} {err : Error}
              {f : Text × Text × Text → Except Error (Option (ClassItem × Text))} :
              Gives (fun _ => False) (x.bind fun _ => (throw err : Except Error _).bind f) :=
            Gives.bind (fun _ _ => trivial) fun _ _ => Gives.bind .error fun _ => False.elim
          exact .fails fails fails
        | some parts =>
          obtain ⟨front,behind⟩ := parts
          dsimp only [Option.map_some]
          refine .check fun _ => ?_
          simp only [pure_bind,part]
          split
          · exact .error
          · exact .ok rfl
      · simp only [pure_bind,part]
        split
        · exact .error
        · exact .ok rfl

theorem classCharLeaves (whole : Text) (b : UInt8) (t : Text) :
    Gives (Leaves t) (classChar whole (b :: t)) := by
  unfold classChar
  dsimp only
  refine .ite (fun _ => escapeLeaves b t) fun _ => ?_
  exact (nextCharLeaves b t).bind fun p left => Gives.ok.mpr left

theorem classCharAlong (whole whole' t : Text) :
    Along (Kept id) Into (classChar whole t) (classChar whole' (t ++ closing)) := by
  cases t with
  | nil => exact .past (classCharLeaves whole' (Text.byte ')') [Text.byte '$'])
  | cons b t =>
    unfold classChar
    dsimp only [List.cons_append]
    refine .ite .rfl (fun _ => escapeAlong (by simp)) fun _ => ?_
    refine (nextCharAlong (by simp)).bind ?_ fun _ => False.elim
    rintro ⟨c,rest⟩ _ _ rfl
    exact .ok rfl

/-- An item that is a class of its own. -/
def specialItem (flags : Flags) (t : Text) : Except Error (Option (ClassItem × Text)) := do
  match ← namedClass? flags t with
  | some r => return some r
  | none =>
    match ← unicodeClass? flags t with
    | some r => return some r
    | none => return classEscape? flags t

/-- Whether a range goes on behind its first character. -/
def ranged : Text → Bool
  | a :: b :: _ => a = Text.byte '-' && b ≠ Text.byte ']'
  | _ => false

/-- An item from its first character on. -/
def rangeItem (flags : Flags) (whole t : Text) (lo : Nat) (rest : Text) :
    Except Error (ClassItem × Text) :=
  (if ranged rest then classChar whole (rest.drop 1) else .ok (lo, rest)).bind fun p =>
    if p.1 < lo then .error ⟨.charClassRange, upTo t p.2⟩
    else .ok (⟨[(lo, p.1)], flags.fold, false⟩, p.2)

theorem namedClassShort (flags : Flags) {t : Text} (short : ¬2 < t.length) :
    namedClass? flags t = .ok none := by
  unfold namedClass?
  split
  · rfl
  rename_i body start
  have empty : body = [] := by
    rw [Text.stripStart] at start
    split at start
    · cases start
      exact List.drop_eq_nil_of_le (Nat.not_lt.mp short)
    · contradiction
  rw [empty]
  rfl

theorem classItemsStep (flags : Flags) (whole : Text) (fuel : Nat) (first : Bool) (t : Text) :
    classItems flags whole (fuel + 1) first t =
      if (!first) = true ∧ t.head? = some (Text.byte ']') then .ok ([],t.drop 1) else
        let more (item : ClassItem) (rest : Text) := (classItems flags whole fuel false rest).bind
          fun p => .ok (item :: p.1,p.2)
        (specialItem flags t).bind fun o => match o with
          | some (item,rest) => more item rest
          | none => (classChar whole t).bind fun p =>
            (rangeItem flags whole t p.1 p.2).bind fun q => more q.1 q.2 := by
  rw [classItems]
  split
  · rfl
  · have named : (if 2 < t.length then namedClass? flags t else pure none) = namedClass? flags t := by
      split
      · rfl
      · rename_i short
        exact (namedClassShort flags short).symm
    rw [named]
    unfold specialItem rangeItem
    cases namedClass? flags t with
    | error err => rfl
    | ok o => cases o with
      | some p => rfl
      | none => cases unicodeClass? flags t with
        | error err => rfl
        | ok o => cases o with
          | some p => rfl
          | none =>
            cases classEscape? flags t with
            | some p => rfl
            | none =>
              simp only [bind,Except.bind,pure,Except.pure]
              cases classChar whole t with
              | error err => rfl
              | ok p =>
                obtain ⟨lo,rest⟩ := p
                rcases rest with _ | ⟨a,_ | ⟨b,rest⟩⟩
                · simp [ranged]
                · simp [ranged]
                · show (if ranged (a :: b :: rest) = true then _ else _) = _
                  dsimp only
                  by_cases going : ranged (a :: b :: rest) = true
                  · rw [if_pos going,if_pos going]
                    cases classChar whole (List.drop 1 (a :: b :: rest)) with
                    | error err => rfl
                    | ok q =>
                      dsimp only
                      split <;> rfl
                  · rw [if_neg going,if_neg going,if_neg (Nat.lt_irrefl lo)]
                    dsimp only
                    rw [if_neg (Nat.lt_irrefl lo)]

theorem specialItemLeaves (flags : Flags) (b : UInt8) (t : Text) :
    Gives (fun o => ∀ p, o = some p → Leaves t p) (specialItem flags (b :: t)) := by
  unfold specialItem
  refine (namedClassLeaves flags b t).bind fun o named => ?_
  cases o with
  | some p => exact Gives.ok.mpr named
  | none =>
    refine (unicodeClassLeaves flags b t).bind fun o unicode => ?_
    cases o with
    | some p => exact Gives.ok.mpr unicode
    | none => exact Gives.ok.mpr fun p => classEscapeLeaves

theorem specialItemAlong (flags : Flags) (t : Text) :
    Along SameItem (fun _ => False) (specialItem flags t) (specialItem flags (t ++ closing)) := by
  unfold specialItem
  refine (namedClassAlong flags t).bind ?_ fun _ => False.elim
  rintro o _ _ rfl
  cases o with
  | some p => exact .ok rfl
  | none =>
    refine (unicodeClassAlong flags t).bind ?_ fun _ => False.elim
    rintro o _ _ rfl
    cases o with
    | some p => exact .ok rfl
    | none => exact .ok (classEscapeBehind flags t)

theorem rangeItemLeaves (flags : Flags) (whole t : Text) (lo : Nat) (rest : Text) :
    Gives (Leaves rest) (rangeItem flags whole t lo rest) := by
  refine Gives.bind (P := Leaves rest) ?_ fun p left => .ite (fun _ => .error) fun _ =>
    Gives.ok.mpr left
  split
  · rename_i going
    match rest, going with
    | a :: b :: rest, _ =>
      exact (classCharLeaves whole b rest).imp fun p left =>
        (left.trans (List.suffix_cons b rest)).trans (List.suffix_cons a _)
  · exact Gives.ok.mpr (List.suffix_refl _)

/-- An item from its first character on, unless the text ends with the hyphen of a range. -/
theorem rangeItemAlong (flags : Flags) (whole whole' t t' : Text) (lo : Nat) {rest : Text}
    (more : rest ≠ [Text.byte '-']) :
    Along (Kept id) Into (rangeItem flags whole t lo rest)
      (rangeItem flags whole' t' lo (rest ++ closing)) := by
  have first : Along (Kept id) Into
      (if ranged rest then classChar whole (rest.drop 1) else .ok (lo, rest))
      (if ranged (rest ++ closing) then classChar whole' ((rest ++ closing).drop 1)
        else .ok (lo, rest ++ closing)) := by
    rcases rest with _ | ⟨a,_ | ⟨b,rest⟩⟩
    · exact .ok rfl
    · have last : ranged ([a] ++ closing) = false := by
        have other : a ≠ Text.byte '-' := fun same => more (same ▸ rfl)
        simp [ranged,closing,other]
      rw [last]
      exact .ok rfl
    · exact .ite .rfl (fun _ => classCharAlong whole whole' (b :: rest)) fun _ => .ok rfl
  refine first.bind ?_ fun p into => .ite (fun _ => .error) fun _ => Gives.ok.mpr into
  rintro ⟨hi,rest⟩ _ _ rfl
  exact .ite .rfl (fun _ => .error) fun _ => .ok rfl

theorem classItemsEnd (flags : Flags) (whole : Text) (fuel : Nat) (first : Bool) :
    Gives (fun _ => False) (classItems flags whole fuel first []) := by
  cases fuel with
  | zero => exact .error
  | succ fuel =>
    rw [classItemsStep,if_neg (by simp)]
    exact .error

theorem classItemsLeaves (flags : Flags) (whole : Text) (fuel : Nat) (first : Bool) (b : UInt8)
    (t : Text) : Gives (Leaves t) (classItems flags whole fuel first (b :: t)) := by
  induction fuel generalizing first b t with
  | zero => exact .error
  | succ fuel ih =>
    have more {rest : Text} (left : rest <:+ t) (item : ClassItem) : Gives (Leaves t)
        ((classItems flags whole fuel false rest).bind fun p => .ok (item :: p.1,p.2)) := by
      refine Gives.bind ?_ fun p inner => Gives.ok.mpr (inner : p.2 <:+ t)
      cases rest with
      | nil => exact (classItemsEnd flags whole fuel false).imp fun _ => False.elim
      | cons c rest =>
        exact (ih false c rest).imp fun p inner => (inner.trans (List.suffix_cons c rest)).trans left
    rw [classItemsStep]
    refine .ite (fun _ => Gives.ok.mpr (List.suffix_refl t)) fun _ => ?_
    refine (specialItemLeaves flags b t).bind fun o special => ?_
    cases o with
    | some p => exact more (special p rfl) p.1
    | none =>
      refine (classCharLeaves whole b t).bind fun p left => ?_
      exact (rangeItemLeaves flags whole _ p.1 p.2).bind fun q inner => more (inner.trans left) q.1

theorem classItemsRest (flags : Flags) (whole : Text) (fuel : Nat) (first : Bool) (t : Text) :
    Gives (Leaves t) (classItems flags whole fuel first t) := by
  cases t with
  | nil => exact (classItemsEnd flags whole fuel first).imp fun _ => False.elim
  | cons b t =>
    exact (classItemsLeaves flags whole fuel first b t).imp fun _ left =>
      left.trans (List.suffix_cons b t)

theorem rangeItemHyphen (flags : Flags) (whole t : Text) (lo : Nat) :
    Gives (fun q => q.2 = [Text.byte '-']) (rangeItem flags whole t lo [Text.byte '-']) :=
  Gives.bind (P := fun p => p.2 = [Text.byte '-']) (Gives.ok.mpr rfl) fun _ same =>
    .ite (fun _ => .error) fun _ => Gives.ok.mpr same

theorem rangeItemPast (flags : Flags) (whole t : Text) (lo : Nat) :
    Gives Into (rangeItem flags whole t lo (Text.byte '-' :: closing)) :=
  Gives.bind (P := Into) (classCharLeaves whole (Text.byte ')') [Text.byte '$']) fun _ into =>
    .ite (fun _ => .error) fun _ => Gives.ok.mpr into

/-- A class does not end with a hyphen. -/
theorem classItemsHyphen (flags : Flags) (whole : Text) (fuel : Nat) :
    Gives (fun _ => False) (classItems flags whole fuel false [Text.byte '-']) := by
  cases fuel with
  | zero => exact .error
  | succ fuel =>
    have special : specialItem flags [Text.byte '-'] = .ok none := rfl
    have character : classChar whole [Text.byte '-'] = .ok (45,[]) := rfl
    rw [classItemsStep,if_neg (by decide),special,character]
    refine Gives.bind (P := fun o => o = none) (Gives.ok.mpr rfl) ?_
    rintro _ rfl
    refine Gives.bind (P := fun p => p = (45,[])) (Gives.ok.mpr rfl) ?_
    rintro _ rfl
    refine (rangeItemLeaves flags whole _ 45 []).bind fun q left => ?_
    rw [List.suffix_nil.mp left]
    exact Gives.bind (classItemsEnd flags whole fuel false) fun _ => False.elim

theorem classItemsAlong (flags : Flags) (whole whole' : Text) {fuel fuel' : Nat} (first : Bool)
    {t : Text} (enough : t.length < fuel) (enough' : (t ++ closing).length < fuel') :
    Along (Kept id) Into (classItems flags whole fuel first t)
      (classItems flags whole' fuel' first (t ++ closing)) := by
  induction fuel generalizing fuel' first t with
  | zero => contradiction
  | succ fuel ih =>
    obtain ⟨fuel',rfl⟩ : ∃ n, fuel' = n + 1 := Nat.exists_eq_add_of_le' (by omega)
    cases t with
    | nil =>
      exact .fails (classItemsEnd flags whole _ first)
        (classItemsLeaves flags whole' _ first (Text.byte ')') [Text.byte '$'])
    | cons b t =>
      have more {rest : Text} (left : rest <:+ t) (item : ClassItem) : Along (Kept id) Into
          ((classItems flags whole fuel false rest).bind fun p => .ok (item :: p.1,p.2))
          ((classItems flags whole' fuel' false (rest ++ closing)).bind fun p =>
            .ok (item :: p.1,p.2)) := by
        have shorter := left.length_le
        simp only [List.length_append,List.length_cons] at enough enough'
        refine (ih false (by omega) (by rw [List.length_append]; omega)).bind ?_ fun p into =>
          Gives.ok.mpr into
        rintro p _ _ rfl
        exact .ok rfl
      have past {rest : Text} (into : rest <:+ [Text.byte '$']) (item : ClassItem) : Gives Into
          ((classItems flags whole' fuel' false rest).bind fun p => .ok (item :: p.1,p.2)) :=
        (classItemsRest flags whole' fuel' false rest).bind fun p left =>
          Gives.ok.mpr (left.trans into)
      rw [classItemsStep,classItemsStep]
      refine .ite .rfl (fun _ => .ok rfl) fun _ => ?_
      refine (specialItemAlong flags (b :: t)).bind ?_ fun _ => False.elim
      rintro o _ special rfl
      cases o with
      | some p => exact more (specialItemLeaves flags b t _ special p rfl) p.1
      | none =>
        refine (classCharAlong whole whole' (b :: t)).bind ?_ fun p into => ?_
        · rintro ⟨lo,rest⟩ _ character rfl
          have left := classCharLeaves whole b t _ character
          by_cases hyphen : rest = [Text.byte '-']
          · subst hyphen
            refine .fails ?_ ?_
            · refine (rangeItemHyphen flags whole _ lo).bind fun q same => ?_
              rw [same]
              exact Gives.bind (classItemsHyphen flags whole fuel) fun _ => False.elim
            · exact (rangeItemPast flags whole' _ lo).bind fun q into => past into q.1
          · refine (rangeItemAlong flags whole whole' _ _ lo hyphen).bind ?_ fun q into => past into q.1
            rintro q _ item rfl
            exact more ((rangeItemLeaves flags whole _ lo rest _ item).trans left) q.1
        · exact (rangeItemLeaves flags whole' _ p.1 p.2).bind fun q inner => past (inner.trans into) q.1

theorem readClassLeaves (flags : Flags) (b : UInt8) (t : Text) :
    Gives (Leaves t) (readClass flags (b :: t)) := by
  unfold readClass
  dsimp only [List.drop_succ_cons,List.drop_zero]
  refine (classItemsRest flags _ _ true _).bind fun p left => Gives.ok.mpr (left.trans ?_)
  split
  · exact List.drop_suffix 1 _
  · exact List.suffix_refl _

theorem readClassAlong (flags : Flags) {t : Text} (some : t ≠ []) :
    Along (Kept id) Into (readClass flags t) (readClass flags (t ++ closing)) := by
  obtain ⟨b,t,rfl⟩ := List.exists_cons_of_ne_nil some
  have items (negated : Bool) (t whole whole' : Text) :
      Along (Kept id) Into
        ((classItems flags whole (t.length + 1) true t).bind fun p =>
          .ok ((⟨p.1,negated⟩ : CharClass),p.2))
        ((classItems flags whole' ((t ++ closing).length + 1) true (t ++ closing)).bind fun p =>
          .ok ((⟨p.1,negated⟩ : CharClass),p.2)) := by
    refine (classItemsAlong flags whole whole' true (Nat.lt_succ_self _) (Nat.lt_succ_self _)).bind
      ?_ fun p into => Gives.ok.mpr into
    rintro p _ _ rfl
    exact .ok rfl
  cases t with
  | nil => exact items false [] [b] (b :: closing)
  | cons c t =>
    unfold readClass
    simp only [List.cons_append,List.drop_one,List.tail_cons,List.head?_cons]
    by_cases caret : Option.some c = Option.some (Text.byte '^')
    · simp only [caret,if_true]
      exact items _ t _ _
    · simp only [caret,if_false]
      exact items _ (c :: t) _ _

end LogSql.Pattern
