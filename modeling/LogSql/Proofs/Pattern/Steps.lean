import LogSql.Proofs.Pattern.Classes
import LogSql.Proofs.Pattern.Groups

/-! One step of the reader with the closing behind the text. -/
namespace LogSql.Pattern

/-! ### Escapes -/

/-- An escape for a class or a character. -/
def readOrdinary (st : State) (t : Text) : Except Error (State × Text) :=
  (unicodeClass? st.flags t).bind fun o => match o with
    | some (item, rest) => .ok (st.pushClass ⟨[item], false⟩, rest)
    | none => match classEscape? st.flags t with
      | some (item, rest) => .ok (st.pushClass ⟨[item], false⟩, rest)
      | none => (readEscape t).bind fun p => .ok (st.pushClass (literalClass st.flags p.1), p.2)

theorem readOrdinaryLeaves (st : State) (b : UInt8) (t : Text) :
    Gives (Leaves t) (readOrdinary st (b :: t)) := by
  unfold readOrdinary
  refine (unicodeClassLeaves st.flags b t).bind fun o unicode => ?_
  cases o with
  | some p => exact Gives.ok.mpr (unicode p rfl)
  | none =>
    dsimp only
    cases found : classEscape? st.flags (b :: t) with
    | some p => exact Gives.ok.mpr (classEscapeLeaves found)
    | none => exact (escapeLeaves b t).bind fun p left => Gives.ok.mpr left

theorem readOrdinaryAlong (st : State) {t : Text} (some : t ≠ []) :
    Along (Kept State.inside) Past (readOrdinary st t) (readOrdinary st.inside (t ++ closing)) := by
  unfold readOrdinary
  refine (unicodeClassAlong st.flags t).bind ?_ fun _ => False.elim
  rintro o _ _ rfl
  cases o with
  | some p => exact .ok rfl
  | none =>
    have same := classEscapeBehind st.flags t
    rw [SameItem] at same
    dsimp only [Option.map_none]
    show Along _ _ _ (match classEscape? st.flags (t ++ closing) with
      | Option.some (item, rest) => _
      | none => _)
    rw [same]
    cases classEscape? st.flags t with
    | some p => exact .ok rfl
    | none =>
      refine (escapeAlong some).bind ?_ fun p into => Gives.ok.mpr ⟨into,st.insideOuter⟩
      rintro p _ _ rfl
      exact .ok rfl

/-- A quotation that the text does not end. -/
def OpenQuotation (t : Text) : Prop :=
  ∃ rest, t = Text.byte '\\' :: Text.byte 'Q' :: rest ∧ Text.cut "\\E" rest = none

/-- A run of literals and what follows it. -/
def readQuotation (st : State) (after : Text) : Except Error (State × Text) :=
  let parts := (Text.cut "\\E" after).getD (after, [])
  (pushLiterals st (parts.1.length + 1) parts.1).bind fun s => .ok (s, parts.2)

theorem readQuotationLeaves (st : State) (after : Text) :
    Gives (Leaves after) (readQuotation st after) := by
  refine Gives.bind (fun _ _ => trivial) fun _ _ => Gives.ok.mpr ?_
  cases found : Text.cut "\\E" after with
  | none => exact List.nil_suffix
  | some parts => exact ⟨parts.1 ++ Text.ofString "\\E",(Text.cutParts found).symm⟩

theorem readBackslashLeaves (st : State) (b : UInt8) (t : Text) :
    Gives (Leaves t) (readBackslash st (b :: t)) := by
  cases t with
  | nil => exact readOrdinaryLeaves st b []
  | cons c t =>
    have after : Leaves (c :: t) (st,(b :: c :: t).drop 2) := List.suffix_cons c t
    unfold readBackslash
    dsimp only
    split
    iterate 3 exact Gives.ok.mpr after
    · exact .error
    · exact (readQuotationLeaves st t).imp fun _ left => left.trans (List.suffix_cons c t)
    · exact Gives.ok.mpr after
    · exact readOrdinaryLeaves st b (c :: t)

theorem readQuotationAlong (st : State) {after : Text} (closed : Text.cut "\\E" after ≠ none) :
    Along (Kept State.inside) Past (readQuotation st after)
      (readQuotation st.inside (after ++ closing)) := by
  obtain ⟨parts,found⟩ := Option.ne_none_iff_exists'.mp closed
  have apart : ∀ x ∈ Text.ofString "\\E", x ∉ closing := by decide +kernel
  unfold readQuotation
  rw [Text.cutBehind apart (by decide),found]
  dsimp only [Option.map_some,Option.getD_some]
  rw [pushLiteralsInside]
  cases pushLiterals st (parts.1.length + 1) parts.1 with
  | error err => exact .error
  | ok s => exact .ok rfl

theorem readQuotationPast (st : State) {after : Text} (quoted : Text.cut "\\E" after = none) :
    Gives Past (readQuotation st.inside (after ++ closing)) := by
  have apart : ∀ x ∈ Text.ofString "\\E", x ∉ closing := by decide +kernel
  unfold readQuotation
  rw [Text.cutBehind apart (by decide),quoted]
  refine (pushLiteralsOuter st.inside _ _).bind fun s outer => Gives.ok.mpr ⟨List.nil_suffix,?_⟩
  rw [outer]
  exact st.insideOuter

theorem readBackslashAlong (st : State) {b : UInt8} {t : Text}
    (closed : ∀ rest, t = Text.byte 'Q' :: rest → Text.cut "\\E" rest ≠ none) :
    Along (Kept State.inside) Past (readBackslash st (b :: t))
      (readBackslash st.inside (b :: t ++ closing)) := by
  cases t with
  | nil => exact readOrdinaryAlong st (by simp)
  | cons c t =>
    unfold readBackslash
    dsimp only [List.cons_append]
    split
    iterate 3 exact .ok rfl
    · exact .error
    · rename_i letter
      exact readQuotationAlong st (closed t (by rw [Text.byteOfChar letter]))
    · exact .ok rfl
    · exact readOrdinaryAlong st (by simp)

/-! ### Steps -/

/-- A repetition operator, as the last step that was made. -/
def repeatStep (st : State) (low : Nat) (high : Option Nat) (counted : Bool) (t after : Text) :
    Except Error (State × Text) :=
  (applyRepeat st low high counted t after).bind fun p =>
    .ok ({ p.1 with lastRepeat := some t }, p.2)

theorem repeatStepLeaves (st : State) (low : Nat) (high : Option Nat) (counted : Bool)
    (t after : Text) : Gives (Leaves after) (repeatStep st low high counted t after) :=
  (applyRepeatLeaves st low high counted t after).bind fun _ left => Gives.ok.mpr left

theorem repeatStepAlong (st : State) (low : Nat) (high : Option Nat) (counted : Bool)
    (t after : Text) : Along (Kept State.inside) Past (repeatStep st low high counted t after)
      (repeatStep st.inside low high counted (t ++ closing) (after ++ closing)) := by
  refine (applyRepeatAlong st low high counted t (t ++ closing) after).bind ?_ fun _ => False.elim
  rintro p _ _ rfl
  exact .ok rfl

/-- The bounds of a counted repetition, as far as they are allowed. -/
def checkBounds (part : Text) : Option Nat → Option (Option Nat) → Except Error (Nat × Option Nat)
  | some l, none => if l ≤ 1000 then .ok (l, none) else .error ⟨.repeatSize, part⟩
  | some l, some (some h) =>
    if l ≤ 1000 ∧ h ≤ 1000 ∧ l ≤ h then .ok (l, some h) else .error ⟨.repeatSize, part⟩
  | _, _ => .error ⟨.repeatSize, part⟩

theorem checkBoundsAlong (part part' : Text) (low : Option Nat) (high : Option (Option Nat)) :
    Along Eq (fun _ => False) (checkBounds part low high) (checkBounds part' low high) := by
  rcases low with _ | l
  · exact .error
  rcases high with _ | _ | h
  · exact .ite .rfl (fun _ => .ok rfl) fun _ => .error
  · exact .error
  · exact .ite .rfl (fun _ => .ok rfl) fun _ => .error

theorem readStepLeaves (whole : Text) (st : State) (b : UInt8) (t : Text) :
    Gives (Leaves t) (readStep whole st b (b :: t)) := by
  have rest {α : Type} (a : α) : Leaves t (a,(b :: t).drop 1) := List.suffix_refl t
  unfold readStep
  dsimp only
  split
  · refine .ite (fun marked => ?_) fun _ => Gives.ok.mpr (rest _)
    obtain ⟨c,u,rfl⟩ : ∃ c u, t = c :: u := by
      cases t with
      | nil => contradiction
      | cons c u => exact ⟨c,u,rfl⟩
    exact specialGroupLeaves _ b c u
  · exact .ite (fun _ => .error) fun _ => Gives.ok.mpr (rest _)
  · exact Gives.bind (fun _ _ => trivial) fun _ _ => Gives.ok.mpr (rest _)
  iterate 3 exact Gives.ok.mpr (rest _)
  · exact (readClassLeaves st.flags b t).bind fun _ left => Gives.ok.mpr left
  iterate 3 exact repeatStepLeaves st _ _ false (b :: t) t
  · split
    · exact Gives.ok.mpr (rest _)
    · rename_i low high after found
      refine Gives.bind (fun _ _ => trivial) fun q _ => ?_
      exact (repeatStepLeaves st q.1 q.2 true (b :: t) after).imp fun _ left =>
        left.trans (repeatBoundsLeaves found)
  · exact readBackslashLeaves _ b t
  · exact (nextCharLeaves b t).bind fun _ left => Gives.ok.mpr left

theorem readStepAlong (whole whole' : Text) (st : State) {b : UInt8} {t : Text}
    (closed : ¬OpenQuotation (b :: t)) (opened : b = Text.byte ')' → st.outer ≠ []) :
    Along (Kept State.inside) Past (readStep whole st b (b :: t))
      (readStep whole' st.inside b (b :: t ++ closing)) := by
  unfold readStep
  dsimp only [List.cons_append]
  split
  · rename_i letter
    refine .ite ?_ (fun marked => ?_) fun _ => .ok rfl
    · cases t with
      | nil =>
        show some (Text.byte ')') = some (Text.byte '?') ↔ none = some (Text.byte '?')
        decide
      | cons c t => rfl
    · obtain ⟨c,u,rfl⟩ : ∃ c u, t = c :: u := by
        cases t with
        | nil => contradiction
        | cons c u => exact ⟨c,u,rfl⟩
      have mark : c = Text.byte '?' := by simpa using marked
      refine specialGroupAlong { st with lastRepeat := none } ?_ ?_ u
      · rw [Text.byteOfChar letter]
        decide
      · rw [mark]
        decide
  · exact .ite .rfl (fun _ => .error) fun _ => .ok rfl
  · rename_i letter
    refine (@closeGroupAlong whole whole' { st with lastRepeat := none }
      (opened (Text.byteOfChar letter))).bind ?_ fun _ => False.elim
    rintro s _ _ rfl
    exact .ok rfl
  iterate 3 exact .ok rfl
  · refine (readClassAlong st.flags (by simp)).bind ?_ fun p into => Gives.ok.mpr ⟨into,st.insideOuter⟩
    rintro p _ _ rfl
    exact .ok rfl
  iterate 3 exact repeatStepAlong st _ _ false (b :: t) t
  · have bounds := repeatBoundsBehind (List.cons_ne_nil b t)
    rw [List.cons_append] at bounds
    rw [bounds]
    cases repeatBounds (b :: t) with
    | none => exact .ok rfl
    | some p =>
      obtain ⟨low,high,after⟩ := p
      refine (checkBoundsAlong _ _ low high).bind ?_ fun _ => False.elim
      rintro q _ _ rfl
      exact repeatStepAlong st q.1 q.2 true (b :: t) after
  · rename_i letter
    refine readBackslashAlong { st with lastRepeat := none } fun rest same none => closed ⟨rest,?_,none⟩
    rw [Text.byteOfChar letter,same]
  · refine (nextCharAlong (List.cons_ne_nil b t)).bind ?_ fun _ => False.elim
    rintro p _ _ rfl
    exact .ok rfl

theorem readStepPast (whole : Text) (st : State) {b : UInt8} {t : Text}
    (quoted : OpenQuotation (b :: t)) :
    Gives Past (readStep whole st.inside b (b :: t ++ closing)) := by
  obtain ⟨rest,same,absent⟩ := quoted
  cases same
  exact readQuotationPast { st with lastRepeat := none } absent

end LogSql.Pattern
