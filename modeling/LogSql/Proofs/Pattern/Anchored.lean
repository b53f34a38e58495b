import LogSql.Proofs.Pattern.Steps

/-! Anchored patterns. A pattern is anchored by a group around it, and the group is read as the pattern is,
but for a quotation that takes in the closing and for a parenthesis that closes the group too early. -/
namespace LogSql.Pattern

/-! ### Runs -/

/-- The steps of a reading, from one state and text to another. -/
inductive Reads (whole : Text) : State → Text → State → Text → Prop where
  | done (st : State) (t : Text) : Reads whole st t st t
  | step {st next last : State} {b : UInt8} {t rest left : Text}
      (head : readStep whole st b (b :: t) = .ok (next,rest)) (tail : Reads whole next rest last left) :
      Reads whole st (b :: t) last left

theorem readStepShorter {whole : Text} {st : State} {b : UInt8} {t : Text} {p : State × Text}
    {fuel : Nat} (enough : (b :: t).length < fuel + 1) (head : readStep whole st b (b :: t) = .ok p) :
    p.2.length < fuel := by
  have left : p.2.length ≤ t.length := (readStepLeaves whole st b t p head).length_le
  rw [List.length_cons] at enough
  omega

theorem readAllReads {whole : Text} {fuel : Nat} {st last : State} {t : Text}
    (enough : t.length < fuel) : readAll whole fuel st t = .ok last ↔ Reads whole st t last [] := by
  induction fuel generalizing st t with
  | zero => contradiction
  | succ fuel ih =>
    cases t with
    | nil =>
      rw [readAll]
      constructor
      · intro ok
        cases ok
        exact .done _ _
      · intro reads
        cases reads
        rfl
    | cons b t =>
      rw [readAll]
      constructor
      · intro ok
        obtain ⟨p,head,ok⟩ := bindOk ok
        exact .step head ((ih (readStepShorter enough head)).mp ok)
      · intro reads
        cases reads with
        | step head tail =>
          dsimp only
          rw [head]
          exact (ih (readStepShorter enough head)).mpr tail

/-- A step that fails ends the reading. -/
theorem readAllFails {whole : Text} {fuel : Nat} {st mid : State} {b : UInt8} {t rest : Text}
    {err : Error} (enough : t.length < fuel) (reads : Reads whole st t mid (b :: rest))
    (failed : readStep whole mid b (b :: rest) = .error err) :
    readAll whole fuel st t = .error err := by
  induction fuel generalizing st t with
  | zero => contradiction
  | succ fuel ih =>
    cases reads with
    | done =>
      rw [readAll]
      dsimp only
      rw [failed]
      rfl
    | step head tail =>
      rw [readAll]
      dsimp only
      rw [head]
      exact ih (readStepShorter enough head) tail

theorem readsSame {whole : Text} {st last other : State} {t : Text}
    (reads : Reads whole st t last []) (others : Reads whole st t other []) : last = other := by
  have all (s : State) := @readAllReads whole (t.length + 1) st s t (Nat.lt_succ_self _)
  exact Except.ok.inj (((all last).mpr reads).symm.trans ((all other).mpr others))

/-- What is left of the closing does not close the group. -/
theorem pastReads {whole : Text} {st last : State} {t : Text} (past : Past (st,t))
    (reads : Reads whole st t last []) : last.outer ≠ [] := by
  obtain ⟨into,outer⟩ := past
  rcases List.suffix_cons_iff.mp into with dollar | empty
  · cases dollar
    cases reads with
    | step head tail =>
      cases head
      cases tail
      exact outer
  · obtain rfl := List.suffix_nil.mp empty
    cases reads
    exact outer

/-! ### Heights -/

theorem heightInside (x : Sized) : x.height ≤ x.inSequence + 1 := by
  unfold Sized.inSequence
  split <;> omega

theorem finishHeight (f : Frame) : f.finish.height ≤ f.closed.inSequence + 1 := by
  unfold Frame.closed
  cases f.capture with
  | none => exact heightInside f.finish
  | some i =>
    show f.finish.height ≤ f.finish.height + 1 + 1
    omega

/-- The height of an item between two assertions. -/
theorem anchoredHeight (a b : Assertion) (x : Sized) :
    ({ items := [⟨.assert b,1⟩,x,⟨.assert a,1⟩] } : Frame).finish.height =
      1 + max 1 x.inSequence := by
  show (if (Regex.literal? (.seq (.assert a) (.seq x.re (.assert b)))).isSome then 1
    else 1 + max (max (max 0 1) x.inSequence) 1) = _
  rw [if_neg (by simp [Regex.literal?])]
  omega

/-- A state that a pattern can end in. -/
def Ended (st : State) : Prop := st.outer = [] ∧ st.frame.finish.height ≤ maxHeight

/-- The closing ends the reading when no other group is open. -/
theorem closingReads (whole : Text) (st : State) :
    (∃ last, Reads whole st.inside closing last [] ∧ Ended last) ↔
      st.outer = [] ∧ st.frame.closed.inSequence < maxHeight := by
  have close {parent : Frame} {outer : List Frame} (opened : st.inside.outer = parent :: outer) :=
    @closeGroupOpen whole { st.inside with lastRepeat := none } parent outer opened
  have many : 1 < maxHeight := by decide
  constructor
  · rintro ⟨last,reads,ended⟩
    cases reads with
    | step head tail =>
      obtain ⟨s,shut,same⟩ := bindOk head
      cases same
      cases opened : st.outer with
      | nil =>
        rw [close (by rw [State.inside,opened]; rfl)] at shut
        split at shut
        · contradiction
        · cases shut
          cases tail with
          | step head tail =>
            cases head
            cases tail
            have height : 1 + max 1 st.frame.closed.inSequence ≤ maxHeight := calc
              _ = _ := (anchoredHeight .textStart _ st.frame.closed).symm
              _ ≤ maxHeight := ended.2
            exact ⟨rfl,by omega⟩
      | cons parent outer =>
        rw [close (by rw [State.inside,opened]; rfl)] at shut
        split at shut
        · contradiction
        · cases shut
          exact absurd ended.1 (pastReads ⟨List.suffix_refl _,by simp⟩ tail)
  · rintro ⟨opened,low⟩
    have below : st.frame.closed.height ≤ maxHeight := by
      have := heightInside st.frame.closed
      omega
    have shut := (close (by rw [State.inside,opened]; rfl)).trans (if_neg (Nat.not_lt.mpr below))
    have head : readStep whole st.inside (Text.byte ')') closing = .ok (_,[Text.byte '$']) :=
      show (closeGroup { st.inside with lastRepeat := none } whole).bind _ = _ by
        rw [shut]
        rfl
    refine ⟨_,.step head (.step rfl (.done _ _)),rfl,?_⟩
    calc
      _ = 1 + max 1 st.frame.closed.inSequence := anchoredHeight .textStart _ st.frame.closed
      _ ≤ maxHeight := by omega

/-! ### The group inside -/

section Inside

variable {whole whole' : Text}

theorem stepOpened {st next : State} {b : UInt8} {t rest : Text}
    (head : readStep whole st b (b :: t) = .ok (next,rest)) (paren : b = Text.byte ')') :
    st.outer ≠ [] := by
  rintro closed
  subst paren
  obtain ⟨s,closing,_⟩ := bindOk head
  unfold closeGroup at closing
  rw [closed] at closing
  contradiction

/-- The group is read as the pattern is, while no quotation takes in the closing. -/
theorem insideReads {st last : State} {t left : Text} (reads : Reads whole st t last left)
    (closed : ∀ mid rest, Reads whole st t mid rest → ¬OpenQuotation rest) :
    ∀ {out : State}, Reads whole' last.inside (left ++ closing) out [] →
      Reads whole' st.inside (t ++ closing) out [] := by
  induction reads with
  | done st t => exact fun later => later
  | @step st next last b t rest left head tail ih =>
    intro out later
    have along := readStepAlong whole whole' st (closed _ _ (.done _ _)) (stepOpened head)
    obtain ⟨_,other,rfl⟩ := along.onward _ head
    exact .step other (ih (fun mid rest reads => closed mid rest (.step head reads)) later)

theorem quotedReads {st mid last : State} {t rest : Text} (reads : Reads whole st t mid rest)
    (quoted : OpenQuotation rest) (other : Reads whole' st.inside (t ++ closing) last []) :
    last.outer ≠ [] := by
  induction reads with
  | done st t =>
    obtain ⟨_,rfl,_⟩ := id quoted
    cases other with
    | step head tail => exact pastReads (readStepPast whole' st quoted _ head) tail
  | @step st next mid b t rest left head tail ih =>
    cases other with
    | step head' tail' =>
      by_cases here : OpenQuotation (b :: t)
      · exact pastReads (readStepPast whole' st here _ head') tail'
      · have along := readStepAlong whole whole' st here (stepOpened head)
        obtain ⟨_,done,rfl⟩ := along.onward _ head
        cases done.symm.trans head'
        exact ih quoted tail'

/-- A reading of the group that ends is one of the pattern, unless a parenthesis of the pattern closes
the group. -/
theorem outsideReads {st last : State} {t : Text}
    (reads : Reads whole' st.inside (t ++ closing) last []) (ended : last.outer = []) :
    (∃ out, Reads whole st t out [] ∧ Reads whole' out.inside closing last []) ∨
      ∃ out rest, Reads whole st t out (Text.byte ')' :: rest) ∧ out.outer = [] := by
  generalize size : t.length = n
  induction n using Nat.strongRecOn generalizing st t with
  | _ n ih =>
    cases t with
    | nil => exact .inl ⟨st,.done _ _,reads⟩
    | cons b t =>
      cases reads with
      | step head tail =>
        have left {q : State × Text} (past : Past q) (tail : Reads whole' q.1 q.2 last []) : False :=
          pastReads past tail ended
        by_cases quoted : OpenQuotation (b :: t)
        · exact (left (readStepPast whole' st quoted _ head) tail).elim
        by_cases unpaired : b = Text.byte ')' ∧ st.outer = []
        · exact .inr ⟨st,t,unpaired.1 ▸ .done _ _,unpaired.2⟩
        have along := readStepAlong whole whole' st quoted fun paren outer => unpaired ⟨paren,outer⟩
        rcases along.back _ head with past | ⟨⟨next,rest⟩,here,same⟩
        · exact (left past tail).elim
        · cases same
          have shorter : rest.length ≤ t.length := (readStepLeaves whole st b t _ here).length_le
          rw [List.length_cons] at size
          rcases ih rest.length (by omega) tail rfl with ⟨out,inner,later⟩ | ⟨out,more,inner,outer⟩
          · exact .inl ⟨out,.step here inner,later⟩
          · exact .inr ⟨out,more,.step here inner,outer⟩

end Inside

/-! ### Patterns -/

/-- A text that is the notation of an expression. -/
def Valid (t : Text) : Prop := ∃ r, read t = .ok r

instance (t : Text) : Decidable (Valid t) :=
  match outcome : read t with
  | .ok r => isTrue ⟨r,outcome⟩
  | .error _ => isFalse fun ⟨_,ok⟩ => nomatch outcome.symm.trans ok

/-- A pattern in the group that anchors it. -/
def enclosed (t : Text) : Text := Text.ofString "^(?:" ++ (t ++ closing)

/-- A pattern that ends within a quotation. -/
def OpenEnded (t : Text) : Prop := ∃ st rest, Reads t {} t st rest ∧ OpenQuotation rest

/-- A pattern that nests too deeply for a group. -/
def Deep (t : Text) : Prop :=
  ∃ last, Reads t {} t last [] ∧ maxHeight ≤ last.frame.closed.inSequence

/-- A pattern that the group does not keep as it is. -/
def Torn (t : Text) : Prop := OpenEnded t ∨ Deep t ∨ read t = .error ⟨.unexpectedParen, t⟩

theorem validReads {t : Text} : Valid t ↔ ∃ last, Reads t {} t last [] ∧ Ended last := by
  have all (last : State) := @readAllReads t (t.length + 1) {} last t (Nat.lt_succ_self _)
  unfold Valid read
  constructor
  · rintro ⟨r,ok⟩
    obtain ⟨last,head,ok⟩ := bindOk ok
    obtain ⟨low,ok⟩ := guardOk ok
    obtain ⟨complete,_⟩ := guardOk ok
    exact ⟨last,(all last).mp (mapErrorOk head),by simpa using complete,Nat.not_lt.mp low⟩
  · rintro ⟨last,reads,complete,low⟩
    refine ⟨(last.frame.finish.re,last.names.reverse),?_⟩
    rw [(all last).mpr reads]
    simp [complete,Nat.not_lt.mpr low,bind,Except.bind,pure,Except.pure]

theorem parenRefused {t rest : Text} {out : State}
    (reads : Reads t {} t out (Text.byte ')' :: rest)) (outer : out.outer = []) :
    read t = .error ⟨.unexpectedParen, t⟩ := by
  have failed : readStep t out (Text.byte ')') (Text.byte ')' :: rest) =
      .error ⟨.unexpectedParen, t⟩ := by
    show (closeGroup { out with lastRepeat := none } t).bind _ = _
    unfold closeGroup
    rw [outer]
    rfl
  unfold read
  rw [readAllFails (Nat.lt_succ_self _) reads failed]
  rfl

theorem stepReads {whole : Text} {st next last : State} {b : UInt8} {t rest : Text}
    (head : readStep whole st b (b :: t) = .ok (next,rest)) :
    Reads whole st (b :: t) last [] ↔ Reads whole next rest last [] := by
  constructor
  · intro reads
    cases reads with
    | step other tail =>
      cases head.symm.trans other
      exact tail
  · exact .step head

/-- The group is opened in two steps. -/
theorem enclosedReads {whole t : Text} {last : State} : Reads whole {} (enclosed t) last [] ↔
    Reads whole ({} : State).inside (t ++ closing) last [] := by
  have start : readStep whole {} (Text.byte '^') (enclosed t) =
      .ok (({} : State).pushAssert .textStart,Text.ofString "(?:" ++ (t ++ closing)) := rfl
  have group : readStep whole (({} : State).pushAssert .textStart) (Text.byte '(')
      (Text.ofString "(?:" ++ (t ++ closing)) = .ok (({} : State).inside,t ++ closing) := by
    show readSpecialGroup _ (Text.byte '(' :: Text.byte '?' :: Text.byte ':' :: (t ++ closing)) = _
    have other {n : Nat} {front : Text} (b : front.head? ≠ some (Text.byte ':')) :
        (Text.byte ':' :: (t ++ closing)).take (n + 1) ≠ front := by
      rintro rfl
      contradiction
    rw [specialGroup,if_neg fun named => other (by decide) named.2,
      if_neg fun named => other (by decide) named.2]
    rfl
  exact (stepReads start).trans (stepReads group)

theorem enclosedValid {t : Text} : Valid (enclosed t) ↔ ∃ last,
    Reads (enclosed t) ({} : State).inside (t ++ closing) last [] ∧ Ended last := by
  rw [validReads]
  exact exists_congr fun last => and_congr_left fun _ => enclosedReads

/-- What keeps a pattern from the group. -/
theorem validEnclosed {t : Text} (valid : Valid t) :
    Valid (enclosed t) ↔ ¬OpenEnded t ∧ ¬Deep t := by
  obtain ⟨last,reads,ended⟩ := validReads.mp valid
  rw [enclosedValid]
  constructor
  · rintro ⟨out,inner,outer⟩
    constructor
    · rintro ⟨mid,rest,before,quoted⟩
      exact quotedReads before quoted inner outer.1
    · rintro ⟨deep,within,high⟩
      rcases @outsideReads t _ _ _ _ inner outer.1 with ⟨mid,before,behind⟩ | ⟨mid,rest,before,early⟩
      · cases readsSame before within
        have low := ((closingReads (enclosed t) deep).mp ⟨out,behind,outer⟩).2
        exact absurd high (Nat.not_le.mpr low)
      · obtain ⟨_,ok⟩ := valid
        cases ok.symm.trans (parenRefused before early)
  · rintro ⟨closed,shallow⟩
    have low : last.frame.closed.inSequence < maxHeight :=
      Nat.lt_of_not_le fun high => shallow ⟨last,reads,high⟩
    obtain ⟨out,behind,outer⟩ := (closingReads (enclosed t) last).mpr ⟨ended.1,low⟩
    exact ⟨out,insideReads reads (fun mid rest before quoted => closed ⟨mid,rest,before,quoted⟩) behind,
      outer⟩

/-- A pattern that is one only in the group closes the group itself. -/
theorem enclosedOnly {t : Text} (enclosing : Valid (enclosed t)) (refused : ¬Valid t) :
    read t = .error ⟨.unexpectedParen, t⟩ := by
  obtain ⟨last,reads,ended⟩ := enclosedValid.mp enclosing
  rcases @outsideReads t _ _ _ _ reads ended.1 with ⟨out,inner,behind⟩ | ⟨out,rest,before,outer⟩
  · obtain ⟨complete,low⟩ := (closingReads (enclosed t) out).mp ⟨last,behind,ended⟩
    have height : out.frame.finish.height ≤ maxHeight := Nat.le_trans (finishHeight out.frame) low
    exact absurd (validReads.mpr ⟨out,inner,complete,height⟩) refused
  · exact parenRefused before outer

theorem enclosedWhole {t : Text} (whole : ¬Torn t) : Valid (enclosed t) ↔ Valid t := by
  simp only [Torn,not_or] at whole
  obtain ⟨closed,shallow,paired⟩ := whole
  constructor
  · intro enclosing
    exact Decidable.byContradiction fun refused => paired (enclosedOnly enclosing refused)
  · intro valid
    exact (validEnclosed valid).mpr ⟨closed,shallow⟩

end LogSql.Pattern
