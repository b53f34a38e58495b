import LogSql.Proofs.Pattern.Closing

/-! Repetition and groups with the closing behind them. A pattern in a group is read with one more group
around it, which no step of the pattern looks at. -/
namespace LogSql.Pattern

/-! ### Bounds -/

theorem digitsBehind (t : Text) :
    (t ++ closing).takeWhile Text.isDecimal = t.takeWhile Text.isDecimal := by
  induction t with
  | nil => decide
  | cons b t ih =>
    rw [List.cons_append,List.takeWhile_cons,List.takeWhile_cons,ih]

theorem repeatNumberLeaves {t rest : Text} {n : Option Nat} (found : repeatNumber t = some (n,rest)) :
    rest <:+ t := by
  unfold repeatNumber at found
  dsimp only at found
  split at found
  · contradiction
  · split at found
    · contradiction
    · cases found
      exact List.drop_suffix _ t

theorem repeatNumberBehind (t : Text) :
    SameItem (repeatNumber t) (repeatNumber (t ++ closing)) := by
  have inside : (t.takeWhile Text.isDecimal).length ≤ t.length :=
    (List.takeWhile_prefix Text.isDecimal).length_le
  unfold repeatNumber
  dsimp only
  rw [digitsBehind,List.drop_append_of_le_length inside]
  split
  · rfl
  · split
    · rfl
    · rfl

theorem repeatBoundsLeaves {b : UInt8} {t rest : Text} {low : Option Nat}
    {high : Option (Option Nat)} (found : repeatBounds (b :: t) = some (low,high,rest)) :
    rest <:+ t := by
  obtain ⟨⟨low,behind⟩,number,found⟩ := Option.bind_eq_some_iff.mp found
  have left : behind <:+ t := repeatNumberLeaves number
  refine List.IsSuffix.trans ?_ left
  cases behind with
  | nil => contradiction
  | cons c behind =>
    dsimp only at found
    split at found
    · cases found
      exact List.suffix_cons _ _
    split at found
    · contradiction
    cases behind with
    | nil => contradiction
    | cons d after =>
      dsimp only at found
      split at found
      · cases found
        exact (List.suffix_cons _ _).trans (List.suffix_cons c _)
      obtain ⟨⟨high,last⟩,number,found⟩ := Option.bind_eq_some_iff.mp found
      have inner := repeatNumberLeaves number
      cases last with
      | nil => contradiction
      | cons e last =>
        dsimp only at found
        split at found
        · cases found
          exact ((List.suffix_cons _ _).trans inner).trans (List.suffix_cons c _)
        · contradiction

theorem repeatBoundsBehind {t : Text} (some : t ≠ []) : repeatBounds (t ++ closing) =
    (repeatBounds t).map fun p => (p.1,p.2.1,p.2.2 ++ closing) := by
  obtain ⟨b,t,rfl⟩ := List.exists_cons_of_ne_nil some
  have first := repeatNumberBehind t
  rw [SameItem] at first
  unfold repeatBounds
  simp only [List.cons_append,List.drop_one,List.tail_cons,first]
  cases repeatNumber t with
  | none => rfl
  | some p =>
    obtain ⟨low,rest⟩ := p
    simp only [Option.map_some,Option.bind_eq_bind,Option.bind_some]
    cases rest with
    | nil => rfl
    | cons c rest =>
      dsimp only [List.cons_append]
      split
      · rfl
      split
      · rfl
      cases rest with
      | nil => rfl
      | cons d rest =>
        have second := repeatNumberBehind (d :: rest)
        rw [SameItem,List.cons_append] at second
        dsimp only [List.cons_append]
        split
        · rfl
        rw [second]
        cases repeatNumber (d :: rest) with
        | none => rfl
        | some q =>
          obtain ⟨high,last⟩ := q
          simp only [Option.map_some,Option.bind_some]
          cases last with
          | nil => rfl
          | cons e last =>
            dsimp only [List.cons_append]
            split <;> rfl

/-! ### Modes -/

theorem readFlagsEnd (s : Text) (fuel : Nat) (flags : Flags) (negative saw : Bool) :
    Gives (fun _ => False) (readFlags s fuel flags negative saw []) := by
  cases fuel <;> exact .error

theorem readFlagsLeaves (s : Text) (fuel : Nat) (flags : Flags) (negative saw : Bool) (b : UInt8)
    (t : Text) : Gives (fun p => p.2.2 <:+ t) (readFlags s fuel flags negative saw (b :: t)) := by
  induction fuel generalizing flags negative saw b t with
  | zero => exact .error
  | succ fuel ih =>
    have more {rest : Text} (left : rest <:+ t) (flags : Flags) (negative saw : Bool) :
        Gives (fun p => p.2.2 <:+ t) (readFlags s fuel flags negative saw rest) := by
      cases rest with
      | nil => exact (readFlagsEnd s fuel flags negative saw).imp fun _ => False.elim
      | cons c rest =>
        exact (ih flags negative saw c rest).imp fun _ inner =>
          (inner.trans (List.suffix_cons c rest)).trans left
    rw [readFlags]
    dsimp only [List.isEmpty_cons]
    refine .ite (fun _ => Gives.bind .error fun _ => False.elim) fun _ => ?_
    refine (nextCharLeaves b t).bind fun p left => ?_
    split
    iterate 4 exact more left _ _ _
    · exact .ite (fun _ => .error) fun _ => more left _ _ _
    · exact .ite (fun _ => .error) fun _ => Gives.ok.mpr left
    · exact .ite (fun _ => .error) fun _ => Gives.ok.mpr left
    · exact .error

theorem readFlagsAlong (s s' : Text) {fuel fuel' : Nat} (flags : Flags) (negative saw : Bool)
    {t : Text} (enough : t.length < fuel) (enough' : (t ++ closing).length < fuel') :
    Along (fun p q => q = (p.1,p.2.1,p.2.2 ++ closing)) (fun q => q.2.2 <:+ [Text.byte '$'])
      (readFlags s fuel flags negative saw t) (readFlags s' fuel' flags negative saw (t ++ closing)) := by
  induction fuel generalizing fuel' flags negative saw t with
  | zero => contradiction
  | succ fuel ih =>
    obtain ⟨fuel',rfl⟩ : ∃ n, fuel' = n + 1 := Nat.exists_eq_add_of_le' (by omega)
    cases t with
    | nil =>
      exact .fails (readFlagsEnd s _ flags negative saw)
        (readFlagsLeaves s' _ flags negative saw (Text.byte ')') [Text.byte '$'])
    | cons b t =>
      rw [readFlags,readFlags]
      dsimp only [List.isEmpty_cons,List.cons_append]
      refine (nextCharAlong (by simp)).bind ?_ fun _ => False.elim
      rintro ⟨c,rest⟩ _ character rfl
      have shorter := (nextCharLeaves b t _ character).length_le
      simp only [List.length_append,List.length_cons] at enough enough' shorter
      have more (flags : Flags) (negative saw : Bool) :=
        @ih fuel' flags negative saw rest (by omega) (by rw [List.length_append]; omega)
      dsimp only [id]
      split
      iterate 4 exact more _ _ _
      · exact .ite .rfl (fun _ => .error) fun _ => more _ _ _
      · exact .ite .rfl (fun _ => .error) fun _ => .ok rfl
      · exact .ite .rfl (fun _ => .error) fun _ => .ok rfl
      · exact .error

/-! ### The group around -/

namespace State

/-- The state of the same reading inside the group that anchors the pattern. -/
def inside (st : State) : State :=
  { st with
    outer := st.outer ++ [{ items := [⟨.assert .textStart, 1⟩] }]
    lastRepeat := st.lastRepeat.map (· ++ closing) }

theorem insideOuter (st : State) : st.inside.outer ≠ [] := by simp [inside]

end State

/-- A state that goes past the text inside the group. -/
def Past (q : State × Text) : Prop := Into q ∧ q.1.outer ≠ []

/-! ### Repetition and groups -/

theorem applyRepeatLeaves (st : State) (low : Nat) (high : Option Nat) (counted : Bool)
    (before after : Text) : Gives (Leaves after) (applyRepeat st low high counted before after) := by
  have mark : (if after.head? = some (Text.byte '?') then after.drop 1 else after) <:+ after := by
    split
    · exact List.drop_suffix 1 after
    · exact List.suffix_refl after
  unfold applyRepeat
  cases st.lastRepeat with
  | some last => exact .error
  | none => cases st.frame.items with
    | nil => exact .error
    | cons x rest =>
      refine .ite (fun _ => .error) fun _ => .ite (fun _ => .error) fun _ => Gives.ok.mpr ?_
      simpa [Leaves] using mark

theorem applyRepeatAlong (st : State) (low : Nat) (high : Option Nat) (counted : Bool)
    (before before' after : Text) :
    Along (Kept State.inside) (fun _ => False) (applyRepeat st low high counted before after)
      (applyRepeat st.inside low high counted before' (after ++ closing)) := by
  have marked : ((after ++ closing).head? = some (Text.byte '?')) =
      (after.head? = some (Text.byte '?')) := by
    cases after with
    | nil => decide
    | cons b after => rfl
  have behind : (if after.head? = some (Text.byte '?') then (after ++ closing).drop 1
      else after ++ closing) =
      (if after.head? = some (Text.byte '?') then after.drop 1 else after) ++ closing := by
    cases after with
    | nil => rfl
    | cons b after => split <;> rfl
  obtain ⟨frame,outer,names,flags,lastRepeat⟩ := st
  unfold applyRepeat
  dsimp only [State.inside]
  simp only [marked]
  cases lastRepeat with
  | some last => exact .error
  | none => cases frame.items with
    | nil => exact .error
    | cons x rest =>
      refine .ite .rfl (fun _ => .error) fun _ => .ite .rfl (fun _ => .error) fun _ => .ok ?_
      simpa [Kept,State.inside] using behind

/-- A group that is closed, as an item of the one around it. -/
def Frame.closed (f : Frame) : Sized :=
  match f.capture with
  | some i => ⟨.group i f.finish.re, f.finish.height + 1⟩
  | none => f.finish

theorem closeGroupOpen (whole : Text) {st : State} {parent : Frame} {outer : List Frame}
    (opened : st.outer = parent :: outer) : closeGroup st whole =
      if maxHeight < st.frame.closed.height then .error ⟨.nestingDepth, whole⟩
      else .ok { st with
        frame := { parent with items := st.frame.closed :: parent.items }
        outer
        flags := st.frame.outer } := by
  unfold closeGroup
  rw [opened]
  show _ = if maxHeight < st.frame.closed.height then _ else _
  unfold Frame.closed
  cases st.frame.capture with
  | none => dsimp only; split <;> rfl
  | some i => dsimp only; split <;> rfl

theorem closeGroupAlong (whole whole' : Text) {st : State} (opened : st.outer ≠ []) :
    Along (fun s s' => s' = s.inside) (fun _ => False) (closeGroup st whole)
      (closeGroup st.inside whole') := by
  obtain ⟨parent,outer,same⟩ := List.exists_cons_of_ne_nil opened
  have inner : st.inside.outer = parent :: (outer ++ [{ items := [⟨.assert .textStart, 1⟩] }]) := by
    rw [State.inside,same]
    rfl
  rw [closeGroupOpen whole same,closeGroupOpen whole' inner]
  exact .ite .rfl (fun _ => .error) fun _ => .ok rfl

theorem pushLiteralsInside (st : State) (fuel : Nat) (t : Text) :
    pushLiterals st.inside fuel t = (pushLiterals st fuel t).map State.inside := by
  induction fuel generalizing st t with
  | zero => rfl
  | succ fuel ih =>
    rw [pushLiterals,pushLiterals]
    cases nextChar t with
    | error err => rfl
    | ok p =>
      obtain ⟨c,rest⟩ := p
      cases c with
      | none => rfl
      | some c => exact ih (st.pushClass (literalClass st.flags c.toNat)) rest

theorem pushLiteralsOuter (st : State) (fuel : Nat) (t : Text) :
    Gives (fun s => s.outer = st.outer) (pushLiterals st fuel t) := by
  induction fuel generalizing st t with
  | zero => exact Gives.ok.mpr rfl
  | succ fuel ih =>
    rw [pushLiterals]
    refine (nextCharRest t).bind fun p _ => ?_
    obtain ⟨c,rest⟩ := p
    cases c with
    | none => exact Gives.ok.mpr rfl
    | some c => exact ih _ rest

/-! ### Special groups -/

/-- A group with a name, which starts a few bytes behind the parenthesis. -/
def namedGroup (st : State) (s : Text) (start : Nat) : Except Error (State × Text) :=
  match Text.cut ">" s with
  | none => (checkUtf8 s).bind fun _ => .error ⟨.namedCapture, s⟩
  | some (head, rest) => (checkUtf8 (head.drop start)).bind fun _ =>
    if !isGroupName (head.drop start) then .error ⟨.namedCapture, upTo s rest⟩
    else .ok (st.openCapture (head.drop start), rest)

/-- Modes, for a group or for what follows. -/
def modeGroup (st : State) (s : Text) : Except Error (State × Text) :=
  (readFlags s (s.length + 1) st.flags false false (s.drop 2)).bind fun p =>
    .ok (if p.2.1 then st.openGroup none p.1 else { st with flags := p.1 }, p.2.2)

theorem specialGroup (st : State) (s : Text) : readSpecialGroup st s =
    if 4 < s.length ∧ (s.drop 2).take 2 = ("P<" : Text) then namedGroup st s 4
    else if 3 < s.length ∧ (s.drop 2).take 1 = ("<" : Text) then namedGroup st s 3
    else modeGroup st s := by
  have named (start : Nat) : (match Text.cut ">" s with
      | none => do
        checkUtf8 s
        throw ⟨.namedCapture, s⟩
      | some (head, rest) => do
        let name := head.drop start
        checkUtf8 name
        if !isGroupName name then throw ⟨.namedCapture, upTo s rest⟩
        return (st.openCapture name, rest)) = namedGroup st s start := by
    unfold namedGroup
    cases Text.cut ">" s with
    | none => rfl
    | some parts =>
      dsimp only
      cases checkUtf8 (parts.1.drop start) with
      | error err => rfl
      | ok u =>
        simp only [bind,Except.bind]
        split <;> rfl
  unfold readSpecialGroup
  split
  · exact named 4
  · split
    · exact named 3
    · unfold modeGroup
      dsimp only
      cases readFlags s (s.length + 1) st.flags false false (s.drop 2) with
      | error err => rfl
      | ok p =>
        obtain ⟨flags,opens,rest⟩ := p
        cases opens <;> rfl

theorem namedGroupLeaves (st : State) (b : UInt8) (t : Text) (start : Nat) :
    Gives (Leaves t) (namedGroup st (b :: t) start) := by
  unfold namedGroup
  split
  · exact Gives.bind (fun _ _ => trivial) fun _ _ => .error
  · rename_i front rest found
    refine Gives.bind (fun _ _ => trivial) fun _ _ => .ite (fun _ => .error) fun _ => Gives.ok.mpr ?_
    exact Text.cutLeaves (by decide) found

theorem namedGroupAlong (st : State) (s : Text) (start : Nat) :
    Along (Kept State.inside) (fun _ => False) (namedGroup st s start)
      (namedGroup st.inside (s ++ closing) start) := by
  have apart : ∀ x ∈ Text.ofString ">", x ∉ closing := by decide +kernel
  unfold namedGroup
  rw [Text.cutBehind apart (by decide)]
  cases Text.cut ">" s with
  | none =>
    exact .fails (Gives.bind (fun _ _ => trivial) fun _ _ => .error)
      (Gives.bind (fun _ _ => trivial) fun _ _ => .error)
  | some parts => exact .check fun _ => .ite .rfl (fun _ => .error) fun _ => .ok rfl

theorem modeGroupLeaves (st : State) (b c : UInt8) (t : Text) :
    Gives (Leaves t) (modeGroup st (b :: c :: t)) := by
  unfold modeGroup
  cases t with
  | nil => exact (readFlagsEnd _ _ _ _ _).bind fun _ => False.elim
  | cons d t =>
    refine (readFlagsLeaves _ _ _ _ _ d t).bind fun p left => Gives.ok.mpr ?_
    exact List.IsSuffix.trans left (List.suffix_cons d t)

theorem modeGroupAlong {st : State} (b c : UInt8) (t : Text) :
    Along (Kept State.inside) Past (modeGroup st (b :: c :: t))
      (modeGroup st.inside (b :: c :: t ++ closing)) := by
  have enough : t.length < (b :: c :: t).length + 1 := by
    simp only [List.length_cons]
    omega
  have enough' : (t ++ closing).length < (b :: c :: t ++ closing).length + 1 := by
    simp only [List.cons_append,List.length_cons]
    omega
  unfold modeGroup
  refine (readFlagsAlong (b :: c :: t) (b :: c :: t ++ closing) st.flags false false enough
    enough').bind ?_ fun p into => Gives.ok.mpr ⟨into,?_⟩
  · rintro ⟨flags,opens,rest⟩ _ _ rfl
    refine .ok ?_
    cases opens <;> rfl
  · split
    · simp [State.openGroup]
    · exact st.insideOuter

theorem namedGroupNone {P : State × Text → Prop} {s : Text} (absent : Text.byte '>' ∉ s)
    (st : State) (start : Nat) : Gives P (namedGroup st s start) := by
  have none : Text.cut ">" s = none := Text.cutNone.mpr absent
  unfold namedGroup
  rw [none]
  exact Gives.bind (fun _ _ => trivial) fun _ _ => .error

theorem takeBehind (n : Nat) (head : Text) (length : head.length = n)
    (apart : ∀ x ∈ head, x ∉ closing) (t : Text) :
    (t ++ closing).take n = head ↔ t.take n = head := by
  have start (t : Text) : t.take n = head ↔ head.isPrefixOf t = true := by
    rw [List.isPrefixOf_iff_prefix,List.prefix_iff_eq_take,length,eq_comm]
  rw [start,start,Text.prefixBehind apart]

theorem specialGroupLeaves (st : State) (b c : UInt8) (t : Text) :
    Gives (Leaves (c :: t)) (readSpecialGroup st (b :: c :: t)) := by
  rw [specialGroup]
  refine .ite (fun _ => namedGroupLeaves st b (c :: t) 4) fun _ =>
    .ite (fun _ => namedGroupLeaves st b (c :: t) 3) fun _ => ?_
  exact (modeGroupLeaves st b c t).imp fun _ left => left.trans (List.suffix_cons c t)

theorem modeGroupNone {P : State × Text → Prop} {b c d : UInt8}
    (letter : d = Text.byte 'P' ∨ d = Text.byte '<') (st : State) (t : Text) :
    Gives P (modeGroup st (b :: c :: d :: t)) := by
  unfold modeGroup
  refine Gives.bind (P := fun _ => False) ?_ fun _ => False.elim
  rw [readFlags]
  rcases letter with rfl | rfl <;> exact .error

theorem specialGroupAlong (st : State) {b c : UInt8} (first : b ≠ Text.byte '>')
    (second : c ≠ Text.byte '>') (t : Text) :
    Along (Kept State.inside) Past (readSpecialGroup st (b :: c :: t))
      (readSpecialGroup st.inside (b :: c :: t ++ closing)) := by
  have named (start : Nat) : Along (Kept State.inside) Past (namedGroup st (b :: c :: t) start)
      (namedGroup st.inside (b :: c :: t ++ closing) start) :=
    (namedGroupAlong st (b :: c :: t) start).weaken fun _ => False.elim
  have pointed := takeBehind 2 "P<" (by decide) (by decide +kernel) t
  have angled := takeBehind 1 "<" (by decide) (by decide +kernel) t
  have length : (b :: c :: t).length = t.length + 2 ∧
      (b :: c :: t ++ closing).length = t.length + 4 := by simp [closing]
  have drop : (b :: c :: t).drop 2 = t ∧ (b :: c :: t ++ closing).drop 2 = t ++ closing := ⟨rfl,rfl⟩
  rw [specialGroup,specialGroup,length.1,length.2,drop.1,drop.2]
  -- A name that is missing at the end of the text is missing in the closing too.
  by_cases bare : t = ("P<" : Text) ∨ t = ("<" : Text)
  · obtain ⟨d,t,rfl,letter⟩ : ∃ d u, t = d :: u ∧ (d = Text.byte 'P' ∨ d = Text.byte '<') := by
      rcases bare with rfl | rfl
      · exact ⟨_,_,rfl,.inl rfl⟩
      · exact ⟨_,_,rfl,.inr rfl⟩
    have other : Text.byte '>' ∉ d :: t ∧ Text.byte '>' ∉ d :: t ++ closing := by
      rcases bare with same | same <;> rw [same] <;> decide
    have absent {u : Text} (rest : Text.byte '>' ∉ u) : Text.byte '>' ∉ b :: c :: u := by
      rw [List.mem_cons,List.mem_cons,not_or,not_or]
      exact ⟨first.symm,second.symm,rest⟩
    have none {P : State × Text → Prop} (st : State) := @namedGroupNone P _ (absent other.1) st
    have none' {P : State × Text → Prop} (st : State) := @namedGroupNone P _ (absent other.2) st
    exact .fails
      (.ite (fun _ => none st 4) fun _ => .ite (fun _ => none st 3) fun _ => modeGroupNone letter st t)
      (.ite (fun _ => none' st.inside 4) fun _ => .ite (fun _ => none' st.inside 3) fun _ =>
        modeGroupNone letter st.inside (t ++ closing))
  have long {n : Nat} {head : Text} (other : t ≠ head) (start : t.take n = head) : n < t.length := by
    refine Nat.lt_of_not_le fun short => other ?_
    rwa [List.take_of_length_le short] at start
  obtain ⟨pointless,angleless⟩ := not_or.mp bare
  refine .ite ⟨fun both => ⟨?_,pointed.mp both.2⟩,fun both => ⟨?_,pointed.mpr both.2⟩⟩
    (fun _ => named 4) fun _ => ?_
  · have := long pointless (pointed.mp both.2)
    omega
  · omega
  refine .ite ⟨fun both => ⟨?_,angled.mp both.2⟩,fun both => ⟨?_,angled.mpr both.2⟩⟩
    (fun _ => named 3) fun _ => modeGroupAlong b c t
  · have := long angleless (angled.mp both.2)
    omega
  · omega

end LogSql.Pattern
