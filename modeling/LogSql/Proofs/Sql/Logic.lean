import LogSql.Proofs.Sql.Words
import LogSql.Proofs.Text.Strings
import LogSql.Sql.Render

/-! Conditions as they are read: NOT binds closer than AND and AND closer than OR, and parentheses group.
However a sequence of words is taken apart, its value is the one that a single pass from the left finds.
Where atoms are opaque, so that neither the words in front of one nor what stands behind it can be taken
for a part of it, a text is worded in one way only and has one value as well. Texts that close their
literals and parentheses and have no connective outside of both are opaque together. -/
namespace LogSql.Sql.Logic

/-! ### Words -/

/-- The words of a condition; an atom comes with its truth value. -/
inductive Word where
  | atom (t : Text) (holds : Bool)
  | and
  | or
  | not
  | opening
  | closing

def Word.text : Word → Text
  | atom t _ => t
  | and => " AND "
  | or => " OR "
  | not => "NOT "
  | opening => "("
  | closing => ")"

def Word.atom? : Word → Option (Text × Bool)
  | atom t b => some (t,b)
  | _ => none

def wording (ws : List Word) : Text := ws.flatMap Word.text

def atoms (ws : List Word) : List (Text × Bool) := ws.filterMap Word.atom?

/-- Words joined by a connective. -/
def joined (w : Word) : List (List Word) → List Word
  | [] => []
  | [ws] => ws
  | ws :: rest => ws ++ w :: joined w rest

/-- Joined words in parentheses. -/
def parenthesized (w : Word) (parts : List (List Word)) : List Word :=
  .opening :: joined w parts ++ [Word.closing]

section Words

variable {us vs : List Word}

@[simp] theorem wordingAppend : wording (us ++ vs) = wording us ++ wording vs :=
  List.flatMap_append

@[simp] theorem wordingCons {w : Word} : wording (w :: us) = w.text ++ wording us := rfl

@[simp] theorem wordingNil : wording [] = [] := rfl

@[simp] theorem atomsAppend : atoms (us ++ vs) = atoms us ++ atoms vs :=
  List.filterMap_append

variable {w : Word} (parts : List (List Word))

theorem wordingJoined : wording (joined w parts) = Text.join w.text (parts.map wording) := by
  induction parts using joined.induct with
  | case1 => rfl
  | case2 ws => rfl
  | case3 ws rest some ih =>
    rw [joined.eq_3 w ws rest some,List.map_cons,
      Text.joinCons _ _ (mt List.map_eq_nil_iff.mp some),wordingAppend,wordingCons,ih]
    simp

theorem atomsJoined (connective : w.atom? = none) :
    atoms (joined w parts) = parts.flatMap atoms := by
  induction parts using joined.induct with
  | case1 => rfl
  | case2 ws => simp [joined]
  | case3 ws rest some ih =>
    rw [joined.eq_3 w ws rest some,atomsAppend,List.flatMap_cons,← ih]
    simp [atoms,connective]

theorem wordingParenthesized :
    wording (parenthesized w parts) = "(" ++ Text.join w.text (parts.map wording) ++ ")" := by
  rw [parenthesized,wordingAppend,wordingCons,wordingJoined]
  rfl

theorem atomsParenthesized (connective : w.atom? = none) :
    atoms (parenthesized w parts) = parts.flatMap atoms := by
  rw [parenthesized,atomsAppend,← atomsJoined parts connective]
  exact List.append_nil _

end Words

/-! ### Readings -/

/-- What binds at least as close as: NOT, AND, OR. -/
inductive Level where
  | factor
  | all
  | any

/-- The readings of words, with their values. -/
inductive Denotes : Level → List Word → Bool → Prop where
  | atom {t : Text} {b : Bool} (some : t ≠ []) : Denotes .factor [.atom t b] b
  | group {ws : List Word} {b : Bool} (inner : Denotes .any ws b) :
      Denotes .factor (.opening :: ws ++ [Word.closing]) b
  | negated {ws : List Word} {b : Bool} (inner : Denotes .factor ws b) : Denotes .factor (.not :: ws) !b
  | factor {ws : List Word} {b : Bool} (inner : Denotes .factor ws b) : Denotes .all ws b
  | both {us vs : List Word} {a b : Bool} (left : Denotes .all us a) (right : Denotes .all vs b) :
      Denotes .all (us ++ .and :: vs) (a && b)
  | all {ws : List Word} {b : Bool} (inner : Denotes .all ws b) : Denotes .any ws b
  | either {us vs : List Word} {a b : Bool} (left : Denotes .any us a) (right : Denotes .any vs b) :
      Denotes .any (us ++ .or :: vs) (a || b)

theorem Denotes.some {level : Level} {ws : List Word} {b : Bool} (reads : Denotes level ws b) :
    wording ws ≠ [] := by
  induction reads with
  | atom some => simpa [Word.text] using some
  | group inner => simp [Word.text]
  | negated inner ih => simp [ih]
  | factor inner ih => exact ih
  | both left right first second => simp [first]
  | all inner ih => exact ih
  | either left right first second => simp [first]

/-! ### One pass -/

/-- What is known of the innermost group that is open: the alternatives before, the factors of this
alternative, and whether the next factor is negated. -/
structure Frame where
  others : Bool
  these : Bool
  flip : Bool

namespace Frame

def fresh : Frame := ⟨false, true, false⟩

def take (f : Frame) (b : Bool) : Frame := ⟨f.others, f.these && (b ^^ f.flip), false⟩

def value (f : Frame) : Bool := f.others || f.these

end Frame

/-- The value of words behind an open group, inside of others. -/
def run : Frame → List Frame → List Word → Bool
  | f, _, [] => f.value
  | f, outer, .atom _ b :: ws => run (f.take b) outer ws
  | f, outer, .and :: ws => run f outer ws
  | f, outer, .or :: ws => run ⟨f.value, true, false⟩ outer ws
  | f, outer, .not :: ws => run { f with flip := !f.flip } outer ws
  | f, outer, .opening :: ws => run .fresh (f :: outer) ws
  | f, f' :: outer, .closing :: ws => run (f'.take f.value) outer ws
  | f, [], .closing :: ws => run f [] ws

def evaluate (ws : List Word) : Bool := run .fresh [] ws

/-- What the pass over words of a level with a value comes to, wherever they stand. A conjunction stands
where no negation is pending, and a disjunction where an alternative begins. -/
def Passes : Level → List Word → Bool → Prop
  | .factor, ws, b => ∀ f outer rest, run f outer (ws ++ rest) = run (f.take b) outer rest
  | .all, ws, b => ∀ others these outer rest,
      run ⟨others, these, false⟩ outer (ws ++ rest) = run ⟨others, these && b, false⟩ outer rest
  | .any, ws, b => ∀ others outer rest, ∃ before last, (before || last) = (others || b) ∧
      run ⟨others, true, false⟩ outer (ws ++ rest) = run ⟨before, last, false⟩ outer rest

theorem Denotes.passes {level : Level} {ws : List Word} {b : Bool} (reads : Denotes level ws b) :
    Passes level ws b := by
  induction reads with
  | atom some => exact fun f outer rest => rfl
  | group inner ih =>
    intro f outer rest
    obtain ⟨before,last,value,pass⟩ := ih false (f :: outer) (.closing :: rest)
    calc run f outer (.opening :: _ ++ [Word.closing] ++ rest)
      _ = run .fresh (f :: outer) (_ ++ .closing :: rest) := by simp [run]
      _ = run (f.take (before || last)) outer rest := pass
      _ = _ := by rw [value,Bool.false_or]
  | negated inner ih =>
    intro f outer rest
    refine (ih { f with flip := !f.flip } outer rest).trans ?_
    simp [Frame.take]
  | factor inner ih =>
    intro others these outer rest
    simpa [Frame.take] using ih ⟨others,these,false⟩ outer rest
  | both left right first second =>
    intro others these outer rest
    rw [List.append_assoc,first,List.cons_append,run,second,Bool.and_assoc]
  | all inner ih => exact fun others outer rest => ⟨others,_,rfl,ih others true outer rest⟩
  | @either us vs a b left right first second =>
    intro others outer rest
    obtain ⟨before,last,value,pass⟩ := first others outer (.or :: vs ++ rest)
    obtain ⟨before',last',value',pass'⟩ := second (before || last) outer rest
    refine ⟨before',last',by rw [value',value,Bool.or_assoc],?_⟩
    rw [List.append_assoc,pass,List.cons_append,run]
    exact pass'

theorem Denotes.evaluated {ws : List Word} {b : Bool} (reads : Denotes .any ws b) : evaluate ws = b := by
  obtain ⟨before,last,value,pass⟩ := reads.passes false [] []
  rw [List.append_nil] at pass
  exact pass.trans (value.trans (Bool.false_or b))

/-- Words have one value. -/
theorem Denotes.unique {ws : List Word} {b : Bool} (reads : Denotes .any ws b) (c : Bool) :
    Denotes .any ws c ↔ c = b :=
  ⟨fun other => other.evaluated.symm.trans reads.evaluated,fun same => same ▸ reads⟩

/-! ### Joined conditions -/

section Parts

variable {parts : List (List Word × Bool)}

theorem denotesAll (some : parts ≠ []) (each : ∀ p ∈ parts, Denotes .all p.1 p.2) :
    Denotes .all (joined .and (parts.map Prod.fst)) (parts.all Prod.snd) := by
  induction parts with
  | nil => contradiction
  | cons p rest ih =>
    obtain ⟨here,later⟩ := List.forall_mem_cons.mp each
    cases rest with
    | nil => simpa [joined] using here
    | cons q rest => exact here.both (ih (List.cons_ne_nil _ _) later)

theorem denotesAny (some : parts ≠ []) (each : ∀ p ∈ parts, Denotes .any p.1 p.2) :
    Denotes .any (joined .or (parts.map Prod.fst)) (parts.any Prod.snd) := by
  induction parts with
  | nil => contradiction
  | cons p rest ih =>
    obtain ⟨here,later⟩ := List.forall_mem_cons.mp each
    cases rest with
    | nil => simpa [joined] using here
    | cons q rest => exact here.either (ih (List.cons_ne_nil _ _) later)

theorem logicalParenthesized {op : Text} {w : Word} (connective : w.text = Text.concat [" ",op," "])
    (two : 2 ≤ parts.length) (some : ∀ p ∈ parts, wording p.1 ≠ []) :
    logical op (parts.map fun p => wording p.1) = wording (parenthesized w (parts.map Prod.fst)) := by
  have kept : ((parts.map fun p => wording p.1).filter fun t => !t.isEmpty) =
      parts.map fun p => wording p.1 := by
    refine List.filter_eq_self.mpr fun t mem => ?_
    obtain ⟨p,inside,rfl⟩ := List.mem_map.mp mem
    simpa using some p inside
  rw [logical,kept,wordingParenthesized,connective,List.map_map]
  match parts, two with
  | p :: q :: rest, _ => simp [Text.concat,Function.comp_def]

/-- Parts without words count neither as atoms nor in a conjunction. -/
theorem wordlessDropped {keep : List Word × Bool → Bool}
    (each : ∀ p ∈ parts, keep p = false → p.1 = [] ∧ p.2 = true) :
    ((parts.filter keep).flatMap fun p => atoms p.1) = parts.flatMap (fun p => atoms p.1) ∧
      (parts.filter keep).all Prod.snd = parts.all Prod.snd := by
  have wordless : atoms [] = [] := rfl
  induction parts with
  | nil => exact ⟨rfl,rfl⟩
  | cons p rest ih =>
    obtain ⟨here,later⟩ := List.forall_mem_cons.mp each
    obtain ⟨same,value⟩ := ih later
    cases kept : keep p with
    | true => simp [kept,same,value]
    | false =>
      obtain ⟨words,truth⟩ := here kept
      simp [kept,same,value,words,truth,wordless]

/-- What is joined without parentheses is read as the conjunction of its parts, when none of them has an
alternative outside parentheses. -/
theorem conjunctionDenotes (parts : List (List Word × Bool)) (some : ∃ p ∈ parts, p.1 ≠ [])
    (each : ∀ p ∈ parts, p.1 = [] ∧ p.2 = true ∨ Denotes .all p.1 p.2) :
    ∃ whole, conjunction (parts.map fun p => wording p.1) = wording whole ∧
      atoms whole = parts.flatMap (fun p => atoms p.1) ∧ Denotes .all whole (parts.all Prod.snd) := by
  let keep : List Word × Bool → Bool := fun p => !(wording p.1).isEmpty
  have dropped : ∀ p ∈ parts, keep p = false → p.1 = [] ∧ p.2 = true := by
    intro p mem empty
    exact (each p mem).resolve_right fun reads => reads.some (by simpa [keep] using empty)
  have reads : ∀ p ∈ parts.filter keep, Denotes .all p.1 p.2 := by
    intro p mem
    obtain ⟨inside,text⟩ := List.mem_filter.mp mem
    exact (each p inside).resolve_left fun empty => by simp [keep,empty.1] at text
  have left : parts.filter keep ≠ [] := by
    obtain ⟨p,mem,words⟩ := some
    refine List.ne_nil_of_mem (List.mem_filter.mpr ⟨mem,?_⟩)
    have text := ((each p mem).resolve_left fun empty => words empty.1).some
    simpa [keep] using text
  obtain ⟨same,value⟩ := wordlessDropped dropped
  refine ⟨joined .and ((parts.filter keep).map Prod.fst),?_,?_,value ▸ denotesAll left reads⟩
  · rw [conjunction,wordingJoined,List.filter_map,List.map_map]
    rfl
  · rw [atomsJoined _ rfl,List.flatMap_map,same]

end Parts
/-! ### Words around atoms -/

/-- The words that stand in front of an operand. -/
def Word.leads : Word → Bool
  | opening | not => true
  | _ => false

/-- The words that stand behind an operand. -/
def Word.follows : Word → Bool
  | and | or | closing => true
  | _ => false

/-- The words between two operands. -/
def Word.joins : Word → Bool
  | and | or => true
  | _ => false

/-- What can stand behind an atom. -/
inductive Ends : Text → Prop where
  | nothing : Ends []
  | word {w : Word} (follows : w.follows = true) (rest : Text) : Ends (w.text ++ rest)

/-- Atoms that are opaque: of all texts in which an atom ends where it can, the words in front of the
first atom and that atom are the same when the texts are. -/
structure Delimited (atomic : Text → Prop) : Prop where
  some {t : Text} (known : atomic t) : t ≠ []
  whole {front other : List Word} {t u rest behind : Text}
    (lead : ∀ w ∈ front, w.leads = true) (otherLead : ∀ w ∈ other, w.leads = true)
    (known : atomic t) (otherKnown : atomic u) (ends : Ends rest) (otherEnds : Ends behind)
    (same : wording front ++ t ++ rest = wording other ++ u ++ behind) : front = other ∧ t = u

/-! ### One wording -/

/-- Words in which operands and what stands behind them take turns. -/
inductive Turns : (wanted : Bool) → List Word → Prop where
  | lead {w : Word} {ws : List Word} (leads : w.leads = true) (rest : Turns true ws) : Turns true (w :: ws)
  | atom (t : Text) (b : Bool) {ws : List Word} (rest : Turns false ws) : Turns true (.atom t b :: ws)
  | done : Turns false []
  | follow {w : Word} {ws : List Word} (follows : w.follows = true) (rest : Turns w.joins ws) :
      Turns false (w :: ws)

theorem Denotes.turns {level : Level} {ws rest : List Word} {b : Bool} (reads : Denotes level ws b)
    (behind : Turns false rest) : Turns true (ws ++ rest) := by
  induction reads generalizing rest with
  | atom some => exact .atom _ _ behind
  | group inner ih =>
    rw [List.append_assoc]
    exact .lead rfl (ih (.follow rfl behind))
  | negated inner ih => exact .lead rfl (ih behind)
  | factor inner ih | all inner ih => exact ih behind
  | both left right first second | either left right first second =>
    rw [List.append_assoc]
    exact first (.follow rfl (second behind))

theorem Turns.operand {ws : List Word} (turns : Turns true ws) :
    ∃ front : List Word, ∃ t b later, ws = front ++ .atom t b :: later ∧
      (∀ w ∈ front, w.leads = true) ∧ Turns false later := by
  generalize same : true = wanted at turns
  induction turns with
  | lead leads rest ih =>
    obtain ⟨front,t,b,later,rfl,before,behind⟩ := ih rfl
    exact ⟨_ :: front,t,b,later,rfl,List.forall_mem_cons.mpr ⟨leads,before⟩,behind⟩
  | atom t b rest => exact ⟨[],t,b,_,rfl,by simp,rest⟩
  | done | follow => contradiction

theorem Turns.ends {ws : List Word} (turns : Turns false ws) : Ends (wording ws) := by
  cases turns with
  | done => exact .nothing
  | follow follows rest => exact .word follows _

theorem wordBytes : Word.and.text = [32,65,78,68,32] ∧ Word.or.text = [32,79,82,32] ∧
    Word.not.text = [78,79,84,32] ∧ Word.opening.text = [40] ∧ Word.closing.text = [41] := by decide

theorem leadPlain {w : Word} (leads : w.leads = true) : w.atom? = none := by
  cases w <;> first | rfl | contradiction

theorem followPlain {w : Word} (follows : w.follows = true) : w.atom? = none := by
  cases w <;> first | rfl | contradiction

/-- No word starts with another one, atoms apart. -/
theorem wordText {w x : Word} {rest behind : Text} (plain : w.atom? = none) (other : x.atom? = none)
    (same : w.text ++ rest = x.text ++ behind) : w = x ∧ rest = behind := by
  cases w <;> cases x <;> simp_all [Word.atom?,wordBytes]

theorem followSome {w : Word} (follows : w.follows = true) (rest : Text) : w.text ++ rest ≠ [] := by
  cases w <;> simp_all [Word.follows,wordBytes]

section Readings

variable {atomic : Text → Prop} {truth : Text → Bool}

/-- Words whose atoms are known and hold as told. -/
def Known (atomic : Text → Prop) (truth : Text → Bool) (ws : List Word) : Prop :=
  ∀ a ∈ atoms ws, atomic a.1 ∧ truth a.1 = a.2

theorem knownAppend {us vs : List Word} :
    Known atomic truth (us ++ vs) ↔ Known atomic truth us ∧ Known atomic truth vs := by
  rw [Known,atomsAppend,List.forall_mem_append]
  rfl

theorem knownAtom {t : Text} {b : Bool} {ws : List Word} :
    Known atomic truth (.atom t b :: ws) ↔ (atomic t ∧ truth t = b) ∧ Known atomic truth ws :=
  List.forall_mem_cons

theorem knownFollow {w : Word} {ws : List Word} (plain : w.atom? = none)
    (known : Known atomic truth (w :: ws)) : Known atomic truth ws := by
  simpa [Known,atoms,plain] using known

/-- Words that take turns are told by their text: first the words up to an atom and the atom, as the
atoms are opaque, and then the word behind it. -/
theorem wordingUnique (delimited : Delimited atomic) {wanted : Bool} {us vs : List Word}
    (turns : Turns wanted us) (others : Turns wanted vs) (known : Known atomic truth us)
    (alsoKnown : Known atomic truth vs) (same : wording us = wording vs) : us = vs := by
  induction length : us.length using Nat.strongRecOn generalizing wanted us vs with
  | _ n ih =>
    subst length
    cases wanted with
    | true =>
      obtain ⟨front,t,b,later,rfl,lead,behind⟩ := turns.operand
      obtain ⟨front',u,c,later',rfl,lead',behind'⟩ := others.operand
      obtain ⟨⟨here,value⟩,inside⟩ := knownAtom.mp (knownAppend.mp known).2
      obtain ⟨⟨there,value'⟩,inside'⟩ := knownAtom.mp (knownAppend.mp alsoKnown).2
      simp only [wordingAppend,wordingCons,Word.text,← List.append_assoc] at same
      obtain ⟨rfl,rfl⟩ := delimited.whole lead lead' here there behind.ends behind'.ends same
      have tails : later = later' := ih later.length (by simp; omega) behind behind' inside inside'
        (List.append_cancel_left same) rfl
      rw [← value,← value',tails]
    | false =>
      cases turns with
      | done =>
        cases others with
        | done => rfl
        | follow follows rest => exact absurd same.symm (followSome follows _)
      | @follow w later follows rest =>
        cases others with
        | done => exact absurd same (followSome follows _)
        | @follow x later' follows' rest' =>
          have plain := followPlain follows
          obtain ⟨rfl,tails⟩ := wordText plain (followPlain follows') same
          rw [ih later.length (by simp) rest rest' (knownFollow plain known)
            (knownFollow plain alsoKnown) tails rfl]

/-! ### Readings of texts -/

/-- A text is read as a condition of a level with a value: words that it can be made of denote it. -/
def Reads (atomic : Text → Prop) (truth : Text → Bool) (level : Level) (t : Text) (b : Bool) : Prop :=
  ∃ ws, wording ws = t ∧ Known atomic truth ws ∧ Denotes level ws b

theorem Reads.unique (delimited : Delimited atomic) {t : Text} {b : Bool}
    (reads : Reads atomic truth .any t b) (c : Bool) : Reads atomic truth .any t c ↔ c = b := by
  obtain ⟨ws,worded,known,denotes⟩ := reads
  constructor
  · rintro ⟨us,also,alsoKnown,other⟩
    have turns : Turns true ws := by simpa using denotes.turns .done
    have turns' : Turns true us := by simpa using other.turns .done
    obtain rfl := wordingUnique delimited turns' turns alsoKnown known (also.trans worded.symm)
    exact (denotes.unique c).mp other
  · rintro rfl
    exact ⟨ws,worded,known,denotes⟩

theorem readsAtom (delimited : Delimited atomic) {t : Text} (known : atomic t) :
    Reads atomic truth .factor t (truth t) :=
  ⟨[.atom t (truth t)],by simp [Word.text],knownAtom.mpr ⟨⟨known,rfl⟩,by simp [Known,atoms]⟩,
    .atom (delimited.some known)⟩

theorem Reads.grouped {t : Text} {b : Bool} (reads : Reads atomic truth .any t b) :
    Reads atomic truth .factor (.concat ["(", t, ")"]) b := by
  obtain ⟨ws,rfl,known,denotes⟩ := reads
  refine ⟨.opening :: ws ++ [Word.closing],?_,?_,denotes.group⟩
  · simp [Word.text,Text.concat]
  · exact knownAppend.mpr ⟨known,by simp [Known,atoms,Word.atom?]⟩

theorem Reads.level {t : Text} {b : Bool} (reads : Reads atomic truth .factor t b) (level : Level) :
    Reads atomic truth level t b := by
  obtain ⟨ws,worded,known,denotes⟩ := reads
  cases level with
  | factor => exact ⟨ws,worded,known,denotes⟩
  | all => exact ⟨ws,worded,known,denotes.factor⟩
  | any => exact ⟨ws,worded,known,denotes.factor.all⟩

theorem Reads.any {t : Text} {b : Bool} (reads : Reads atomic truth .all t b) :
    Reads atomic truth .any t b := by
  obtain ⟨ws,worded,known,denotes⟩ := reads
  exact ⟨ws,worded,known,denotes.all⟩

theorem Reads.both {t u : Text} {a b : Bool} (left : Reads atomic truth .all t a)
    (right : Reads atomic truth .all u b) : Reads atomic truth .all (t ++ " AND " ++ u) (a && b) := by
  obtain ⟨us,rfl,known,first⟩ := left
  obtain ⟨vs,rfl,alsoKnown,second⟩ := right
  exact ⟨us ++ .and :: vs,by simp [Word.text],knownAppend.mpr ⟨known,alsoKnown⟩,first.both second⟩

theorem Reads.either {t u : Text} {a b : Bool} (left : Reads atomic truth .any t a)
    (right : Reads atomic truth .any u b) : Reads atomic truth .any (t ++ " OR " ++ u) (a || b) := by
  obtain ⟨us,rfl,known,first⟩ := left
  obtain ⟨vs,rfl,alsoKnown,second⟩ := right
  exact ⟨us ++ .or :: vs,by simp [Word.text],knownAppend.mpr ⟨known,alsoKnown⟩,first.either second⟩

end Readings

/-! ### Closed texts -/

def isConnective (w : Text) : Bool := w = "AND" || w = "OR"

/-- Whether a text that is read on from a place inside a number of parentheses closes its literals and
parentheses and has no connective outside of both. -/
def closes : Mode → Nat → Text → Bool
  | .code w, depth, [] => depth = 0 && !isConnective w
  | _, _, [] => false
  | m, depth, b :: rest =>
    (depth ≠ 0 || (m.step b).1.all fun w => !isConnective w) &&
      match m with
      | .code _ =>
        if b = Text.byte '(' then closes (m.step b).2 (depth + 1) rest
        else if b = Text.byte ')' then depth ≠ 0 && closes (m.step b).2 (depth - 1) rest
        else closes (m.step b).2 depth rest
      | _ => closes (m.step b).2 depth rest

/-- Texts that start with no parenthesis and no negation, and close what they open. -/
def isClosed (t : Text) : Bool :=
  t ≠ [] && !Word.opening.text.isPrefixOf t && !(Text.ofString "NOT").isPrefixOf t && closes (.code []) 0 t

/-- What stands behind a closed part of a closed text is read from outside of parentheses and literals. -/
theorem closesBehind {m : Mode} {depth : Nat} {t rest : Text} (part : closes m depth t = true)
    (whole : closes m depth (t ++ rest) = true) :
    ∃ w, isConnective w = false ∧ closes (.code w) 0 rest = true := by
  induction t generalizing m depth with
  | nil =>
    cases m with
    | code w =>
      obtain ⟨rfl,plain⟩ : depth = 0 ∧ isConnective w = false := by simpa [closes] using part
      exact ⟨w,plain,whole⟩
    | quoted | escaped => simp [closes] at part
  | cons b t ih =>
    rw [List.cons_append] at whole
    cases m with
    | code w =>
      simp only [closes,Bool.and_eq_true] at part whole
      obtain ⟨_,part⟩ := part
      obtain ⟨_,whole⟩ := whole
      split at part
      · rename_i opens
        rw [if_pos opens] at whole
        exact ih part whole
      · rename_i inner
        rw [if_neg inner] at whole
        split at part
        · rename_i shuts
          rw [if_pos shuts,Bool.and_eq_true] at whole
          exact ih (Bool.and_eq_true_iff.mp part).2 whole.2
        · rename_i other
          rw [if_neg other] at whole
          exact ih part whole
    | quoted | escaped =>
      simp only [closes,Bool.and_eq_true] at part whole
      exact ih part.2 whole.2

theorem Ends.head {b : UInt8} {t : Text} (ends : Ends (b :: t)) : b = 41 ∨ b = 32 := by
  generalize same : b :: t = u at ends
  cases ends with
  | nothing => contradiction
  | @word w follows rest => cases w <;> simp_all [Word.follows,wordBytes]

theorem closingRead (w rest : Text) : closes (.code w) 0 (41 :: rest) = false := by
  rw [closes]
  simp only [if_neg (show (41 : UInt8) ≠ Text.byte '(' by decide),
    if_pos (show (41 : UInt8) = Text.byte ')' by decide)]
  simp

theorem spaceRead {w rest : Text} (closed : closes (.code w) 0 (32 :: rest) = true) :
    closes (.code []) 0 rest = true := by
  have step : Mode.step (.code w) 32 = ([w],.code []) := by
    rw [Mode.step,if_neg (by decide +kernel),if_neg (by decide)]
  simp only [closes,step,if_neg (show (32 : UInt8) ≠ Text.byte '(' by decide),
    if_neg (show (32 : UInt8) ≠ Text.byte ')' by decide),Bool.and_eq_true] at closed
  exact closed.2

/-- A connective is no part of a closed text outside of its parentheses. -/
theorem connectiveRead {name : Text} (connective : isConnective name = true) :
    (∀ b ∈ name, b ≠ 41 ∧ b ≠ 32) ∧ closes (.code []) 0 name = false ∧
      ∀ rest, closes (.code []) 0 (name ++ 32 :: rest) = false := by
  obtain rfl | rfl : name = "AND" ∨ name = "OR" := by simpa [isConnective] using connective
  · exact ⟨by decide +kernel,rfl,fun rest => rfl⟩
  · exact ⟨by decide +kernel,rfl,fun rest => rfl⟩

theorem followBytes {w : Word} (follows : w.follows = true) :
    w.text = [41] ∨ ∃ name, isConnective name = true ∧ w.text = 32 :: name ++ [32] := by
  cases w with
  | atom _ _ | not | opening => contradiction
  | closing => exact .inl rfl
  | and => exact .inr ⟨"AND",rfl,rfl⟩
  | or => exact .inr ⟨"OR",rfl,rfl⟩

/-- A closed text goes on nowhere behind a closed part at which it could end. -/
theorem closesNothing {w part behind : Text} (closed : closes (.code w) 0 part = true)
    (ends : Ends (part ++ behind)) (also : Ends behind) : part = [] := by
  cases part with
  | nil => rfl
  | cons b part =>
    exfalso
    generalize same : b :: part ++ behind = rest at ends
    cases ends with
    | nothing => contradiction
    | word follows more =>
      obtain shut | ⟨name,connective,spelled⟩ := followBytes follows
      · rw [shut] at same
        obtain ⟨rfl,_⟩ := List.cons.inj same
        simp [closingRead] at closed
      · rw [spelled,List.append_assoc] at same
        obtain ⟨rfl,tails⟩ := List.cons.inj same
        obtain ⟨letters,alone,before⟩ := connectiveRead connective
        have closed := spaceRead closed
        obtain ⟨q,rfl,rfl⟩ | ⟨q,rfl,spaced⟩ := List.append_eq_append_iff.mp tails
        · cases q with
          | nil => exact absurd closed (by simpa using alone)
          | cons c q =>
            have apart := letters c (by simp)
            exact also.head.elim apart.1 apart.2
        · cases q with
          | nil => exact absurd closed (by simpa using alone)
          | cons c q =>
            obtain ⟨rfl,_⟩ := List.cons.inj spaced
            exact absurd closed (by simp [before q])

theorem closedParts {t : Text} (closed : isClosed t = true) :
    t ≠ [] ∧ ¬ Word.opening.text <+: t ∧ ¬ Text.ofString "NOT" <+: t ∧ closes (.code []) 0 t = true := by
  simpa [isClosed,and_assoc,← List.isPrefixOf_iff_prefix] using closed

/-- A closed text is not what stands in front of an operand. -/
theorem leadApart {w : Word} {t rest : Text} (leads : w.leads = true) (closed : isClosed t = true)
    (ends : Ends rest) (more : Text) : t ++ rest ≠ w.text ++ more := by
  obtain ⟨some,parenthesis,negation,_⟩ := closedParts closed
  intro same
  cases w with
  | atom _ _ | and | or | closing => contradiction
  | opening =>
    obtain ⟨b,t,rfl⟩ := List.exists_cons_of_ne_nil some
    obtain ⟨rfl,_⟩ := List.cons.inj same
    exact parenthesis ⟨t,rfl⟩
  | not =>
    rw [show Word.not.text = Text.ofString "NOT" ++ [32] from rfl,List.append_assoc] at same
    obtain ⟨q,word,rfl⟩ | ⟨q,rfl,_⟩ := List.append_eq_append_iff.mp same
    · cases q with
      | nil => exact negation ⟨[],by simpa using word⟩
      | cons c q =>
        have letters : ∀ b ∈ Text.ofString "NOT", b ≠ 41 ∧ b ≠ 32 := by decide +kernel
        have apart := letters c (by simp [word])
        exact ends.head.elim apart.1 apart.2
    · exact negation ⟨q,rfl⟩

theorem closedUnique {t u rest behind : Text} (closed : isClosed t = true) (other : isClosed u = true)
    (ends : Ends rest) (otherEnds : Ends behind) (same : t ++ rest = u ++ behind) : t = u := by
  -- One of the two goes on behind the other.
  have general {t u rest behind : Text} (closed : isClosed t = true) (other : isClosed u = true)
      (ends : Ends rest) (otherEnds : Ends behind) {q : Text} (longer : u = t ++ q)
      (shorter : rest = q ++ behind) : t = u := by
    subst longer shorter
    obtain ⟨_,_,_,part⟩ := closedParts closed
    obtain ⟨_,_,_,whole⟩ := closedParts other
    obtain ⟨w,_,left⟩ := closesBehind part whole
    rw [closesNothing left ends otherEnds,List.append_nil]
  obtain ⟨q,longer,shorter⟩ | ⟨q,longer,shorter⟩ := List.append_eq_append_iff.mp same
  · exact general closed other ends otherEnds longer shorter
  · exact (general other closed otherEnds ends longer shorter).symm

theorem closedDelimited : Delimited fun t => isClosed t = true := by
  refine ⟨fun known => (closedParts known).1,?_⟩
  intro front other t u rest behind lead otherLead known otherKnown ends otherEnds same
  induction front generalizing other with
  | nil =>
    cases other with
    | nil => exact ⟨rfl,closedUnique known otherKnown ends otherEnds same⟩
    | cons x other =>
      simp only [wordingNil,wordingCons,List.nil_append,List.append_assoc] at same
      exact absurd same (leadApart (otherLead x List.mem_cons_self) known ends _)
  | cons w front ih =>
    obtain ⟨leads,later⟩ := List.forall_mem_cons.mp lead
    cases other with
    | nil =>
      simp only [wordingNil,wordingCons,List.nil_append,List.append_assoc] at same
      exact absurd same.symm (leadApart leads otherKnown otherEnds _)
    | cons x other =>
      obtain ⟨otherLeads,otherLater⟩ := List.forall_mem_cons.mp otherLead
      simp only [wordingCons,List.append_assoc] at same
      obtain ⟨rfl,tails⟩ := wordText (leadPlain leads) (leadPlain otherLeads) same
      obtain ⟨rfl,atom⟩ := ih later otherLater (by simpa using tails)
      exact ⟨rfl,atom⟩

end LogSql.Sql.Logic
