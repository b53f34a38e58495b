import LogSql.Proofs.Query.Derivation

/-! How deep queries nest. The reader stops where more statements and filters would be open at once than it has
room for, and nowhere else in a text that it reads with more room. That no derivation of such a text stays
within the room is seen from its parentheses: where the reader stops it has passed more of them than a
derivation within the room ever has open. -/
namespace LogSql.Query

open Parse
open Grammar (Phrase Rule Within rules)

/-! ### Open parentheses -/

/-- What a token adds to the parentheses that are open. -/
def Token.turn (t : Token) : Int :=
  if t.kind = .leftParen then 1 else if t.kind = .rightParen then -1 else 0

/-- The parentheses that tokens leave open. -/
def level : List Token → Int
  | [] => 0
  | t :: ts => t.turn + level ts

/-- The most parentheses that are open at once behind some of the tokens. -/
def crest : List Token → Int
  | [] => 0
  | t :: ts => max 0 (t.turn + crest ts)

section Levels

variable {ts us : List Token}

theorem levelAppend : level (ts ++ us) = level ts + level us := by
  induction ts with
  | nil => simp [level]
  | cons t ts ih =>
    rw [List.cons_append,level,ih,level]
    omega

theorem crestSome : 0 ≤ crest ts := by
  cases ts <;> (unfold crest; omega)

theorem crestAppend : crest (ts ++ us) = max (crest ts) (level ts + crest us) := by
  induction ts with
  | nil =>
    have some : 0 ≤ crest us := crestSome
    simp only [List.nil_append,crest,level]
    omega
  | cons t ts ih =>
    rw [List.cons_append,crest,ih,crest,level]
    omega

end Levels

namespace Grammar

/-- The parentheses that a phrase leaves open. -/
def turn : Phrase → Int
  | .token kinds => if .leftParen ∈ kinds then 1 else if .rightParen ∈ kinds then -1 else 0
  | .word _ | .rule _ | .empty | .many _ | .trailing => 0
  | .seq p q => turn p + turn q
  | .either p _ => turn p

/-- Whether a phrase leaves the same number of them open in every choice. -/
def even : Phrase → Bool
  | .token kinds => kinds.length = 1 || (.leftParen ∉ kinds && .rightParen ∉ kinds)
  | .word _ | .rule _ | .empty | .trailing => true
  | .seq p q => even p && even q
  | .either p q => even p && even q && turn p = turn q
  | .many p => even p && turn p = 0

/-- The most parentheses that are open at once in a rule with a number of nesting rules open. -/
def ruleCrest (n : Int) : Rule → Int
  | .labelFilter => n - 1
  | .filterAnd | .filterPrimary => n
  | .labelFilterPipeline | .pipeline | .selectorExpr => max 0 (n - 1)
  | .unwrapClause | .grouping | .userMacro => 1
  | .logRange => max 1 n
  | .unwrapFunction | .parameterizedUnwrapped => max 2 n
  | .aggregation => max 3 (n + 1)
  | .aggStatement => n + 2
  | .parameterized | .query => n + 3
  | _ => 0

def phraseCrest (n : Int) : Phrase → Int
  | .token kinds => if .leftParen ∈ kinds then 1 else 0
  | .word _ | .empty | .trailing => 0
  | .rule r => ruleCrest n r
  | .seq p q => max (phraseCrest n p) (turn p + phraseCrest n q)
  | .either p q => max (phraseCrest n p) (phraseCrest n q)
  | .many p => max 0 (phraseCrest n p)

variable {macros : List Text} {p : Phrase} {ts : List Token}

theorem rulesEven (macros : List Text) (r : Rule) : even (rules macros r) = true ∧ turn (rules macros r) = 0 := by
  cases r <;> exact ⟨rfl,rfl⟩

theorem rulesCrest (macros : List Text) {r : Rule} (plain : r.nests = false) {n : Int} (some : 0 ≤ n)
    (room : r = .filterPrimary → 1 ≤ n) : phraseCrest n (rules macros r) ≤ ruleCrest n r := by
  cases r <;> simp [rules,phraseCrest,ruleCrest,Phrase.inOrder,Phrase.oneOf,Phrase.option,Phrase.is,
    Phrase.commas,turn,Rule.nests] at plain room ⊢ <;> omega

theorem rulesNest (macros : List Text) {r : Rule} (nests : r.nests = true) {n : Int} (some : 0 ≤ n) :
    phraseCrest n (rules macros r) ≤ ruleCrest (n + 1) r := by
  cases r <;> simp [rules,phraseCrest,ruleCrest,Phrase.oneOf,turn,Rule.nests] at nests ⊢ <;> omega

theorem tokenTurn {kinds : List TokenKind} {t : Token} (kind : t.kind ∈ kinds)
    (steady : even (.token kinds) = true) : t.turn = turn (.token kinds) := by
  simp only [even,Bool.or_eq_true,decide_eq_true_eq,Bool.and_eq_true] at steady
  rcases steady with single | ⟨opening,closing⟩
  · obtain ⟨k,rfl⟩ := List.length_eq_one_iff.mp single
    simp only [List.mem_singleton] at kind
    simp only [Token.turn,turn,List.mem_singleton,kind,eq_comm]
  · have left : t.kind ≠ .leftParen := fun same => opening (same ▸ kind)
    have right : t.kind ≠ .rightParen := fun same => closing (same ▸ kind)
    simp [Token.turn,turn,left,right,opening,closing]

/-- What is within no nesting rule holds no group. -/
theorem primaryFlat (within : Within macros 0 (.rule .filterPrimary) ts) : crest ts ≤ 0 := by
  cases within with
  | rule _ body =>
    cases body with
    | left group =>
      cases group with
      | seq _ rest =>
        cases rest with
        | seq inner _ =>
          cases inner with
          | rule plain _ => contradiction
    | right simple =>
      cases simple with
      | seq label rest =>
        cases rest with
        | seq operator value =>
          cases label with
          | token label =>
            cases operator with
            | token operator =>
              cases value with
              | token value =>
                have first : _ = (0 : Int) := tokenTurn label rfl
                have second : _ = (0 : Int) := tokenTurn operator rfl
                have third : _ = (0 : Int) := tokenTurn value rfl
                simp [crest,first,second,third]

/-- In a derivation no more parentheses are open at once than in its rule. -/
theorem withinCrest {n : Nat} (within : Within macros n p ts) (steady : even p = true) :
    level ts = turn p ∧ crest ts ≤ phraseCrest n p := by
  induction within with
  | @token n kinds t kind =>
    have turns := tokenTurn kind steady
    refine ⟨by simpa [level] using turns,?_⟩
    rw [crest,crest,turns,turn,phraseCrest]
    split
    · decide
    · split <;> decide
  | word kind known => simp [level,crest,turn,phraseCrest,Token.turn,kind]
  | @rule n r ts plain body ih =>
    obtain ⟨inner,flat⟩ := rulesEven macros r
    obtain ⟨balanced,bound⟩ := ih inner
    refine ⟨balanced.trans flat,?_⟩
    -- The bound of a filter counts its own parenthesis, which it has only with a nesting rule inside.
    by_cases bare : r = .filterPrimary ∧ n = 0
    · obtain ⟨rfl,rfl⟩ := bare
      exact primaryFlat (.rule plain body)
    · refine Int.le_trans bound (rulesCrest macros plain (Int.natCast_nonneg n) fun primary => ?_)
      have some : n ≠ 0 := fun zero => bare ⟨primary,zero⟩
      omega
  | @opened n r ts nests body ih =>
    obtain ⟨inner,flat⟩ := rulesEven macros r
    obtain ⟨balanced,bound⟩ := ih inner
    exact ⟨balanced.trans flat,Int.le_trans bound (rulesNest macros nests (Int.natCast_nonneg n))⟩
  | empty => simp [level,crest,turn,phraseCrest]
  | seq first second ih ih' =>
    simp only [even,Bool.and_eq_true] at steady
    have left := ih steady.1
    have right := ih' steady.2
    rw [levelAppend,crestAppend,turn,phraseCrest]
    omega
  | left one ih =>
    simp only [even,Bool.and_eq_true,decide_eq_true_eq] at steady
    have own := ih steady.1.1
    rw [turn,phraseCrest]
    omega
  | right one ih =>
    simp only [even,Bool.and_eq_true,decide_eq_true_eq] at steady
    have own := ih steady.1.2
    rw [turn,phraseCrest]
    omega
  | done =>
    refine ⟨rfl,?_⟩
    rw [crest,phraseCrest]
    omega
  | more one rest ih ih' =>
    have again := ih' steady
    simp only [even,Bool.and_eq_true,decide_eq_true_eq] at steady
    have own := ih steady.1
    rw [turn,phraseCrest] at *
    rw [levelAppend,crestAppend]
    omega
  | last => simp [level,crest,turn,phraseCrest]
  | comma kind => simp [level,crest,turn,phraseCrest,Token.turn,kind]

end Grammar

/-! ### Two limits -/

/-- Parentheses that are open at once in what is ahead. -/
def Deep (k : Int) (c : Cursor) : Prop := k ≤ crest c.ahead

/-- What is deep behind a token that closes nothing is so in front of it. -/
theorem Deep.before {k : Int} {c : Cursor} (deep : Deep k c.rest) (open_ : (c.token 0).kind ≠ .rightParen) :
    Deep k c := by
  obtain ⟨ahead,stop⟩ := c
  cases ahead with
  | nil => exact deep
  | cons t ahead =>
    have some : 0 ≤ t.turn := by
      unfold Token.turn
      split
      · decide
      · exact Int.le_of_eq (if_neg (show ¬ t.kind = .rightParen from open_)).symm
    have own : k ≤ crest ahead := deep
    show k ≤ crest (t :: ahead)
    rw [crest]
    omega

/-- What is deep behind a group's parenthesis is deeper in front of it. -/
theorem Deep.group {k : Int} {c : Cursor} (deep : Deep k c.rest) (stop : c.stop.kind = .eof)
    (opening : (c.token 0).kind = .leftParen) : Deep (k + 1) c := by
  have turn : (c.token 0).turn = 1 := if_pos opening
  have own : k ≤ crest c.rest.ahead := deep
  unfold Deep
  rw [tokenAhead stop (by rw [opening]; decide),crest,turn]
  omega

theorem Took.keeps {macros : List Text} {n : Nat} {p : Phrase} {c c' : Cursor} {k : Int}
    (took : Took macros n p c c') (steady : Grammar.even p = true) (flat : Grammar.turn p = 0)
    (deep : Deep k c') : Deep k c := by
  obtain ⟨_,ts,same,within⟩ := took
  have turns := (Grammar.withinCrest within steady).1
  unfold Deep at *
  rw [same,crestAppend,turns,flat]
  omega

section Falls

variable {α β : Type} {D E : Prop} {c : Cursor}

/-- A step does what another one with more room does, unless it is out of room where something holds. -/
def Falls (D : Prop) (wide narrow : Parse α) (c : Cursor) : Prop :=
  narrow c = wide c ∨ (∃ pos, narrow c = .error (.at_ pos .nestedTooDeeply)) ∧ D

theorem Falls.imp {wide narrow : Parse α} (falls : Falls D wide narrow c) (weaker : D → E) :
    Falls E wide narrow c :=
  falls.imp_right fun h => ⟨h.1,weaker h.2⟩

theorem fallsSame {p : Parse α} : Falls D p p c := .inl rfl

theorem fallsBind {wide narrow : Parse α} {f g : α → Parse β} (first : Falls D wide narrow c)
    (next : Post c narrow fun a c' => Falls D (f a) (g a) c') : Falls D (wide >>= f) (narrow >>= g) c := by
  have run (p : Parse α) (h : α → Parse β) : (p >>= h) c = (p c).bind fun r => h r.1 r.2 := rfl
  rcases first with same | ⟨⟨pos,out⟩,deep⟩
  · unfold Falls
    rw [run,run,← same]
    cases read : narrow c with
    | error e => exact .inl rfl
    | ok r => exact next r.1 r.2 read
  · refine .inr ⟨⟨pos,?_⟩,deep⟩
    rw [run,out]
    rfl

theorem fallsStep {p : Parse α} {f g : α → Parse β} (next : Post c p fun a c' => Falls D (f a) (g a) c') :
    Falls D (p >>= f) (p >>= g) c :=
  fallsBind fallsSame next

theorem fallsIte {P : Prop} [Decidable P] {a b a' b' : Parse α} (yes : P → Falls D a a' c)
    (no : ¬ P → Falls D b b' c) : Falls D (if P then a else b) (if P then a' else b') c := by
  split
  · exact yes ‹_›
  · exact no ‹_›

theorem manyFalls {macros : List Text} {n : Nat} {p : Phrase} {E : Cursor → Prop} {k : Int}
    {wide narrow : Parse (Option α)} (took : Repeats macros n p E narrow)
    (steady : Grammar.even p = true) (flat : Grammar.turn p = 0)
    (each : ∀ c : Cursor, c.stop.kind = .eof → Falls (Deep k c) wide narrow c) (stop : c.stop.kind = .eof) :
    Falls (Deep k c) (many wide) (many narrow) c := by
  refine fallsStep (postFuel.mpr ?_)
  generalize c.ahead.length + 1 = bound
  induction bound generalizing c with
  | zero => exact fallsSame
  | succ bound ih =>
    refine fallsBind (each c stop) ((took c stop).imp fun o c' h => ?_)
    cases h with
    | declined _ => exact fallsSame
    | taken one =>
      exact fallsBind ((ih one.stop).imp (one.keeps steady flat)) fun _ _ _ => fallsSame

end Falls

/-! ### Filters -/

section Filters

variable {k : Int} {wide narrow : Parse Node} {macros : List Text} {n : Nat}

theorem filterPrimaryFalls (inner : ∀ c : Cursor, c.stop.kind = .eof → Falls (Deep k c) wide narrow c) {c : Cursor}
    (stop : c.stop.kind = .eof) : Falls (Deep (k + 1) c) (filterPrimary wide) (filterPrimary narrow) c := by
  refine fallsStep (postIs.mpr ?_)
  refine fallsIte (fun opening => ?_) fun _ => fallsSame
  refine fallsStep (postNext.mpr ?_)
  refine fallsBind ((inner c.rest stop).imp fun deep => ?_) fun _ _ _ => fallsSame
  exact deep.group stop (of_decide_eq_true opening)

theorem filterAndFalls (took : Takes macros n (.rule .labelFilter) narrow)
    (inner : ∀ c : Cursor, c.stop.kind = .eof → Falls (Deep k c) wide narrow c) {c : Cursor}
    (stop : c.stop.kind = .eof) : Falls (Deep (k + 1) c) (filterAnd wide) (filterAnd narrow) c := by
  refine fallsBind (filterPrimaryFalls inner stop) ?_
  refine (filterPrimaryTakes took c stop).imp fun _ c' left => ?_
  refine fallsBind (.imp (manyFalls (joinedRepeats took) rfl rfl (fun c stop => ?_) left.stop)
    (left.keeps rfl rfl)) fun _ _ _ => fallsSame
  refine fallsStep (postIsWord.mpr ?_)
  refine fallsStep (postIs.mpr ?_)
  refine fallsIte (fun joins => ?_) fun _ => fallsSame
  refine fallsStep (postNext.mpr ?_)
  have separates : (c.token 0).kind ≠ .rightParen := by
    intro closing
    simp [closing] at joins
  exact fallsBind (.imp (filterPrimaryFalls inner (c := c.rest) stop) fun deep => deep.before separates)
    fun _ _ _ => fallsSame

end Filters

theorem filterOrFalls {n m : Nat} (less : n ≤ m) {c : Cursor} (stop : c.stop.kind = .eof) :
    Falls (Deep n c) (filterOr m) (filterOr n) c := by
  induction n generalizing m c with
  | zero => exact .inr ⟨⟨_,rfl⟩,crestSome⟩
  | succ n ih =>
    obtain ⟨m,rfl⟩ := Nat.exists_eq_add_of_le' less
    have took := filterOrTakes [] n
    have inner : ∀ c : Cursor, c.stop.kind = .eof → Falls (Deep n c) (filterOr (m + n)) (filterOr n) c :=
      fun c stop => ih (Nat.le_add_left n m) stop
    refine fallsBind (filterAndFalls took inner stop) ((filterAndTakes took c stop).imp fun _ c' left => ?_)
    have repeats := separatedRepeats orSeparator (filterAndTakes took)
    refine fallsBind (.imp (manyFalls repeats rfl rfl (fun c stop => ?_) left.stop) (left.keeps rfl rfl))
      fun _ _ _ => fallsSame
    refine fallsStep (postIsWord.mpr ?_)
    refine fallsIte (fun here => ?_) fun _ => fallsSame
    refine fallsStep (postNext.mpr ?_)
    have separates : (c.token 0).kind ≠ .rightParen := by
      intro closing
      simp [closing] at here
    exact fallsBind (.imp (filterAndFalls took inner (c := c.rest) stop) fun deep => deep.before separates)
      fun _ _ _ => fallsSame

/-! ### Stages -/

theorem stageFalls {n m : Nat} (less : n ≤ m) (allowUnwrap : Bool) {c : Cursor} (stop : c.stop.kind = .eof) :
    Falls (Deep n c) (stage m allowUnwrap) (stage n allowUnwrap) c := by
  refine fallsStep (postCurrent.mpr ?_)
  split
  case h_5 pipe =>
    refine fallsStep (postPeek.mpr ?_)
    dsimp only
    refine fallsIte (fun _ => fallsIte (fun _ => fallsSame) fun _ => fallsStep postFail) fun _ => ?_
    refine fallsStep (postNext.mpr ?_)
    refine fallsIte (fun _ => fallsSame) fun _ => fallsIte (fun _ => fallsSame) fun _ =>
      fallsIte (fun _ => fallsSame) fun _ => fallsIte (fun _ => ?_) fun _ => fallsSame
    have open_ : (c.token 0).kind ≠ .rightParen := by rw [pipe]; decide
    exact fallsBind (.imp (filterOrFalls less (c := c.rest) stop) fun deep => deep.before open_)
      fun _ _ _ => fallsSame
  all_goals exact fallsSame

theorem selectorExprFalls {n m : Nat} (less : n ≤ m) (allowUnwrap : Bool) {c : Cursor}
    (stop : c.stop.kind = .eof) :
    Falls (Deep n c) (selectorExpr m allowUnwrap) (selectorExpr n allowUnwrap) c := by
  refine fallsStep ((selectorTakes [] n c stop).imp fun _ c' front => ?_)
  refine fallsBind (.imp (manyFalls (stageTook [] n allowUnwrap) rfl rfl (fun c stop => ?_) front.stop)
    (front.keeps rfl rfl)) fun _ _ _ => fallsSame
  exact stageFalls less allowUnwrap stop

/-! ### Statements -/

theorem rangeCallFalls {n m : Nat} (less : n ≤ m) {c : Cursor} (stop : c.stop.kind = .eof)
    (word : (c.token 0).kind = .identifier) : Falls (Deep (n + 1) c) (rangeCall m) (rangeCall n) c := by
  refine fallsStep (postNext.mpr ?_)
  refine fallsStep (postExpect.mpr fun opening => ?_)
  have open_ : (c.token 0).kind ≠ .rightParen := by rw [word]; decide
  have outer (deep : Deep n c.rest.rest) : Deep (n + 1) c := (deep.group stop opening).before open_
  refine fallsIte (fun _ => ?_) fun _ => ?_
  · refine fallsStep ((parameterTakes [] n c.rest.rest stop).imp fun _ c' number => ?_)
    refine fallsStep (postExpect.mpr fun comma => ?_)
    refine fallsStep (postPure.mpr ?_)
    have between : (c'.token 0).kind ≠ .rightParen := by rw [comma]; decide
    exact fallsBind (.imp (selectorExprFalls less true (c := c'.rest) number.stop) fun deep =>
      outer (number.keeps rfl rfl (deep.before between))) fun _ _ _ => fallsSame
  · refine fallsStep (postPure.mpr ?_)
    exact fallsBind (.imp (selectorExprFalls less true (c := c.rest.rest) stop) outer) fun _ _ _ => fallsSame

theorem aggregationOperatorFalls {n m : Nat} (less : n ≤ m) {c : Cursor} (stop : c.stop.kind = .eof)
    (word : (c.token 0).kind = .identifier) :
    Falls (Deep (n + 2) c) (aggregationOperator m) (aggregationOperator n) c := by
  have open_ : (c.token 0).kind ≠ .rightParen := by rw [word]; decide
  refine fallsStep (postNext.mpr ?_)
  refine fallsStep ((optGroupingTakes [] n _ c.rest stop).imp fun _ c' by_ => ?_)
  refine fallsStep (postExpect.mpr fun opening => ?_)
  refine fallsStep (postCurrent.mpr ?_)
  refine fallsIte (fun combinable => ?_) fun _ => fallsStep postFail
  refine fallsBind (.imp (rangeCallFalls less (c := c'.rest) by_.stop combinable.1) fun deep => ?_)
    fun _ _ _ => fallsSame
  exact Deep.before (by_.keeps rfl rfl (deep.group by_.stop opening)) open_

/-- The parenthesis that an aggregation opens around its range. -/
def combines (t : Token) : Int := if t.literal ∈ aggregationFunctions then 1 else 0

def Token.Ranks (t : Token) : Prop := t.kind = .identifier ∧ t.literal ∈ parameterizedFunctions

/-- A statement that is no ranking. -/
theorem plainFalls {n m : Nat} (less : n ≤ m) {c : Cursor} (stop : c.stop.kind = .eof)
    (plain : ¬ (c.token 0).Ranks) :
    Falls (Deep (n + 1 + combines (c.token 0)) c) (aggStatement (m + 1)) (aggStatement (n + 1)) c := by
  refine fallsStep (postCurrent.mpr ?_)
  refine fallsIte (fun word => ?_) fun _ => fallsStep postFail
  refine fallsIte (fun aggregation => ?_) fun single => fallsIte (fun ranking => ?_) fun _ =>
    fallsIte (fun _ => ?_) fun _ => fallsSame
  · rw [combines,if_pos aggregation]
    exact fallsBind (aggregationOperatorFalls less stop word) fun _ _ _ => fallsSame
  · exact absurd ⟨word,ranking⟩ plain
  · rw [combines,if_neg single]
    exact fallsBind (rangeCallFalls less stop word) fun _ _ _ => fallsSame

/-- Rankings are no other functions. -/
theorem ranksApart : ∀ word ∈ parameterizedFunctions, word ∉ aggregationFunctions ∧ word ∉ logRangeFunctions ∧
    word ∉ unwrapFunctions ∧ word ∉ parameterizedUnwrappedFunctions := by
  decide +kernel

/-- A statement that is ranked. -/
def RankedDeep (k : Int) (c : Cursor) : Prop :=
  ¬ (c.token 4).Ranks ∧ Deep (k + combines (c.token 4)) c

theorem rankingFalls {n m : Nat} (less : n ≤ m) {c : Cursor} (stop : c.stop.kind = .eof)
    (word : (c.token 0).kind = .identifier) : Falls (RankedDeep (n + 2) c)
      (parameterizedExpression (aggStatement (m + 1))) (parameterizedExpression (aggStatement (n + 1))) c := by
  refine fallsStep (postNext.mpr ?_)
  refine fallsStep (postExpect.mpr fun opening => ?_)
  refine fallsStep (parameterPost.imp fun _ c' number => ?_)
  obtain ⟨kind,rfl,_⟩ := number
  refine fallsStep (postExpect.mpr fun comma => ?_)
  refine fallsStep (postCurrent.mpr ?_)
  refine fallsIte (fun _ => fallsStep postFail) fun plain => ?_
  refine fallsBind (.imp (plainFalls less (c := c.rest.rest.rest.rest) stop plain) fun deep => ?_)
    fun _ _ _ => fallsSame
  have place : c.rest.rest.rest.rest.token 0 = c.token 4 := by simp only [Cursor.tokenRest]
  rw [place] at deep
  refine ⟨by rwa [← place],?_⟩
  have outer := ((deep.before (by rw [comma]; decide)).before (by rw [kind]; decide)).group stop opening
  have whole := outer.before (by rw [word]; decide)
  unfold Deep at *
  omega

theorem rankedFalls {n m : Nat} (less : n ≤ m) {c : Cursor} (stop : c.stop.kind = .eof)
    (ranks : (c.token 0).Ranks) :
    Falls (RankedDeep (n + 2) c) (aggStatement (m + 2)) (aggStatement (n + 2)) c := by
  refine fallsStep (postCurrent.mpr ?_)
  refine fallsIte (fun word => ?_) fun _ => fallsStep postFail
  refine fallsIte (fun aggregation => ?_) fun _ => fallsIte (fun _ => ?_) fun other => absurd ranks.2 other
  · exact absurd aggregation (ranksApart _ ranks.2).1
  · exact fallsBind (rankingFalls less stop word) fun _ _ _ => fallsSame

/-! ### Derivations stay shallow -/

section Shallow

open Grammar (ruleCrest withinCrest)

variable {macros : List Text} {n : Nat} {p : Phrase} {words : List Text} {t : Token} {ts : List Token}

theorem withinBody {r : Rule} (within : Within macros n (.rule r) ts) (plain : r.nests = false) :
    Within macros n (rules macros r) ts := by
  cases within with
  | rule _ body => exact body
  | opened nests _ => simp [plain] at nests

theorem withinOpened {r : Rule} (within : Within macros (n + 1) (.rule r) ts) (nests : r.nests = true) :
    Within macros n (rules macros r) ts := by
  cases within with
  | rule plain _ => simp [plain] at nests
  | opened _ body => exact body

theorem wordFirst (within : Within macros n (.seq (.word words) p) (t :: ts)) :
    t.kind = .identifier ∧ t.literal ∈ words ∧ Within macros n p ts := by
  generalize same : t :: ts = whole at within
  cases within with
  | seq first second =>
    cases first with
    | word kind known =>
      cases same
      exact ⟨kind,known,second⟩

theorem combinesSome (t : Token) : 0 ≤ combines t := by
  unfold combines
  split <;> decide

theorem statementSome (within : Within macros n (.rule .aggStatement) ts) : ∃ t us, ts = t :: us := by
  refine List.exists_cons_of_ne_nil fun none => ?_
  exact absurd ((Grammar.derivesBegin within.derives).1 none) (by decide)

theorem plainShallow (within : Within macros (n + 1) (.rule .aggStatement) (t :: ts)) (plain : ¬ t.Ranks) :
    crest (t :: ts) ≤ max 3 (n + combines t) := by
  have some := combinesSome t
  cases withinOpened within rfl with
  | left aggregation =>
    have bound : crest (t :: ts) ≤ max (3 : Int) (n + 1) := (withinCrest aggregation rfl).2
    obtain ⟨_,known,_⟩ := wordFirst (withinBody aggregation rfl)
    rwa [combines,if_pos known]
  | right others =>
    cases others with
    | left log =>
      have bound : crest (t :: ts) ≤ max (1 : Int) n := (withinCrest log rfl).2
      omega
    | right others =>
      cases others with
      | left unwrap =>
        have bound : crest (t :: ts) ≤ max (2 : Int) n := (withinCrest unwrap rfl).2
        omega
      | right others =>
        cases others with
        | left ranking =>
          obtain ⟨word,known,_⟩ := wordFirst (withinBody ranking rfl)
          exact absurd ⟨word,known⟩ plain
        | right quantile =>
          have bound : crest (t :: ts) ≤ max (2 : Int) n := (withinCrest quantile rfl).2
          omega

theorem tokenFirst {kind : TokenKind} (within : Within macros n (.seq (.is kind) p) ts) :
    ∃ t us, ts = t :: us ∧ t.kind = kind ∧ Within macros n p us := by
  cases within with
  | seq first second =>
    cases first with
    | token same => exact ⟨_,_,rfl,List.mem_singleton.mp same,second⟩

theorem rankedShallow (within : Within macros (n + 1) (.rule .aggStatement) (t :: ts)) (ranks : t.Ranks) :
    ∃ a b c us d, ts = a :: b :: c :: (us ++ [d]) ∧ Within macros n (.rule .aggStatement) us ∧
      crest (t :: ts) = 1 + crest us := by
  obtain ⟨single,log,unwrap,quantile⟩ := ranksApart t.literal ranks.2
  cases withinOpened within rfl with
  | left aggregation => exact absurd (wordFirst (withinBody aggregation rfl)).2.1 single
  | right others =>
    cases others with
    | left range => exact absurd (wordFirst (withinBody range rfl)).2.1 log
    | right others =>
      cases others with
      | left range => exact absurd (wordFirst (withinBody range rfl)).2.1 unwrap
      | right others =>
        cases others with
        | right range => exact absurd (wordFirst (withinBody range rfl)).2.1 quantile
        | left ranking =>
          obtain ⟨word,_,rest⟩ := wordFirst (withinBody ranking rfl)
          obtain ⟨a,_,rfl,opening,rest⟩ := tokenFirst rest
          obtain ⟨b,_,rfl,number,rest⟩ := tokenFirst rest
          obtain ⟨c,_,rfl,comma,rest⟩ := tokenFirst rest
          cases rest with
          | @seq _ _ _ us _ inner last =>
            cases last with
            | @token _ _ d closing =>
              have closing := List.mem_singleton.mp closing
              have balanced : level us = 0 := (withinCrest inner rfl).1
              have some : 0 ≤ crest us := crestSome
              refine ⟨a,b,c,us,d,rfl,inner,?_⟩
              simp only [crest,crestAppend,balanced,Token.turn,word,opening,number,comma,closing,reduceCtorEq,
                if_true,if_false]
              omega

/-- A query that is no call and no selector is a statement, and what stands behind it has no parentheses. -/
theorem statementFirst {c : Cursor} (within : Within macros n (.rule .query) c.ahead)
    (noCall : ¬ ((c.token 0).kind = .identifier ∧ (c.token 0).literal ∈ macros ∧
      (c.token 1).kind = .leftParen)) (noSelector : (c.token 0).kind ≠ .leftBrace) :
    ∃ us vs, c.ahead = us ++ vs ∧ Within macros n (.rule .aggStatement) us ∧ crest c.ahead = crest us := by
  obtain ⟨ahead,stop⟩ := c
  have body := withinBody within rfl
  dsimp only at body ⊢
  generalize same : ahead = ts at body
  cases body with
  | left call =>
    subst same
    cases ahead with
    | nil => exact absurd ((Grammar.derivesBegin call.derives).1 rfl) (by decide)
    | cons t ts =>
      obtain ⟨word,known,rest⟩ := wordFirst (withinBody call rfl)
      obtain ⟨next,us,rfl,opening,_⟩ := tokenFirst rest
      exact absurd ⟨word,known,opening⟩ noCall
  | right others =>
    cases others with
    | left statement =>
      cases statement with
      | @seq _ _ _ us vs first second =>
        have balanced : level us = 0 := (withinCrest first rfl).1
        have flat : crest vs ≤ 0 := (withinCrest second rfl).2
        have some : 0 ≤ crest us := crestSome
        refine ⟨us,vs,rfl,first,?_⟩
        rw [crestAppend,balanced]
        omega
    | right selector =>
      subst same
      cases ahead with
      | nil => exact absurd ((Grammar.derivesBegin selector.derives).1 rfl) (by decide)
      | cons t ts =>
        have brace : t.kind ∈ [TokenKind.leftBrace] := (Grammar.derivesBegin selector.derives).2 t rfl
        exact absurd (List.mem_singleton.mp brace) noSelector

theorem selectorShallow {c : Cursor} (within : Within macros n (.rule .query) c.ahead)
    (brace : (c.token 0).kind = .leftBrace) : crest c.ahead ≤ max 0 ((n : Int) - 1) := by
  obtain ⟨ahead,stop⟩ := c
  cases ahead with
  | nil => exact absurd ((Grammar.derivesBegin within.derives).1 rfl) (by decide)
  | cons t ts =>
    have brace : t.kind = .leftBrace := brace
    have other : t.kind ∉ [TokenKind.identifier] := by simp [brace]
    cases withinBody within rfl with
    | left call => exact absurd ((Grammar.derivesBegin call.derives).2 t rfl) other
    | right others =>
      generalize same : t :: ts = whole at others
      cases others with
      | left statement =>
        subst same
        exact absurd ((Grammar.derivesBegin statement.derives).2 t rfl) other
      | right selector => exact (withinCrest selector rfl).2

end Shallow

/-! ### The limit -/

/-- A whole query, with another limit. -/
def queryWithin (limit : Nat) (macros : List Text) : Parse Node := do
  let t ← current
  let children ←
    if t.kind = .identifier ∧ t.literal ∈ macros ∧ (← peek 1).kind = .leftParen then do
      pure [← macroCall]
    else if t.kind = .leftBrace then selectorExpr limit false
    else do
      let agg ← aggStatement limit
      pure (agg :: (← comparison))
  let stop ← current
  unless stop.kind = .eof do failAt stop (.unexpected stop)
  return .mk Kind.root [] children

def parseWithin (limit : Nat) (macros : List Text) (t : Text) : Except Error Node := do
  if (Text.trim t).isEmpty then throw .blank
  let ts ← tokenize t
  let (node, _) ← (queryWithin limit macros).run ⟨ts.tokens,ts.eof⟩
  return node

theorem parseLimited (macros : List Text) (t : Text) : parse macros t = parseWithin 64 macros t := rfl

theorem statementFalls {macros : List Text} (m : Nat) {c : Cursor} (stop : c.stop.kind = .eof)
    (noCall : ¬ ((c.token 0).kind = .identifier ∧ (c.token 0).literal ∈ macros ∧
      (c.token 1).kind = .leftParen)) (noSelector : (c.token 0).kind ≠ .leftBrace) :
    Falls (¬ Within macros 64 (.rule .query) c.ahead) (aggStatement (m + 64)) (aggStatement 64) c := by
  by_cases ranks : (c.token 0).Ranks
  -- A ranking takes one of the 64 rules and one parenthesis, so the statement in it has 63 of either.
  · refine .imp (rankedFalls (Nat.le_add_left 62 m) stop ranks) fun deep within => ?_
    obtain ⟨us,vs,same,statement,whole⟩ := statementFirst within noCall noSelector
    obtain ⟨t,us,rfl⟩ := statementSome statement
    have first : c.token 0 = t := by simp [Cursor.token,same]
    rw [first] at ranks
    obtain ⟨x,y,z,ws,d,rfl,inner,higher⟩ := rankedShallow statement ranks
    obtain ⟨w,ws,rfl⟩ := statementSome inner
    have fifth : c.token 4 = w := by simp [Cursor.token,same]
    obtain ⟨plain,deep⟩ := deep
    rw [fifth] at plain deep
    have low := plainShallow inner plain
    have some := combinesSome w
    unfold Deep at deep
    omega
  · refine .imp (plainFalls (Nat.le_add_left 63 m) stop ranks) fun deep within => ?_
    obtain ⟨us,vs,same,statement,whole⟩ := statementFirst within noCall noSelector
    obtain ⟨t,us,rfl⟩ := statementSome statement
    have first : c.token 0 = t := by simp [Cursor.token,same]
    rw [first] at ranks deep
    have low := plainShallow statement ranks
    have some := combinesSome t
    unfold Deep at deep
    omega

theorem queryFalls {macros : List Text} (m : Nat) {c : Cursor} (stop : c.stop.kind = .eof) :
    Falls (¬ Within macros 64 (.rule .query) c.ahead) (queryWithin (m + 64) macros) (queryWithin 64 macros) c := by
  refine fallsStep (postCurrent.mpr ?_)
  refine fallsStep (postPeek.mpr ?_)
  refine fallsIte (fun _ => fallsSame) fun noCall => fallsIte (fun brace => ?_) fun noSelector => ?_
  · refine fallsBind (.imp (selectorExprFalls (Nat.le_add_left 64 m) false stop) fun deep within => ?_)
      fun _ _ _ => fallsSame
    have low := selectorShallow within brace
    unfold Deep at deep
    omega
  · exact fallsBind (statementFalls m stop noCall noSelector) fun _ _ _ => fallsSame

theorem parseWithinRun {limit : Nat} {macros : List Text} {t : Text} {root : Node}
    (ok : parseWithin limit macros t = .ok root) : ¬ (Text.trim t).isEmpty ∧ ∃ ts left,
      tokenize t = .ok ts ∧ queryWithin limit macros ⟨ts.tokens,ts.eof⟩ = .ok (root,left) := by
  unfold parseWithin at ok
  split at ok
  · contradiction
  · rename_i filled
    obtain ⟨ts,tokens,ok⟩ := bindOk ok
    obtain ⟨⟨n,left⟩,read,ok⟩ := bindOk ok
    cases ok
    exact ⟨filled,ts,left,tokens,read⟩

/-- A text that the reader takes with a higher limit nests deeper than 64 rules where it is refused as too deep,
and not where it is taken. How much stands side by side makes no difference. -/
theorem nestingLimited {macros : List Text} {more : Nat} {t : Text} {root : Node}
    (formed : parseWithin (64 + more) macros t = .ok root) : ∃ ts, tokenize t = .ok ts ∧
      (parse macros t = .ok root ↔ Within macros 64 (.rule .query) ts.tokens) ∧
      ((∃ pos, parse macros t = .error (.at_ pos .nestedTooDeeply)) ↔
        ¬ Within macros 64 (.rule .query) ts.tokens) := by
  obtain ⟨filled,ts,left,tokens,read⟩ := parseWithinRun formed
  have run : parse macros t = (queryWithin 64 macros ⟨ts.tokens,ts.eof⟩).map (·.1) := by
    rw [parse,if_neg filled,tokens]
    show (query macros ⟨ts.tokens,ts.eof⟩ >>= fun r => .ok r.1) = (query macros ⟨ts.tokens,ts.eof⟩).map (·.1)
    cases query macros ⟨ts.tokens,ts.eof⟩ <;> rfl
  have taken {n : Node} (ok : parse macros t = .ok n) : Within macros 64 (.rule .query) ts.tokens := by
    obtain ⟨ts',rest,tokens',taken⟩ := parseRun ok
    obtain rfl : ts' = ts := by
      rw [tokens] at tokens'
      exact (Except.ok.inj tokens').symm
    obtain ⟨_,us,same,within⟩ := queryTook macros ⟨ts'.tokens,ts'.eof⟩ rfl n rest taken
    have none := (queryPost macros (tokenizeCursor tokens) n rest taken).2
    rw [none,List.append_nil] at same
    cases same
    exact within
  refine ⟨ts,tokens,?_⟩
  have falls : Falls (¬ Within macros 64 (.rule .query) ts.tokens) (queryWithin (more + 64) macros)
      (queryWithin 64 macros) ⟨ts.tokens,ts.eof⟩ := queryFalls more rfl
  rw [Nat.add_comm] at read
  rcases falls with same | ⟨⟨pos,out⟩,deep⟩
  · have accepted : parse macros t = .ok root := by
      rw [run,same,read]
      rfl
    have within := taken accepted
    exact ⟨iff_of_true accepted within,iff_of_false (by simp [accepted]) (not_not_intro within)⟩
  · have refused : parse macros t = .error (.at_ pos .nestedTooDeeply) := by
      rw [run,out]
      rfl
    exact ⟨iff_of_false (by simp [refused]) deep,iff_of_true ⟨pos,refused⟩ deep⟩

/-- A filter in a number of groups. -/
def groupedFilter (n : Nat) : Text :=
  .concat ["\x7ba=\"b\"\x7d | ",List.replicate n (Text.byte '('),"x=1",List.replicate n (Text.byte ')')]

theorem groupedFilterLimited :
    (∃ ts root, tokenize (groupedFilter 63) = .ok ts ∧ parse [] (groupedFilter 63) = .ok root ∧
      Within [] 64 (.rule .query) ts.tokens) ∧
    ∃ ts pos, tokenize (groupedFilter 64) = .ok ts ∧
      parse [] (groupedFilter 64) = .error (.at_ pos .nestedTooDeeply) ∧
      ¬ Within [] 64 (.rule .query) ts.tokens := by
  constructor
  · obtain ⟨root,formed,_⟩ := okAny (x := parseWithin (64 + 0) [] (groupedFilter 63)) (p := fun _ => true)
      (by decide +kernel)
    obtain ⟨ts,tokens,taken,_⟩ := nestingLimited formed
    have accepted := (parseLimited [] (groupedFilter 63)).trans formed
    exact ⟨ts,root,tokens,accepted,taken.mp accepted⟩
  · obtain ⟨root,formed,refused⟩ := okAny (x := parseWithin (64 + 1) [] (groupedFilter 64))
      (p := fun _ => (parse [] (groupedFilter 64)).toOption.isNone) (by decide +kernel)
    obtain ⟨ts,tokens,taken,deep⟩ := nestingLimited formed
    have outside : ¬ Within [] 64 (.rule .query) ts.tokens := by
      intro within
      simp only [taken.mpr within,Except.toOption,Option.isNone_some,Bool.false_eq_true] at refused
    obtain ⟨pos,out⟩ := deep.mpr outside
    exact ⟨ts,pos,tokens,out,outside⟩

end LogSql.Query
