import LogSql.Proofs.Compile.Refusals
import LogSql.Proofs.Compile.Window
import LogSql.Proofs.Text.Strings

/-! Paths into documents. A path is segments between points, a segment a name with positions in brackets
behind it. The reader looks for brackets and not for what stands between them, so it takes more than
that: brackets inside names, signs, brackets that are missing or too many. What it makes of a path is
the same either way, and the greatest position wraps. -/
namespace LogSql.Compile

open Sql (Expr)
open Int64Range (fits wrap least greatest)

/-- A position as it is written. -/
structure Position where
  sign : Text
  digits : Text
  signed : sign ∈ ([[], "-", "+"] : List Text)
  number : Text.someAll Text.isDecimal digits = true

namespace Position

def text (p : Position) : Text := p.sign ++ p.digits

def value (p : Position) : Int :=
  if p.sign = ("-" : Text) then -(Text.digitsValue p.digits : Int) else Text.digitsValue p.digits

/-- A position that sixty-four bits hold. -/
def Readable (p : Position) : Prop := 0 ≤ p.value ∧ p.value ≤ greatest

def accessor (p : Position) : Expr := .int (wrap (p.value + 1))

theorem someDigit (p : Position) : ∃ d rest, p.digits = d :: rest ∧ Text.isDecimal d = true := by
  have number := p.number
  cases digits : p.digits with
  | nil => simp [Text.someAll,digits] at number
  | cons d rest =>
    rw [digits] at number
    simp only [Text.someAll,List.all_cons,Bool.and_eq_true] at number
    exact ⟨d,rest,rfl,number.2.1⟩

theorem splitText (p : Position) :
    Number.splitSign p.text = (decide (p.sign = ("-" : Text)), p.digits) := by
  obtain ⟨d,rest,digits,decimal⟩ := p.someDigit
  have minus : d ≠ Text.byte '-' := by
    rintro rfl
    exact absurd decimal (by decide)
  have plus : d ≠ Text.byte '+' := by
    rintro rfl
    exact absurd decimal (by decide)
  have signed := p.signed
  simp only [List.mem_cons,List.not_mem_nil,or_false] at signed
  rw [text,digits]
  rcases signed with none | none | none
  · rw [none]
    simp [Number.splitSign,minus,plus]
  · rw [none]
    rfl
  · rw [none]
    rfl

theorem read (p : Position) :
    Number.readInt p.text = if fits p.value then .ok p.value else .error .outOfRange := by
  have number := p.number
  rw [Number.readInt,p.splitText]
  simp only [number,Bool.not_true,Bool.false_eq_true,if_false,decide_eq_true_eq,value]
  rfl

/-- A text that reads as a number is written as one. -/
theorem ofRead {t : Text} {n : Int} (ok : Number.readInt t = .ok n) :
    ∃ p : Position, t = p.text ∧ n = p.value ∧ fits n = true := by
  have sign : ∃ sign ∈ ([[], "-", "+"] : List Text), t = sign ++ (Number.splitSign t).2 ∧
      ((Number.splitSign t).1 = true ↔ sign = ("-" : Text)) := by
    cases t with
    | nil => exact ⟨[],by simp,rfl,by simp [Number.splitSign]⟩
    | cons b t =>
      rw [Number.splitSign]
      split
      · rename_i same
        exact ⟨"-",by simp,by rw [same]; rfl,by simp⟩
      · split
        · rename_i same
          exact ⟨"+",by simp,by rw [same]; rfl,by simp⟩
        · exact ⟨[],by simp,rfl,by simp⟩
  obtain ⟨sign,known,whole,minus⟩ := sign
  rw [Number.readInt] at ok
  generalize Number.splitSign t = parts at ok whole minus
  obtain ⟨negative,digits⟩ := parts
  dsimp only at ok whole minus
  split at ok
  · contradiction
  rename_i number
  generalize same : (if negative = true then -(Text.digitsValue digits : Int)
    else Text.digitsValue digits) = v at ok
  split at ok
  · rename_i inside
    cases ok
    refine ⟨⟨sign,digits,known,by simpa using number⟩,whole,?_,inside⟩
    simp only [value,← minus,same]
  · contradiction

theorem unbracketed (p : Position) : ∀ b ∈ p.text, b ≠ Text.byte '.' ∧ b ≠ Text.byte '[' ∧
    b ≠ Text.byte ']' := by
  have number := p.number
  simp only [Text.someAll,Bool.and_eq_true,List.all_eq_true] at number
  have signed := p.signed
  simp only [List.mem_cons,List.not_mem_nil,or_false] at signed
  intro b mem
  rcases List.mem_append.mp mem with sign | digit
  · have either : b = Text.byte '-' ∨ b = Text.byte '+' := by
      rcases signed with none | none | none <;> rw [none] at sign
      · contradiction
      · exact .inl (List.mem_singleton.mp sign)
      · exact .inr (List.mem_singleton.mp sign)
    rcases either with rfl | rfl <;> decide
  · have decimal := number.2 b digit
    refine ⟨?_,?_,?_⟩ <;> (rintro rfl; exact absurd decimal (by decide))

theorem unopened (p : Position) (rest : Text) :
    Text.stripStart "[" (p.text ++ rest) = none := by
  obtain ⟨d,more,digits,_⟩ := p.someDigit
  cases whole : p.text with
  | nil => simp [text,digits] at whole
  | cons b t =>
    have other := (p.unbracketed b (by simp [whole])).2.1
    have start : (Text.ofString "[").isPrefixOf (b :: (t ++ rest)) = false := by
      have different : (Text.byte '[' == b) = false := by simpa using Ne.symm other
      show (Text.byte '[' == b && _) = false
      rw [different]
      rfl
    rw [List.cons_append,Text.stripStart,start]
    rfl

end Position

/-- A segment of a path: a name and positions, either of which may be missing. -/
structure Segment where
  name : Text
  plain : Text.byte '.' ∉ name ∧ Text.byte '[' ∉ name
  positions : List Position

namespace Segment

def Readable (s : Segment) : Prop := ∀ p ∈ s.positions, p.Readable

def accessors (s : Segment) : List Expr :=
  if s.name.isEmpty then s.positions.map Position.accessor
  else .str s.name :: s.positions.map Position.accessor

/-- How the grammar writes a segment: each position in brackets of its own and without a sign, and no
brackets in the name. -/
structure Written (s : Segment) (t : Text) : Prop where
  name : Text.byte ']' ∉ s.name
  unsigned : ∀ p ∈ s.positions, p.sign = []
  text : t = s.name ++ s.positions.flatMap fun p => ("[" : Text) ++ p.digits ++ ("]" : Text)

/-- What the reader takes for positions behind an opening bracket: each ends in a closing bracket, and
another opening one may follow or not. -/
inductive Behind : List Position → Text → Prop where
  | nil : Behind [] []
  | next (p : Position) {ps : List Position} {rest : Text} (more : Behind ps rest) :
      Behind (p :: ps) (p.text ++ Text.byte ']' :: rest)
  | opened (p : Position) {ps : List Position} {rest : Text} (more : Behind ps rest) :
      Behind (p :: ps) (p.text ++ Text.byte ']' :: Text.byte '[' :: rest)

/-- What the reader takes for a segment. -/
inductive Taken (s : Segment) : Text → Prop where
  | name (alone : s.positions = []) : Taken s s.name
  | positions {rest : Text} (more : Behind s.positions rest) :
      Taken s (s.name ++ Text.byte '[' :: rest)

theorem writtenBehind {ps : List Position} (some : ps ≠ []) (unsigned : ∀ p ∈ ps, p.sign = []) :
    ∃ rest, ps.flatMap (fun p => ("[" : Text) ++ p.digits ++ ("]" : Text)) = Text.byte '[' :: rest ∧
      Behind ps rest := by
  induction ps with
  | nil => contradiction
  | cons p ps ih =>
    obtain ⟨sign,others⟩ := List.forall_mem_cons.mp unsigned
    have digits : p.text = p.digits := by rw [Position.text,sign,List.nil_append]
    have bracket : Text.ofString "]" = [Text.byte ']'] := by decide
    refine ⟨p.text ++ Text.byte ']' :: ps.flatMap fun p => ("[" : Text) ++ p.digits ++ ("]" : Text),
      ?_,?_⟩
    · rw [List.flatMap_cons,digits,bracket]
      simp [Text.ofString,Text.ofChar]
      rfl
    · cases ps with
      | nil => exact .next p .nil
      | cons q qs =>
        obtain ⟨rest,same,more⟩ := ih (by simp) others
        rw [same]
        exact .opened p more

theorem Written.taken {s : Segment} {t : Text} (written : s.Written t) : s.Taken t := by
  rw [written.text]
  by_cases alone : s.positions = []
  · rw [alone]
    simpa using Taken.name alone
  · obtain ⟨rest,same,more⟩ := writtenBehind alone written.unsigned
    rw [same]
    exact .positions more

theorem Behind.bytes {ps : List Position} {t : Text} (behind : Behind ps t) : Text.byte '.' ∉ t := by
  have digits (p : Position) : Text.byte '.' ∉ p.text := fun mem => (p.unbracketed _ mem).1 rfl
  induction behind with
  | nil => simp
  | next p more ih =>
    simp only [List.mem_append,List.mem_cons,not_or]
    exact ⟨digits p,by decide,ih⟩
  | opened p more ih =>
    simp only [List.mem_append,List.mem_cons,not_or]
    exact ⟨digits p,by decide,by decide,ih⟩

theorem Taken.bytes {s : Segment} {t : Text} (taken : s.Taken t) : Text.byte '.' ∉ t := by
  cases taken with
  | name alone => exact s.plain.1
  | positions more =>
    simp only [List.mem_append,List.mem_cons,not_or]
    exact ⟨s.plain.1,by decide,more.bytes⟩

/-! ### Reading -/

theorem Behind.start {ps : List Position} {t : Text} (behind : Behind ps t) :
    Text.stripStart "[" t = none := by
  cases behind with
  | nil => rfl
  | next p more => exact p.unopened _
  | opened p more => exact p.unopened _

section Reading

variable {path : Text}

/-- One position, whatever follows its closing bracket. -/
theorem indexRead (p : Position) (fuel : Nat) (tail : Text) (es : List Expr) :
    pathIndexes path (fuel + 1) (p.text ++ Text.byte ']' :: tail) = .ok es ↔
      p.Readable ∧ ∃ more, pathIndexes path fuel ((Text.stripStart "[" tail).getD tail) = .ok more ∧
        es = p.accessor :: more := by
  have some : (p.text ++ Text.byte ']' :: tail).isEmpty = false := by simp
  have absent : Text.byte ']' ∉ p.text := fun mem => (p.unbracketed _ mem).2.2 rfl
  have cut : Text.cut "]" (p.text ++ Text.byte ']' :: tail) = Option.some (p.text,tail) :=
    Text.cutFirst absent tail
  rw [pathIndexes,some,if_neg (by simp),cut]
  dsimp only
  rw [Number.integer,p.read]
  unfold Position.Readable
  by_cases inside : fits p.value = true
  · rw [if_pos inside,mapErrorSuccess]
    have bound := (Int64Range.fitsRange.mp inside).2
    dsimp only
    by_cases negative : p.value < 0
    · rw [if_pos negative]
      constructor
      · intro ok
        contradiction
      · rintro ⟨⟨positive,_⟩,_⟩
        omega
    · rw [if_neg negative]
      constructor
      · intro ok
        obtain ⟨more,later,ok⟩ := bindOk ok
        cases ok
        exact ⟨⟨by omega,bound⟩,more,later,rfl⟩
      · rintro ⟨_,more,later,rfl⟩
        rw [later]
        rfl
  · rw [if_neg inside,mapErrorFailure]
    constructor
    · intro ok
      contradiction
    · rintro ⟨⟨positive,bound⟩,_⟩
      refine absurd (Int64Range.fitsRange.mpr ⟨?_,bound⟩) inside
      unfold least
      omega

theorem Behind.read {ps : List Position} {t : Text} (behind : Behind ps t) {fuel : Nat}
    (enough : t.length ≤ fuel) (es : List Expr) :
    pathIndexes path fuel t = .ok es ↔
      (∀ p ∈ ps, p.Readable) ∧ es = ps.map Position.accessor := by
  induction behind generalizing fuel es with
  | nil =>
    have none : pathIndexes path fuel [] = .ok [] := by cases fuel <;> rfl
    rw [none]
    simp [eq_comm]
  | next p more ih =>
    obtain ⟨fuel,rfl⟩ : ∃ n, fuel = n + 1 := Nat.exists_eq_add_of_le' (by simp at enough; omega)
    rw [indexRead,more.start,Option.getD_none,List.forall_mem_cons,List.map_cons]
    have later := @ih fuel (by simp at enough; omega)
    simp only [later]
    constructor
    · rintro ⟨first,_,⟨others,rfl⟩,rfl⟩
      exact ⟨⟨first,others⟩,rfl⟩
    · rintro ⟨⟨first,others⟩,rfl⟩
      exact ⟨first,_,⟨others,rfl⟩,rfl⟩
  | @opened p ps rest more ih =>
    obtain ⟨fuel,rfl⟩ : ∃ n, fuel = n + 1 := Nat.exists_eq_add_of_le' (by simp at enough; omega)
    have strip : Text.stripStart "[" (Text.byte '[' :: rest) = some rest := by
      have start : (Text.ofString "[").isPrefixOf (Text.byte '[' :: rest) = true := by
        show (Text.byte '[' == Text.byte '[' && _) = true
        simp [Text.byte]
      rw [Text.stripStart,start]
      rfl
    rw [indexRead,strip,Option.getD_some,List.forall_mem_cons,List.map_cons]
    have later := @ih fuel (by simp at enough; omega)
    simp only [later]
    constructor
    · rintro ⟨first,_,⟨others,rfl⟩,rfl⟩
      exact ⟨⟨first,others⟩,rfl⟩
    · rintro ⟨⟨first,others⟩,rfl⟩
      exact ⟨first,_,⟨others,rfl⟩,rfl⟩

theorem Taken.read {s : Segment} {t : Text} (taken : s.Taken t) (es : List Expr) :
    pathSegment path t = .ok es ↔ s.Readable ∧ es = s.accessors := by
  have cut : ∃ rest, (Text.cut "[" t).getD (t,[]) = (s.name,rest) ∧ Behind s.positions rest := by
    cases taken with
    | name alone =>
      have none : Text.cut "[" s.name = none := Text.cutNone.mpr s.plain.2
      exact ⟨[],by rw [none]; rfl,alone ▸ .nil⟩
    | @positions rest more =>
      have found : Text.cut "[" (s.name ++ Text.byte '[' :: rest) = some (s.name,rest) :=
        Text.cutFirst s.plain.2 rest
      exact ⟨rest,by rw [found]; rfl,more⟩
  obtain ⟨rest,parts,behind⟩ := cut
  rw [pathSegment,parts]
  dsimp only
  constructor
  · intro ok
    obtain ⟨indexes,read,ok⟩ := bindOk ok
    obtain ⟨readable,rfl⟩ := (behind.read (Nat.le_refl _) _).mp read
    cases ok
    exact ⟨readable,rfl⟩
  · rintro ⟨readable,rfl⟩
    rw [(behind.read (Nat.le_refl _) _).mpr ⟨readable,rfl⟩]
    rfl

/-! ### What is read -/

theorem behindOf {fuel : Nat} {t : Text} {es : List Expr} (enough : t.length ≤ fuel)
    (ok : pathIndexes path fuel t = .ok es) : ∃ ps, Behind ps t := by
  induction fuel generalizing t es with
  | zero =>
    obtain rfl := List.length_eq_zero_iff.mp (Nat.le_zero.mp enough)
    exact ⟨[],.nil⟩
  | succ fuel ih =>
    rw [pathIndexes] at ok
    split at ok
    · rename_i empty
      rw [List.isEmpty_iff.mp empty]
      exact ⟨[],.nil⟩
    split at ok
    · contradiction
    rename_i index tail cut
    split at ok
    · contradiction
    rename_i n read
    split at ok
    · contradiction
    obtain ⟨more,later,_⟩ := bindOk ok
    obtain ⟨p,rfl,_,_⟩ := Position.ofRead (mapErrorOk read)
    have whole : t = p.text ++ Text.byte ']' :: tail := by
      rw [Text.cutParts cut,List.append_assoc]
      rfl
    rw [whole] at enough ⊢
    simp only [List.length_append,List.length_cons] at enough
    cases strip : Text.stripStart "[" tail with
    | none =>
      rw [strip] at later
      obtain ⟨ps,behind⟩ := ih (by simp; omega) later
      exact ⟨p :: ps,.next p behind⟩
    | some rest =>
      rw [strip] at later
      have opened : tail = Text.byte '[' :: rest := by
        unfold Text.stripStart at strip
        split at strip
        · rename_i starts
          obtain ⟨other,same⟩ := List.isPrefixOf_iff_prefix.mp starts
          cases strip
          rw [← same]
          rfl
        · contradiction
      rw [opened] at enough ⊢
      simp only [List.length_cons] at enough
      obtain ⟨ps,behind⟩ := ih (by simp; omega) later
      exact ⟨p :: ps,.opened p behind⟩

theorem takenOf {t : Text} {es : List Expr} (plain : Text.byte '.' ∉ t)
    (ok : pathSegment path t = .ok es) : ∃ s : Segment, s.Taken t := by
  rw [pathSegment] at ok
  cases cut : Text.cut "[" t with
  | none => exact ⟨⟨t,⟨plain,Text.cutNone.mp cut⟩,[]⟩,.name rfl⟩
  | some parts =>
    obtain ⟨name,rest⟩ := parts
    rw [cut] at ok
    obtain ⟨absent,rfl⟩ := Text.cutBefore cut
    simp only [List.mem_append,not_or] at plain
    obtain ⟨indexes,read,_⟩ := bindOk ok
    obtain ⟨ps,behind⟩ := behindOf (Nat.le_refl _) read
    exact ⟨⟨name,⟨plain.1,absent⟩,ps⟩,.positions behind⟩

end Reading

end Segment

/-! ### Paths -/

/-- What the reader takes for a path. -/
inductive TakenPath : List Segment → Text → Prop where
  | intro {segments : List Segment} {parts : List Text} (some : parts ≠ [])
      (each : List.Forall₂ Segment.Taken segments parts) :
      TakenPath segments (Text.join "." parts)

/-- How the grammar writes a path. -/
inductive WrittenPath : List Segment → Text → Prop where
  | intro {segments : List Segment} {parts : List Text} (some : parts ≠ [])
      (each : List.Forall₂ Segment.Written segments parts) :
      WrittenPath segments (Text.join "." parts)

theorem WrittenPath.taken {segments : List Segment} {path : Text}
    (written : WrittenPath segments path) : TakenPath segments path := by
  obtain ⟨some,each⟩ := written
  exact .intro some (each.imp fun _ _ => Segment.Written.taken)

theorem segmentsRead {path : Text} {segments : List Segment} {parts : List Text}
    (each : List.Forall₂ Segment.Taken segments parts) (ess : List (List Expr)) :
    parts.mapM (pathSegment path) = .ok ess ↔
      (∀ s ∈ segments, s.Readable) ∧ ess = segments.map Segment.accessors := by
  induction each generalizing ess with
  | nil => simp [pure,Except.pure,eq_comm]
  | @cons s part segments parts taken others ih =>
    rw [List.mapM_cons,List.forall_mem_cons,List.map_cons]
    constructor
    · intro ok
      obtain ⟨es,head,ok⟩ := bindOk ok
      obtain ⟨more,tail,ok⟩ := bindOk ok
      cases ok
      obtain ⟨first,rfl⟩ := (taken.read es).mp head
      obtain ⟨later,rfl⟩ := (ih more).mp tail
      exact ⟨⟨first,later⟩,rfl⟩
    · rintro ⟨⟨first,later⟩,rfl⟩
      rw [(taken.read _).mpr ⟨first,rfl⟩,(ih _).mpr ⟨later,rfl⟩]
      rfl

theorem partsPlain {segments : List Segment} {parts : List Text}
    (each : List.Forall₂ Segment.Taken segments parts) : ∀ part ∈ parts, Text.byte '.' ∉ part := by
  induction each with
  | nil => simp
  | cons taken others ih => exact List.forall_mem_cons.mpr ⟨taken.bytes,ih⟩

theorem TakenPath.read {segments : List Segment} {path : Text} (taken : TakenPath segments path)
    (es : List Expr) : pathAccessors path = .ok es ↔ (∀ s ∈ segments, s.Readable) ∧
      es = segments.flatMap Segment.accessors ∧ es ≠ [] := by
  cases taken with
  | @intro parts some each =>
  have split : Text.splitByte (Text.byte '.') (Text.join "." parts) = parts :=
    Text.splitJoin some (partsPlain each)
  rw [pathAccessors,split]
  constructor
  · intro ok
    obtain ⟨ess,read,ok⟩ := bindOk ok
    obtain ⟨readable,rfl⟩ := (segmentsRead each ess).mp read
    obtain ⟨some,ok⟩ := guardOk ok
    cases ok
    exact ⟨readable,(List.flatMap_def ..).symm,by simpa using some⟩
  · rintro ⟨readable,rfl,some⟩
    rw [(segmentsRead each _).mpr ⟨readable,rfl⟩]
    rw [List.flatMap_def] at some ⊢
    have inside : (segments.map Segment.accessors).flatten.isEmpty = false := by simpa using some
    simp only [bind,Except.bind,inside]
    rfl

/-- Every path that is accepted is one that the reader takes. -/
theorem takenPathOf {path : Text} {es : List Expr} (ok : pathAccessors path = .ok es) :
    ∃ segments, TakenPath segments path := by
  obtain ⟨ess,read,-⟩ := bindOk ok
  have each : ∃ segments, List.Forall₂ Segment.Taken segments
      (Text.splitByte (Text.byte '.') path) := by
    have plain : ∀ part ∈ Text.splitByte (Text.byte '.') path, Text.byte '.' ∉ part :=
      fun _ => Text.splitApart
    generalize Text.splitByte (Text.byte '.') path = parts at read plain
    induction parts generalizing ess with
    | nil => exact ⟨[],.nil⟩
    | cons part parts ih =>
      rw [List.mapM_cons] at read
      obtain ⟨es,head,read⟩ := bindOk read
      obtain ⟨more,tail,_⟩ := bindOk read
      obtain ⟨first,others⟩ := List.forall_mem_cons.mp plain
      obtain ⟨s,taken⟩ := Segment.takenOf first head
      obtain ⟨segments,later⟩ := ih more tail others
      exact ⟨s :: segments,.cons taken later⟩
  obtain ⟨segments,each⟩ := each
  refine ⟨segments,?_⟩
  rw [← Text.joinSplit (Text.byte '.') path]
  exact .intro (Text.splitSome _ _) each

theorem accessorValue {p : Position} (readable : p.Readable) :
    p.accessor = .int (if p.value < greatest then p.value + 1 else least) := by
  obtain ⟨positive,bound⟩ := readable
  unfold Position.accessor
  split
  · rw [Int64Range.wrapSame (Int64Range.fitsRange.mpr ⟨by unfold least; omega,by omega⟩)]
  · have top : p.value = greatest := by omega
    rw [top]
    rfl

/-- A path of the grammar is read as it is written, when sixty-four bits hold its positions; each
position comes out one higher, and only the greatest wraps. Any other path is accepted only when the
reader takes its brackets and signs for a path, and it is refused as a wrong request otherwise. -/
theorem pathsRead (path : Text) :
    (∀ segments, WrittenPath segments path → ∀ es, pathAccessors path = .ok es ↔
      (∀ s ∈ segments, s.Readable) ∧ es = segments.flatMap Segment.accessors ∧ es ≠ []) ∧
    (∀ es, pathAccessors path = .ok es ↔ ∃ segments, TakenPath segments path ∧
      (∀ s ∈ segments, s.Readable) ∧ es = segments.flatMap Segment.accessors ∧ es ≠ []) ∧
    (∀ p : Position, p.Readable →
      p.accessor = .int (if p.value < greatest then p.value + 1 else least)) ∧
    ∀ err, pathAccessors path = .error err → err.class? = some .badRequest := by
  refine ⟨fun segments written => written.taken.read,fun es => ⟨fun ok => ?_,?_⟩,
    fun p => accessorValue,fun err failed => ?_⟩
  · obtain ⟨segments,taken⟩ := takenPathOf ok
    exact ⟨segments,taken,(taken.read es).mp ok⟩
  · rintro ⟨segments,taken,read⟩
    exact (taken.read es).mpr read
  · obtain ⟨r,rfl⟩ := pathAccessorsFail path err failed
    rfl

/-! ### A bracket too many -/

theorem Segment.Written.balanced {s : Segment} {t : Text} (written : s.Written t) :
    t.count (Text.byte '[') = t.count (Text.byte ']') := by
  have digits (p : Position) : p.digits.count (Text.byte '[') = 0 ∧
      p.digits.count (Text.byte ']') = 0 := by
    have inside {b : UInt8} (mem : b ∈ p.digits) : b ∈ p.text := List.mem_append_right _ mem
    exact ⟨List.count_eq_zero.mpr fun mem => (p.unbracketed _ (inside mem)).2.1 rfl,
      List.count_eq_zero.mpr fun mem => (p.unbracketed _ (inside mem)).2.2 rfl⟩
  have marks : (Text.ofString "[").count (Text.byte '[') = 1 ∧
      (Text.ofString "[").count (Text.byte ']') = 0 ∧
      (Text.ofString "]").count (Text.byte '[') = 0 ∧
      (Text.ofString "]").count (Text.byte ']') = 1 := by decide
  rw [written.text,List.count_append,List.count_append,List.count_eq_zero.mpr s.plain.2,
    List.count_eq_zero.mpr written.name,List.count_flatMap,List.count_flatMap]
  congr 2
  refine List.map_congr_left fun p _ => ?_
  simp [digits p,marks]

theorem WrittenPath.balanced {segments : List Segment} {path : Text}
    (written : WrittenPath segments path) :
    path.count (Text.byte '[') = path.count (Text.byte ']') := by
  cases written with
  | @intro parts some each =>
  clear some
  have point : (Text.ofString ".").count (Text.byte '[') = (Text.ofString ".").count (Text.byte ']') := by
    decide
  induction each with
  | nil => rfl
  | @cons s part segments parts head tail ih =>
    cases parts with
    | nil => exact head.balanced
    | cons next parts =>
      rw [Text.joinCons _ _ (List.cons_ne_nil _ _)]
      simp only [List.count_append,head.balanced,ih,point]

def Position.unsigned (digits : Text) (number : Text.someAll Text.isDecimal digits = true) : Position :=
  ⟨[],digits,List.mem_cons_self,number⟩

/-- An element of a member. -/
def Position.element (p : Position) : Segment := ⟨"x",by decide,[p]⟩

theorem elementRead {p : Position} (unsigned : p.sign = []) (readable : p.Readable) :
    pathAccessors (("x[" : Text) ++ p.digits ++ ("]" : Text)) = .ok [.str "x", p.accessor] := by
  have name : Text.byte ']' ∉ Text.ofString "x" := by decide
  have written : p.element.Written (("x[" : Text) ++ p.digits ++ ("]" : Text)) :=
    ⟨name,by simpa [Position.element] using unsigned,by simp [Position.element]; rfl⟩
  have path := @WrittenPath.intro _ [_] (by simp) (.cons written .nil)
  have shown : (Text.ofString "x").isEmpty = false := by decide
  refine (path.taken.read _).mpr ⟨?_,?_,by simp⟩
  · simpa [Segment.Readable,Position.element] using readable
  · simp [Segment.accessors,Position.element,shown]

def greatestPosition : Position := .unsigned "9223372036854775807" (by decide)

/-- A name with an open bracket behind it, and the greatest position. -/
theorem looseBracketsTaken : (¬ ∃ segments, WrittenPath segments "x[") ∧
    pathAccessors "x[" = .ok [.str "x"] ∧
    pathAccessors "x[9223372036854775807]" = .ok [.str "x", .int least] := by
  have value : greatestPosition.value = greatest := by decide
  have wrapped : greatestPosition.accessor = .int least := by
    rw [Position.accessor,value]
    rfl
  refine ⟨?_,?_,?_⟩
  · rintro ⟨segments,written⟩
    exact absurd written.balanced (by decide)
  · refine ((pathsRead _).2.1 _).mpr ⟨[⟨"x",by decide,[]⟩],?_,?_,rfl,by simp⟩
    · exact @TakenPath.intro _ ["x["] (by simp) (.cons (.positions .nil) .nil)
    · simp [Segment.Readable]
  · have readable : greatestPosition.Readable := by
      rw [Position.Readable,value]
      decide
    have read := elementRead rfl readable
    rwa [wrapped] at read

end LogSql.Compile
