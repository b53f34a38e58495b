import Mathlib.Data.List.TakeWhile
import LogSql.Number.Read
import LogSql.Proofs.Number.Rounding

/-! The spelling of numbers: a sign, digits with at most one point, and an exponent of ten or, behind
hexadecimal digits, of two. What is spelled is an exact rational, and it is read as the number of the format
that is nearest to it. -/
namespace LogSql.Number

open Text (byte isDecimal hexValue)
open Binary64 (Worth Nearest overflow overflowBetween)

/-! ### The grammar -/

/-- An optional sign, and whether it is a minus. -/
inductive Sign : Text → Bool → Prop where
  | none : Sign [] false
  | plus : Sign [byte '+'] false
  | minus : Sign [byte '-'] true

/-- Digits of a base with underscores among them, and what each digit stands for. -/
inductive Digits (base : Nat) : Text → List Nat → Prop where
  | nil : Digits base [] []
  | digit {b : UInt8} {d : Nat} {t : Text} {ds : List Nat} (value : hexValue b = some d)
      (small : d < base) (rest : Digits base t ds) : Digits base (b :: t) (d :: ds)
  | underscore {t : Text} {ds : List Nat} (rest : Digits base t ds) :
      Digits base (byte '_' :: t) ds

/-- Digits, some at least, of which so many stand behind a point. -/
inductive Pointed (base : Nat) : Text → List Nat → Nat → Prop where
  | whole {t : Text} {ds : List Nat} (digits : Digits base t ds) (some : ds ≠ []) : Pointed base t ds 0
  | pointed {t u : Text} {ds es : List Nat} (front : Digits base t ds) (back : Digits base u es)
      (some : ds ++ es ≠ []) : Pointed base (t ++ byte '.' :: u) (ds ++ es) es.length

/-- An exponent: a sign and digits, with underscores behind the first. -/
inductive Exponent : Text → Int → Prop where
  | spelled {sign t : Text} {negative : Bool} {b : UInt8} (signed : Sign sign negative)
      (first : isDecimal b = true)
      (rest : ∀ c ∈ t, isDecimal c = true ∨ c = byte '_') :
      Exponent (sign ++ b :: t)
        (if negative then -(exponentValue ((b :: t).filter isDecimal) : Int)
          else exponentValue ((b :: t).filter isDecimal))

/-- The exponent behind digits, which decimal digits may do without. -/
inductive Tail (hex : Bool) : Text → Int → Prop where
  | none (decimal : hex = false) : Tail hex [] 0
  | power {b : UInt8} {t : Text} {e : Int}
      (mark : b = (if hex then byte 'p' else byte 'e') ∨ b = (if hex then byte 'P' else byte 'E'))
      (exponent : Exponent t e) : Tail hex (b :: t) e

/-- The number `± value * base ^ exponent`. -/
structure Literal where
  negative : Bool
  value : Nat
  base : Nat
  exponent : Int

def Literal.amount (l : Literal) : ℚ :=
  if l.negative then -(l.value * l.base ^ l.exponent) else l.value * l.base ^ l.exponent

/-- What digits of a base stand for one after the other. -/
def valueOf (base : Nat) (ds : List Nat) : Nat := ds.foldl (fun n d => n * base + d) 0

/-- Numbers as they are spelled in decimal and in hexadecimal notation. -/
inductive Spells : Text → Literal → Prop where
  | decimal {sign t tail : Text} {negative : Bool} {ds : List Nat} {places : Nat} {e : Int}
      (signed : Sign sign negative) (digits : Pointed 10 t ds places) (power : Tail false tail e)
      (fit : byte '_' ∈ sign ++ (t ++ tail) → underscoresFit (sign ++ (t ++ tail)) = true) :
      Spells (sign ++ (t ++ tail)) ⟨negative,valueOf 10 ds,10,e - places⟩
  | hexadecimal {sign t tail : Text} {negative : Bool} {ds : List Nat} {places : Nat} {e : Int} {x : UInt8}
      (signed : Sign sign negative) (mark : x = byte 'x' ∨ x = byte 'X') (digits : Pointed 16 t ds places)
      (power : Tail true tail e)
      (fit : byte '_' ∈ sign ++ byte '0' :: x :: (t ++ tail) →
        underscoresFit (sign ++ byte '0' :: x :: (t ++ tail)) = true) :
      Spells (sign ++ byte '0' :: x :: (t ++ tail)) ⟨negative,valueOf 16 ds,2,e - 4 * places⟩

/-! ### Signs -/

/-- No sign stands at the start of a text. -/
def Unsigned (t : Text) : Prop := ∀ b ∈ t.head?, b ≠ byte '-' ∧ b ≠ byte '+'

theorem splitSigned {sign t : Text} {negative : Bool} (signed : Sign sign negative) (plain : Unsigned t) :
    splitSign (sign ++ t) = (negative,t) := by
  cases signed with
  | none =>
    cases t with
    | nil => rfl
    | cons b t =>
      obtain ⟨minus,plus⟩ := plain b rfl
      rw [List.nil_append,splitSign,if_neg minus,if_neg plus]
  | plus => rfl
  | minus => rfl

theorem splitSource (t : Text) : ∃ sign, Sign sign (splitSign t).1 ∧ t = sign ++ (splitSign t).2 := by
  cases t with
  | nil => exact ⟨[],.none,rfl⟩
  | cons b t =>
    rw [splitSign]
    split
    · exact ⟨[byte '-'],.minus,by simp_all⟩
    · split
      · exact ⟨[byte '+'],.plus,by simp_all⟩
      · exact ⟨[],.none,rfl⟩

/-! ### Digits -/

theorem pointNoDigit : hexValue (byte '.') = none ∧ hexValue (byte '_') = none := by decide

theorem digitApart {b : UInt8} {d : Nat} (value : hexValue b = some d) :
    b ≠ byte '_' ∧ b ≠ byte '.' := by
  constructor <;> rintro rfl
  · rw [pointNoDigit.2] at value
    contradiction
  · rw [pointNoDigit.1] at value
    contradiction

theorem decimalDigit {b : UInt8} : isDecimal b = true ↔ ∃ d, hexValue b = some d ∧ d < 10 := by
  constructor
  · intro decimal
    refine ⟨b.toNat - 48,by rw [hexValue,if_pos decimal],?_⟩
    rw [isDecimal,Bool.and_eq_true,decide_eq_true_eq,decide_eq_true_eq,UInt8.le_iff_toNat_le,
      UInt8.le_iff_toNat_le] at decimal
    have zero : (byte '0').toNat = 48 ∧ (byte '9').toNat = 57 := by decide
    omega
  · rintro ⟨d,value,small⟩
    by_contra other
    have letters : (byte 'a').toNat = 97 ∧ (byte 'A').toNat = 65 := by decide
    unfold hexValue at value
    rw [if_neg other] at value
    split at value
    · rename_i letter
      rw [Bool.and_eq_true,decide_eq_true_eq,UInt8.le_iff_toNat_le] at letter
      cases value
      omega
    · split at value
      · rename_i letter
        rw [Bool.and_eq_true,decide_eq_true_eq,UInt8.le_iff_toNat_le] at letter
        cases value
        omega
      · contradiction

/-- The state of a reader of mantissas behind digits. -/
def Mantissa.past (acc : Mantissa) (base : Nat) (t : Text) (ds : List Nat) : Mantissa :=
  { acc with
    value := ds.foldl (fun n d => n * base + d) acc.value
    digits := acc.digits + ds.length
    afterPoint := if acc.point then acc.afterPoint + ds.length else acc.afterPoint
    underscore := acc.underscore || List.contains t (byte '_') }

/-- What cannot go on a mantissa. -/
def Stops (base : Nat) (point : Bool) (t : Text) : Prop :=
  ∀ b ∈ t.head?, (∀ d, hexValue b = some d → base ≤ d) ∧ b ≠ byte '_' ∧ (point = false → b ≠ byte '.')

section Digits

variable {base : Nat} {acc : Mantissa}

/-- Before a point no digit counts as one behind it. -/
def Mantissa.Sound (acc : Mantissa) : Prop := acc.point = false → acc.afterPoint = 0

theorem digitsRead {t : Text} {ds : List Nat} (digits : Digits base t ds) (sound : acc.Sound)
    (rest : Text) :
    readMantissa base acc (t ++ rest) = readMantissa base (acc.past base t ds) rest := by
  induction digits generalizing acc with
  | nil => simp [Mantissa.past]
  | @digit b d t ds value small _ ih =>
    obtain ⟨underscore,point⟩ := digitApart value
    rw [List.cons_append,readMantissa,if_neg underscore,if_neg point,value]
    dsimp only
    rw [if_pos small,ih]
    · congr 1
      cases found : acc.point with
      | false => simp [Mantissa.past,found,underscore.symm,sound found,Nat.add_assoc,Nat.add_comm 1]
      | true => simp [Mantissa.past,found,underscore.symm,Nat.add_assoc,Nat.add_comm 1]
    · intro before
      exact if_neg (by simpa using before)
  | underscore _ ih =>
    rw [List.cons_append,readMantissa,if_pos rfl,ih]
    · simp [Mantissa.past]
    · exact sound

theorem mantissaStops {t : Text} (stops : Stops base acc.point t) :
    readMantissa base acc t = { acc with rest := t } := by
  cases t with
  | nil => rw [readMantissa]
  | cons b t =>
    obtain ⟨digit,underscore,point⟩ := stops b rfl
    rw [readMantissa,if_neg underscore]
    split
    · cases found : acc.point with
      | false => exact absurd ‹_› (point found)
      | true => rfl
    · split
      · rename_i d value
        rw [if_neg (Nat.not_lt.mpr (digit d value))]
      · rfl

end Digits

theorem wholeRead {base : Nat} {t rest : Text} {ds : List Nat} (digits : Digits base t ds)
    (stops : Stops base false rest) :
    readMantissa base {} (t ++ rest) =
      { value := valueOf base ds, digits := ds.length, underscore := List.contains t (byte '_'), rest } := by
  rw [digitsRead digits (fun _ => rfl),mantissaStops stops]
  simp [Mantissa.past,valueOf]

theorem pointRead {base : Nat} {t u rest : Text} {ds es : List Nat} (front : Digits base t ds)
    (back : Digits base u es) (stops : Stops base true rest) :
    readMantissa base {} (t ++ byte '.' :: u ++ rest) =
      { value := valueOf base (ds ++ es), digits := (ds ++ es).length, afterPoint := es.length, point := true
        underscore := List.contains (t ++ byte '.' :: u) (byte '_'), rest } := by
  have apart : byte '_' ≠ byte '.' := by decide
  rw [List.append_assoc,List.cons_append,digitsRead front (fun _ => rfl),readMantissa,if_neg apart.symm,
    if_pos rfl,if_neg (by simp [Mantissa.past]),digitsRead back (fun before => by simp at before),
    mantissaStops stops]
  simp [Mantissa.past,valueOf,apart]

/-- What is read of a mantissa behind which it stops. -/
theorem pointedRead {base places : Nat} {t rest : Text} {ds : List Nat}
    (pointed : Pointed base t ds places) (stops : Stops base false rest) :
    ∃ point, readMantissa base {} (t ++ rest) =
      { value := valueOf base ds, digits := ds.length, afterPoint := places, point
        underscore := List.contains t (byte '_'), rest } := by
  cases pointed with
  | whole digits _ => exact ⟨false,wholeRead digits stops⟩
  | pointed front back _ =>
    exact ⟨true,pointRead front back fun b first =>
      ⟨(stops b first).1,(stops b first).2.1,fun before => by simp at before⟩⟩

/-- Every text starts with digits, as many as there are. -/
theorem digitsSource (base : Nat) (t : Text) : ∃ u ds rest, Digits base u ds ∧ t = u ++ rest ∧
    Stops base true rest := by
  induction t with
  | nil => exact ⟨[],[],[],.nil,rfl,fun b first => by simp at first⟩
  | cons b t ih =>
    obtain ⟨u,ds,rest,digits,rfl,stops⟩ := ih
    by_cases underscore : b = byte '_'
    · exact ⟨b :: u,ds,rest,underscore ▸ .underscore digits,rfl,stops⟩
    · by_cases digit : ∃ d, hexValue b = some d ∧ d < base
      · obtain ⟨d,value,small⟩ := digit
        exact ⟨b :: u,d :: ds,rest,.digit value small digits,rfl,stops⟩
      · refine ⟨[],[],b :: (u ++ rest),.nil,rfl,?_⟩
        intro c first
        obtain rfl : b = c := Option.some.inj first
        exact ⟨fun d value => Nat.not_lt.mp fun small => digit ⟨d,value,small⟩,underscore,
          fun before => by simp at before⟩

/-- What a mantissa was read from. -/
theorem mantissaSource (base : Nat) (t : Text) : ∃ u ds places point rest, t = u ++ rest ∧
    (ds ≠ [] → Pointed base u ds places) ∧
    readMantissa base {} t =
      { value := valueOf base ds, digits := ds.length, afterPoint := places, point
        underscore := List.contains u (byte '_'), rest } := by
  obtain ⟨u,ds,rest,front,rfl,stops⟩ := digitsSource base t
  by_cases point : ∃ v, rest = byte '.' :: v
  · obtain ⟨v,rfl⟩ := point
    obtain ⟨v,es,rest,back,rfl,last⟩ := digitsSource base v
    refine ⟨u ++ byte '.' :: v,ds ++ es,es.length,true,rest,by simp,.pointed front back,?_⟩
    rw [← pointRead front back last,List.append_assoc,List.cons_append]
  · refine ⟨u,ds,0,false,rest,rfl,.whole front,wholeRead front fun b first => ?_⟩
    refine ⟨(stops b first).1,(stops b first).2.1,fun _ same => point ?_⟩
    cases rest with
    | nil => simp at first
    | cons c v => exact ⟨v,by rw [← same,← Option.some.inj first]⟩

/-! ### Exponents -/

theorem decimalUnsigned {b : UInt8} {t : Text} (first : isDecimal b = true) : Unsigned (b :: t) := by
  intro c front
  obtain rfl : b = c := Option.some.inj front
  constructor <;> rintro rfl <;> revert first <;> decide

theorem exponentRead {t : Text} {e : Int} (exponent : Exponent t e) :
    readExponent t = some (e,List.contains t (byte '_'),[]) := by
  cases exponent with
  | @spelled sign t negative b signed first rest =>
    have run : (b :: t).takeWhile (fun b => isDecimal b || b = byte '_') = b :: t := by
      rw [List.takeWhile_eq_self_iff]
      intro c held
      rcases List.mem_cons.mp held with rfl | behind
      · simp [first]
      · simpa using rest c behind
    have apart : List.contains (sign ++ b :: t) (byte '_') = List.contains (b :: t) (byte '_') := by
      cases signed with
      | none => rfl
      | plus => simp [show byte '_' ≠ byte '+' by decide]
      | minus => simp [show byte '_' ≠ byte '-' by decide]
    rw [apart,readExponent,splitSigned signed (decimalUnsigned first)]
    dsimp only
    rw [if_neg (by simp [first]),run,List.drop_length]

theorem exponentSource {t : Text} {e : Int} {underscore : Bool}
    (read : readExponent t = some (e,underscore,[])) : Exponent t e := by
  obtain ⟨sign,signed,source⟩ := splitSource t
  rw [readExponent] at read
  revert read source
  generalize splitSign t = parts at *
  obtain ⟨negative,body⟩ := parts
  intro read source
  cases body with
  | nil => simp at read
  | cons b rest =>
    dsimp only at read source
    split at read
    · simp at read
    · rename_i first
      rw [Bool.not_eq_true,Bool.not_eq_false'] at first
      obtain ⟨rfl,behind⟩ := Prod.mk.inj (Option.some.inj read)
      have ends := (Prod.mk.inj behind).2
      have run : (b :: rest).takeWhile (fun b => isDecimal b || b = byte '_') = b :: rest :=
        (List.takeWhile_prefix _).eq_of_length_le (List.drop_eq_nil_iff.mp ends)
      have kinds := List.takeWhile_eq_self_iff.mp run
      rw [run,source]
      refine .spelled signed first fun c behind => ?_
      simpa using kinds c (List.mem_cons_of_mem b behind)

/-! ### Numbers -/

/-- A byte in front of the letters that is no letter itself. -/
def Plain (b : UInt8) : Prop := b.toNat < 65 ∨ b = byte '_'

def lower (b : UInt8) : UInt8 := if byte 'A' ≤ b && b ≤ byte 'Z' then b + 32 else b

theorem lowerPlain {b : UInt8} (plain : Plain b) : lower b = b := by
  refine if_neg ?_
  rw [Bool.and_eq_true,decide_eq_true_eq,decide_eq_true_eq,UInt8.le_iff_toNat_le,UInt8.le_iff_toNat_le]
  have ends : (byte 'A').toNat = 65 ∧ (byte 'Z').toNat = 90 ∧ (byte '_').toNat = 95 := by decide
  rcases plain with small | rfl <;> omega

theorem lowerLetter {b c : UInt8} (letter : 97 ≤ c.toNat ∧ c.toNat ≤ 122) :
    Text.asciiLower [b] = [c] ↔ b = c ∨ b = c - 32 := by
  have ends : (byte 'A').toNat = 65 ∧ (byte 'Z').toNat = 90 ∧ (32 : UInt8).toNat = 32 := by decide
  have back : (c - 32).toNat = c.toNat - 32 :=
    UInt8.toNat_sub_of_le c 32 (UInt8.le_iff_toNat_le.mpr (by omega))
  have single : Text.asciiLower [b] = [lower b] := rfl
  rw [single,List.singleton_inj,← UInt8.toNat_inj,← UInt8.toNat_inj,← UInt8.toNat_inj,back,lower]
  simp only [Bool.and_eq_true,decide_eq_true_eq,UInt8.le_iff_toNat_le,ends.1,ends.2.1]
  split
  · rw [UInt8.toNat_add,ends.2.2]
    omega
  · omega

theorem specialNone {t : Text} (front : ∀ b ∈ t.head?, Plain b)
    (behind : ∀ b ∈ (splitSign t).2.head?, Plain b) : special t = none := by
  have apart {u : Text} {b : UInt8} {v : Text} (plain : ∀ c ∈ u.head?, Plain c) (letter : ¬ Plain b) :
      Text.asciiLower u ≠ b :: v := by
    cases u with
    | nil => exact nofun
    | cons c u =>
      intro same
      have first : lower c = b := (List.cons.inj same).1
      rw [lowerPlain (plain c rfl)] at first
      exact letter (first ▸ plain c rfl)
  have letters : ¬ Plain (byte 'i') ∧ ¬ Plain (byte 'n') := by
    unfold Plain
    decide
  rw [special]
  dsimp only
  rw [if_neg,if_neg]
  · exact apart front letters.2
  · exact not_or.mpr ⟨apart behind letters.1,apart behind letters.1⟩

/-- Hexadecimal digits are marked at the start. -/
def hexMarked : Text → Bool
  | a :: b :: _ :: _ => a = byte '0' && Text.asciiLower [b] = ("x" : Text)
  | _ => false

/-- What stands behind a mantissa: the exponent, with what it leaves. -/
def tailRead (hex : Bool) (t : Text) : Option (Int × Bool × Text) :=
  match t with
  | b :: rest =>
    if Text.asciiLower [b] = (if hex then ("p" : Text) else "e") then readExponent rest
    else if hex then none else some (0,false,t)
  | [] => if hex then none else some (0,false,[])

theorem floatParts {t body : Text} {negative : Bool} {m : Mantissa} {hex : Bool} (ordinary : special t = none)
    (split : splitSign t = (negative,body)) (marked : hexMarked body = hex)
    (mantissa : readMantissa (if hex then 16 else 10) {} (if hex then body.drop 2 else body) = m) :
    readFloat t =
      if m.digits = 0 then .error .malformed
      else match tailRead hex m.rest with
        | none => .error .malformed
        | some (e,underscore,rest) =>
          if !rest.isEmpty then .error .malformed
          else if (m.underscore || underscore) && !underscoresFit t then .error .malformed
          else if hex then scaledFloat negative m.value 2 (e - 4 * m.afterPoint)
          else scaledFloat negative m.value 10 (e - m.afterPoint) := by
  subst marked mantissa
  rw [readFloat,ordinary]
  dsimp only
  rw [split]
  rfl

theorem markRead {hex : Bool} {b : UInt8} :
    Text.asciiLower [b] = (if hex then ("p" : Text) else "e") ↔
      b = (if hex then byte 'p' else byte 'e') ∨ b = (if hex then byte 'P' else byte 'E') := by
  cases hex with
  | false => exact lowerLetter (c := byte 'e') (by decide)
  | true => exact lowerLetter (c := byte 'p') (by decide)

theorem tailSpelled {hex : Bool} {t : Text} {e : Int} (tail : Tail hex t e) :
    tailRead hex t = some (e,List.contains t (byte '_'),[]) ∧ Stops (if hex then 16 else 10) false t := by
  cases tail with
  | none decimal =>
    subst decimal
    exact ⟨rfl,fun b first => by simp at first⟩
  | @power b t e mark exponent =>
    have letters : b ≠ byte '_' ∧ b ≠ byte '.' ∧ ∀ d, hexValue b = some d → (if hex then 16 else 10) ≤ d := by
      cases hex <;> rcases mark with rfl | rfl <;> decide
    constructor
    · rw [tailRead,if_pos (markRead.mpr mark),exponentRead exponent]
      simp [letters.1.symm]
    · intro c first
      obtain rfl : b = c := Option.some.inj first
      exact ⟨letters.2.2,letters.1,fun _ => letters.2.1⟩

theorem tailSource {hex : Bool} {t : Text} {e : Int} {underscore : Bool}
    (read : tailRead hex t = some (e,underscore,[])) : Tail hex t e := by
  cases t with
  | nil =>
    cases hex with
    | false =>
      obtain ⟨rfl,-⟩ := Prod.mk.inj (Option.some.inj read)
      exact .none rfl
    | true => contradiction
  | cons b t =>
    by_cases marked : Text.asciiLower [b] = (if hex then ("p" : Text) else "e")
    · rw [tailRead,if_pos marked] at read
      exact .power (markRead.mp marked) (exponentSource read)
    · rw [tailRead,if_neg marked] at read
      cases hex <;> simp at read

theorem tailUnderscore {hex : Bool} {t : Text} {e : Int} {underscore : Bool}
    (read : tailRead hex t = some (e,underscore,[])) : underscore = List.contains t (byte '_') := by
  have again := (tailSpelled (tailSource read)).1
  rw [read] at again
  exact (Prod.mk.inj (Prod.mk.inj (Option.some.inj again)).2).1

/-- The bytes of a mantissa. -/
theorem pointedBytes {base places : Nat} {t : Text} {ds : List Nat} (pointed : Pointed base t ds places) :
    t ≠ [] ∧ ∀ b ∈ t, b = byte '_' ∨ b = byte '.' ∨ ∃ d, hexValue b = some d ∧ d < base := by
  have inside {u : Text} {es : List Nat} (digits : Digits base u es) (b : UInt8) (held : b ∈ u) :
      b = byte '_' ∨ b = byte '.' ∨ ∃ d, hexValue b = some d ∧ d < base := by
    induction digits with
    | nil => simp at held
    | @digit _ d _ _ value small _ ih =>
      rcases List.mem_cons.mp held with rfl | behind
      · exact .inr (.inr ⟨d,value,small⟩)
      · exact ih behind
    | underscore _ ih =>
      rcases List.mem_cons.mp held with rfl | behind
      · exact .inl rfl
      · exact ih behind
  cases pointed with
  | whole digits some =>
    refine ⟨?_,inside digits⟩
    rintro rfl
    cases digits
    exact some rfl
  | pointed front back _ =>
    refine ⟨by simp,fun b held => ?_⟩
    rcases List.mem_append.mp held with before | behind
    · exact inside front b before
    · rcases List.mem_cons.mp behind with rfl | behind
      · exact .inr (.inl rfl)
      · exact inside back b behind

theorem pointedSome {base places : Nat} {t : Text} {ds : List Nat} (pointed : Pointed base t ds places) :
    ds ≠ [] := by
  cases pointed with
  | whole _ some => exact some
  | pointed _ _ some => exact some

theorem pointedLead {base places : Nat} {t tail : Text} {ds : List Nat} (pointed : Pointed base t ds places) :
    Unsigned (t ++ tail) := by
  obtain ⟨some,bytes⟩ := pointedBytes pointed
  obtain ⟨b,u,rfl⟩ := List.exists_cons_of_ne_nil some
  intro c first
  obtain rfl : b = c := Option.some.inj first
  have signs : hexValue (byte '-') = none ∧ hexValue (byte '+') = none := by decide
  rcases bytes b List.mem_cons_self with rfl | rfl | ⟨d,value,-⟩
  · decide
  · decide
  · constructor <;> rintro rfl
    · exact nomatch signs.1 ▸ value
    · exact nomatch signs.2 ▸ value

theorem decimalPlain {b : UInt8} (decimal : isDecimal b = true) : Plain b := by
  rw [isDecimal,Bool.and_eq_true,decide_eq_true_eq,decide_eq_true_eq,UInt8.le_iff_toNat_le,
    UInt8.le_iff_toNat_le] at decimal
  have nine : (byte '9').toNat = 57 := by decide
  exact .inl (by omega)

theorem pointedPlain {places : Nat} {t : Text} {ds : List Nat} (pointed : Pointed 10 t ds places) :
    ∀ b ∈ t, Plain b := by
  intro b held
  rcases (pointedBytes pointed).2 b held with rfl | rfl | digit
  · exact .inr rfl
  · exact .inl (by decide)
  · exact decimalPlain (decimalDigit.mpr digit)

theorem unmarked {a b : UInt8} {t : Text} (apart : b ≠ byte 'x' ∧ b ≠ byte 'X') :
    hexMarked (a :: b :: t) = false := by
  cases t with
  | nil => rfl
  | cons c t =>
    have unlike : Text.asciiLower [b] ≠ ("x" : Text) := fun same =>
      ((lowerLetter (c := byte 'x') (by decide)).mp same).elim apart.1 apart.2
    simp [hexMarked,unlike]

theorem plainUnmarked {a b : UInt8} {t : Text} (plain : Plain b) : hexMarked (a :: b :: t) = false := by
  have letters : ¬ Plain (byte 'x') ∧ ¬ Plain (byte 'X') := by
    unfold Plain
    decide
  refine unmarked ⟨?_,?_⟩ <;> rintro rfl
  · exact letters.1 plain
  · exact letters.2 plain

/-- Decimal digits are not taken for hexadecimal ones. -/
theorem decimalMarked {places : Nat} {t tail : Text} {ds : List Nat} {e : Int}
    (pointed : Pointed 10 t ds places) (power : Tail false tail e) : hexMarked (t ++ tail) = false := by
  have plain := pointedPlain pointed
  match t, (pointedBytes pointed).1 with
  | a :: b :: t, _ => exact plainUnmarked (plain b (by simp))
  | [a], _ =>
    cases power with
    | none => rfl
    | power mark exponent => exact unmarked (by rcases mark with rfl | rfl <;> decide)

theorem signUnderscore {sign t : Text} {negative : Bool} (signed : Sign sign negative) :
    byte '_' ∈ sign ++ t ↔ byte '_' ∈ t := by
  have apart : byte '_' ≠ byte '+' ∧ byte '_' ≠ byte '-' := by decide
  cases signed with
  | none => rfl
  | plus => simp [apart.1]
  | minus => simp [apart.2]

theorem hexUnderscore {sign t : Text} {negative : Bool} {x : UInt8} (signed : Sign sign negative)
    (mark : x = byte 'x' ∨ x = byte 'X') : byte '_' ∈ sign ++ byte '0' :: x :: t ↔ byte '_' ∈ t := by
  have apart : byte '_' ≠ byte '0' ∧ byte '_' ≠ x := by rcases mark with rfl | rfl <;> decide
  simp [signUnderscore signed,apart.1,apart.2]

/-- The test that is made of the underscores in two parts of a number. -/
theorem underscoreGuard {t u whole : Text} (parts : byte '_' ∈ whole ↔ byte '_' ∈ t ++ u) :
    ((List.contains t (byte '_') || List.contains u (byte '_')) && !underscoresFit whole) = false ↔
      (byte '_' ∈ whole → underscoresFit whole = true) := by
  rw [parts,List.mem_append]
  cases underscoresFit whole <;> simp

theorem signedOrdinary {sign t : Text} {negative : Bool} (signed : Sign sign negative) (plain : Unsigned t)
    (lead : ∀ b ∈ t.head?, Plain b) : special (sign ++ t) = none := by
  refine specialNone ?_ (splitSigned signed plain ▸ lead)
  cases signed with
  | none => exact lead
  | plus => exact fun b first => Option.some.inj first ▸ .inl (by decide)
  | minus => exact fun b first => Option.some.inj first ▸ .inl (by decide)

/-- What is spelled is read. -/
theorem floatSpelled {t : Text} {l : Literal} (spelled : Spells t l) :
    readFloat t = scaledFloat l.negative l.value l.base l.exponent := by
  cases spelled with
  | @decimal sign t tail negative ds places e signed digits power fit =>
    obtain ⟨read,stops⟩ := tailSpelled power
    obtain ⟨point,mantissa⟩ := pointedRead digits stops
    have plain : Unsigned (t ++ tail) := pointedLead digits
    have lead : ∀ b ∈ (t ++ tail).head?, Plain b := by
      obtain ⟨b,u,rfl⟩ := List.exists_cons_of_ne_nil (pointedBytes digits).1
      exact fun c first => Option.some.inj first ▸ pointedPlain digits b List.mem_cons_self
    rw [floatParts (signedOrdinary signed plain lead) (splitSigned signed plain) (decimalMarked digits power)
      mantissa,if_neg (mt List.length_eq_zero_iff.mp (pointedSome digits))]
    dsimp only
    rw [read]
    dsimp only
    rw [(underscoreGuard (signUnderscore signed)).mpr fit]
    rfl
  | @hexadecimal sign t tail negative ds places e x signed mark digits power fit =>
    obtain ⟨read,stops⟩ := tailSpelled power
    obtain ⟨point,mantissa⟩ := pointedRead digits stops
    have plain : Unsigned (byte '0' :: x :: (t ++ tail)) := decimalUnsigned (by decide)
    have lead : ∀ b ∈ (byte '0' :: x :: (t ++ tail)).head?, Plain b :=
      fun b first => Option.some.inj first ▸ .inl (by decide)
    have marked : hexMarked (byte '0' :: x :: (t ++ tail)) = true := by
      obtain ⟨b,u,rfl⟩ := List.exists_cons_of_ne_nil (pointedBytes digits).1
      have same : Text.asciiLower [x] = ("x" : Text) := (lowerLetter (c := byte 'x') (by decide)).mpr mark
      simp [hexMarked,same]
    rw [floatParts (signedOrdinary signed plain lead) (splitSigned signed plain) marked mantissa,
      if_neg (mt List.length_eq_zero_iff.mp (pointedSome digits))]
    dsimp only
    rw [read]
    dsimp only
    rw [(underscoreGuard (hexUnderscore signed mark)).mpr fit]
    rfl

theorem markedSource {t : Text} (marked : hexMarked t = true) :
    ∃ x, (x = byte 'x' ∨ x = byte 'X') ∧ t = byte '0' :: x :: t.drop 2 := by
  match t, marked with
  | a :: b :: c :: u, marked =>
    rw [hexMarked,Bool.and_eq_true,decide_eq_true_eq,decide_eq_true_eq] at marked
    obtain ⟨rfl,same⟩ := marked
    exact ⟨b,(lowerLetter (c := byte 'x') (by decide)).mp same,rfl⟩

/-- A sign, a mantissa and an exponent make a number, where the underscores are in their places. -/
theorem partsSpell {sign body u rest : Text} {negative : Bool} {ds : List Nat} {places : Nat} {e : Int}
    (signed : Sign sign negative) (parts : (if hexMarked body then body.drop 2 else body) = u ++ rest)
    (digits : Pointed (if hexMarked body then 16 else 10) u ds places) (power : Tail (hexMarked body) rest e)
    (guard : ((List.contains u (byte '_') || List.contains rest (byte '_')) &&
      !underscoresFit (sign ++ body)) = false) : ∃ l, Spells (sign ++ body) l := by
  cases marked : hexMarked body with
  | false =>
    rw [marked] at parts digits power
    obtain rfl : body = u ++ rest := parts
    exact ⟨_,.decimal signed digits power ((underscoreGuard (signUnderscore signed)).mp guard)⟩
  | true =>
    rw [marked] at parts digits power
    obtain ⟨x,mark,start⟩ := markedSource marked
    have whole : body = byte '0' :: x :: (u ++ rest) := (show body.drop 2 = u ++ rest from parts) ▸ start
    subst whole
    exact ⟨_,.hexadecimal signed mark digits power ((underscoreGuard (hexUnderscore signed mark)).mp guard)⟩

/-- A text is the name of a value, spells a number or is malformed. -/
theorem floatSource {t : Text} (ordinary : special t = none) :
    (∃ l, Spells t l) ∨ readFloat t = .error .malformed := by
  obtain ⟨sign,signed,source⟩ := splitSource t
  rcases split : splitSign t with ⟨negative,body⟩
  rw [split] at signed source
  obtain ⟨u,ds,places,point,rest,parts,pointed,mantissa⟩ :=
    mantissaSource (if hexMarked body then 16 else 10) (if hexMarked body then body.drop 2 else body)
  have read := floatParts ordinary split rfl mantissa
  dsimp only at read
  by_cases none : ds.length = 0
  · exact .inr (by rw [read,if_pos none])
  have digits := pointed (mt List.length_eq_zero_iff.mpr none)
  rw [if_neg none] at read
  cases found : tailRead (hexMarked body) rest with
  | none => exact .inr (by rw [read,found])
  | some tail =>
    obtain ⟨e,underscore,left⟩ := tail
    rw [found] at read
    dsimp only at read
    cases left with
    | cons b left => exact .inr (by rw [read]; rfl)
    | nil =>
      obtain rfl := tailUnderscore found
      cases guard : (List.contains u (byte '_') || List.contains rest (byte '_')) && !underscoresFit t with
      | true => exact .inr (by rw [read,guard]; rfl)
      | false =>
        subst source
        exact .inl (partsSpell signed parts digits (tailSource found) guard)

theorem decimalDigits {t : Text} (decimal : ∀ b ∈ t, isDecimal b = true) :
    ∃ ds, Digits 10 t ds ∧ ds.length = t.length ∧ ∀ n, ds.foldl (fun n d => n * 10 + d) n =
      t.foldl (fun n b => 10 * n + (b.toNat - 48)) n := by
  induction t with
  | nil => exact ⟨[],.nil,rfl,fun _ => rfl⟩
  | cons b t ih =>
    obtain ⟨ds,digits,count,value⟩ := ih fun c held => decimal c (List.mem_cons_of_mem b held)
    have first := decimal b List.mem_cons_self
    obtain ⟨d,digit,small⟩ := decimalDigit.mp first
    obtain rfl : b.toNat - 48 = d := by
      rw [hexValue,if_pos first] at digit
      exact Option.some.inj digit
    refine ⟨_ :: ds,.digit digit small digits,by rw [List.length_cons,count,List.length_cons],fun n => ?_⟩
    rw [List.foldl_cons,List.foldl_cons,value,Nat.mul_comm]

/-- Digits with a hyphen behind them are no number. -/
theorem hyphenMalformed {t rest : Text} (some : t ≠ []) (decimal : ∀ b ∈ t, isDecimal b = true) :
    readFloat (t ++ byte '-' :: rest) = .error .malformed := by
  obtain ⟨ds,digits,count,_⟩ := decimalDigits decimal
  obtain ⟨a,u,rfl⟩ := List.exists_cons_of_ne_nil some
  have first := decimal a List.mem_cons_self
  have plain : Unsigned (a :: u ++ byte '-' :: rest) := decimalUnsigned first
  have lead : ∀ b ∈ (a :: u ++ byte '-' :: rest).head?, Plain b := fun b front =>
    Option.some.inj front ▸ decimalPlain first
  have marked : hexMarked (a :: u ++ byte '-' :: rest) = false := by
    cases u with
    | nil => exact plainUnmarked (.inl (by decide))
    | cons b u => exact plainUnmarked (decimalPlain (decimal b (by simp)))
  have stops : Stops 10 false (byte '-' :: rest) := by
    have hyphen : hexValue (byte '-') = none ∧ byte '-' ≠ byte '_' ∧ byte '-' ≠ byte '.' := by decide
    intro b front
    obtain rfl : byte '-' = b := Option.some.inj front
    exact ⟨fun d value => (nomatch hyphen.1 ▸ value),hyphen.2.1,fun _ => hyphen.2.2⟩
  have tail : tailRead false (byte '-' :: rest) = Option.some (0,false,byte '-' :: rest) := by
    have apart : ¬ Text.asciiLower [byte '-'] = ("e" : Text) := by decide
    simp [tailRead,apart]
  have ordinary := signedOrdinary .none plain lead
  have split := splitSigned .none plain
  rw [List.nil_append] at ordinary split
  rw [floatParts ordinary split marked (wholeRead digits stops),if_neg (by rw [count]; simp)]
  dsimp only
  rw [tail]
  rfl

theorem specialInfinite {t : Text} {x : Binary64} (named : special t = some x) :
    x = .nan ∨ ∃ negative, x = .infinite negative := by
  rw [special] at named
  dsimp only at named
  split at named
  · exact .inr ⟨_,(Option.some.inj named).symm⟩
  · split at named
    · exact .inl (Option.some.inj named).symm
    · contradiction

/-! ### The nearest number -/

theorem scaledSize {value base : Nat} {e : Int} (wide : 2 ≤ base) (some : 0 < value) :
    (base : ℚ) ^ ((Nat.toDigits base value).length + e - 1) ≤ value * base ^ e ∧
      (value : ℚ) * base ^ e < base ^ ((Nat.toDigits base value).length + e) := by
  have unit : (base : ℚ) ≠ 0 := by exact_mod_cast (by omega : base ≠ 0)
  have scale : (0 : ℚ) < base ^ e := by positivity
  generalize count : (Nat.toDigits base value).length = k
  have positive : 0 < k := count ▸ Nat.length_toDigits_pos
  have most : value < base ^ k := (Nat.length_toDigits_le_iff (by omega) positive).mp count.le
  have least : base ^ (k - 1) ≤ value := by
    rcases Nat.lt_or_ge 1 k with more | few
    · by_contra less
      have fewer := (Nat.length_toDigits_le_iff (by omega) (by omega)).mpr (Nat.not_le.mp less)
      omega
    · rw [Nat.sub_eq_zero_of_le few,pow_zero]
      exact some
  constructor
  · rw [show (k : Int) + e - 1 = (k - 1 : Nat) + e by omega,zpow_add₀ unit,zpow_natCast]
    exact mul_le_mul_of_nonneg_right (by exact_mod_cast least) scale.le
  · rw [zpow_add₀ unit,zpow_natCast]
    exact mul_lt_mul_of_pos_right (by exact_mod_cast most) scale

theorem scaledQuotient (value : Nat) {base : Nat} (e : Int) (wide : 2 ≤ base) :
    ∃ num den : Nat, 0 < den ∧ (num / den : ℚ) = value * base ^ e ∧ ∀ negative,
      (if 0 ≤ e then Binary64.ofRatio negative (value * Nat.pow base e.toNat) 1
        else Binary64.ofRatio negative value (Nat.pow base (-e).toNat)) =
      Binary64.ofRatio negative num den := by
  have unit : (base : ℚ) ≠ 0 := by exact_mod_cast (by omega : base ≠ 0)
  have power {f : Int} (positive : 0 ≤ f) : ((Nat.pow base f.toNat : Nat) : ℚ) = base ^ f := by
    rw [← Int.toNat_of_nonneg positive,zpow_natCast,Int.toNat_natCast]
    exact Nat.cast_pow base _
  rcases Int.lt_or_le e 0 with negative | positive
  · refine ⟨value,Nat.pow base (-e).toNat,Nat.pow_pos (by omega),?_,fun _ => if_neg (by omega)⟩
    rw [power (by omega),zpow_neg,div_inv_eq_mul]
  · refine ⟨value * Nat.pow base e.toNat,1,by omega,?_,fun _ => if_pos positive⟩
    rw [Nat.cast_mul,power positive,Nat.cast_one,div_one]

/-- What is read where a number is denoted: the nearest one of the format, unless the number is too large. -/
structure ReadAs (q : ℚ) (read : Except Problem Binary64) : Prop where
  inside : |q| < overflow → ∃ x y, read = .ok x ∧ Worth x y ∧ Nearest q y ∧
    |q - y| ≤ max (|q| / 2 ^ 53) (2 ^ (-1075 : Int))
  beyond : overflow ≤ |q| → read = .error .outOfRange

/-- A number too small to count is read as nothing. -/
theorem ReadAs.nothing {q : ℚ} (small : |q| ≤ 2 ^ (-1075 : Int)) (negative : Bool) :
    ReadAs q (.ok (.zero negative)) := by
  refine ⟨fun _ => ⟨_,0,rfl,Binary64.zeroWorth negative,Binary64.zeroNearest small⟩,fun beyond => ?_⟩
  have power : (2 : ℚ) ^ (-1075 : Int) < 2 ^ (1023 : Int) := zpow_lt_zpow_right₀ (by norm_num) (by norm_num)
  exact absurd (beyond.trans small) (not_le.mpr (power.trans_le overflowBetween.1))

theorem ReadAs.tooLarge {q : ℚ} (large : overflow ≤ |q|) : ReadAs q (.error .outOfRange) :=
  ⟨fun inside => absurd large (not_le.mpr inside),fun _ => rfl⟩

theorem ReadAs.rounded {q : ℚ} {x : Binary64} {read : Except Problem Binary64} (rounds : Binary64.Rounds q x)
    (finite : ∀ negative m e, x = .finite negative m e → read = .ok x)
    (infinite : ∀ negative, x = .infinite negative → read = .error .outOfRange) : ReadAs q read := by
  constructor
  · intro inside
    obtain ⟨y,worth,nearest,close⟩ := rounds.inside inside
    cases worth
    exact ⟨_,_,finite _ _ _ rfl,.finite ‹_› ‹_› ‹_›,nearest,close⟩
  · intro beyond
    obtain ⟨sign,shape⟩ := rounds.beyond beyond
    exact infinite sign shape

/-- A number `± value * base ^ exponent` is read as the nearest one of the format, unless it is too large. -/
theorem scaledRounds {l : Literal} (wide : 2 ≤ l.base) :
    ReadAs l.amount (scaledFloat l.negative l.value l.base l.exponent) := by
  obtain ⟨negative,value,base,e⟩ := l
  dsimp only at wide ⊢
  have two : (2 : ℚ) ≤ base := by exact_mod_cast wide
  have size : |Literal.amount ⟨negative,value,base,e⟩| = value * base ^ e := by
    have positive : (0 : ℚ) ≤ value * base ^ e := by positivity
    cases negative <;> simp [Literal.amount,abs_of_nonneg positive]
  rw [scaledFloat]
  split
  · rename_i none
    refine .nothing ?_ negative
    rw [size,none,Nat.cast_zero,zero_mul]
    positivity
  obtain ⟨low,high⟩ := scaledSize (e := e) wide (Nat.pos_of_ne_zero ‹_›)
  rw [← size] at low high
  dsimp only
  split
  · refine .tooLarge ((overflowBetween.2.1.le.trans ?_).trans low)
    refine (zpow_le_zpow_right₀ (by norm_num) ?_).trans (zpow_le_zpow_left₀ ?_ (by norm_num) two) <;> omega
  split
  · have steps : (base : ℚ) ^ (-1075 : Int) ≤ 2 ^ (-1075 : Int) := by
      rw [zpow_neg,zpow_neg]
      exact inv_anti₀ (by positivity) (zpow_le_zpow_left₀ (by omega) (by norm_num) two)
    refine .nothing ((high.le.trans (zpow_le_zpow_right₀ ?_ (by omega))).trans steps) negative
    linarith
  · obtain ⟨num,den,positive,ratio,same⟩ := scaledQuotient value e wide
    have rounds := Binary64.ofRatioRounds negative num positive
    rw [ratio] at rounds
    rw [same]
    exact .rounded rounds (fun _ _ _ shape => by rw [shape]) fun _ shape => by rw [shape]

/-- What is read of a text that spells a number. -/
theorem floatRounds {t : Text} {l : Literal} (spelled : Spells t l) : ReadAs l.amount (readFloat t) := by
  have wide : 2 ≤ l.base := by cases spelled <;> simp
  rw [floatSpelled spelled]
  exact scaledRounds wide

/-! ### Integers -/

/-- A sign and decimal digits, and the integer that they denote. -/
inductive Integral : Text → Text → Int → Prop where
  | spelled {sign digits : Text} {negative : Bool} (signed : Sign sign negative) (some : digits ≠ [])
      (decimal : ∀ b ∈ digits, isDecimal b = true) :
      Integral sign digits (if negative then -(Text.digitsValue digits : Int) else Text.digitsValue digits)

theorem integerRead {sign digits : Text} {n : Int} (integral : Integral sign digits n) :
    readInt (sign ++ digits) = if Int64Range.fits n then .ok n else .error .outOfRange := by
  obtain ⟨signed,some,decimal⟩ := integral
  obtain ⟨b,rest,rfl⟩ := List.exists_cons_of_ne_nil some
  have all : Text.someAll isDecimal (b :: rest) = true := by
    rw [Text.someAll,List.isEmpty_cons,Bool.not_false,Bool.true_and]
    exact List.all_eq_true.mpr decimal
  rw [readInt,splitSigned signed (decimalUnsigned (decimal b List.mem_cons_self))]
  dsimp only
  rw [if_neg (by simp [all])]

theorem integerSource {t : Text} {n : Int} (read : readInt t = .ok n) :
    ∃ sign digits, t = sign ++ digits ∧ Integral sign digits n ∧ Int64Range.fits n = true := by
  obtain ⟨sign,signed,source⟩ := splitSource t
  rw [readInt] at read
  rcases split : splitSign t with ⟨negative,digits⟩
  rw [split] at signed source read
  dsimp only at signed source read
  split at read
  · contradiction
  · rename_i all
    rw [Bool.not_eq_true,Bool.not_eq_false',Text.someAll,Bool.and_eq_true,Bool.not_eq_true',
      List.isEmpty_eq_false_iff] at all
    have integral := Integral.spelled signed all.1 (List.all_eq_true.mp all.2)
    generalize (if negative then -(Text.digitsValue digits : Int) else Text.digitsValue digits) = v
      at read integral
    split at read
    · cases read
      exact ⟨sign,digits,source,integral,‹_›⟩
    · contradiction

/-- An integer is a number with nothing behind a point. -/
theorem integerSpells {sign digits : Text} {n : Int} (integral : Integral sign digits n) :
    ∃ l, Spells (sign ++ digits) l ∧ l.amount = n := by
  obtain @⟨negative,signed,some,decimal⟩ := integral
  obtain ⟨ds,read,count,value⟩ := decimalDigits decimal
  have other : byte '_' ∉ sign ++ (digits ++ []) := by
    rw [signUnderscore signed,List.append_nil]
    exact fun held => absurd (decimal _ held) (by decide)
  have filled : ds ≠ [] := fun none => some (List.length_eq_zero_iff.mp (by rw [← count,none]; rfl))
  have spelled := Spells.decimal signed (.whole read filled) (.none rfl) fun held => absurd held other
  rw [List.append_nil] at spelled
  refine ⟨_,spelled,?_⟩
  have same : valueOf 10 ds = Text.digitsValue digits := value 0
  cases negative <;> simp [Literal.amount,same]

theorem integerOrdinary {t : Text} {n : Int} (read : readInt t = .ok n) : special t = none := by
  obtain ⟨sign,digits,rfl,⟨signed,some,decimal⟩,_⟩ := integerSource read
  obtain ⟨b,rest,rfl⟩ := List.exists_cons_of_ne_nil some
  have first := decimal b List.mem_cons_self
  exact signedOrdinary signed (decimalUnsigned first) fun c front =>
    Option.some.inj front ▸ decimalPlain first

end LogSql.Number
