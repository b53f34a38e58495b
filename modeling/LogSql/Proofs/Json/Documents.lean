import Mathlib.Data.List.Forall2
import LogSql.Json.Reader
import LogSql.Json.Writer
import LogSql.Proofs.Text.Quoting
import LogSql.Proofs.Text.Strings
import LogSql.Proofs.Time.Moments

/-! Documents that are written and read. Every character of a string is written by itself or as an escape, and
it is read back whatever follows it; a byte that belongs to no character comes back as the replacement
character. Strings, integers and objects of them are found again at the start of any text, and an integer up to
the size of the mantissa is read from its digits as the number that it is. -/
namespace LogSql

/-- The text with the replacement character in the place of each byte that belongs to no character. -/
def Text.cleaned (t : Text) : Text := Text.ofChars (Text.chars t)

theorem Text.cleanedFilled {t : Text} (filled : t ≠ []) : Text.cleaned t ≠ [] := by
  obtain ⟨b,t,rfl⟩ := List.exists_cons_of_ne_nil filled
  rw [Text.cleaned,Text.chars,Text.glyphs,Text.glyphsStep,List.map_cons,Text.ofChars,List.flatMap_cons]
  exact List.append_ne_nil_of_left_ne_nil String.utf8EncodeChar_ne_nil _

/-! ### Integers -/

namespace Number

open Text (byte)
open Binary64 (whole overflow integerWorth nearestExact)

theorem decimalIntegral (n : Int) :
    ∃ sign digits, Text.ofInt n = sign ++ digits ∧ Integral sign digits n := by
  obtain ⟨filled,decimal,value⟩ := Compile.natDigits n.natAbs
  have spelled {sign : Text} {negative : Bool} (signed : Sign sign negative) :=
    Integral.spelled signed filled (List.all_eq_true.mp decimal)
  rw [value] at spelled
  rw [Text.ofInt]
  split
  · refine ⟨[byte '-'],_,rfl,?_⟩
    have integral := spelled .minus
    rwa [if_pos rfl,show -(n.natAbs : Int) = n by omega] at integral
  · refine ⟨[],_,rfl,?_⟩
    have integral := spelled .none
    rwa [if_neg (by simp),show (n.natAbs : Int) = n by omega] at integral

/-- An integer up to the size of the mantissa is read as it is written. -/
theorem integerExact {n : Int} (small : n.natAbs ≤ 2 ^ 53) :
    ∃ x, readFloat (Text.ofInt n) = .ok x ∧ x.toInt64 = n := by
  obtain ⟨sign,digits,source,integral⟩ := decimalIntegral n
  obtain ⟨l,spelled,amount⟩ := integerSpells integral
  have reads := floatRounds spelled
  rw [amount,← source] at reads
  have size : |(n : ℚ)| ≤ 2 ^ 53 := by
    rw [← Int.cast_abs,Int.abs_eq_natAbs]
    exact_mod_cast small
  have inside : |(n : ℚ)| < overflow := (size.trans_lt (by norm_num)).trans Moment.limitBelow
  obtain ⟨x,y,read,worth,nearest,_⟩ := reads.inside inside
  obtain ⟨w,own⟩ := integerWorth small
  obtain rfl := nearestExact nearest own
  have whole : whole (n : ℚ) = n := by simp [whole]
  have fits : Int64Range.fits n = true := by
    rw [Int64Range.fitsRange,Int64Range.least,Int64Range.greatest]
    omega
  exact ⟨x,read,by rw [Moment.wholeRead worth,whole,if_pos fits]⟩

end Number

namespace Json

open Text (byte Encoded glyphs cleaned hexFixed)

/-! ### Strings -/

/-- Bytes of a string that stand for a text, whatever follows them. -/
structure Stands (w value : Text) : Prop where
  raw : ∀ t, rawString (w ++ t) = (rawString t).map fun r => (w ++ r.1, r.2)
  read : ∀ t, decodeFrom 0 (w ++ t) = (decodeFrom 0 t).map (value ++ ·)

theorem Stands.nil : Stands [] [] := by
  constructor <;> intro t <;> simp

theorem Stands.append {w w' value value' : Text} (first : Stands w value) (second : Stands w' value') :
    Stands (w ++ w') (value ++ value') := by
  constructor <;> intro t
  · rw [List.append_assoc,first.raw,second.raw,Option.map_map]
    simp [Function.comp_def]
  · rw [List.append_assoc,first.read,second.read,Option.map_map]
    simp [Function.comp_def]

/-- A byte that neither ends a string nor starts an escape. -/
def isInside (b : UInt8) : Bool := 0x20 ≤ b && b ≠ byte '"' && b ≠ byte '\\'

theorem insideByte {b : UInt8} : isInside b = true ↔ 0x20 ≤ b ∧ b ≠ byte '"' ∧ b ≠ byte '\\' := by
  simp only [isInside,Bool.and_eq_true,decide_eq_true_eq,and_assoc]

theorem insideRaw {w : Text} (inside : ∀ b ∈ w, isInside b = true) (t : Text) :
    rawString (w ++ t) = (rawString t).map fun r => (w ++ r.1, r.2) := by
  induction w with
  | nil => simp
  | cons b w ih =>
    obtain ⟨first,others⟩ := List.forall_mem_cons.mp inside
    obtain ⟨low,quote,slash⟩ := insideByte.mp first
    rw [List.cons_append,rawString.eq_def]
    dsimp only
    rw [if_neg quote,if_neg (UInt8.not_lt.mpr low),if_neg slash,ih others,Option.map_map]
    rfl

/-- An escape goes on behind its sign. -/
theorem escapeRaw {sign : UInt8} {w : Text} (low : 0x20 ≤ sign) (inside : ∀ b ∈ w, isInside b = true)
    (t : Text) : rawString (byte '\\' :: sign :: (w ++ t)) =
      (rawString t).map fun r => (byte '\\' :: sign :: (w ++ r.1), r.2) := by
  rw [rawString.eq_def]
  dsimp only
  rw [if_neg (by decide),if_neg (by decide),if_pos rfl,if_neg (UInt8.not_lt.mpr low),insideRaw inside,
    Option.map_map]
  rfl

theorem decodeFromDrop (skip : Nat) (t : Text) : decodeFrom skip t = decodeFrom 0 (t.drop skip) := by
  induction t generalizing skip with
  | nil => cases skip <;> rfl
  | cons b t ih =>
    cases skip with
    | zero => rfl
    | succ skip => exact ih skip

/-- One character of a string is read, and then what follows it. -/
theorem decodeStep {b : UInt8} {bs value more : Text}
    (reads : unescape (b :: (bs ++ more)) = some (value, bs.length + 1)) :
    decodeFrom 0 (b :: (bs ++ more)) = (decodeFrom 0 more).map (value ++ ·) := by
  rw [decodeFrom,reads]
  simp only [Option.bind_eq_bind,Option.bind_some]
  rw [Nat.add_sub_cancel,decodeFromDrop,List.drop_left]
  cases decodeFrom 0 more <;> rfl

/-! ### Characters -/

theorem letterStands {sign : UInt8} {value : Text} (low : 0x20 ≤ sign)
    (reads : ∀ more, unescape (byte '\\' :: sign :: more) = some (value, 2)) :
    Stands [byte '\\',sign] value :=
  ⟨escapeRaw low (by simp),fun t => @decodeStep _ [sign] _ _ (reads t)⟩

theorem hexInside (b : UInt8) : (Text.hexValue b).isSome = true → isInside b = true :=
  @Text.everyByte (fun b => (Text.hexValue b).isSome = true → isInside b = true) (by decide +kernel) b

/-- A code unit in four digits is that of the character, unless it is half of a pair. -/
theorem unitStands {n : Nat} (fits : n < 16 ^ 4) (scalar : isSurrogate n = false) :
    Stands (byte '\\' :: byte 'u' :: hexFixed 4 n) (Text.ofChar (Char.ofNat n)) := by
  have number := Text.hexFixedNumber fits
  have length := Text.hexFixedLength 4 n
  have digits := (Text.hexDigits number).2
  generalize hexFixed 4 n = ds at number length digits
  have inside : ∀ b ∈ ds, isInside b = true := fun b held => hexInside b (digits b held)
  refine ⟨escapeRaw (by decide) inside,fun t => decodeStep ?_⟩
  match ds with
  | [a, b, c, d] =>
    have value {x : UInt8} (held : x ∈ [a, b, c, d]) := Option.isSome_iff_exists.mp (digits x held)
    obtain ⟨i,first⟩ := @value a (by simp)
    obtain ⟨j,second⟩ := @value b (by simp)
    obtain ⟨k,third⟩ := @value c (by simp)
    obtain ⟨l,fourth⟩ := @value d (by simp)
    have unit : codeUnit (byte '\\' :: byte 'u' :: a :: b :: c :: d :: t) = some n := by
      rw [← number]
      simp [codeUnit,Text.hexNumber,first,second,third,fourth]
      omega
    rw [unescape.eq_def]
    simp +decide [unit,scalar]

theorem charStands {c : Char} {b : UInt8} {bs : Text}
    (first : ∀ more, Text.firstChar b (bs ++ more) = (c, bs.length + 1))
    (inside : ∀ x ∈ b :: bs, isInside x = true) : Stands (b :: bs) (Text.ofChar c) := by
  obtain ⟨_,_,slash⟩ := insideByte.mp (inside b List.mem_cons_self)
  refine ⟨insideRaw inside,fun t => decodeStep ?_⟩
  rw [unescape.eq_def]
  dsimp only
  rw [if_neg slash,first]

/-- The bytes of a character that is neither a control nor a sign of strings go through a string. -/
theorem plainInside {c : Char} (ink : 0x20 ≤ c.toNat) (quote : c.toNat ≠ 0x22) (slash : c.toNat ≠ 0x5C) :
    ∀ x ∈ Text.ofChar c, isInside x = true := by
  intro x held
  rcases Nat.lt_or_ge c.toNat 128 with small | wide
  · rw [Text.encodingAscii small,List.mem_singleton] at held
    have code := Text.byteValue small
    have other {y : UInt8} (apart : c.toNat ≠ y.toNat) : x ≠ y := by
      rintro rfl
      exact apart (by rw [held,code])
    have low : 0x20 ≤ x := UInt8.le_iff_toNat_le.mpr (by rw [held,code]; exact ink)
    exact insideByte.mpr ⟨low,other quote,other slash⟩
  · have high := Text.encodingHigh wide x held
    have other {y : UInt8} (small : y < 0x80) : x ≠ y := by
      rintro rfl
      exact absurd high (UInt8.not_le.mpr small)
    exact insideByte.mpr ⟨UInt8.le_trans (by decide) high,other (by decide),other (by decide)⟩

theorem glyphStands {g : Glyph} (encoded : Encoded g) : Stands (escapeGlyph g) (Text.ofChar g.char) := by
  have letter {sign x : UInt8} (code : g.char.toNat = x.toNat) (small : x < 0x80) (low : 0x20 ≤ sign)
      (reads : ∀ more, unescape (byte '\\' :: sign :: more) = some ([x], 2)) :
      Stands [byte '\\',sign] (Text.ofChar g.char) := by
    have same : x = byte g.char := Text.byteOfChar (by rw [← code,Char.ofNat_toNat])
    rw [Text.encodingAscii (code ▸ small),← same]
    exact letterStands low reads
  fun_cases escapeGlyph g with
  | case1 => exact @letter (byte '"') (byte '"') (by assumption) (by decide) (by decide) fun _ => rfl
  | case2 => exact @letter (byte '\\') (byte '\\') (by assumption) (by decide) (by decide) fun _ => rfl
  | case3 => exact @letter (byte 'b') 8 (by assumption) (by decide) (by decide) fun _ => rfl
  | case4 => exact @letter (byte 't') 9 (by assumption) (by decide) (by decide) fun _ => rfl
  | case5 => exact @letter (byte 'n') 10 (by assumption) (by decide) (by decide) fun _ => rfl
  | case6 => exact @letter (byte 'f') 12 (by assumption) (by decide) (by decide) fun _ => rfl
  | case7 => exact @letter (byte 'r') 13 (by assumption) (by decide) (by decide) fun _ => rfl
  | case8 =>
    rename_i marked
    have scalar : isSurrogate g.char.toNat = false := by
      simp only [isSurrogate,Bool.and_eq_false_iff,decide_eq_false_iff_not]
      omega
    have stands := unitStands (n := g.char.toNat) (by omega) scalar
    rwa [Char.ofNat_toNat] at stands
  | case9 =>
    rename_i stray _ _ _ _ _ _ _ _
    rw [stray.1]
    exact unitStands (n := 0xFFFD) (by decide) (by decide)
  | case10 =>
    rename_i known quote slash _ _ _ _ _ unmarked
    cases encoded with
    | stray high => exact absurd ⟨rfl,rfl⟩ known
    | char bytes first =>
      refine charStands first ?_
      rw [← bytes]
      exact plainInside (Nat.not_lt.mp fun low => unmarked (.inl low)) quote slash

theorem stringStands (t : Text) : Stands ((glyphs t).flatMap escapeGlyph) (cleaned t) := by
  have each {gs : List Glyph} (encoded : ∀ g ∈ gs, Encoded g) :
      Stands (gs.flatMap escapeGlyph) (Text.ofChars (gs.map (·.char))) := by
    induction gs with
    | nil => exact .nil
    | cons g gs ih =>
      obtain ⟨first,others⟩ := List.forall_mem_cons.mp encoded
      exact (glyphStands first).append (ih others)
  exact each (Text.glyphsFromEncoded 0 t)

theorem stringRead (t rest : Text) :
    readString ((glyphs t).flatMap escapeGlyph ++ byte '"' :: rest) = some (cleaned t, rest) := by
  have ends : rawString (byte '"' :: rest) = some ([], rest) := by
    rw [rawString.eq_def]
    exact if_pos rfl
  have whole := (stringStands t).read []
  rw [List.append_nil] at whole
  rw [readString,(stringStands t).raw,ends]
  simp [whole,decodeFrom]

theorem stringShape (t : Text) :
    stringText t = byte '"' :: ((glyphs t).flatMap escapeGlyph ++ [byte '"']) := by
  simp only [stringText,Text.concat,List.flatten_cons,List.flatten_nil,List.append_nil]
  rfl

/-! ### Values -/

/-- A byte that can go on with a number. -/
def goesOn (b : UInt8) : Bool :=
  Text.isDecimal b || b = byte '.' || b = byte 'e' || b = byte 'E'

theorem goesOnNot {b : UInt8} : goesOn b = false ↔
    Text.isDecimal b = false ∧ b ≠ byte '.' ∧ b ≠ byte 'e' ∧ b ≠ byte 'E' := by
  simp only [goesOn,Bool.or_eq_false_iff,decide_eq_false_iff_not,and_assoc]

/-- A document is read as another one wherever it stands, up to a depth of nesting. -/
structure ReadAs (depth : Nat) (v w : Json) : Prop where
  front : ∃ b t, v.text = b :: t ∧ isBlank b = false
  reads : ∀ rest, (∀ b ∈ rest.head?, goesOn b = false) →
    readValue depth (v.text ++ rest) = some (w, rest)

theorem stringValue (depth : Nat) (t : Text) : ReadAs (depth + 1) (.string t) (.string (cleaned t)) := by
  refine ⟨⟨_,_,stringShape t,by decide⟩,fun rest _ => ?_⟩
  rw [text,stringShape,List.cons_append,List.append_assoc,readValue.eq_def]
  dsimp only
  rw [if_pos rfl]
  exact congrArg (Option.map _) (stringRead t rest)

/-- A natural number starts with a zero only when it is zero. -/
theorem natLead {n : Nat} {ds : Text} (lead : Text.ofNat n = byte '0' :: ds) : n = 0 := by
  induction n using Nat.strongRecOn generalizing ds with
  | ind n ih =>
    rcases Nat.lt_or_ge n 10 with small | wide
    · rw [Text.ofNat,Nat.toDigits_of_lt_base small] at lead
      have each : ∀ k : Fin 10, byte (Nat.digitChar k) = byte '0' → k.val = 0 := by decide
      exact each ⟨n,small⟩ (List.cons.inj lead).1
    · obtain ⟨d,front,shape⟩ := List.exists_cons_of_ne_nil (Compile.natDigits (n / 10)).1
      rw [Text.ofNat] at shape
      rw [Text.ofNat,Nat.toDigits_of_base_le (by decide) wide,List.map_append,shape] at lead
      rw [(List.cons.inj lead).1] at shape
      have less := ih (n / 10) (by omega) shape
      omega

section Numbers

variable {rest : Text} (apart : ∀ b ∈ rest.head?, goesOn b = false)

include apart

/-- Digits are taken up to what follows them; a zero is taken alone. -/
theorem natRun {α : Type} (n : Nat) (next : Nat → Option α) :
    (if (Text.ofNat n ++ rest).head? = some (byte '0') then next 1
      else (digitRun (Text.ofNat n ++ rest)).bind next) = next (Text.ofNat n).length := by
  obtain ⟨filled,decimal,_⟩ := Compile.natDigits n
  obtain ⟨d,ds,shape⟩ := List.exists_cons_of_ne_nil filled
  split
  · rename_i lead
    rw [shape,List.cons_append,List.head?_cons,Option.some.injEq] at lead
    obtain rfl := natLead (lead ▸ shape)
    rfl
  · have stops : rest.takeWhile Text.isDecimal = [] := by
      cases rest with
      | nil => rfl
      | cons b rest =>
        exact List.takeWhile_cons_of_neg (by simp [(goesOnNot.mp (apart b rfl)).1])
    have some : (Text.ofNat n).length ≠ 0 := by simpa using filled
    rw [digitRun,List.takeWhile_append_of_pos (List.all_eq_true.mp decimal),stops,List.append_nil]
    exact congrArg (Option.bind · next) (if_neg some)

theorem signedLength {t : Text} {sign n : Nat}
    (signed : (if t.head? = some (byte '-') then 1 else 0) = sign)
    (body : t.drop sign = Text.ofNat n ++ rest) : numberLength t = some (sign + (Text.ofNat n).length) := by
  have past : (Text.ofNat n ++ rest).drop (Text.ofNat n).length = rest := List.drop_left
  rw [numberLength]
  simp only [signed,body,Option.bind_eq_bind,Option.bind_some]
  refine (natRun apart n _).trans ?_
  rw [past]
  cases rest with
  | nil => rfl
  | cons b rest =>
    obtain ⟨_,point,small,capital⟩ := goesOnNot.mp (apart b rfl)
    simp [point,small,capital]

theorem intLength (n : Int) : numberLength (Text.ofInt n ++ rest) = some (Text.ofInt n).length := by
  obtain ⟨filled,decimal,_⟩ := Compile.natDigits n.natAbs
  rw [Text.ofInt]
  split
  · rw [List.length_cons,Nat.add_comm]
    exact signedLength apart (if_pos rfl) rfl
  · obtain ⟨d,ds,shape⟩ := List.exists_cons_of_ne_nil filled
    have digit : d ≠ byte '-' := by
      rintro rfl
      rw [shape] at decimal
      exact absurd decimal (by simp +decide)
    have signed : (if (Text.ofNat n.natAbs ++ rest).head? = some (byte '-') then 1 else 0) = 0 := by
      rw [shape]
      simp [digit]
    have length := signedLength apart signed rfl
    rwa [Nat.zero_add] at length

end Numbers

/-- The first byte of a number starts no other value. -/
theorem numberFront (b : UInt8) : b = byte '-' ∨ Text.isDecimal b = true → isBlank b = false ∧
    b ≠ byte '"' ∧ b ≠ byte '[' ∧ b ≠ byte '\x7b' ∧ b ∉ [byte 't', byte 'f', byte 'n'] :=
  @Text.everyByte (fun b => b = byte '-' ∨ Text.isDecimal b = true → isBlank b = false ∧
    b ≠ byte '"' ∧ b ≠ byte '[' ∧ b ≠ byte '\x7b' ∧ b ∉ [byte 't', byte 'f', byte 'n'])
    (by decide +kernel) b

theorem intFront (n : Int) : ∃ b t, Text.ofInt n = b :: t ∧ (b = byte '-' ∨ Text.isDecimal b = true) := by
  obtain ⟨filled,decimal,_⟩ := Compile.natDigits n.natAbs
  obtain ⟨d,ds,shape⟩ := List.exists_cons_of_ne_nil filled
  rw [Text.ofInt]
  split
  · exact ⟨_,_,rfl,.inl rfl⟩
  · rw [shape] at decimal ⊢
    exact ⟨d,ds,rfl,.inr (List.all_eq_true.mp decimal d List.mem_cons_self)⟩

theorem intValue (depth : Nat) (n : Int) : ReadAs (depth + 1) (.int n) (.int n) := by
  obtain ⟨b,t,shape,lead⟩ := intFront n
  obtain ⟨ink,quote,items,members,words⟩ := numberFront b lead
  have other (word rest : Text) (starts : ∃ c ∈ [byte 't', byte 'f', byte 'n'], word.head? = some c) :
      Text.stripStart word (Text.ofInt n ++ rest) = none := by
    obtain ⟨c,held,lead⟩ := starts
    obtain ⟨word,rfl⟩ := List.head?_eq_some_iff.mp lead
    have apart : c ≠ b := fun same => words (same ▸ held)
    rw [shape]
    simp [Text.stripStart,List.isPrefixOf,apart]
  refine ⟨⟨b,t,shape,ink⟩,fun rest apart => ?_⟩
  have length := intLength apart n
  rw [readValue.eq_def]
  dsimp only [int,text]
  split
  · rename_i none
    simp [shape] at none
  · rename_i c more whole
    obtain rfl : b = c := by
      rw [shape] at whole
      exact (List.cons.inj whole).1
    rw [if_neg quote,if_neg items,if_neg members,other "true" rest (by decide),
      other "false" rest (by decide),other "null" rest (by decide),length]
    simp

/-! ### Objects -/

theorem blanksNone {b : UInt8} (ink : isBlank b = false) (t : Text) : skipBlanks (b :: t) = b :: t :=
  List.dropWhile_cons_of_neg (by simp [ink])

/-- Members are read as others, whose names have lost the bytes that belong to no character. -/
def MembersAs (depth : Nat) : List (Text × Json) → List (Text × Json) → Prop :=
  List.Forall₂ fun m m' => m'.1 = cleaned m.1 ∧ ReadAs depth m.2 m'.2

variable {depth : Nat}

theorem memberRead {v w : Json} (value : ReadAs depth v w) (fuel : Nat) (name : Text) {b : UInt8}
    (ends : b = byte ',' ∨ b = byte '\x7d') (rest : Text) :
    readMembers (readValue depth) (fuel + 1) (.concat [stringText name, ":", text v] ++ b :: rest) =
      if b = byte ',' then (readMembers (readValue depth) fuel rest).map fun r =>
        ((cleaned name,w) :: r.1, r.2)
      else some ([(cleaned name,w)],rest) := by
  have last : isBlank b = false ∧ goesOn b = false := by
    rcases ends with rfl | rfl <;> decide
  obtain ⟨c,t,front,ink⟩ := value.front
  have reads := value.reads (b :: rest) (by rintro _ ⟨⟩; exact last.2)
  have shape : Text.concat [stringText name, ":", text v] ++ b :: rest =
      byte '"' :: ((glyphs name).flatMap escapeGlyph ++ byte '"' :: byte ':' :: (text v ++ b :: rest)) := by
    have mark : Text.ofString ":" = [byte ':'] := by decide
    simp [Text.concat,stringShape,mark]
  have colon : isBlank (byte ':') = false := by decide
  rw [shape,readMembers.eq_def]
  dsimp only
  rw [blanksNone (by decide)]
  dsimp only
  rw [if_neg (by simp),stringRead]
  simp only [Option.bind_eq_bind,Option.bind_some]
  rw [blanksNone colon]
  dsimp only
  rw [if_neg (by simp)]
  have skipped : skipBlanks (text v ++ b :: rest) = text v ++ b :: rest := by
    rw [front]
    exact blanksNone ink _
  simp only [skipped,reads,Option.bind_some,blanksNone last.1]
  rcases ends with rfl | rfl
  · simp only [if_pos]
    cases readMembers (readValue depth) fuel rest <;> rfl
  · simp +decide

theorem joinMembers (name : Text) (v : Json) (m : Text × Json) (ms : List (Text × Json)) :
    Text.join "," (memberTexts ((name,v) :: m :: ms)) =
      .concat [stringText name, ":", text v] ++ byte ',' :: Text.join "," (memberTexts (m :: ms)) := by
  have more : memberTexts (m :: ms) ≠ [] := by simp [memberTexts]
  rw [memberTexts,Text.joinCons _ _ more,List.append_assoc]
  rfl

theorem membersRead {ms ws : List (Text × Json)} (members : MembersAs depth ms ws) (filled : ms ≠ [])
    {fuel : Nat} (room : ms.length ≤ fuel) (rest : Text) :
    readMembers (readValue depth) fuel (Text.join "," (memberTexts ms) ++ byte '\x7d' :: rest) =
      some (ws, rest) := by
  induction members generalizing fuel with
  | nil => contradiction
  | @cons m w ms ws head tail ih =>
    obtain ⟨fuel,rfl⟩ := Nat.exists_eq_add_of_le' (Nat.le_of_add_left_le room)
    obtain ⟨name,v⟩ := m
    obtain ⟨_,w⟩ := w
    obtain ⟨rfl,value⟩ := head
    cases tail with
    | nil =>
      have read := memberRead value fuel name (.inr rfl) rest
      rw [if_neg (by decide)] at read
      exact read
    | @cons m' w' ms ws next later =>
      rw [joinMembers,List.append_assoc,List.cons_append,memberRead value fuel name (.inl rfl),if_pos rfl,
        ih (List.cons_ne_nil _ _) (Nat.le_of_succ_le_succ room)]
      rfl

/-- There is a comma between each two members. -/
theorem membersLength (ms : List (Text × Json)) :
    ms.length ≤ (Text.join "," (memberTexts ms)).length + 1 := by
  induction ms with
  | nil => exact Nat.zero_le _
  | cons m ms ih =>
    obtain ⟨name,v⟩ := m
    cases ms with
    | nil => exact Nat.le_add_left _ _
    | cons m' ms =>
      rw [joinMembers,List.length_append,List.length_cons (a := (name,v)),List.length_cons (a := byte ',')]
      omega

theorem membersFront {ms : List (Text × Json)} (filled : ms ≠ []) :
    ∃ t, Text.join "," (memberTexts ms) = byte '"' :: t := by
  match ms with
  | [(name, v)] => exact ⟨_,by rw [memberTexts,stringShape]; rfl⟩
  | (name, v) :: m :: ms =>
    rw [joinMembers,stringShape]
    exact ⟨_,rfl⟩

theorem objectShape (ms : List (Text × Json)) :
    text (.object ms) = byte '\x7b' :: (Text.join "," (memberTexts ms) ++ [byte '\x7d']) := by
  have opening : Text.ofString "\x7b" = [byte '\x7b'] := by decide
  have closing : Text.ofString "\x7d" = [byte '\x7d'] := by decide
  simp [text,Text.concat,opening,closing]

theorem objectValue {ms ws : List (Text × Json)} (members : MembersAs depth ms ws) :
    ReadAs (depth + 1) (.object ms) (.object ws) := by
  refine ⟨⟨_,_,objectShape ms,by decide⟩,fun rest _ => ?_⟩
  rw [objectShape,List.cons_append,List.append_assoc,List.singleton_append,readValue.eq_def]
  dsimp only
  rw [if_neg (by decide),if_neg (by decide),if_pos rfl]
  by_cases filled : ms = []
  · subst filled
    cases members
    rfl
  · obtain ⟨t,front⟩ := membersFront filled
    have room : ms.length ≤
        (byte '\x7b' :: (Text.join "," (memberTexts ms) ++ byte '\x7d' :: rest)).length := by
      have commas := membersLength ms
      simp only [List.length_cons,List.length_append]
      omega
    have read := membersRead members filled room rest
    have ink : skipBlanks (Text.join "," (memberTexts ms) ++ byte '\x7d' :: rest) =
        byte '"' :: (t ++ byte '\x7d' :: rest) := by
      rw [front]
      exact blanksNone (by decide) _
    rw [ink]
    dsimp only
    rw [if_neg (by decide),read]
    rfl

/-- A document that is written is read as itself, but for the bytes that belong to no character. -/
theorem documentRead {v w : Json} (value : ReadAs (maxDepth + 1) v w) : read? v.text = some w := by
  obtain ⟨b,t,front,ink⟩ := value.front
  have reads := value.reads [] (by simp)
  have skipped : skipBlanks v.text = v.text := by
    rw [front]
    exact blanksNone ink t
  rw [List.append_nil] at reads
  rw [read?,readFirst?,skipped,reads]
  rfl

end Json
end LogSql
