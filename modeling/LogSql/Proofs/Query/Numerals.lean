import LogSql.Proofs.Number.Spelling
import LogSql.Proofs.Query.Reading
import LogSql.Proofs.Query.Unique
import LogSql.Proofs.Text.Fields

/-! Numbers in queries. What the scanner calls a number is written in digits, points and a minus, so it
is no name of an infinite value: where it is read at all, it spells what is read. The count of a ranking
is always such a token. What it calls a size ends in a unit that the table of units has in lower case, also
where the letters are none of ASCII. -/
namespace LogSql.Query

open Text (byte isDecimal Decoded)
open Number (Literal readFloat readSize special)
open Binary64 (Worth Rounds)

/-! ### Tokens and what was scanned -/

theorem tokensScanned {skip : Nat} {at_ : Position} {gs : List Glyph} {ts : Tokens}
    (ok : tokensFrom skip at_ gs = .ok ts) : ∀ t ∈ ts.tokens, ∃ front g rest l, gs = front ++ g :: rest ∧
      scan g rest = .ok l ∧ t.kind = l.kind ∧ t.literal = l.literal := by
  induction gs generalizing skip at_ ts with
  | nil => cases skip <;> (simp only [tokensFrom] at ok; cases ok; simp)
  | cons g rest ih =>
    have behind {skip : Nat} {more : Tokens} (later : tokensFrom skip (at_.after g.char) rest = .ok more) :
        ∀ t ∈ more.tokens, ∃ front h others l, g :: rest = front ++ h :: others ∧
          scan h others = .ok l ∧ t.kind = l.kind ∧ t.literal = l.literal := by
      intro t mem
      obtain ⟨front,h,others,l,rfl,found⟩ := ih later t mem
      exact ⟨g :: front,h,others,l,rfl,found⟩
    cases skip with
    | succ skip => exact behind ok
    | zero =>
      simp only [tokensFrom] at ok
      split at ok
      · exact behind ok
      split at ok
      · cases ok
        simp
      split at ok
      · contradiction
      · rename_i l found
        obtain ⟨more,later,ok⟩ := bindOk ok
        cases ok
        exact List.forall_mem_cons.mpr ⟨⟨[],g,rest,l,rfl,found,rfl,rfl⟩,behind later⟩

/-- Numbers, and numbers with a unit. -/
def numerals : List TokenKind := [.number,.duration,.bytes]

/-- What a scan finds is no number, unless it is read as one. -/
def Numbers (gs : List Glyph) (r : Except Problem Lexeme) : Prop :=
  ∀ l, r = .ok l → l.kind ∈ numerals → l = numeric gs

section Numbers

variable {gs : List Glyph} {P : Prop} [Decidable P]

theorem numbersIte {a b : Except Problem Lexeme} (yes : Numbers gs a) (no : Numbers gs b) :
    Numbers gs (if P then a else b) := by
  split
  · exact yes
  · exact no

theorem numbersOther {l : Lexeme} (other : l.kind ∉ numerals) : Numbers gs (.ok l) := by
  intro found ok number
  cases ok
  exact absurd number other

theorem numbersError (p : Problem) : Numbers gs (.error p) := fun _ ok => by cases ok

end Numbers

theorem scanNumbers (g : Glyph) (rest : List Glyph) : Numbers (g :: rest) (scan g rest) := by
  unfold scan
  extract_lets next one two
  have single {kind : TokenKind} (other : kind ∉ numerals) : Numbers (g :: rest) (one kind) :=
    numbersOther other
  have double {kind : TokenKind} (other : kind ∉ numerals) : Numbers (g :: rest) (two kind) :=
    numbersOther other
  repeat' first
    | apply numbersIte
    | exact single (by decide)
    | exact double (by decide)
    | exact numbersError _
  · split
    · exact numbersError _
    · split
      · exact numbersError _
      · exact numbersOther (by simp [numerals])
  · split
    · exact numbersError _
    · exact numbersOther (by simp [numerals])
  · exact numbersOther (by simp [numerals,spelled])
  · exact fun l ok _ => (Except.ok.inj ok).symm

/-! ### The bytes of numbers -/

theorem digitByte (b : UInt8) : b < 0x80 → Text.isDigit (Char.ofNat b.toNat) = true → isDecimal b = true :=
  @Text.everyByte (fun b => b < 0x80 → Text.isDigit (Char.ofNat b.toNat) = true → isDecimal b = true)
    (by decide +kernel) b

/-- A number is a run of digits and points, with a minus in front at most, and its unit is the letters behind
it. -/
theorem numericParts (gs : List Glyph) : ∃ number unit rest, gs = number ++ (unit ++ rest) ∧
    (numeric gs).literal = Text.ofGlyphs (number ++ unit) ∧
    (∀ g ∈ number, g.char = '-' ∨ g.char = '.' ∨ Text.isDigit g.char = true) ∧
    (unit = [] ∧ (numeric gs).kind = .number ∨
      (∃ g more, unit = g :: more ∧ Text.isLetter g.char = true) ∧
        (numeric gs).kind = if isByteUnit (unit.map (·.char)) then .bytes else .duration) := by
  unfold numeric
  extract_lets sign digits start lettered unit kind
  have run : gs.take start = gs.take sign ++ digits := by rw [List.take_add,takeWhole]
  have chars : ∀ g ∈ gs.take start, g.char = '-' ∨ g.char = '.' ∨ Text.isDigit g.char = true := by
    rw [run]
    refine List.forall_mem_append.mpr ⟨?_,fun g mem => ?_⟩
    · unfold sign
      cases gs with
      | nil => simp
      | cons g rest =>
        split
        · rename_i minus
          simpa using .inl (by simpa using minus)
        · simp
    · have held := List.mem_takeWhile_imp mem
      simp only [Bool.or_eq_true,decide_eq_true_eq] at held
      exact .inr held.symm
  have parts : unit ++ (gs.drop start).drop unit.length = gs.drop start := by
    have front : (gs.drop start).take unit.length = unit := takeWhole _ _
    rw [← front,List.length_take_of_le (List.takeWhile_prefix _).length_le,List.take_append_drop]
  split
  · refine ⟨gs.take start,[],gs.drop start,?_,?_,chars,.inl ⟨rfl,rfl⟩⟩
    · rw [List.nil_append,List.take_append_drop]
    · rw [List.append_nil]
      rfl
  · rename_i letters
    refine ⟨gs.take start,unit,(gs.drop start).drop unit.length,?_,?_,chars,.inr ⟨?_,rfl⟩⟩
    · rw [parts,List.take_append_drop]
    · show Text.ofGlyphs (gs.take (start + unit.length)) = _
      rw [List.take_add,takeWhole]
    · simp only [lettered] at letters
      split at letters
      · rename_i g more found
        have letter : Text.isLetter g.char = true := by simpa using letters
        have first : ∃ others, unit = g :: others := by
          unfold unit
          rw [found,List.takeWhile_cons_of_pos (by simp [letter])]
          exact ⟨_,rfl⟩
        obtain ⟨others,same⟩ := first
        exact ⟨g,others,same,letter⟩
      · simp at letters

theorem numericBytes {gs : List Glyph} (decoded : ∀ g ∈ gs, Decoded g)
    (number : (numeric gs).kind = .number) {b : UInt8} (small : b < 0x80)
    (inside : b ∈ (numeric gs).literal) : b = byte '-' ∨ b = byte '.' ∨ isDecimal b = true := by
  obtain ⟨digits,unit,rest,rfl,literal,chars,⟨rfl,_⟩ | ⟨_,kind⟩⟩ := numericParts gs
  · rw [literal,List.append_nil] at inside
    obtain ⟨g,mem,raw⟩ := List.mem_flatMap.mp inside
    have code := (decoded g (List.mem_append_left _ mem)).mem small raw
    rcases chars g mem with minus | point | digit
    · exact .inl (UInt8.toNat_inj.mp (by rw [← code,minus]; decide))
    · exact .inr (.inl (UInt8.toNat_inj.mp (by rw [← code,point]; decide)))
    · rw [← Char.ofNat_toNat g.char,code] at digit
      exact .inr (.inr (digitByte b small digit))
  · rw [kind] at number
    split at number <;> contradiction

/-- The names of values that are not finite have a letter. -/
theorem numberOrdinary {t : Text}
    (bytes : ∀ b ∈ t, b < 0x80 → b = byte '-' ∨ b = byte '.' ∨ isDecimal b = true) :
    special t = none := by
  have letters : ∀ b ∈ t, b ≠ byte 'n' ∧ b ≠ byte 'N' := by
    intro b mem
    constructor <;> rintro rfl <;> exact absurd (bytes _ mem (by decide)) (by decide)
  have absent {u : Text} (inside : ∀ b ∈ u, b ∈ t) {name : Text} (letter : byte 'n' ∈ name) :
      Text.asciiLower u ≠ name := by
    rintro rfl
    obtain ⟨b,mem,same⟩ := List.mem_map.mp letter
    have own := letters b (inside b mem)
    exact ((Number.lowerLetter (c := byte 'n') (by decide)).mp (congrArg (fun x => [x]) same)).elim own.1
      fun upper => own.2 (upper.trans (by decide))
  obtain ⟨sign,_,source⟩ := Number.splitSource t
  have body : ∀ b ∈ (Number.splitSign t).2, b ∈ t := fun b mem => by
    rw [source]
    exact List.mem_append_right _ mem
  rw [special]
  dsimp only
  rw [if_neg (not_or.mpr ⟨absent body (by decide),absent body (by decide)⟩),
    if_neg (absent (fun _ => id) (by decide))]

theorem numberSpells {t : Text} {ts : Tokens} (ok : tokenize t = .ok ts) {token : Token}
    (mem : token ∈ ts.tokens) (number : token.kind = .number) {x : Binary64}
    (read : readFloat token.literal = .ok x) : ∃ l, Number.Spells token.literal l := by
  obtain ⟨front,g,rest,l,whole,scanned,kind,literal⟩ := tokensScanned ok token mem
  have decoded : ∀ x ∈ g :: rest, Decoded x := fun x own =>
    Text.glyphsFromDecoded 0 t x (show x ∈ Text.glyphs t from whole ▸ List.mem_append_right _ own)
  obtain rfl := scanNumbers g rest l scanned (by simp [numerals,← kind,number])
  have ordinary : special token.literal = none :=
    numberOrdinary fun b inside small => numericBytes decoded (kind ▸ number) small (literal ▸ inside)
  exact (Number.floatSource ordinary).resolve_right (by simp [read])

/-! ### Letters that differ in case -/

theorem foldImages : ∀ row ∈ Text.foldRows, row.2.2.2 + (row.2.1 - row.1) < 0xD800 ∨
    0xDFFF < row.2.2.2 ∧ row.2.2.2 + (row.2.1 - row.1) < 0x110000 := by
  decide +kernel

/-- The variants of a character are all that fold to what it folds to. -/
theorem variantsAll {c d : Char} (same : Text.foldChar c = Text.foldChar d) : c ∈ Text.caseVariants d := by
  unfold Text.caseVariants
  rw [← same,Text.foldChar,Text.mapCase]
  split
  · rename_i row found
    refine List.mem_cons_of_mem _ (List.mem_filterMap.mpr ⟨row,List.mem_of_find?_eq_some found,?_⟩)
    have covered := List.find?_some found
    have bounds : row.1 ≤ c.toNat ∧ c.toNat ≤ row.2.1 := by
      simp only [Text.rowCovers,Bool.and_eq_true,decide_eq_true_eq] at covered
      exact covered.1
    have image := foldImages row (List.mem_of_find?_eq_some found)
    have value : (Char.ofNat (row.2.2.2 + (c.toNat - row.1))).toNat = row.2.2.2 + (c.toNat - row.1) :=
      Text.charOfNat (by unfold Nat.isValidChar; omega)
    have source : row.1 + (row.2.2.2 + (c.toNat - row.1) - row.2.2.2) = c.toNat := by omega
    dsimp only
    rw [value,source,covered,Char.ofNat_toNat]
    simp
  · exact List.mem_cons_self

/-- The letters that units are made of, in lower case. -/
def unitLetters : List Char := ['k','m','g','t','p','e','i','b']

theorem unitLetterCases : (unitLetters.all fun d => Text.foldChar d = d &&
    (Text.caseVariants d).all fun c => Text.lowerChar c = d) = true := by
  decide +kernel

/-- A letter that folds to one of a unit becomes that in lower case, from whatever alphabet it is. -/
theorem lowerFolded {c d : Char} (letter : d ∈ unitLetters) (folded : Text.foldChar c = d) :
    Text.lowerChar c = d := by
  obtain ⟨own,lower⟩ := Bool.and_eq_true_iff.mp (List.all_eq_true.mp unitLetterCases d letter)
  have variant : c ∈ Text.caseVariants d := variantsAll (folded.trans (of_decide_eq_true own).symm)
  exact of_decide_eq_true (List.all_eq_true.mp lower c variant)

/-! ### Sizes -/

/-- The multiples of a unit from the smallest one on. -/
def multiples : List Char := ['k','m','g','t','p','e']

/-- The bytes of a unit, by its first letter and its length: a power of a thousand, or of 1024 when the
multiple is binary. -/
def unitFactor : List Char → Nat
  | [m,_] => 1000 ^ (multiples.idxOf (Text.foldChar m) + 1)
  | [m,_,_] => 1024 ^ (multiples.idxOf (Text.foldChar m) + 1)
  | _ => 1

/-- A name of the table with the bytes it stands for. -/
def named (name : List Char) : Option (Text × Nat) :=
  Number.sizeUnits.find? fun u => u.1 = name.flatMap Text.ofChar

theorem multiplesNamed : (multiples.all fun d =>
    (named [d,'b']).map (·.2) = some (1000 ^ (multiples.idxOf d + 1)) ∧
      (named [d,'i','b']).map (·.2) = some (1024 ^ (multiples.idxOf d + 1))) = true := by
  decide +kernel

theorem unitNamed {unit : List Char} (marks : isByteUnit unit = true) :
    (named (unit.map Text.lowerChar)).map (·.2) = some (unitFactor unit) := by
  have last {c : Char} (b : c = 'b' ∨ c = 'B') : Text.lowerChar c = 'b' := by
    rcases b with rfl | rfl <;> decide +kernel
  have letter {d : Char} (multiple : d ∈ multiples) : d ∈ unitLetters :=
    List.mem_append_left ['i','b'] multiple
  have table {m : Char} (multiple : multiples.contains (Text.foldChar m) = true) :
      Text.lowerChar m = Text.foldChar m :=
    lowerFolded (letter (List.contains_iff_mem.mp multiple)) rfl
  have entry {d : Char} (multiple : d ∈ multiples) := of_decide_eq_true (List.all_eq_true.mp multiplesNamed d multiple)
  unfold isByteUnit at marks
  extract_lets isLast isMultiple isBinary at marks
  split at marks
  · rename_i c
    rw [List.map_singleton,last (by simpa [isLast] using marks)]
    rfl
  · rename_i m c
    simp only [isLast,isMultiple,Bool.and_eq_true,Bool.or_eq_true,decide_eq_true_eq] at marks
    obtain ⟨multiple,b⟩ := marks
    rw [List.map_cons,List.map_singleton,last b,table multiple]
    exact (entry (List.contains_iff_mem.mp multiple)).1
  · rename_i m i c
    simp only [isLast,isMultiple,isBinary,Bool.and_eq_true,Bool.or_eq_true,decide_eq_true_eq] at marks
    obtain ⟨⟨multiple,binary⟩,b⟩ := marks
    rw [List.map_cons,List.map_cons,List.map_singleton,last b,lowerFolded (by decide) binary,table multiple]
    exact (entry (List.contains_iff_mem.mp multiple)).2
  · cases marks

/-- A size as it is scanned: digits and points, with a minus in front at most, and letters of a unit. -/
structure Sized (t : Text) (number unit : List Glyph) : Prop where
  whole : Text.glyphs t = number ++ unit
  digits : ∀ g ∈ number, g.char = '-' ∨ g.char = '.' ∨ Text.isDigit g.char = true
  letter : ∃ g more, unit = g :: more ∧ Text.isLetter g.char = true
  marks : isByteUnit (unit.map (·.char)) = true

theorem sizeScanned {t : Text} {ts : Tokens} (ok : tokenize t = .ok ts) {token : Token}
    (mem : token ∈ ts.tokens) (size : token.kind = .bytes) : ∃ number unit, Sized token.literal number unit := by
  obtain ⟨front,g,rest,l,whole,scanned,kind,literal⟩ := tokensScanned ok token mem
  obtain rfl := scanNumbers g rest l scanned (by simp [numerals,← kind,size])
  rw [size] at kind
  obtain ⟨number,unit,more,same,spelled,digits,⟨_,plain⟩ | ⟨letter,marked⟩⟩ := numericParts (g :: rest)
  · rw [plain] at kind
    contradiction
  · rw [marked] at kind
    have inside : Text.glyphs t = front ++ (number ++ unit ++ more) := by rw [whole,same,List.append_assoc]
    refine ⟨number,unit,?_,digits,letter,?_⟩
    · rw [literal,spelled]
      exact Text.glyphsInside inside
    · split at kind
      · assumption
      · contradiction

/-- A number of the mantissa, moved by bits, is converted as it is. -/
theorem wholeWorth {n m e : Nat} (same : n = m * 2 ^ e) (narrow : m < 2 ^ 53) (low : e ≤ 900) :
    Worth (.ofRatio false n 1) n := by
  have exact : (n : ℚ) = Binary64.amount false m e := by simp [Binary64.amount,same]
  have worth : Worth (.finite false m e) n := exact ▸ .finite narrow (by omega) (by omega)
  have inside : |(n : ℚ)| < Binary64.overflow := by
    rw [Nat.abs_cast]
    refine lt_of_lt_of_le ?_ Binary64.overflowBetween.1
    have less : n < 2 ^ 1023 := calc
      n = m * 2 ^ e := same
      _ < 2 ^ 53 * 2 ^ e := Nat.mul_lt_mul_of_pos_right narrow (Nat.two_pow_pos e)
      _ ≤ 2 ^ 53 * 2 ^ 900 := Nat.mul_le_mul_left _ (Nat.pow_le_pow_right (by omega) low)
      _ ≤ 2 ^ 1023 := by decide +kernel
    exact_mod_cast less
  have rounds := Binary64.ofRatioRounds false n Nat.one_pos
  simp only [Bool.false_eq_true,if_false,Nat.cast_one,div_one] at rounds
  obtain ⟨y,read,nearest,_⟩ := rounds.inside inside
  exact Binary64.nearestExact nearest worth ▸ read

/-- The factors of units are numbers of the format. -/
theorem factorWorth (unit : List Char) : Worth (.ofRatio false (unitFactor unit) 1) (unitFactor unit) := by
  have rank (c : Char) : multiples.idxOf c + 1 ≤ 7 := Nat.succ_le_succ List.idxOf_le_length
  unfold unitFactor
  split
  · rename_i m _
    have last := rank (Text.foldChar m)
    generalize multiples.idxOf (Text.foldChar m) + 1 = k at last
    have power : 1000 ^ k = 125 ^ k * 2 ^ (3 * k) := by rw [Nat.pow_mul,← Nat.mul_pow]
    have narrow : 125 ^ k < 2 ^ 53 := (Nat.pow_le_pow_right (by decide) last).trans_lt (by decide)
    exact wholeWorth power narrow (by omega)
  · rename_i m _ _
    have last := rank (Text.foldChar m)
    generalize multiples.idxOf (Text.foldChar m) + 1 = k at last
    have power : 1024 ^ k = 1 * 2 ^ (10 * k) := by rw [Nat.pow_mul,one_mul]
    exact wholeWorth power (by decide) (by omega)
  · exact wholeWorth (m := 1) (e := 0) rfl (by decide) (by decide)

theorem letterByte (b : UInt8) : b < 0x80 → Text.isLetter (Char.ofNat b.toNat) = true →
    (isDecimal b || decide (b = byte '.')) = false :=
  @Text.everyByte (fun b => b < 0x80 → Text.isLetter (Char.ofNat b.toNat) = true →
    (isDecimal b || decide (b = byte '.')) = false) (by decide +kernel) b

theorem highNoDecimal (b : UInt8) : 0x80 ≤ b → (isDecimal b || decide (b = byte '.')) = false :=
  @Text.everyByte (fun b => 0x80 ≤ b → (isDecimal b || decide (b = byte '.')) = false) (by decide +kernel) b

/-- No byte of a letter is a digit or a point. -/
theorem letterApart {g : Glyph} (decoded : Decoded g) (letter : Text.isLetter g.char = true) {b : UInt8}
    (inside : b ∈ g.raw) : (isDecimal b || decide (b = byte '.')) = false := by
  by_cases small : b < 0x80
  · have code := decoded.mem small inside
    rw [← Char.ofNat_toNat g.char,code] at letter
    exact letterByte b small letter
  · exact highNoDecimal b (UInt8.not_lt.mp small)

section Sizes

variable {t : Text} {number unit : List Glyph}

theorem Sized.parts (sized : Sized t number unit) : t = Text.ofGlyphs number ++ Text.ofGlyphs unit := by
  have whole := Text.ofGlyphsText t
  rw [sized.whole] at whole
  simpa [Text.ofGlyphs] using whole.symm

/-- Where the number is written in digits and points, the reader of sizes splits where the scanner does. -/
theorem Sized.split (sized : Sized t number unit)
    (decimal : ∀ b ∈ Text.ofGlyphs number, isDecimal b = true ∨ b = byte '.') :
    Number.splitSize t = (Text.ofGlyphs number,Text.ofGlyphs unit) := by
  have inside : ∀ b ∈ Text.ofGlyphs number, (isDecimal b || decide (b = byte '.')) = true := by
    simpa using decimal
  have stop : (Text.ofGlyphs unit).takeWhile (fun b => isDecimal b || decide (b = byte '.')) = [] := by
    obtain ⟨g,more,rfl,letter⟩ := sized.letter
    have decoded : Decoded g := Text.glyphsFromDecoded 0 t g (show g ∈ Text.glyphs t by simp [sized.whole])
    obtain ⟨b,raw,same⟩ := List.exists_cons_of_ne_nil decoded.some
    have apart := letterApart decoded letter (b := b) (by simp [same])
    rw [Text.ofGlyphs,List.flatMap_cons,same,List.cons_append,List.takeWhile_cons_of_neg (by simp [apart])]
  rw [Number.splitSize,sized.parts,List.takeWhile_append_of_pos inside,stop,List.append_nil,List.drop_left]

/-- The lower case of the unit is a name of the table. -/
theorem Sized.named (sized : Sized t number unit) : ∃ name,
    (Number.sizeUnits.find? fun u => u.1 = Text.lower (Text.ofGlyphs unit)) =
      some (name,unitFactor (unit.map (·.char))) := by
  have behind : Text.glyphs t = number ++ (unit ++ []) := by rw [sized.whole,List.append_nil]
  have read : Text.glyphs (Text.ofGlyphs unit) = unit := Text.glyphsInside behind
  have found := unitNamed sized.marks
  rw [Query.named,List.map_map,List.flatMap_map] at found
  rw [Text.lower,Text.mapChars,Text.chars,read,List.flatMap_map]
  obtain ⟨⟨name,factor⟩,known,rfl⟩ := Option.map_eq_some_iff.mp found
  exact ⟨name,known⟩

end Sizes

theorem Sized.read {t : Text} {number unit : List Glyph} (sized : Sized t number unit)
    (decimal : ∀ b ∈ Text.ofGlyphs number, isDecimal b = true ∨ b = byte '.') :
    readSize t = if (Text.ofGlyphs number).isEmpty then .error (.malformed t) else
      match Number.float (Text.ofGlyphs number) with
      | .error r => .error (.badNumber t r)
      | .ok x => .ok (x.mul (.ofRatio false (unitFactor (unit.map (·.char))) 1)) := by
  obtain ⟨name,known⟩ := sized.named
  have some : (Text.ofGlyphs unit).isEmpty = false := by
    obtain ⟨g,more,rfl,letter⟩ := sized.letter
    have decoded : Decoded g := Text.glyphsFromDecoded 0 t g (show g ∈ Text.glyphs t by simp [sized.whole])
    simp [Text.ofGlyphs,decoded.some]
  rw [readSize,sized.split decimal]
  dsimp only
  rw [known,some]
  cases Number.float (Text.ofGlyphs number) <;> simp only [Bool.false_eq_true,or_false]

/-- The scanner and the reader of sizes agree. What the scanner takes for a size is digits and points, with a
minus in front at most, and then the letters of a unit. Where there is no minus and all digits are decimal
ones, the reader splits it at the same place and does not refuse the unit, in whatever case and alphabet it
is; and where the digits are a number, the size is its product with the factor of the unit. -/
theorem sizesAgree {t : Text} {ts : Tokens} (ok : tokenize t = .ok ts) {token : Token}
    (mem : token ∈ ts.tokens) (size : token.kind = .bytes) :
    (∃ number unit, Sized token.literal number unit) ∧
      ∀ number unit, Sized token.literal number unit →
        (∀ b ∈ Text.ofGlyphs number, isDecimal b = true ∨ b = byte '.') →
        Number.splitSize token.literal = (Text.ofGlyphs number,Text.ofGlyphs unit) ∧
        (∀ u, readSize token.literal ≠ .error (.badUnit u)) ∧
        ∀ x, Number.float (Text.ofGlyphs number) = .ok x →
          ∃ y, readSize token.literal = .ok y ∧
            y = x.mul (.ofRatio false (unitFactor (unit.map (·.char))) 1) ∧
            ∀ a, Worth x a → Rounds (a * unitFactor (unit.map (·.char))) y := by
  refine ⟨sizeScanned ok mem size,fun number unit sized decimal =>
    ⟨sized.split decimal,fun u wrong => ?_,fun x float => ?_⟩⟩
  · rw [sized.read decimal] at wrong
    split at wrong
    · cases wrong
    · split at wrong <;> cases wrong
  · have some : (Text.ofGlyphs number).isEmpty = false := by
      rw [List.isEmpty_eq_false_iff]
      intro none
      rw [none] at float
      cases float
    refine ⟨_,?_,rfl,fun a worth => Binary64.mulRounds worth (factorWorth _)⟩
    rw [sized.read decimal,some,float]
    rfl

/-- A size in a unit with the Kelvin sign. -/
def kelvinSize : Text := "1.5\u212Aib"

theorem kelvinSizeAgrees : (∃ ts, tokenize kelvinSize = .ok ts ∧ ⟨.bytes,kelvinSize,⟨1,1⟩⟩ ∈ ts.tokens) ∧
    Number.splitSize kelvinSize = (("1.5" : Text),("\u212Aib" : Text)) ∧
    readSize kelvinSize = .ok (.ofRatio false 1536 1) := by
  obtain ⟨ts,ok,mem⟩ := okAny (x := tokenize kelvinSize)
    (p := fun ts => ts.tokens.contains ⟨.bytes,kelvinSize,⟨1,1⟩⟩) (by decide +kernel)
  have token := List.contains_iff_mem.mp mem
  have sized : Sized kelvinSize (Text.glyphs "1.5") (Text.glyphs "\u212Aib") :=
    ⟨by decide +kernel,by decide +kernel,⟨_,_,rfl,by decide +kernel⟩,by decide +kernel⟩
  obtain ⟨split,_,product⟩ := (sizesAgree ok token rfl).2 _ _ sized (by decide +kernel)
  obtain ⟨y,read,rfl,_⟩ := product (.ofRatio false 3 2) (by decide +kernel)
  refine ⟨⟨ts,ok,token⟩,split,?_⟩
  rw [read]
  decide +kernel

/-! ### The count of a ranking -/

open Parse

/-- A statement that is a ranking has its count behind the parenthesis. -/
theorem rankingToken (room : Nat) {c : Cursor} (spelled : c.Spelled) :
    Post c (aggStatement room) fun n _ => ∀ m r, n = Form.statementNode m (some r) →
      (c.token 2).kind = .number ∧ r.param.text = (c.token 2).literal := by
  have plain (m : Form.Matrix) (m' : Form.Matrix) (r : Form.Ranking)
      (same : Node.mk Kind.aggStatement [] [m.node] = Form.statementNode m' (some r)) : False :=
    nomatch (Form.rankingUnique (a := none) same).2
  cases room with
  | zero => simp [aggStatement]
  | succ room =>
    simp only [aggStatement,postBind,postCurrent,postIte,postFail,postPure,implies_true,and_true]
    refine fun _ => ⟨fun aggregation => ?_,fun _ => ⟨fun _ => ?_,fun _ _ => ?_⟩⟩
    · refine (aggregationOperatorPost room spelled aggregation).imp fun n c' h m r same => ?_
      obtain ⟨own,rfl⟩ := h.1
      exact (plain own m r same).elim
    · simp only [parameterizedExpression,postBind,postNext,postExpect,postCurrent,postIte,postFail,
        postPure,implies_true,true_and]
      intro _
      refine parameterPost.imp fun param c1 number _ _ => ?_
      refine fun statement c2 _ _ m r same => ?_
      obtain ⟨kind,_,x,literal,rfl⟩ := number
      simp only [Form.statementNode,Node.mk.injEq,List.cons.injEq,and_true,true_and,Node.leaf] at same
      rw [Cursor.tokenRest,Cursor.tokenRest] at kind literal
      exact ⟨kind,same.2.1.symm.trans literal⟩
    · refine (rangeCallPost room spelled).imp fun n c' h m r same => ?_
      rcases h.1 with ⟨_,range,rfl⟩ | ⟨known,param,body,rfl⟩
      · exact (plain (.range range) m r same).elim
      · exact (plain (.quantile _ known param body) m r same).elim

theorem queryRanking (macros : List Text) {c : Cursor} (spelled : c.Spelled) :
    Post c (query macros) fun n _ => ∀ m r threshold, n = (Form.matrix m (some r) threshold).node →
      (c.token 2).kind = .number ∧ r.param.text = (c.token 2).literal := by
  simp only [query,postBind,postCurrent,postPeek,postIte,postFail,postPure,implies_true,and_true]
  refine ⟨fun _ => ?_,fun _ => ⟨fun _ => ?_,fun _ => ?_⟩⟩
  · refine (macroCallPost spelled).imp fun n c' h _ m r threshold same => ?_
    obtain ⟨args,children⟩ := h.1
    rw [children] at same
    cases Form.nodeUnique (p := .call _ args) same
  · refine (selectorExprYields _ _ _ spelled).imp fun ns c' h _ m r threshold same => ?_
    obtain ⟨s,rfl⟩ := h.1
    cases Form.nodeUnique (p := .rows s) same
  · intro n c' statement ns c'' _ _ m r threshold same
    have children := (Node.mk.inj same).2.2
    exact rankingToken _ spelled n c' statement m r (List.cons.inj children).1

theorem rankingSpells {macros : List Text} {t : Text} {m : Form.Matrix} {r : Form.Ranking}
    {threshold : Option Form.Threshold}
    (ok : parse macros t = .ok (Form.matrix m (some r) threshold).node) :
    ∃ l, Number.Spells r.param.text l := by
  obtain ⟨ts,left,tokens,read⟩ := parseRun ok
  obtain ⟨kind,text⟩ := queryRanking macros (tokenizeCursor tokens) _ left read m r threshold rfl
  obtain ⟨x,readable⟩ := r.param.readable
  unfold Cursor.token at kind text
  cases found : ts.tokens[2]? with
  | none => simp [found,Tokens.eof] at kind
  | some token =>
    simp only [found,Option.getD_some] at kind text
    rw [text] at readable ⊢
    exact numberSpells tokens (List.mem_of_getElem? found) kind readable

end LogSql.Query
