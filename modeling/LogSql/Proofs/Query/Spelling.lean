import LogSql.Query.Lexer
import LogSql.Proofs.Computation
import LogSql.Proofs.Text.Glyphs

/-! The spelling of tokens. A scanned token stands in the text as it is written, a symbol by the name
of its class; with blanks between them the tokens make up the text up to its first zero byte, which
the reader takes for the end. -/
namespace LogSql.Query

open Text (Decoded Guarded)

/-- The classes of tokens that have one spelling. -/
def TokenKind.isSymbol : TokenKind → Bool
  | .illegal | .eof | .identifier | .string | .number | .duration | .bytes => false
  | _ => true

/-- The literal of a symbol is the name of its class. -/
def Token.Spelled (t : Token) : Prop := t.kind.isSymbol → t.literal = t.kind.name

/-- How a class with a literal stands in a text: strings between quotes, all else as the literal. -/
inductive Spells : TokenKind → Text → List Glyph → Prop where
  | written {kind : TokenKind} {gs : List Glyph} (word : kind ∉ [.illegal, .eof, .string])
      (some : gs ≠ []) (symbol : kind.isSymbol → Text.ofGlyphs gs = kind.name) :
      Spells kind (Text.ofGlyphs gs) gs
  | quoted {first last : Glyph} {body : List Glyph} {value : Text} (opening : first.char = '"')
      (closing : last.char = '"') (read : Text.unquoteBody (Text.ofGlyphs body) = some value) :
      Spells .string value (first :: (body ++ [last]))
  | raw {first last : Glyph} {body : List Glyph} (opening : first.char.toNat = 0x60)
      (closing : last.char.toNat = 0x60) (inside : ∀ g ∈ body, g.char.toNat ≠ 0x60) :
      Spells .string (body.flatMap fun g => Text.ofChar g.char) (first :: (body ++ [last]))

theorem Spells.symbol {kind : TokenKind} {literal : Text} {gs : List Glyph}
    (spells : Spells kind literal gs) (symbol : kind.isSymbol) : literal = kind.name := by
  cases spells with
  | written _ _ name => exact name symbol
  | quoted => contradiction
  | raw => contradiction

theorem Spells.notEnd {kind : TokenKind} {literal : Text} {gs : List Glyph}
    (spells : Spells kind literal gs) : kind ≠ .eof := by
  cases spells with
  | written word => exact fun same => word (by simp [same])
  | quoted => decide
  | raw => decide

/-- What a lexeme takes from the characters ahead. -/
structure Scanned (gs : List Glyph) (l : Lexeme) : Prop where
  some : 0 < l.width
  fits : l.width ≤ gs.length
  spells : Spells l.kind l.literal (gs.take l.width)
  zero : 0 ∉ Text.ofGlyphs (gs.take l.width)

theorem zeroChar {c : Char} {p : Char → Bool} (zero : p (Char.ofNat 0) = false) (holds : p c = true) :
    c.toNat ≠ 0 := by
  intro same
  rw [← Char.ofNat_toNat c,same,zero] at holds
  contradiction

/-- Characters other than zero have no zero byte. -/
theorem zeroFree {gs : List Glyph} (decoded : ∀ g ∈ gs, Decoded g)
    (chars : ∀ g ∈ gs, g.char.toNat ≠ 0) : 0 ∉ Text.ofGlyphs gs := by
  intro mem
  obtain ⟨g,inside,byte⟩ := List.mem_flatMap.mp mem
  exact chars g inside ((decoded g inside).mem (by decide) byte)

section Scanning

variable {g : Glyph} {rest gs : List Glyph} {kind : TokenKind} {width : Nat}

theorem spelledScanned (decoded : ∀ g ∈ gs, Decoded g) (word : kind ∉ [.illegal, .eof, .string])
    (some : 0 < width) (fits : width ≤ gs.length)
    (chars : ∀ g ∈ gs.take width, g.char.toNat ≠ 0)
    (symbol : kind.isSymbol → Text.ofGlyphs (gs.take width) = kind.name) :
    Scanned gs (spelled kind width gs) where
  some := some
  fits := fits
  spells := .written word (by
    intro none
    have length := congrArg List.length none
    rw [List.length_take,List.length_nil] at length
    omega) symbol
  zero := zeroFree (fun g mem => decoded g (List.mem_of_mem_take mem)) chars

theorem takeWhole (p : Glyph → Bool) (gs : List Glyph) :
    gs.take (gs.takeWhile p).length = gs.takeWhile p :=
  (List.prefix_iff_eq_take.mp (List.takeWhile_prefix p)).symm

/-- The first characters and the run of some class behind them. -/
theorem takeRun (p : Glyph → Bool) {n : Nat} (inside : n ≤ gs.length) :
    gs.take (n + ((gs.drop n).takeWhile p).length) = gs.take n ++ (gs.drop n).takeWhile p ∧
      n + ((gs.drop n).takeWhile p).length ≤ gs.length := by
  have run := (List.takeWhile_prefix p (l := gs.drop n)).length_le
  rw [List.length_drop] at run
  exact ⟨by rw [List.take_add,takeWhole],by omega⟩

theorem runChars {p : Char → Bool} (zero : p (Char.ofNat 0) = false) :
    ∀ g ∈ gs.takeWhile fun r => p r.char, g.char.toNat ≠ 0 :=
  fun g mem => zeroChar zero (List.all_eq_true.mp List.all_takeWhile g mem)

theorem identifierScanned (decoded : ∀ x ∈ g :: rest, Decoded x)
    (start : isIdentStart g.char = true) :
    Scanned (g :: rest) (spelled .identifier
      ((g :: rest).takeWhile fun r => isIdentPart r.char).length (g :: rest)) := by
  have first : isIdentPart g.char = true := by simp [isIdentPart,start]
  refine spelledScanned decoded (by decide) ?_ ?_ (fun x mem => ?_) fun symbol => ?_
  · simp [first]
  · exact (List.takeWhile_prefix _).length_le
  · rw [takeWhole] at mem
    exact runChars (p := isIdentPart) (by decide) x mem
  · contradiction

theorem numericScanned (decoded : ∀ x ∈ g :: rest, Decoded x)
    (starts : Text.isDigit g.char = true ∨ g.char = '-' ∨ g.char = '.') :
    Scanned (g :: rest) (numeric (g :: rest)) := by
  unfold numeric
  generalize whole : g :: rest = gs at decoded ⊢
  extract_lets sign digits start lettered unit kind
  have first : gs.head?.map (·.char) = some g.char := by rw [← whole]; rfl
  have small : sign ≤ gs.length := by
    rw [← whole]
    unfold sign
    split <;> simp
  obtain ⟨numbers,fits⟩ := takeRun (fun r => Text.isDigit r.char || r.char = '.') small
  obtain ⟨letters,more⟩ := takeRun
    (fun r => Text.isLetter r.char || Text.isDigit r.char || r.char = '.') fits
  have signs : ∀ x ∈ gs.take sign, x.char.toNat ≠ 0 := by
    unfold sign
    split
    · rename_i minus
      rw [first] at minus
      rw [← whole]
      simp [Option.some.inj minus]
    · simp
  have front : ∀ x ∈ gs.take start, x.char.toNat ≠ 0 := by
    rw [numbers]
    exact List.forall_mem_append.mpr ⟨signs,
      runChars (p := fun c => Text.isDigit c || c = '.') (by decide)⟩
  have some : 0 < start := by
    unfold start
    by_cases minus : g.char = '-'
    · have one : sign = 1 := by simp [sign,first,minus]
      omega
    · have none : sign = 0 := by simp [sign,first,minus]
      have digit : (Text.isDigit g.char || g.char = '.') = true := by
        rcases starts with digit | same | point
        · simp [digit]
        · exact absurd same minus
        · simp [point]
      have run : digits = (gs.drop 0).takeWhile fun r => Text.isDigit r.char || r.char = '.' := by
        rw [← none]
      rw [run,← whole]
      simp only [List.drop_zero,List.takeWhile_cons,digit,if_true,List.length_cons]
      omega
  split
  · exact spelledScanned decoded (by decide) some fits front fun symbol => by contradiction
  · have word : kind = .bytes ∨ kind = .duration := by
      unfold kind
      split <;> simp
    refine spelledScanned decoded ?_ (by omega) more ?_ ?_
    · rcases word with same | same <;> simp [same]
    · rw [letters]
      exact List.forall_mem_append.mpr ⟨front,
        runChars (p := fun c => Text.isLetter c || Text.isDigit c || c = '.') (by decide)⟩
    · rcases word with same | same <;> simp [same,TokenKind.isSymbol]

theorem quotedBody (decoded : ∀ g ∈ gs, Decoded g) (ok : quotedWidth gs = some width) :
    ∃ (body : List Glyph) (last : Glyph) (left : List Glyph), gs = body ++ last :: left ∧
      width = body.length + 1 ∧ last.char = '"' ∧
      Guarded (Text.ofGlyphs body) := by
  fun_induction quotedWidth gs generalizing width with
  | case1 => contradiction
  | case2 r rest quote =>
    cases ok
    exact ⟨[],r,rest,rfl,rfl,quote,.nil⟩
  | case3 => contradiction
  | case4 => contradiction
  | case5 q quote zero slash r rest ih =>
    obtain ⟨n,inner,rfl⟩ := Option.map_eq_some_iff.mp ok
    obtain ⟨first,second,more⟩ : Decoded q ∧ Decoded r ∧ ∀ g ∈ rest, Decoded g := by
      simpa using decoded
    obtain ⟨body,last,left,rfl,rfl,closing,guarded⟩ := ih more inner
    exact ⟨q :: r :: body,last,left,rfl,rfl,closing,guarded.escape first slash second⟩
  | case6 r rest quote zero slash ih =>
    obtain ⟨n,inner,rfl⟩ := Option.map_eq_some_iff.mp ok
    obtain ⟨first,more⟩ := List.forall_mem_cons.mp decoded
    obtain ⟨body,last,left,rfl,rfl,closing,guarded⟩ := ih more inner
    exact ⟨r :: body,last,left,rfl,rfl,closing,.glyph first zero slash guarded⟩

theorem rawBody (ok : rawWidth gs = some width) :
    ∃ (body : List Glyph) (last : Glyph) (left : List Glyph), gs = body ++ last :: left ∧
      width = body.length + 1 ∧ last.char.toNat = 0x60 ∧
      ∀ g ∈ body, g.char.toNat ≠ 0x60 ∧ g.char.toNat ≠ 0 := by
  fun_induction rawWidth gs generalizing width with
  | case1 => contradiction
  | case2 r rest quote =>
    cases ok
    exact ⟨[],r,rest,rfl,rfl,quote,by simp⟩
  | case3 => contradiction
  | case4 r rest quote zero ih =>
    obtain ⟨n,inner,rfl⟩ := Option.map_eq_some_iff.mp ok
    obtain ⟨body,last,left,rfl,rfl,closing,inside⟩ := ih inner
    exact ⟨r :: body,last,left,rfl,rfl,closing,List.forall_mem_cons.mpr ⟨⟨quote,zero⟩,inside⟩⟩

/-- What a string takes, and what is between its quotes. -/
theorem takeString (g last : Glyph) (body left : List Glyph) :
    (g :: (body ++ last :: left)).take (body.length + 1 + 1) = g :: (body ++ [last]) ∧
      (body ++ last :: left).take (body.length + 1 - 1) = body := by
  have apart : body ++ last :: left = (body ++ [last]) ++ left := by simp
  constructor
  · rw [List.take_succ_cons,apart,List.take_left' (by simp)]
  · rw [Nat.add_sub_cancel,List.take_left]

theorem quotedScanned {value : Text} (decoded : ∀ x ∈ g :: rest, Decoded x) (opening : g.char = '"')
    (closed : quotedWidth rest = some width)
    (read : Text.unquoteBody (Text.ofGlyphs (rest.take (width - 1))) = some value) :
    Scanned (g :: rest) ⟨.string,value,width + 1⟩ := by
  obtain ⟨first,others⟩ := List.forall_mem_cons.mp decoded
  obtain ⟨body,last,left,rfl,rfl,closing,guarded⟩ := quotedBody others closed
  obtain ⟨taken,inside⟩ := takeString g last body left
  rw [inside] at read
  have ends : Text.ofGlyphs (g :: (body ++ [last])) =
      Text.byte '"' :: (Text.ofGlyphs body ++ [Text.byte '"']) := by
    have front := first.raw (by rw [opening]; decide)
    have back := (others last (by simp)).raw (by rw [closing]; decide)
    simp [Text.ofGlyphs,front,back,opening,closing]
  exact {
    some := Nat.succ_pos _
    fits := by simp
    spells := by rw [taken]; exact .quoted opening closing read
    zero := by
      rw [taken,ends,List.mem_cons,List.mem_append,List.mem_singleton,not_or,not_or]
      exact ⟨by decide,Text.guardedZero 0 guarded read,by decide⟩ }

theorem rawScanned (decoded : ∀ x ∈ g :: rest, Decoded x) (opening : g.char.toNat = 0x60)
    (closed : rawWidth rest = some width) :
    Scanned (g :: rest)
      ⟨.string,(rest.take (width - 1)).flatMap fun r => Text.ofChar r.char,width + 1⟩ := by
  obtain ⟨body,last,left,rfl,rfl,closing,inside⟩ := rawBody closed
  obtain ⟨taken,literal⟩ := takeString g last body left
  rw [literal]
  have chars : ∀ x ∈ g :: (body ++ [last]), x.char.toNat ≠ 0 := by
    simp only [List.forall_mem_cons,List.forall_mem_append]
    exact ⟨by omega,fun x mem => (inside x mem).2,by omega,by simp⟩
  exact {
    some := Nat.succ_pos _
    fits := by simp
    spells := by rw [taken]; exact .raw opening closing fun x mem => (inside x mem).1
    zero := by
      rw [taken]
      refine zeroFree (fun x mem => decoded x ?_) chars
      rw [← taken] at mem
      exact List.mem_of_mem_take mem }

/-- What a scan takes, when it takes something. -/
def Scans (gs : List Glyph) (r : Except Problem Lexeme) : Prop := ∀ l, r = .ok l → Scanned gs l

theorem scansIte {P : Prop} [Decidable P] {a b : Except Problem Lexeme} (yes : P → Scans gs a)
    (no : ¬ P → Scans gs b) : Scans gs (if P then a else b) := by
  split
  · exact yes ‹_›
  · exact no ‹_›

theorem scansError (p : Problem) : Scans gs (.error p) := by
  intro l ok
  contradiction

theorem scansOk {l : Lexeme} (scanned : Scanned gs l) : Scans gs (.ok l) := by
  intro found same
  cases same
  exact scanned

/-- Symbols of one character. -/
theorem scansOne {c : Char} (decoded : ∀ x ∈ g :: rest, Decoded x) (char : g.char = c)
    (ascii : c.toNat ≠ 0 ∧ c.toNat < 128)
    (name : kind.isSymbol = true ∧ [Text.byte c] = kind.name) :
    Scans (g :: rest) (.ok (spelled kind 1 (g :: rest))) := by
  subst char
  have symbol : kind ∉ [.illegal, .eof, .string] := by
    simp only [List.mem_cons,List.not_mem_nil,or_false]
    rintro (rfl | rfl | rfl) <;> exact absurd name.1 (by decide)
  have raw := (decoded g List.mem_cons_self).raw ascii.2
  refine scansOk (spelledScanned decoded symbol (by simp) (by simp) ?_ fun _ => ?_)
  · simpa using ascii.1
  · simpa [Text.ofGlyphs,raw] using name.2

/-- Symbols of two characters. -/
theorem scansTwo {c d : Char} (decoded : ∀ x ∈ g :: rest, Decoded x) (char : g.char = c)
    (next : (rest.head?.map (·.char)).getD (Char.ofNat 0) = d)
    (ascii : (c.toNat ≠ 0 ∧ c.toNat < 128) ∧ d.toNat ≠ 0 ∧ d.toNat < 128)
    (name : kind.isSymbol = true ∧ [Text.byte c,Text.byte d] = kind.name) :
    Scans (g :: rest) (.ok (spelled kind 2 (g :: rest))) := by
  subst char next
  cases rest with
  | nil => exact absurd rfl ascii.2.1
  | cons h tail =>
    have symbol : kind ∉ [.illegal, .eof, .string] := by
      simp only [List.mem_cons,List.not_mem_nil,or_false]
      rintro (rfl | rfl | rfl) <;> exact absurd name.1 (by decide)
    have first := (decoded g List.mem_cons_self).raw ascii.1.2
    have second := (decoded h (by simp)).raw ascii.2.2
    refine scansOk (spelledScanned decoded symbol (by simp) (by simp) ?_ fun _ => ?_)
    · simpa using ⟨ascii.1.1,ascii.2.1⟩
    · simpa [Text.ofGlyphs,first,second] using name.2

theorem scanScanned (decoded : ∀ x ∈ g :: rest, Decoded x) : Scans (g :: rest) (scan g rest) := by
  unfold scan
  extract_lets next one two
  refine scansIte (fun h => scansOne decoded h (by decide) (by decide)) fun _ => ?_
  refine scansIte (fun h => scansOne decoded h (by decide) (by decide)) fun _ => ?_
  refine scansIte (fun h => scansOne decoded h (by decide) (by decide)) fun _ => ?_
  refine scansIte (fun h => scansOne decoded h (by decide) (by decide)) fun _ => ?_
  refine scansIte (fun h => scansOne decoded h (by decide) (by decide)) fun _ => ?_
  refine scansIte (fun h => scansOne decoded h (by decide) (by decide)) fun _ => ?_
  refine scansIte (fun h => scansOne decoded h (by decide) (by decide)) fun _ => ?_
  refine scansIte (fun h => ?_) fun _ => ?_
  · refine scansIte (fun h' => scansTwo decoded h h' (by decide) (by decide)) fun _ => ?_
    refine scansIte (fun h' => scansTwo decoded h h' (by decide) (by decide)) fun _ => ?_
    exact scansOne decoded h (by decide) (by decide)
  refine scansIte (fun h => ?_) fun _ => ?_
  · refine scansIte (fun h' => scansTwo decoded h h' (by decide) (by decide)) fun _ => ?_
    refine scansIte (fun h' => scansTwo decoded h h' (by decide) (by decide)) fun _ => ?_
    exact scansOne decoded h (by decide) (by decide)
  refine scansIte (fun h => ?_) fun _ => ?_
  · refine scansIte (fun h' => scansTwo decoded h h' (by decide) (by decide)) fun _ => ?_
    refine scansIte (fun h' => scansTwo decoded h h' (by decide) (by decide)) fun _ => ?_
    exact scansError _
  refine scansIte (fun h => ?_) fun _ => ?_
  · refine scansIte (fun h' => scansTwo decoded h h' (by decide) (by decide)) fun _ => ?_
    exact scansOne decoded h (by decide) (by decide)
  refine scansIte (fun h => ?_) fun _ => ?_
  · refine scansIte (fun h' => scansTwo decoded h h' (by decide) (by decide)) fun _ => ?_
    exact scansOne decoded h (by decide) (by decide)
  refine scansIte (fun opening => ?_) fun _ => ?_
  · split
    · exact scansError _
    · split
      · exact scansError _
      · exact scansOk (quotedScanned decoded opening ‹_› ‹_›)
  refine scansIte (fun opening => ?_) fun _ => ?_
  · split
    · exact scansError _
    · exact scansOk (rawScanned decoded opening ‹_›)
  refine scansIte (fun start => scansOk (identifierScanned decoded start)) fun _ => ?_
  refine scansIte (fun starts => scansOk (numericScanned decoded ?_)) fun _ => scansError _
  simp only [Bool.or_eq_true,Bool.and_eq_true,decide_eq_true_eq] at starts
  exact starts.imp_right And.left

end Scanning

/-! ### The tokens of a text -/

/-- Characters that tokens are written in, with blanks before, between and behind them. -/
inductive Layout : List Token → List Glyph → Prop where
  | blanks {gs : List Glyph} (blank : ∀ g ∈ gs, Text.isSpace g.char = true) : Layout [] gs
  | token {t : Token} {ts : List Token} {blanks spelling rest : List Glyph}
      (blank : ∀ g ∈ blanks, Text.isSpace g.char = true) (spells : Spells t.kind t.literal spelling)
      (more : Layout ts rest) : Layout (t :: ts) (blanks ++ (spelling ++ rest))

theorem Layout.blank {ts : List Token} {gs : List Glyph} {g : Glyph} (layout : Layout ts gs)
    (blank : Text.isSpace g.char = true) : Layout ts (g :: gs) := by
  cases layout with
  | blanks others => exact .blanks (List.forall_mem_cons.mpr ⟨blank,others⟩)
  | @token _ _ blanks spelling rest others spells more =>
    have front : ∀ x ∈ g :: blanks, Text.isSpace x.char = true :=
      List.forall_mem_cons.mpr ⟨blank,others⟩
    exact .token front spells more

theorem Layout.spells {ts : List Token} {gs : List Glyph} (layout : Layout ts gs) :
    ∀ t ∈ ts, ∃ spelling, Spells t.kind t.literal spelling := by
  induction layout with
  | blanks => simp
  | token _ spells _ ih => exact List.forall_mem_cons.mpr ⟨⟨_,spells⟩,ih⟩

/-- Tokens that lie in the characters up to the first zero byte, or in all of them. -/
def ReadUpToZero (ts : List Token) (gs : List Glyph) : Prop :=
  ∃ read ignored, gs = read ++ ignored ∧ Layout ts read ∧ 0 ∉ Text.ofGlyphs read ∧
    (ignored = [] ∨ (Text.ofGlyphs ignored).head? = some 0)

theorem ReadUpToZero.blank {ts : List Token} {g : Glyph} {gs : List Glyph} (decoded : Decoded g)
    (blank : Text.isSpace g.char = true) (upTo : ReadUpToZero ts gs) :
    ReadUpToZero ts (g :: gs) := by
  obtain ⟨read,ignored,rfl,layout,zero,stop⟩ := upTo
  refine ⟨g :: read,ignored,rfl,layout.blank blank,?_,stop⟩
  have char : 0 ∉ g.raw := fun inside => zeroChar (by decide) blank (decoded.mem (by decide) inside)
  simpa [Text.ofGlyphs] using And.intro char zero

theorem ReadUpToZero.token {l : Lexeme} {at_ : Position} {ts : List Token} {gs : List Glyph}
    (scanned : Scanned gs l) (upTo : ReadUpToZero ts (gs.drop l.width)) :
    ReadUpToZero (⟨l.kind,l.literal,at_⟩ :: ts) gs := by
  obtain ⟨read,ignored,same,layout,zero,stop⟩ := upTo
  refine ⟨gs.take l.width ++ read,ignored,?_,?_,?_,stop⟩
  · rw [List.append_assoc,← same,List.take_append_drop]
  · exact .token (List.forall_mem_nil _) scanned.spells layout
  · simpa [Text.ofGlyphs] using And.intro scanned.zero zero

theorem tokensFromLayout {skip : Nat} {at_ : Position} {gs : List Glyph} {ts : Tokens}
    (decoded : ∀ g ∈ gs, Decoded g) (inside : skip ≤ gs.length)
    (ok : tokensFrom skip at_ gs = .ok ts) : ReadUpToZero ts.tokens (gs.drop skip) := by
  induction gs generalizing skip at_ ts with
  | nil =>
    have done : ReadUpToZero [] [] := ⟨[],[],rfl,.blanks (by simp),by simp [Text.ofGlyphs],.inl rfl⟩
    cases skip <;> (simp only [tokensFrom] at ok; cases ok; simpa using done)
  | cons g rest ih =>
    obtain ⟨first,others⟩ := List.forall_mem_cons.mp decoded
    cases skip with
    | succ skip => exact ih others (Nat.le_of_succ_le_succ inside) ok
    | zero =>
      simp only [tokensFrom] at ok
      split at ok
      · rename_i blank
        exact (ih others (Nat.zero_le _) ok).blank first blank
      split at ok
      · rename_i zero
        cases ok
        refine ⟨[],g :: rest,rfl,.blanks (by simp),by simp [Text.ofGlyphs],.inr ?_⟩
        simp [Text.ofGlyphs,first.raw (by rw [zero]; decide),Text.byte,zero]
      split at ok
      · contradiction
      · rename_i l found
        obtain ⟨more,later,ok⟩ := bindOk ok
        cases ok
        have scanned := scanScanned decoded l found
        obtain ⟨n,width⟩ := Nat.exists_eq_add_of_le' scanned.some
        have fits := scanned.fits
        rw [width,Nat.add_sub_cancel] at later
        rw [width,List.length_cons] at fits
        refine .token scanned ?_
        rw [width]
        exact ih others (Nat.le_of_succ_le_succ fits) later

theorem tokenizeUpToZero {t : Text} {ts : Tokens} (ok : tokenize t = .ok ts) :
    ReadUpToZero ts.tokens (Text.glyphs t) :=
  tokensFromLayout (Text.glyphsFromDecoded 0 t) (Nat.zero_le _) ok

/-- What is read and what is ignored, as bytes. -/
theorem ReadUpToZero.bytes {ts : List Token} {gs : List Glyph} (upTo : ReadUpToZero ts gs) :
    ∃ read ignored, gs = read ++ ignored ∧ Layout ts read ∧
      Text.ofGlyphs read = (Text.ofGlyphs gs).takeWhile (· ≠ 0) ∧
      Text.ofGlyphs ignored = (Text.ofGlyphs gs).dropWhile (· ≠ 0) ∧
      (ignored = [] ↔ 0 ∉ Text.ofGlyphs gs) := by
  obtain ⟨read,ignored,rfl,layout,zero,stop⟩ := upTo
  have whole : Text.ofGlyphs (read ++ ignored) = Text.ofGlyphs read ++ Text.ofGlyphs ignored :=
    List.flatMap_append
  have before : ∀ b ∈ Text.ofGlyphs read, decide (b ≠ 0) = true := by
    intro b mem
    exact decide_eq_true fun same => zero (same ▸ mem)
  refine ⟨read,ignored,rfl,layout,?_⟩
  rw [whole,List.takeWhile_append_of_pos before,List.dropWhile_append_of_pos before,List.mem_append]
  rcases stop with rfl | head
  · simpa [Text.ofGlyphs] using zero
  · obtain ⟨behind,same⟩ := List.head?_eq_some_iff.mp head
    have some : ignored ≠ [] := by
      rintro rfl
      contradiction
    simp [same,some]

theorem tokenizeSpells {t : Text} {ts : Tokens} (ok : tokenize t = .ok ts) :
    ∀ token ∈ ts.tokens, ∃ spelling, Spells token.kind token.literal spelling := by
  obtain ⟨read,_,_,layout,_⟩ := tokenizeUpToZero ok
  exact layout.spells

theorem tokenizeSpelled {t : Text} {ts : Tokens} (ok : tokenize t = .ok ts) :
    ∀ token ∈ ts.tokens, token.Spelled := by
  intro token mem
  obtain ⟨_,spells⟩ := tokenizeSpells ok token mem
  exact spells.symbol

theorem tokenizeWords {t : Text} {ts : Tokens} (ok : tokenize t = .ok ts) :
    ∀ token ∈ ts.tokens, token.kind ≠ .eof := by
  intro token mem
  obtain ⟨_,spells⟩ := tokenizeSpells ok token mem
  exact spells.notEnd

end LogSql.Query
