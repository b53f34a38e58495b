import LogSql.Proofs.Query.Calls
import LogSql.Proofs.Text.Fields
import LogSql.Proofs.Text.Quoting

/-! Quoted texts in queries. Whatever text is quoted stands for one token, of the text itself, wherever it
starts and whatever follows it. A selector that is written with one quoted value is read with that value
and nothing else. -/
namespace LogSql.Query

open Text (glyphs)

/-! ### Tokens in front of others -/

/-- The place of the last of some characters that follow this place. -/
def Position.past (p : Position) (gs : List Glyph) : Position := gs.foldl (fun q g => q.after g.char) p

/-- Tokens with another one in front. -/
def Tokens.behind (t : Token) (ts : Tokens) : Tokens := { ts with tokens := t :: ts.tokens }

/-- A text in front of another is read as one token, placed at its first character, and the other is read
from the place behind it on. -/
def Lexes (kind : TokenKind) (literal t rest : Text) : Prop := ∀ at_,
  tokensFrom 0 at_ (glyphs (t ++ rest)) =
    (tokensFrom 0 (at_.past (glyphs t)) (glyphs rest)).map
      (Tokens.behind ⟨kind, literal, at_.past ((glyphs t).take 1)⟩)

section Lexing

variable {kind : TokenKind} {literal t rest : Text} {g : Glyph} {gs left : List Glyph}

theorem tokensPast (at_ : Position) (gs left : List Glyph) :
    tokensFrom gs.length at_ (gs ++ left) = tokensFrom 0 (at_.past gs) left := by
  induction gs generalizing at_ with
  | nil => rfl
  | cons g gs ih => exact ih (at_.after g.char)

theorem lexes (own : glyphs t = g :: gs) (apart : glyphs (t ++ rest) = glyphs t ++ glyphs rest)
    (ink : Text.isSpace g.char = false) (some : g.char.toNat ≠ 0)
    (read : scan g (gs ++ glyphs rest) = .ok ⟨kind, literal, gs.length + 1⟩) :
    Lexes kind literal t rest := by
  intro at_
  rw [apart,own,List.cons_append,tokensFrom,if_neg (by simp [ink]),if_neg some,read]
  simp only [Nat.add_sub_cancel,tokensPast]
  show _ = (tokensFrom 0 ((at_.after g.char).past gs) (glyphs rest)).map _
  cases tokensFrom 0 ((at_.after g.char).past gs) (glyphs rest) <;> rfl

/-! ### Quoted texts -/

/-- Characters that do not end the body of a quoted text. -/
def Passed (gs : List Glyph) : Prop :=
  ∀ left, quotedWidth (gs ++ left) = (quotedWidth left).map (· + gs.length)

theorem passedNil : Passed [] := fun left => by simp

theorem Passed.append {gs more : List Glyph} (first : Passed gs) (second : Passed more) :
    Passed (gs ++ more) := by
  intro left
  rw [List.append_assoc,first,second,Option.map_map,List.length_append]
  exact congrArg (Option.map · _) (funext fun n => by simp only [Function.comp_apply]; omega)

theorem passedPlain (quote : g.char ≠ '"') (some : g.char.toNat ≠ 0) (slash : g.char ≠ '\\') :
    Passed [g] := by
  intro left
  show quotedWidth (g :: left) = _
  rw [quotedWidth.eq_def]
  exact (if_neg quote).trans ((if_neg some).trans (if_neg slash))

theorem passedEscape (slash : g.char = '\\') (next : Glyph) : Passed [g, next] := by
  intro left
  show quotedWidth (g :: next :: left) = _
  rw [quotedWidth.eq_def]
  simp only [slash]
  rfl

theorem passedBody {t : Text} (inside : t.all Text.isBodyByte = true) : Passed (glyphs t) := by
  induction t with
  | nil => exact passedNil
  | cons b t ih =>
    simp only [List.all_cons,Bool.and_eq_true,Text.isBodyByte,decide_eq_true_eq] at inside
    obtain ⟨⟨⟨⟨small,some⟩,quote⟩,slash⟩,others⟩ := inside
    rw [Text.asciiRead small]
    refine Passed.append (passedPlain ?_ ?_ ?_) (ih others)
    · exact fun same => quote (Text.byteOfChar same)
    · exact fun zero => some (UInt8.toNat_inj.mp ((Text.smallChar small).symm.trans zero))
    · exact fun same => slash (Text.byteOfChar same)

theorem inscribedPassed {written : Text} (inscribed : Text.Inscribed g written) :
    Passed (glyphs written) := by
  cases inscribed with
  | @plain c b bs bytes first ends =>
    simp only [List.mem_cons,List.not_mem_nil,or_false,not_or] at ends
    rw [Text.charAlone first]
    refine passedPlain ends.2.2.1 (fun zero => ends.1 ?_) ends.2.2.2
    rw [← Char.ofNat_toNat c,zero]
  | @escape _ sign digits ascii inside reads =>
    rw [Text.asciiRead (by decide),Text.asciiRead ascii]
    exact (passedEscape rfl _).append (passedBody inside)

theorem quotedPassed (v : Text) : Passed (glyphs ((glyphs v).flatMap (Text.escapeGlyph '"'))) := by
  have each {gs : List Glyph} (encoded : ∀ g ∈ gs, Text.Encoded g) :
      Passed (glyphs (gs.flatMap (Text.escapeGlyph '"'))) := by
    induction gs with
    | nil => exact passedNil
    | cons g gs ih =>
      obtain ⟨first,others⟩ := List.forall_mem_cons.mp encoded
      have inscribed := Text.glyphInscribed first
      rw [List.flatMap_cons,inscribed.apart]
      exact (inscribedPassed inscribed).append (ih others)
  exact each (Text.glyphsFromEncoded 0 v)

/-- The quote around a text. -/
def quoteMark : Glyph := ⟨'"',[Text.byte '"']⟩

theorem scanQuoted (gs : List Glyph) : scan quoteMark gs =
    match quotedWidth gs with
    | none => .error .unterminatedString
    | some width =>
      match Text.unquoteBody (Text.ofGlyphs (gs.take (width - 1))) with
      | none => .error .badStringLiteral
      | some value => .ok ⟨.string, value, width + 1⟩ := rfl

/-- A quoted text is one token, and its literal is the text. -/
theorem quoteLexes (v rest : Text) : Lexes .string v (Text.quote v) rest := by
  have small : Text.byte '"' < 0x80 := by decide
  have passed := quotedPassed v
  have value := Text.quotedRead v
  unfold Text.quote
  generalize (glyphs v).flatMap (Text.escapeGlyph '"') = body at passed value
  have opened (t : Text) : glyphs (Text.byte '"' :: t) = quoteMark :: glyphs t := Text.asciiRead small t
  have closed (rest : Text) :
      glyphs (body ++ Text.byte '"' :: rest) = glyphs body ++ quoteMark :: glyphs rest :=
    Text.glyphsBefore small (Nat.zero_le _) rest
  have own : glyphs (Text.byte '"' :: body ++ [Text.byte '"']) =
      quoteMark :: (glyphs body ++ [quoteMark]) := by
    rw [List.cons_append,opened,closed]
    rfl
  have width : quotedWidth (glyphs body ++ quoteMark :: glyphs rest) =
      some ((glyphs body).length + 1) := by
    rw [passed,quotedWidth.eq_def]
    exact congrArg some (Nat.add_comm 1 _)
  refine lexes own ?_ (by decide) (by decide) ?_
  · rw [own,List.append_assoc,List.cons_append,opened,List.singleton_append,closed]
    simp
  · rw [List.append_assoc,List.singleton_append,scanQuoted,width]
    simp only [Nat.add_sub_cancel,List.take_left,Text.ofGlyphsText,value,List.length_append,
      List.length_singleton]

/-! ### Names and symbols -/

theorem scanIdentifier (start : isIdentStart g.char = true) (gs : List Glyph) : scan g gs =
    .ok (spelled .identifier ((g :: gs).takeWhile fun r => isIdentPart r.char).length (g :: gs)) := by
  have other {c : Char} (none : isIdentStart c = false) : g.char ≠ c := by
    intro same
    rw [same,none] at start
    contradiction
  have tick : g.char.toNat ≠ 0x60 := by
    intro same
    exact @other (Char.ofNat 0x60) (by decide) (by rw [← same,Char.ofNat_toNat])
  unfold scan
  dsimp only
  iterate 13 refine (if_neg (other (by decide))).trans ?_
  exact (if_neg tick).trans (if_pos start)

theorem nameStart (b : UInt8) : Text.isNameStart b = true →
    isIdentStart (Char.ofNat b.toNat) = true ∧ Text.isSpace (Char.ofNat b.toNat) = false ∧
      (Char.ofNat b.toNat).toNat ≠ 0 :=
  @Text.everyByte (fun b => Text.isNameStart b = true →
    isIdentStart (Char.ofNat b.toNat) = true ∧ Text.isSpace (Char.ofNat b.toNat) = false ∧
      (Char.ofNat b.toNat).toNat ≠ 0) (by decide +kernel) b

theorem namePart (b : UInt8) :
    Text.isNamePart b = true → b < 0x80 ∧ isIdentPart (Char.ofNat b.toNat) = true :=
  @Text.everyByte (fun b => Text.isNamePart b = true →
    b < 0x80 ∧ isIdentPart (Char.ofNat b.toNat) = true) (by decide +kernel) b

theorem nameLexes {name : Text} (known : Text.isName name = true) {x : UInt8} (small : x < 0x80)
    (ends : isIdentPart (Char.ofNat x.toNat) = false) (rest : Text) :
    Lexes .identifier name name (x :: rest) := by
  obtain ⟨b,bs,same,first,parts⟩ := Text.nameParts known
  have ascii : ∀ b ∈ name, b < 0x80 := fun b mem => (namePart b (parts b mem)).1
  have own := Text.asciiAlone ascii
  obtain ⟨start,ink,some⟩ := nameStart b first
  have run := Text.asciiRun (fun b mem => namePart b (parts b mem)) small ends rest
  rw [Text.asciiApart ascii] at run
  have front : glyphs name = ⟨Char.ofNat b.toNat,[b]⟩ :: bs.map fun b => ⟨Char.ofNat b.toNat,[b]⟩ := by
    rw [own,same]
    rfl
  refine lexes front (Text.asciiApart ascii _) ink some ?_
  rw [scanIdentifier start,← List.cons_append,← front,run,spelled,List.take_left,Text.ofGlyphsText,front]
  simp

theorem symbolLexes {x : UInt8} (small : x < 0x80) (ink : Text.isSpace (Char.ofNat x.toNat) = false)
    (some : x ≠ 0) (read : scan ⟨Char.ofNat x.toNat,[x]⟩ (glyphs rest) = .ok ⟨kind, [x], 1⟩) :
    Lexes kind [x] [x] rest := by
  have zero : (Char.ofNat x.toNat).toNat ≠ 0 := by
    rw [Text.smallChar small]
    exact fun none => some (UInt8.toNat_inj.mp none)
  exact lexes (Text.asciiRead small []) (Text.asciiApart (by simpa using small) rest) ink zero read

end Lexing

/-! ### Selectors of one value -/

/-- A text that is read as words, wherever it starts. -/
def Reads (t : Text) (words : List (TokenKind × Text)) : Prop := ∀ at_,
  ∃ ts, tokensFrom 0 at_ (glyphs t) = .ok ts ∧ ts.tokens.map Token.word = words

theorem Lexes.reads {kind : TokenKind} {literal t rest : Text} {words : List (TokenKind × Text)}
    (first : Lexes kind literal t rest) (later : Reads rest words) :
    Reads (t ++ rest) ((kind, literal) :: words) := by
  intro at_
  obtain ⟨ts,read,same⟩ := later (at_.past (glyphs t))
  rw [first,read]
  exact ⟨_,rfl,congrArg _ same⟩

/-- The text that selects the streams in which a label has a value. -/
def selectorText (label value : Text) : Text :=
  Text.byte '\x7b' :: (label ++ Text.byte '=' :: (Text.quote value ++ [Text.byte '\x7d']))

theorem selectorReads {label : Text} (named : Text.isName label = true) (value : Text) :
    Reads (selectorText label value) [(.leftBrace, [Text.byte '\x7b']), (.identifier, label),
      (.equal, [Text.byte '=']), (.string, value), (.rightBrace, [Text.byte '\x7d'])] := by
  have stop : Reads [Text.byte '\x7d'] [(.rightBrace, [Text.byte '\x7d'])] :=
    @Lexes.reads _ _ _ [] [] (symbolLexes (by decide) (by decide) (by decide) rfl)
      fun at_ => ⟨⟨[],at_⟩,rfl,rfl⟩
  have quoted := (quoteLexes value [Text.byte '\x7d']).reads stop
  -- The character behind an equals sign decides whether it is an operator of its own.
  have equal : Lexes .equal [Text.byte '='] [Text.byte '='] (Text.quote value ++ [Text.byte '\x7d']) := by
    refine symbolLexes (by decide) (by decide) (by decide) ?_
    rw [Text.quote,List.cons_append,List.cons_append,Text.asciiRead (by decide)]
    rfl
  have name := nameLexes named (x := Text.byte '=') (by decide) (by decide)
    (Text.quote value ++ [Text.byte '\x7d'])
  exact (symbolLexes (by decide) (by decide) (by decide) rfl).reads (name.reads (equal.reads quoted))

/-- The selector of the streams in which a label has a value. -/
def labelIs (label value : Text) : Form.Source := ⟨[⟨label,"=",value,by decide⟩],by simp,[]⟩

theorem queryLabelIs (macros : List Text) {label value : Text} {ts : List Token} {stop : Token}
    (words : ts.map Token.word = [(.leftBrace, [Text.byte '\x7b']), (.identifier, label),
      (.equal, [Text.byte '=']), (.string, value), (.rightBrace, [Text.byte '\x7d'])])
    (ends : stop.kind = .eof) :
    query macros ⟨ts,stop⟩ = .ok ((Form.rows (labelIs label value)).node, ⟨[],stop⟩) := by
  obtain ⟨⟨_,_,_⟩,ts,rfl,first,words⟩ := List.map_eq_cons_iff.mp words
  obtain ⟨⟨_,_,_⟩,ts,rfl,second,words⟩ := List.map_eq_cons_iff.mp words
  obtain ⟨⟨_,_,_⟩,ts,rfl,third,words⟩ := List.map_eq_cons_iff.mp words
  obtain ⟨⟨_,_,_⟩,ts,rfl,fourth,words⟩ := List.map_eq_cons_iff.mp words
  obtain ⟨⟨_,_,_⟩,ts,rfl,fifth,words⟩ := List.map_eq_cons_iff.mp words
  obtain rfl := List.map_eq_nil_iff.mp words
  cases first
  cases second
  cases third
  cases fourth
  cases fifth
  obtain ⟨_,_,_⟩ := stop
  cases ends
  rfl

/-- A selector that is written with a quoted value selects that value. -/
theorem selectorRead (macros : List Text) {label : Text} (named : Text.isName label = true)
    (value : Text) : parse macros (Text.trim (selectorText label value)) =
      .ok (Form.rows (labelIs label value)).node := by
  have bounds : selectorText label value = Text.byte '\x7b' ::
      ((label ++ Text.byte '=' :: Text.quote value) ++ [Text.byte '\x7d']) := by simp [selectorText]
  have whole : Text.trim (selectorText label value) = selectorText label value := by
    rw [bounds]
    exact Text.trimInk (by decide) (by decide) (by decide) (by decide) _
  have some : ¬ (Text.trim (selectorText label value)).isEmpty = true := by
    rw [whole]
    exact Bool.false_ne_true
  obtain ⟨ts,tokens,words⟩ := selectorReads named value .start
  have read : query macros ⟨ts.tokens,ts.eof⟩ = _ := queryLabelIs macros words rfl
  unfold parse
  rw [whole,if_neg some,tokenize,tokens]
  simp only [bind,Except.bind,StateT.run,read]
  rfl

end LogSql.Query
