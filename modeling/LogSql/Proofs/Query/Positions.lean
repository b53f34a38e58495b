import Mathlib.Data.List.Induction
import LogSql.Proofs.Query.Spelling
import LogSql.Proofs.Text.Fields

/-! The places of tokens. The reader counts lines and columns as it moves from character to character; what it
has counted in front of a token is what the text in front of the token says, in whatever characters it is
written and wherever its strings are broken into lines. -/
namespace LogSql

/-! ### Lines -/

namespace Text

/-- What stands behind the last newline. -/
def lastLine (t : Text) : Text := (t.reverse.takeWhile (· ≠ byte '\n')).reverse

theorem lastLineBroken (t : Text) : lastLine (t ++ [byte '\n']) = [] := by simp [lastLine]

theorem lastLineAppend (t : Text) {more : Text} (whole : byte '\n' ∉ more) :
    lastLine (t ++ more) = lastLine t ++ more := by
  have inside : ∀ b ∈ more.reverse, decide (b ≠ byte '\n') = true := fun b mem =>
    decide_eq_true fun same => whole (same ▸ List.mem_reverse.mp mem)
  rw [lastLine,List.reverse_append,List.takeWhile_append_of_pos inside,List.reverse_append,
    List.reverse_reverse,lastLine]

theorem ofGlyphsSnoc (gs : List Glyph) (g : Glyph) : ofGlyphs (gs ++ [g]) = ofGlyphs gs ++ g.raw := by
  simp [ofGlyphs]

theorem newlineRaw {g : Glyph} (decoded : Decoded g) (newline : g.char = '\n') : g.raw = [byte '\n'] := by
  rw [decoded.raw (by rw [newline]; decide),newline]

theorem newlineAbsent {g : Glyph} (decoded : Decoded g) (other : g.char ≠ '\n') : byte '\n' ∉ g.raw :=
  fun inside => other (Char.toNat_inj.mp (decoded.mem (by decide) inside))

/-- The last line of some characters is made of the last ones of them. -/
theorem lastLineGlyphs {gs : List Glyph} (decoded : ∀ g ∈ gs, Decoded g) :
    ∃ front line, gs = front ++ line ∧ lastLine (ofGlyphs gs) = ofGlyphs line := by
  induction gs using List.reverseRecOn with
  | nil => exact ⟨[],[],rfl,rfl⟩
  | append_singleton gs g ih =>
    obtain ⟨others,own⟩ := List.forall_mem_append.mp decoded
    have last := own g (List.mem_singleton_self g)
    obtain ⟨front,line,rfl,same⟩ := ih others
    rw [ofGlyphsSnoc]
    by_cases newline : g.char = '\n'
    · refine ⟨front ++ line ++ [g],[],by simp,?_⟩
      rw [newlineRaw last newline,lastLineBroken]
      rfl
    · refine ⟨front,line ++ [g],by simp,?_⟩
      rw [lastLineAppend _ (newlineAbsent last newline),same,ofGlyphsSnoc]

end Text

namespace Query

open Text (Decoded byte lastLine)

/-! ### Places -/

namespace Position

/-- The line and the column that a text ends in. -/
def upTo (before : Text) : Position := ⟨1 + before.count (byte '\n'),(Text.glyphs (lastLine before)).length⟩

/-- The place of what stands behind a text. -/
def behind (before : Text) : Position :=
  ⟨1 + before.count (byte '\n'),1 + (Text.glyphs (lastLine before)).length⟩

/-- Places in the order in which they are read. -/
def Before (p q : Position) : Prop := p.line < q.line ∨ p.line = q.line ∧ p.column < q.column

theorem Before.trans {p q r : Position} (first : p.Before q) (second : q.Before r) : p.Before r := by
  unfold Before at *
  omega

theorem afterBefore (p : Position) (c : Char) : p.Before (p.after c) := by
  unfold Before after
  split
  · exact .inl (Nat.lt_succ_self _)
  · exact .inr ⟨rfl,Nat.lt_succ_self _⟩

theorem afterBehind (before : Text) {c : Char} (other : c ≠ '\n') : (upTo before).after c = behind before := by
  rw [after,if_neg other,upTo,behind,Nat.add_comm 1 (Text.glyphs _).length]

end Position

section Counting

variable {t : Text} {before more : List Glyph}

/-- The reader counts a character as the text does that ends with it. -/
theorem upToSnoc {g : Glyph} (whole : Text.glyphs t = before ++ (g :: more)) :
    Position.upTo (Text.ofGlyphs (before ++ [g])) = (Position.upTo (Text.ofGlyphs before)).after g.char := by
  have decoded : ∀ x ∈ before ++ (g :: more), Decoded x := whole ▸ Text.glyphsFromDecoded 0 t
  obtain ⟨others,own⟩ := List.forall_mem_append.mp decoded
  have last := own g List.mem_cons_self
  rw [Position.after,Text.ofGlyphsSnoc]
  split
  · rename_i newline
    rw [Position.upTo,Text.newlineRaw last newline,Text.lastLineBroken,List.count_append]
    rfl
  · rename_i other
    have absent := Text.newlineAbsent last other
    obtain ⟨front,line,rfl,same⟩ := Text.lastLineGlyphs others
    have shorter : Text.glyphs (Text.ofGlyphs line) = line := Text.glyphsInside (by simpa using whole)
    have ended : Text.glyphs t = front ++ (line ++ [g] ++ more) := by simpa using whole
    have longer : Text.glyphs (Text.ofGlyphs (line ++ [g])) = line ++ [g] := Text.glyphsInside ended
    rw [Position.upTo,Position.upTo,List.count_append,List.count_eq_zero.mpr absent,
      Text.lastLineAppend _ absent,same,← Text.ofGlyphsSnoc,longer,shorter,List.length_append]
    rfl

theorem upToBefore {gs : List Glyph} (whole : Text.glyphs t = before ++ (gs ++ more)) (some : gs ≠ []) :
    (Position.upTo (Text.ofGlyphs before)).Before (.upTo (Text.ofGlyphs (before ++ gs))) := by
  induction gs generalizing before with
  | nil => contradiction
  | cons g gs ih =>
    have step := Position.afterBefore (.upTo (Text.ofGlyphs before)) g.char
    rw [← upToSnoc whole] at step
    cases gs with
    | nil => exact step
    | cons h gs =>
      have behind : Text.glyphs t = before ++ [g] ++ (h :: gs ++ more) := by simpa using whole
      have later := ih behind (by simp)
      rw [List.append_assoc] at later
      exact step.trans later

end Counting

/-! ### Tokens at their places -/

/-- Characters behind others that tokens are written in, as in a layout: each token has the place of its first
byte in the whole. -/
inductive Located : List Glyph → List Token → List Glyph → Prop where
  | blanks {before gs : List Glyph} (blank : ∀ g ∈ gs, Text.isSpace g.char = true) : Located before [] gs
  | token {t : Token} {ts : List Token} {before blanks spelling rest : List Glyph}
      (blank : ∀ g ∈ blanks, Text.isSpace g.char = true) (spells : Spells t.kind t.literal spelling)
      (place : t.pos = .behind (Text.ofGlyphs (before ++ blanks)))
      (more : Located (before ++ blanks ++ spelling) ts rest) :
      Located before (t :: ts) (blanks ++ (spelling ++ rest))

theorem Spells.some {kind : TokenKind} {literal : Text} {gs : List Glyph} (spells : Spells kind literal gs) :
    gs ≠ [] := by
  cases spells with
  | written _ some => exact some
  | quoted => simp
  | raw => simp

namespace Located

variable {t : Text} {ts : List Token} {before gs more : List Glyph}

theorem blank {g : Glyph} (located : Located (before ++ [g]) ts gs) (space : Text.isSpace g.char = true) :
    Located before ts (g :: gs) := by
  cases located with
  | blanks others => exact .blanks (List.forall_mem_cons.mpr ⟨space,others⟩)
  | @token _ _ _ blanks spelling rest others spells place later =>
    have front : ∀ x ∈ g :: blanks, Text.isSpace x.char = true := List.forall_mem_cons.mpr ⟨space,others⟩
    have same : before ++ [g] ++ blanks = before ++ (g :: blanks) := by simp
    rw [same] at place later
    exact .token front spells place later

/-- Every token stands behind some of the characters and is spelled by the next ones. -/
theorem each (located : Located before ts gs) : ∀ token ∈ ts, ∃ front spelling rest,
    gs = front ++ (spelling ++ rest) ∧ Spells token.kind token.literal spelling ∧
      token.pos = .behind (Text.ofGlyphs (before ++ front)) := by
  induction located with
  | blanks => simp
  | @token t ts before blanks spelling rest _ spells place _ ih =>
    refine List.forall_mem_cons.mpr ⟨⟨blanks,spelling,rest,rfl,spells,place⟩,fun token mem => ?_⟩
    obtain ⟨front,word,behind,rfl,own,there⟩ := ih token mem
    refine ⟨blanks ++ spelling ++ front,word,behind,by simp,own,?_⟩
    simpa using there

theorem increasing (located : Located before ts gs) (whole : Text.glyphs t = before ++ (gs ++ more)) :
    ts.Pairwise fun a b => a.pos.Before b.pos := by
  induction located with
  | blanks => exact .nil
  | @token head ts before blanks spelling rest _ spells place later ih =>
    refine List.pairwise_cons.mpr ⟨fun token mem => ?_,ih (by simpa using whole)⟩
    obtain ⟨front,word,behind,rfl,_,there⟩ := later.each token mem
    have between : Text.glyphs t = before ++ blanks ++ (spelling ++ front ++ (word ++ behind ++ more)) := by
      simpa using whole
    have apart := upToBefore between (by simp [spells.some])
    rw [place,there]
    rw [← List.append_assoc] at apart
    unfold Position.Before Position.upTo Position.behind at *
    dsimp only at *
    omega

/-- A text that goes on to the end of the characters at least does not end in front of a token. -/
theorem notPast (located : Located before ts gs) {last : List Glyph}
    (whole : Text.glyphs t = before ++ (gs ++ (last ++ more))) : ∀ token ∈ ts,
      ¬ (Position.upTo (Text.ofGlyphs (before ++ (gs ++ last)))).Before token.pos := by
  intro token mem
  obtain ⟨front,spelling,rest,rfl,spells,place⟩ := located.each token mem
  have onward : Text.glyphs t = before ++ front ++ (spelling ++ rest ++ last ++ more) := by simpa using whole
  have apart := upToBefore onward (by simp [spells.some])
  have same : before ++ front ++ (spelling ++ rest ++ last) =
      before ++ (front ++ (spelling ++ rest) ++ last) := by simp
  rw [same] at apart
  rw [place]
  unfold Position.Before Position.upTo Position.behind at *
  dsimp only at *
  omega

end Located

theorem tokensLocated {t : Text} {before gs : List Glyph} {skip : Nat} {at_ : Position} {ts : Tokens}
    (whole : Text.glyphs t = before ++ gs) (inside : skip ≤ gs.length)
    (reached : at_ = .upTo (Text.ofGlyphs before)) (ok : tokensFrom skip at_ gs = .ok ts) :
    ∃ read last ignored, gs.drop skip = read ++ (last ++ ignored) ∧
      Located (before ++ gs.take skip) ts.tokens read ∧
      ts.stop = .upTo (Text.ofGlyphs (before ++ (gs.take skip ++ (read ++ last)))) := by
  induction gs generalizing skip at_ before ts with
  | nil =>
    cases skip <;>
      (simp only [tokensFrom] at ok; cases ok; exact ⟨[],[],[],rfl,.blanks (by simp),by simpa using reached⟩)
  | cons g rest ih =>
    have next : Text.glyphs t = before ++ [g] ++ rest := by simpa using whole
    have here : at_.after g.char = .upTo (Text.ofGlyphs (before ++ [g])) := by rw [upToSnoc whole,reached]
    cases skip with
    | succ skip =>
      obtain ⟨read,last,ignored,same,located,stop⟩ := ih next (Nat.le_of_succ_le_succ inside) here ok
      exact ⟨read,last,ignored,same,by simpa using located,by simpa using stop⟩
    | zero =>
      simp only [tokensFrom] at ok
      split at ok
      · rename_i blank
        obtain ⟨read,last,ignored,same,located,stop⟩ := ih next (Nat.zero_le _) here ok
        rw [List.drop_zero] at same
        rw [List.take_zero,List.append_nil] at located
        exact ⟨g :: read,last,ignored,by simp [same],by simpa using located.blank blank,by simpa using stop⟩
      rename_i ink
      split at ok
      · cases ok
        exact ⟨[],[g],rest,rfl,.blanks (by simp),by simpa using here⟩
      split at ok
      · contradiction
      · rename_i l found
        obtain ⟨more,later,ok⟩ := bindOk ok
        cases ok
        have decoded : ∀ x ∈ g :: rest, Decoded x := fun x mem =>
          Text.glyphsFromDecoded 0 t x (show x ∈ Text.glyphs t by simp [whole,mem])
        have scanned := scanScanned decoded l found
        obtain ⟨n,width⟩ := Nat.exists_eq_add_of_le' scanned.some
        have fits := scanned.fits
        have spells := scanned.spells
        rw [width,List.take_succ_cons] at spells
        rw [width,Nat.add_sub_cancel] at later
        rw [width,List.length_cons] at fits
        obtain ⟨read,last,ignored,same,located,stop⟩ := ih next (Nat.le_of_succ_le_succ fits) here later
        have other : g.char ≠ '\n' := fun newline => ink (by rw [newline]; decide)
        refine ⟨(g :: rest.take n) ++ read,last,ignored,?_,?_,?_⟩
        · rw [List.append_assoc,← same]
          simp
        · have place : at_.after g.char = .behind (Text.ofGlyphs (before ++ [])) := by
            rw [List.append_nil,reached,Position.afterBehind _ other]
          have more : Located (before ++ [] ++ g :: rest.take n) more.tokens read := by simpa using located
          simpa using Located.token (t := ⟨l.kind,l.literal,at_.after g.char⟩) (List.forall_mem_nil _) spells place more
        · simpa using stop

/-- The tokens of a text stand in its characters up to where it ends for the reader, one behind the other and
with blanks between them only. Each has the line that the newlines in front of its first byte tell and the
column that the characters since the last of them tell, so that no two have the same place. The end is not in
front of any of them. -/
theorem tokensPlaced {t : Text} {ts : Tokens} (ok : tokenize t = .ok ts) :
    (∃ read ignored, Text.glyphs t = read ++ ignored ∧ Located [] ts.tokens read) ∧
      (∀ token ∈ ts.tokens, ∃ before spelling after, Text.glyphs t = before ++ (spelling ++ after) ∧
        Spells token.kind token.literal spelling ∧
        token.pos.line = 1 + (Text.ofGlyphs before).count (byte '\n') ∧
        token.pos.column = 1 + (Text.glyphs (lastLine (Text.ofGlyphs before))).length) ∧
      (ts.tokens.Pairwise fun a b => a.pos.Before b.pos) ∧
      ∀ token ∈ ts.tokens, ¬ ts.stop.Before token.pos := by
  have all : Text.glyphs t = [] ++ Text.glyphs t := rfl
  obtain ⟨read,last,ignored,whole,located,stop⟩ := tokensLocated all (Nat.zero_le _) rfl ok
  rw [List.drop_zero] at whole
  rw [List.take_zero,List.append_nil] at located
  have placed : Text.glyphs t = [] ++ (read ++ (last ++ ignored)) := whole
  refine ⟨⟨read,last ++ ignored,whole,located⟩,fun token mem => ?_,located.increasing placed,?_⟩
  · obtain ⟨front,spelling,rest,rfl,spells,place⟩ := located.each token mem
    refine ⟨front,spelling,rest ++ (last ++ ignored),by rw [whole]; simp,spells,?_⟩
    rw [place]
    exact ⟨rfl,rfl⟩
  · rw [stop]
    exact located.notPast placed

/-- A character of two bytes, a newline between two of them, and a byte that belongs to none. -/
def brokenLines : Text := .concat ["\x7ba=\"é\"\x7d\n|= `ü\n",[0xFF],"` |= \"y\""]

theorem brokenLinesPlaced : ∃ ts, tokenize brokenLines = .ok ts ∧
    ts.tokens.map (·.pos) = [⟨1,1⟩,⟨1,2⟩,⟨1,3⟩,⟨1,4⟩,⟨1,7⟩,⟨2,1⟩,⟨2,4⟩,⟨3,4⟩,⟨3,7⟩] ∧
    (∀ token ∈ ts.tokens, ∃ before spelling after, Text.glyphs brokenLines = before ++ (spelling ++ after) ∧
      Spells token.kind token.literal spelling ∧
      token.pos.line = 1 + (Text.ofGlyphs before).count (byte '\n') ∧
      token.pos.column = 1 + (Text.glyphs (lastLine (Text.ofGlyphs before))).length) ∧
    ts.tokens.Pairwise fun a b => a.pos.Before b.pos := by
  obtain ⟨ts,ok,places⟩ := okAny (x := tokenize brokenLines) (p := fun ts => ts.tokens.map (·.pos) =
    [⟨1,1⟩,⟨1,2⟩,⟨1,3⟩,⟨1,4⟩,⟨1,7⟩,⟨2,1⟩,⟨2,4⟩,⟨3,4⟩,⟨3,7⟩]) (by decide +kernel)
  obtain ⟨_,counted,increasing,_⟩ := tokensPlaced ok
  exact ⟨ts,ok,of_decide_eq_true places,counted,increasing⟩

end Query
end LogSql
