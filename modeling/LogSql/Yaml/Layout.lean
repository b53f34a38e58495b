import LogSql.Text.Glyph

/-!
The tokens of a YAML document. Indentation becomes explicit: a deeper block opens a collection, a
shallower one closes it, and a scalar turns out to be a key when a colon follows it on its line.
Documents are read up to the end of the first one; whatever has no reading makes the whole document
unreadable.
-/
namespace LogSql.Yaml

/-- Tokens. -/
inductive Token where
  | documentStart
  | blockSequence
  | blockMapping
  | blockEnd
  | entry
  | key
  | value
  | flowSequence
  | flowSequenceEnd
  | flowMapping
  | flowMappingEnd
  | flowEntry
  | anchor (name : Text)
  | reference (name : Text)
  | scalar (plain : Bool) (text : Text)
  deriving DecidableEq, Repr

/-! ### Characters and places -/

/-- A space or a tab. -/
def isBlank (b : UInt8) : Bool := b = 32 || b = 9

/-- The line break at the start of a text, as it counts in a scalar, and what follows it. -/
def lineBreak? : Text → Option (Text × Text)
  | 13 :: 10 :: rest => some ([10], rest)
  | 13 :: rest => some ([10], rest)
  | 10 :: rest => some ([10], rest)
  | 0xC2 :: 0x85 :: rest => some ([10], rest)
  | 0xE2 :: 0x80 :: 0xA8 :: rest => some ([0xE2, 0x80, 0xA8], rest)
  | 0xE2 :: 0x80 :: 0xA9 :: rest => some ([0xE2, 0x80, 0xA9], rest)
  | _ => none

/-- Whether a line or the text ends here. -/
def atLineEnd (t : Text) : Bool := t.isEmpty || (lineBreak? t).isSome

/-- Whether a blank, the end of a line or the end of the text is here. -/
def atGap (t : Text) : Bool :=
  match t with
  | [] => true
  | b :: _ => isBlank b || (lineBreak? t).isSome

/-- Whether a character may stand in a document. -/
def isAllowed (c : Char) : Bool :=
  let n := c.toNat
  n = 9 || n = 10 || n = 13 || (0x20 ≤ n && n ≤ 0x7E) || n = 0x85 || (0xA0 ≤ n && n ≤ 0xFFFD) ||
    0x10000 ≤ n

/-- Whether a text consists of characters that may stand in a document. -/
def isDocument (t : Text) : Bool :=
  Text.isWellFormed t && (Text.chars t).all isAllowed

/-- A place in a document: what follows, and where that is. Columns and the index count
characters. -/
structure Place where
  rest : Text
  line : Nat := 0
  column : Nat := 0
  index : Nat := 0
  deriving Repr

namespace Place

/-- The place after a number of bytes that hold no line break. -/
def skip (p : Place) (bytes : Nat) : Place :=
  let width := ((p.rest.take bytes).filter fun b => !Text.isContinuation b).length
  { p with rest := p.rest.drop bytes, column := p.column + width, index := p.index + width }

/-- The place at the start of the next line. -/
def newLine (p : Place) (rest : Text) : Place := ⟨rest, p.line + 1, 0, p.index + 1⟩

/-- Whether a mark of three bytes stands alone at the start of a line. -/
def atMark (p : Place) (mark : Text) : Bool :=
  p.column = 0 && mark.isPrefixOf p.rest && atGap (p.rest.drop 3)

/-- Whether a document starts or ends here. -/
def atDocumentMark (p : Place) : Bool := p.atMark "---" || p.atMark "..."

/-- The place after the rest of the line. -/
def skipLine (p : Place) : Place :=
  let rec count : Text → Nat
    | [] => 0
    | b :: rest => if atLineEnd (b :: rest) then 0 else count rest + 1
  p.skip (count p.rest)

end Place

/-! ### Scalars -/

/-- Blanks and line breaks inside a scalar. -/
structure Gap where
  /-- The blanks before the first line break. -/
  blanks : Text := []
  /-- The line breaks. -/
  breaks : List Text := []

/-- What a gap counts as: its blanks within a line; a single line break counts as a space, and of
more the first is dropped. -/
def Gap.folded (g : Gap) : Text :=
  match g.breaks with
  | [] => g.blanks
  | first :: more =>
    if first ≠ [10] then first ++ Text.concat more
    else if more.isEmpty then [32]
    else Text.concat more

/-- Skips blanks and line breaks. A tab may not stand where a line after the first is indented less
than asked. -/
def skipGap (indent : Nat) : (fuel : Nat) → Gap → Place → Option (Gap × Place)
  | 0, _, _ => none
  | fuel + 1, g, p =>
    match lineBreak? p.rest with
    | some (br, rest) => skipGap indent fuel { g with breaks := g.breaks ++ [br] } (p.newLine rest)
    | none =>
      match p.rest with
      | b :: _ =>
        if !isBlank b then some (g, p)
        else if g.breaks.isEmpty then skipGap indent fuel { g with blanks := g.blanks ++ [b] } (p.skip 1)
        else if b = 9 ∧ p.column < indent then none
        else skipGap indent fuel g (p.skip 1)
      | [] => some (g, p)

/-- The number of bytes before the next place where a plain scalar may end. -/
def plainLength (flow : Bool) : Text → Nat
  | [] => 0
  | b :: rest =>
    if atGap (b :: rest) then 0
    else if b = Text.byte ':' && atGap rest then 0
    else if flow && ((Text.ofString ",[]\x7b\x7d").elem b || (b = Text.byte '?' && atGap rest)) then 0
    else plainLength flow rest + 1

/-- Reads a plain scalar: its text, the place after it, and whether a line break came last. -/
def plainScalar (flow : Bool) (indent : Nat) : (fuel : Nat) → (acc : Text) → (gap : Gap) → Place →
    Option (Text × Place × Bool)
  | 0, _, _, _ => none
  | fuel + 1, acc, gap, p =>
    let done := some (acc, p, !gap.breaks.isEmpty)
    if p.atDocumentMark || p.rest.head? = some (Text.byte '#') then done
    else
      let n := plainLength flow p.rest
      let (acc, gap) :=
        if n = 0 then (acc, gap) else (acc ++ gap.folded ++ p.rest.take n, {})
      let p := p.skip n
      if p.rest.isEmpty ∨ !atGap p.rest then some (acc, p, !gap.breaks.isEmpty)
      else do
        let (gap, p) ← skipGap indent (p.rest.length + 1) gap p
        if !flow ∧ p.column < indent then some (acc, p, !gap.breaks.isEmpty)
        else plainScalar flow indent fuel acc gap p

/-- The character that an escape stands for, and the number of bytes after the backslash. -/
def escape? : Text → Option (Text × Nat)
  | b :: rest =>
    let hex := fun (n : Nat) =>
      let digits := (rest.take n).filterMap Text.hexValue
      let v := digits.foldl (fun v d => 16 * v + d) 0
      if digits.length = n ∧ (v < 0xD800 ∨ (0xDFFF < v ∧ v < 0x110000)) then
        some (Text.ofChar (Char.ofNat v), n + 1)
      else none
    match (Text.ofString "0abtnvfre \"'\\").findIdx? (· = b) with
    | some i => ((([0, 7, 8, 9, 10, 11, 12, 13, 27, 32, 34, 39, 92] : Text)[i]?).map fun c => ([c], 1))
    | none =>
      if b = 9 then some ([9], 1)
      else if b = Text.byte 'N' then some ([0xC2, 0x85], 1)
      else if b = Text.byte '_' then some ([0xC2, 0xA0], 1)
      else if b = Text.byte 'L' then some ([0xE2, 0x80, 0xA8], 1)
      else if b = Text.byte 'P' then some ([0xE2, 0x80, 0xA9], 1)
      else if b = Text.byte 'x' then hex 2
      else if b = Text.byte 'u' then hex 4
      else if b = Text.byte 'U' then hex 8
      else none
  | [] => none

/-- Reads the rest of a quoted scalar. A quote between single quotes is written twice; between
double quotes backslashes escape, line breaks too. -/
def quotedScalar (single : Bool) : (fuel : Nat) → (acc : Text) → Place → Option (Text × Place)
  | 0, _, _ => none
  | fuel + 1, acc, p =>
    if p.atDocumentMark then none
    else
      match p.rest with
      | [] => none
      | b :: rest =>
        let quote := if single then Text.byte '\'' else Text.byte '"'
        if b = quote then
          if single ∧ rest.head? = some quote then quotedScalar single fuel (acc ++ [quote]) (p.skip 2)
          else some (acc, p.skip 1)
        else if !single ∧ b = Text.byte '\\' then
          match lineBreak? rest with
          | some (_, after) => do
            let (g, p) ← skipGap 0 (after.length + 1) { breaks := [[]] } (p.newLine after)
            quotedScalar single fuel (acc ++ Text.concat g.breaks) p
          | none => do
            let (c, n) ← escape? rest
            quotedScalar single fuel (acc ++ c) (p.skip (n + 1))
        else if atGap p.rest then do
          let (g, p) ← skipGap 0 (p.rest.length + 1) {} p
          quotedScalar single fuel (acc ++ g.folded) p
        else quotedScalar single fuel (acc ++ [b]) (p.skip 1)

/-- Skips the indentation and the empty lines before a line of a block scalar: the line breaks, the
deepest indentation seen and the place of the next line. -/
def skipBlockBreaks (indent : Nat) : (fuel : Nat) → (breaks : Text) → (deepest : Nat) → Place →
    Option (Text × Nat × Place)
  | 0, _, _, _ => none
  | fuel + 1, breaks, deepest, p =>
    let room := if indent = 0 then p.rest.length else indent - p.column
    let spaces := ((p.rest.take room).takeWhile (· = 32)).length
    let p := p.skip spaces
    let deepest := max deepest p.column
    if (indent = 0 ∨ p.column < indent) ∧ p.rest.head? = some 9 then none
    else match lineBreak? p.rest with
      | some (br, rest) => skipBlockBreaks indent fuel (breaks ++ br) deepest (p.newLine rest)
      | none => some (breaks, deepest, p)

/-- Reads the lines of a block scalar with a known indentation. -/
def blockLines (literal : Bool) (indent : Nat) : (fuel : Nat) → (acc leading trailing : Text) →
    (leadingBlank : Bool) → Place → Option (Text × Text × Text × Place)
  | 0, _, _, _, _, _ => none
  | fuel + 1, acc, leading, trailing, leadingBlank, p =>
    if p.column ≠ indent ∨ p.rest.isEmpty then some (acc, leading, trailing, p)
    else
      let blank := (p.rest.head?.map isBlank).getD false
      let joins := !literal && !leadingBlank && !blank && leading = [10]
      let acc := acc ++ (if joins then (if trailing.isEmpty then [32] else []) else leading) ++ trailing
      let eol := p.skipLine
      let acc := acc ++ p.rest.take (p.rest.length - eol.rest.length)
      let (leading, p) := match lineBreak? eol.rest with
        | some (br, rest) => (br, eol.newLine rest)
        | none => ([], eol)
      do
        let (trailing, _, p) ← skipBlockBreaks indent (p.rest.length + 1) [] 0 p
        blockLines literal indent fuel acc leading trailing blank p

/-- What happens to the line breaks at the end of a block scalar. -/
inductive Chomp where
  | strip
  | clip
  | keep
  deriving DecidableEq, Repr

/-- The marks after the indicator of a block scalar: chomping, indentation, and the bytes taken. -/
def blockHeader (t : Text) : Option (Chomp × Nat × Nat) :=
  let chomp? := fun (t : Text) => match t.head? with
    | some b => if b = Text.byte '+' then some Chomp.keep
      else if b = Text.byte '-' then some Chomp.strip else none
    | none => none
  let digit? := fun (t : Text) => match t.head? with
    | some b => if Text.isDecimal b then some (b.toNat - 48) else none
    | none => none
  match chomp? t with
  | some c =>
    match digit? (t.drop 1) with
    | some 0 => none
    | some d => some (c, d, 2)
    | none => some (c, 0, 1)
  | none =>
    match digit? t with
    | some 0 => none
    | some d =>
      match chomp? (t.drop 1) with
      | some c => some (c, d, 2)
      | none => some (.clip, d, 1)
    | none => some (.clip, 0, 0)

/-- Reads a block scalar after its indicator, inside a block of an indentation. -/
def blockScalar (literal : Bool) (outer : Int) (p : Place) : Option (Text × Place) := do
  let (chomp, increment, n) ← blockHeader p.rest
  let p := p.skip n
  let p := p.skip (p.rest.takeWhile isBlank).length
  let p := if p.rest.head? = some (Text.byte '#') then p.skipLine else p
  if !atLineEnd p.rest then none
  let p := match lineBreak? p.rest with
    | some (_, rest) => p.newLine rest
    | none => p
  let known := if increment = 0 then 0 else (max outer 0).toNat + increment
  let (trailing, deepest, p) ← skipBlockBreaks known (p.rest.length + 1) [] 0 p
  let indent := if known = 0 then max (max deepest (outer + 1).toNat) 1 else known
  let (acc, leading, trailing, p) ←
    blockLines literal indent (p.rest.length + 1) [] [] trailing false p
  let acc := if chomp = .strip then acc else acc ++ leading
  some (if chomp = .keep then acc ++ trailing else acc, p)

/-! ### Tokens -/

/-- A place where a key may have started. -/
structure Candidate where
  /-- The number of tokens before it. -/
  number : Nat
  place : Place
  /-- Whether nothing but a key may stand there. -/
  required : Bool

/-- The state of reading. -/
structure Layout where
  place : Place
  /-- The tokens so far, last first, and their number. -/
  tokens : List Token := []
  count : Nat := 0
  /-- The indentation of the current block, and those around it. -/
  indent : Int := -1
  indents : List Int := []
  /-- The candidate of each flow level, innermost first, and of the block context. -/
  keys : List (Option Candidate) := [none]
  /-- Whether a key may start here. -/
  keyAllowed : Bool := true

namespace Layout

/-- Whether a flow collection is open. -/
def inFlow (s : Layout) : Bool := 1 < s.keys.length

/-- Adds a token. -/
def push (s : Layout) (t : Token) : Layout :=
  { s with tokens := t :: s.tokens, count := s.count + 1 }

/-- Adds tokens in front of the ones from a number on. -/
def insert (s : Layout) (number : Nat) (ts : List Token) : Layout :=
  let newer := s.count - number
  { s with tokens := s.tokens.take newer ++ ts.reverse ++ s.tokens.drop newer
           count := s.count + ts.length }

/-- Closes the blocks that are indented deeper than a column. -/
def closeBlocks (column : Int) : (indent : Int) → (indents : List Int) → Layout → Layout
  | indent, [], s => { s with indent, indents := [] }
  | indent, outer :: rest, s =>
    if column < indent then closeBlocks column outer rest (s.push .blockEnd)
    else { s with indent, indents := outer :: rest }

/-- Returns to the indentation of a column. -/
def unroll (s : Layout) (column : Int) : Layout :=
  if s.inFlow then s else closeBlocks column s.indent s.indents s

/-- Opens a block at a column that is indented deeper than the current one. -/
def roll (s : Layout) (column number : Nat) (t : Token) : Layout :=
  if s.inFlow ∨ (column : Int) ≤ s.indent then s
  else { s.insert number [t] with indent := column, indents := s.indent :: s.indents }

/-- Gives up the candidate of the current level, unless it had to be a key. -/
def dropKey (s : Layout) : Option Layout :=
  match s.keys with
  | some k :: rest => if k.required then none else some { s with keys := none :: rest }
  | _ => some s

/-- Makes this place the candidate of the current level, where keys may start. -/
def saveKey (s : Layout) : Option Layout :=
  if !s.keyAllowed then some s
  else do
    let s ← s.dropKey
    some { s with keys := some ⟨s.count, s.place, !s.inFlow && s.indent = s.place.column⟩ :: s.keys.tail }

/-- The candidate, when it is on this line and near. -/
def key? (s : Layout) : Option Candidate :=
  (s.keys.headD none).filter fun k =>
    k.place.line = s.place.line && s.place.index ≤ k.place.index + 1024

/-- Skips blanks, comments and line breaks. Where a block key may start, tabs are no blanks. -/
def skipToToken : (fuel : Nat) → Layout → Layout
  | 0, s => s
  | fuel + 1, s =>
    match lineBreak? s.place.rest with
    | some (_, rest) =>
      skipToToken fuel { s with place := s.place.newLine rest, keyAllowed := s.keyAllowed || !s.inFlow }
    | none =>
      match s.place.rest with
      | b :: _ =>
        if b = 32 ∨ (b = 9 ∧ (s.inFlow ∨ !s.keyAllowed)) then
          skipToToken fuel { s with place := s.place.skip 1 }
        else if b = Text.byte '#' then skipToToken fuel { s with place := s.place.skipLine }
        else s
      | [] => s

/-- Adds a token of some bytes. -/
def mark (s : Layout) (t : Token) (bytes : Nat) : Layout :=
  { s.push t with place := s.place.skip bytes }

/-- Opens a flow collection. -/
def openFlow (s : Layout) (t : Token) : Option Layout := do
  let s ← s.saveKey
  some { s.mark t 1 with keys := none :: s.keys, keyAllowed := true }

/-- Closes a flow collection. -/
def closeFlow (s : Layout) (t : Token) : Option Layout := do
  let s ← s.dropKey
  some { s.mark t 1 with
    keys := if s.inFlow then s.keys.tail else s.keys
    keyAllowed := false }

/-- The entry indicator of a block sequence. -/
def blockEntry (s : Layout) : Option Layout := do
  if !s.inFlow ∧ !s.keyAllowed then none
  let s ← (s.roll s.place.column s.count .blockSequence).dropKey
  some { s.mark .entry 1 with keyAllowed := true }

/-- The indicator of a key that is not on one line. -/
def explicitKey (s : Layout) : Option Layout := do
  if !s.inFlow ∧ !s.keyAllowed then none
  let s ← (s.roll s.place.column s.count .blockMapping).dropKey
  some { s.mark .key 1 with keyAllowed := !s.inFlow }

/-- The value indicator. The candidate before it becomes a key. -/
def valueMark (s : Layout) : Option Layout :=
  match s.key? with
  | some k =>
    let s := (s.insert k.number [.key]).roll k.place.column k.number .blockMapping
    some { s.mark .value 1 with keys := none :: s.keys.tail, keyAllowed := false }
  | none => do
    if (((s.keys.headD none).map (·.required)).getD false) then none
    if !s.inFlow ∧ !s.keyAllowed then none
    let s := s.roll s.place.column s.count .blockMapping
    some { s.mark .value 1 with keys := none :: s.keys.tail, keyAllowed := !s.inFlow }

/-- The name of an anchor or alias. -/
def named (s : Layout) (make : Text → Token) : Option Layout := do
  let s ← s.saveKey
  let name := (s.place.rest.drop 1).takeWhile fun b => Text.isNamePart b || b = Text.byte '-'
  let after := s.place.rest.drop (name.length + 1)
  if name.isEmpty then none
  if !atGap after ∧ !(((after.head?).map fun b => (Text.ofString "?:,]\x7d%@").elem b).getD false) then none
  some { s.mark (make name) (name.length + 1) with keyAllowed := false }

/-- A quoted scalar. -/
def quoted (s : Layout) (single : Bool) : Option Layout := do
  let s ← s.saveKey
  let (t, p) ← quotedScalar single (s.place.rest.length + 1) [] (s.place.skip 1)
  some { s.push (.scalar false t) with place := p, keyAllowed := false }

/-- A block scalar. -/
def block (s : Layout) (literal : Bool) : Option Layout := do
  let s ← s.dropKey
  let (t, p) ← blockScalar literal s.indent (s.place.skip 1)
  some { s.push (.scalar false t) with place := p, keyAllowed := true }

/-- A plain scalar. -/
def plain (s : Layout) : Option Layout := do
  let s ← s.saveKey
  let (t, p, broken) ←
    plainScalar s.inFlow (s.indent + 1).toNat (s.place.rest.length + 1) [] {} s.place
  some { s.push (.scalar true t) with place := p, keyAllowed := broken }

/-- Whether a plain scalar may start with a byte. -/
def startsPlain (flow : Bool) (b : UInt8) (rest : Text) : Bool :=
  if b = Text.byte '-' then !((rest.head?.map isBlank).getD false)
  else if b = Text.byte '?' || b = Text.byte ':' then !flow && !atGap rest
  else !(isBlank b || b = 96 || (Text.ofString ",[]\x7b\x7d#&*!|>'\"%@").elem b)

/-- Ends the document. -/
def finish (s : Layout) : Option Layout := (s.unroll (-1)).dropKey

/-- Reads the next token, or ends the document. -/
def step (s : Layout) : Option (Layout × Bool) :=
  let s := skipToToken (s.place.rest.length + 1) s
  let s := s.unroll s.place.column
  let go := fun (r : Option Layout) => r.map fun s => (s, true)
  match s.place.rest with
  | [] => s.finish.map fun s => (s, false)
  | b :: rest =>
    if s.place.column = 0 ∧ b = Text.byte '%' then none
    else if s.place.atDocumentMark then
      if s.count = 0 then
        let isStart := b = Text.byte '-'
        let s := if isStart then s.mark .documentStart 3 else { s with place := s.place.skip 3 }
        some ({ s with keyAllowed := !isStart }, true)
      else s.finish.map fun s => (s, false)
    else if b = Text.byte '[' then go (s.openFlow .flowSequence)
    else if b = 123 then go (s.openFlow .flowMapping)
    else if b = Text.byte ']' then go (s.closeFlow .flowSequenceEnd)
    else if b = 125 then go (s.closeFlow .flowMappingEnd)
    else if b = Text.byte ',' then
      go (s.dropKey.map fun s => { s.mark .flowEntry 1 with keyAllowed := true })
    else if b = Text.byte '-' ∧ atGap rest then go s.blockEntry
    else if b = Text.byte '?' ∧ (s.inFlow ∨ atGap rest) then go s.explicitKey
    else if b = Text.byte ':' ∧ (s.inFlow ∨ atGap rest) then go s.valueMark
    else if b = Text.byte '*' then go (s.named .reference)
    else if b = Text.byte '&' then go (s.named .anchor)
    else if b = Text.byte '|' ∧ !s.inFlow then go (s.block true)
    else if b = Text.byte '>' ∧ !s.inFlow then go (s.block false)
    else if b = Text.byte '\'' then go (s.quoted true)
    else if b = Text.byte '"' then go (s.quoted false)
    else if startsPlain s.inFlow b rest then go s.plain
    else none

/-- Reads all tokens of the first document. -/
def run : (fuel : Nat) → Layout → Option Layout
  | 0, _ => none
  | fuel + 1, s =>
    match s.step with
    | some (s, true) => run fuel s
    | some (s, false) => some s
    | none => none

end Layout

/-- The tokens of the first document of a text. -/
def tokens? (t : Text) : Option (List Token) := do
  let t := (Text.stripStart [0xEF, 0xBB, 0xBF] t).getD t
  if !isDocument t then none
  let s ← Layout.run (t.length + 2) { place := { rest := t } }
  some s.tokens.reverse

end LogSql.Yaml
