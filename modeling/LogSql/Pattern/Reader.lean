import LogSql.Pattern.Regex

/-!
The notation of regular expressions: literals, classes, escapes, groups with flags, choice and
repetition. The reader keeps a stack of open groups; every step takes at least one byte.
-/
namespace LogSql.Pattern

/-- Reading modes: letter case ignored, `^` and `$` at line ends, `.` also for line breaks,
repetitions lazy by default. -/
structure Flags where
  fold : Bool := false
  lines : Bool := false
  dotAll : Bool := false
  lazy : Bool := false
  deriving DecidableEq, Repr

/-- An expression with the depth of its nesting. -/
structure Sized where
  re : Regex
  height : Nat
  deriving DecidableEq, Repr

/-- An open group: its number unless it is only for grouping, the modes to restore when it closes,
the alternatives read so far and the items of the current one, both latest first. -/
structure Frame where
  capture : Option Nat := none
  outer : Flags := {}
  alternatives : List Sized := []
  items : List Sized := []
  deriving DecidableEq, Repr

/-- The state of the reader: the current group, those around it, the names of the groups so far,
latest first, the modes, and the text from the last repetition operator on if it was the last step. -/
structure State where
  frame : Frame := {}
  outer : List Frame := []
  names : List Text := []
  flags : Flags := {}
  lastRepeat : Option Text := none
  deriving DecidableEq, Repr

/-- How deep expressions may nest. -/
def maxHeight : Nat := 1000

/-- The part of `whole` in front of its ending `rest`. -/
def upTo (whole rest : Text) : Text := whole.take (whole.length - rest.length)

/-- The first character and what follows; nothing at the end, a fault at malformed bytes. -/
def nextChar (t : Text) : Except Error (Option Char × Text) :=
  match t with
  | [] => .ok (none, [])
  | b :: rest =>
    let (c, width) := Text.firstChar b rest
    if c = Text.replacement ∧ width = 1 then .error ⟨.utf8, t⟩ else .ok (some c, t.drop width)

/-- Fails unless the text is well-formed. -/
def checkUtf8 (t : Text) : Except Error Unit :=
  if Text.isWellFormed t then .ok () else .error ⟨.utf8, t⟩

/-- A single code point under the current modes. -/
def literalClass (flags : Flags) (n : Nat) : CharClass := ⟨[⟨[(n, n)], flags.fold, false⟩], false⟩

namespace Sized

/-- The height of an item inside a sequence; a sequence is no level of its own there. -/
def inSequence (x : Sized) : Nat :=
  match x.re with
  | .seq _ _ => max 1 (x.height - 1)
  | _ => x.height

/-- The height of an alternative inside a choice; a choice is no level of its own there. -/
def inChoice (x : Sized) : Nat :=
  match x.re with
  | .choice _ _ => max 1 (x.height - 1)
  | _ => x.height

end Sized

/-- Sequence of items given latest first. -/
def sequence (items : List Sized) : Sized :=
  match items with
  | [] => ⟨.empty, 1⟩
  | [x] => x
  | x :: rest =>
    let re := rest.foldl (fun acc y => .seq y.re acc) x.re
    ⟨re, if re.literal?.isSome then 1 else 1 + (x :: rest).foldl (fun h y => max h y.inSequence) 0⟩

/-- Choice between alternatives given latest first; a prefix that they share stays in each of them. -/
def choiceOf (alternatives : List Sized) : Sized :=
  match alternatives with
  | [] => ⟨.empty, 1⟩
  | [x] => x
  | x :: rest =>
    let re := rest.foldl (fun acc y => .choice y.re acc) x.re
    ⟨re, if re.isClass || re.isEmpty then 1
      else 1 + (x :: rest).foldl (fun h y => max h y.inChoice) 0⟩

/-- The expression that a frame has read. -/
def Frame.finish (f : Frame) : Sized := choiceOf (sequence f.items :: f.alternatives)

namespace State

/-- Adds an item to the current alternative. -/
def push (s : State) (x : Sized) : State :=
  { s with frame := { s.frame with items := x :: s.frame.items } }

/-- Adds a class of characters. -/
def pushClass (s : State) (k : CharClass) : State := s.push ⟨.chars k, 1⟩

/-- Adds an assertion. -/
def pushAssert (s : State) (a : Assertion) : State := s.push ⟨.assert a, 1⟩

/-- Opens a group and goes on in the given modes. -/
def openGroup (s : State) (capture : Option Nat) (flags : Flags) : State :=
  { s with
    frame := { capture, outer := s.flags }
    outer := s.frame :: s.outer
    flags }

/-- Opens a numbered group. -/
def openCapture (s : State) (name : Text) : State :=
  { s.openGroup (some (s.names.length + 1)) s.flags with names := name :: s.names }

end State

/-! ### Escapes -/

/-- Value of a hexadecimal digit. -/
def hexChar (c : Option Char) : Option Nat :=
  match c with
  | some c => if c.toNat < 0x80 then Text.hexValue (Text.byte c) else none
  | none => none

/-- Reads hexadecimal digits up to a closing brace; on failure the text after the last character
looked at. -/
def bracedHex : (fuel : Nat) → (value count : Nat) → Text → Except Error (Except Text (Nat × Text))
  | 0, _, _, t => .ok (.error t)
  | fuel + 1, value, count, t => do
    if t.isEmpty then return .error t
    let (c, rest) ← nextChar t
    if c = some '\x7d' then
      return if count = 0 then .error rest else .ok (value, rest)
    match hexChar c with
    | none => return .error rest
    | some d =>
      let v := 16 * value + d
      if 0x10FFFF < v then return .error rest
      bracedHex fuel v (count + 1) rest

/-- Reads up to two more octal digits. -/
def octalDigits : (count value : Nat) → Text → Nat × Text
  | 0, value, t => (value, t)
  | count + 1, value, t =>
    match t with
    | b :: rest =>
      if Text.byte '0' ≤ b ∧ b ≤ Text.byte '7' then
        octalDigits count (8 * value + (b.toNat - 48)) rest
      else (value, t)
    | [] => (value, t)

/-- The code point of an escape that starts with the backslash of `s`. -/
def readEscape (s : Text) : Except Error (Nat × Text) := do
  let t := s.drop 1
  if t.isEmpty then throw ⟨.trailingBackslash, []⟩
  let (c, t) ← nextChar t
  let c := c.getD ' '
  let bad (rest : Text) : Except Error (Nat × Text) := throw ⟨.escape, upTo s rest⟩
  if '0' ≤ c ∧ c ≤ '7' then
    let more := match t with
      | b :: _ => Text.byte '0' ≤ b && b ≤ Text.byte '7'
      | [] => false
    if c ≠ '0' ∧ !more then bad t
    else return octalDigits 2 (c.toNat - 48) t
  else if c = 'x' then
    if t.isEmpty then bad t
    else
      let (d, t) ← nextChar t
      if d = some '\x7b' then
        match ← bracedHex (t.length + 1) 0 0 t with
        | .ok r => return r
        | .error rest => bad rest
      else
        let (e, t) ← nextChar t
        match hexChar d, hexChar e with
        | some x, some y => return (16 * x + y, t)
        | _, _ => bad t
  else match c with
    | 'a' => return (7, t)
    | 'f' => return (12, t)
    | 'n' => return (10, t)
    | 'r' => return (13, t)
    | 't' => return (9, t)
    | 'v' => return (11, t)
    | _ =>
      if c.toNat < 0x80 ∧ !Char.isAlphanum c then return (c.toNat, t) else bad t

/-! ### Character classes -/

/-- Ranges of decimal digits, blanks and word characters. -/
def digitClass : List (Nat × Nat) := [(48, 57)]

@[inherit_doc digitClass]
def blankClass : List (Nat × Nat) := [(9, 10), (12, 13), (32, 32)]

@[inherit_doc digitClass]
def wordClass : List (Nat × Nat) := [(48, 57), (65, 90), (95, 95), (97, 122)]

/-- A class escape such as `\d` at the start of the text. -/
def classEscape? (flags : Flags) (t : Text) : Option (ClassItem × Text) :=
  match t with
  | b :: c :: rest =>
    if b ≠ Text.byte '\\' then none
    else
      let item (ranges : List (Nat × Nat)) (negated : Bool) : Option (ClassItem × Text) :=
        some (⟨ranges, flags.fold, negated⟩, rest)
      match Char.ofNat c.toNat with
      | 'd' => item digitClass false
      | 'D' => item digitClass true
      | 's' => item blankClass false
      | 'S' => item blankClass true
      | 'w' => item wordClass false
      | 'W' => item wordClass true
      | _ => none
  | _ => none

/-- The classes that are named inside brackets. -/
def namedClasses : List (String × List (Nat × Nat)) :=
  [("alnum", [(48, 57), (65, 90), (97, 122)]), ("alpha", [(65, 90), (97, 122)]),
   ("ascii", [(0, 127)]), ("blank", [(9, 9), (32, 32)]), ("cntrl", [(0, 31), (127, 127)]),
   ("digit", [(48, 57)]), ("graph", [(33, 126)]), ("lower", [(97, 122)]), ("print", [(32, 126)]),
   ("punct", [(33, 47), (58, 64), (91, 96), (123, 126)]), ("space", [(9, 13), (32, 32)]),
   ("upper", [(65, 90)]), ("word", wordClass), ("xdigit", [(48, 57), (65, 70), (97, 102)])]

/-- A named class such as `[:alpha:]` at the start of the text. -/
def namedClass? (flags : Flags) (t : Text) : Except Error (Option (ClassItem × Text)) :=
  match Text.stripStart "[:" t with
  | none => .ok none
  | some body =>
    match Text.cut ":]" body with
    | none => .ok none
    | some (name, rest) =>
      let negated := name.head? = some (Text.byte '^')
      let key := if negated then name.drop 1 else name
      match namedClasses.find? fun c => Text.ofString c.1 = key with
      | some (_, ranges) => .ok (some (⟨ranges, flags.fold, negated⟩, rest))
      | none => .error ⟨.charClassRange, upTo t rest⟩

/-- The ranges of rows; a row with gaps gives one range for each of its code points. -/
def rowRanges (rows : Rows) : List (Nat × Nat) :=
  rows.flatMap fun (lo, hi, step) =>
    if step = 1 then [(lo, hi)]
    else (List.range ((hi - lo) / step + 1)).map fun k => (lo + k * step, lo + k * step)

/-- The code points of a general category or script. -/
def unicodeRanges? (name : Text) : Option (List (Nat × Nat)) := do
  let name ← Text.toString? name
  if name = "Any" then some [(0, 0x10FFFF)]
  else match GeneralCategory.rows? name with
    | some rows => some (rowRanges rows)
    | none => (Script.all.lookup name).map rowRanges

/-- A Unicode class such as `\pL` or `\p\x7bGreek\x7d` at the start of the text. -/
def unicodeClass? (flags : Flags) (s : Text) : Except Error (Option (ClassItem × Text)) := do
  match s with
  | b :: p :: after =>
    if b ≠ Text.byte '\\' ∨ (p ≠ Text.byte 'p' ∧ p ≠ Text.byte 'P') then return none
    let (c, t) ← nextChar after
    let (part, name, rest) ←
      if c = some '\x7b' then
        match Text.cut "\x7d" s with
        | none => do
          checkUtf8 s
          throw ⟨.charClassRange, s⟩
        | some (head, rest) => do
          let name := head.drop 3
          checkUtf8 name
          pure (upTo s rest, name, rest)
      else pure (upTo s t, (upTo s t).drop 2, t)
    let caret := name.head? = some (Text.byte '^')
    let name := if caret then name.drop 1 else name
    let negated := (p = Text.byte 'P') != caret
    match unicodeRanges? name with
    | none => throw ⟨.charClassRange, part⟩
    | some ranges => return some (⟨ranges, flags.fold, negated⟩, rest)
  | _ => return none

/-- A single character inside brackets. -/
def classChar (whole t : Text) : Except Error (Nat × Text) := do
  match t with
  | [] => throw ⟨.missingBracket, whole⟩
  | b :: _ =>
    if b = Text.byte '\\' then readEscape t
    else
      let (c, rest) ← nextChar t
      return ((c.getD ' ').toNat, rest)

/-- Items of a bracketed class up to the closing bracket; the first character may be a bracket. -/
def classItems (flags : Flags) (whole : Text) :
    (fuel : Nat) → (first : Bool) → Text → Except Error (List ClassItem × Text)
  | 0, _, _ => .error ⟨.missingBracket, whole⟩
  | fuel + 1, first, t => do
    if !first ∧ t.head? = some (Text.byte ']') then return ([], t.drop 1)
    let special : Option (ClassItem × Text) ← do
      match ← (if 2 < t.length then namedClass? flags t else pure none) with
      | some r => pure (some r)
      | none =>
        match ← unicodeClass? flags t with
        | some r => pure (some r)
        | none => pure (classEscape? flags t)
    match special with
    | some (item, rest) =>
      let (items, rest) ← classItems flags whole fuel false rest
      return (item :: items, rest)
    | none =>
      let (lo, rest) ← classChar whole t
      let ranged := match rest with
        | a :: b :: _ => a = Text.byte '-' && b ≠ Text.byte ']'
        | _ => false
      let (hi, rest) ← if ranged then classChar whole (rest.drop 1) else pure (lo, rest)
      if hi < lo then throw ⟨.charClassRange, upTo t rest⟩
      let (items, rest) ← classItems flags whole fuel false rest
      return (⟨[(lo, hi)], flags.fold, false⟩ :: items, rest)

/-- A bracketed class that starts at the bracket of `s`. -/
def readClass (flags : Flags) (s : Text) : Except Error (CharClass × Text) := do
  let t := s.drop 1
  let negated := t.head? = some (Text.byte '^')
  let t := if negated then t.drop 1 else t
  let (items, rest) ← classItems flags s (t.length + 1) true t
  return (⟨items, negated⟩, rest)

/-! ### Repetition and groups -/

/-- A number without leading zeros; one of more than eight digits has no value. -/
def repeatNumber (t : Text) : Option (Option Nat × Text) :=
  let digits := t.takeWhile Text.isDecimal
  match digits with
  | [] => none
  | d :: more =>
    if d = Text.byte '0' ∧ !more.isEmpty then none
    else
      let n := Text.digitsValue digits
      some (if digits.length ≤ 8 ∨ n < 1000000000 then some n else none, t.drop digits.length)

/-- The bounds of a counted repetition that starts at the brace of `s`; a bound may be too large to
have a value. -/
def repeatBounds (s : Text) : Option (Option Nat × Option (Option Nat) × Text) := do
  let (low, t) ← repeatNumber (s.drop 1)
  match t with
  | b :: rest =>
    if b = Text.byte '\x7d' then some (low, some low, rest)
    else if b ≠ Text.byte ',' then none
    else match rest with
      | c :: after =>
        if c = Text.byte '\x7d' then some (low, none, after)
        else do
          let (high, t) ← repeatNumber rest
          match t with
          | e :: after => if e = Text.byte '\x7d' then some (low, some high, after) else none
          | [] => none
      | [] => none
  | [] => none

/-- Repeats the last item. `before` is the text from the operator on and `after` what follows it. -/
def applyRepeat (s : State) (low : Nat) (high : Option Nat) (counted : Bool)
    (before after : Text) : Except Error (State × Text) := do
  let lazyMark := after.head? = some (Text.byte '?')
  let after := if lazyMark then after.drop 1 else after
  match s.lastRepeat with
  | some last => throw ⟨.repeatOp, upTo last after⟩
  | none => pure ()
  match s.frame.items with
  | [] => throw ⟨.missingRepeatArgument, upTo before after⟩
  | x :: rest =>
    let re := Regex.times low high (s.flags.lazy == lazyMark) counted x.re
    if maxHeight < x.height + 1 then throw ⟨.nestingDepth, []⟩
    let large := 2 ≤ low || (match high with | some h => 2 ≤ h | none => false)
    if counted && large && !re.repeatsFit 1000 then
      throw ⟨.repeatSize, upTo before after⟩
    return ({ s with frame := { s.frame with items := ⟨re, x.height + 1⟩ :: rest } }, after)

/-- Names of groups: letters, digits and underscores. -/
def isGroupName (name : Text) : Bool := Text.someAll Text.isNamePart name

/-- Reads the modes after `(?`: the modes, whether a group opens, and what follows. -/
def readFlags (s : Text) :
    (fuel : Nat) → (flags : Flags) → (negative saw : Bool) → Text →
      Except Error (Flags × Bool × Text)
  | 0, _, _, _, t => .error ⟨.perlOp, upTo s t⟩
  | fuel + 1, flags, negative, saw, t => do
    if t.isEmpty then throw ⟨.perlOp, s⟩
    let (c, rest) ← nextChar t
    match c.getD ' ' with
    | 'i' => readFlags s fuel { flags with fold := !negative } negative true rest
    | 'm' => readFlags s fuel { flags with lines := !negative } negative true rest
    | 's' => readFlags s fuel { flags with dotAll := !negative } negative true rest
    | 'U' => readFlags s fuel { flags with lazy := !negative } negative true rest
    | '-' =>
      if negative then throw ⟨.perlOp, upTo s rest⟩
      else readFlags s fuel flags true false rest
    | ':' =>
      if negative && !saw then throw ⟨.perlOp, upTo s rest⟩ else return (flags, true, rest)
    | ')' =>
      if negative && !saw then throw ⟨.perlOp, upTo s rest⟩ else return (flags, false, rest)
    | _ => throw ⟨.perlOp, upTo s rest⟩

/-- A group that starts with `(?`. -/
def readSpecialGroup (st : State) (s : Text) : Except Error (State × Text) := do
  let named : Option Nat :=
    if 4 < s.length ∧ (s.drop 2).take 2 = ("P<" : Text) then some 4
    else if 3 < s.length ∧ (s.drop 2).take 1 = ("<" : Text) then some 3
    else none
  match named with
  | some start =>
    match Text.cut ">" s with
    | none =>
      checkUtf8 s
      throw ⟨.namedCapture, s⟩
    | some (head, rest) =>
      let name := head.drop start
      checkUtf8 name
      if !isGroupName name then throw ⟨.namedCapture, upTo s rest⟩
      return (st.openCapture name, rest)
  | none =>
    let (flags, opens, rest) ← readFlags s (s.length + 1) st.flags false false (s.drop 2)
    if opens then return (st.openGroup none flags, rest)
    return ({ st with flags }, rest)

/-- Closes the current group. -/
def closeGroup (st : State) (whole : Text) : Except Error State := do
  match st.outer with
  | [] => throw ⟨.unexpectedParen, whole⟩
  | parent :: outer =>
    let body := st.frame.finish
    let closed : Sized := match st.frame.capture with
      | some i => ⟨.group i body.re, body.height + 1⟩
      | none => body
    if maxHeight < closed.height then throw ⟨.nestingDepth, whole⟩
    return { st with
      frame := { parent with items := closed :: parent.items }
      outer
      flags := st.frame.outer }

/-- Adds the literals of a quoted run. -/
def pushLiterals (st : State) : (fuel : Nat) → Text → Except Error State
  | 0, _ => .ok st
  | fuel + 1, t => do
    let (c, rest) ← nextChar t
    match c with
    | none => return st
    | some c => pushLiterals (st.pushClass (literalClass st.flags c.toNat)) fuel rest

/-- An escape outside brackets. -/
def readBackslash (st : State) (t : Text) : Except Error (State × Text) := do
  let after := t.drop 2
  let ordinary : Except Error (State × Text) := do
    match ← unicodeClass? st.flags t with
    | some (item, rest) => return (st.pushClass ⟨[item], false⟩, rest)
    | none =>
      match classEscape? st.flags t with
      | some (item, rest) => return (st.pushClass ⟨[item], false⟩, rest)
      | none =>
        let (n, rest) ← readEscape t
        return (st.pushClass (literalClass st.flags n), rest)
  match t with
  | _ :: c :: _ =>
    match Char.ofNat c.toNat with
    | 'A' => return (st.pushAssert .textStart, after)
    | 'b' => return (st.pushAssert .wordBoundary, after)
    | 'B' => return (st.pushAssert .noWordBoundary, after)
    | 'C' => throw ⟨.escape, t.take 2⟩
    | 'Q' =>
      let (run, rest) := (Text.cut "\\E" after).getD (after, [])
      return (← pushLiterals st (run.length + 1) run, rest)
    | 'z' => return (st.pushAssert .textEnd, after)
    | _ => ordinary
  | _ => ordinary

/-- One step of the reader at a non-empty text. -/
def readStep (whole : Text) (st : State) (b : UInt8) (t : Text) :
    Except Error (State × Text) := do
  let plain := { st with lastRepeat := none }
  let rest := t.drop 1
  let symbol (low : Nat) (high : Option Nat) : Except Error (State × Text) := do
    let (st, after) ← applyRepeat st low high false t rest
    return ({ st with lastRepeat := some t }, after)
  match Char.ofNat b.toNat with
  | '(' =>
    if rest.head? = some (Text.byte '?') then readSpecialGroup plain t
    else return (plain.openCapture [], rest)
  | '|' =>
    let f := plain.frame
    let done := sequence f.items
    if maxHeight < done.height then throw ⟨.nestingDepth, whole⟩
    return ({ plain with frame := { f with alternatives := done :: f.alternatives, items := [] } }, rest)
  | ')' => return (← closeGroup plain whole, rest)
  | '^' => return (plain.pushAssert (if st.flags.lines then .lineStart else .textStart), rest)
  | '$' => return (plain.pushAssert (if st.flags.lines then .lineEnd else .textEnd), rest)
  | '.' =>
    let k : CharClass :=
      if st.flags.dotAll then ⟨[⟨[(0, 0x10FFFF)], false, false⟩], false⟩
      else ⟨[⟨[(10, 10)], false, false⟩], true⟩
    return (plain.pushClass k, rest)
  | '[' =>
    let (k, rest) ← readClass st.flags t
    return (plain.pushClass k, rest)
  | '*' => symbol 0 none
  | '+' => symbol 1 none
  | '?' => symbol 0 (some 1)
  | '\x7b' =>
    match repeatBounds t with
    | none => return (plain.pushClass (literalClass st.flags b.toNat), rest)
    | some (low, high, after) =>
      let size : Except Error (Nat × Option Nat) :=
        match low, high with
        | some l, none => if l ≤ 1000 then .ok (l, none) else .error ⟨.repeatSize, upTo t after⟩
        | some l, some (some h) =>
          if l ≤ 1000 ∧ h ≤ 1000 ∧ l ≤ h then .ok (l, some h)
          else .error ⟨.repeatSize, upTo t after⟩
        | _, _ => .error ⟨.repeatSize, upTo t after⟩
      let (l, h) ← size
      let (st, after) ← applyRepeat st l h true t after
      return ({ st with lastRepeat := some t }, after)
  | '\\' => readBackslash plain t
  | _ =>
    let (c, rest) ← nextChar t
    return (plain.pushClass (literalClass st.flags (c.getD ' ').toNat), rest)

/-- Reads to the end of the text. -/
def readAll (whole : Text) : (fuel : Nat) → State → Text → Except Error State
  | 0, st, _ => .ok st
  | fuel + 1, st, t =>
    match t with
    | [] => .ok st
    | b :: _ => do
      let (st, rest) ← readStep whole st b t
      readAll whole fuel st rest

/-- Reads an expression, with the names of its groups. -/
def read (t : Text) : Except Error (Regex × List Text) := do
  let fix (e : Error) : Error := if e.fault = .nestingDepth then ⟨.nestingDepth, t⟩ else e
  let st ← (readAll t (t.length + 1) {} t).mapError fix
  let body := st.frame.finish
  if maxHeight < body.height then throw ⟨.nestingDepth, t⟩
  if !st.outer.isEmpty then throw ⟨.missingParen, t⟩
  return (body.re, st.names.reverse)

end LogSql.Pattern
