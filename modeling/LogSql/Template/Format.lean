import LogSql.Template.Value

/-!
How template values are printed: on their own, side by side, and through a format with verbs.
-/
namespace LogSql

namespace Decimal

/-- The value `num / den` rounded to `count` significant digits. -/
def significant (num den count : Nat) : Decimal :=
  if num = 0 then ⟨[], 0⟩
  else
    let e := floorLog10 num den - count + 1
    let (a, b) := if 0 ≤ e then (num, den * Nat.pow 10 e.toNat) else (num * Nat.pow 10 (-e).toNat, den)
    ofScaled (Binary64.roundDiv a b) e

/-- Plain notation of `num / den` with exactly `places` digits after the point. -/
def fixedText (num den places : Nat) : Text :=
  let digits := Text.ofNat (Binary64.roundDiv (num * Nat.pow 10 places) den)
  let digits := List.replicate (places + 1 - digits.length) (Text.byte '0') ++ digits
  let whole := digits.take (digits.length - places)
  if places = 0 then whole else .concat [whole, ".", digits.drop (digits.length - places)]

/-- Scientific notation of a number rounded to `places + 1` digits, trailing zeros kept. -/
def scientificText (x : Decimal) (places : Nat) : Text :=
  let digits := x.digits.map digit
  let digits := digits ++ List.replicate (places + 1 - digits.length) (Text.byte '0')
  let e : Int := if x.digits.isEmpty then 0 else x.point - 1
  let size := Text.ofNat e.natAbs
  .concat [digits.take 1, if places = 0 then [] else ".", digits.drop 1, "e",
    if e < 0 then "-" else "+", if size.length < 2 then "0" else [], size]

end Decimal

namespace Template

/-- How one verb of a format prints its operand. -/
structure Directive where
  sharp : Bool := false
  zero : Bool := false
  plus : Bool := false
  minus : Bool := false
  space : Bool := false
  width : Option Nat := none
  precision : Option Nat := none
  /-- The alternative form of the default verb. -/
  sharpDefault : Bool := false

namespace Directive

/-- Fills up to the width, which counts characters. -/
def pad (d : Directive) (t : Text) : Text :=
  let missing := d.width.getD 0 - (Text.glyphs t).length
  if d.minus then t ++ List.replicate missing 32
  else List.replicate missing (if d.zero then Text.byte '0' else 32) ++ t

/-- Fills up with blanks only. -/
def padBlank (d : Directive) (t : Text) : Text := { d with zero := false }.pad t

/-- A text cut to the precision. -/
def truncated (d : Directive) (t : Text) : Text :=
  match d.precision with
  | some n => Text.ofGlyphs ((Text.glyphs t).take n)
  | none => t

/-- A text as the bytes it consists of, in hexadecimal digits. -/
def hexBytes (d : Directive) (upper : Bool) (t : Text) : Text :=
  let t := match d.precision with
    | some n => t.take n
    | none => t
  let spell := fun (b : UInt8) =>
    let h := Text.hexFixed 2 b.toNat
    if upper then Text.upper h else h
  let mark : Text := if d.sharp then (if upper then "0X" else "0x") else []
  let bytes := t.map spell
  let body :=
    if d.space then Text.join " " (bytes.map (mark ++ ·))
    else if t.isEmpty then [] else mark ++ bytes.flatten
  d.pad body

/-- A character that ASCII has, printed as it is; another one by its number. -/
def asciiGlyph (r : Glyph) : Text :=
  if r.raw.length = 1 ∧ r.char = Text.replacement then r.raw
  else if r.char.toNat < 128 then r.raw
  else if r.char.toNat < 0x10000 then "\\u" ++ Text.hexFixed 4 r.char.toNat
  else "\\U" ++ Text.hexFixed 8 r.char.toNat

/-- A text between quotes. -/
def quoted (d : Directive) (t : Text) : Text :=
  let t := d.truncated t
  let plainInBackquotes := Text.isWellFormed t && (Text.chars t).all fun c =>
    c ≠ Char.ofNat 96 && c ≠ Char.ofNat 0xFEFF && c ≠ Char.ofNat 127 && (c = '\t' || ' ' ≤ c)
  let body : Text :=
    if d.sharp && plainInBackquotes then .concat [[96], t, [96]]
    else if d.plus then (Text.glyphs (Text.quote t)).flatMap asciiGlyph
    else Text.quote t
  d.pad body

/-- Digits of a number in a base. -/
def digitsIn (base : Nat) (upper : Bool) (n : Nat) : Text :=
  let t : Text := (Nat.toDigits base n).map Text.byte
  if upper then Text.upper t else t

/-- An integer in a base. -/
def integer (d : Directive) (base : Nat) (upper : Bool) (octalMark : Bool) (n : Int) : Text :=
  let signed : Bool := n < 0 || d.plus || d.space
  if d.precision = some 0 ∧ n = 0 then List.replicate (d.width.getD 0) 32
  else
    let least := match d.precision, d.width with
      | some p, _ => p
      | none, some w => if d.zero && !d.minus then (if signed then w - 1 else w) else 0
      | none, none => 0
    let digits := digitsIn base upper n.natAbs
    let digits := List.replicate (least - digits.length) (Text.byte '0') ++ digits
    let mark : Text :=
      if !d.sharp then []
      else if base = 2 then "0b"
      else if base = 8 then (if digits.head? = some (Text.byte '0') then [] else "0")
      else if base = 16 then (if upper then "0X" else "0x")
      else []
    let sign : Text := if n < 0 then "-" else if d.plus then "+" else if d.space then " " else []
    d.padBlank (.concat [sign, if octalMark then "0o" else [], mark, digits])

/-- The character of a number; the replacement character when there is none. -/
def charOf (n : Int) : Char :=
  if 0 ≤ n ∧ n ≤ 0x10FFFF ∧ Text.isScalar n.toNat then Char.ofNat n.toNat else Text.replacement

/-- A number as a code point. -/
def codePoint (d : Directive) (n : Int) : Text :=
  let n : Nat := if n < 0 then (Nat.pow 2 64 - n.natAbs) else n.toNat
  let digits := digitsIn 16 true n
  let least := max 4 (d.precision.getD 4)
  let digits := List.replicate (least - digits.length) (Text.byte '0') ++ digits
  let picture : Text :=
    if d.sharp && n ≤ 0x10FFFF && Text.isPrintable (charOf n) then
      .concat [" '", Text.ofChar (charOf n), "'"]
    else []
  d.padBlank (.concat ["U+", digits, picture])

/-- The digits of a finite number by a verb, without its sign. -/
def magnitude (d : Directive) (verb : Char) (m : Nat) (e : Int) : Text :=
  let (num, den) := Binary64.scaled m e
  let upper := fun (t : Text) => if verb.isUpper then Text.upper t else t
  match verb.toLower with
  | 'f' => Decimal.fixedText num den (d.precision.getD 6)
  | 'e' =>
    let places := d.precision.getD 6
    upper (Decimal.scientificText (Decimal.significant num den (places + 1)) places)
  | _ =>
    match d.precision with
    | none =>
      let x := Decimal.shortest m e
      upper (if ¬ x.digits.isEmpty ∧ (x.point - 1 < -4 ∨ 6 ≤ x.point - 1) then x.scientific 2
        else x.positional)
    | some p =>
      let x := Decimal.significant num den (max p 1)
      let count : Int := x.digits.length
      let limit : Int := if (max p 1 : Nat) > count ∧ x.point ≤ count then count else max p 1
      upper (if ¬ x.digits.isEmpty ∧ (x.point - 1 < -4 ∨ limit ≤ x.point - 1) then x.scientific 2
        else x.positional)

/-- A floating point number by a verb. -/
def float (d : Directive) (verb : Char) (x : Binary64) : Text :=
  match x with
  | .nan => d.padBlank (if d.plus then "+NaN" else if d.space then " NaN" else "NaN")
  | .infinite negative =>
    d.padBlank (if negative then "-Inf" else if d.space && !d.plus then " Inf" else "+Inf")
  | .finite negative m e =>
    let body := d.magnitude verb m e
    let sign : Text :=
      if negative then "-" else if d.plus then "+" else if d.space then " " else []
    if sign.isEmpty then d.pad body
    else
      let missing := d.width.getD 0 - (body.length + 1)
      if d.zero && !d.minus then
        .concat [sign, List.replicate missing (Text.byte '0'), body]
      else d.pad (sign ++ body)

end Directive

/-- The verbs of floating point numbers. -/
def floatVerb (verb : Char) : Bool := ['v', 'g', 'G', 'f', 'F', 'e', 'E'].contains verb

/-- A text by a verb. -/
def textBy (d : Directive) (verb : Char) (t : Text) : Text :=
  match verb with
  | 'v' => if d.sharpDefault then d.quoted t else d.pad (d.truncated t)
  | 's' => d.pad (d.truncated t)
  | 'x' => d.hexBytes false t
  | 'X' => d.hexBytes true t
  | 'q' => d.quoted t
  | _ => .concat ["%!", Text.ofChar verb, "(string=",
      if d.sharpDefault then d.quoted t else d.pad (d.truncated t), ")"]

/-- An integer by a verb. -/
def integerBy (d : Directive) (verb : Char) (unsigned : Bool) (n : Int) : Option Text :=
  match verb with
  | 'v' =>
    some (if d.sharpDefault && unsigned then { d with sharp := true }.integer 16 false false n
      else d.integer 10 false false n)
  | 'd' => some (d.integer 10 false false n)
  | 'b' => some (d.integer 2 false false n)
  | 'o' => some (d.integer 8 false false n)
  | 'O' => some (d.integer 8 false true n)
  | 'x' => some (d.integer 16 false false n)
  | 'X' => some (d.integer 16 true false n)
  | 'c' => some (d.pad (Text.ofChar (Directive.charOf n)))
  | 'q' =>
    let t := Text.quoteChar (Directive.charOf n)
    some (d.pad (if d.plus then (Text.glyphs t).flatMap Directive.asciiGlyph else t))
  | 'U' => some (d.codePoint n)
  | _ => none

/-- A complex number by a verb; the imaginary part always has a sign. -/
def complexBy (d : Directive) (verb : Char) (re im : Binary64) : Text :=
  .concat ["(", d.float verb re, { d with plus := true }.float verb im, "i)"]

/-- A table by a verb, in key order. -/
def tableBy (d : Directive) (verb : Char) (entries : List (Text × Text)) : Text :=
  let cells := entries.map fun (k, v) => .concat [textBy d verb k, ":", textBy d verb v]
  if d.sharpDefault then .concat ["map[string]string\x7b", Text.join ", " cells, "\x7d"]
  else .concat ["map[", Text.join " " cells, "]"]

/-- A value by the default verb. -/
def Value.shown (d : Directive) (v : Value) : Text :=
  match v with
  | .missing => d.pad "<nil>"
  | .text t => if d.sharpDefault then d.quoted t else d.pad (d.truncated t)
  | .bool b => d.pad (if b then "true" else "false")
  | .int n => d.integer 10 false false n
  | .byte b =>
    if d.sharpDefault then { d with sharp := true }.integer 16 false false b.toNat
    else d.integer 10 false false b.toNat
  | .float x => d.float 'v' x
  | .complex re im => complexBy d 'v' re im
  | .table entries => tableBy d 'v' entries

/-- A value by a verb; a verb that does not fit is reported in place. -/
def Value.formatted (d : Directive) (verb : Char) (v : Value) : Text :=
  let refused : Text := .concat ["%!", Text.ofChar verb, "(",
    if v = .missing then "<nil>" else .concat [v.typeName, "=", v.shown d], ")"]
  if verb = 'T' then d.pad (d.truncated v.typeName)
  else match v with
  | .missing => if verb = 'v' then d.pad "<nil>" else refused
  | .text t => textBy d verb t
  | .bool _ => if verb = 't' ∨ verb = 'v' then v.shown d else refused
  | .int n => (integerBy d verb false n).getD refused
  | .byte b => (integerBy d verb true b.toNat).getD refused
  | .float x => if floatVerb verb then d.float verb x else refused
  | .complex re im => if floatVerb verb then complexBy d verb re im else refused
  | .table entries => tableBy d verb entries

/-- A value printed on its own. -/
def Value.plain (v : Value) : Text := v.shown {}

/-- Values printed side by side, with a blank between two of which neither is a text. -/
def sprint (vs : List Value) : Text :=
  let rec go (first : Bool) (afterText : Bool) : List Value → Text
    | [] => []
    | v :: rest =>
      let isText : Bool := match v with
        | .text _ => true
        | _ => false
      let gap : Text := if !first && !isText && !afterText then " " else []
      .concat [gap, v.plain, go false isText rest]
  go true false vs

/-- Values printed with blanks between them and a line break behind them. -/
def sprintln (vs : List Value) : Text := Text.join " " (vs.map Value.plain) ++ [10]

/-- What is left of a format, and the operand that comes next. -/
structure FormatState where
  rest : Text
  operand : Nat := 0
  /-- Whether the operand just asked for exists. -/
  good : Bool := true
  /-- Whether operands were taken out of order. -/
  reordered : Bool := false
  /-- Whether an explicit operand number stands just before. -/
  afterIndex : Bool := false

/-- A number in a format, which is at most a million or so. -/
def formatNumber (t : Text) : Option Nat × Text :=
  let digits := t.takeWhile Text.isDecimal
  let after := t.drop digits.length
  if digits.isEmpty then (none, t)
  else if digits.length > 7 ∨ Text.digitsValue digits.dropLast > 1000000 then (none, [])
  else (some (Text.digitsValue digits), after)

/-- Takes an explicit operand number in brackets. -/
def operandNumber (count : Nat) (s : FormatState) : FormatState :=
  match s.rest with
  | b :: tail =>
    if b ≠ Text.byte '[' then { s with afterIndex := false }
    else
      let s := { s with reordered := true }
      match Text.cut "]" tail with
      | some (inside, after) =>
        if s.rest.length < 3 then { s with good := false, rest := tail, afterIndex := false }
        else if !Text.someAll Text.isDecimal inside then
          { s with good := false, rest := after, afterIndex := false }
        else
          let n := Text.digitsValue inside
          if 1 ≤ n ∧ n ≤ count then { s with operand := n - 1, rest := after, afterIndex := true }
          else { s with good := false, rest := after, afterIndex := true }
      | none => { s with good := false, rest := tail, afterIndex := false }
  | [] => { s with afterIndex := false }

/-- Takes the flags of a verb. -/
def takeFlags (d : Directive) : Text → Directive × Text
  | [] => (d, [])
  | b :: rest =>
    if b = Text.byte '#' then takeFlags { d with sharp := true } rest
    else if b = Text.byte '0' then takeFlags { d with zero := true } rest
    else if b = Text.byte '+' then takeFlags { d with plus := true } rest
    else if b = Text.byte '-' then takeFlags { d with minus := true } rest
    else if b = 32 then takeFlags { d with space := true } rest
    else (d, b :: rest)

/-- An operand taken as a number for a width or a precision. -/
def numberOperand (args : List Value) (i : Nat) : Option Int :=
  let n : Option Int := match args[i]? with
    | some (.int n) => some n
    | some (.byte b) => some b.toNat
    | _ => none
  n.filter fun n => n.natAbs ≤ 1000000

/-- Takes the width: what to print at once, the directive, and the rest. -/
def takeWidth (args : List Value) (d : Directive) (s : FormatState) :
    Text × Directive × FormatState :=
  match s.rest with
  | b :: after =>
    if b = Text.byte '*' then
      let next := if s.operand < args.length then s.operand + 1 else s.operand
      let s' := { s with rest := after, operand := next, afterIndex := false }
      match numberOperand args s.operand with
      | none => ("%!(BADWIDTH)", d, s')
      | some n =>
        if n < 0 then ([], { d with width := some n.natAbs, minus := true, zero := false }, s')
        else ([], { d with width := some n.natAbs }, s')
    else
      let (n, after) := formatNumber s.rest
      ([], { d with width := n },
        { s with rest := after, good := s.good && !(s.afterIndex && n.isSome) })
  | [] => ([], d, s)

/-- Takes the precision: what to print at once, the directive, and the rest. -/
def takePrecision (args : List Value) (d : Directive) (s : FormatState) :
    Text × Directive × FormatState :=
  match s.rest with
  | b :: after =>
    if b ≠ Text.byte '.' then ([], d, s)
    else
      let s := operandNumber args.length
        { s with rest := after, good := s.good && !s.afterIndex }
      match s.rest with
      | c :: tail =>
        if c = Text.byte '*' then
          let next := if s.operand < args.length then s.operand + 1 else s.operand
          let s' := { s with rest := tail, operand := next, afterIndex := false }
          match numberOperand args s.operand with
          | none => ("%!(BADPREC)", d, s')
          | some n =>
            if n < 0 then ("%!(BADPREC)", d, s')
            else ([], { d with precision := some n.natAbs }, s')
        else
          let (n, after) := formatNumber s.rest
          ([], { d with precision := some (n.getD 0) }, { s with rest := after })
      | [] => ([], { d with precision := some 0 }, s)
  | [] => ([], d, s)

/-- The operands that no verb took. -/
def extraOperands (args : List Value) : Text :=
  let spell := fun (v : Value) =>
    if v = .missing then ("<nil>" : Text) else .concat [v.typeName, "=", v.plain]
  if args.isEmpty then [] else .concat ["%!(EXTRA ", Text.join ", " (args.map spell), ")"]

/-- Prints the rest of a format; every round takes a byte at least. -/
def formatFrom (args : List Value) : (fuel : Nat) → FormatState → Text
  | 0, _ => []
  | fuel + 1, s =>
    match Text.cut "%" s.rest with
    | none =>
      s.rest ++ (if s.reordered then [] else extraOperands (args.drop s.operand))
    | some (before, after) =>
      let (d, after) := takeFlags {} after
      let s := operandNumber args.length { s with rest := after, good := true }
      let (warned, d, s) := takeWidth args d s
      let (warned', d, s) := takePrecision args d s
      let s := if s.afterIndex then s else operandNumber args.length s
      let head := .concat [before, warned, warned']
      match s.rest with
      | [] =>
        .concat [head, "%!(NOVERB)",
          if s.reordered then [] else extraOperands (args.drop s.operand)]
      | b :: tail =>
        let (verb, width) := Text.firstChar b tail
        let next := { s with rest := s.rest.drop width, afterIndex := false }
        if verb = '%' then .concat [head, "%", formatFrom args fuel next]
        else if !s.good then
          .concat [head, "%!", Text.ofChar verb, "(BADINDEX)", formatFrom args fuel next]
        else match args[s.operand]? with
          | none =>
            .concat [head, "%!", Text.ofChar verb, "(MISSING)", formatFrom args fuel next]
          | some v =>
            let d :=
              if verb = 'v' then { d with sharpDefault := d.sharp, sharp := false, plus := false }
              else d
            .concat [head, v.formatted d verb,
              formatFrom args fuel { next with operand := s.operand + 1 }]

/-- Prints values through a format. -/
def sprintf (format : Text) (args : List Value) : Text :=
  formatFrom args (format.length + 1) { rest := format }

end Template
end LogSql
