import LogSql.Template.Format

/-!
The functions that actions can call: what they take, and what they compute. A function that cannot
answer fails the template.
-/
namespace LogSql.Template

/-- What a parameter accepts. -/
inductive Kind where
  | any
  | text
  | int
  /-- A list of texts. No value is one; a missing value stands for the empty list. -/
  | texts
  deriving DecidableEq, Repr

/-- A function: its fixed parameters, the parameter that takes all further arguments, and its value
for arguments that these accept. -/
structure Function where
  fixed : List Kind
  more : Option Kind := none
  run : List Value → Option Value

namespace Function

/-- What the parameter at a position accepts. -/
def kindAt (f : Function) (i : Nat) : Kind := (f.fixed[i]?).getD (f.more.getD .any)

/-- Whether the function takes a number of arguments. -/
def takes (f : Function) (count : Nat) : Bool :=
  match f.more with
  | some _ => f.fixed.length ≤ count
  | none => f.fixed.length = count

/-- A function of texts. -/
def ofText (g : Text → Value) : Function :=
  ⟨[.text], none, fun
    | [.text a] => some (g a)
    | _ => none⟩

/-- A function of two texts. -/
def ofTexts (g : Text → Text → Value) : Function :=
  ⟨[.text, .text], none, fun
    | [.text a, .text b] => some (g a b)
    | _ => none⟩

end Function

/-- A value as a parameter of a kind takes it. -/
def Kind.accept (k : Kind) (v : Value) : Option Value :=
  match k, v with
  | .any, v => some v
  | .text, .text t => some (.text t)
  | .int, .int n => some (.int n)
  | .texts, .missing => some .missing
  | _, _ => none

namespace Function

/-- Whether two values are equal; values of different kinds cannot be compared, unless one of them
is missing. -/
def equal (a b : Value) : Option Bool :=
  match a, b with
  | .int m, .byte n => some (m = n.toNat)
  | .byte m, .int n => some (n = m.toNat)
  | .bool x, .bool y => some (x = y)
  | .complex a b, .complex c d => some (a.eq c && b.eq d)
  | .float x, .float y => some (x.eq y)
  | .int m, .int n => some (m = n)
  | .text s, .text t => some (s = t)
  | .byte m, .byte n => some (m = n)
  | .missing, .missing => some true
  | .missing, _ => some false
  | _, .missing => some false
  | _, _ => none

/-- Whether a value equals one of several. -/
def equalsAny (a : Value) : List Value → Option Bool
  | [] => some false
  | b :: rest => do if ← equal a b then some true else equalsAny a rest

/-- Whether a value comes before another. -/
def less (a b : Value) : Option Bool :=
  match a, b with
  | .int m, .byte n => some (m < n.toNat)
  | .byte m, .int n => some ((m.toNat : Int) < n)
  | .float x, .float y => some (x.lt y)
  | .int m, .int n => some (m < n)
  | .text s, .text t => some (Text.lt s t)
  | .byte m, .byte n => some (m < n)
  | _, _ => none

/-- Whether a value comes before another or equals it. -/
def lessEqual (a b : Value) : Option Bool := do
  if ← less a b then some true else equal a b

/-- A comparison of two values. -/
def comparison (g : Value → Value → Option Bool) : Function :=
  ⟨[.any, .any], none, fun
    | [a, b] => (g a b).map .bool
    | _ => none⟩

/-- A position in a text of a length. -/
def position (length : Nat) (v : Value) : Option Nat :=
  let n : Option Int := match v with
    | .int n => some n
    | .byte b => some b.toNat
    | _ => none
  n.bind fun n => if 0 ≤ n ∧ n ≤ length then some n.toNat else none

/-- The element of a value at a key or position. -/
def element (item key : Value) : Option Value :=
  match item, key with
  | .text t, key => do
    let i ← position t.length key
    let b ← t[i]?
    some (.byte b)
  | .table entries, .text k =>
    some (.text ((entries.get? k).getD []))
  | _, _ => none

/-- Follows keys and positions. -/
def elementAt (item : Value) : List Value → Option Value
  | [] => if item = .missing then none else some item
  | key :: rest => do elementAt (← element item key) rest

/-- A part of a text. -/
def part (item : Value) (bounds : List Value) : Option Value :=
  match item, bounds with
  | .text t, [] => some (.text t)
  | .text t, [a] => do
    let i ← position t.length a
    some (.text (t.drop i))
  | .text t, [a, b] => do
    let i ← position t.length a
    let j ← position t.length b
    if i ≤ j then some (.text ((t.take j).drop i)) else none
  | _, _ => none

/-- The number of bytes of a text or of entries of a table. -/
def size : Value → Option Value
  | .text t => some (.int t.length)
  | .table entries => some (.int entries.length)
  | _ => none

/-- Arguments as one text; a missing one has no value to show. -/
def shownArguments (vs : List Value) : Text :=
  match vs with
  | [.text t] => t
  | vs => sprint (vs.map fun v => if v = .missing then .text "<no value>" else v)

/-- A text safe between HTML tags and in attributes. -/
def htmlEscape (t : Text) : Text :=
  t.flatMap fun b =>
    if b = 0 then Text.ofChar Text.replacement
    else if b = Text.byte '"' then "&#34;"
    else if b = Text.byte '\'' then "&#39;"
    else if b = Text.byte '&' then "&amp;"
    else if b = Text.byte '<' then "&lt;"
    else if b = Text.byte '>' then "&gt;"
    else [b]

/-- Upper case hexadecimal digits. -/
def hexUpper (width n : Nat) : Text := Text.upper (Text.hexFixed width n)

/-- A text safe inside a script literal. -/
def scriptEscape (t : Text) : Text :=
  (Text.glyphs t).flatMap fun r =>
    if r.char = '\\' then "\\\\"
    else if r.char = '\'' then "\\'"
    else if r.char = '"' then "\\\""
    else if ['<', '>', '&', '='].contains r.char ∨ r.char.toNat < 32 then
      "\\u" ++ hexUpper 4 r.char.toNat
    else if r.char.toNat < 128 ∨ Text.isPrintable r.char then r.raw
    else "\\u" ++ (if r.char.toNat < 0x10000 then hexUpper 4 r.char.toNat
      else Directive.digitsIn 16 true r.char.toNat)

/-- A text safe as a part of a URL query. -/
def queryEscape (t : Text) : Text :=
  t.flatMap fun b =>
    if Text.isAlpha b ∨ Text.isDecimal b ∨ (Text.ofString "-_.~").elem b then [b]
    else if b = 32 then "+"
    else Text.byte '%' :: hexUpper 2 b.toNat

/-- A function of all its arguments. -/
def ofAll (g : List Value → Text) : Function := ⟨[], some .any, fun vs => some (.text (g vs))⟩

end Function

/-- The functions that every template can call. The two connectives stop at the first argument that
decides, which the evaluation of calls sees to. -/
def builtins : List (Text × Function) :=
  [("and", ⟨[.any], some .any, fun vs => vs.getLast?⟩),
    ("or", ⟨[.any], some .any, fun vs => vs.getLast?⟩),
    ("not", ⟨[.any], none, fun vs => vs.head?.map fun v => .bool !v.isTrue⟩),
    ("eq", ⟨[.any], some .any, fun
      | a :: b :: rest => (Function.equalsAny a (b :: rest)).map .bool
      | _ => none⟩),
    ("ne", Function.comparison fun a b => (Function.equal a b).map (!·)),
    ("lt", Function.comparison Function.less),
    ("le", Function.comparison Function.lessEqual),
    ("gt", Function.comparison fun a b => (Function.lessEqual a b).map (!·)),
    ("ge", Function.comparison fun a b => (Function.less a b).map (!·)),
    ("index", ⟨[.any], some .any, fun vs => Function.elementAt (vs.headD .missing) vs.tail⟩),
    ("slice", ⟨[.any], some .any, fun vs => Function.part (vs.headD .missing) vs.tail⟩),
    ("len", ⟨[.any], none, fun vs => Function.size (vs.headD .missing)⟩),
    ("call", ⟨[.any], some .any, fun _ => none⟩),
    ("print", Function.ofAll sprint),
    ("println", Function.ofAll sprintln),
    ("printf", ⟨[.text], some .any, fun
      | .text format :: args => some (.text (sprintf format args))
      | _ => none⟩),
    ("html", Function.ofAll fun vs => Function.htmlEscape (Function.shownArguments vs)),
    ("js", Function.ofAll fun vs => Function.scriptEscape (Function.shownArguments vs)),
    ("urlquery", Function.ofAll fun vs => Function.queryEscape (Function.shownArguments vs))]

end LogSql.Template
