import LogSql.Labels
import LogSql.Rule.Check
import LogSql.Time.Duration

/-!
Running rules over the arguments of a call. A rule that cannot be evaluated has no value.
-/
namespace LogSql.Rule

/-- Values. -/
inductive Value where
  | nothing
  | bool (b : Bool)
  | int (n : Int)
  | float (x : Binary64)
  | text (t : Text)
  | array (items : List Value)
  | record (entries : List (Text × Value))
  | helper (name : Text)

namespace Value

/-- The value as a floating point number. -/
def number? : Value → Option Binary64
  | int n => some (Binary64.ofInt n)
  | float x => some x
  | _ => none

/-- The value as a text. -/
def text? : Value → Option Text
  | text t => some t
  | _ => none

/-- The value as a truth value. -/
def bool? : Value → Option Bool
  | bool b => some b
  | _ => none

/-- The value as an integer. -/
def int? : Value → Option Int
  | int n => some n
  | _ => none

mutual

/-- Whether two values are equal; numbers are equal whatever their type. -/
def equal : Value → Value → Bool
  | nothing, nothing => true
  | bool a, bool b => a = b
  | int a, int b => a = b
  | text a, text b => a = b
  | array a, array b => equalAll a b
  | a, b =>
    match a.number?, b.number? with
    | some x, some y => x.eq y
    | _, _ => false

@[inherit_doc equal]
def equalAll : List Value → List Value → Bool
  | [], [] => true
  | a :: as, b :: bs => equal a b && equalAll as bs
  | _, _ => false

end

/-- Whether a value comes before another. -/
def less? (a b : Value) : Option Bool :=
  match a, b with
  | int m, int n => some (m < n)
  | text s, text t => some (Text.lt s t)
  | a, b => do some ((← a.number?).lt (← b.number?))

/-- Whether a value comes before another or equals it. -/
def lessEqual? (a b : Value) : Option Bool :=
  match a, b with
  | int m, int n => some (m ≤ n)
  | text s, text t => some (!Text.lt t s)
  | a, b => do some ((← a.number?).le (← b.number?))

/-- The value in words. -/
def spelled : Value → Text
  | nothing => "<nil>"
  | bool b => if b then "true" else "false"
  | int n => Text.ofInt n
  | float x => x.general
  | text t => t
  | _ => []

end Value

/-- The value of a test on two texts; a missing text passes none. -/
def textTest (test : Text → Text → Option Bool) (a b : Value) : Option Value :=
  match a, b with
  | .nothing, _ => some (.bool false)
  | _, .nothing => some (.bool false)
  | .text s, .text t => (test s t).map .bool
  | _, _ => none

/-- Whether a value is among others. -/
def among? (a : Value) : Value → Option Value
  | .array items => some (.bool (items.any a.equal))
  | .record entries => do some (.bool (entries.any fun e => some e.1 = a.text?))
  | .nothing => some (.bool false)
  | _ => none

/-- A sum, difference or product of numbers. -/
def arithmetic (ints : Int → Int → Int) (floats : Binary64 → Binary64 → Binary64) (a b : Value) :
    Option Value :=
  match a, b with
  | .int m, .int n => some (.int (Int64Range.wrap (ints m n)))
  | a, b => do some (.float (floats (← a.number?) (← b.number?)))

/-- The negative of a number. -/
def negated : Binary64 → Binary64
  | .finite s m e => .finite (!s) m e
  | .infinite s => .infinite !s
  | .nan => .nan

/-- The value of an operator whose operands are both needed. -/
def Op.run (op : Op) (a b : Value) : Option Value :=
  match op with
  | .equal => some (.bool (a.equal b))
  | .unequal => some (.bool !(a.equal b))
  | .less => (a.less? b).map .bool
  | .greater => (b.less? a).map .bool
  | .lessEqual => (a.lessEqual? b).map .bool
  | .greaterEqual => (b.lessEqual? a).map .bool
  | .isIn => among? a b
  | .matches => textTest (fun s re => (Pattern.compile re).toOption.map fun p => p.isMatch s) a b
  | .contains => textTest (fun s t => some (Text.contains s t)) a b
  | .startsWith => textTest (fun s t => some (t.isPrefixOf s)) a b
  | .endsWith => textTest (fun s t => some (t.isSuffixOf s)) a b
  | .add =>
    match a, b with
    | .text s, .text t => some (.text (s ++ t))
    | a, b => arithmetic (· + ·) Binary64.add a b
  | .sub => arithmetic (· - ·) (fun x y => x.add (negated y)) a b
  | .mul => arithmetic (· * ·) Binary64.mul a b
  | .div => do some (.float ((← a.number?).div (← b.number?)))
  | .rem => do
    let m ← a.int?
    let n ← b.int?
    if n = 0 then none else some (.int (m.tmod n))
  | .coalesce | .and | .or => none

/-- The integer of a value. -/
def toInt? : Value → Option Value
  | .int n => some (.int n)
  | .float x => some (.int x.toInt64)
  | .text t => (Number.readInt t).toOption.map .int
  | _ => none

/-- The floating point number of a value. -/
def toFloat? : Value → Option Value
  | .text t => (Number.readFloat t).toOption.map .float
  | v => v.number?.map .float

/-- The value of a function. -/
def Builtin.run (b : Builtin) (args : List Value) : Option Value :=
  match b, args with
  | .len, [.text t] => some (.int (Text.glyphs t).length)
  | .len, [.array items] => some (.int items.length)
  | .len, [.record entries] => some (.int entries.length)
  | .int, [v] => toInt? v
  | .float, [v] => toFloat? v
  | .string, [v] => some (.text v.spelled)
  | .upper, [.text t] => some (.text t.upper)
  | .lower, [.text t] => some (.text t.lower)
  | .trim, [.text t] => some (.text t.trim)
  | .trim, [.text t, .text set] =>
    let chars := Text.chars set
    some (.text (Text.trimBy (fun c => chars.contains c) t))
  | .trimStart, [.text t] => some (.text ((Text.stripStart " " t).getD t))
  | .trimStart, [.text t, .text head] => some (.text ((Text.stripStart head t).getD t))
  | .trimEnd, [.text t] => some (.text ((Text.stripEnd " " t).getD t))
  | .trimEnd, [.text t, .text tail] => some (.text ((Text.stripEnd tail t).getD t))
  | .hasStart, [.text t, .text head] => some (.bool (head.isPrefixOf t))
  | .hasEnd, [.text t, .text tail] => some (.bool (tail.isSuffixOf t))
  | .abs, [.int n] => some (.int n.natAbs)
  | .abs, [.float x] => some (.float (if x.lt (.zero false) then negated x else x))
  | _, _ => none

/-- The value of a helper. -/
def runHelper (name : Text) (t : Text) : Bool :=
  if name = ("isDuration" : Text) then (Duration.readRange t).toBool
  else (Number.readFloat t).toBool

/-- The value of a name: an argument, or else a helper. -/
def nameValue (args : Labels) (n : Text) : Value :=
  match args.get? n with
  | some t => .text t
  | none => if n ∈ helpers then .helper n else .nothing

/-- A position in a sequence, counted from the end when negative. -/
def clampIndex (length : Nat) (i : Int) : Nat :=
  let i := if i < 0 then i + length else i
  min i.toNat length

mutual

/-- The value of an expression. -/
def eval (args : Labels) : Expr → Option Value
  | .nothing => some .nothing
  | .bool b => some (.bool b)
  | .int n => some (.int n)
  | .float x => some (.float x)
  | .text t => some (.text t)
  | .name n => some (nameValue args n)
  | .array items => (evalAll args items).map .array
  | .record entries => (evalEntries args entries).map .record
  | .member _ _ => none
  | .slice base low high => do
    let b ← eval args base
    let t ← b.text?
    let l ← evalOpt args (.int 0) low
    let h ← evalOpt args (.int t.length) high
    let i := clampIndex t.length (← l.int?)
    let j := clampIndex t.length (← h.int?)
    some (.text ((t.take j).drop (min i j)))
  | .not e => do
    let v ← eval args e
    some (.bool !(← v.bool?))
  | .signed negative e => do
    match ← eval args e with
    | .int n => some (.int (if negative then Int64Range.wrap (-n) else n))
    | .float x => some (.float (if negative then negated x else x))
    | _ => none
  | .binary .and l r => do
    let a ← eval args l
    if ← a.bool? then eval args r else some (.bool false)
  | .binary .or l r => do
    let a ← eval args l
    if ← a.bool? then some (.bool true) else eval args r
  | .binary .coalesce l r => do
    match ← eval args l with
    | .nothing => eval args r
    | v => some v
  | .binary op l r => do
    let a ← eval args l
    let b ← eval args r
    op.run a b
  | .choose c yes no => do
    let v ← eval args c
    if ← v.bool? then eval args yes else eval args no
  | .call f as => do
    match nameValue args f, ← evalAll args as with
    | .helper name, [.text t] => some (.bool (runHelper name t))
    | _, _ => none
  | .builtin b as => do b.run (← evalAll args as)

/-- The values of expressions. -/
def evalAll (args : Labels) : List Expr → Option (List Value)
  | [] => some []
  | e :: rest => do
    let v ← eval args e
    let vs ← evalAll args rest
    some (v :: vs)

/-- The entries of a record. -/
def evalEntries (args : Labels) : List (Expr × Expr) → Option (List (Text × Value))
  | [] => some []
  | (k, v) :: rest => do
    let key ← (← eval args k).text?
    let value ← eval args v
    let more ← evalEntries args rest
    some ((key, value) :: more)

/-- The value of an expression that may be missing. -/
def evalOpt (args : Labels) (default : Value) : Option Expr → Option Value
  | none => some default
  | some e => eval args e

end

/-- Whether a rule accepts arguments; nothing when it cannot be evaluated. -/
def accepts? (rule : Expr) (args : Labels) : Option Bool :=
  (eval args rule).map fun v => (v.bool?).getD false

end LogSql.Rule
