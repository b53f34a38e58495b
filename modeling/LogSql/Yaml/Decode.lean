import LogSql.Number.Read
import LogSql.Time.Instant
import LogSql.Yaml.Node

/-!
What the nodes of a document mean where a field of a certain kind is expected. A missing or null value
leaves the field as it was; a value of another kind makes the document unreadable.
-/
namespace LogSql.Yaml

/-- What a scalar stands for. -/
inductive Scalar where
  | null
  | bool (b : Bool)
  | int (n : Int)
  | float (x : Binary64)
  | instant (t : Instant)
  | text (t : Text)
  deriving DecidableEq

/-- The spellings of null. -/
def nulls : List Text := ["", "~", "null", "Null", "NULL"]

/-- The spellings of truth values. -/
def bools : List (Text × Bool) :=
  [("true", true), ("True", true), ("TRUE", true), ("false", false), ("False", false),
    ("FALSE", false)]

/-- The spellings of numbers that have no digits. -/
def specials : List (Text × Binary64) :=
  [(".nan", .nan), (".NaN", .nan), (".NAN", .nan), (".inf", .infinite false),
    (".Inf", .infinite false), (".INF", .infinite false), ("+.inf", .infinite false),
    ("+.Inf", .infinite false), ("+.INF", .infinite false), ("-.inf", .infinite true),
    ("-.Inf", .infinite true), ("-.INF", .infinite true)]

/-- Words that count as truth values where a truth value is expected. -/
def boolWords : List (Text × Bool) :=
  ((["y", "Y", "yes", "Yes", "YES", "on", "On", "ON"] : List Text).map fun t => (t, true)) ++
    ((["n", "N", "no", "No", "NO", "off", "Off", "OFF"] : List Text).map fun t => (t, false))

/-- The value of digits in a base. -/
def digitsIn (base : Nat) (t : Text) : Option Nat :=
  if t.isEmpty then none
  else t.foldl (fun acc b => do
    let n ← acc
    let d ← Text.hexValue b
    if d < base then some (base * n + d) else none) (some 0)

/-- Reads an integer with an optional sign; a leading zero or a letter after it gives the base. -/
def readInteger (t : Text) : Option Int :=
  let (negative, digits) := Number.splitSign t
  let magnitude := match digits with
    | 48 :: b :: rest =>
      if b = Text.byte 'x' ∨ b = Text.byte 'X' then digitsIn 16 rest
      else if b = Text.byte 'b' ∨ b = Text.byte 'B' then digitsIn 2 rest
      else if b = Text.byte 'o' ∨ b = Text.byte 'O' then digitsIn 8 rest
      else digitsIn 8 (b :: rest)
    | _ => digitsIn 10 digits
  magnitude.map fun n => if negative then -(n : Int) else n

/-- Whether a text looks like a decimal number with an optional fraction and exponent. -/
def looksDecimal (t : Text) : Bool :=
  let body := (Number.splitSign t).2
  let whole := body.takeWhile Text.isDecimal
  let rest := body.dropWhile Text.isDecimal
  let (fraction, rest) := match rest with
    | b :: more =>
      if b = Text.byte '.' then (some (more.takeWhile Text.isDecimal), more.dropWhile Text.isDecimal)
      else (none, rest)
    | [] => (none, rest)
  let mantissa := !whole.isEmpty || ((fraction.map fun f => !f.isEmpty).getD false)
  let exponent := match rest with
    | [] => true
    | b :: more =>
      (b = Text.byte 'e' || b = Text.byte 'E') && Text.someAll Text.isDecimal (Number.splitSign more).2
  mantissa && exponent

/-- What a text that starts like a number stands for. -/
def resolveNumber (t : Text) : Scalar :=
  let year := t.takeWhile Text.isDecimal
  let dated := if year.length = 4 ∧ (t.drop 4).head? = some (Text.byte '-') then Instant.readShort? t
    else none
  match dated with
  | some i => .instant i
  | none =>
    let plain := t.filter (· ≠ Text.byte '_')
    let asFloat := if looksDecimal plain then (Number.readFloat plain).toOption else none
    match readInteger plain, asFloat with
    | some n, f =>
      if Int64Range.least ≤ n ∧ n < 18446744073709551616 then .int n
      else (f.map .float).getD (.text t)
    | none, some x => .float x
    | none, none => .text t

/-- What a plain scalar stands for. -/
def resolve (t : Text) : Scalar :=
  if t ∈ nulls then .null
  else match bools.find? fun p => p.1 = t, specials.find? fun p => p.1 = t with
    | some (_, b), _ => .bool b
    | none, some (_, x) => .float x
    | none, none =>
      match t with
      | b :: _ =>
        if b = Text.byte '.' then ((Number.readFloat t).toOption.map .float).getD (.text t)
        else if Text.isDecimal b ∨ b = Text.byte '+' ∨ b = Text.byte '-' then resolveNumber t
        else .text t
      | [] => .null

namespace Node

/-- What a scalar node stands for; quoted scalars are texts. -/
def scalar? : Node → Option Scalar
  | scalar true t => some (resolve t)
  | scalar false t => some (.text t)
  | _ => none

/-- Whether a node stands for nothing. -/
def isNull (n : Node) : Bool := n.scalar? = some .null

/-- A text: what is written, whatever it would stand for. -/
def text? (n : Node) : Option Text :=
  match n with
  | scalar _ t => some (if n.isNull then [] else t)
  | _ => none

/-- An integer. -/
def int? (n : Node) : Option Int :=
  match n.scalar? with
  | some .null => some 0
  | some (.int v) => if v ≤ Int64Range.greatest then some v else none
  | some (.float x) =>
    if x.le (Binary64.ofInt Int64Range.greatest) then some x.toInt64 else none
  | _ => none

/-- A truth value. -/
def bool? (n : Node) : Option Bool :=
  match n.scalar? with
  | some .null => some false
  | some (.bool b) => some b
  | some (.text t) => (boolWords.find? fun p => p.1 = t).map (·.2)
  | _ => none

/-- An instant, written plainly or as a text in the full calendar notation. -/
def instant? (n : Node) : Option Instant :=
  match n with
  | scalar _ t =>
    match n.scalar? with
    | some .null => some Instant.unset
    | some (.instant i) => some i
    | _ => Instant.read? t
  | _ => none

/-- A list; items that stand for nothing are left out. -/
def list? {α : Type} (item : Node → Option α) (n : Node) : Option (List α) :=
  match n with
  | sequence items => (items.filter fun i => !i.isNull).mapM item
  | _ => if n.isNull then some [] else none

/-- Whether two keys are the same. -/
def sameKey : Node → Node → Bool
  | scalar _ a, scalar _ b => a = b
  | sequence _, sequence _ => true
  | mapping _, mapping _ => true
  | _, _ => false

/-- Whether no key stands in a list twice. -/
def keysDiffer : List Node → Bool
  | [] => true
  | k :: rest => !(rest.any (sameKey k)) && keysDiffer rest

/-- A record: its fields by name. -/
def fields? : Node → Option (List (Text × Node))
  | mapping entries =>
    if !keysDiffer (entries.map (·.1)) then none
    else (entries.filter fun e => !e.1.isNull).mapM fun e => (e.1.text?).map fun k => (k, e.2)
  | n => if n.isNull then some [] else none

/-- The field of a name, as a reader takes it. -/
def field {α : Type} (fields : List (Text × Node)) (name : Text) (read : Node → Option α) :
    Option α :=
  read (((fields.find? fun f => f.1 = name).map (·.2)).getD .empty)

end Node
end LogSql.Yaml
