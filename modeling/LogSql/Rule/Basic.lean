import LogSql.Number.Read

/-!
Rules: boolean expressions over the arguments of a macro call.
-/
namespace LogSql.Rule

/-- Binary operators. -/
inductive Op where
  | or
  | and
  | equal
  | unequal
  | less
  | greater
  | lessEqual
  | greaterEqual
  | isIn
  | matches
  | contains
  | startsWith
  | endsWith
  | add
  | sub
  | mul
  | div
  | rem
  | coalesce
  deriving DecidableEq, Repr

namespace Op

/-- How strongly an operator binds. -/
def strength : Op → Nat
  | or => 10
  | and => 15
  | add | sub => 30
  | mul | div | rem => 60
  | coalesce => 500
  | _ => 20

/-- Whether comparisons with the operator can be chained. -/
def isOrder : Op → Bool
  | less | greater | lessEqual | greaterEqual => true
  | _ => false

/-- Whether the operator can be negated by a word before it. -/
def takesNot : Op → Bool
  | isIn | .matches | contains | startsWith | endsWith => true
  | _ => false

end Op

/-- The functions that every rule can call. -/
inductive Builtin where
  | len
  | int
  | float
  | string
  | upper
  | lower
  | trim
  | trimStart
  | trimEnd
  | hasStart
  | hasEnd
  | abs
  deriving DecidableEq, Repr

/-- The functions by name. -/
def builtins : List (Text × Builtin) :=
  [("len", .len), ("int", .int), ("float", .float), ("string", .string), ("upper", .upper),
    ("lower", .lower), ("trim", .trim), ("trimPrefix", .trimStart), ("trimSuffix", .trimEnd),
    ("hasPrefix", .hasStart), ("hasSuffix", .hasEnd), ("abs", .abs)]

/-- Expressions. -/
inductive Expr where
  | nothing
  | bool (b : Bool)
  | int (n : Int)
  | float (x : Binary64)
  | text (t : Text)
  | name (n : Text)
  | array (items : List Expr)
  | record (entries : List (Expr × Expr))
  | member (base key : Expr)
  | slice (base : Expr) (low high : Option Expr)
  | not (e : Expr)
  /-- A number with a sign before it. -/
  | signed (negative : Bool) (e : Expr)
  | binary (op : Op) (left right : Expr)
  | choose (cond yes no : Expr)
  | call (function : Text) (args : List Expr)
  | builtin (b : Builtin) (args : List Expr)

/-- The names that every rule knows besides its parameters. -/
def helpers : List Text := ["isDuration", "isNumber"]

/-- The name that stands for all names at once. -/
def everyName : Text := "$env"

end LogSql.Rule
