import LogSql.Pattern.Program
import LogSql.Rule.Parser

/-!
Which rules are accepted. A rule has to be well-typed and boolean; after constants are folded it may
use only its parameters and the helpers, no members, and no pattern that repeats a repetition.
-/
namespace LogSql.Rule

/-- Types. What is not known until a rule runs fits everywhere. -/
inductive Ty where
  | unknown
  | nothing
  | bool
  | int
  | float
  | text
  | array (element : Ty)
  | record
  | function
  deriving DecidableEq, Repr

namespace Ty

/-- A number, or something that may be one. -/
def maybeNumber : Ty → Bool
  | int | float | unknown => true
  | _ => false

/-- A text, or something that may be one. -/
def maybeText : Ty → Bool
  | text | unknown => true
  | _ => false

/-- A truth value, or something that may be one. -/
def maybeBool : Ty → Bool
  | bool | unknown => true
  | _ => false

/-- Whether two types are of the same kind; all arrays are. -/
def sameKind : Ty → Ty → Bool
  | array _, array _ => true
  | a, b => a = b

/-- Whether values of two types can be compared. -/
def comparable (a b : Ty) : Bool :=
  sameKind a b || (a.maybeNumber && b.maybeNumber) || a = nothing || b = nothing || a = unknown ||
    b = unknown

/-- The type of a sum or a difference of numbers. -/
def numeric (a b : Ty) : Ty :=
  if a = unknown ∨ b = unknown then unknown else if a = int ∧ b = int then int else float

/-- The type of a value that may be of either type. -/
def join (a b : Ty) : Ty :=
  if a = nothing then b else if b = nothing then a else if a = b then a else unknown

end Ty

/-- The type of the result of an operator, when its operands fit. -/
def Op.type? (op : Op) (l r : Ty) : Option Ty :=
  match op with
  | .equal | .unequal => if l.comparable r then some .bool else none
  | .or | .and => if l.maybeBool && r.maybeBool then some .bool else none
  | .less | .greater | .lessEqual | .greaterEqual =>
    if (l.maybeNumber && r.maybeNumber) || (l.maybeText && r.maybeText) then some .bool else none
  | .matches | .contains | .startsWith | .endsWith =>
    if l.maybeText && r.maybeText then some .bool else none
  | .isIn =>
    match r with
    | .array element => if l.comparable element then some .bool else none
    | .record => if l.maybeText then some .bool else none
    | .unknown => some .bool
    | _ => none
  | .add =>
    if l = .text ∧ r = .text then some .text
    else if l.maybeNumber && r.maybeNumber then some (l.numeric r)
    else if l.maybeText && r.maybeText then some .unknown
    else none
  | .sub | .mul => if l.maybeNumber && r.maybeNumber then some (l.numeric r) else none
  | .div => if l.maybeNumber && r.maybeNumber then some .float else none
  | .rem =>
    if (l = .int || l = .unknown) && (r = .int || r = .unknown) then some .int else none
  | .coalesce => some (l.join r)

/-- The type of the result of a function, when its arguments fit. -/
def Builtin.type? (b : Builtin) (args : List Ty) : Option Ty :=
  match b, args with
  | .len, [.text] | .len, [.array _] | .len, [.record] | .len, [.unknown] => some .int
  | .int, [a] => if a.maybeNumber || a.maybeText then some .int else none
  | .float, [a] => if a.maybeNumber || a.maybeText then some .float else none
  | .string, [_] => some .text
  | .upper, [a] | .lower, [a] | .trim, [a] | .trimStart, [a] | .trimEnd, [a] =>
    if a.maybeText then some .text else none
  | .trim, [a, b] | .trimStart, [a, b] | .trimEnd, [a, b] =>
    if a.maybeText && b.maybeText then some .text else none
  | .hasStart, [a, b] | .hasEnd, [a, b] =>
    if a.maybeText && b.maybeText then some .bool else none
  | .abs, [a] => if a.maybeNumber then some a else none
  | _, _ => none

/-- The type of a name: parameters are texts, and a parameter hides a helper of its name. -/
def nameType? (params : List Text) (n : Text) : Option Ty :=
  if n = everyName then some .unknown
  else if n ∈ params then some .text
  else if n ∈ helpers then some .function
  else none

/-- The type of a member. -/
def memberType? (params : List Text) (base key : Expr) (baseType keyType : Ty) : Option Ty :=
  match base, key with
  | .name n, .text k => if n = everyName then nameType? params k else plain
  | _, _ => plain
where
  /-- The type of a member of a value. -/
  plain : Option Ty :=
    match baseType with
    | .unknown => some .unknown
    | .record => if keyType.maybeText then some .unknown else none
    | .array element => if keyType = .int || keyType = .unknown then some element else none
    | _ => none

/-- Whether a pattern that is written out can be read. -/
def patternFits (op : Op) : Expr → Bool
  | .text t => op ≠ .matches || (Pattern.compile t).toBool
  | _ => true

mutual

/-- The type of an expression, when it has one. -/
def type? (params : List Text) : Expr → Option Ty
  | .nothing => some .nothing
  | .bool _ => some .bool
  | .int _ => some .int
  | .float _ => some .float
  | .text _ => some .text
  | .name n => nameType? params n
  | .array items => do
    let ts ← types? params items
    let element := match ts with
      | [] => Ty.unknown
      | t :: rest => if rest.all t.sameKind then (rest.getLast?).getD t else .unknown
    some (.array element)
  | .record entries => do
    entriesFit params entries
    some .record
  | .member base key => do
    let b ← type? params base
    let k ← type? params key
    memberType? params base key b k
  | .slice base low high => do
    let b ← type? params base
    boundFits params low
    boundFits params high
    match b with
    | .text => some .text
    | .array e => some (.array e)
    | .unknown => some .unknown
    | _ => none
  | .not e => do
    let t ← type? params e
    if t.maybeBool then some .bool else none
  | .signed _ e => do
    let t ← type? params e
    if t.maybeNumber then some t else none
  | .binary op l r => do
    let lt ← type? params l
    let rt ← type? params r
    if patternFits op r then op.type? lt rt else none
  | .choose c yes no => do
    let ct ← type? params c
    if !ct.maybeBool then none
    let yt ← type? params yes
    let nt ← type? params no
    some (yt.join nt)
  | .call f args => do
    let ts ← types? params args
    let t ← nameType? params f
    match t, ts with
    | .function, [a] => if a.maybeText then some .bool else none
    | _, _ => none
  | .builtin b args => do b.type? (← types? params args)

/-- The types of expressions. -/
def types? (params : List Text) : List Expr → Option (List Ty)
  | [] => some []
  | e :: rest => do
    let t ← type? params e
    let ts ← types? params rest
    some (t :: ts)

/-- Whether the entries of a record have types; keys are texts. -/
def entriesFit (params : List Text) : List (Expr × Expr) → Option Unit
  | [] => some ()
  | (k, v) :: rest => do
    let kt ← type? params k
    if !kt.maybeText then none
    let _ ← type? params v
    entriesFit params rest

/-- Whether a bound of a part is a number. -/
def boundFits (params : List Text) : Option Expr → Option Unit
  | none => some ()
  | some e => do
    let t ← type? params e
    if t = .int || t = .unknown then some () else none

end

/-- An operator over constants, or over one constant that decides. -/
def foldBinary (op : Op) (l r : Expr) : Expr :=
  match op, l, r with
  | .and, .bool true, r => r
  | .and, l, .bool true => l
  | .and, .bool false, _ => .bool false
  | .and, _, .bool false => .bool false
  | .or, .bool false, r => r
  | .or, l, .bool false => l
  | .or, .bool true, _ => .bool true
  | .or, _, .bool true => .bool true
  | .add, .text a, .text b => .text (a ++ b)
  | .equal, .text a, .text b => .bool (a = b)
  | .equal, .int a, .int b => .bool (a = b)
  | .equal, .bool a, .bool b => .bool (a = b)
  | op, l, r => .binary op l r

mutual

/-- The expression with constants folded. -/
def fold : Expr → Expr
  | .array items => .array (foldAll items)
  | .record entries => .record (foldEntries entries)
  | .member base key => .member (fold base) (fold key)
  | .slice base low high => .slice (fold base) (foldOpt low) (foldOpt high)
  | .not e =>
    match fold e with
    | .bool b => .bool !b
    | e => .not e
  | .signed negative e =>
    match fold e with
    | .int n => .int (if negative then -n else n)
    | e => .signed negative e
  | .binary op l r => foldBinary op (fold l) (fold r)
  | .choose c yes no => .choose (fold c) (fold yes) (fold no)
  | .call f args => .call f (foldAll args)
  | .builtin b args => .builtin b (foldAll args)
  | e => e

@[inherit_doc fold]
def foldAll : List Expr → List Expr
  | [] => []
  | e :: rest => fold e :: foldAll rest

@[inherit_doc fold]
def foldEntries : List (Expr × Expr) → List (Expr × Expr)
  | [] => []
  | (k, v) :: rest => (fold k, fold v) :: foldEntries rest

@[inherit_doc fold]
def foldOpt : Option Expr → Option Expr
  | none => none
  | some e => some (fold e)

end

/-- Why a rule is refused. -/
inductive Error where
  | unreadable
  | unknownName (n : Text)
  | memberAccess
  | dangerousPattern
  deriving DecidableEq, Repr

/-- The error in words. -/
def Error.message : Error → Text
  | unreadable => "parse validate: not a boolean expression over the parameters"
  | unknownName n => "unknown identifier: " ++ n
  | memberAccess => "member access is not allowed"
  | dangerousPattern => "potentially dangerous regex pattern: nested quantifiers detected"

/-- A group that holds a repetition or an alternative and is repeated itself. -/
def repeatedRepetition : Text := "\\([^)]*[+*][^)]*\\)[+*]|\\([^)]*\\|[^)]*\\)[+*]"

/-- Whether matching a pattern may take long. -/
def isDangerous (t : Text) : Bool :=
  match Pattern.compile repeatedRepetition with
  | .ok p => p.isMatch t
  | .error _ => false

mutual

/-- Checks what an expression uses, innermost parts first. -/
def restrict (params : List Text) : Expr → Except Error Unit
  | .name n =>
    if n ∈ params ∨ n ∈ helpers then .ok () else .error (.unknownName n)
  | .array items => restrictAll params items
  | .record entries => restrictEntries params entries
  | .member base key => do
    restrict params base
    restrict params key
    throw .memberAccess
  | .slice base low high => do
    restrict params base
    restrictOpt params low
    restrictOpt params high
  | .not e => restrict params e
  | .signed _ e => restrict params e
  | .binary op l r => do
    restrict params l
    restrict params r
    match op, r with
    | .matches, .text t => if isDangerous t then throw .dangerousPattern
    | _, _ => pure ()
  | .choose c yes no => do
    restrict params c
    restrict params yes
    restrict params no
  | .call f args => do
    if f ∉ params ∧ f ∉ helpers then throw (.unknownName f)
    restrictAll params args
  | .builtin _ args => restrictAll params args
  | _ => .ok ()

@[inherit_doc restrict]
def restrictAll (params : List Text) : List Expr → Except Error Unit
  | [] => .ok ()
  | e :: rest => do
    restrict params e
    restrictAll params rest

@[inherit_doc restrict]
def restrictEntries (params : List Text) : List (Expr × Expr) → Except Error Unit
  | [] => .ok ()
  | (k, v) :: rest => do
    restrict params k
    restrict params v
    restrictEntries params rest

@[inherit_doc restrict]
def restrictOpt (params : List Text) : Option Expr → Except Error Unit
  | none => .ok ()
  | some e => restrict params e

end

/-- Reads and checks a rule over parameters. -/
def compile (params : List Text) (t : Text) : Except Error Expr :=
  match parse? (params ++ helpers) t with
  | none => .error .unreadable
  | some e =>
    match type? params e with
    | none => .error .unreadable
    | some ty =>
      if !ty.maybeBool then .error .unreadable
      else do
        let folded := fold e
        restrict params folded
        return folded

end LogSql.Rule
