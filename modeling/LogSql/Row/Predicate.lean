import LogSql.Number.Size
import LogSql.Pattern.Program
import LogSql.Row.Basic
import LogSql.Time.Duration

/-!
Tests on the labels of a row. A label that the row does not have counts as empty, and a label that
does not read as a number passes no numeric test.
-/
namespace LogSql

/-- How two numbers are compared. -/
inductive Comparison where
  | equal
  | unequal
  | greater
  | greaterEqual
  | less
  | lessEqual
  deriving DecidableEq, Repr

namespace Comparison

/-- Whether a comparison holds. -/
def holds : Comparison → Binary64 → Binary64 → Bool
  | equal, a, b => a.eq b
  | unequal, a, b => !a.eq b
  | greater, a, b => b.lt a
  | greaterEqual, a, b => b.le a
  | less, a, b => a.lt b
  | lessEqual, a, b => a.le b

/-- The comparison's SQL operator. -/
def text : Comparison → Text
  | equal => "="
  | unequal => "!="
  | greater => ">"
  | greaterEqual => ">="
  | less => "<"
  | lessEqual => "<="

/-- The comparison of a query operator; equality has two spellings. -/
def ofOperator? (op : Text) : Option Comparison :=
  if op = ("=" : Text) ∨ op = ("==" : Text) then some equal
  else if op = ("!=" : Text) then some unequal
  else if op = (">" : Text) then some greater
  else if op = (">=" : Text) then some greaterEqual
  else if op = ("<" : Text) then some less
  else if op = ("<=" : Text) then some lessEqual
  else none

end Comparison

/-- What kind of quantity a label holds. -/
inductive Measure where
  | number
  | duration
  | size
  deriving DecidableEq, Repr

/-- The quantity that a text denotes: durations in seconds, sizes in bytes. -/
def Measure.read? : Measure → Text → Option Binary64
  | number, t => (Number.readFloat t).toOption
  | duration, t => (Duration.readClock t).toOption.map Duration.seconds
  | size, t => (Number.readSize t).toOption

/-- A test on labels. -/
inductive Predicate where
  | all (ps : List Predicate)
  | any (ps : List Predicate)
  /-- The label is the text, or is not when negated. -/
  | is (label want : Text) (negated : Bool)
  /-- The label matches the pattern, or does not when negated. -/
  | matches (label : Text) (pattern : Pattern.Compiled) (negated : Bool)
  | compares (label : Text) (measure : Measure) (how : Comparison) (want : Binary64)

namespace Predicate

mutual

/-- Whether a row passes the test. -/
def holds (r : Row) : Predicate → Bool
  | all ps => allHold r ps
  | any ps => anyHolds r ps
  | is label want negated => (r.label label = want) != negated
  | .matches label pattern negated => pattern.isMatch (r.label label) != negated
  | compares label measure how want =>
    match measure.read? (r.label label) with
    | some got => how.holds got want
    | none => false

@[inherit_doc holds]
def allHold (r : Row) : List Predicate → Bool
  | [] => true
  | p :: ps => holds r p && allHold r ps

@[inherit_doc holds]
def anyHolds (r : Row) : List Predicate → Bool
  | [] => false
  | p :: ps => holds r p || anyHolds r ps

end

end Predicate
end LogSql
