import LogSql.Pattern.Script
import LogSql.Text.Glyph

/-!
Regular expressions: character classes, assertions about a position, sequence, choice, repetition
and capture groups.
-/
namespace LogSql.Pattern

/-- A part of a character class: code point ranges, taken up to letter case when `fold`, or their
complement. -/
structure ClassItem where
  ranges : List (Nat × Nat)
  fold : Bool := false
  negated : Bool := false
  deriving DecidableEq, Repr

/-- A character class: the characters of any of its items, or all others. -/
structure CharClass where
  items : List ClassItem
  negated : Bool := false
  deriving DecidableEq, Repr

/-- Whether a code point lies in one of the ranges. -/
def covers (ranges : List (Nat × Nat)) (n : Nat) : Bool :=
  ranges.any fun r => r.1 ≤ n && n ≤ r.2

/-- Whether a character belongs to an item. -/
def ClassItem.has (i : ClassItem) (c : Char) : Bool :=
  let hit :=
    if i.fold then (Text.caseVariants c).any fun v => covers i.ranges v.toNat
    else covers i.ranges c.toNat
  hit != i.negated

/-- Whether a character belongs to a class. -/
def CharClass.has (k : CharClass) (c : Char) : Bool := (k.items.any (·.has c)) != k.negated

/-- Whether a class is one literal, and whether that is taken up to letter case. -/
def CharClass.literal? (k : CharClass) : Option Bool :=
  match k.items with
  | [⟨[(lo, hi)], fold, false⟩] => if lo = hi ∧ !k.negated then some fold else none
  | _ => none

/-- Conditions on a position of the text. -/
inductive Assertion where
  | textStart | textEnd | lineStart | lineEnd | wordBoundary | noWordBoundary
  deriving DecidableEq, Repr

/-- Expressions. A repetition is `counted` when its bounds are written as numbers. -/
inductive Regex where
  | empty
  | chars (k : CharClass)
  | assert (a : Assertion)
  | seq (first second : Regex)
  | choice (preferred other : Regex)
  | times (low : Nat) (high : Option Nat) (greedy counted : Bool) (body : Regex)
  | group (index : Nat) (body : Regex)
  deriving DecidableEq, Repr

namespace Regex

/-- Whether the expression can match without taking a character. -/
def nullable : Regex → Bool
  | empty => true
  | chars _ => false
  | assert _ => true
  | seq a b => a.nullable && b.nullable
  | choice a b => a.nullable || b.nullable
  | times low _ _ _ body => low = 0 || body.nullable
  | group _ body => body.nullable

/-- Whether an expression is a run of literals in one mode. -/
def literal? : Regex → Option Bool
  | chars k => k.literal?
  | seq a b =>
    match a.literal?, b.literal? with
    | some f, some g => if f = g then some f else none
    | _, _ => none
  | _ => none

/-- Whether an expression is a choice between single characters, which is a class. -/
def isClass : Regex → Bool
  | chars _ => true
  | choice a b => a.isClass && b.isClass
  | _ => false

/-- Whether an expression is a choice between empty expressions, which is empty. -/
def isEmpty : Regex → Bool
  | empty => true
  | choice a b => a.isEmpty && b.isEmpty
  | _ => false

/-- Whether nested counted repetitions multiply to at most `room`. -/
def repeatsFit (room : Nat) : Regex → Bool
  | seq a b => a.repeatsFit room && b.repeatsFit room
  | choice a b => a.repeatsFit room && b.repeatsFit room
  | group _ body => body.repeatsFit room
  | times low high _ counted body =>
    if counted then
      match high with
      | some 0 => true
      | _ =>
        let m := high.getD low
        if room < m then false else body.repeatsFit (if 0 < m then room / m else room)
    else body.repeatsFit room
  | _ => true

end Regex

/-- What can be wrong with the notation of an expression. -/
inductive Fault where
  | charClassRange
  | escape
  | namedCapture
  | perlOp
  | repeatOp
  | repeatSize
  | utf8
  | missingBracket
  | missingParen
  | missingRepeatArgument
  | trailingBackslash
  | unexpectedParen
  | nestingDepth
  deriving DecidableEq, Repr

/-- A fault and the part of the notation that shows it. -/
structure Error where
  fault : Fault
  part : Text
  deriving DecidableEq, Repr

/-- The fault in words. -/
def Fault.message : Fault → Text
  | charClassRange => "invalid character class range"
  | escape => "invalid escape sequence"
  | namedCapture => "invalid named capture"
  | perlOp => "invalid or unsupported Perl syntax"
  | repeatOp => "invalid nested repetition operator"
  | repeatSize => "invalid repeat count"
  | utf8 => "invalid UTF-8"
  | missingBracket => "missing closing ]"
  | missingParen => "missing closing )"
  | missingRepeatArgument => "missing argument to repetition operator"
  | trailingBackslash => "trailing backslash at end of expression"
  | unexpectedParen => "unexpected )"
  | nestingDepth => "expression nests too deeply"

/-- The error in words. -/
def Error.message (e : Error) : Text :=
  .concat ["error parsing regexp: ", e.fault.message, ": `", e.part, "`"]

end LogSql.Pattern
