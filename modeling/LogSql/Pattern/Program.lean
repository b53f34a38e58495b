import LogSql.Pattern.Reader

/-!
Matching. An expression becomes a program of instructions, each naming where to go on; a search
keeps the threads that are alive at a position in order of preference, so the leftmost match and
among those the preferred one is found in one pass over the text.
-/
namespace LogSql.Pattern

/-- Instructions; branches prefer their first target. -/
inductive Inst where
  | char (k : CharClass) (next : Nat)
  | branch (preferred other : Nat)
  | save (slot : Nat) (next : Nat)
  | check (a : Assertion) (next : Nat)
  | accept
  deriving DecidableEq, Repr

/-- A program under construction. -/
abbrev Code := Array Inst

/-- Code for a part: given where to go on and the code so far, the entry and the extended code. -/
abbrev Emit := Nat → Code → Nat × Code

/-- A branch to a body or past it. -/
def emitBranch (greedy : Bool) (body past : Nat) (code : Code) : Nat × Code :=
  (code.size, code.push (if greedy then .branch body past else .branch past body))

/-- At least one round of a body. -/
def emitPlus (greedy : Bool) (body : Emit) : Emit := fun next code =>
  let loop := code.size
  let (entry, code) := body loop (code.push .accept)
  (entry, code.setIfInBounds loop (if greedy then .branch entry next else .branch next entry))

/-- Any number of rounds; a body that can match nothing is tried before it is skipped. -/
def emitStar (greedy nullable : Bool) (body : Emit) : Emit := fun next code =>
  if nullable then
    let (entry, code) := emitPlus greedy body next code
    emitBranch greedy entry next code
  else
    let loop := code.size
    let (entry, code) := body loop (code.push .accept)
    (loop, code.setIfInBounds loop (if greedy then .branch entry next else .branch next entry))

/-- Up to `count` rounds. -/
def emitUpTo (greedy : Bool) (body : Emit) : (count : Nat) → Emit
  | 0 => fun next code => (next, code)
  | count + 1 => fun next code =>
    let (inner, code) := emitUpTo greedy body count next code
    let (entry, code) := body inner code
    emitBranch greedy entry next code

/-- Exactly `count` rounds and then a tail. -/
def emitTimes (body tail : Emit) : (count : Nat) → Emit
  | 0 => tail
  | count + 1 => fun next code =>
    let (entry, code) := emitTimes body tail count next code
    body entry code

/-- Code for an expression. -/
def emit : Regex → Emit
  | .empty => fun next code => (next, code)
  | .chars k => fun next code => (code.size, code.push (.char k next))
  | .assert a => fun next code => (code.size, code.push (.check a next))
  | .seq a b => fun next code =>
    let (middle, code) := emit b next code
    emit a middle code
  | .choice a b => fun next code =>
    let (first, code) := emit a next code
    let (second, code) := emit b next code
    (code.size, code.push (.branch first second))
  | .group i body => fun next code =>
    let close := code.size
    let (entry, code) := emit body close (code.push (.save (2 * i + 1) next))
    (code.size, code.push (.save (2 * i) entry))
  | .times low high greedy _ body =>
    match high with
    | some h => emitTimes (emit body) (emitUpTo greedy (emit body) (h - low)) low
    | none =>
      match low with
      | 0 => emitStar greedy body.nullable (emit body)
      | l + 1 => emitTimes (emit body) (emitPlus greedy (emit body)) l

/-- A compiled expression: the notation it was read from, the names of its groups in order, its
code and where to start. -/
structure Compiled where
  source : Text
  groupNames : List Text
  code : Code
  start : Nat
  deriving DecidableEq, Repr

/-- Compiles the notation of an expression. -/
def compile (t : Text) : Except Error Compiled := do
  let (re, names) ← read t
  let (start, code) := emit re 0 #[.accept]
  return ⟨t, names, code, start⟩

/-- What surrounds a position. -/
structure Surroundings where
  before : Option Char
  after : Option Char
  deriving DecidableEq, Repr

/-- Word characters. -/
def isWordChar : Option Char → Bool
  | some c => covers wordClass c.toNat
  | none => false

/-- Whether an assertion holds at a position. -/
def Surroundings.satisfy (s : Surroundings) : Assertion → Bool
  | .textStart => s.before.isNone
  | .textEnd => s.after.isNone
  | .lineStart => s.before.isNone || s.before = some '\n'
  | .lineEnd => s.after.isNone || s.after = some '\n'
  | .wordBoundary => isWordChar s.before != isWordChar s.after
  | .noWordBoundary => isWordChar s.before == isWordChar s.after

/-- A thread: where it stands in the code and the positions it has saved, latest first. -/
structure Thread where
  pc : Nat
  saved : List (Nat × Nat)
  deriving DecidableEq, Repr

/-- Advances threads to the instructions that take a character or accept. Of threads that come to
one place the first is kept. -/
def settle (code : Code) (s : Surroundings) (pos : Nat) :
    (fuel : Nat) → (seen : Array Bool) → List Thread → (settled : List Thread) → List Thread
  | 0, _, _, settled => settled.reverse
  | _ + 1, _, [], settled => settled.reverse
  | fuel + 1, seen, t :: work, settled =>
    if seen.getD t.pc true then settle code s pos fuel seen work settled
    else
      let seen := seen.setIfInBounds t.pc true
      match code[t.pc]? with
      | some (.branch a b) =>
        settle code s pos fuel seen ({ t with pc := a } :: { t with pc := b } :: work) settled
      | some (.save slot next) =>
        settle code s pos fuel seen (⟨next, (slot, pos) :: t.saved⟩ :: work) settled
      | some (.check a next) =>
        if s.satisfy a then settle code s pos fuel seen ({ t with pc := next } :: work) settled
        else settle code s pos fuel seen work settled
      | some _ => settle code s pos fuel seen work (t :: settled)
      | none => settle code s pos fuel seen work settled

/-- Moves settled threads over the next character; the first that accepts ends the round. -/
def advance (code : Code) (next : Option Char) (pos : Nat) :
    List Thread → Option (List (Nat × Nat)) × List Thread
  | [] => (none, [])
  | t :: rest =>
    match code[t.pc]? with
    | some .accept => (some ((1, pos) :: t.saved), [])
    | some (.char k target) =>
      let (found, more) := advance code next pos rest
      match next with
      | some c => (found, if k.has c then { t with pc := target } :: more else more)
      | none => (found, more)
    | _ => advance code next pos rest

/-- Searches from a position on, with the threads alive there and the best match so far. -/
def search (p : Compiled) : List Glyph → (before : Option Char) → (pos : Nat) → List Thread →
    (best : Option (List (Nat × Nat))) → Option (List (Nat × Nat))
  | rs, before, pos, threads, best =>
    let after := rs.head?.map (·.char)
    let threads := if best.isNone then threads ++ [⟨p.start, [(0, pos)]⟩] else threads
    let fuel := 2 * p.code.size + threads.length + 2
    let settled :=
      settle p.code ⟨before, after⟩ pos fuel (Array.replicate p.code.size false) threads []
    let (found, moved) := advance p.code after pos settled
    let best := found.or best
    match rs with
    | [] => best
    | r :: rest =>
      if moved.isEmpty && best.isSome then best
      else search p rest (some r.char) (pos + r.raw.length) moved best

namespace Compiled

/-- The positions saved by the leftmost match. -/
def find (p : Compiled) (t : Text) : Option (List (Nat × Nat)) :=
  search p (Text.glyphs t) none 0 [] none

/-- Whether the expression matches somewhere in the text. -/
def isMatch (p : Compiled) (t : Text) : Bool := (p.find t).isSome

/-- What a group took part in; nothing when it did not. -/
def groupText (t : Text) (saved : List (Nat × Nat)) (i : Nat) : Text :=
  match saved.lookup (2 * i), saved.lookup (2 * i + 1) with
  | some a, some b => (t.drop a).take (b - a)
  | _, _ => []

/-- The texts of the whole match and of every group, when there is a match. -/
def groups? (p : Compiled) (t : Text) : Option (List Text) :=
  (p.find t).map fun saved =>
    (List.range (p.groupNames.length + 1)).map fun i => groupText t saved i

end Compiled
end LogSql.Pattern
