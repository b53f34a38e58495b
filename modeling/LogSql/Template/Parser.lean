import LogSql.Template.Token
import LogSql.Template.Tree

/-!
Reading templates. Every function that an action calls must be known and every variable declared
when the template is read.
-/
namespace LogSql.Template

/-- What is left to read and what has been declared so far. -/
structure ParseState where
  tokens : List Token
  vars : List Text
  /-- How many loops of the current tree are open. -/
  loops : Nat := 0
  trees : Trees := []

/-- Readers of templates. A template that cannot be read is refused as a whole. -/
abbrev Parse := StateT ParseState Option

/-- What an action turned out to be. -/
inductive Item where
  | part (p : Part)
  | close
  | otherwise

namespace Parse

/-- Refuses the template. -/
def refuse {α : Type} : Parse α := fun _ => none

/-- The next token, without taking it. -/
def peek : Parse (Option Token) := do return (← get).tokens.head?

/-- Takes the next token. -/
def next : Parse (Option Token) := do
  let s ← get
  set { s with tokens := s.tokens.tail }
  return s.tokens.head?

/-- Drops white space. -/
def skipSpace : Parse Unit :=
  modify fun s => { s with tokens := s.tokens.dropWhile fun t => t = .space }

/-- The next token that is not white space, without taking it. -/
def peekNonSpace : Parse (Option Token) := do skipSpace; peek

/-- Takes the next token that is not white space. -/
def nextNonSpace : Parse (Option Token) := do skipSpace; next

/-- Takes one token, which must be the given one. -/
def expect (t : Token) : Parse Unit := do
  if (← nextNonSpace) ≠ some t then refuse

/-- Declares a variable from here on. -/
def declareVariable (name : Text) : Parse Unit :=
  modify fun s => { s with vars := name :: s.vars }

/-- Reads the variables that a pipeline sets; a loop may set two. -/
def vars (inRange : Bool) : (fuel : Nat) → (seen : List Text) → Parse (Bool × List Text)
  | 0, _ => refuse
  | fuel + 1, seen => do
    match ← peekNonSpace with
    | some (.variable name) =>
      let rest := (← get).tokens.tail.dropWhile fun t => t = .space
      match rest with
      | .assign :: after =>
        modify fun s => { s with tokens := after }
        declareVariable name
        return (true, seen ++ [name])
      | .declare :: after =>
        modify fun s => { s with tokens := after }
        declareVariable name
        return (false, seen ++ [name])
      | .comma :: after =>
        modify fun s => { s with tokens := after }
        declareVariable name
        if !inRange || !seen.isEmpty then refuse
        else
          match ← peekNonSpace with
          | some (.variable _) | some .rightDelim | some .rightParen =>
            vars inRange fuel (seen ++ [name])
          | _ => refuse
      | _ => return (false, seen)
    | _ => return (false, seen)

/-- The field names that follow without white space. -/
def fields : (fuel : Nat) → Parse (List Text)
  | 0 => return []
  | fuel + 1 => do
    match ← peek with
    | some (.field name) =>
      let _ ← next
      return name :: (← fields fuel)
    | _ => return []

/-- Adds field names to an operand; a constant has no fields. -/
def withFields (operand : Operand) (path : List Text) : Option Operand :=
  if path.isEmpty then some operand
  else match operand with
    | .field p => some (.field (p ++ path))
    | .variable name p => some (.variable name (p ++ path))
    | .function _ | .pipe _ | .chain _ _ => some (.chain operand path)
    | _ => none

/-- A constant operand of a token. -/
def constant? : Token → Option (Option Operand)
  | .dot => some (some .dot)
  | .absent => some (some .absent)
  | .field name => some (some (.field [name]))
  | .bool b => some (some (.bool b))
  | .charConstant t => some ((Literal.ofCharacter t).map .number)
  | .complex t => some ((Literal.ofPair t).map .number)
  | .number t => some ((Literal.ofNumber t).map .number)
  | .quoted t => some ((Text.unquote t).map .text)
  | .rawQuoted t => some (some (.text (t.filter fun b => b ≠ 13)))
  | _ => none

mutual

/-- Reads a pipeline up to its last token. -/
def pipeline (known : Text → Bool) (inRange : Bool) (last : Token) : (fuel : Nat) → Parse Pipe
  | 0 => refuse
  | fuel + 1 => do
    let (assigns, vars) ← vars inRange 3 []
    let commands ← commands known last fuel
    if commands.isEmpty then refuse
    let stray := commands.tail.any fun c => (c.head?.map Operand.isConstant).getD false
    if stray then refuse
    return { assigns, vars, commands }

/-- Reads the commands of a pipeline. -/
def commands (known : Text → Bool) (last : Token) : (fuel : Nat) → Parse (List (List Operand))
  | 0 => refuse
  | fuel + 1 => do
    match ← peekNonSpace with
    | none => refuse
    | some token =>
      if token = last then
        let _ ← next
        return []
      else
        let command ← command known fuel
        if command.isEmpty then refuse
        return command :: (← commands known last fuel)

/-- Reads one command. -/
def command (known : Text → Bool) : (fuel : Nat) → Parse (List Operand)
  | 0 => refuse
  | fuel + 1 => do
    skipSpace
    let operand ← operand? known fuel
    match ← peek with
    | some .space => return operand.toList ++ (← command known fuel)
    | some .rightDelim | some .rightParen => return operand.toList
    | some .pipe =>
      let _ ← next
      return operand.toList
    | _ => refuse

/-- Reads an operand, when one stands here. -/
def operand? (known : Text → Bool) : (fuel : Nat) → Parse (Option Operand)
  | 0 => refuse
  | fuel + 1 => do
    let some token ← peekNonSpace | return none
    let term : Option Operand ← match token with
      | .identifier name =>
        if !known name then refuse
        let _ ← next
        pure (some (.function name))
      | .variable name =>
        if name ∉ (← get).vars then refuse
        let _ ← next
        pure (some (.variable name []))
      | .leftParen =>
        let _ ← next
        pure (some (.pipe (← pipeline known false .rightParen fuel)))
      | _ =>
        match constant? token with
        | none => pure none
        | some none => refuse
        | some (some operand) =>
          let _ ← next
          pure (some operand)
    match term with
    | none => return none
    | some operand =>
      match withFields operand (← fields (← get).tokens.length) with
      | some operand => return some operand
      | none => refuse

end

/-- The name of a template, written as a text. -/
def templateName : Parse Text := do
  match ← nextNonSpace with
  | some (.quoted t) =>
    match Text.unquote t with
    | some name => return name
    | none => refuse
  | some (.rawQuoted t) => return t.filter fun b => b ≠ 13
  | _ => refuse

/-- Adds a tree to those read so far. -/
def addTree (name : Text) (parts : List Part) : Parse Unit := do
  let s ← get
  match s.trees.add name parts with
  | some trees => set { s with trees }
  | none => refuse

/-- Runs a reader for a tree of its own, which sees no variables and no loops of this one. -/
def inOwnTree {α : Type} (p : Parse α) : Parse α := do
  let s ← get
  set { s with vars := [[Text.byte '$']], loops := 0 }
  let result ← p
  modify fun inner => { inner with vars := s.vars, loops := s.loops }
  return result

/-- The constructs that guard a list of parts. -/
inductive Guard where
  | choose
  | within
  | range
  deriving DecidableEq

/-- The part that a guarded list makes. -/
def Guard.part : Guard → Pipe → List Part → List Part → Part
  | choose => .choose
  | within => .within
  | range => .range

mutual

/-- Reads the parts up to an end or an alternative. -/
def items (known : Text → Bool) : (fuel : Nat) → Parse (List Part × Bool)
  | 0 => refuse
  | fuel + 1 => do
    match ← item known fuel with
    | .close => return ([], true)
    | .otherwise => return ([], false)
    | .part p =>
      let (rest, closed) ← items known fuel
      return (p :: rest, closed)

/-- Reads a text or an action. -/
def item (known : Text → Bool) : (fuel : Nat) → Parse Item
  | 0 => refuse
  | fuel + 1 => do
    match ← nextNonSpace with
    | some (.text t) => return .part (.text t)
    | some .leftDelim =>
      match ← peekNonSpace with
      | some (.keyword k) =>
        let _ ← next
        match k with
        | .block =>
          let name ← templateName
          let p ← pipeline known false .rightDelim fuel
          let (parts, closed) ← inOwnTree (items known fuel)
          if !closed then refuse
          addTree name parts
          return .part (.call name (some p))
        | .breakLoop =>
          expect .rightDelim
          if (← get).loops = 0 then refuse
          return .part .breakLoop
        | .continueLoop =>
          expect .rightDelim
          if (← get).loops = 0 then refuse
          return .part .continueLoop
        | .otherwise =>
          match ← peekNonSpace with
          | some (.keyword .condition) | some (.keyword .within) => return .otherwise
          | _ =>
            expect .rightDelim
            return .otherwise
        | .close =>
          expect .rightDelim
          return .close
        | .condition => return .part (← guarded known .choose fuel)
        | .within => return .part (← guarded known .within fuel)
        | .range => return .part (← guarded known .range fuel)
        | .template =>
          let name ← templateName
          if (← peekNonSpace) = some .rightDelim then
            let _ ← next
            return .part (.call name none)
          else return .part (.call name (some (← pipeline known false .rightDelim fuel)))
        | .define => refuse
      | _ => return .part (.action (← pipeline known false .rightDelim fuel))
    | _ => refuse

/-- Reads a guarded list of parts with its alternative. Variables declared inside end with it. -/
def guarded (known : Text → Bool) (guard : Guard) : (fuel : Nat) → Parse Part
  | 0 => refuse
  | fuel + 1 => do
    let outer := (← get).vars
    let p ← pipeline known (guard = .range) .rightDelim fuel
    let deeper := if guard = .range then 1 else 0
    modify fun s => { s with loops := s.loops + deeper }
    let (yes, closed) ← items known fuel
    modify fun s => { s with loops := s.loops - deeper }
    let no ← if closed then pure [] else do
      match guard, ← peek with
      | .choose, some (.keyword .condition) =>
        let _ ← next
        pure [← guarded known .choose fuel]
      | .within, some (.keyword .within) =>
        let _ ← next
        pure [← guarded known .within fuel]
      | _, _ =>
        let (no, closed) ← items known fuel
        if !closed then refuse
        pure no
    modify fun s => { s with vars := outer }
    return guard.part p yes no

end

/-- Reads a part of the template itself, and then the parts after it. -/
def plainItem (known : Text → Bool) (rest : Parse (List Part)) : Parse (List Part) := do
  match ← item known (8 * (← get).tokens.length + 16) with
  | .part p => return p :: (← rest)
  | _ => refuse

/-- Reads a whole template, definitions of other templates included. -/
def root (known : Text → Bool) : (fuel : Nat) → Parse (List Part)
  | 0 => refuse
  | fuel + 1 => do
    match (← get).tokens with
    | [] => return []
    | .leftDelim :: rest =>
      match rest.dropWhile fun t => t = .space with
      | .keyword .define :: after =>
        modify fun s => { s with tokens := after }
        let name ← templateName
        expect .rightDelim
        let (parts, closed) ← inOwnTree (items known fuel)
        if !closed then refuse
        addTree name parts
        root known fuel
      | _ => plainItem known (root known fuel)
    | _ => plainItem known (root known fuel)

end Parse

/-- Reads a template of a name, in which the known functions may be called: its trees by name. -/
def parse (known : Text → Bool) (name text : Text) : Option Trees := do
  let tokens ← tokens text
  let start : ParseState := { tokens, vars := [[Text.byte '$']] }
  let (parts, s) ← (Parse.root known (8 * tokens.length + 16)).run start
  s.trees.add name parts

end LogSql.Template
