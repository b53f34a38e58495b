import LogSql.Yaml.Layout

/-!
YAML documents as trees.
-/
namespace LogSql.Yaml

/-- A node. Plain scalars may stand for something else than their text. -/
inductive Node where
  | scalar (plain : Bool) (text : Text)
  | sequence (items : List Node)
  | mapping (entries : List (Node × Node))
  deriving Repr

namespace Node

/-- What stands where nothing is written. -/
def empty : Node := scalar true []

end Node

/-- What is left to read, and the nodes that have names. -/
structure Reading where
  tokens : List Token
  anchors : List (Text × Node) := []

/-- Readers of tokens. -/
abbrev Read := StateT Reading Option

namespace Read

/-- No reading. -/
def refuse {α : Type} : Read α := fun _ => none

/-- The next token, which stays. -/
def peek : Read (Option Token) := do return (← get).tokens.head?

/-- Drops the next token. -/
def skip : Read Unit := modify fun s => { s with tokens := s.tokens.tail }

/-- Whether the next token is one of a list. -/
def nextIn (ts : List Token) : Read Bool := do
  match ← peek with
  | some t => return t ∈ ts
  | none => return false

/-- The name given to the node that follows. -/
def anchor? : Read (Option Text) := do
  match ← peek with
  | some (.anchor name) => skip; return some name
  | _ => return none

/-- Gives a node a name. -/
def define (name : Option Text) (n : Node) : Read Node := do
  match name with
  | some a => modify fun s => { s with anchors := (a, n) :: s.anchors }
  | none => pure ()
  return n

mutual

/-- Reads a node. In a block mapping a sequence may stand without an indentation of its own. -/
def node (block indentless : Bool) : (fuel : Nat) → Read Node
  | 0 => refuse
  | fuel + 1 => do
    match ← peek with
    | some (.reference name) =>
      skip
      match (← get).anchors.find? fun a => a.1 = name with
      | some (_, n) => return n
      | none => refuse
    | _ => do
      let name ← anchor?
      match ← peek with
      | some (.scalar plain text) => skip; define name (.scalar plain text)
      | some .flowSequence =>
        skip
        define name (.sequence (← flowItems fuel true))
      | some .flowMapping =>
        skip
        define name (.mapping (← flowEntries fuel true))
      | some .entry =>
        if indentless then define name (.sequence (← looseItems fuel))
        else if name.isSome then define name .empty
        else refuse
      | some .blockSequence =>
        if block then
          skip
          define name (.sequence (← blockItems fuel))
        else if name.isSome then define name .empty
        else refuse
      | some .blockMapping =>
        if block then
          skip
          define name (.mapping (← blockEntries fuel))
        else if name.isSome then define name .empty
        else refuse
      | _ => if name.isSome then define name .empty else refuse

/-- Reads the node that an indicator announces, unless one of the tokens follows at once. -/
def nodeUnless (ends : List Token) (block indentless : Bool) : (fuel : Nat) → Read Node
  | 0 => refuse
  | fuel + 1 => do
    if (← peek).isNone || (← nextIn ends) then return .empty else node block indentless fuel

/-- The value of a key, when there is one. -/
def valueUnless (ends : List Token) (block : Bool) : (fuel : Nat) → Read Node
  | 0 => refuse
  | fuel + 1 => do
    if ← nextIn [.value] then
      skip
      nodeUnless ends block block fuel
    else return .empty

/-- Reads the items of a block sequence and its end. -/
def blockItems : (fuel : Nat) → Read (List Node)
  | 0 => refuse
  | fuel + 1 => do
    match ← peek with
    | some .entry =>
      skip
      let n ← nodeUnless [.entry, .blockEnd] true false fuel
      return n :: (← blockItems fuel)
    | some .blockEnd => skip; return []
    | _ => refuse

/-- Reads the items of a sequence that ends with the mapping around it. -/
def looseItems : (fuel : Nat) → Read (List Node)
  | 0 => refuse
  | fuel + 1 => do
    match ← peek with
    | some .entry =>
      skip
      let n ← nodeUnless [.entry, .key, .value, .blockEnd] true false fuel
      return n :: (← looseItems fuel)
    | _ => return []

/-- Reads the entries of a block mapping and its end. -/
def blockEntries : (fuel : Nat) → Read (List (Node × Node))
  | 0 => refuse
  | fuel + 1 => do
    match ← peek with
    | some .key =>
      skip
      let ends : List Token := [.key, .value, .blockEnd]
      let k ← nodeUnless ends true true fuel
      let v ← valueUnless ends true fuel
      return (k, v) :: (← blockEntries fuel)
    | some .blockEnd => skip; return []
    | _ => refuse

/-- Reads the items of a flow sequence and its end. A single pair stands for a mapping. -/
def flowItems : (fuel : Nat) → (first : Bool) → Read (List Node)
  | 0, _ => refuse
  | fuel + 1, first => do
    if ← nextIn [.flowSequenceEnd] then
      skip
      return []
    if !first then
      if ← nextIn [.flowEntry] then skip else refuse
    match ← peek with
    | some .flowSequenceEnd => skip; return []
    | some .key =>
      skip
      let k ← nodeUnless [.value, .flowEntry, .flowSequenceEnd] false false fuel
      let v ← valueUnless [.flowEntry, .flowSequenceEnd] false fuel
      return .mapping [(k, v)] :: (← flowItems fuel false)
    | _ =>
      let n ← node false false fuel
      return n :: (← flowItems fuel false)

/-- Reads the entries of a flow mapping and its end. -/
def flowEntries : (fuel : Nat) → (first : Bool) → Read (List (Node × Node))
  | 0, _ => refuse
  | fuel + 1, first => do
    if ← nextIn [.flowMappingEnd] then
      skip
      return []
    if !first then
      if ← nextIn [.flowEntry] then skip else refuse
    match ← peek with
    | some .flowMappingEnd => skip; return []
    | some .key =>
      skip
      let k ← nodeUnless [.value, .flowEntry, .flowMappingEnd] false false fuel
      let v ← valueUnless [.flowEntry, .flowMappingEnd] false fuel
      return (k, v) :: (← flowEntries fuel false)
    | _ =>
      let k ← node false false fuel
      return (k, .empty) :: (← flowEntries fuel false)

end

/-- Reads the node of a document. -/
def document : Read Node := do
  if ← nextIn [.documentStart] then skip
  let s ← get
  if s.tokens.isEmpty then return .empty
  node true true (3 * s.tokens.length + 3)

end Read

/-- Reads the first document of a text; a text without one reads as an empty node. -/
def Node.read? (t : Text) : Option Node := do
  let ts ← tokens? t
  let (n, _) ← Read.document { tokens := ts }
  some n

end LogSql.Yaml
