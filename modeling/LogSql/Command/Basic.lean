import LogSql.Command.Flag

/-!
Programs with commands. A command is named by the words that lead to it; its flags are its own and
those that the commands above it pass down.
-/
namespace LogSql
namespace Command

/-- How many arguments a command takes. -/
inductive Arity where
  /-- Any number; a word that no command has is still refused where commands are expected. -/
  | free
  | none
  | exactly (n : Nat)
  | atLeast (n : Nat)
  deriving DecidableEq, Repr

/-- What a command does: a task, an explanation of another command, or nothing but explaining itself. -/
inductive Action (α : Type) where
  | task (a : α)
  | explain
  | group
  deriving DecidableEq, Repr

end Command

/-- A command. -/
structure Command (α : Type) where
  /-- The words behind the name of the program. -/
  path : List Text
  /-- The arguments in the line of usage. -/
  arguments : Text := []
  short : Text
  long : Text := []
  action : Command.Action α
  arity : Command.Arity := .free
  flags : List Command.Flag := []
  /-- The flags that the commands below have as well. -/
  shared : List Command.Flag := []
  /-- The flags that have to be set. -/
  required : List Text := []

namespace Command

/-- A program. The command without words is the program itself. -/
structure Program (α : Type) where
  name : Text
  commands : List (Command α)

/-- The flag that asks for an explanation. -/
def helpFlag (name : Text) : Flag :=
  { name := "help", letter := some (Text.byte 'h'), initial := .switch false
    usage := "help for " ++ name }

/-- Orders by name. -/
def byName {α : Type} (name : α → Text) (xs : List α) : List α :=
  xs.mergeSort fun a b => !Text.lt (name b) (name a)

namespace Program

variable {α : Type}

/-- The name of a command. -/
def nameOf (p : Program α) (c : Command α) : Text := c.path.getLast?.getD p.name

/-- All words of a command. -/
def pathText (p : Program α) (c : Command α) : Text := Text.join " " (p.name :: c.path)

/-- The commands directly below a command, by name. -/
def below (p : Program α) (c : Command α) : List (Command α) :=
  byName p.nameOf (p.commands.filter fun d =>
    d.path.length = c.path.length + 1 ∧ d.path.dropLast = c.path)

/-- The flags that come down from the commands above a command. -/
def inherited (p : Program α) (c : Command α) : List Flag :=
  (p.commands.filter fun d => d.path.length < c.path.length ∧ c.path.take d.path.length = d.path).flatMap
    (·.shared)

/-- All flags of a command but the one for help. -/
def flagsOf (p : Program α) (c : Command α) : List Flag := c.flags ++ c.shared ++ p.inherited c

/-- The command of the program itself. -/
def root? (p : Program α) : Option (Command α) := p.commands.find? fun c => c.path.isEmpty

end Program

/-! ### Finding a command -/

/-- Whether a word starts with a text. -/
def startsWith (head t : Text) : Bool := (Text.stripStart head t).isSome

/-- Whether a word is a flag that takes the next word as its value. -/
def takesNext (flags : List Flag) (word : Text) : Bool :=
  let isSwitch := fun (find : Flag → Bool) => ((flags.find? find).map Flag.isSwitch).getD false
  if word.elem (Text.byte '=') then false
  else match word with
    | 45 :: 45 :: name => !isSwitch fun f => f.name = name
    | [45, letter] => !isSwitch fun f => f.letter = some letter
    | _ => false

/-- The words that are neither flags nor their values. -/
def bareWords (flags : List Flag) : List Text → List Text
  | [] => []
  | word :: rest =>
    if word = ("--" : Text) then []
    else if takesNext flags word then
      match rest with
      | _ :: next :: more => bareWords flags (next :: more)
      | _ => []
    else if word.isEmpty ∨ startsWith "-" word then bareWords flags rest
    else word :: bareWords flags rest

/-- The words without the first bare one of a name. -/
def dropWord (flags : List Flag) (name : Text) : List Text → List Text
  | [] => []
  | word :: rest =>
    if word = ("--" : Text) then word :: rest
    else if takesNext flags word then
      match rest with
      | value :: more => word :: value :: dropWord flags name more
      | [] => [word]
    else if word = name then rest
    else word :: dropWord flags name rest

/-- The least number of letters to change, add or leave out, where rows of a table of such numbers are
filled one after the other. -/
def distanceRow (letter : UInt8) : (left : Nat) → (above : List Nat) → Text → List Nat
  | left, diagonal :: up :: above, b :: rest =>
    let here := min (min (left + 1) (up + 1)) (if b = letter then diagonal else diagonal + 1)
    here :: distanceRow letter here (up :: above) rest
  | _, _, _ => []

/-- The least number of letters to change, add or leave out to get from one text to another. -/
def distance (a b : Text) : Nat :=
  let first := List.range (b.length + 1)
  (a.foldl (fun row letter =>
    let start := row.headD 0 + 1
    start :: distanceRow letter start row b) first).getLast?.getD 0

namespace Program

variable {α : Type}

/-- The commands below a command that a word may have meant. -/
def suggestions (p : Program α) (c : Command α) (word : Text) : List Text :=
  let typed := Text.asciiLower word
  ((p.below c).filter fun d => match d.action with
    | .explain => false
    | _ => true).filterMap fun d =>
    let name := p.nameOf d
    if distance typed (Text.asciiLower name) ≤ 2 ∨ startsWith typed (Text.asciiLower name) then some name
    else none

/-- The command that words lead to, and the words that are left for it. -/
def locate (p : Program α) : (fuel : Nat) → Command α → List Text → Command α × List Text
  | 0, c, words => (c, words)
  | fuel + 1, c, words =>
    match bareWords (p.flagsOf c) words with
    | [] => (c, words)
    | name :: _ =>
      match (p.below c).find? fun d => p.nameOf d = name with
      | some d => p.locate fuel d (dropWord (p.flagsOf c) name words)
      | none => (c, words)

end Program

/-! ### Reading flags -/

/-- Why a command line is refused. -/
inductive UsageError where
  | unknownFlag (name : Text)
  | unknownLetter (letter : UInt8) (word : Text)
  | noValue (name : Text)
  | noLetterValue (letter : UInt8) (word : Text)
  | badFlag (word : Text)
  | badValue (value label cause : Text)
  | unknownCommand (word path : Text) (meant : List Text)
  | tooFew (least given : Nat)
  | wrongNumber (wanted given : Nat)
  | unset (names : List Text)
  deriving DecidableEq, Repr

/-- The error in words. -/
def UsageError.message : UsageError → Text
  | unknownFlag name => "unknown flag: --" ++ name
  | unknownLetter letter word =>
    .concat ["unknown shorthand flag: ", Text.quoteChar (Char.ofNat letter.toNat), " in -", word]
  | noValue name => "flag needs an argument: --" ++ name
  | noLetterValue letter word =>
    .concat ["flag needs an argument: ", Text.quoteChar (Char.ofNat letter.toNat), " in -", word]
  | badFlag word => "bad flag syntax: " ++ word
  | badValue value label cause =>
    .concat ["invalid argument ", Text.quote value, " for ", Text.quote label, " flag: ", cause]
  | unknownCommand word path meant =>
    .concat ["unknown command ", Text.quote word, " for ", Text.quote path,
      if meant.isEmpty then [] else "\n\nDid you mean this?\n",
      meant.flatMap fun name => Text.concat ["\t", name, "\n"]]
  | tooFew least given =>
    .concat ["requires at least ", Text.ofNat least, " arg(s), only received ", Text.ofNat given]
  | wrongNumber wanted given =>
    .concat ["accepts ", Text.ofNat wanted, " arg(s), received ", Text.ofNat given]
  | unset names =>
    .concat ["required flag(s) \"", Text.join "\", \"" names, "\" not set"]

/-- What has been read of a command line: the flags, and the other words from the last to the first. -/
structure Reading where
  values : Values := []
  words : List Text := []
  deriving DecidableEq, Repr

/-- Sets a flag to a written value. -/
def Reading.set (r : Reading) (f : Flag) (value : Text) : Except UsageError Reading :=
  match f.read value with
  | .ok v => .ok { r with values := r.values.set f.name v }
  | .error cause => .error (.badValue value f.label cause)

/-- Reads a word of letters, whose last flag may take the next word as its value. -/
def readLetters (flags : List Flag) :
    Text → (next : Option Text) → Reading → Except UsageError (Reading × Bool)
  | [], _, r => .ok (r, false)
  | letter :: rest, next, r => do
    match flags.find? fun f => f.letter = some letter with
    | none => throw (.unknownLetter letter (letter :: rest))
    | some f =>
      match rest, f.isSwitch with
      | 61 :: b :: value, _ => return (← r.set f (b :: value), false)
      | _, true => readLetters flags rest next (← r.set f "true")
      | b :: value, false => return (← r.set f (b :: value), false)
      | [], false =>
        match next with
        | some value => return (← r.set f value, true)
        | none => throw (.noLetterValue letter (letter :: rest))

/-- Reads a word with a flag's name, which may take the next word as its value. -/
def readName (flags : List Flag) (body : Text) (next : Option Text) (r : Reading) :
    Except UsageError (Reading × Bool) := do
  let (name, value) := match Text.cut "=" body with
    | some (name, value) => (name, some value)
    | none => (body, none)
  if name.isEmpty ∨ startsWith "-" name then throw (.badFlag (("--" : Text) ++ body))
  match flags.find? fun f => f.name = name with
  | none => throw (.unknownFlag name)
  | some f =>
    match value, f.isSwitch, next with
    | some value, _, _ => return (← r.set f value, false)
    | none, true, _ => return (← r.set f "true", false)
    | none, false, some value => return (← r.set f value, true)
    | none, false, none => throw (.noValue name)

/-- Reads a word, and whether it took the next one as a value. -/
def readWord (flags : List Flag) (word : Text) (next : Option Text) (r : Reading) :
    Except UsageError (Reading × Bool) :=
  match word with
  | 45 :: 45 :: body => readName flags body next r
  | 45 :: letter :: letters => readLetters flags (letter :: letters) next r
  | _ => .ok ({ r with words := word :: r.words }, false)

/-- Reads the words of a command line; two dashes end the flags. -/
def readWords (flags : List Flag) : List Text → Reading → Except UsageError Reading
  | [], r => .ok r
  | word :: rest, r => do
    if word = ("--" : Text) then return { r with words := rest.reverse ++ r.words }
    let (r, tookNext) ← readWord flags word rest.head? r
    readWords flags (if tookNext then rest.tail else rest) r
termination_by words => words.length
decreasing_by split <;> simp only [List.length_tail, List.length_cons] <;> omega

/-- Checks the number of arguments. -/
def Arity.check (a : Arity) (path : Text) (args : List Text) : Except UsageError Unit :=
  match a with
  | free => .ok ()
  | none => match args with
    | word :: _ => .error (.unknownCommand word path [])
    | [] => .ok ()
  | exactly n => if args.length = n then .ok () else .error (.wrongNumber n args.length)
  | atLeast n => if args.length < n then .error (.tooFew n args.length) else .ok ()

/-- What a command line asks for. -/
inductive Invocation (α : Type) where
  | run (task : α) (values : Values) (args : List Text)
  /-- The explanation of a command. -/
  | help (c : Command α)
  /-- The explanation of a command that does not exist. -/
  | unknownTopic (words : List Text)

namespace Program

variable {α : Type}

/-- The command that words lead to; below the program itself an unknown word is an error. -/
def find (p : Program α) (root : Command α) (words : List Text) :
    Except UsageError (Command α × List Text) :=
  let (c, left) := p.locate (words.length + 1) root words
  match c.arity, c.path, p.below c, bareWords (p.flagsOf c) left with
  | .free, [], _ :: _, word :: _ => .error (.unknownCommand word p.name (p.suggestions c word))
  | _, _, _, _ => .ok (c, left)

/-- Reads a command line. -/
def read (p : Program α) (root : Command α) (words : List Text) :
    Except UsageError (Invocation α) := do
  let (c, left) ← p.find root words
  let flags := p.flagsOf c ++ [helpFlag (p.nameOf c)]
  let r ← readWords flags left {}
  let args := r.words.reverse
  if r.values.isOn "help" then return .help c
  match c.action with
  | .group => return .help c
  | .explain =>
    match p.find root args with
    | .ok (topic, _) => return .help topic
    | .error _ => return .unknownTopic args
  | .task a =>
    c.arity.check (p.pathText c) args
    let missing := c.required.filter fun name => (r.values.lookup name).isNone
    if !missing.isEmpty then throw (.unset missing)
    return .run a r.values args

end Program
end Command
end LogSql
