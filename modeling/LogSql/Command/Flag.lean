import LogSql.Number.Read
import LogSql.Time.Duration

/-!
Flags of commands: what can be set, and how a value is read.
-/
namespace LogSql.Command

/-- The value of a flag; durations are in nanoseconds. -/
inductive Value where
  | text (t : Text)
  | int (n : Int)
  | switch (on : Bool)
  | duration (nanos : Int)
  | list (ts : List Text)
  deriving DecidableEq, Repr

/-- A flag. -/
structure Flag where
  name : Text
  letter : Option UInt8 := none
  /-- The value when nothing is set, whose kind is that of all its values. -/
  initial : Value
  usage : Text
  deriving DecidableEq, Repr

/-- Why a text is not a record, in which commas separate values and quotes hold one together. -/
inductive RecordError where
  | bareQuote (column : Nat)
  | openQuote (column : Nat)
  deriving DecidableEq, Repr

/-- The error in words. -/
def RecordError.message : RecordError → Text
  | bareQuote column =>
    .concat ["parse error on line 1, column ", Text.ofNat column, ": bare \" in non-quoted-field"]
  | openQuote column =>
    .concat ["parse error on line 1, column ", Text.ofNat column,
      ": extraneous or missing \" in quoted-field"]

/-- Reads the rest of a quoted value: the value, and what follows the closing quote. -/
def quotedValue : (column : Nat) → (value : Text) → Text → Except RecordError (Text × Nat × Text)
  | column, _, [] => .error (.openQuote column)
  | column, value, [b] =>
    if b = Text.byte '"' then .ok (value.reverse, column + 1, []) else .error (.openQuote (column + 1))
  | column, value, b :: c :: rest =>
    if b ≠ Text.byte '"' then quotedValue (column + 1) (b :: value) (c :: rest)
    else if c = Text.byte '"' then quotedValue (column + 2) (b :: value) rest
    else if c = Text.byte ',' then .ok (value.reverse, column + 1, c :: rest)
    else .error (.openQuote column)

/-- Reads the values of a record from a column on. -/
def recordValues : (fuel : Nat) → (column : Nat) → Text → Except RecordError (List Text)
  | 0, _, _ => .ok []
  | fuel + 1, column, t =>
    match t with
    | 34 :: rest => do
      let (value, column, rest) ← quotedValue (column + 1) [] rest
      match rest with
      | [] => return [value]
      | _ :: rest => return value :: (← recordValues fuel (column + 1) rest)
    | _ =>
      let value := t.takeWhile (· ≠ Text.byte ',')
      match value.findIdx? (· = Text.byte '"') with
      | some i => .error (.bareQuote (column + i))
      | none =>
        match t.drop value.length with
        | [] => .ok [value]
        | _ :: rest => (recordValues fuel (column + value.length + 1) rest).map (value :: ·)

/-- The values of a list. -/
def readList (t : Text) : Except RecordError (List Text) :=
  if t.isEmpty then .ok [] else recordValues (t.length + 1) 1 t

namespace Flag

/-- Whether the flag stands without a value. -/
def isSwitch (f : Flag) : Bool :=
  match f.initial with
  | .switch _ => true
  | _ => false

/-- The flag as messages name it. -/
def label (f : Flag) : Text :=
  match f.letter with
  | some b => .concat [[Text.byte '-', b], ", --", f.name]
  | none => "--" ++ f.name

/-- Reads a value for the flag, or says what is wrong with it. -/
def read (f : Flag) (t : Text) : Except Text Value :=
  match f.initial with
  | .text _ => .ok (.text t)
  | .int _ => ((Number.readMarked t).map .int).mapError fun p =>
    (⟨"ParseInt", t, p⟩ : Number.Refusal).message
  | .switch _ => ((Number.readBool t).map .switch).elim
    (.error (⟨"ParseBool", t, .malformed⟩ : Number.Refusal).message) .ok
  | .duration _ => ((Duration.readClock t).map .duration).mapError (·.message)
  | .list _ => ((readList t).map .list).mapError (·.message)

/-- The kind of value in a list of flags; switches have none. -/
def valueName (f : Flag) : Text :=
  match f.initial with
  | .text _ => "string"
  | .int _ => "int"
  | .switch _ => ""
  | .duration _ => "duration"
  | .list _ => "strings"

/-- The initial value in a list of flags, unless it is nothing. -/
def initialText (f : Flag) : Text :=
  match f.initial with
  | .text t => if t.isEmpty then [] else .concat [" (default ", Text.quote t, ")"]
  | .int n => if n = 0 then [] else .concat [" (default ", Text.ofInt n, ")"]
  | .switch on => if on then " (default true)" else []
  | .duration n => if n = 0 then [] else .concat [" (default ", Duration.text n, ")"]
  | .list _ => []

end Flag

/-- The flags that are set, the last value first. -/
abbrev Values := List (Text × Value)

namespace Values

/-- Sets a flag; a list grows by what is given. -/
def set (vs : Values) (name : Text) (v : Value) : Values :=
  match vs.lookup name, v with
  | some (.list before), .list more => (name, .list (before ++ more)) :: vs
  | _, _ => (name, v) :: vs

/-- The text of a flag. -/
def text (vs : Values) (name fallback : Text) : Text :=
  match vs.lookup name with
  | some (.text t) => t
  | _ => fallback

/-- The number or the duration of a flag, zero when it is not set. -/
def int (vs : Values) (name : Text) : Int :=
  match vs.lookup name with
  | some (.int n) => n
  | some (.duration n) => n
  | _ => 0

/-- Whether a switch is on. -/
def isOn (vs : Values) (name : Text) : Bool := vs.lookup name = some (.switch true)

/-- The list of a flag. -/
def list (vs : Values) (name : Text) : List Text :=
  match vs.lookup name with
  | some (.list ts) => ts
  | _ => []

end Values
end LogSql.Command
