import LogSql.Row.Basic
import LogSql.Template.Run
import LogSql.Time.Instant

/-!
Line templates: templates over the labels, the line and the timestamp of a row, which make its new
line.
-/
namespace LogSql.LineTemplate

open Template (Function Value Program)

/-- The name of a line template. -/
def name : Text := "line"

/-- The instant of a number of nanoseconds; a text that is no such number stays as it is. -/
def instantText (t : Text) : Text :=
  match Number.readInt t with
  | .ok n => Instant.text n
  | .error _ => t

/-- A text with the characters of a set taken off by a trimmer. -/
def trimming (trim : (Char → Bool) → Text → Text) : Function :=
  Function.ofTexts fun t set =>
    let chars := Text.chars set
    .text (trim (fun c => chars.contains c) t)

/-- The functions that line templates can call besides the general ones. -/
def functions : List (Text × Function) :=
  [("ToUpper", Function.ofText fun t => .text t.upper),
    ("ToLower", Function.ofText fun t => .text t.lower),
    ("TrimSpace", Function.ofText fun t => .text t.trim),
    ("Trim", trimming Text.trimBy),
    ("TrimLeft", trimming Text.trimStartBy),
    ("TrimRight", trimming Text.trimEndBy),
    ("TrimPrefix", Function.ofTexts fun t head => .text ((Text.stripStart head t).getD t)),
    ("TrimSuffix", Function.ofTexts fun t tail => .text ((Text.stripEnd tail t).getD t)),
    ("Replace", ⟨[.text, .text, .text, .int], none, fun
      | [.text t, .text old, .text new, .int n] =>
        some (.text (t.replace old new (if n < 0 then none else some n.toNat)))
      | _ => none⟩),
    ("Contains", Function.ofTexts fun t part => .bool (t.contains part)),
    ("HasPrefix", Function.ofTexts fun t head => .bool (head.isPrefixOf t)),
    ("HasSuffix", Function.ofTexts fun t tail => .bool (tail.isSuffixOf t)),
    ("unixToTime", Function.ofText fun t => .text (instantText t))]

/-- Everything a line template can call. -/
def allFunctions : List (Text × Function) := functions ++ Template.builtins

/-- Reads a line template. -/
def parse? (text : Text) : Option Program :=
  (Template.parse (fun f => allFunctions.any fun g => g.1 = f) name text).map fun trees =>
    { name, trees, functions := allFunctions }

/-- What a line template sees of a row. -/
def dataOf (r : Row) : Labels :=
  ((r.labels.getD []).set "_line" r.line).set "_ts" (Text.ofInt r.timestamp)

/-- The new line of a row: what was printed, and whether the template came to its end. -/
def render (p : Program) (r : Row) : Text × Bool := p.run (dataOf r)

/-- A piece of a simple template. -/
inductive Piece where
  | text (t : Text)
  | label (name : Text)
  deriving DecidableEq, Repr

/-- A part of a template that is text or a single label. -/
def piece? : Template.Part → Option Piece
  | .text t => some (.text t)
  | .action ⟨_, [], [[.field [label]]]⟩ => some (.label label)
  | _ => none

/-- The pieces of a template that consists only of text and labels. -/
def pieces? (text : Text) : Option (List Piece) := do
  let trees ← Template.parse (fun _ => false) name text
  ((trees.get? name).getD []).mapM piece?

end LogSql.LineTemplate
