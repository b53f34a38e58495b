import LogSql.Metrics.Basic
import LogSql.Number.Read

/-!
The text formats in which measurements are served, and how a client asks for one of them.
-/
namespace LogSql.Metrics

/-- A text format; the open one exists in two versions. -/
inductive Format where
  | plain
  | opened (version : Text)
  deriving DecidableEq, Repr

namespace Format

/-- The media type of a format; names outside the classic ones are spelled as the scheme says. -/
def mediaType (scheme : Text) : Format → Text
  | plain => .concat ["text/plain; version=0.0.4; charset=utf-8; escaping=", scheme]
  | opened version =>
    .concat ["application/openmetrics-text; version=", version, "; charset=utf-8; escaping=", scheme]

end Format

/-- A text in which backslashes and line ends, and in some places quotes, are escaped. -/
def escaped (quotes : Bool) (t : Text) : Text :=
  t.flatMap fun b =>
    if b = Text.byte '\\' then "\\\\"
    else if b = Text.byte '\n' then "\\n"
    else if quotes ∧ b = Text.byte '"' then "\\\""
    else [b]

/-- The labels of a series in braces. -/
def labelsText (labels : List (Text × Text)) : Text :=
  if labels.isEmpty then []
  else
    let one := fun (l : Text × Text) => Text.concat [l.1, "=\"", escaped true l.2, "\""]
    .concat ["\x7b", Text.join "," (labels.map one), "\x7d"]

/-- A value; the open format writes a point or an exponent in every one. -/
def valueText (f : Format) (x : Binary64) : Text :=
  let t := x.general
  match f with
  | .plain => t
  | .opened _ => if t.elem (Text.byte '.') || t.elem (Text.byte 'e') then t else t ++ ".0"

/-- The name of a kind. -/
def Kind.text : Kind → Text
  | counter => "counter"
  | gauge => "gauge"

namespace Family

/-- The name of a family in its heading: the open format leaves out the ending of counters. -/
def heading (f : Family) (format : Format) : Text :=
  match format, f.kind with
  | .opened _, .counter => (Text.stripEnd "_total" f.name).getD f.name
  | _, _ => f.name

/-- The lines of a family. -/
def text (format : Format) (f : Family) : Text :=
  let name := f.heading format
  let line := fun (s : Series) =>
    Text.concat [f.name, labelsText s.labels, " ", valueText format s.value, "\n"]
  .concat ["# HELP ", name, " ", escaped (format ≠ .plain) f.help, "\n# TYPE ", name, " ", f.kind.text,
    "\n", (f.series.map line).flatten]

end Family

/-- A document of measurements. -/
def document (format : Format) (families : List Family) : Text :=
  ((gathered families).map (Family.text format)).flatten ++
    (if format = .plain then [] else "# EOF\n")

/-! ### What a client accepts -/

/-- One kind of document that a client accepts, with its parameters and its weight. -/
structure Accepted where
  type : Text
  params : List (Text × Text) := []
  weight : Binary64 := .ofInt 1

/-- A text without blanks around it. -/
def unpadded (t : Text) : Text :=
  let blank := fun (b : UInt8) => b = Text.byte ' '
  ((t.dropWhile blank).reverse.dropWhile blank).reverse

namespace Accepted

/-- Adds a parameter. -/
def addParam (a : Accepted) (t : Text) : Accepted :=
  match Text.splitByte (Text.byte '=') t with
  | [name, value] =>
    if value.isEmpty then a
    else if unpadded name = ("q" : Text) then
      { a with weight := (Number.readFloat value).toOption.getD (.ofInt 0) }
    else { a with params := (unpadded name, unpadded value) :: a.params }
  | _ => a

/-- Reads one kind of document; a kind without a subtype must be any kind at all. -/
def read? (t : Text) : Option Accepted :=
  match Text.splitByte (Text.byte ';') (unpadded t) with
  | [] => none
  | type :: params =>
    let start : Option Accepted := match Text.splitByte (Text.byte '/') type with
      | [main] => if unpadded main = ("*" : Text) then some { type := "*/*" } else none
      | [main, sub] => some { type := .concat [unpadded main, "/", unpadded sub] }
      | _ => none
    start.map fun a => params.foldl addParam a

/-- A parameter, empty when it is not given. -/
def param (a : Accepted) (name : Text) : Text :=
  ((a.params.find? fun p => p.1 = name).map (·.2)).getD []

/-- The format of a kind of document, if there is one. -/
def format? (a : Accepted) : Option Format :=
  let version := a.param "version"
  if a.type = ("text/plain" : Text) ∧ version ∈ (["", "0.0.4"] : List Text) then some .plain
  else if a.type = ("application/openmetrics-text" : Text) then
    if version = ("1.0.0" : Text) then some (.opened version)
    else if version ∈ (["", "0.0.1"] : List Text) then some (.opened "0.0.1")
    else none
  else none

end Accepted

/-- The known schemes for spelling names. -/
def schemes : List Text := ["allow-utf-8", "underscores", "dots", "values"]

/-- The format and the spelling of names that the first served kind of document asks for. -/
def firstServed (scheme : Text) : List Accepted → Format × Text
  | [] => (.plain, scheme)
  | a :: rest =>
    let asked := a.param "escaping"
    let scheme := if asked ∈ schemes then asked else scheme
    match a.format? with
    | some f => (f, scheme)
    | none => firstServed scheme rest

/-- What to serve for a header of accepted kinds; heavier ones come first. -/
def negotiate (header : Text) : Format × Text :=
  let all := (Text.splitByte (Text.byte ',') header).filterMap Accepted.read?
  firstServed "underscores" (all.mergeSort fun a b => !a.weight.lt b.weight)

end LogSql.Metrics
