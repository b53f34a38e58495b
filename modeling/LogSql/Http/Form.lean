import LogSql.Http.Message

/-!
Forms: names and values in a query string or in the body of a request.
-/
namespace LogSql.Http

/-- The text that a part of a query string stands for. -/
def unescape : Text → Option Text
  | [] => some []
  | 37 :: a :: b :: rest => do
    let high ← Text.hexValue a
    let low ← Text.hexValue b
    return UInt8.ofNat (16 * high + low) :: (← unescape rest)
  | b :: rest =>
    if b = 37 then none
    else (unescape rest).map ((if b = Text.byte '+' then 32 else b) :: ·)

/-- The values of a form in order. -/
structure Form where
  values : List (Text × Text) := []
  /-- Whether every part could be read. -/
  readable : Bool := true

namespace Form

/-- One form after another. -/
def append (a b : Form) : Form := ⟨a.values ++ b.values, a.readable && b.readable⟩

/-- The first value of a name, empty when there is none. -/
def get (f : Form) (name : Text) : Text := ((f.values.find? fun v => v.1 = name).map (·.2)).getD []

/-- All values of a name. -/
def getAll (f : Form) (name : Text) : List Text :=
  (f.values.filter fun v => v.1 = name).map (·.2)

/-- Takes one part of a query string into account. -/
def addPart (f : Form) (part : Text) : Form :=
  if part.isEmpty then f
  else if part.elem (Text.byte ';') then { f with readable := false }
  else
    let (name, value) := (Text.cut "=" part).getD (part, [])
    match unescape name, unescape value with
    | some n, some v => { f with values := f.values ++ [(n, v)] }
    | _, _ => { f with readable := false }

/-- Reads a query string. -/
def ofQuery (t : Text) : Form := (Text.splitByte (Text.byte '&') t).foldl addPart {}

end Form

/-! ### Media types -/

/-- A byte of a token in a header. -/
def isTokenByte (b : UInt8) : Bool :=
  32 < b && b < 127 && !(Text.ofString "()<>@,;:\\\"/[]?=").elem b

/-- The value of a parameter after its equals sign, and what follows it. -/
def mediaValue (t : Text) : Option (Text × Text) :=
  match t with
  | [] => none
  | b :: rest =>
    if b = Text.byte '"' then quoted rest
    else if isTokenByte b then some (t.takeWhile isTokenByte, t.dropWhile isTokenByte)
    else none
where
  /-- The rest of a quoted value. -/
  quoted : Text → Option (Text × Text)
    | [] => none
    | [b] => if b = Text.byte '"' then some ([], []) else none
    | b :: c :: rest =>
      if b = Text.byte '"' then some ([], c :: rest)
      else if b = Text.byte '\\' ∧ (Text.ofString "()<>@,;:\\\"/[]?=").elem c then
        (quoted rest).map fun r => (c :: r.1, r.2)
      else if b = 13 ∨ b = 10 then none
      else (quoted (c :: rest)).map fun r => (b :: r.1, r.2)

/-- Reads the parameters of a media type; nothing when one of them has no reading. -/
def mediaParams : (fuel : Nat) → (seen : List (Text × Text)) → Text → Option Unit
  | 0, _, _ => none
  | fuel + 1, seen, t =>
    let t := Text.trimStartBy Text.isSpace t
    if t.isEmpty ∨ Text.trim t = ";" then some ()
    else do
      let t ← Text.stripStart ";" t
      let t := Text.trimStartBy Text.isSpace t
      let name := Text.lower (t.takeWhile isTokenByte)
      if name.isEmpty then none
      let t ← Text.stripStart "=" (Text.trimStartBy Text.isSpace (t.dropWhile isTokenByte))
      let (value, rest) ← mediaValue (Text.trimStartBy Text.isSpace t)
      match seen.find? fun s => s.1 = name with
      | some (_, v) => if v = value then mediaParams fuel seen rest else none
      | none => mediaParams fuel ((name, value) :: seen) rest

/-- A media type without its parameters, and whether it is well-formed with them. -/
def mediaType (t : Text) : Text × Bool :=
  let (base, params) := match Text.cut ";" t with
    | some (base, rest) => (base, Text.byte ';' :: rest)
    | none => (t, [])
  let base := Text.trim (Text.lower base)
  let isToken := Text.someAll isTokenByte
  let named := match Text.cut "/" base with
    | some (a, b) => isToken a && isToken b
    | none => isToken base
  (base, named && (mediaParams (params.length + 1) [] params).isSome)

/-- The largest body that is read. -/
def maxBodyLength : Nat := 1048576

/-- Reads the form of a request: the values of its body, when it has such, and then those of its
query string. -/
def Form.ofRequest (r : Request) : Form :=
  let url := Form.ofQuery r.query
  if r.method = "POST" ∨ r.method = "PUT" ∨ r.method = "PATCH" then
    let declared := r.header "Content-Type"
    let (type, wellFormed) := mediaType (if declared.isEmpty then "application/octet-stream" else declared)
    let body := if type ≠ "application/x-www-form-urlencoded" then {}
      else if maxBodyLength < r.body.length then { readable := false }
      else Form.ofQuery r.body
    Form.append { body with readable := body.readable && wellFormed } url
  else url

end LogSql.Http
