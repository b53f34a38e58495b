import LogSql.Compile.Filter

/-!
The selector rules and the stages of a log pipeline. A stage changes the statement while it can; from
the first stage that needs the client on, stages are left to it in their order.
-/
namespace LogSql.Compile

open Query
open Sql (Expr)

/-- Applies one grammar construct. The construct may be missing. -/
abbrev Handler := Option Node → Draft → Except Error Draft

/-- A handler that treats a missing construct as an empty one. -/
def onNode (f : Node → Draft → Except Error Draft) : Handler := fun n => f (n.getD (.leaf [] []))

/-- The text of a stage. -/
def stageText (n : Node) : Text := n.valueOf Kind.quotedStr

/-- Negates a condition. -/
def negateIf (negated : Bool) (cond : Expr) : Expr := if negated then .not cond else cond

/-! ### Stream selectors -/

/-- The stream label that a rule tests. -/
def streamLabel (n : Node) : Expr :=
  .call "JSONExtractString" ["labels", .str (n.valueOf Kind.label)]

/-- A rule that compares a label with a text. -/
def streamComparison (op : Text) : Handler :=
  onNode fun n d => d.addStreamCondition (.binary op (streamLabel n) (.str (stageText n)))

/-- A rule that matches a label against a pattern. -/
def streamMatch (negated : Bool) : Handler :=
  onNode fun n d => do
    let re := stageText n
    let _ ← pattern re
    d.addStreamCondition
      (negateIf negated (.call "match" [streamLabel n, .str (anchored re)]))

/-! ### Line filters -/

/-- Keeps lines that contain a text. Every line contains the empty text. -/
def lineContains (negated : Bool) : Handler :=
  onNode fun n d =>
    let needle := stageText n
    if d.onClient then .ok (d.addHook (.contains needle negated))
    else if needle.isEmpty then .ok (if negated then d.addWhere "0" else d)
    else
      let position := Expr.call "position" [d.lineExpr, .str needle]
      .ok (d.addWhere (.binary (if negated then "=" else "!=") position (.int 0)))

/-- Keeps lines that match a pattern. -/
def lineMatches (negated : Bool) : Handler :=
  onNode fun n d => do
    let re := stageText n
    let compiled ← pattern re
    if d.onClient then return d.addHook (.matches compiled negated)
    else return d.addWhere (negateIf negated (.call "match" [d.lineExpr, .str re]))

/-! ### Parsers -/

/-- The positions in brackets after a name. -/
def pathIndexes (path : Text) : (fuel : Nat) → Text → Except Error (List Expr)
  | 0, _ => .ok []
  | fuel + 1, rest =>
    if rest.isEmpty then .ok []
    else
      match Text.cut "]" rest with
      | none => .error (.badPath path none)
      | some (index, tail) =>
        match Number.integer "Atoi" index with
        | .error r => .error (.badPath path (some r))
        | .ok n =>
          if n < 0 then .error (.badPath path none)
          else do
            let more ← pathIndexes path fuel ((Text.stripStart "[" tail).getD tail)
            return .int (Int64Range.wrap (n + 1)) :: more

/-- A segment of a path: a name and positions, either of which may be missing. -/
def pathSegment (path segment : Text) : Except Error (List Expr) := do
  let (name, rest) := (Text.cut "[" segment).getD (segment, [])
  let indexes ← pathIndexes path rest.length rest
  return if name.isEmpty then indexes else .str name :: indexes

/-- The accessors of a path into a document; positions count from one there. -/
def pathAccessors (path : Text) : Except Error (List Expr) := do
  let segments ← (Text.splitByte (Text.byte '.') path).mapM (pathSegment path)
  if segments.flatten.isEmpty then throw (.badPath path none)
  return segments.flatten

/-- The path of a parser parameter as the client follows it. -/
def clientPath (path : Text) : JsonPath :=
  Text.fieldsBy (fun c => c = '.' || c = '[' || c = ']') path

/-- The labels and paths of the parameters. -/
def jsonFields (params : List Node) : Except Error (List (Text × JsonPath)) :=
  params.mapM fun p => do
    let path := p.valueOf Kind.quotedStr
    let _ ← pathAccessors path
    return (p.valueOf Kind.label, clientPath path)

/-- A label and the value of a document at the path of a parameter. -/
def jsonPair (line : Text) (p : Node) : Except Error Expr := do
  let path ← pathAccessors (p.valueOf Kind.quotedStr)
  let args := Expr.raw line :: path
  let value := Expr.call "if" [.eq (.call "JSONType" args) (.str "String"),
    .call "JSONExtractString" args, .call "JSONExtractRaw" args]
  return .tuple [.str (p.valueOf Kind.label), value]

/-- Extracts labels from lines that are JSON documents. -/
def jsonParser : Handler :=
  onNode fun n d => do
    let params := n.findAll Kind.parserParam
    if d.onClient then return d.addHook (.json (← jsonFields params))
    else
      let line := Draft.fixedText d.lineExpr
      if params.isEmpty then
        return d.addExtraLabels (.raw (.concat [
          "arrayMap(x -> (x.1, if(JSONType(x.2) = 'String', JSONExtractString(x.2), x.2)), ",
          "JSONExtractKeysAndValuesRaw(", line, "))"]))
      else return d.addExtraLabels (.array (← params.mapM (jsonPair line)))

/-- Extracts labels from lines of pairs. -/
def logfmtParser : Handler := fun _ d =>
  if d.onClient then .ok (d.addHook .logfmt)
  else
    let pairs : Text :=
      .concat ["extractKeyValuePairs(", Draft.fixedText d.lineExpr, ", '=', ' ', '\"')"]
    .ok (d.addExtraLabels (.raw (.concat ["arrayZip(mapKeys(", pairs, "), mapValues(", pairs, "))"])))

/-- Extracts the named groups of a pattern as labels. -/
def regexpParser : Handler :=
  onNode fun n d => do
    let re := stageText n
    let compiled ← pattern re
    if compiled.groupNames.all (·.isEmpty) then throw (.noNamedGroup re)
    if d.onClient then return d.addHook (.groups compiled)
    else
      let line := Draft.fixedText d.lineExpr
      let names := Text.join ", " (compiled.groupNames.map Sql.literal)
      return d.addExtraLabels (.raw (.concat [
        "arrayFilter(x -> x.1 != '', if(match(", line, ", ", Sql.literal re, "), arrayZip([", names,
        "], extractGroups(", line, ", ", Sql.literal re, ")), []))"]))

/-! ### Line templates -/

/-- A piece of a simple template as an expression. -/
def pieceExpr (d : Draft) : LineTemplate.Piece → Expr
  | .text t => .str t
  | .label name => if name = ("_line" : Text) then d.lineExpr else .raw (d.labelValue name)

/-- Rewrites the line. Simple templates become an expression, others are left to the client if it
can run templates. -/
def lineFormat (clientTemplates : Bool) : Handler :=
  onNode fun n d =>
    let text := stageText n
    let simple := if d.onClient then none else LineTemplate.pieces? text
    match simple with
    | some pieces =>
      let args := pieces.map (pieceExpr d)
      let padded := args ++ List.replicate (2 - args.length) (.str [])
      .ok (d.mapSelect (·.replaceColumn lineColumn (.call "concat" padded)))
    | none =>
      if !clientTemplates then .error (.notSupported Kind.lineFormatExpression)
      else match LineTemplate.parse? text with
        | some template => .ok (d.addHook (.format template))
        | none => .error .badLineTemplate

end LogSql.Compile
