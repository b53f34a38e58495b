import LogSql.Text.Glyph

/-!
Statements given as clause trees. A clause is an operator followed by operands, each a literal text
or a clause of its own; the operator is written between the operands of its level and nested clauses
stand in parentheses. Every value is already SQL text: nothing is quoted or bound here.
-/
namespace LogSql.Sql.Clause

/-- What can stand in a clause. Only texts and clauses can be written; the other values of loosely
typed callers are kept apart to name them when they are refused. -/
inductive Operand where
  | text (t : Text)
  | clause (items : List Operand)
  | list (items : List Operand)
  | number
  | truth
  | missing
  | record
  deriving Repr, Inhabited

/-- The name of an operand's type in messages. -/
def Operand.typeName : Operand → Text
  | text _ => "string"
  | clause _ => "sqlrender.Clause"
  | list _ => "[]interface \x7b\x7d"
  | number => "float64"
  | truth => "bool"
  | missing => "<nil>"
  | record => "map[string]interface \x7b\x7d"

/-- Why a statement cannot be written. -/
inductive Error where
  | emptySelect
  | missingFrom
  | emptyUnion
  | noRequest
  | noUnion
  | notARequest (type : Text)
  | operatorNotText (type : Text)
  | badOperand (type : Text)
  | inWith (name : Text) (e : Error)
  | inJoin (name : Text) (e : Error)
  | inWhere (e : Error)
  | inHaving (e : Error)
  | inMember (index : Nat) (e : Error)
  deriving DecidableEq, Repr

/-- The error in words. -/
def Error.message : Error → Text
  | emptySelect => "empty select list"
  | missingFrom => "missing from"
  | emptyUnion => "empty union"
  | noRequest => "nil request"
  | noUnion => "nil union"
  | notARequest type => "unsupported request type " ++ type
  | operatorNotText type => "clause operator must be a string, got " ++ type
  | badOperand type => "unsupported clause operand " ++ type
  | inWith name e => .concat ["with ", name, ": ", e.message]
  | inJoin name e => .concat ["left join ", name, ": ", e.message]
  | inWhere e => "where: " ++ e.message
  | inHaving e => "having: " ++ e.message
  | inMember i e => .concat ["union member ", Text.ofNat i, ": ", e.message]

mutual

/-- The text of a clause. -/
def text : List Operand → Except Error Text
  | [] => .ok []
  | .text op :: operands => do
    return Text.join (.concat [" ", op, " "]) (← operandTexts operands)
  | first :: _ => .error (.operatorNotText first.typeName)

/-- The texts of operands. -/
def operandTexts : List Operand → Except Error (List Text)
  | [] => .ok []
  | .text t :: rest => do return t :: (← operandTexts rest)
  | .clause items :: rest => do
    let inner ← text items
    return .concat ["(", inner, ")"] :: (← operandTexts rest)
  | .list items :: rest => do
    let inner ← text items
    return .concat ["(", inner, ")"] :: (← operandTexts rest)
  | other :: _ => .error (.badOperand other.typeName)

end

/-- A left join against a named table. -/
structure LeftJoin where
  name : Text
  on : List Operand
  deriving Repr

/-- The parts of a statement apart from its common table expressions. -/
structure Body where
  distinct : Bool := false
  select : List Text := []
  source : Text := []
  leftJoins : List LeftJoin := []
  filter : List Operand := []
  groupBy : List Text := []
  having : List Operand := []
  orderBy : List Text := []
  direction : Text := []
  limit : Text := []
  offset : Text := []
  final : Bool := false
  deriving Repr

/-- A statement: named statements to start from, of which some may be missing, and its body. -/
inductive Request where
  | mk (withs : List (Text × Option Request)) (body : Body)

instance : Inhabited Request := ⟨.mk [] {}⟩

/-- A part that is written only when there is something to write. -/
def part (keyword body : Text) : Text := if body.isEmpty then [] else keyword ++ body

/-- A list part. -/
def listPart (keyword : Text) (items : List Text) : Text :=
  if items.isEmpty then [] else keyword ++ Text.join ", " items

/-- A boolean part. -/
def clausePart (keyword : Text) (c : List Operand) : Except Error Text :=
  if c.isEmpty then .ok [] else do return keyword ++ (← text c)

/-- The joins. -/
def joinTexts : List LeftJoin → Except Error Text
  | [] => .ok []
  | j :: rest => do
    let on ← (text j.on).mapError (.inJoin j.name)
    return .concat [" LEFT JOIN ", j.name, " ON ", on, ← joinTexts rest]

/-- The text of a body. -/
def Body.text (b : Body) : Except Error Text := do
  let joins ← joinTexts b.leftJoins
  let filter ← (clausePart " WHERE " b.filter).mapError .inWhere
  let having ← (clausePart " HAVING " b.having).mapError .inHaving
  return .concat [
    "SELECT ",
    if b.distinct then "DISTINCT " else [],
    Text.join ", " b.select,
    " FROM ",
    b.source,
    if b.final then " FINAL" else [],
    joins,
    filter,
    listPart " GROUP BY " b.groupBy,
    having,
    listPart " ORDER BY " (b.orderBy.map fun n => Text.trim (.concat [n, " ", b.direction])),
    part " LIMIT " b.limit,
    part " OFFSET " b.offset]

mutual

/-- The text of a statement. -/
def Request.text : Request → Except Error Text
  | .mk withs body => do
    if body.select.isEmpty then throw .emptySelect
    if body.source.isEmpty then throw .missingFrom
    let named ← withTexts withs
    let head : Text :=
      if withs.isEmpty then [] else .concat ["WITH ", Text.join ", " named, " "]
    return head ++ (← body.text)

/-- The named statements that are present. -/
def withTexts : List (Text × Option Request) → Except Error (List Text)
  | [] => .ok []
  | (_, none) :: rest => withTexts rest
  | (name, some r) :: rest => do
    let inner ← (Request.text r).mapError (.inWith name)
    return .concat [name, " AS (", inner, ")"] :: (← withTexts rest)

end

/-- The texts of the members of a union from a position on. -/
def memberTexts : (index : Nat) → List Request → Except Error (List Text)
  | _, [] => .ok []
  | index, r :: rest => do
    let inner ← r.text.mapError (.inMember index)
    return .concat ["(", inner, ")"] :: (← memberTexts (index + 1) rest)

/-- The text of a union of statements. -/
def unionText (distinct : Bool) (members : List Request) : Except Error Text := do
  if members.isEmpty then throw .emptyUnion
  let texts ← memberTexts 0 members
  return Text.join (if distinct then " UNION DISTINCT " else " UNION ALL ") texts

end LogSql.Sql.Clause
