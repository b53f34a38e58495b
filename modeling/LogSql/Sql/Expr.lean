import LogSql.Number.Decimal

/-!
SQL expressions and SELECT statements. A statement may leave some of its parts open: they are cells,
declared while the statement is built and bound before it is written, so that a part can mention a
table name or a time bound that is known only later.
-/
namespace LogSql.Sql

/-- A late-bound cell. Cells of one name are told apart by their serial number. -/
structure Cell where
  name : Text
  serial : Nat := 0
  deriving DecidableEq, Repr

/-- An expression with a name beside it: a common table expression and its alias, a column and its
alias, an ordering term and its direction. -/
structure Named (ε : Type) where
  expr : ε
  name : Text
  deriving DecidableEq, Repr, Inhabited

/-- A join clause. -/
structure Join (ε : Type) where
  kind : Text
  table : ε
  name : Text := []
  on : Option ε := none
  deriving DecidableEq, Repr

/-- A SELECT statement over expressions of a type. -/
structure SelectOf (ε : Type) where
  withs : List (Named ε) := []
  distinct : Bool := false
  columns : List (Named ε) := []
  source : Option ε := none
  sourceAlias : Text := []
  joins : List (Join ε) := []
  filters : List ε := []
  groups : List ε := []
  havings : List ε := []
  orders : List (Named ε) := []
  limit : Option ε := none
  offset : Option ε := none
  params : List Cell := []
  deriving DecidableEq, Repr, Inhabited

/-- Expressions. -/
inductive Expr where
  /-- Text taken as it is. -/
  | raw (text : Text)
  /-- A string literal. -/
  | str (value : Text)
  /-- An integer literal. -/
  | int (value : Int)
  /-- A floating point literal. -/
  | float (value : Binary64)
  /-- The value bound to a cell. -/
  | cell (c : Cell)
  /-- A function call. -/
  | call (name : Text) (args : List Expr)
  /-- A binary operator between its operands. -/
  | binary (op : Text) (left right : Expr)
  /-- A closed range test. -/
  | between (e low high : Expr)
  /-- A conjunction; operands without text are left out. -/
  | all (conds : List Expr)
  /-- A disjunction; operands without text are left out. -/
  | any (conds : List Expr)
  /-- A negation. -/
  | not (cond : Expr)
  /-- A subquery in parentheses. -/
  | sub (e : Expr)
  /-- An array. -/
  | array (items : List Expr)
  /-- A tuple. -/
  | tuple (items : List Expr)
  /-- A nested statement. -/
  | query (s : SelectOf Expr)
  /-- One of two expressions, by whether a cell is bound. -/
  | ifBound (c : Cell) (bound unbound : Expr)
  /-- One of two expressions, by whether a cell is bound to the true value. -/
  | ifTrue (c : Cell) (yes no : Expr)

instance : Inhabited Expr := ⟨.raw []⟩

/-- A statement. -/
abbrev Select := SelectOf Expr

/-- What a cell can be bound to. A text stands for itself and is not quoted. -/
inductive Value where
  | verbatim (t : Text)
  | int (n : Int)
  | bool (b : Bool)
  | float (x : Binary64)
  | expr (e : Expr)

/-- The bound cells; the first entry of a cell counts. -/
abbrev Bindings := List (Cell × Value)

namespace Bindings

/-- The value of a cell. -/
def get? (b : Bindings) (c : Cell) : Option Value := (b.find? fun p => p.1 = c).map (·.2)

/-- Binds a cell, or unbinds it. -/
def set (b : Bindings) (c : Cell) (v : Option Value) : Bindings :=
  let others := b.filter fun p => p.1 ≠ c
  match v with
  | some v => (c, v) :: others
  | none => others

end Bindings

namespace Expr

def eq (l r : Expr) : Expr := binary "=" l r
def neq (l r : Expr) : Expr := binary "!=" l r
def isIn (e set : Expr) : Expr := binary "IN" e set

/-- Text of a string taken as it is. -/
def ofString (s : String) : Expr := raw s

instance : Coe String Expr := ⟨ofString⟩

end Expr

namespace SelectOf

variable {ε : Type}

/-- The common table expression of an alias. -/
def with? (s : SelectOf ε) (name : Text) : Option (Named ε) :=
  s.withs.find? fun w => w.name = name

/-- Changes the first common table expression of an alias. -/
def modifyWith (s : SelectOf ε) (name : Text) (f : ε → ε) : SelectOf ε :=
  let rec go : List (Named ε) → List (Named ε)
    | [] => []
    | w :: rest => if w.name = name then { w with expr := f w.expr } :: rest else w :: go rest
  { s with withs := go s.withs }

/-- The column of an alias. -/
def column? (s : SelectOf ε) (name : Text) : Option (Named ε) :=
  s.columns.find? fun c => c.name = name

/-- Appends a column. -/
def addColumn (s : SelectOf ε) (e : ε) (name : Text) : SelectOf ε :=
  { s with columns := s.columns ++ [⟨e, name⟩] }

/-- Gives the first column of an alias another expression, or appends it. -/
def replaceColumn (s : SelectOf ε) (name : Text) (e : ε) : SelectOf ε :=
  let rec go : List (Named ε) → Option (List (Named ε))
    | [] => none
    | c :: rest =>
      if c.name = name then some ({ c with expr := e } :: rest) else (go rest).map (c :: ·)
  match go s.columns with
  | some columns => { s with columns }
  | none => s.addColumn e name

/-- Drops every column of an alias. -/
def removeColumn (s : SelectOf ε) (name : Text) : SelectOf ε :=
  { s with columns := s.columns.filter fun c => c.name ≠ name }

/-- Appends conditions to the WHERE conjunction. -/
def andWhere (s : SelectOf ε) (conds : List ε) : SelectOf ε :=
  { s with filters := s.filters ++ conds }

/-- The declared cell of a name. -/
def param? (s : SelectOf ε) (name : Text) : Option Cell := s.params.find? fun c => c.name = name

/-- Declares a cell; a name that is declared already keeps its first cell. -/
def declare (s : SelectOf ε) (c : Cell) : SelectOf ε :=
  if (s.param? c.name).isSome then s else { s with params := s.params ++ [c] }

end SelectOf

namespace Select

/-- A statement that reads from the given one, which becomes the common table expression `alias`.
The inner common table expressions move in front of it and the cells stay declared. -/
def wrap (inner : Select) (name : Text) : Select :=
  { withs := inner.withs ++ [⟨.query { inner with withs := [] }, name⟩]
    source := some (.raw name)
    params := inner.params }

end Select
end LogSql.Sql
