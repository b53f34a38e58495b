import LogSql.Sql.Expr
import LogSql.Sql.Literal

/-!
The text of expressions and statements. The parts of a statement are written first; what remains is
a statement over texts, put together in clause order.
-/
namespace LogSql.Sql

/-- What is known of the cells while writing. -/
structure CellView where
  isBound : Cell → Bool
  isTrue : Cell → Bool
  text : Cell → Text

/-- Conditions with a text, joined by an operator; more than one stand in parentheses. -/
def logical (op : Text) (conds : List Text) : Text :=
  match conds.filter fun t => !t.isEmpty with
  | [] => []
  | [t] => t
  | ts => .concat ["(", Text.join (.concat [" ", op, " "]) ts, ")"]

/-- Conditions with a text, joined by AND without parentheses. -/
def conjunction (conds : List Text) : Text :=
  Text.join " AND " (conds.filter fun t => !t.isEmpty)

namespace SelectOf

/-- A common table expression. -/
def withText (w : Named Text) : Text := .concat [w.name, " AS (", w.expr, ")"]

/-- A column; an alias equal to the expression is not repeated. -/
def columnText (c : Named Text) : Text :=
  if c.name.isEmpty ∨ c.name = c.expr then c.expr else .concat [c.expr, " AS ", c.name]

/-- A part of a clause that is written only when it has a text. -/
def clause (keyword body : Text) : Text := if body.isEmpty then [] else keyword ++ body

/-- A part of a clause that may be missing. -/
def optClause (keyword : Text) : Option Text → Text
  | some body => keyword ++ body
  | none => []

/-- A join clause. -/
def joinText (j : Join Text) : Text :=
  .concat [j.kind, " JOIN ", j.table, clause " AS " j.name, optClause " ON " j.on]

/-- An ordering term. -/
def orderText (o : Named Text) : Text := o.expr ++ clause " " o.name

/-- A clause that lists its items. -/
def listClause (keyword : Text) (items : List Text) : Text :=
  if items.isEmpty then [] else keyword ++ Text.join ", " items

/-- The source of a statement. -/
def sourceText (s : SelectOf Text) : Text :=
  match s.source with
  | some t => .concat [" FROM ", t, clause " AS " s.sourceAlias]
  | none => []

/-- The row limit of a statement; an offset needs a limit. -/
def limitText (s : SelectOf Text) : Text :=
  match s.limit with
  | none => []
  | some limit =>
    if limit.isEmpty then []
    else .concat [" LIMIT ", limit, clause " OFFSET " (s.offset.getD [])]

/-- A statement whose parts are texts. -/
def text (s : SelectOf Text) : Text :=
  .concat [
    if s.withs.isEmpty then [] else .concat [listClause "WITH " (s.withs.map withText), " "],
    "SELECT ",
    if s.distinct then "DISTINCT " else [],
    if s.columns.isEmpty then "*" else Text.join ", " (s.columns.map columnText),
    s.sourceText,
    s.joins.flatMap fun j => Text.byte ' ' :: joinText j,
    clause " WHERE " (conjunction s.filters),
    listClause " GROUP BY " s.groups,
    clause " HAVING " (conjunction s.havings),
    listClause " ORDER BY " (s.orders.map orderText),
    s.limitText]

end SelectOf

namespace Expr

mutual

/-- The text of an expression. -/
def text (v : CellView) : Expr → Text
  | raw t => t
  | str t => literal t
  | int n => Text.ofInt n
  | float x => x.general
  | cell c => v.text c
  | call name args => .concat [name, "(", Text.join ", " (texts v args), ")"]
  | binary op l r => .concat [text v l, " ", op, " ", text v r]
  | between e lo hi => .concat [text v e, " BETWEEN ", text v lo, " AND ", text v hi]
  | all conds => logical "AND" (texts v conds)
  | any conds => logical "OR" (texts v conds)
  | not cond => .concat ["NOT (", text v cond, ")"]
  | sub e => .concat ["(", text v e, ")"]
  | array items => .concat ["[", Text.join ", " (texts v items), "]"]
  | tuple items => .concat ["(", Text.join ", " (texts v items), ")"]
  | query s => (selectTexts v s).text
  | ifBound c bound unbound => if v.isBound c then text v bound else text v unbound
  | ifTrue c yes no => if v.isTrue c then text v yes else text v no

/-- The texts of expressions. -/
def texts (v : CellView) : List Expr → List Text
  | [] => []
  | e :: rest => text v e :: texts v rest

/-- The texts of named expressions. -/
def namedTexts (v : CellView) : List (Named Expr) → List (Named Text)
  | [] => []
  | ⟨e, name⟩ :: rest => ⟨text v e, name⟩ :: namedTexts v rest

/-- The text of an expression that may be missing. -/
def optText (v : CellView) : Option Expr → Option Text
  | none => none
  | some e => some (text v e)

/-- The texts of joins. -/
def joinTexts (v : CellView) : List (Join Expr) → List (Join Text)
  | [] => []
  | ⟨kind, table, name, on⟩ :: rest =>
    ⟨kind, text v table, name, optText v on⟩ :: joinTexts v rest

/-- A statement with its parts written. -/
def selectTexts (v : CellView) : SelectOf Expr → SelectOf Text
  | ⟨withs, distinct, columns, source, sourceAlias, joins, filters, groups, havings, orders, limit,
      offset, params⟩ =>
    ⟨namedTexts v withs, distinct, namedTexts v columns, optText v source, sourceAlias,
      joinTexts v joins, texts v filters, texts v groups, texts v havings, namedTexts v orders,
      optText v limit, optText v offset, params⟩

end

end Expr

namespace Value

/-- The text of a bound value. -/
def text (v : CellView) : Value → Text
  | .verbatim t => t
  | .int n => Text.ofInt n
  | .bool b => if b then "1" else "0"
  | .float x => x.general
  | .expr e => e.text v

end Value

namespace Bindings

/-- The bindings as the writer sees them. A value may mention other cells; chains of them are
followed to the given depth. -/
def viewTo (b : Bindings) : (depth : Nat) → CellView
  | 0 => ⟨fun c => (b.get? c).isSome, fun _ => false, fun _ => []⟩
  | depth + 1 =>
    { isBound := fun c => (b.get? c).isSome
      isTrue := fun c => match b.get? c with
        | some (.bool t) => t
        | _ => false
      text := fun c => match b.get? c with
        | some v => v.text (viewTo b depth)
        | none => [] }

/-- The bindings as the writer sees them; a chain of cells is no longer than there are cells. -/
def view (b : Bindings) : CellView := b.viewTo (b.length + 1)

end Bindings

/-- The text of a statement under bindings. -/
def Select.text (s : Select) (b : Bindings) : Text := (Expr.query s).text b.view

end LogSql.Sql
