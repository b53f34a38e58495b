import LogSql.Compile.Draft

/-!
Label filters. A filter is compiled to a condition of the statement, or to a test on rows when an
earlier stage was left to the client.
-/
namespace LogSql.Compile

open Query
open Sql (Expr)

/-- Reads a number of a query. -/
def number (t : Text) : Except Error Binary64 :=
  (Number.float t).mapError fun r => .badNumber t r

/-- Compiles a pattern of a query. -/
def pattern (t : Text) : Except Error Pattern.Compiled :=
  (Pattern.compile t).mapError fun e => .badPattern t e

/-- A pattern that has to match a whole label. -/
def anchored (t : Text) : Text := .concat ["^(?:", t, ")$"]

/-- The condition of a filter with a text. -/
def textCondition (value : Expr) (op want : Text) : Except Error Expr :=
  if op = ("=" : Text) ∨ op = ("==" : Text) then .ok (.eq value (.str want))
  else if op = ("!=" : Text) then .ok (.neq value (.str want))
  else if op = ("=~" : Text) ∨ op = ("!~" : Text) then do
    let _ ← pattern want
    let cond := Expr.call "match" [value, .str (anchored want)]
    return if op = ("!~" : Text) then .not cond else cond
  else .error (.needsNumber op)

/-- The condition of a filter on one label. -/
def simpleCondition (d : Draft) (n : Node) : Except Error Expr :=
  let label := n.valueOf Kind.label
  let op := n.valueOf Kind.labelFilterOperator
  let value := Expr.raw (d.labelValue label)
  match n.child? Kind.quotedStr with
  | some want => textCondition value op want.value
  | none =>
    match Comparison.ofOperator? op with
    | none => .error (.notImplemented "label filter operator" op)
    | some how =>
      if (n.child? Kind.numberValue).isSome then do
        let want ← number (n.valueOf Kind.numberValue)
        return .binary how.text (.call "toFloat64OrNull" [value]) (.float want)
      else if (n.child? Kind.durationValue).isSome then do
        let want ← (Duration.readClock (n.valueOf Kind.durationValue)).mapError .badFilterDuration
        return .binary how.text (.call "parseTimeDelta" [value]) (.float (Duration.seconds want))
      else if (n.child? Kind.bytesValue).isSome then do
        let want ← (Number.readSize (n.valueOf Kind.bytesValue)).mapError .badFilterSize
        return .binary how.text (.call "parseReadableSizeOrNull" [value]) (.float want)
      else .error (.noFilterValue label)

mutual

/-- The condition of a filter. -/
def condition (d : Draft) : Node → Except Error Expr
  | .mk kind value children =>
    if kind = Kind.labelFilterOr then do return .any (← conditions d children)
    else if kind = Kind.labelFilterAnd then do return .all (← conditions d children)
    else if kind = Kind.simpleLabelFilter then simpleCondition d (.mk kind value children)
    else .error (.notImplemented "label filter" kind)

/-- The conditions of filters. -/
def conditions (d : Draft) : List Node → Except Error (List Expr)
  | [] => .ok []
  | n :: rest => do
    let c ← condition d n
    return c :: (← conditions d rest)

end

/-- The test of a filter with a text. -/
def textPredicate (label op want : Text) : Except Error Predicate :=
  if op = ("=" : Text) ∨ op = ("==" : Text) then .ok (.is label want false)
  else if op = ("!=" : Text) then .ok (.is label want true)
  else if op = ("=~" : Text) ∨ op = ("!~" : Text) then
    match Pattern.compile (anchored want) with
    | .ok p => .ok (.matches label p (op = ("!~" : Text)))
    | .error e => .error (.badPattern want e)
  else .error (.needsNumber op)

/-- The quantity that a filter compares with, when it has one. -/
def filterQuantity (n : Node) : Option (Except FilterValueError (Measure × Binary64)) :=
  if (n.child? Kind.numberValue).isSome then
    let t := n.valueOf Kind.numberValue
    some (match Number.float t with
      | .ok x => .ok (.number, x)
      | .error r => .error (.number t r))
  else if (n.child? Kind.durationValue).isSome then
    some (match Duration.readClock (n.valueOf Kind.durationValue) with
      | .ok x => .ok (.duration, Duration.seconds x)
      | .error e => .error (.duration e))
  else if (n.child? Kind.bytesValue).isSome then
    some (match Number.readSize (n.valueOf Kind.bytesValue) with
      | .ok x => .ok (.size, x)
      | .error e => .error (.size e))
  else none

/-- The test of a filter on one label. -/
def simplePredicate (n : Node) : Except Error Predicate :=
  let label := n.valueOf Kind.label
  let op := n.valueOf Kind.labelFilterOperator
  match n.child? Kind.quotedStr with
  | some want => textPredicate label op want.value
  | none =>
    match filterQuantity n with
    | none => .error (.noFilterValue label)
    | some (.error e) => .error (.badFilterValue e)
    | some (.ok (measure, want)) =>
      match Comparison.ofOperator? op with
      | some how => .ok (.compares label measure how want)
      | none => .error (.notImplemented "label filter operator" op)

mutual

/-- The test of a filter. -/
def predicate : Node → Except Error Predicate
  | .mk kind value children =>
    if kind = Kind.labelFilterOr then do return .any (← predicates children)
    else if kind = Kind.labelFilterAnd then do return .all (← predicates children)
    else if kind = Kind.simpleLabelFilter then simplePredicate (.mk kind value children)
    else .error (.notImplemented "label filter" kind)

/-- The tests of filters. -/
def predicates : List Node → Except Error (List Predicate)
  | [] => .ok []
  | n :: rest => do
    let p ← predicate n
    return p :: (← predicates rest)

end

/-- The filter inside its outermost node. -/
def filterBody (n : Node) : Node :=
  if n.kind = Kind.complexLabelFilterExpression then
    match n.children with
    | [body] => body
    | _ => n
  else n

/-- Applies a label filter. -/
def labelFilter (n : Option Node) (d : Draft) : Except Error Draft :=
  match n with
  | none => .error .emptyFilter
  | some n =>
    if d.onClient then do return d.addHook (.filter (← predicate (filterBody n)))
    else do return d.addWhere (← condition d (filterBody n))

end LogSql.Compile
