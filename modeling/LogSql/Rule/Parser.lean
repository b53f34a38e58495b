import LogSql.Rule.Basic

/-!
Reading rules. Comparisons can be chained, and words such as `in` and `contains` can be negated by a
`not` before them.
-/
namespace LogSql.Rule

/-- Tokens of a rule. -/
inductive Token where
  | word (t : Text)
  | int (n : Int)
  | float (x : Binary64)
  | text (t : Text)
  | mark (t : Text)
  deriving DecidableEq, Repr

/-- Words that are operators. -/
def operatorWords : List Text :=
  ["in", "or", "and", "not", "matches", "contains", "startsWith", "endsWith", "let", "if", "else"]

/-- A character of a name. -/
def isNameChar (c : Char) : Bool := c = '_' || c = '$' || Text.isLetter c || Text.isDigit c

/-- A literal up to its closing quote, after the opening one. -/
def takeLiteral (quote : UInt8) : Text → Option (Text × Text)
  | [] => none
  | b :: rest =>
    if b = 10 then none
    else if b = quote then some ([], rest)
    else if b = Text.byte '\\' then
      match rest with
      | c :: tail => (takeLiteral quote tail).map fun (s, after) => (b :: c :: s, after)
      | [] => none
    else (takeLiteral quote rest).map fun (s, after) => (b :: s, after)

/-- The text that the body of a literal stands for, after the first `skip` bytes. -/
def decodeLiteral : (skip : Nat) → Text → Option Text
  | _, [] => some []
  | skip + 1, _ :: rest => decodeLiteral skip rest
  | 0, b :: rest => do
    let quoteEscape : Option UInt8 :=
      if b = Text.byte '\\' then
        rest.head?.filter fun c => c = Text.byte '"' || c = Text.byte '\'' || c = 96
      else none
    let (value, width) ← match quoteEscape with
      | some c => some ([c], 2)
      | none => Text.unescape 0 (b :: rest)
    let tail ← decodeLiteral (width - 1) rest
    some (value ++ tail)

/-- The spelling of a number: its digits and, if a point or an exponent follows, those too. -/
def numberSpelling (t : Text) : Text :=
  let isDigit := fun b => Text.isDecimal b || b = Text.byte '_'
  let whole := t.takeWhile isDigit
  let rest := t.drop whole.length
  let fraction : Text := match rest with
    | b :: c :: _ =>
      if b = Text.byte '.' ∧ Text.isDecimal c then b :: (rest.drop 1).takeWhile isDigit else []
    | _ => []
  let rest := rest.drop fraction.length
  let exponent : Text := match rest with
    | e :: tail =>
      if e = Text.byte 'e' ∨ e = Text.byte 'E' then
        let sign := tail.take 1 |>.filter fun b => b = Text.byte '+' || b = Text.byte '-'
        e :: sign ++ (tail.drop sign.length).takeWhile isDigit
      else []
    | [] => []
  .concat [whole, fraction, exponent]

/-- The token of a number. -/
def numberToken (spelling : Text) : Option Token :=
  let digits := spelling.filter fun b => b ≠ Text.byte '_'
  if digits.all Text.isDecimal then (Number.readInt digits).toOption.map .int
  else (Number.readFloat digits).toOption.map .float

/-- A mark at the start of a text: two characters where they belong together. -/
def markOf (b : UInt8) (rest : Text) : Option Text :=
  let double := fun (second : Text) => match rest with
    | c :: _ => if second.elem c then [b, c] else [b]
    | [] => [b]
  if (Text.ofString "([\x7b)]\x7d,;%+-^").elem b then some [b]
  else if (Text.ofString "&!=*<>").elem b then some (double "&=*")
  else if b = Text.byte '|' then some (double "|")
  else if b = Text.byte ':' then some (double ":")
  else if b = Text.byte '?' then some (double ".?")
  else if b = Text.byte '.' then some (double ".")
  else if b = Text.byte '/' then some [b]
  else none

/-- The tokens of a rule; every round takes a byte at least. -/
def tokens : (fuel : Nat) → Text → Option (List Token)
  | _, [] => some []
  | 0, _ => none
  | fuel + 1, b :: rest =>
    let t := b :: rest
    let word := Text.ofGlyphs ((Text.glyphs t).takeWhile fun r => isNameChar r.char)
    let (c, width) := Text.firstChar b rest
    if Text.isSpace c then tokens fuel (t.drop width)
    else if b = Text.byte '"' ∨ b = Text.byte '\'' then do
      let (body, after) ← takeLiteral b rest
      return .text (← decodeLiteral 0 body) :: (← tokens fuel after)
    else if b = 96 then do
      let (body, after) ← Text.cut [96] rest
      return .text body :: (← tokens fuel after)
    else if Text.isDecimal b then do
      let spelling := numberSpelling t
      return (← numberToken spelling) :: (← tokens fuel (t.drop spelling.length))
    else if (Text.ofString "//").isPrefixOf t then
      tokens fuel (t.dropWhile fun b => b ≠ 10)
    else if (Text.ofString "/*").isPrefixOf t then do
      let (_, after) ← Text.cut "*/" (t.drop 2)
      tokens fuel after
    else if word.isEmpty then do
      let mark ← markOf b rest
      return .mark mark :: (← tokens fuel (t.drop mark.length))
    else do
      let after := t.drop word.length
      return (if word ∈ operatorWords then .mark word else .word word) :: (← tokens fuel after)

/-- The operator of a mark. -/
def opOf (t : Text) : Option Op :=
  let table : List (Text × Op) :=
    [("or", .or), ("||", .or), ("and", .and), ("&&", .and), ("==", .equal), ("!=", .unequal),
      ("<", .less), (">", .greater), ("<=", .lessEqual), (">=", .greaterEqual), ("in", .isIn),
      ("matches", .matches), ("contains", .contains), ("startsWith", .startsWith),
      ("endsWith", .endsWith), ("+", .add), ("-", .sub), ("*", .mul), ("/", .div), ("%", .rem),
      ("??", .coalesce)]
  (table.find? fun p => p.1 = t).map (·.2)

/-- Readers of rules. -/
abbrev Parse := StateT (List Token) Option

namespace Parse

/-- Refuses the rule. -/
def refuse {α : Type} : Parse α := fun _ => none

/-- The next token, without taking it. -/
def peek : Parse (Option Token) := do return (← get).head?

/-- Takes the next token. -/
def next : Parse (Option Token) := do
  let ts ← get
  set ts.tail
  return ts.head?

/-- Whether the next token is a mark. -/
def at_ (mark : Text) : Parse Bool := do return (← peek) = some (.mark mark)

/-- Takes a mark, which must come next. -/
def expect (mark : Text) : Parse Unit := do if (← next) ≠ some (.mark mark) then refuse

/-- The operator that comes next and whether a word negates it, with the number of its tokens. -/
def operator? : Parse (Option (Op × Bool × Nat)) := do
  match ← get with
  | .mark m :: rest =>
    if m = ("not" : Text) then
      match rest with
      | .mark m' :: _ => return (opOf m').bind fun op => if op.takesNot then some (op, true, 2) else none
      | _ => return none
    else return (opOf m).map fun op => (op, false, 1)
  | _ => return none

mutual

/-- An expression whose operators bind at least as strongly as a bound. -/
def expression (own : List Text) (bound : Nat) : (fuel : Nat) → Parse Expr
  | 0 => refuse
  | fuel + 1 => do
    let left ← primary own fuel
    let e ← operators own bound left none fuel
    if bound = 0 then conditional own e fuel else return e

/-- The operators after an operand. -/
def operators (own : List Text) (bound : Nat) (left : Expr) (previous : Option Op) :
    (fuel : Nat) → Parse Expr
  | 0 => refuse
  | fuel + 1 => do
    match ← operator? with
    | none => if ← at_ "not" then refuse else return left
    | some (op, negated, count) =>
      if op.strength < bound then return left
      modify (·.drop count)
      if previous = some .coalesce && op ≠ .coalesce then refuse
      if op.isOrder then
        let e ← chain own op left none fuel
        operators own bound e (some op) fuel
      else
        let right ← expression own (op.strength + 1) fuel
        let e := Expr.binary op left right
        operators own bound (if negated then .not e else e) (some op) fuel

/-- A chain of comparisons, each with the operand before it. -/
def chain (own : List Text) (op : Op) (left : Expr) (before : Option Expr) : (fuel : Nat) → Parse Expr
  | 0 => refuse
  | fuel + 1 => do
    let right ← expression own (op.strength + 1) fuel
    let this := Expr.binary op left right
    let e := match before with
      | some b => Expr.binary .and b this
      | none => this
    match ← operator? with
    | some (next, false, _) =>
      if next.isOrder then
        modify (·.drop 1)
        chain own next right (some e) fuel
      else return e
    | _ => return e

/-- The choice after a condition. -/
def conditional (own : List Text) (cond : Expr) : (fuel : Nat) → Parse Expr
  | 0 => refuse
  | fuel + 1 => do
    if !(← at_ "?") then return cond
    expect "?"
    if ← at_ ":" then
      expect ":"
      let no ← expression own 0 fuel
      conditional own (.choose cond cond no) fuel
    else
      let yes ← expression own 0 fuel
      expect ":"
      let no ← expression own 0 fuel
      conditional own (.choose cond yes no) fuel

/-- An operand with the signs before it. -/
def primary (own : List Text) : (fuel : Nat) → Parse Expr
  | 0 => refuse
  | fuel + 1 => do
    match ← next with
    | some (.mark m) =>
      if m = ("not" : Text) ∨ m = ("!" : Text) then
        let e ← expression own 50 fuel
        after own (.not e) fuel
      else if m = ("-" : Text) ∨ m = ("+" : Text) then
        let e ← expression own 90 fuel
        after own (.signed (m = ("-" : Text)) e) fuel
      else if m = ("(" : Text) then
        let e ← expression own 0 fuel
        expect ")"
        after own e fuel
      else if m = ("[" : Text) then
        let items ← list own "]" fuel
        after own (.array items) fuel
      else if m = ("\x7b" : Text) then
        let entries ← entries own fuel
        after own (.record entries) fuel
      else refuse
    | some (.int n) => return .int n
    | some (.float x) => return .float x
    | some (.text t) => after own (.text t) fuel
    | some (.word w) =>
      if w = ("true" : Text) then return .bool true
      else if w = ("false" : Text) then return .bool false
      else if w = ("nil" : Text) then return .nothing
      else if ← at_ "(" then
        expect "("
        let args ← list own ")" fuel
        let e := match (builtins.find? fun b => b.1 = w) with
          | some (_, b) => if w ∈ own then Expr.call w args else .builtin b args
          | none => .call w args
        after own e fuel
      else after own (.name w) fuel
    | none => refuse

/-- What stands behind an operand: members, positions and parts. -/
def after (own : List Text) (e : Expr) : (fuel : Nat) → Parse Expr
  | 0 => refuse
  | fuel + 1 => do
    if ← at_ "." then
      expect "."
      match ← next with
      | some (.word w) =>
        if ← at_ "(" then refuse
        after own (.member e (.text w)) fuel
      | _ => refuse
    else if ← at_ "[" then
      expect "["
      if ← at_ ":" then
        expect ":"
        if ← at_ "]" then
          expect "]"
          after own (.slice e none none) fuel
        else
          let high ← expression own 0 fuel
          expect "]"
          after own (.slice e none (some high)) fuel
      else
        let low ← expression own 0 fuel
        if ← at_ ":" then
          expect ":"
          if ← at_ "]" then
            expect "]"
            after own (.slice e (some low) none) fuel
          else
            let high ← expression own 0 fuel
            expect "]"
            after own (.slice e (some low) (some high)) fuel
        else
          expect "]"
          after own (.member e low) fuel
    else return e

/-- Expressions between commas up to a closing mark. -/
def list (own : List Text) (close : Text) : (fuel : Nat) → Parse (List Expr)
  | 0 => refuse
  | fuel + 1 => do
    if ← at_ close then
      expect close
      return []
    let e ← expression own 0 fuel
    if ← at_ close then
      expect close
      return [e]
    expect ","
    return e :: (← list own close fuel)

/-- Entries of a record up to its closing brace. -/
def entries (own : List Text) : (fuel : Nat) → Parse (List (Expr × Expr))
  | 0 => refuse
  | fuel + 1 => do
    if ← at_ "\x7d" then
      expect "\x7d"
      return []
    let key ← match ← next with
      | some (.text t) => pure (Expr.text t)
      | some (.word w) => pure (Expr.text w)
      | some (.int n) => pure (Expr.text (Text.ofInt n))
      | some (.mark m) =>
        if m = ("(" : Text) then do
          let e ← expression own 0 fuel
          expect ")"
          pure e
        else refuse
      | _ => refuse
    expect ":"
    let value ← expression own 0 fuel
    if ← at_ "\x7d" then
      expect "\x7d"
      return [(key, value)]
    expect ","
    return (key, value) :: (← entries own fuel)

end

end Parse

/-- Reads a rule. Names of its own take precedence over those of functions. -/
def parse? (own : List Text) (t : Text) : Option Expr := do
  let ts ← tokens t.length t
  let (e, rest) ← (Parse.expression own 0 (8 * ts.length + 16)).run ts
  if rest.isEmpty then some e else none

end LogSql.Rule
