import LogSql.Text.Quoted

/-!
Tokens of the query language, with the places where they stand.
-/
namespace LogSql.Query

/-- The lexical classes. -/
inductive TokenKind where
  | illegal | eof | identifier | string | number | duration | bytes
  | leftBrace | rightBrace | leftParen | rightParen | leftBracket | rightBracket | comma
  | pipe | pipeExact | pipeMatch | equal | equalEqual | notEqual | match_ | notMatch
  | greater | greaterEqual | less | lessEqual
  deriving DecidableEq, Repr

namespace TokenKind

/-- All classes in their numbering. -/
def all : List TokenKind :=
  [illegal, eof, identifier, string, number, duration, bytes,
   leftBrace, rightBrace, leftParen, rightParen, leftBracket, rightBracket, comma,
   pipe, pipeExact, pipeMatch, equal, equalEqual, notEqual, match_, notMatch,
   greater, greaterEqual, less, lessEqual]

/-- The name of a class: for punctuation its spelling. -/
def name : TokenKind → Text
  | illegal => "ILLEGAL"
  | eof => "EOF"
  | identifier => "identifier"
  | string => "string"
  | number => "number"
  | duration => "duration"
  | bytes => "bytes"
  | leftBrace => "\x7b"
  | rightBrace => "\x7d"
  | leftParen => "("
  | rightParen => ")"
  | leftBracket => "["
  | rightBracket => "]"
  | comma => ","
  | pipe => "|"
  | pipeExact => "|="
  | pipeMatch => "|~"
  | equal => "="
  | equalEqual => "=="
  | notEqual => "!="
  | match_ => "=~"
  | notMatch => "!~"
  | greater => ">"
  | greaterEqual => ">="
  | less => "<"
  | lessEqual => "<="

/-- The name of the class with a given number; other numbers have a made-up name. -/
def nameAt (n : Int) : Text :=
  match n with
  | .ofNat k =>
    match all[k]? with
    | some kind => kind.name
    | none => "token(" ++ Text.ofInt n ++ ")"
  | .negSucc _ => "token(" ++ Text.ofInt n ++ ")"

end TokenKind

/-- A place in a text: the line from one on, and the column of the last character up to there. -/
structure Position where
  line : Nat
  column : Nat
  deriving DecidableEq, Repr

namespace Position

/-- Before the first character. -/
def start : Position := ⟨1, 0⟩

/-- The place of a character that follows this one. -/
def after (p : Position) (c : Char) : Position :=
  if c = '\n' then ⟨p.line + 1, 0⟩ else ⟨p.line, p.column + 1⟩

end Position

/-- A token. The literal of a string is the text it stands for, of every other token its
spelling. -/
structure Token where
  kind : TokenKind
  literal : Text
  pos : Position
  deriving DecidableEq, Repr

namespace Token

/-- A token as error messages name it. -/
def describe (t : Token) : Text :=
  match t.kind with
  | .eof => "end of query"
  | .string => "string"
  | .identifier | .number | .duration | .bytes => t.kind.name ++ " " ++ Text.quote t.literal
  | kind => Text.quote kind.name

end Token

/-- What is wrong with a query text at some place. -/
inductive Problem where
  | unexpectedCharacter (c : Char)
  | unterminatedString
  | unterminatedRawString
  | badStringLiteral
  | expected (kind : TokenKind) (got : Token)
  | unexpected (got : Token)
  | unexpectedStage (got : Token)
  | misplacedUnwrap
  | nestedTooDeeply
  | notAMatcher (got : Token)
  | notAFormatSource (got : Token)
  | notAFilterOperator (got : Token)
  | notAFilterValue (got : Token)
  | badDuration (literal : Text)
  | patternNotString
  | notAQuery (got : Token)
  | unknownFunction (name : Text)
  | notARange (function : Text) (got : Token)
  | nestedRanking (inner outer : Text)
  | badNumber (literal : Text)
  | badRange (literal : Text)
  | needsUnwrap (function : Text)
  | refusesUnwrap (function : Text)
  deriving DecidableEq, Repr

namespace Problem

/-- The problem in words. -/
def message : Problem → Text
  | unexpectedCharacter c => "unexpected character " ++ Text.quoteChar c
  | unterminatedString => "unterminated string"
  | unterminatedRawString => "unterminated raw string"
  | badStringLiteral => "invalid string literal: invalid syntax"
  | expected kind got => "expected " ++ kind.name ++ ", got " ++ got.describe
  | unexpected got => "unexpected " ++ got.describe
  | unexpectedStage got => "unexpected " ++ got.describe ++ " after |"
  | misplacedUnwrap => "unwrap is only allowed inside a range aggregation"
  | nestedTooDeeply => "expression nested too deeply"
  | notAMatcher got => "expected label matcher operator, got " ++ got.describe
  | notAFormatSource got => "expected label or template, got " ++ got.describe
  | notAFilterOperator got => "expected label filter operator, got " ++ got.describe
  | notAFilterValue got => "expected label filter value, got " ++ got.describe
  | badDuration t => "invalid duration " ++ Text.quote t
  | patternNotString => "regular expression must be a string"
  | notAQuery got => "expected stream selector or aggregation, got " ++ got.describe
  | unknownFunction f => "unknown function " ++ Text.quote f
  | notARange f got => f ++ " expects a range aggregation, got " ++ got.describe
  | nestedRanking inner outer => inner ++ " cannot be nested inside " ++ outer
  | badNumber t => "invalid number " ++ Text.quote t
  | badRange t => "invalid range duration " ++ Text.quote t
  | needsUnwrap f => f ++ " requires an unwrap expression"
  | refusesUnwrap f => f ++ " does not accept an unwrap expression"

end Problem

/-- Why a text is not a query. -/
inductive Error where
  | blank
  | at_ (pos : Position) (problem : Problem)
  deriving DecidableEq, Repr

namespace Error

/-- The error in words; a place before the first column of a line is left out. -/
def message : Error → Text
  | blank => "empty query"
  | at_ pos problem =>
    if 0 < pos.line ∧ 0 < pos.column then
      "line " ++ Text.ofNat pos.line ++ ", column " ++ Text.ofNat pos.column ++ ": " ++
        problem.message
    else problem.message

end Error
end LogSql.Query
