import LogSql.Macro.Basic
import LogSql.Number.Size
import LogSql.Pattern.Regex
import LogSql.Query.Token
import LogSql.Sql.Clause
import LogSql.Time.Duration

/-!
Why a request has no statement. Every cause belongs to a class that callers act on: the request is
wrong, it asks for something its shape does not allow, or the compiler has no handler for a symbol.
-/
namespace LogSql.Compile

/-- What callers can do about an error. -/
inductive ErrorClass where
  | badRequest
  | unsupported
  | lookupFailed
  deriving DecidableEq, Repr

/-- Why a value of a label filter cannot be read. -/
inductive FilterValueError where
  | number (text : Text) (r : Number.Refusal)
  | duration (e : Duration.ClockError)
  | size (e : Number.SizeError)
  deriving DecidableEq, Repr

/-- Why a request has no statement. -/
inductive Error where
  | unreadable (e : Query.Error)
  | expansion (macroName : Text) (e : ExpansionError)
  | expansionTooDeep (limit : Nat)
  /-- A construct that the shape of the request does not allow. -/
  | notSupported (construct : Text)
  | notInTail (construct : Text)
  | pipelineBeforeValue (construct : Text)
  | unwrapOnClient (construct : Text)
  /-- A symbol that a registry does not have. -/
  | notImplemented (registry key : Text)
  | endBeforeStart
  | noRange (construct : Text)
  | badDuration (text : Text) (e : Duration.RangeError)
  | durationTooShort (text : Text)
  | badStep (text : Text) (e : Option Duration.RangeError)
  | notASelector
  | badPattern (text : Text) (e : Pattern.Error)
  | badNumber (text : Text) (r : Number.Refusal)
  | emptyFilter
  | needsNumber (operator : Text)
  | badFilterDuration (e : Duration.ClockError)
  | badFilterSize (e : Number.SizeError)
  | badFilterValue (e : FilterValueError)
  | noFilterValue (label : Text)
  | badPath (path : Text) (r : Option Number.Refusal)
  | noNamedGroup (pattern : Text)
  | badLineTemplate
  | missingUnwrap
  | notPositive (function : Text)
  | badQuantile
  /-- The statement has no stream selection to add a condition to. -/
  | noStreamSelection
  | noBaseSelection
  | inMatch (index : Nat) (e : Error)
  | series (e : Sql.Clause.Error)
  deriving DecidableEq, Repr

/-- A message with a cause behind it. -/
def because (message cause : Text) : Text := .concat [message, ": ", cause]

/-- A message with a cause behind it, if there is one. -/
def becauseOpt (message : Text) : Option Text → Text
  | some cause => because message cause
  | none => message

/-- What is wrong with a number in a query. -/
def badNumberText (text : Text) (r : Number.Refusal) : Text :=
  because ("invalid number " ++ Text.quote text) r.message

/-- The error in words. -/
def FilterValueError.message : FilterValueError → Text
  | number text r => badNumberText text r
  | duration e => e.message
  | size e => e.message

namespace Error

/-- The class of an error; errors of the statement itself have none. -/
def class? : Error → Option ErrorClass
  | notSupported _ | notInTail _ | pipelineBeforeValue _ | unwrapOnClient _ => some .unsupported
  | notImplemented _ _ => some .lookupFailed
  | noStreamSelection | noBaseSelection | series _ => none
  | inMatch _ e => e.class?
  | _ => some .badRequest

/-- The grammar rule or symbol at fault. -/
def construct : Error → Text
  | notSupported c | notInTail c | pipelineBeforeValue c | unwrapOnClient c => c
  | notImplemented _ key => key
  | inMatch _ e => e.construct
  | _ => []

/-- The error in words. -/
def message : Error → Text
  | unreadable e => because "invalid request" e.message
  | expansion name e => because ("macro " ++ name) e.message
  | expansionTooDeep limit =>
    .concat ["macro: expansion nested deeper than ", Text.ofNat limit, " levels"]
  | notSupported c => c ++ " is not supported"
  | notInTail c => c ++ " is not supported. Only raw logs are supported"
  | pipelineBeforeValue _ => "log pipeline is not supported with unwrap_value"
  | unwrapOnClient _ => "unwrap is not supported after a client-side line_format"
  | notImplemented registry key => .concat [registry, " ", Text.quote key, " not implemented"]
  | endBeforeStart => "end is before start"
  | noRange c => c ++ " has no range duration"
  | badDuration t e => because ("invalid duration " ++ Text.quote t) e.message
  | durationTooShort t => .concat ["duration ", Text.quote t, " must be at least 1ms"]
  | badStep t e => becauseOpt ("invalid step " ++ Text.quote t) (e.map (·.message))
  | notASelector => "series match must be a stream selector"
  | badPattern t e => because ("invalid regular expression " ++ Text.quote t) e.message
  | badNumber t r => badNumberText t r
  | emptyFilter => "empty label filter"
  | needsNumber op => .concat ["operator ", op, " requires a numeric value"]
  | badFilterDuration e => because "invalid duration" e.message
  | badFilterSize e => because "invalid size" e.message
  | badFilterValue e => because "invalid label filter value" e.message
  | noFilterValue label => .concat ["label filter on ", label, " has no value"]
  | badPath path r => becauseOpt ("invalid json path " ++ Text.quote path) (r.map (·.message))
  | noNamedGroup pattern =>
    .concat ["regexp parser ", Text.quote pattern, " has no named capture group"]
  | badLineTemplate => "invalid line_format template: parse line template: malformed template"
  | missingUnwrap => "missing unwrap expression"
  | notPositive function => function ++ " parameter must be a positive integer"
  | badQuantile => "quantile must be between 0 and 1"
  | noStreamSelection => "stream selection is missing from the query"
  | noBaseSelection => "stream selection is missing from the base query"
  | inMatch i e => .concat ["match[", Text.ofNat i, "]: ", e.message]
  | series e => because "render series" e.message

/-- The error itself, without the place in a list where it arose. -/
def cause : Error → Error
  | inMatch _ e => e.cause
  | e => e

end Error
end LogSql.Compile
