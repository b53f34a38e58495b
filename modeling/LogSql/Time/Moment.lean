import LogSql.Number.Read
import LogSql.Time.Instant

/-!
Moments in requests, in milliseconds. An integer of up to ten digits counts seconds and a longer one
nanoseconds; a decimal counts seconds; anything else is in calendar notation.
-/
namespace LogSql.Moment

/-- Reads a moment; an empty text stands for none, which is zero. -/
def read? (t : Text) : Option Int :=
  if t.isEmpty then some 0
  else match Number.readInt t with
    | .ok n =>
      if ((Text.stripStart "-" t).getD t).length ≤ 10 then some (Int64Range.wrap (n * 1000))
      else some (n.tdiv 1000000)
    | .error _ =>
      match Number.readFloat t with
      | .ok x => some (x.mul (Binary64.ofInt 1000)).toInt64
      | .error _ => (Instant.read? t).map Instant.millis

/-- What is said about a text that is no moment. -/
def refusal (t : Text) : Text :=
  .concat ["invalid time ", Text.quote t, " (use RFC3339, Unix seconds or nanoseconds)"]

end LogSql.Moment
