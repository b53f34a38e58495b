import LogSql.Http.Message
import LogSql.Net.Address

/-!
Who a request comes from, and how many requests each client may make.
-/
namespace LogSql.Http

/-- The client of a request: the first address that a proxy has recorded, or else that of the
connection. -/
def Request.client (r : Request) : Text :=
  let forwarded := r.header "X-Forwarded-For"
  let real := r.header "X-Real-IP"
  if !forwarded.isEmpty then
    let first := Text.trim ((Text.splitByte (Text.byte ',') forwarded).headD [])
    (Address.host? first).getD first
  else if !real.isEmpty then real
  else (Address.host? r.remote).getD r.remote

/-- How many requests each client has made out of its allowance. -/
structure Limiter where
  allowance : Int
  used : List (Text × Nat) := []

namespace Limiter

/-- A limiter for a number of requests each minute; without a positive burst that number can also be
made at once. -/
def create (perMinute burst : Int) : Limiter := { allowance := if 0 < burst then burst else perMinute }

/-- The requests of a client so far. -/
def count (l : Limiter) (client : Text) : Nat := ((l.used.find? fun u => u.1 = client).map (·.2)).getD 0

/-- Lets a client make a request, unless its allowance is used up. -/
def allow (l : Limiter) (client : Text) : Bool × Limiter :=
  let n := l.count client
  if (n : Int) < l.allowance then
    (true, { l with used := (client, n + 1) :: l.used.filter fun u => u.1 ≠ client })
  else (false, l)

end Limiter
end LogSql.Http
