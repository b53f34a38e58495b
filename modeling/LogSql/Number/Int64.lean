/-!
Sixty-four bit integers as they appear in requests: time stamps, limits and durations. Values are
`Int`s within the range; arithmetic that may leave it wraps around.
-/
namespace LogSql.Int64Range

/-- The least value. -/
def least : Int := -9223372036854775808

/-- The greatest value. -/
def greatest : Int := 9223372036854775807

/-- Whether the integer is in range. -/
def fits (n : Int) : Bool := least ≤ n && n ≤ greatest

/-- The value in range that differs from `n` by a multiple of 2^64. -/
def wrap (n : Int) : Int := Int.bmod n 18446744073709551616

end LogSql.Int64Range
