import WhipWhep.Text.Blank
import WhipWhep.Text.Decimal

/-!
A span of time is a number of nanoseconds. Its text uses the largest of the units s, ms, µs and ns
that it reaches, and as many places after the point as are needed to lose nothing.
-/

namespace WhipWhep.Text

/-- A number of units, each worth 10 to the power of `places` nanoseconds. -/
def inUnit (places : Nat) (unit : String) (nanoseconds : Nat) : String :=
  let whole := nanoseconds / Nat.pow 10 places
  let rest := nanoseconds % Nat.pow 10 places
  let fraction := dropEndWhile (· == '0') (padDecimal places rest)
  let point := if rest = 0 then [] else '.' :: fraction
  String.ofList (writeDecimal whole ++ point) ++ unit

def duration (nanoseconds : Nat) : String :=
  if 1_000_000_000 ≤ nanoseconds then inUnit 9 "s" nanoseconds
  else if 1_000_000 ≤ nanoseconds then inUnit 6 "ms" nanoseconds
  else if 1_000 ≤ nanoseconds then inUnit 3 "µs" nanoseconds
  else inUnit 0 "ns" nanoseconds

example : duration 1500 = "1.5µs" := by decide +kernel
example : duration 1000000001 = "1.000000001s" := by decide +kernel
example : duration 20000000 = "20ms" := by decide +kernel

end WhipWhep.Text
