/-
Spans of time.

Everything the program waits for is configured in whole seconds or whole
milliseconds, so a millisecond is the unit of both spans and points in time; a point
in time counts from the start of the operation.

Messages write a span in the largest unit of which it has a whole part, with the
fraction that is left and no zeros behind it.  Reports write seconds with nine
decimals.
-/
import QuorumVault.Powers

namespace QuorumVault

/-- A span of time, in milliseconds. -/
abbrev Duration := Nat

/-- A point in time, in milliseconds since the operation began. -/
abbrev Time := Nat

namespace Duration

/-- A span of whole seconds. -/
def seconds (n : Nat) : Duration :=
  n * 1000

/-- The longest span there is: its whole seconds fill 64 bits. -/
def maxSeconds : Nat :=
  2 ^ 64 - 1

/-- The longest pause that anyone makes: thirty years of 365 days. -/
def longestPause : Duration :=
  seconds (30 * 365 * 24 * 60 * 60)

/-- A span as a pause: no longer than the longest one. -/
def pause (d : Duration) : Duration :=
  min d longestPause

/-- A number below a thousand with three digits. -/
def threeDigits (n : Nat) : List Char :=
  [Char.ofNat (48 + n / 100), Char.ofNat (48 + n / 10 % 10), Char.ofNat (48 + n % 10)]

/-- Thousandths behind a point, without the zeros at the end; nothing for none. -/
def fraction (thousandths : Nat) : String :=
  let digits := ((threeDigits thousandths).reverse.dropWhile (· == '0')).reverse
  if digits.isEmpty then "" else String.ofList ('.' :: digits)

/-- A span as messages write it. -/
def describe (d : Duration) : String :=
  if 1000 ≤ d then toString (d / 1000) ++ fraction (d % 1000) ++ "s"
  else if 0 < d then toString d ++ "ms"
  else "0ns"

/-- A span as reports write it: seconds with nine decimals. -/
def decimal (d : Duration) : String :=
  toString (d / 1000) ++ "." ++ String.ofList (threeDigits (d % 1000)) ++ "000000"

end Duration

end QuorumVault
