/-!
# Durations

Spans of time with a resolution of one nanosecond, and their text: a whole number of the
largest unit that fits into the span, the rest as a fraction without trailing zeros.

## Main definitions

* `Duration` : a number of nanoseconds.
* `Duration.ofMillis`
* `Duration.text` : `10s`, `1.5s`, `20ms`, `1.001µs`, `0ns`.
-/

namespace CacheCluster

/-- A span of time. -/
structure Duration where
  nanoseconds : Nat
  deriving DecidableEq, Repr

namespace Duration

/-- A number of milliseconds. -/
def ofMillis (n : Nat) : Duration := ⟨n * 1000000⟩

/-- The `width` digits of a fraction, without its trailing zeros. -/
def fractionDigits (width n : Nat) : List Char :=
  let digits := Nat.toDigits 10 n
  let padded := List.replicate (width - digits.length) '0' ++ digits
  (padded.reverse.dropWhile (· == '0')).reverse

/-- A span in units of `10 ^ width` nanoseconds. -/
def inUnit (width : Nat) (unit : String) (n : Nat) : String :=
  let fraction := fractionDigits width (n % Nat.pow 10 width)
  toString (n / Nat.pow 10 width) ++
    (if fraction.isEmpty then "" else "." ++ String.ofList fraction) ++ unit

/-- The text of a span of time. -/
def text (d : Duration) : String :=
  let n := d.nanoseconds
  if 1000000000 ≤ n then inUnit 9 "s" n
  else if 1000000 ≤ n then inUnit 6 "ms" n
  else if 1000 ≤ n then inUnit 3 "µs" n
  else inUnit 0 "ns" n

end Duration

end CacheCluster
