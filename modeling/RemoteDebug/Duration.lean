import RemoteDebug.Text.Blank

/-!
# Spans of time

A span is a whole number of nanoseconds. It is written in the largest of the units s, ms, µs and
ns in which it is at least one, with as many decimals as are not trailing zeros.
-/

namespace RemoteDebug

/-- A span of time. -/
structure Duration where
  nanoseconds : Nat
deriving DecidableEq, Repr

namespace Duration

/-- A span of whole milliseconds. -/
def ofMilliseconds (count : Nat) : Duration :=
  ⟨count * 1000000⟩

/-- The whole milliseconds of a span. -/
def inMilliseconds (span : Duration) : Nat :=
  span.nanoseconds / 1000000

/-- A number of units of ten to the power `places`, in decimals without trailing zeros. -/
def decimal (value places : Nat) : String :=
  let fraction := Text.dropEndWhile (· == '0')
    ((Nat.toDigits 10 (value % Nat.pow 10 places)).leftpad places '0')
  let whole := toString (value / Nat.pow 10 places)
  if fraction.isEmpty then whole else whole ++ "." ++ String.ofList fraction

/-- A span in the largest unit that it reaches. -/
def text (span : Duration) : String :=
  if 1000000000 ≤ span.nanoseconds then decimal span.nanoseconds 9 ++ "s"
  else if 1000000 ≤ span.nanoseconds then decimal span.nanoseconds 6 ++ "ms"
  else if 1000 ≤ span.nanoseconds then decimal span.nanoseconds 3 ++ "µs"
  else decimal span.nanoseconds 0 ++ "ns"

end Duration

end RemoteDebug
