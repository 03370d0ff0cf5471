/-!
# Spans of time

A span is a whole number of nanoseconds. Its text names the largest unit of which it holds at least
one, with the digits of the rest after a point and no zeros at the end.
-/

namespace ControlPlane

structure Span where
  nanos : Nat
  deriving DecidableEq, Repr, Inhabited

namespace Span

def zero : Span := ⟨0⟩

def ofMillis (millis : Nat) : Span := ⟨millis * 1000000⟩

def ofSeconds (seconds : Nat) : Span := ⟨seconds * 1000000000⟩

/-- Whole milliseconds, the rest dropped. -/
def millis (span : Span) : Nat := span.nanos / 1000000

/-- A whole number of units and the rest, where `width` digits count up to one unit. -/
def unitText (whole rest width : Nat) (unit : String) : String :=
  let digits := Nat.toDigits 10 rest
  let padded := List.replicate (width - digits.length) '0' ++ digits
  let fraction := (padded.reverse.dropWhile (· = '0')).reverse
  toString whole ++ (if fraction.isEmpty then "" else "." ++ String.ofList fraction) ++ unit

def text (span : Span) : String :=
  let n := span.nanos
  if 1000000000 ≤ n then unitText (n / 1000000000) (n % 1000000000) 9 "s"
  else if 1000000 ≤ n then unitText (n / 1000000) (n % 1000000) 6 "ms"
  else if 1000 ≤ n then unitText (n / 1000) (n % 1000) 3 "µs"
  else unitText n 0 0 "ns"

end Span

end ControlPlane
