import Telemetry.Arithmetic

/-!
Instants and spans of time, in whole nanoseconds.

An instant counts from the start of 1970 in universal time and may lie before it; a span
is the length of time between two instants and never negative.
-/

set_option autoImplicit false

namespace Telemetry

abbrev Instant := Int

abbrev Span := Nat

namespace Span

def ofMicros (n : Nat) : Span := n * 1000

def ofMillis (n : Nat) : Span := n * 1000000

def ofSeconds (n : Nat) : Span := n * 1000000000

def inMicros (span : Span) : Nat := span / 1000

def inMillis (span : Span) : Nat := span / 1000000

def inSeconds (span : Span) : Nat := span / 1000000000

end Span

/-- Whole microseconds from one instant to another, cut toward zero, where they fit in a
signed 64-bit number. -/
def microsBetween? (start stop : Instant) : Option Int :=
  let micros := (stop - start).tdiv 1000
  if -2 ^ 63 ≤ micros ∧ micros < 2 ^ 63 then some micros else none

def millisBetween (start stop : Instant) : Int := (stop - start).tdiv 1000000

def latest (before : Option Instant) (now : Instant) : Instant :=
  match before with
  | none => now
  | some before => max before now

end Telemetry
