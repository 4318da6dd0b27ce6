import Telemetry.Time

/-!
A limiter for diagnostics: one event for each interval, no bursts, and a count of the
events held back in between.
-/

set_option autoImplicit false

namespace Telemetry

structure Limiter where
  interval : Span
  lastAllowed : Option Instant := none
  suppressed : Nat := 0
  deriving DecidableEq

namespace Limiter

def allows (limiter : Limiter) (now : Instant) : Bool :=
  match limiter.lastAllowed with
  | none => true
  | some last => (limiter.interval : Int) ≤ now - last

/-- Ask to act now; a refusal is counted. -/
def check (limiter : Limiter) (now : Instant) : Bool × Limiter :=
  if limiter.allows now then (true, { limiter with lastAllowed := some now })
  else (false, { limiter with suppressed := limiter.suppressed + 1 })

/-- Ask to act now; permission comes with the number of refusals not yet reported. -/
def take (limiter : Limiter) (now : Instant) : Option Nat × Limiter :=
  match limiter.check now with
  | (true, limiter) => (some limiter.suppressed, { limiter with suppressed := 0 })
  | (false, limiter) => (none, limiter)

end Limiter

end Telemetry
