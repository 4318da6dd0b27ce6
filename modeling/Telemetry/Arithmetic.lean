/-!
Powers and sums as the core library has them, rounded quotients, and arithmetic in 64 bits.

Algebraic structures bring powers and sums of their own. Where both are in scope, those of the
core library are meant: they are the ones that run.
-/

set_option autoImplicit false

attribute [instance (high)] instPowNat instAddNat Zero.ofOfNat0
attribute [default_instance (high + 1)] instPowNat

namespace Telemetry

/-- The integer nearest to a quotient; a half goes to the even neighbour. -/
def roundDiv (num den : Nat) : Nat :=
  let floor := num / den
  let rest := 2 * (num % den)
  if den < rest ∨ (rest = den ∧ floor % 2 = 1) then floor + 1 else floor

/-- None where the sum leaves 64 bits. -/
def add64? (a b : Nat) : Option Nat := if a + b < 2 ^ 64 then some (a + b) else none

def mul64? (a b : Nat) : Option Nat := if a * b < 2 ^ 64 then some (a * b) else none

def sum64? (amounts : List Nat) : Option Nat := amounts.foldlM add64? 0

end Telemetry
