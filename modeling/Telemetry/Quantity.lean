import Telemetry.Decimal

/-!
Quantities with a unit: a decimal prefix chosen by magnitude for display, and binary
multiples of bytes on input.
-/

set_option autoImplicit false

namespace Telemetry.Quantity

def prefixes : List (Float × String) :=
  [(1e12, "T"), (1e9, "G"), (1e6, "M"), (1e3, "K"), (1.0, ""),
    (1e-3, "m"), (1e-6, "u"), (1e-9, "n"), (1e-12, "p")]

/-- The largest prefix not above the value, or the smallest of all. -/
def prefixFor (x : Binary64) : Float × String :=
  ((prefixes.find? fun (scale, _) => (Binary64.ofFloat scale).atMost x.abs)).getD (1e-12, "p")

/-- A value to two places with the prefix that fits it; zero and the values that are not
finite take no prefix. -/
def display (x : Option Binary64) (unit : String) : String :=
  match x with
  | none => "None"
  | some x =>
    if x.isZero || !x.isFinite then Decimal.special x ++ " " ++ unit
    else
      let (scale, symbol) := prefixFor x
      Decimal.fixed 2 (x.div (.ofFloat scale)) ++ " " ++ symbol ++ unit

def unitFactor : String → Nat
  | "KiB" => 2 ^ 10
  | "MiB" => 2 ^ 20
  | "GiB" => 2 ^ 30
  | "TiB" => 2 ^ 40
  | _ => 1

def inBaseUnit (value : Binary64) (unit : String) : Binary64 :=
  value.mul (.ofNat (unitFactor unit))

end Telemetry.Quantity
