import Telemetry.Arithmetic

/-!
Double-precision values, kept as their sixty-four bits.

The bits tell every two values apart, the signs of zero and of not-a-number included, so
equality and the total order are decidable. The exact rational behind a finite value is
available for reading and printing; arithmetic goes through `Float`.
-/

set_option autoImplicit false

namespace Telemetry

structure Binary64 where
  bits : UInt64
  deriving DecidableEq

namespace Binary64

def ofFloat (x : Float) : Binary64 := ⟨x.toBits⟩

def toFloat (x : Binary64) : Float := Float.ofBits x.bits

def zero : Binary64 := ⟨0⟩

def infinity : Binary64 := ⟨0x7FF0000000000000⟩

def negative (x : Binary64) : Bool := x.bits.toNat / 2 ^ 63 = 1

def exponentField (x : Binary64) : Nat := x.bits.toNat / 2 ^ 52 % 2 ^ 11

def fractionField (x : Binary64) : Nat := x.bits.toNat % 2 ^ 52

def isFinite (x : Binary64) : Bool := x.exponentField ≠ 2047

def isNaN (x : Binary64) : Bool := x.exponentField = 2047 ∧ x.fractionField ≠ 0

def isZero (x : Binary64) : Bool := x.exponentField = 0 ∧ x.fractionField = 0

/-- A finite value is `significand * 2 ^ (scale - 1074)`, up to its sign. -/
def significand (x : Binary64) : Nat :=
  if x.exponentField = 0 then x.fractionField else 2 ^ 52 + x.fractionField

def scale (x : Binary64) : Nat := x.exponentField - 1

/-- Numerator and denominator of the magnitude of a finite value. -/
def ratio (x : Binary64) : Nat × Nat :=
  if 1074 ≤ x.scale then (x.significand * 2 ^ (x.scale - 1074), 1)
  else (x.significand, 2 ^ (1074 - x.scale))

/-- The finite value nearest to a quotient, or infinity where that is too large. -/
def nearest (num den : Nat) : Binary64 :=
  if num = 0 then zero else
    let top : Int := (num.log2 : Int) - den.log2
    let coarse := (top - 52 + 1074).toNat
    let graduated (scale : Nat) : Nat × Nat :=
      if 1074 ≤ scale then (num, den * 2 ^ (scale - 1074)) else (num * 2 ^ (1074 - scale), den)
    let (n, d) := graduated coarse
    let scale := if n / d < 2 ^ 52 then coarse - 1 else coarse
    let (n, d) := graduated scale
    let bits := scale * 2 ^ 52 + roundDiv n d
    if bits < infinity.bits.toNat then ⟨UInt64.ofNat bits⟩ else infinity

def ofNat (n : Nat) : Binary64 := nearest n 1

def neg (x : Binary64) : Binary64 := ⟨x.bits ^^^ 0x8000000000000000⟩

def ofInt (n : Int) : Binary64 := if n < 0 then (ofNat n.natAbs).neg else ofNat n.natAbs

def abs (x : Binary64) : Binary64 := if x.negative then x.neg else x

def add (x y : Binary64) : Binary64 := ofFloat (x.toFloat + y.toFloat)

def mul (x y : Binary64) : Binary64 := ofFloat (x.toFloat * y.toFloat)

def div (x y : Binary64) : Binary64 := ofFloat (x.toFloat / y.toFloat)

/-- The order of the totally ordered values: negative before positive, by magnitude, with
every not-a-number beyond the infinity of its sign. -/
def rank (x : Binary64) : Int :=
  if x.negative then 2 ^ 63 - 1 - (x.bits.toNat : Int) else x.bits.toNat

theorem rank_injective {x y : Binary64} (same : x.rank = y.rank) : x = y := by
  obtain ⟨x⟩ := x
  obtain ⟨y⟩ := y
  have hx := x.toNat_lt
  have hy := y.toNat_lt
  congr 1
  apply UInt64.toNat_inj.1
  simp only [rank, negative, decide_eq_true_eq] at same
  split at same <;> split at same <;> omega

def atMost (x y : Binary64) : Bool := x.toFloat ≤ y.toFloat

/-- The nearest natural number, a half rounded up; zero for anything negative and for
not-a-number, the largest 64-bit number where the value is larger. -/
def toCount (x : Binary64) : Nat :=
  if x.isNaN || x.negative then 0
  else if x.isFinite then min ((2 * x.ratio.1 + x.ratio.2) / (2 * x.ratio.2)) (2 ^ 64 - 1)
  else 2 ^ 64 - 1

end Binary64

end Telemetry
