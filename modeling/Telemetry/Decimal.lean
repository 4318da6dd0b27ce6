import Telemetry.Binary64

/-!
Decimal text of doubles: with a fixed number of places, rounded from the exact value, and the
shortest decimal that reads back as the same double.

For the latter, of the decimals with a given number of digits the two around the value are tried, on
the coarsest grid that has one which rounds to the value; of two the nearer wins.
-/

set_option autoImplicit false

namespace Telemetry.Decimal

/-- Digits of a natural number, filled up with zeros to a least width. -/
def digits (width n : Nat) : List Char :=
  let shown := (Nat.toDigits 10 n)
  List.replicate (width - shown.length) '0' ++ shown

/-- A finite value with the given places; a half goes to the even neighbour. -/
def fixed (places : Nat) (x : Binary64) : String :=
  let (num, den) := x.ratio
  let units := roundDiv (num * 10 ^ places) den
  let whole := Nat.toDigits 10 (units / 10 ^ places)
  let part := digits places (units % 10 ^ places)
  String.ofList ((if x.negative then ['-'] else []) ++ whole ++ ['.'] ++ part)

def special (x : Binary64) : String :=
  if x.isNaN then "NaN"
  else (if x.negative then "-" else "") ++ (if x.isFinite then "0" else "inf")

def display (places : Nat) (x : Binary64) : String :=
  if x.isFinite then fixed places x else special x

/-! ### Shortest decimals -/

/-- What rounds to a value: quarters of the last place below and above four times the
significand, and whether the ends belong to it. -/
structure Interval where
  low : Nat
  middle : Nat
  high : Nat
  closed : Bool

def intervalOf (x : Binary64) : Interval where
  low := 4 * x.significand - (if x.fractionField = 0 ∧ 1 < x.exponentField then 1 else 2)
  middle := 4 * x.significand
  high := 4 * x.significand + 2
  closed := x.significand % 2 = 0

/-- Numerator and denominator of quarters of the last place, in units of a power of ten. -/
def unitsOf (x : Binary64) (power : Int) : Nat × Nat :=
  let num := if 1076 ≤ x.scale then 2 ^ (x.scale - 1076) else 1
  let den := if 1076 ≤ x.scale then 1 else 2 ^ (1076 - x.scale)
  if 0 ≤ power then (num, den * 10 ^ power.natAbs) else (num * 10 ^ power.natAbs, den)

/-- The best multiple of a power of ten that rounds to the value. -/
def onGrid? (x : Binary64) (power : Int) : Option Nat :=
  let interval := intervalOf x
  let (num, den) := unitsOf x power
  let hits (n : Nat) : Bool :=
    let scaled := n * den
    if interval.closed then interval.low * num ≤ scaled && scaled ≤ interval.high * num
    else interval.low * num < scaled && scaled < interval.high * num
  let below := interval.middle * num / den
  let lower := interval.middle * num - below * den
  let upper := (below + 1) * den - interval.middle * num
  match hits below, hits (below + 1) with
  | true, true =>
    if lower < upper ∨ (lower = upper ∧ below % 2 = 0) then some below else some (below + 1)
  | true, false => some below
  | false, true => some (below + 1)
  | false, false => none

def powerAbove (x : Binary64) : Int :=
  let (num, den) := x.ratio
  (((num.log2 : Int) - den.log2 + 1) * 30103).fdiv 100000 + 1

/-- Digits and power of ten of a positive finite value. -/
def shortest (x : Binary64) : Nat × Int :=
  -- The coarsest grid that has a value reading back gives the fewest digits.
  ((List.range 22).findSome? fun (step : Nat) =>
    let power : Int := powerAbove x - step
    (onGrid? x power).map fun n => (n, power)).getD (0, 0)

def zeros (n : Nat) : List Char := List.replicate n '0'

/-- Digits with a power of ten: positional up to sixteen places before the point and five
behind it, otherwise with an exponent. -/
def positional (ds : List Char) (power : Int) : List Char :=
  let place := (ds.length : Int) + power
  if 0 ≤ power ∧ place ≤ 16 then ds ++ zeros power.toNat ++ ['.', '0']
  else if 0 < place ∧ place ≤ 16 then ds.take place.toNat ++ ['.'] ++ ds.drop place.toNat
  else if -5 < place ∧ place ≤ 0 then ['0', '.'] ++ zeros (-place).toNat ++ ds
  else
    let mantissa := match ds with
      | [] => []
      | [d] => [d]
      | d :: rest => d :: '.' :: rest
    mantissa ++ ['e'] ++ (toString (place - 1)).toList

def text (x : Binary64) : String :=
  let body :=
    if x.isZero then ['0', '.', '0']
    else
      let (n, power) := shortest x
      positional (Nat.toDigits 10 n) power
  String.ofList ((if x.negative then ['-'] else []) ++ body)

end Telemetry.Decimal
