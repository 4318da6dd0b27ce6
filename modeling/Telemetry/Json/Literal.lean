import Telemetry.Json

/-!
Spellings of strings and numbers, and what they stand for.

A string is spelled by characters and by escapes that name sixteen-bit units; two units may
together name one character. A number is read as a significand of at most 64 bits and a
power of ten; the two are joined in double precision, and digits beyond the significand
only count.
-/

set_option autoImplicit false

namespace Telemetry.Json

inductive Piece where
  | char (value : Char)
  | unit (value : Nat)
  deriving DecidableEq

abbrev Spelling := List Piece

def charOfUnit? (unit : Nat) : Option Char :=
  if unit < 0xD800 ∨ 0xDFFF < unit then some (Char.ofNat unit) else none

def charOfPair? (leading trailing : Nat) : Option Char :=
  if 0xD800 ≤ leading ∧ leading < 0xDC00 ∧ 0xDC00 ≤ trailing ∧ trailing < 0xE000 then
    some (Char.ofNat (0x10000 + (leading - 0xD800) * 0x400 + (trailing - 0xDC00)))
  else none

/-- Half a pair on its own stands for nothing. -/
def Spelling.chars? : Spelling → Option (List Char)
  | [] => some []
  | .char c :: rest => (chars? rest).map (c :: ·)
  | .unit leading :: .unit trailing :: rest =>
    match charOfUnit? leading, charOfPair? leading trailing with
    | some c, _ => (chars? (.unit trailing :: rest)).map (c :: ·)
    | none, some c => (chars? rest).map (c :: ·)
    | none, none => none
  | .unit u :: rest => do
    let c ← charOfUnit? u
    let rest ← chars? rest
    return c :: rest

def Spelling.text? (spelling : Spelling) : Option String := spelling.chars?.map String.ofList

structure Literal where
  negative : Bool
  whole : List Nat
  fraction : List Nat
  exponent : Option Int
  deriving DecidableEq

def powerOfTen (n : Nat) : Binary64 := .nearest (10 ^ n) 1

/-- Divide by a power of ten in steps that double precision can hold. -/
def divideByPower (x : Binary64) (n : Nat) : Binary64 :=
  if n ≤ 308 then x.div (powerOfTen n)
  else if x.isZero then x
  else divideByPower (x.div (powerOfTen 308)) (n - 308)
termination_by n

def scaled? (significand : Nat) (exponent : Int) : Option Binary64 :=
  let x := Binary64.ofNat significand
  if exponent < 0 then some (divideByPower x exponent.natAbs)
  else if x.isZero then some x
  else if 308 < exponent then none
  else
    let product := x.mul (powerOfTen exponent.toNat)
    if product.isFinite then some product else none

/-- Take in digits while the significand stays within 64 bits. -/
def absorb (significand : Nat) : List Nat → Nat × List Nat
  | [] => (significand, [])
  | digit :: rest =>
    if significand * 10 + digit < 2 ^ 64 then absorb (significand * 10 + digit) rest
    else (significand, digit :: rest)

def ofDigits (digits : List Nat) : Nat := digits.foldl (fun n digit => n * 10 + digit) 0

def Literal.float? (literal : Literal) : Option Binary64 :=
  let (significand, beyond) := absorb 0 literal.whole
  let (significand, ignored) := absorb significand literal.fraction
  let places := literal.fraction.length - ignored.length
  let exponent := literal.exponent.getD 0 + (beyond.length : Int) - (places : Int)
  (scaled? significand exponent).map fun x => if literal.negative then x.neg else x

/-- An integer that fits is exact, except for a negative zero; a number beyond double
precision stands for nothing. -/
def Literal.number? (literal : Literal) : Option Number :=
  let magnitude := ofDigits literal.whole
  if literal.fraction = [] ∧ literal.exponent = none then
    if !literal.negative ∧ magnitude < 2 ^ 64 then some (.int magnitude)
    else if literal.negative ∧ 0 < magnitude ∧ magnitude ≤ 2 ^ 63 then some (.int (-(magnitude : Int)))
    else literal.float?.map .float
  else literal.float?.map .float

end Telemetry.Json
