import Telemetry.Arithmetic

/-!
Punycode: texts beyond ASCII written in letters, digits and hyphens.

The ASCII characters come first. Behind the last hyphen, numbers say which characters are
inserted where, from the lowest code point up; each is the distance from the insertion
before it. Their digits have base 36, and at each place the thresholds follow a bias that
adapts to the distances seen.
-/

set_option autoImplicit false

namespace Telemetry.Uri.Punycode

def isAscii (c : Char) : Bool := c.toNat < 0x80

def digit (n : Nat) : Char := if n < 26 then Char.ofNat (97 + n) else Char.ofNat (22 + n)

def digitValue? (c : Char) : Option Nat :=
  if c.isLower then some (c.toNat - 97)
  else if c.isUpper then some (c.toNat - 65)
  else if c.isDigit then some (c.toNat - 22)
  else none

/-- A digit below the threshold of its place is the last of its number. -/
def threshold (place bias : Nat) : Nat := max 1 (min 26 (place - bias))

theorem threshold_bounds (place bias : Nat) :
    1 ≤ threshold place bias ∧ threshold place bias ≤ 26 := by
  unfold threshold
  omega

def biasFor (distance : Nat) (bias : Nat) : Nat :=
  if 455 < distance then biasFor (distance / 35) (bias + 36)
  else bias + 36 * distance / (distance + 38)
termination_by distance

def adapt (distance length : Nat) (first : Bool) : Nat :=
  let distance := if first then distance / 700 else distance / 2
  biasFor (distance + distance / length) 0

/-! Writing -/

def digits (bias place n : Nat) : List Char :=
  let t := threshold place bias
  if n < t then [digit n]
  else digit (t + (n - t) % (36 - t)) :: digits bias (place + 36) ((n - t) / (36 - t))
termination_by n
decreasing_by
  have := threshold_bounds place bias
  have := Nat.div_le_self (n - threshold place bias) (36 - threshold place bias)
  omega

structure Encoder where
  out : List Char := []
  written : Nat
  distance : Nat := 0
  bias : Nat := 72
  first : Bool := true

def Encoder.step (code : Nat) (encoder : Encoder) (c : Char) : Encoder :=
  if c.toNat < code then { encoder with distance := encoder.distance + 1 }
  else if c.toNat = code then
    { out := encoder.out ++ digits encoder.bias 36 encoder.distance
      written := encoder.written + 1
      distance := 0
      bias := adapt encoder.distance (encoder.written + 1) encoder.first
      first := false }
  else encoder

def encodeCodes (cs : List Char) (next : Nat) (encoder : Encoder) : List Nat → List Char
  | [] => encoder.out
  | code :: rest =>
    let skipped := (code - next) * (encoder.written + 1)
    let encoder := cs.foldl (Encoder.step code)
      { encoder with distance := encoder.distance + skipped }
    encodeCodes cs (code + 1) { encoder with distance := encoder.distance + 1 } rest

def codesOf (cs : List Char) : List Nat :=
  (((cs.filter (!isAscii ·)).map Char.toNat).mergeSort (· ≤ ·)).eraseDups

def encode (cs : List Char) : List Char :=
  let ascii := cs.filter isAscii
  ascii ++ (if ascii.isEmpty then [] else ['-']) ++
    encodeCodes cs 0x80 { written := ascii.length } (codesOf cs)

/-! Reading -/

structure Decoder where
  text : List Char
  code : Nat := 0x80
  /-- Where the last insertion left off. -/
  start : Nat := 0
  /-- That place and the part of the next distance read so far. -/
  position : Nat := 0
  weight : Nat := 1
  place : Nat := 36
  bias : Nat := 72

def numberLimit : Nat := 2 ^ 32

def Decoder.insert? (decoder : Decoder) (position : Nat) : Option Decoder :=
  let length := decoder.text.length + 1
  let code := decoder.code + position / length
  let index := position % length
  if code.isValidChar then
    some
      { text := decoder.text.insertIdx index (Char.ofNat code)
        code
        start := index + 1
        position := index + 1
        bias := adapt (position - decoder.start) length (decoder.start = 0) }
  else none

def Decoder.step? (decoder : Decoder) (c : Char) : Option Decoder := do
  let n ← digitValue? c
  let t := threshold decoder.place decoder.bias
  let position := decoder.position + n * decoder.weight
  let weight := decoder.weight * (36 - t)
  if numberLimit ≤ position then none
  else if n < t then decoder.insert? position
  else if numberLimit ≤ weight then none
  else some { decoder with position, weight, place := decoder.place + 36 }

/-- What stands before the last hyphen, and what stands behind it. -/
def splitLast (cs : List Char) : List Char × List Char :=
  let tail := (cs.reverse.takeWhile (· ≠ '-')).reverse
  (cs.take (cs.length - tail.length - 1), tail)

/-- The text behind a written form. A hyphen at the front ends nothing. -/
def decode? (cs : List Char) : Option (List Char) :=
  match splitLast cs with
  | ([], tail) => if tail.length < cs.length then none else finish? { text := [] } tail
  | (ascii, tail) => if ascii.all isAscii then finish? { text := ascii } tail else none
where
  finish? (decoder : Decoder) (tail : List Char) : Option (List Char) :=
    match tail.foldlM Decoder.step? decoder with
    | some decoder => if decoder.place = 36 then some decoder.text else none
    | none => none

end Telemetry.Uri.Punycode
