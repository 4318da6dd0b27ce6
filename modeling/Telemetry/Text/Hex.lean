import Telemetry.Arithmetic

/-!
Digits beyond nine, and sets of characters written with them.

A set is written as ranges of code points: hexadecimal numbers and pairs of them with a hyphen
between, separated by blanks.
-/

set_option autoImplicit false

namespace Telemetry.Text

def hexValue? (c : Char) : Option Nat :=
  if '0' ≤ c ∧ c ≤ '9' then some (c.toNat - 48)
  else if 'a' ≤ c ∧ c ≤ 'f' then some (c.toNat - 87)
  else if 'A' ≤ c ∧ c ≤ 'F' then some (c.toNat - 55)
  else none

def isHexDigit (c : Char) : Bool := (hexValue? c).isSome

def numberIn (base : Nat) (digits : List Char) : Nat :=
  digits.foldl (fun n c => n * base + (hexValue? c).getD 0) 0

/-! ### Ranges -/

def rangeOf (text : List Char) : Nat × Nat :=
  match text.splitOn '-' with
  | [first, last] => (numberIn 16 first, numberIn 16 last)
  | _ => (numberIn 16 text, numberIn 16 text)

def tableWords (text : String) : List (List Char) :=
  (text.toList.splitOnP fun c => c = ' ' || c = '\n').filter (· ≠ [])

def rangesOf (text : String) : Array (Nat × Nat) := ((tableWords text).map rangeOf).toArray

def inRange (range : Nat × Nat) (c : Char) : Bool := range.1 ≤ c.toNat && c.toNat ≤ range.2

def inRanges (ranges : Array (Nat × Nat)) (c : Char) : Bool := ranges.any (inRange · c)

end Telemetry.Text
