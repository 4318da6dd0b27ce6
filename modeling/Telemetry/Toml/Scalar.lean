import Telemetry.Text.Hex
import Telemetry.Toml

/-!
Numbers, dates and times of TOML.

A scalar without quotes is one word, except that a blank may stand between a date and a
time of day.
-/

set_option autoImplicit false

namespace Telemetry.Toml

open Text

/-- The digits of a number; one underscore may stand between two of them. -/
def ungrouped? (isDigit : Char → Bool) : List Char → Option (List Char)
  | [] => none
  | [c] => if isDigit c then some [c] else none
  | c :: '_' :: rest => if isDigit c then (ungrouped? isDigit rest).map (c :: ·) else none
  | c :: rest => if isDigit c then (ungrouped? isDigit rest).map (c :: ·) else none

def signed : List Char → Bool × List Char
  | '-' :: rest => (true, rest)
  | '+' :: rest => (false, rest)
  | cs => (false, cs)

def decimal? (cs : List Char) : Option (List Char) :=
  match ungrouped? Char.isDigit cs with
  | some ('0' :: _ :: _) => none
  | found => found

def integer? : List Char → Option Int
  | '0' :: 'x' :: rest => (ungrouped? isHexDigit rest).bind (bounded? false 16)
  | '0' :: 'o' :: rest => (ungrouped? (fun c => '0' ≤ c && c ≤ '7') rest).bind (bounded? false 8)
  | '0' :: 'b' :: rest => (ungrouped? (fun c => c = '0' || c = '1') rest).bind (bounded? false 2)
  | cs =>
    let (negative, rest) := signed cs
    (decimal? rest).bind (bounded? negative 10)
where
  bounded? (negative : Bool) (base : Nat) (digits : List Char) : Option Int :=
    let n := numberIn base digits
    if negative then if n ≤ 2 ^ 63 then some (-n) else none
    else if n < 2 ^ 63 then some n else none

def nearestDecimal (digits : List Char) (exponent : Int) : Binary64 :=
  let digits := digits.dropWhile (· = '0')
  let n := numberIn 10 digits
  let order := exponent + digits.length
  if n = 0 || order < -400 then .zero
  else if 400 < order then .infinity
  else if 0 ≤ exponent then .nearest (n * 10 ^ exponent.toNat) 1
  else .nearest n (10 ^ exponent.natAbs)

def exponent? (cs : List Char) : Option Int :=
  let (negative, rest) := signed cs
  (ungrouped? Char.isDigit rest).map fun digits =>
    if negative then -(numberIn 10 digits : Int) else numberIn 10 digits

/-- Digits, then a point and digits or an exponent or both. -/
def magnitude? (cs : List Char) : Option Binary64 := do
  let isMark (c : Char) : Bool := c = 'e' || c = 'E'
  let (significand, tail) := cs.span fun c => !isMark c
  let (whole, places) := significand.span (· ≠ '.')
  let whole ← decimal? whole
  let exponent ← match tail with
    | [] => some 0
    | _ :: tail => exponent? tail
  match places with
  | [] => if tail.isEmpty then none else some (nearestDecimal whole exponent)
  | _ :: places =>
    let places ← ungrouped? Char.isDigit places
    some (nearestDecimal (whole ++ places) (exponent - places.length))

/-- A number too large for a double is refused, unless a minus stands before it. -/
def float? (cs : List Char) : Option Binary64 :=
  let (negative, rest) := signed cs
  let signedValue (x : Binary64) : Binary64 := if negative then x.neg else x
  if rest = "inf".toList then some (signedValue .infinity)
  else if rest = "nan".toList then some (signedValue ⟨0x7FF8000000000000⟩)
  else
    match magnitude? rest with
    | none => none
    | some x => if x = .infinity && !negative then none else some (signedValue x)

def twoDigits? (low high : Nat) : List Char → Option (Nat × List Char)
  | a :: b :: rest =>
    let n := numberIn 10 [a, b]
    if a.isDigit && b.isDigit && low ≤ n && n ≤ high then some (n, rest) else none
  | _ => none

def daysIn (year month : Nat) : Nat :=
  if month = 2 then if year % 4 = 0 && (year % 100 ≠ 0 || year % 400 = 0) then 29 else 28
  else if month = 4 || month = 6 || month = 9 || month = 11 then 30
  else 31

def afterDate? (cs : List Char) : Option (List Char) := do
  let (century, rest) ← twoDigits? 0 99 cs
  let (year, rest) ← twoDigits? 0 99 rest
  let '-' :: rest := rest | none
  let (month, rest) ← twoDigits? 1 12 rest
  let '-' :: rest := rest | none
  let (_, rest) ← twoDigits? 1 (daysIn (century * 100 + year) month) rest
  return rest

def afterTime? (cs : List Char) : Option (List Char) := do
  let (_, rest) ← twoDigits? 0 23 cs
  let ':' :: rest := rest | none
  let (_, rest) ← twoDigits? 0 59 rest
  let ':' :: rest := rest | none
  let (_, rest) ← twoDigits? 0 60 rest
  match rest with
  | '.' :: c :: rest => if c.isDigit then some (rest.dropWhile Char.isDigit) else none
  | '.' :: _ => none
  | rest => some rest

def afterOffset? (cs : List Char) : Option (List Char) :=
  match cs with
  | 'Z' :: rest | 'z' :: rest => some rest
  | '+' :: rest | '-' :: rest => do
    let (_, rest) ← twoDigits? 0 23 rest
    let ':' :: rest := rest | none
    let (_, rest) ← twoDigits? 0 59 rest
    return rest
  | rest => some rest

def isDate (word : List Char) : Bool := afterDate? word = some []

def isZonedTime (word : List Char) : Bool := (afterTime? word).bind afterOffset? = some []

def isMoment (word : List Char) : Bool :=
  isDate word || afterTime? word = some [] ||
    match afterDate? word with
    | some (c :: rest) => (c = 'T' || c = 't') && isZonedTime rest
    | _ => false

def ofWord? (word : List Char) : Option Value :=
  if word = "true".toList then some (.bool true)
  else if word = "false".toList then some (.bool false)
  else if isMoment word then some (.moment (String.ofList word))
  else ((integer? word).map .int).or ((float? word).map .float)

def isWordChar (c : Char) : Bool :=
  c.isAlphanum || c = '+' || c = '-' || c = '_' || c = '.' || c = ':'

def bare? (cs : List Char) : Option (Value × List Char) :=
  let word := cs.takeWhile isWordChar
  let rest := cs.drop word.length
  match rest with
  | ' ' :: c :: after =>
    if isDate word && c.isDigit then
      let time := (c :: after).takeWhile isWordChar
      if isZonedTime time then
        some (.moment (String.ofList (word ++ ' ' :: time)), (c :: after).drop time.length)
      else none
    else (ofWord? word).map (·, rest)
  | _ => (ofWord? word).map (·, rest)

end Telemetry.Toml
