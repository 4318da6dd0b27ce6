import Telemetry.Uri.Percent

/-!
Network addresses as hosts.

An address of the fourth version is one to four numbers, decimal, octal or hexadecimal, of
which the last fills the places left. An address of the sixth version is eight pieces of
sixteen bits; once, two colons may stand for pieces of zero, and the last two pieces may be
written as four decimal numbers.
-/

set_option autoImplicit false

namespace Telemetry.Uri

open Text

/-- A number of an address; its base shows in its first characters. -/
def addressNumber? (cs : List Char) : Option Nat :=
  match cs with
  | [] => none
  | '0' :: 'x' :: rest | '0' :: 'X' :: rest =>
    if rest.all isHexDigit then some (numberIn 16 rest) else none
  | '0' :: c :: rest =>
    if (c :: rest).all fun d => '0' ≤ d ∧ d ≤ '7' then some (numberIn 8 (c :: rest)) else none
  | cs => if cs.all Char.isDigit then some (numberIn 10 cs) else none

def addressParts (cs : List Char) : List (List Char) :=
  let parts := cs.splitOn '.'
  if parts.getLast? = some [] then parts.dropLast else parts

/-- Whether a domain must be read as an address: its last part is a number. -/
def endsInNumber (cs : List Char) : Bool :=
  match (addressParts cs).getLast? with
  | none | some [] => false
  | some last => last.all Char.isDigit || (addressNumber? last).isSome

def leadingBytes? : List Nat → Nat → Option Nat
  | [], _ => some 0
  | n :: rest, place =>
    if n < 256 then (leadingBytes? rest (place - 1)).map (n * 256 ^ place + ·) else none

def ipv4? (cs : List Char) : Option Nat := do
  let numbers ← (addressParts cs).mapM addressNumber?
  if 4 < numbers.length then none else
    let last ← numbers.getLast?
    let leading := numbers.dropLast
    if last < 256 ^ (4 - leading.length) then
      (leadingBytes? leading 3).map (· + last)
    else none

def ipv4Text (address : Nat) : List Char :=
  ['.'].intercalate ([3, 2, 1, 0].map fun place => Nat.toDigits 10 (address / 256 ^ place % 256))

def decimalByte? (cs : List Char) : Option (Nat × List Char) :=
  match cs.takeWhile Char.isDigit, cs.dropWhile Char.isDigit with
  | [], _ | '0' :: _ :: _, _ => none
  | ds, rest =>
    let n := numberIn 10 ds
    if n < 256 then some (n, rest) else none

def decimalPieces? (cs : List Char) : Option (List Nat) := do
  let (a, rest) ← decimalByte? cs
  let '.' :: rest := rest | none
  let (b, rest) ← decimalByte? rest
  let '.' :: rest := rest | none
  let (c, rest) ← decimalByte? rest
  let '.' :: rest := rest | none
  let (d, []) ← decimalByte? rest | none
  return [a * 256 + b, c * 256 + d]

def hexPiece (cs : List Char) : List Char := (cs.take 4).takeWhile isHexDigit

/-- The pieces of an address behind those already read, and the place of the two colons,
which count as one piece. -/
def pieces? (cs : List Char) (done : List Nat) (gap : Option Nat) :
    Option (List Nat × Option Nat) :=
  match cs with
  | [] => some (done, gap)
  | ':' :: rest =>
    if done.length = 8 ∨ gap.isSome then none
    else pieces? rest (done ++ [0]) (some (done.length + 1))
  | c :: cs =>
    if done.length = 8 then none else
      let ds := hexPiece (c :: cs)
      match h : (c :: cs).drop ds.length with
      | [] => some (done ++ [numberIn 16 ds], gap)
      -- No address ends with a single colon.
      | [':'] => none
      | ':' :: next :: rest =>
        have : rest.length < cs.length := by
          have := congrArg List.length h
          simp only [List.length_drop, List.length_cons] at this
          omega
        pieces? (next :: rest) (done ++ [numberIn 16 ds]) gap
      | '.' :: _ =>
        if ds.isEmpty || 6 < done.length then none
        else (decimalPieces? (c :: cs)).map fun last => (done ++ last, gap)
      | _ => none
termination_by cs.length

def ipv6? (cs : List Char) : Option (List Nat) := do
  let (pieces, gap) ← match cs with
    | ':' :: ':' :: rest => pieces? rest [0] (some 1)
    | [] | [_] | ':' :: _ => none
    | cs => pieces? cs [] none
  match gap with
  | some gap =>
    if pieces.length ≤ 8 then
      some (pieces.take gap ++ List.replicate (8 - pieces.length) 0 ++ pieces.drop gap)
    else none
  | none => if pieces.length = 8 then some pieces else none

def hexText (n : Nat) : List Char := Nat.toDigits 16 n

def leadingZeros (pieces : List Nat) : Nat := (pieces.takeWhile (· = 0)).length

/-- Start and length of the first longest run of zeros. -/
def longestZeros (pieces : List Nat) : Nat × Nat :=
  (List.range pieces.length).foldl
    (fun best start =>
      let run := leadingZeros (pieces.drop start)
      if best.2 < run then (start, run) else best)
    (0, 0)

def piecesText (pieces : List Nat) : List Char := [':'].intercalate (pieces.map hexText)

/-- The text of an address, with two colons for the first longest run of two or more
zeros. -/
def ipv6Text (pieces : List Nat) : List Char :=
  match longestZeros pieces with
  | (_, 0) | (_, 1) => piecesText pieces
  | (start, run) =>
    piecesText (pieces.take start) ++ [':', ':'] ++ piecesText (pieces.drop (start + run))

end Telemetry.Uri
