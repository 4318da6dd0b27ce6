import Telemetry.Text.Blank
import Telemetry.Text.Composed
import Telemetry.Text.Direction
import Telemetry.Uri.Domain.Mapping
import Telemetry.Uri.Percent
import Telemetry.Uri.Punycode

/-!
Domain names, in the ASCII form in which they are compared.

A name is mapped character by character and composed, and then falls into labels at its
dots. A label beyond ASCII is written in Punycode behind a marker. A label with the marker
must be one that writing gives: its text is checked as if it had been given.
-/

set_option autoImplicit false

namespace Telemetry.Uri

open Text

def forbiddenInDomain (c : Char) : Bool :=
  isControl c || " #%/:<>?@[\\]^|".toList.contains c

def punycodeMarker : List Char := "xn--".toList

def isAscii (cs : List Char) : Bool := cs.all fun c => c.toNat < 0x80

/-- The longest text that is written in Punycode, and the longest that is read. -/
def encodeLimit : Nat := 1000

def decodeLimit : Nat := 2000

def labelText? (label : List Char) : Option (List Char) :=
  match punycodeMarker.isPrefixOf? label with
  | none => some label
  | some coded =>
    if decodeLimit < coded.length then none
    else (Punycode.decode? coded).filter fun text => !isAscii text

def nonJoiner : Char := '\u200c'

def joiner : Char := '\u200d'

/-- Whether a joiner or non-joiner may stand between two texts, the first of which is
reversed. -/
def joinerFits (c : Char) (before after : List Char) : Bool :=
  before.head?.any isVirama ||
    (c = nonJoiner && (before.dropWhile isPassedOver).head?.any joinsNext &&
      (after.dropWhile isPassedOver).head?.any joinsPrevious)

def joinersFit (before : List Char) : List Char → Bool
  | [] => true
  | c :: rest =>
    (if c = joiner || c = nonJoiner then joinerFits c before rest else true) &&
      joinersFit (c :: before) rest

/-- Whether a text can be a label: mapping and composing leave it as it is, it begins with no
mark, and its joiners stand between letters they fit. -/
def isLabel (text : List Char) : Bool :=
  text.all (fun c => mapped? c = some [c]) && compose text = text &&
    !text.head?.any isMark && joinersFit [] text

def runsFit : List Direction → Bool
  | [] => true
  | first :: rest =>
    let runs := dropEndWhile (· = .mark) rest
    let allowed (kinds : List Direction) : Bool := runs.all (kinds.contains ·)
    let ends (kinds : List Direction) : Bool := runs.getLast?.all (kinds.contains ·)
    match first with
    | .leftToRight =>
      allowed [.leftToRight, .europeanNumber, .neutral, .mark] &&
        ends [.leftToRight, .europeanNumber]
    | .rightToLeft =>
      allowed [.rightToLeft, .arabicNumber, .europeanNumber, .neutral, .mark] &&
        ends [.rightToLeft, .europeanNumber, .arabicNumber] &&
        !(runs.contains .europeanNumber && runs.contains .arabicNumber)
    | _ => false

/-- Directions matter only in names that have something from right to left. -/
def directionsFit (labels : List (List Char)) : Bool :=
  let directions := labels.map (·.map directionOf)
  let turns (direction : Direction) : Bool :=
    direction = .rightToLeft || direction = .arabicNumber
  !directions.any (·.any turns) || directions.all runsFit

def asciiLabel? (label : List Char) : Option (List Char) :=
  if isAscii label then some label
  else if encodeLimit < label.length then none
  else some (punycodeMarker ++ Punycode.encode label)

def asciiDomain? (cs : List Char) : Option (List Char) := do
  let mapped ← cs.mapM mapped?
  let name := compose mapped.flatten
  let labels := name.splitOn '.'
  let texts ← labels.mapM labelText?
  if name.any forbiddenInDomain then none
  else if texts.all isLabel && directionsFit texts then
    (labels.mapM asciiLabel?).map fun labels => ['.'].intercalate labels
  else none

end Telemetry.Uri
