import Telemetry.Uri.Percent

/-!
Paths of locators.

A path is read segment by segment. A segment of one dot adds nothing, one of two dots takes
the last segment away; both may be written with escapes. A segment that is a drive letter
is never taken away.
-/

set_option autoImplicit false

namespace Telemetry.Uri

def dropDot? : List Char → Option (List Char)
  | '.' :: rest => some rest
  | '%' :: '2' :: 'e' :: rest | '%' :: '2' :: 'E' :: rest => some rest
  | _ => none

def isOneDot (segment : List Char) : Bool := dropDot? segment = some []

def isTwoDots (segment : List Char) : Bool := (dropDot? segment).bind dropDot? = some []

def isDriveLetter : List Char → Bool
  | [letter, mark] => letter.isAlpha && (mark = ':' || mark = '|')
  | _ => false

def endsWithSlash (path : List Char) : Bool := path.getLast? = some '/'

def lastSegment (path : List Char) : List Char := (path.reverse.takeWhile (· ≠ '/')).reverse

def upToSlash (path : List Char) : List Char := (path.reverse.dropWhile (· ≠ '/')).reverse

def shorten (path : List Char) : List Char :=
  let before := path.dropLast
  if endsWithSlash path && before.contains '/' && !isDriveLetter (lastSegment before) then
    upToSlash before
  else upToSlash path

def addSegment (path segment : List Char) (slash : Bool) : List Char :=
  if isTwoDots segment then
    let path := shorten path
    if slash && !endsWithSlash path then path ++ ['/'] else path
  else if isOneDot segment then
    if endsWithSlash path then path else path ++ ['/']
  else path ++ segment ++ (if slash then ['/'] else [])

def isSlash (special : Bool) (c : Char) : Bool := c = '/' || (special && c = '\\')

def addSegments (path : List Char) : List (List Char) → List Char
  | [] => path
  | [last] => addSegment path (encode escapedInPath last) false
  | segment :: rest => addSegments (addSegment path (encode escapedInPath segment) true) rest

/-- The path of a text that ends before any query or fragment. A special locator always has
a path. -/
def pathOf (special : Bool) (cs : List Char) : List Char :=
  match special, cs with
  | _, [] => if special then ['/'] else []
  | true, c :: rest =>
    addSegments ['/'] ((if isSlash true c then rest else c :: rest).splitOnP (isSlash true))
  | false, '/' :: rest => addSegments ['/'] (rest.splitOnP (isSlash false))
  | false, cs => addSegments ['/'] (cs.splitOnP (isSlash false))

end Telemetry.Uri
