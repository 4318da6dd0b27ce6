import Telemetry.Decimal
import Telemetry.Json

/-!
The text of JSON values, on one line or with one member a line.

Values that are not finite have no number in JSON and are written as nothing.
-/

set_option autoImplicit false

namespace Telemetry.Json

def escape (c : Char) : List Char :=
  match c with
  | '"' => ['\\', '"']
  | '\\' => ['\\', '\\']
  | '\x08' => ['\\', 'b']
  | '\x0c' => ['\\', 'f']
  | '\n' => ['\\', 'n']
  | '\r' => ['\\', 'r']
  | '\t' => ['\\', 't']
  | c =>
    if c.toNat < 0x20 then
      ['\\', 'u', '0', '0', Nat.digitChar (c.toNat / 16), Nat.digitChar (c.toNat % 16)]
    else [c]

def stringText (s : String) : List Char := ['"'] ++ s.toList.flatMap escape ++ ['"']

def Number.text : Number → List Char
  | int n => (toString n).toList
  | float x => if x.isFinite then (Decimal.text x).toList else "null".toList

namespace Value

mutual

def chars : Value → List Char
  | .null => "null".toList
  | .bool true => "true".toList
  | .bool false => "false".toList
  | .num n => n.text
  | .str s => stringText s
  | .arr items => ['['] ++ itemsChars items ++ [']']
  | .obj members => ['\x7b'] ++ membersChars members ++ ['\x7d']

def itemsChars : List Value → List Char
  | [] => []
  | [item] => chars item
  | item :: rest => chars item ++ [','] ++ itemsChars rest

def membersChars : List (String × Value) → List Char
  | [] => []
  | [(key, value)] => stringText key ++ [':'] ++ chars value
  | (key, value) :: rest => stringText key ++ [':'] ++ chars value ++ [','] ++ membersChars rest

end

def text (value : Value) : String := String.ofList (chars value)

def indent (level : Nat) : List Char := '\n' :: List.replicate (2 * level) ' '

mutual

/-- The text with one item or member a line; `level` says how far to indent. -/
def prettyChars (level : Nat) : Value → List Char
  | .arr (item :: items) =>
    ['['] ++ prettyItems (level + 1) (item :: items) ++ indent level ++ [']']
  | .obj (member :: members) =>
    ['\x7b'] ++ prettyMembers (level + 1) (member :: members) ++ indent level ++ ['\x7d']
  | .arr [] => ['[', ']']
  | .obj [] => ['\x7b', '\x7d']
  | .null => "null".toList
  | .bool true => "true".toList
  | .bool false => "false".toList
  | .num n => n.text
  | .str s => stringText s

def prettyItems (level : Nat) : List Value → List Char
  | [] => []
  | [item] => indent level ++ prettyChars level item
  | item :: rest => indent level ++ prettyChars level item ++ [','] ++ prettyItems level rest

def prettyMembers (level : Nat) : List (String × Value) → List Char
  | [] => []
  | [(key, value)] => indent level ++ stringText key ++ [':', ' '] ++ prettyChars level value
  | (key, value) :: rest =>
    indent level ++ stringText key ++ [':', ' '] ++ prettyChars level value ++ [','] ++
      prettyMembers level rest

end

def pretty (value : Value) : String := String.ofList (prettyChars 0 value)

end Value

end Telemetry.Json
