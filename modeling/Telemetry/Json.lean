import Telemetry.Binary64

/-!
JSON trees.

The leaves are left open: a tree as written holds the spelling of its strings and numbers,
a value holds what they stand for. Members keep their order, and a key may repeat.
-/

set_option autoImplicit false

namespace Telemetry.Json

inductive Tree (Text Number : Type) where
  | null
  | bool (value : Bool)
  | num (value : Number)
  | str (value : Text)
  | arr (items : List (Tree Text Number))
  | obj (members : List (Text × Tree Text Number))

/-- Integers within 64 bits, signed or not, are exact; every other number is a double. -/
inductive Number where
  | int (value : Int)
  | float (value : Binary64)
  deriving DecidableEq

abbrev Value := Tree String Number

namespace Tree

variable {Text Number : Type}

mutual

def depth : Tree Text Number → Nat
  | arr items => depthItems items + 1
  | obj members => depthMembers members + 1
  | _ => 0

def depthItems : List (Tree Text Number) → Nat
  | [] => 0
  | item :: items => max item.depth (depthItems items)

def depthMembers : List (Text × Tree Text Number) → Nat
  | [] => 0
  | (_, value) :: members => max value.depth (depthMembers members)

end

variable {Text' Number' : Type}

mutual

/-- Read every leaf; one that stands for nothing spoils the tree. -/
def elaborate? (text : Text → Option Text') (number : Number → Option Number') :
    Tree Text Number → Option (Tree Text' Number')
  | null => some null
  | bool value => some (bool value)
  | num value => (number value).map num
  | str value => (text value).map str
  | arr items => (elaborateItems? text number items).map arr
  | obj members => (elaborateMembers? text number members).map obj

def elaborateItems? (text : Text → Option Text') (number : Number → Option Number') :
    List (Tree Text Number) → Option (List (Tree Text' Number'))
  | [] => some []
  | item :: items => do
    let item ← item.elaborate? text number
    let items ← elaborateItems? text number items
    return item :: items

def elaborateMembers? (text : Text → Option Text') (number : Number → Option Number') :
    List (Text × Tree Text Number) → Option (List (Text' × Tree Text' Number'))
  | [] => some []
  | (key, value) :: members => do
    let key ← text key
    let value ← value.elaborate? text number
    let members ← elaborateMembers? text number members
    return (key, value) :: members

end

end Tree

namespace Value

def int (n : Int) : Value := .num (.int n)

def nat (n : Nat) : Value := .num (.int n)

def float (x : Binary64) : Value := .num (.float x)

def string (s : String) : Value := .str s

def optional {α : Type} (encode : α → Value) : Option α → Value
  | none => .null
  | some x => encode x

def list {α : Type} (encode : α → Value) (items : List α) : Value := .arr (items.map encode)

end Value

end Telemetry.Json
