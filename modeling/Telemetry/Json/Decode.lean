import Telemetry.Json

/-!
Reading typed values out of JSON.
-/

set_option autoImplicit false

namespace Telemetry.Json

abbrev Members := List (String × Value)

/-- The member with a key, if there is one; a key given twice spoils the object. -/
def member? (members : Members) (key : String) : Option (Option Value) :=
  match members.filter (·.1 = key) with
  | [] => some none
  | [(_, value)] => some (some value)
  | _ => none

def field? {α : Type} (members : Members) (key : String) (read : Value → Option α)
    (default : α) : Option α :=
  match member? members key with
  | none => none
  | some none => some default
  | some (some value) => read value

namespace Value

def string? : Value → Option String
  | .str s => some s
  | _ => none

def list? {α : Type} (read : Value → Option α) : Value → Option (List α)
  | .arr items => items.mapM read
  | _ => none

def intIn? (low high : Int) : Value → Option Int
  | .num (.int n) => if low ≤ n ∧ n < high then some n else none
  | _ => none

def natIn? (bits : Nat) (value : Value) : Option Nat :=
  (value.intIn? 0 (2 ^ bits)).map Int.toNat

/-- Integers count as numbers. -/
def float? : Value → Option Binary64
  | .num (.int n) => some (.ofInt n)
  | .num (.float x) => some x
  | _ => none

def nullable? {α : Type} (read : Value → Option α) : Value → Option (Option α)
  | .null => some none
  | value => (read value).map some

/-- A name, or an object whose only key is the name and whose value is empty. -/
def name? : Value → Option String
  | .str s => some s
  | .obj [(key, .null)] => some key
  | .obj [(key, .obj [])] => some key
  | _ => none

end Value

end Telemetry.Json
