import Telemetry.Table

/-!
Tables with a limit on the number of keys.

A full table never drops a key: a new one is refused and the refusal counted, while the
keys already there can still be changed.
-/

set_option autoImplicit false

namespace Telemetry

structure CappedTable (κ ν : Type) [DecidableEq κ] where
  limit : Nat
  table : Table κ ν := ∅
  /-- New keys refused since the table was last empty. -/
  rejected : Nat := 0

namespace CappedTable

variable {κ ν : Type} [DecidableEq κ]

def create (limit : Nat) : CappedTable κ ν := { limit }

def get? (capped : CappedTable κ ν) (key : κ) : Option ν := capped.table.get? key

def contains (capped : CappedTable κ ν) (key : κ) : Bool := capped.table.contains key

def size (capped : CappedTable κ ν) : Nat := capped.table.size

def full (capped : CappedTable κ ν) : Bool := capped.limit ≤ capped.size

def keys (capped : CappedTable κ ν) : List κ := capped.table.keys

def values (capped : CappedTable κ ν) : List ν := capped.table.values

def admits (capped : CappedTable κ ν) (key : κ) : Bool := capped.contains key || !capped.full

def refuse (capped : CappedTable κ ν) : CappedTable κ ν :=
  { capped with rejected := capped.rejected + 1 }

/-- Change the value of a key, first giving it one if it has none. The table comes back in
any case, with a mark of whether the key was admitted. -/
def update (capped : CappedTable κ ν) (key : κ) (new : ν) (change : ν → ν) :
    Bool × CappedTable κ ν :=
  if capped.admits key then
    (true, { capped with table := capped.table.update key new change })
  else (false, capped.refuse)

def insert (capped : CappedTable κ ν) (key : κ) (value : ν) : Bool × CappedTable κ ν :=
  capped.update key value fun _ => value

def modify (capped : CappedTable κ ν) (key : κ) (change : ν → ν) : CappedTable κ ν :=
  { capped with table := capped.table.modify key change }

def erase (capped : CappedTable κ ν) (key : κ) : CappedTable κ ν :=
  { capped with table := capped.table.erase key }

def mapValues (capped : CappedTable κ ν) (change : ν → ν) : CappedTable κ ν :=
  { capped with table := capped.table.map change }

def mapEntries (capped : CappedTable κ ν) (change : κ → ν → ν) : CappedTable κ ν :=
  { capped with table := capped.table.mapEntries change }

/-- Drop every key; the limit stays. -/
def clear (capped : CappedTable κ ν) : CappedTable κ ν := create capped.limit

def refusalMessage (limit : Nat) : String :=
  "map is full: at most " ++ toString limit ++ " distinct keys are tracked"

end CappedTable

end Telemetry
