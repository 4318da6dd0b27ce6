import Telemetry.Binary64

/-!
Sum, maximum and number of samples.

Totals merge without order or grouping. Sum and number stop at the largest 64-bit number.
-/

set_option autoImplicit false

namespace Telemetry.Window

def counterMax : Nat := 2 ^ 64 - 1

def capped (n : Nat) : Nat := min n counterMax

structure Totals where
  sum : Nat := 0
  max : Nat := 0
  count : Nat := 0
  deriving DecidableEq

namespace Totals

def single (value : Nat) : Totals := ⟨value, value, 1⟩

def merge (a b : Totals) : Totals :=
  ⟨capped (a.sum + b.sum), Nat.max a.max b.max, capped (a.count + b.count)⟩

def add (totals : Totals) (value : Nat) : Totals := totals.merge (single value)

def mergeAll (parts : List Totals) : Totals := parts.foldl merge {}

def mean (totals : Totals) : Binary64 :=
  if totals.count = 0 then .zero else (Binary64.ofNat totals.sum).div (.ofNat totals.count)

theorem merge_assoc (a b c : Totals) : (a.merge b).merge c = a.merge (b.merge c) := by
  simp only [merge, capped, mk.injEq]
  refine ⟨by omega, Nat.max_assoc a.max b.max c.max, by omega⟩

end Totals

end Telemetry.Window
