import Mathlib.Algebra.BigOperators.Group.List.Basic
import Telemetry.Window.Totals

/-!
Totals as a function of the values behind them.

Totals come about by merging: value by value inside a bucket, bucket by bucket in a
reading. Whatever the order and the grouping, the result is that of all values together.
-/

set_option autoImplicit false

namespace Telemetry.Window

theorem capped_add_capped (a b : Nat) : capped (capped a + capped b) = capped (a + b) := by
  simp only [capped]
  omega

theorem capped_capped_add (a b : Nat) : capped (capped a + b) = capped (a + b) := by
  simp only [capped]
  omega

namespace Totals

/-- Sum, maximum and number of some values, without reference to merging. -/
def ofValues (values : List Nat) : Totals where
  sum := capped values.sum
  max := values.foldr Nat.max 0
  count := capped values.length

@[simp] theorem ofValues_nil : ofValues [] = {} := rfl

theorem ofValues_perm {a b : List Nat} (same : a.Perm b) : ofValues a = ofValues b := by
  have sums : a.sum = b.sum := same.sum_eq
  have maxima : a.foldr Nat.max 0 = b.foldr Nat.max 0 := by
    refine same.foldr_eq' ?_ 0
    intro x _ y _ z
    exact Nat.max_left_comm y x z
  simp only [ofValues, sums, maxima, same.length_eq]

theorem foldr_max_append (a b : List Nat) :
    (a ++ b).foldr Nat.max 0 = Nat.max (a.foldr Nat.max 0) (b.foldr Nat.max 0) := by
  induction a with
  | nil => exact (Nat.zero_max _).symm
  | cons value rest ih =>
    rw [List.cons_append, List.foldr_cons, List.foldr_cons, ih]
    exact (Nat.max_assoc value _ _).symm

theorem ofValues_append (a b : List Nat) : ofValues (a ++ b) = (ofValues a).merge (ofValues b) := by
  simp only [ofValues, merge, List.sum_append, List.length_append, capped_add_capped,
    foldr_max_append]

theorem merge_single (values : List Nat) (value : Nat) :
    (ofValues values).merge (single value) = ofValues (value :: values) := by
  simp only [ofValues, merge, single, List.sum_cons, List.length_cons, List.foldr_cons,
    capped_capped_add, mk.injEq, and_true]
  exact ⟨by rw [Nat.add_comm], Nat.max_comm _ _⟩

theorem foldl_merge_ofValues (parts : List (List Nat)) (values : List Nat) :
    (parts.map ofValues).foldl merge (ofValues values) = ofValues (values ++ parts.flatten) := by
  induction parts generalizing values with
  | nil => simp
  | cons part rest ih =>
    rw [List.map_cons, List.foldl_cons, ← ofValues_append, ih, List.flatten_cons,
      List.append_assoc]

theorem mergeAll_ofValues (parts : List (List Nat)) :
    mergeAll (parts.map ofValues) = ofValues parts.flatten :=
  foldl_merge_ofValues parts []

theorem foldl_merge_single (values more : List Nat) :
    (more.map single).foldl merge (ofValues values) = ofValues (more.reverse ++ values) := by
  induction more generalizing values with
  | nil => rfl
  | cons value rest ih =>
    rw [List.map_cons, List.foldl_cons, merge_single, ih, List.reverse_cons, List.append_assoc,
      List.singleton_append]

theorem mergeAll_single (values : List Nat) : mergeAll (values.map single) = ofValues values := by
  have merged := foldl_merge_single [] values
  rw [List.append_nil] at merged
  exact merged.trans (ofValues_perm values.reverse_perm)

end Totals

end Telemetry.Window
