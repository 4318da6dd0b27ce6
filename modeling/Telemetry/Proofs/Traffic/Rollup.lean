import Mathlib.Algebra.BigOperators.Group.List.Basic
import Telemetry.Traffic

/-!
Traffic of several containers as one.

The counters of a roll-up are the sums over its parts and its last access is the latest of
theirs; the figures that a view has drawn of the parts do not enter.
-/

set_option autoImplicit false

namespace Telemetry

namespace ClassCounts

theorem get_plus (a b : ClassCounts) (statusClass : StatusClass) :
    (a.plus b).get statusClass = a.get statusClass + b.get statusClass := by
  cases statusClass <;> rfl

theorem ext_get {a b : ClassCounts}
    (same : ∀ statusClass, a.get statusClass = b.get statusClass) : a = b := by
  obtain ⟨success, redirect, clientError, serverError⟩ := a
  rw [ClassCounts.mk.injEq success]
  exact ⟨same .success, same .redirect, same .clientError, same .serverError⟩

end ClassCounts

namespace Traffic

theorem laterOf_none (a : Option Instant) : laterOf a none = a := by
  cases a <;> rfl

theorem laterOf_assoc (a b c : Option Instant) :
    laterOf (laterOf a b) c = laterOf a (laterOf b c) := by
  cases a <;> cases b <;> cases c <;> simp [laterOf, Int.max_assoc]

theorem max?_cons (t : Instant) (times : List Instant) :
    (t :: times).max? = laterOf (some t) times.max? := by
  rw [List.max?_cons]
  cases times.max? <;> rfl

theorem max?_append (a b : List Instant) : (a ++ b).max? = laterOf a.max? b.max? := by
  induction a with
  | nil => rfl
  | cons t rest ih => rw [List.cons_append, max?_cons, max?_cons, ih, laterOf_assoc]

theorem max?_perm {a b : List Instant} (same : a.Perm b) : a.max? = b.max? := by
  apply Option.ext
  intro latest
  simp only [List.max?_eq_some_iff, same.mem_iff]

theorem max?_flatMap {α : Type} (times : α → List Instant) (parts : List α) :
    (parts.filterMap fun part => (times part).max?).max? = (parts.flatMap times).max? := by
  induction parts with
  | nil => rfl
  | cons part rest ih =>
    rw [List.flatMap_cons, max?_append, ← ih, List.filterMap_cons]
    cases (times part).max? with
    | none => rfl
    | some latest => exact max?_cons latest _

section
variable (parts : List Traffic) (now : Instant)

theorem requests_absorbAll (total : Traffic) :
    (parts.foldl absorb total).requests = total.requests + (parts.map (·.requests)).sum := by
  induction parts generalizing total with
  | nil => rfl
  | cons part rest ih =>
    rw [List.foldl_cons, ih, List.map_cons, List.sum_cons, ← Nat.add_assoc]
    rfl

theorem classes_absorbAll (total : Traffic) (statusClass : StatusClass) :
    (parts.foldl absorb total).classes.get statusClass =
      total.classes.get statusClass + (parts.map (·.classes.get statusClass)).sum := by
  induction parts generalizing total with
  | nil => rfl
  | cons part rest ih =>
    rw [List.foldl_cons, ih, absorb, ClassCounts.get_plus, List.map_cons, List.sum_cons,
      Nat.add_assoc]

theorem lastAccess_absorbAll (total : Traffic) :
    (parts.foldl absorb total).lastAccess =
      laterOf total.lastAccess (parts.filterMap (·.lastAccess)).max? := by
  induction parts generalizing total with
  | nil => exact (laterOf_none _).symm
  | cons part rest ih =>
    rw [List.foldl_cons, ih, absorb, laterOf_assoc, List.filterMap_cons]
    cases part.lastAccess with
    | none => rfl
    | some latest => rw [max?_cons]

theorem requests_rollup : (rollup parts now).requests = (parts.map (·.requests)).sum :=
  (requests_absorbAll parts (create now)).trans (Nat.zero_add _)

theorem classes_rollup (statusClass : StatusClass) :
    (rollup parts now).classes.get statusClass =
      (parts.map (·.classes.get statusClass)).sum := by
  refine (classes_absorbAll parts (create now) statusClass).trans ?_
  cases statusClass <;> exact Nat.zero_add _

theorem lastAccess_rollup :
    (rollup parts now).lastAccess = (parts.filterMap (·.lastAccess)).max? :=
  lastAccess_absorbAll parts (create now)

theorem absorbAll_finalize (total : Traffic) :
    (parts.map (·.finalize now)).foldl absorb total = parts.foldl absorb total := by
  induction parts generalizing total with
  | nil => rfl
  | cons part rest ih => exact ih (total.absorb part)

theorem rollup_finalize : rollup (parts.map (·.finalize now)) now = rollup parts now := by
  have windows : ∀ level, (parts.map (·.finalize now)).map (·.windowTotals level now) =
      parts.map (·.windowTotals level now) := by
    intro level
    rw [List.map_map]
    rfl
  simp only [rollup, absorbAll_finalize, windows]

end

end Traffic

end Telemetry
