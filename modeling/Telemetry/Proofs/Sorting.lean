import Mathlib.Data.List.Chain
import Mathlib.Data.List.Nodup
import Mathlib.Order.Compare
import Telemetry.Column

/-!
Rows in the order of a comparison.

A comparison that is transitive and turns around with its rows leaves one order only for rows of
which no two count as equal: what comes out of sorting does not depend on the order they came in,
and turning the comparison around turns the rows around.
-/

set_option autoImplicit false

namespace Telemetry

open Std (TransCmp OrientedCmp)

variable {α : Type} {compare : α → α → Ordering} {rows others : List α}

/-- No two of the rows count as equal. -/
def ToldApart (compare : α → α → Ordering) (rows : List α) : Prop :=
  rows.Nodup ∧ ∀ a ∈ rows, ∀ b ∈ rows, compare a b = .eq → a = b

def Ascending (compare : α → α → Ordering) (rows : List α) : Prop :=
  rows.Pairwise fun a b => compare a b = .lt

theorem toldApart_of_id {β : Type} {id : α → β} (distinct : (rows.map id).Nodup)
    (apart : ∀ a b, compare a b = .eq → id a = id b) : ToldApart compare rows :=
  ⟨distinct.of_map id, fun a here b there same =>
    List.inj_on_of_nodup_map distinct here there (apart a b same)⟩

theorem ToldApart.perm (apart : ToldApart compare rows) (same : others.Perm rows) :
    ToldApart compare others :=
  ⟨same.nodup_iff.mpr apart.1, fun a here b there =>
    apart.2 a (same.mem_iff.mp here) b (same.mem_iff.mp there)⟩

theorem sortRows_perm (compare : α → α → Ordering) (rows : List α) :
    (sortRows compare rows).Perm rows :=
  List.mergeSort_perm rows _

section
variable [TransCmp compare]

theorem pairwise_sortRows (rows : List α) :
    (sortRows compare rows).Pairwise fun a b => (compare a b).isLE = true := by
  apply List.pairwise_mergeSort
  · exact fun _ _ _ => TransCmp.isLE_trans
  · intro a b
    have turned : compare b a = (compare a b).swap := OrientedCmp.eq_swap
    rw [turned]
    cases compare a b <;> rfl

theorem ascending_sortRows (apart : ToldApart compare rows) :
    Ascending compare (sortRows compare rows) := by
  obtain ⟨distinct, told⟩ := apart.perm (sortRows_perm compare rows)
  have different : (sortRows compare rows).Pairwise fun a b => compare a b ≠ .eq :=
    distinct.imp_of_mem fun here there other same => other (told _ here _ there same)
  refine different.imp₂ ?_ (pairwise_sortRows rows)
  intro a b other le
  exact (Ordering.isLE_iff_eq_lt_or_eq_eq.mp le).resolve_right other

theorem Ascending.eq_of_perm {sorted other : List α} (first : Ascending compare sorted)
    (second : Ascending compare other) (same : sorted.Perm other) : sorted = other := by
  refine same.eq_of_pairwise ?_ first second
  intro a b _ _ before after
  have turned : compare a b = (compare b a).swap := OrientedCmp.eq_swap
  rw [before, after] at turned
  cases turned

theorem sortRows_congr (apart : ToldApart compare rows) (same : others.Perm rows) :
    sortRows compare others = sortRows compare rows := by
  have shuffled := (sortRows_perm compare others).trans
    (same.trans (sortRows_perm compare rows).symm)
  exact (ascending_sortRows (apart.perm same)).eq_of_perm (ascending_sortRows apart) shuffled

theorem sortRows_turned (apart : ToldApart compare rows) :
    sortRows (fun a b => compare b a) rows = (sortRows compare rows).reverse := by
  have turned : ToldApart (fun a b => compare b a) rows :=
    ⟨apart.1, fun a here b there same => (apart.2 b there a here same).symm⟩
  have reversed : Ascending (fun a b => compare b a) (sortRows compare rows).reverse :=
    List.pairwise_reverse.mpr (ascending_sortRows apart)
  refine (ascending_sortRows turned).eq_of_perm reversed ?_
  exact (sortRows_perm _ rows).trans
    ((sortRows_perm compare rows).symm.trans (List.reverse_perm _).symm)

end

end Telemetry
