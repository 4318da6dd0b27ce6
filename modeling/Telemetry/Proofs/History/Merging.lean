import Mathlib.Data.List.Forall2
import Mathlib.Order.Bounds.Basic
import Telemetry.Rate

/-!
Merging rates.

A merge of several records joins them one after the other, and joining is associative. So a
merge of merged records is the merge of all the records behind them, and each of its figures
is the highest or the lowest of theirs.
-/

set_option autoImplicit false

namespace Telemetry

namespace RateRange

theorem merge_assoc (a b c : RateRange) : (a.merge b).merge c = a.merge (b.merge c) := by
  simp only [merge, mk.injEq]
  exact ⟨max_assoc _ _ _, min_assoc _ _ _⟩

structure Spans (range : RateRange) (ranges : List RateRange) : Prop where
  high : IsGreatest (Set.image (·.high) {other | other ∈ ranges}) range.high
  low : IsLeast (Set.image (·.low) {other | other ∈ ranges}) range.low

theorem spans_singleton (range : RateRange) : range.Spans [range] := by
  constructor <;> simp [isGreatest_singleton, isLeast_singleton]

theorem Spans.merge {a b : RateRange} {left right : List RateRange} (first : a.Spans left)
    (second : b.Spans right) : (a.merge b).Spans (left ++ right) := by
  have both : {other | other ∈ left ++ right} =
      {other | other ∈ left} ∪ {other | other ∈ right} := by
    ext other
    exact List.mem_append
  constructor
  · rw [both, Set.image_union]
    exact first.high.union second.high
  · rw [both, Set.image_union]
    exact first.low.union second.low

end RateRange

namespace RateRecord

def Sees (record : RateRecord) (kind : EventKind) : Prop := (record.perKind.get kind).isSome

theorem ext_kinds {a b : RateRecord} (start : a.start = b.start) (stop : a.stop = b.stop)
    (total : a.total = b.total) (sees : ∀ kind, a.Sees kind ↔ b.Sees kind)
    (rates : ∀ kind, a.kindRate kind = b.kindRate kind) : a = b := by
  obtain ⟨aStart, aStop, aTotal, aKinds⟩ := a
  obtain ⟨bStart, bStop, bTotal, bKinds⟩ := b
  have kinds : aKinds = bKinds := by
    apply PerKind.ext_get
    intro kind
    have seen := sees kind
    have rate := rates kind
    simp only [Sees, kindRate] at seen rate
    cases first : aKinds.get kind <;> cases second : bKinds.get kind <;> simp_all
  cases start
  cases stop
  cases total
  rw [kinds]

theorem kindRate_of_not_sees {record : RateRecord} {kind : EventKind}
    (unseen : ¬ record.Sees kind) : record.kindRate kind = {} := by
  rw [kindRate, Option.not_isSome_iff_eq_none.mp unseen]
  rfl

theorem sees_mergeRest (first : RateRecord) (rest : List RateRecord) (kind : EventKind) :
    (mergeRest first rest).Sees kind ↔ ∃ record ∈ first :: rest, record.Sees kind := by
  unfold Sees mergeRest
  rw [PerKind.get_ofFn, Option.isSome_ite, List.any_eq_true]

theorem kindRate_mergeRest (first : RateRecord) (rest : List RateRecord) (kind : EventKind) :
    (mergeRest first rest).kindRate kind =
      (rest.map (·.kindRate kind)).foldl RateRange.merge (first.kindRate kind) := by
  by_cases seen : ∃ record ∈ first :: rest, record.Sees kind
  · have seen : (first :: rest).any fun r => (r.perKind.get kind).isSome := by
      rw [List.any_eq_true]
      exact seen
    rw [List.foldl_map, kindRate, mergeRest, PerKind.get_ofFn, if_pos seen]
    rfl
  -- What no record has seen had a rate of zero in every one.
  · have unseen : ∀ record ∈ first :: rest, record.kindRate kind = {} :=
      fun record member => kindRate_of_not_sees fun sees => seen ⟨record, member, sees⟩
    have zero : ∀ ranges : List RateRange, (∀ range ∈ ranges, range = {}) →
        ranges.foldl RateRange.merge {} = {} := by
      intro ranges all
      induction ranges with
      | nil => rfl
      | cons range ranges ih =>
        obtain ⟨rfl, others⟩ := List.forall_mem_cons.mp all
        exact ih others
    rw [kindRate_of_not_sees fun sees => seen ((sees_mergeRest first rest kind).mp sees),
      unseen first List.mem_cons_self, zero]
    intro range member
    obtain ⟨record, within, rfl⟩ := List.mem_map.mp member
    exact unseen record (List.mem_cons_of_mem _ within)

def join (a b : RateRecord) : RateRecord := mergeRest a [b]

theorem sees_join (a b : RateRecord) (kind : EventKind) :
    (a.join b).Sees kind ↔ a.Sees kind ∨ b.Sees kind := by
  rw [join, sees_mergeRest]
  simp

theorem kindRate_join (a b : RateRecord) (kind : EventKind) :
    (a.join b).kindRate kind = (a.kindRate kind).merge (b.kindRate kind) :=
  kindRate_mergeRest a [b] kind

theorem mergeRest_cons (first next : RateRecord) (rest : List RateRecord) :
    mergeRest first (next :: rest) = mergeRest (first.join next) rest := by
  apply ext_kinds
  case start => rfl
  case stop => rfl
  case total => rfl
  case sees =>
    intro kind
    simp [sees_mergeRest, sees_join, or_assoc]
  case rates =>
    intro kind
    rw [kindRate_mergeRest, kindRate_mergeRest, kindRate_join]
    rfl

theorem mergeRest_nil (record : RateRecord) : mergeRest record [] = record := by
  apply ext_kinds
  case sees =>
    intro kind
    simp [sees_mergeRest]
  case rates => exact kindRate_mergeRest record []
  all_goals rfl

theorem mergeRest_eq_foldl (first : RateRecord) (rest : List RateRecord) :
    mergeRest first rest = rest.foldl join first := by
  induction rest generalizing first with
  | nil => exact mergeRest_nil first
  | cons next rest ih => rw [mergeRest_cons, ih, List.foldl_cons]

theorem join_assoc (a b c : RateRecord) : (a.join b).join c = a.join (b.join c) := by
  apply ext_kinds
  case start => exact min_assoc _ _ _
  case stop => exact max_assoc _ _ _
  case total => exact RateRange.merge_assoc _ _ _
  case sees =>
    intro kind
    simp only [sees_join, or_assoc]
  case rates =>
    intro kind
    simp only [kindRate_join, RateRange.merge_assoc]

instance : Std.Associative join := ⟨join_assoc⟩

theorem merge?_append (front back : List RateRecord) :
    merge? (front ++ back) = Option.merge join (merge? front) (merge? back) := by
  cases front with
  | nil => simp [merge?]
  | cons first rest =>
    cases back with
    | nil => simp [merge?]
    | cons next others =>
      simp only [merge?, List.cons_append, Option.merge, mergeRest_eq_foldl, List.foldl_append,
        List.foldl_cons, List.foldl_assoc]

/-- A record is what some records merge to. -/
def MergedOf (parts : List RateRecord) (record : RateRecord) : Prop := merge? parts = some record

theorem mergedOf_singleton (record : RateRecord) : MergedOf [record] record :=
  congrArg some (mergeRest_nil record)

theorem merge?_flatten {groups : List (List RateRecord)} {merged : List RateRecord}
    (each : List.Forall₂ MergedOf groups merged) : merge? merged = merge? groups.flatten := by
  induction each with
  | nil => rfl
  | @cons group record groups merged here _ ih =>
    have group : merge? group = merge? [record] := here.trans (mergedOf_singleton record).symm
    rw [List.flatten_cons, merge?_append, group, ← ih]
    exact merge?_append [record] merged

end RateRecord

end Telemetry
