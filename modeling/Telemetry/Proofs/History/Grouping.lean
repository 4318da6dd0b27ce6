import Telemetry.Proofs.History.Merging

/-!
The order in which records are merged, and in which groups.

Main statement: what some records merge to depends on nothing but which records there are. It is
the same for every order, and when they are merged in groups first.
-/

set_option autoImplicit false

namespace Telemetry

namespace RateRange

theorem Spans.congr {range : RateRange} {left right : List RateRange} (spans : range.Spans left)
    (same : ∀ other, other ∈ left ↔ other ∈ right) : range.Spans right := by
  have members : {other | other ∈ left} = {other | other ∈ right} := Set.ext same
  constructor
  · rw [← members]
    exact spans.high
  · rw [← members]
    exact spans.low

theorem Spans.unique {a b : RateRange} {ranges : List RateRange} (first : a.Spans ranges)
    (second : b.Spans ranges) : a = b := by
  have high : a.high = b.high := first.high.unique second.high
  have low : a.low = b.low := first.low.unique second.low
  cases a
  cases b
  cases high
  cases low
  rfl

end RateRange

namespace RateRecord

/-- A record tells of others what a merge of them tells: from the earliest start to the latest
stop, with the highest and the lowest of their rates, and with the kinds any of them has seen. -/
structure Covers (record : RateRecord) (parts : List RateRecord) : Prop where
  start : IsLeast (Set.image (·.start) {part | part ∈ parts}) record.start
  stop : IsGreatest (Set.image (·.stop) {part | part ∈ parts}) record.stop
  total : record.total.Spans (parts.map (·.total))
  sees : ∀ kind, record.Sees kind ↔ ∃ part ∈ parts, part.Sees kind
  rates : ∀ kind, (record.kindRate kind).Spans (parts.map (·.kindRate kind))

section
variable {a b record : RateRecord} {parts left right : List RateRecord}

theorem covers_singleton (record : RateRecord) : record.Covers [record] where
  start := by simp [isLeast_singleton]
  stop := by simp [isGreatest_singleton]
  total := record.total.spans_singleton
  sees := by simp
  rates kind := (record.kindRate kind).spans_singleton

theorem Covers.join (first : a.Covers left) (second : b.Covers right) :
    (a.join b).Covers (left ++ right) := by
  have both : {part | part ∈ left ++ right} = {part | part ∈ left} ∪ {part | part ∈ right} := by
    ext part
    exact List.mem_append
  constructor
  case start =>
    rw [both, Set.image_union]
    exact first.start.union second.start
  case stop =>
    rw [both, Set.image_union]
    exact first.stop.union second.stop
  case total =>
    rw [List.map_append]
    exact first.total.merge second.total
  case sees =>
    intro kind
    rw [sees_join, first.sees, second.sees]
    simp only [List.mem_append, or_and_right, exists_or]
  case rates =>
    intro kind
    rw [kindRate_join, List.map_append]
    exact (first.rates kind).merge (second.rates kind)

theorem Covers.foldl (covers : record.Covers parts) (rest : List RateRecord) :
    (rest.foldl RateRecord.join record).Covers (parts ++ rest) := by
  induction rest generalizing record parts with
  | nil =>
    rw [List.append_nil]
    exact covers
  | cons next rest ih =>
    have further := ih (covers.join next.covers_singleton)
    rwa [List.append_assoc] at further

theorem Covers.congr (covers : record.Covers left) (same : ∀ part, part ∈ left ↔ part ∈ right) :
    record.Covers right := by
  have members : {part | part ∈ left} = {part | part ∈ right} := Set.ext same
  constructor
  case start =>
    rw [← members]
    exact covers.start
  case stop =>
    rw [← members]
    exact covers.stop
  case total =>
    refine covers.total.congr fun range => ?_
    simp only [List.mem_map, same]
  case sees =>
    intro kind
    simp only [covers.sees, same]
  case rates =>
    intro kind
    refine (covers.rates kind).congr fun range => ?_
    simp only [List.mem_map, same]

theorem Covers.unique (first : a.Covers parts) (second : b.Covers parts) : a = b := by
  apply ext_kinds
  case start => exact first.start.unique second.start
  case stop => exact first.stop.unique second.stop
  case total => exact first.total.unique second.total
  case sees =>
    intro kind
    rw [first.sees, second.sees]
  case rates => exact fun kind => (first.rates kind).unique (second.rates kind)

theorem Covers.low_eq_zero (covers : record.Covers parts) {kind : EventKind} {part : RateRecord}
    (member : part ∈ parts) (lacks : ¬ part.Sees kind) : (record.kindRate kind).low = 0 := by
  have within : part.kindRate kind ∈ parts.map (·.kindRate kind) := List.mem_map_of_mem member
  have least : (record.kindRate kind).low ≤ (part.kindRate kind).low :=
    (covers.rates kind).low.2 ⟨_, within, rfl⟩
  rw [kindRate_of_not_sees lacks] at least
  exact Nat.le_zero.mp least

theorem exists_mergedOf_covers (filled : parts ≠ []) :
    ∃ record, MergedOf parts record ∧ record.Covers parts := by
  obtain ⟨first, rest, rfl⟩ := List.exists_cons_of_ne_nil filled
  refine ⟨mergeRest first rest, rfl, ?_⟩
  rw [mergeRest_eq_foldl]
  exact first.covers_singleton.foldl rest

theorem mergedOf_iff_covers : MergedOf parts record ↔ record.Covers parts := by
  constructor
  · intro merged
    have filled : parts ≠ [] := by
      rintro rfl
      cases merged
    obtain ⟨other, merges, covers⟩ := exists_mergedOf_covers filled
    obtain rfl : record = other := Option.some.inj (merged.symm.trans merges)
    exact covers
  · intro covers
    have filled : parts ≠ [] := by
      rintro rfl
      obtain ⟨part, member, -⟩ := covers.start.1
      cases member
    -- What the records do merge to covers them as well, so it is this record.
    obtain ⟨other, merges, same⟩ := exists_mergedOf_covers filled
    rwa [covers.unique same]

theorem merge?_congr (same : ∀ part, part ∈ left ↔ part ∈ right) : merge? left = merge? right := by
  apply Option.ext
  intro record
  show MergedOf left record ↔ MergedOf right record
  rw [mergedOf_iff_covers, mergedOf_iff_covers]
  exact ⟨fun covers => covers.congr same, fun covers => covers.congr fun part => (same part).symm⟩

theorem exists_merged {groups : List (List RateRecord)} (filled : ∀ group ∈ groups, group ≠ []) :
    ∃ merged, List.Forall₂ MergedOf groups merged := by
  induction groups with
  | nil => exact ⟨[], .nil⟩
  | cons group groups ih =>
    obtain ⟨here, others⟩ := List.forall_mem_cons.mp filled
    obtain ⟨record, merges, -⟩ := exists_mergedOf_covers here
    obtain ⟨merged, each⟩ := ih others
    exact ⟨record :: merged, .cons merges each⟩

end

/-- Records merge to one that covers them, and to the same one in any order, and when the groups
they are cut into are merged first. A kind that a record lacks has a lowest rate of zero. -/
theorem merged_however_grouped {records : List RateRecord} (filled : records ≠ []) :
    ∃ record, MergedOf records record ∧ record.Covers records ∧
      (∀ kind, (∃ part ∈ records, ¬ part.Sees kind) → (record.kindRate kind).low = 0) ∧
      (∀ groups, groups.flatten = records → (∀ group ∈ groups, group ≠ []) →
        ∃ merged, List.Forall₂ MergedOf groups merged ∧ MergedOf merged record) ∧
      ∀ others, records.Perm others → MergedOf others record := by
  obtain ⟨record, merges, covers⟩ := exists_mergedOf_covers filled
  refine ⟨record, merges, covers, ?_, ?_, ?_⟩
  · rintro kind ⟨part, member, lacks⟩
    exact covers.low_eq_zero member lacks
  · rintro groups rfl parted
    obtain ⟨merged, each⟩ := exists_merged parted
    exact ⟨merged, each, (merge?_flatten each).trans merges⟩
  · intro others reordered
    exact (merge?_congr fun part => reordered.mem_iff.symm).trans merges

/-- Of three seconds only the second had counters. -/
theorem merged_however_grouped_counters :
    let quiet := ofCounts 0 1000000000 10 [(.httpStartStop, 5)]
    let busy := ofCounts 1000000000 2000000000 30 [(.httpStartStop, 25), (.counterEvent, 4)]
    let calm := ofCounts 2000000000 3000000000 20 [(.httpStartStop, 1)]
    [quiet, busy, calm] ≠ [] ∧
      ∃ record, MergedOf [quiet, busy, calm] record ∧
        (∃ merged, List.Forall₂ MergedOf [[quiet], [busy, calm]] merged ∧
          MergedOf merged record) ∧
        MergedOf [busy, calm, quiet] record ∧
        record.Sees .counterEvent ∧ (record.kindRate .counterEvent).low = 0 ∧
        ¬ record.Sees .logMessage := by
  intro quiet busy calm
  have filled : [quiet, busy, calm] ≠ [] := List.cons_ne_nil _ _
  obtain ⟨record, merges, covers, low, cut, reordered⟩ := merged_however_grouped filled
  refine ⟨filled, record, merges, cut _ rfl (by decide), ?_, ?_, ?_, ?_⟩
  · exact reordered _ (List.perm_append_singleton quiet [busy, calm]).symm
  · exact (covers.sees _).mpr ⟨busy, by simp, rfl⟩
  · exact low _ ⟨quiet, by simp, nofun⟩
  · rw [covers.sees]
    rintro ⟨part, member, seen⟩
    simp only [List.mem_cons, List.not_mem_nil, or_false] at member
    rcases member with rfl | rfl | rfl <;> cases seen

end RateRecord

end Telemetry
