import Mathlib.Data.List.Chain
import Telemetry.Proofs.History.Grouping

/-!
What a merged record says of the stretch of records it stands for.
-/

set_option autoImplicit false

namespace Telemetry.RateRecord

/-- Intervals one after the other: none ends before it starts, or after the next one starts. -/
structure Chronological (records : List RateRecord) : Prop where
  formed : ∀ record ∈ records, record.start ≤ record.stop
  following : records.IsChain fun earlier later => earlier.stop ≤ later.start

namespace Chronological

theorem tail {first : RateRecord} {rest : List RateRecord}
    (chronological : Chronological (first :: rest)) : Chronological rest where
  formed record member := chronological.formed record (List.mem_cons_of_mem _ member)
  following := List.IsChain.tail chronological.following

theorem before {first : RateRecord} {rest : List RateRecord}
    (chronological : Chronological (first :: rest)) :
    ∀ record ∈ rest, first.stop ≤ record.start := by
  induction rest generalizing first with
  | nil => simp
  | cons next rest ih =>
    obtain ⟨touches, -⟩ := List.isChain_cons_cons.mp chronological.following
    rw [List.forall_mem_cons]
    refine ⟨touches, fun record member => ?_⟩
    calc first.stop ≤ next.start := touches
      _ ≤ next.stop := chronological.tail.formed next List.mem_cons_self
      _ ≤ record.start := ih chronological.tail record member

theorem pairwise {records : List RateRecord} (chronological : Chronological records) :
    records.Pairwise fun earlier later => earlier.stop ≤ later.start := by
  induction records with
  | nil => exact .nil
  | cons first rest ih => exact .cons chronological.before (ih chronological.tail)

theorem sublist {some all : List RateRecord} (chronological : Chronological all)
    (within : some.Sublist all) : Chronological some where
  formed record member := chronological.formed record (within.subset member)
  following := (chronological.pairwise.sublist within).isChain

theorem join_span {first next : RateRecord} {rest : List RateRecord}
    (chronological : Chronological (first :: next :: rest)) :
    (first.join next).start = first.start ∧ (first.join next).stop = next.stop := by
  have touches := chronological.before next List.mem_cons_self
  have formed := chronological.formed first List.mem_cons_self
  have formed' := chronological.tail.formed next List.mem_cons_self
  constructor
  · exact min_eq_left (Int.le_trans formed touches)
  · exact max_eq_right (Int.le_trans touches formed')

theorem join {first next : RateRecord} {rest : List RateRecord}
    (chronological : Chronological (first :: next :: rest)) :
    Chronological (first.join next :: rest) := by
  obtain ⟨start, stop⟩ := chronological.join_span
  have formed := chronological.formed first List.mem_cons_self
  have touches := chronological.before next List.mem_cons_self
  have formed' := chronological.tail.formed next List.mem_cons_self
  constructor
  · rw [List.forall_mem_cons]
    refine ⟨?_, chronological.tail.tail.formed⟩
    rw [start, stop]
    exact Int.le_trans formed (Int.le_trans touches formed')
  · apply List.Pairwise.isChain
    refine .cons ?_ chronological.tail.tail.pairwise
    rw [stop]
    exact chronological.tail.before

theorem mergeRest_span {first : RateRecord} {rest : List RateRecord}
    (chronological : Chronological (first :: rest)) :
    (mergeRest first rest).start = first.start ∧
      (mergeRest first rest).stop = ((first :: rest).getLast (List.cons_ne_nil _ _)).stop ∧
      (mergeRest first rest).start ≤ (mergeRest first rest).stop := by
  induction rest generalizing first with
  | nil =>
    rw [mergeRest_nil]
    exact ⟨rfl, rfl, chronological.formed first List.mem_cons_self⟩
  | cons next rest ih =>
    obtain ⟨start, stop⟩ := chronological.join_span
    obtain ⟨starts, stops, formed⟩ := ih chronological.join
    rw [mergeRest_cons]
    refine ⟨starts.trans start, stops.trans ?_, formed⟩
    cases rest with
    | nil => exact stop
    | cons => rfl

end Chronological

/-- A record is what its parts come to: from the start of the first to the stop of the last,
with the highest and the lowest of their rates, and with the kinds any of them has seen. -/
structure Summarizes (record : RateRecord) (parts : List RateRecord) : Prop where
  merged : MergedOf parts record
  start : parts.head?.map (·.start) = some record.start
  stop : parts.getLast?.map (·.stop) = some record.stop
  total : record.total.Spans (parts.map (·.total))
  sees : ∀ kind, record.Sees kind ↔ ∃ part ∈ parts, part.Sees kind
  rates : ∀ kind, (record.kindRate kind).Spans (parts.map (·.kindRate kind))

theorem Chronological.summarizes {parts : List RateRecord} {record : RateRecord}
    (chronological : Chronological parts) (merged : MergedOf parts record) :
    record.Summarizes parts := by
  have covers : record.Covers parts := mergedOf_iff_covers.mp merged
  cases parts with
  | nil => cases merged
  | cons first rest =>
    obtain rfl := Option.some.inj merged
    obtain ⟨start, stop, -⟩ := chronological.mergeRest_span
    constructor
    case merged => rfl
    case start => rw [start]; rfl
    case stop => rw [stop, List.getLast?_eq_some_getLast (List.cons_ne_nil _ _)]; rfl
    case total => exact covers.total
    case sees => exact covers.sees
    case rates => exact covers.rates

theorem Chronological.summarizes_each {groups : List (List RateRecord)} {merged : List RateRecord}
    (chronological : Chronological groups.flatten)
    (each : List.Forall₂ MergedOf groups merged) :
    List.Forall₂ (fun parts record => record.Summarizes parts) groups merged := by
  induction each with
  | nil => exact .nil
  | cons here _ ih =>
    rw [List.flatten_cons] at chronological
    have own := chronological.sublist (List.sublist_append_left _ _)
    exact .cons (own.summarizes here) (ih (chronological.sublist (List.sublist_append_right _ _)))

theorem Chronological.of_mergedOf {groups : List (List RateRecord)} {merged : List RateRecord}
    (chronological : Chronological groups.flatten)
    (each : List.Forall₂ MergedOf groups merged) : Chronological merged := by
  -- What is later than all the parts still to come is no later than any record merged of them.
  suffices Chronological merged ∧ ∀ time, (∀ part ∈ groups.flatten, time ≤ part.start) →
      ∀ record ∈ merged, time ≤ record.start from this.1
  induction each with
  | nil => exact ⟨⟨by simp, .nil⟩, by simp⟩
  | @cons group record groups merged here _ ih =>
    rw [List.flatten_cons] at chronological ⊢
    obtain ⟨rest, after⟩ := ih (chronological.sublist (List.sublist_append_right _ _))
    have own := chronological.sublist (List.sublist_append_left group groups.flatten)
    obtain ⟨-, -, apart⟩ := List.pairwise_append.mp chronological.pairwise
    cases group with
    | nil => cases here
    | cons first parts =>
      obtain rfl := Option.some.inj here
      obtain ⟨start, stop, formed⟩ := own.mergeRest_span
      have follows : ∀ later ∈ merged, (mergeRest first parts).stop ≤ later.start := by
        apply after
        rw [stop]
        exact apart _ (List.getLast_mem _)
      refine ⟨⟨List.forall_mem_cons.mpr ⟨formed, rest.formed⟩,
        (List.Pairwise.cons follows rest.pairwise).isChain⟩, ?_⟩
      intro time early
      rw [List.forall_mem_cons, start]
      refine ⟨early first (by simp), after time fun part member => early part ?_⟩
      exact List.mem_append_right _ member

end Telemetry.RateRecord
