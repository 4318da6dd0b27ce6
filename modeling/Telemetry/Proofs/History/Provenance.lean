import Mathlib.Data.List.Flatten
import Telemetry.History
import Telemetry.Proofs.History.Summary

/-!
Which records a history is made of.

Main statement: every record that is displayed is merged of a stretch of the records taken,
each stretch lies before the next, and the finest tier holds the newest records as they came.
-/

set_option autoImplicit false

namespace Telemetry

open RateRecord (MergedOf)

namespace Tier

theorem consolidate_limit (tier : Tier) : tier.consolidate.1.limit = tier.limit := by
  unfold consolidate
  split
  · rfl
  · split <;> rfl

theorem cascade_cons (record : RateRecord) (tier : Tier) (coarser : List Tier) :
    cascade record (tier :: coarser) = (tier.append record).consolidate.1 ::
      (tier.append record).consolidate.2.elim coarser (cascade · coarser) := by
  rw [cascade]
  split
  · next rest kept => rw [kept]; rfl
  · next rest merged kept => rw [kept]; rfl

theorem consolidate_records {tier : Tier} {limit : Nat} (limited : tier.limit = some limit) :
    tier.consolidate.1.records =
      if tier.records.length ≤ limit then tier.records
      else newest (limit / 2) (tier.records.drop (limit / 2)) := by
  obtain ⟨_, records⟩ := tier
  cases limited
  simp only [consolidate]
  split_ifs <;> rfl

theorem cascade_limits (record : RateRecord) (tiers : List Tier) :
    (cascade record tiers).map (·.limit) = tiers.map (·.limit) := by
  induction tiers generalizing record with
  | nil => rfl
  | cons tier coarser ih =>
    rw [cascade_cons, List.map_cons, List.map_cons, consolidate_limit]
    cases (tier.append record).consolidate.2 with
    | none => rfl
    | some merged =>
      rw [Option.elim_some, ih]
      rfl

/-- The records of a tier are merged of some groups of records, one of each. -/
def Traces (groups : List (List RateRecord)) (tier : Tier) : Prop :=
  List.Forall₂ MergedOf groups tier.records

theorem Traces.consolidate {groups : List (List RateRecord)} {tier : Tier}
    (traces : Traces groups tier) :
    ∃ given kept, Traces kept tier.consolidate.1 ∧
      (∀ merged, tier.consolidate.2 = some merged → MergedOf given merged) ∧
      (given ++ kept.flatten).Sublist groups.flatten := by
  unfold Tier.consolidate
  split
  · exact ⟨[], groups, traces, by simp, .refl _⟩
  · next limit _ =>
    split
    · exact ⟨[], groups, traces, by simp, .refl _⟩
    · -- What is dropped between the two halves leaves no trace, so the groups are only a part.
      let half := limit / 2
      let excess := (tier.records.drop half).length - half
      refine ⟨(groups.take half).flatten, (groups.drop half).drop excess, ?_, ?_, ?_⟩
      · exact List.forall₂_drop excess (List.forall₂_drop half traces)
      · intro merged passed
        rw [MergedOf, ← RateRecord.merge?_flatten (List.forall₂_take half traces)]
        exact passed
      · have whole : groups.flatten = (groups.take half).flatten ++ (groups.drop half).flatten := by
          rw [← List.flatten_append, List.take_append_drop]
        rw [whole]
        exact ((List.drop_sublist excess _).flatten).append_left _

def lineage (groups : List (List (List RateRecord))) : List RateRecord :=
  groups.reverse.flatten.flatten

theorem lineage_cons (finest : List (List RateRecord)) (coarser : List (List (List RateRecord))) :
    lineage (finest :: coarser) = lineage coarser ++ finest.flatten := by
  simp [lineage]

theorem traces_cascade {record : RateRecord} {part : List RateRecord} (new : MergedOf part record)
    {groups : List (List (List RateRecord))} {tiers : List Tier}
    (traces : List.Forall₂ Traces groups tiers) :
    ∃ grown, List.Forall₂ Traces grown (cascade record tiers) ∧
      (lineage grown).Sublist (lineage groups ++ part) := by
  induction traces generalizing record part with
  | nil => exact ⟨[], .nil, List.nil_sublist _⟩
  | @cons finest tier coarser tiers here others ih =>
    have appended : Traces (finest ++ [part]) (tier.append record) :=
      List.rel_append here (.cons new .nil)
    obtain ⟨given, kept, keeps, passes, within⟩ := appended.consolidate
    rw [cascade_cons, lineage_cons]
    rw [List.flatten_concat] at within
    cases passed : (tier.append record).consolidate.2 with
    | none =>
      refine ⟨kept :: coarser, .cons keeps others, ?_⟩
      rw [lineage_cons, List.append_assoc]
      exact ((List.sublist_append_right _ _).trans within).append_left _
    | some merged =>
      -- What is passed on is newer than all the coarser tiers and older than what is kept.
      obtain ⟨grown, traced, below⟩ := ih (passes merged passed)
      refine ⟨kept :: grown, .cons keeps traced, ?_⟩
      rw [lineage_cons, List.append_assoc]
      refine (below.append_right kept.flatten).trans ?_
      rw [List.append_assoc]
      exact within.append_left _

end Tier

namespace History

inductive Arises (limits : HistoryLimits) : History → Prop where
  | create (now : Instant) : Arises limits (create limits now)
  | record {history : History} (record : RateRecord) : Arises limits history →
      Arises limits (history.record record)
  | tick {history : History} (counters : Counters) (now : Instant) : Arises limits history →
      Arises limits (history.tick counters now).1
  | clear {history : History} (now : Instant) : Arises limits history →
      Arises limits (history.clear now)

theorem Arises.limits_eq {limits : HistoryLimits} {history : History}
    (arises : Arises limits history) (now : Instant) :
    history.tiers.map (·.limit) = (History.create limits now).tiers.map (·.limit) := by
  induction arises with
  | create => rfl
  | record _ _ ih => exact (Tier.cascade_limits _ _).trans ih
  | tick _ _ _ ih => exact (Tier.cascade_limits _ _).trans ih
  | @clear history _ _ ih =>
    rw [← ih, History.clear, List.map_map]
    rfl

theorem Arises.clear_eq {limits : HistoryLimits} {history : History}
    (arises : Arises limits history) (now : Instant) : history.clear now = .create limits now := by
  have emptied : history.tiers.map (fun tier => { tier with records := [] }) =
      (history.tiers.map (·.limit)).map fun limit => ⟨limit, []⟩ := by
    rw [List.map_map]
    rfl
  rw [History.clear, emptied, arises.limits_eq now]
  rfl

def recordAll (history : History) (records : List RateRecord) : History :=
  records.foldl record history

/-- The records taken so far leave their traces in every tier. -/
def Traced (past : List RateRecord) (history : History) : Prop :=
  ∃ groups, List.Forall₂ Tier.Traces groups history.tiers ∧ (Tier.lineage groups).Sublist past

theorem Traced.record {past : List RateRecord} {history : History} (traced : Traced past history)
    (record : RateRecord) : Traced (past ++ [record]) (history.record record) := by
  obtain ⟨groups, traces, within⟩ := traced
  obtain ⟨grown, traces, further⟩ :=
    Tier.traces_cascade (RateRecord.mergedOf_singleton record) traces
  exact ⟨grown, traces, further.trans (within.append_right _)⟩

theorem Traced.recordAll {past : List RateRecord} {history : History}
    (traced : Traced past history) (records : List RateRecord) :
    Traced (past ++ records) (history.recordAll records) := by
  induction records generalizing past history with
  | nil => simpa [History.recordAll] using traced
  | cons record rest ih =>
    have later := ih (traced.record record)
    rwa [List.append_assoc] at later

theorem traced_create (limits : HistoryLimits) (now : Instant) :
    Traced [] (create limits now) := by
  refine ⟨[[], [], [], [], []], ?_, List.nil_sublist _⟩
  simp [create, Tier.Traces]

theorem Traced.ordered {past : List RateRecord} {history : History}
    (traced : Traced past history) :
    ∃ groups, List.Forall₂ MergedOf groups history.ordered ∧ groups.flatten.Sublist past := by
  obtain ⟨groups, traces, within⟩ := traced
  refine ⟨groups.reverse.flatten, ?_, within⟩
  rw [History.ordered, List.flatMap_def]
  apply List.rel_flatten
  rw [List.forall₂_map_right_iff]
  exact List.rel_reverse traces

/-- The newest records as they came, and at least as many as half a limit. -/
structure Newest (limit : Nat) (past : List RateRecord) (finest : Tier) : Prop where
  limited : finest.limit = some limit
  suffix : finest.records <:+ past
  enough : min past.length (limit / 2) ≤ finest.records.length

theorem Newest.consolidate {limit : Nat} {past : List RateRecord} {finest : Tier}
    (newest : Newest limit past finest) (record : RateRecord) :
    Newest limit (past ++ [record]) (finest.append record).consolidate.1 := by
  have suffix : (finest.append record).records <:+ past ++ [record] :=
    List.suffix_append_self_iff.mpr newest.suffix
  have length : (finest.append record).records.length = finest.records.length + 1 :=
    List.length_append
  have limited : (finest.append record).limit = some limit := newest.limited
  refine ⟨(Tier.consolidate_limit _).trans limited, ?_, ?_⟩
  · rw [Tier.consolidate_records limited]
    split
    · exact suffix
    · exact ((List.drop_suffix _ _).trans (List.drop_suffix _ _)).trans suffix
  · rw [Tier.consolidate_records limited, List.length_append, List.length_singleton]
    split
    · have enough := newest.enough
      omega
    -- A tier beyond its limit has two halves of the limit, and keeps the newer.
    · simp only [Tier.newest, List.length_drop]
      omega

theorem newest_recordAll {limit : Nat} {past : List RateRecord} {history : History}
    {finest : Tier} {coarser : List Tier} (tiers : history.tiers = finest :: coarser)
    (newest : Newest limit past finest) (records : List RateRecord) :
    ∃ finest coarser, (history.recordAll records).tiers = finest :: coarser ∧
      Newest limit (past ++ records) finest := by
  induction records generalizing past history finest coarser with
  | nil => exact ⟨finest, coarser, tiers, by simpa using newest⟩
  | cons record rest ih =>
    have recorded : (history.record record).tiers = (finest.append record).consolidate.1 ::
        (finest.append record).consolidate.2.elim coarser (Tier.cascade · coarser) := by
      rw [History.record, tiers, Tier.cascade_cons]
    have later := ih recorded (newest.consolidate record)
    rwa [List.append_assoc] at later

theorem exists_map_eq_of_flatten_eq_map {α β : Type} {f : α → β} {parts : List (List β)}
    {places : List α} (same : parts.flatten = places.map f) :
    ∃ split : List (List α), split.flatten = places ∧ split.map (·.map f) = parts := by
  induction parts generalizing places with
  | nil =>
    have none : places = [] := List.map_eq_nil_iff.mp same.symm
    exact ⟨[], none.symm, rfl⟩
  | cons part parts ih =>
    obtain ⟨first, rest, rfl, rfl, others⟩ := List.map_eq_append_iff.mp same.symm
    obtain ⟨split, rfl, rfl⟩ := ih others.symm
    exact ⟨first :: split, rfl, rfl⟩

/-- Every record displayed sums up some of the records taken since the history was created or
cleared, at places of its own that lie before the places of the next. The finest tier holds
the newest records as they came. This needs nothing of the limits. -/
theorem ordered_summarizes (limits : HistoryLimits) (now : Instant) (start : History)
    (fresh : start = create limits now ∨ ∃ live, Arises limits live ∧ start = live.clear now)
    (records : List RateRecord) (chronological : RateRecord.Chronological records) :
    let after := start.recordAll records
    (∃ places : List (List (Fin records.length)), places.flatten.Pairwise (· < ·) ∧
      List.Forall₂ (fun stretch entry => entry.Summarizes (stretch.map records.get)) places
        after.ordered) ∧
    (∃ finest coarser, after.tiers = finest :: coarser ∧ finest.records <:+ records ∧
      min records.length (limits.second / 2) ≤ finest.records.length) ∧
    RateRecord.Chronological after.ordered := by
  intro after
  obtain rfl : start = create limits now := by
    rcases fresh with rfl | ⟨live, arises, rfl⟩
    · rfl
    · exact arises.clear_eq now
  -- The groups of all tiers, oldest first, are a part of all records in their order.
  obtain ⟨groups, merged, within⟩ := ((traced_create limits now).recordAll records).ordered
  rw [List.nil_append] at within
  refine ⟨?_, ?_, (chronological.sublist within).of_mergedOf merged⟩
  · obtain ⟨flat, same, increasing⟩ := List.sublist_eq_map_getElem within
    obtain ⟨places, rfl, rfl⟩ := exists_map_eq_of_flatten_eq_map same
    have summaries := (chronological.sublist within).summarizes_each merged
    exact ⟨places, increasing, List.forall₂_map_left_iff.mp summaries⟩
  · have none : Newest limits.second [] ⟨some limits.second, []⟩ := ⟨rfl, List.nil_suffix, by simp⟩
    obtain ⟨finest, coarser, tiers, newest⟩ :=
      newest_recordAll (rfl : (create limits now).tiers = _ :: _) none records
    exact ⟨finest, coarser, tiers, newest.suffix, newest.enough⟩

/-- Five records in a finest tier of four: the first two become one, the third is dropped. -/
theorem ordered_summarizes_five :
    let record (i rate : Nat) (kinds : Option RateRange) : RateRecord :=
      ⟨i, i + 1, .exactly rate, .ofFn fun _ => kinds⟩
    let records := [record 0 3 none, record 1 5 (some (.exactly 5)), record 2 9 none,
      record 3 1 none, record 4 2 none]
    let limits : HistoryLimits := { second := 4, minute := 2, tenMinute := 2, hour := 2 }
    let live := (create limits 0).record (record 9 9 none)
    let after := (live.clear 1).recordAll records
    Arises limits live ∧ RateRecord.Chronological records ∧
      after.ordered.map (·.total) = [⟨5, 3⟩, ⟨1, 1⟩, ⟨2, 2⟩] ∧
      after.ordered.map (·.kindRate .other) = [⟨5, 0⟩, ⟨0, 0⟩, ⟨0, 0⟩] ∧
      ∃ places : List (List (Fin 5)), places.flatten.Pairwise (· < ·) ∧
        List.Forall₂ (fun stretch entry => entry.Summarizes (stretch.map records.get)) places
          after.ordered := by
  intro record records limits live after
  have arises : Arises limits live := .record _ (.create 0)
  have chronological : RateRecord.Chronological records := by
    constructor <;> simp [records, record]
  refine ⟨arises, chronological, by decide, by decide, ?_⟩
  exact (ordered_summarizes limits 1 _ (.inr ⟨live, arises, rfl⟩) records chronological).1

end History

end Telemetry
