import Telemetry.History

/-!
Where the records of a history come from.

A record is taken at a tick or merged of earlier ones. What holds of every record taken, and
of a merged record as soon as it holds of its parts, holds of the whole history.
-/

set_option autoImplicit false

namespace Telemetry

def RateRecord.Mergeable (keeps : RateRecord → Prop) : Prop :=
  ∀ records merged, (∀ record ∈ records, keeps record) →
    RateRecord.merge? records = some merged → keeps merged

variable {keeps : RateRecord → Prop}

namespace Tier

theorem mem_newest {n : Nat} {records : List RateRecord} {record : RateRecord}
    (member : record ∈ newest n records) : record ∈ records :=
  List.mem_of_mem_drop member

theorem consolidate_keeps (mergeable : RateRecord.Mergeable keeps) {tier : Tier}
    (all : ∀ record ∈ tier.records, keeps record) :
    (∀ record ∈ tier.consolidate.1.records, keeps record) ∧
      ∀ merged, tier.consolidate.2 = some merged → keeps merged := by
  unfold consolidate
  split
  · refine ⟨all, ?_⟩
    intro merged impossible
    cases impossible
  · split
    · refine ⟨all, ?_⟩
      intro merged impossible
      cases impossible
    · constructor
      · intro record member
        exact all record (List.mem_of_mem_drop (mem_newest member))
      · intro merged passed
        exact mergeable _ merged (fun record member => all record (List.mem_of_mem_take member))
          passed

theorem cascade_keeps (mergeable : RateRecord.Mergeable keeps) {record : RateRecord}
    (new : keeps record) {tiers : List Tier}
    (all : ∀ tier ∈ tiers, ∀ record ∈ tier.records, keeps record) :
    ∀ tier ∈ cascade record tiers, ∀ record ∈ tier.records, keeps record := by
  -- By the tiers from the finest on, since what is passed on is one more record that keeps.
  induction tiers generalizing record with
  | nil => exact all
  | cons tier coarser ih =>
    have appended : ∀ other ∈ (tier.append record).records, keeps other := by
      intro other member
      rcases List.mem_append.mp member with old | last
      · exact all tier List.mem_cons_self other old
      · rw [List.mem_singleton.mp last]
        exact new
    have others : ∀ tier ∈ coarser, ∀ record ∈ tier.records, keeps record :=
      fun tier member => all tier (List.mem_cons_of_mem _ member)
    obtain ⟨kept, passed⟩ := consolidate_keeps mergeable appended
    unfold cascade
    split
    · next rest consolidated =>
      rw [consolidated] at kept
      exact List.forall_mem_cons.mpr ⟨kept, others⟩
    · next rest merged consolidated =>
      rw [consolidated] at kept passed
      exact List.forall_mem_cons.mpr ⟨kept, ih (passed merged rfl) others⟩

end Tier

namespace History

def All (keeps : RateRecord → Prop) (history : History) : Prop :=
  ∀ tier ∈ history.tiers, ∀ record ∈ tier.records, keeps record

def taken (history : History) (counters : Counters) (now : Instant) : RateRecord :=
  .ofCounts (min history.lastTick now) now counters.interval.total counters.interval.pairs

theorem All.tick {history : History} (all : history.All keeps)
    (mergeable : RateRecord.Mergeable keeps) {counters : Counters} {now : Instant}
    (new : keeps (history.taken counters now)) : (history.tick counters now).1.All keeps :=
  Tier.cascade_keeps mergeable new all

theorem all_clear (keeps : RateRecord → Prop) (history : History) (now : Instant) :
    (history.clear now).All keeps := by
  intro tier member record within
  obtain ⟨before, -, rfl⟩ := List.mem_map.mp member
  cases within

theorem All.ordered {history : History} (all : history.All keeps) :
    ∀ record ∈ history.ordered, keeps record := by
  intro record member
  obtain ⟨tier, within, recorded⟩ := List.mem_flatMap.mp member
  exact all tier (List.mem_reverse.mp within) record recorded

end History

end Telemetry
