import Telemetry.Proofs.History.Merging
import Telemetry.Proofs.History.Records
import Telemetry.History

/-!
Rates that fit together, whatever the clock does.

Main statement: in every record that ticking leads to the start is not after the stop, each kind
of event has its rates, none of them is above those of all events together, and no rate is
computed by an operation that fails.
-/

set_option autoImplicit false

namespace Telemetry

def spanUpTo? (start stop : Instant) : Option Span :=
  if start ≤ stop then some (stop - start).toNat else none

def quotient? (n divisor : Nat) : Option Nat := if divisor = 0 then none else some (n / divisor)

/-- A rate in natural numbers: there is none if the interval ends before it starts, or if the
count would have to be divided by zero. -/
def rateOver? (count : Nat) (start stop : Instant) : Option Nat := do
  let elapsed := (← spanUpTo? start stop).inMillis
  if elapsed ≤ 1000 then return count else quotient? (count * 1000) elapsed

section
variable {start stop : Int}

theorem millisBetween_eq (ordered : start ≤ stop) :
    millisBetween start stop = (Span.inMillis (stop - start).toNat : Nat) := by
  unfold millisBetween Span.inMillis
  rw [Int.tdiv_eq_ediv_of_nonneg (by omega)]
  omega

theorem rateOver?_eq (ordered : start ≤ stop) (count : Nat) :
    rateOver? count start stop = some (rateOver count start stop) := by
  have elapsed := millisBetween_eq ordered
  have span : spanUpTo? start stop = some (stop - start).toNat := if_pos ordered
  simp only [rateOver?, span, Option.bind_eq_bind, Option.bind_some, rateOver, elapsed]
  by_cases short : Span.inMillis (stop - start).toNat ≤ 1000
  · rw [if_pos short, if_pos (by omega)]
    rfl
  · rw [if_neg short, if_neg (by omega), quotient?, if_neg (by omega), Int.toNat_natCast]

theorem rateOver_mono {few many : Nat} (le : few ≤ many) (start stop : Instant) :
    rateOver few start stop ≤ rateOver many start stop := by
  simp only [rateOver]
  split
  · exact le
  · exact Nat.div_le_div_right (Nat.mul_le_mul_right 1000 le)

theorem rateOver_le (count : Nat) (start stop : Instant) : rateOver count start stop ≤ count := by
  simp only [rateOver]
  split
  · exact Nat.le_refl count
  · next long =>
    apply Nat.div_le_of_le_mul
    rw [Nat.mul_comm]
    exact Nat.mul_le_mul_right count (by omega)

end

namespace RateRange

def Ordered (range : RateRange) : Prop := range.low ≤ range.high

structure Below (range bound : RateRange) : Prop where
  high : range.high ≤ bound.high
  low : range.low ≤ bound.low

theorem Ordered.merge {a b : RateRange} (first : a.Ordered) (second : b.Ordered) :
    (a.merge b).Ordered := by
  unfold Ordered at *
  simp only [RateRange.merge]
  omega

theorem Below.merge {a b c d : RateRange} (first : a.Below c) (second : b.Below d) :
    (a.merge b).Below (c.merge d) := by
  obtain ⟨high, low⟩ := first
  obtain ⟨high', low'⟩ := second
  constructor
  · simp only [RateRange.merge]
    omega
  · simp only [RateRange.merge]
    omega

theorem ordered_exactly (rate : Nat) : (exactly rate).Ordered := Nat.le_refl rate

theorem below_exactly {rate bound : Nat} (le : rate ≤ bound) :
    (exactly rate).Below (exactly bound) :=
  ⟨le, le⟩

end RateRange

namespace RateRecord

/-- The figures of a record fit together. -/
structure Coherent (record : RateRecord) : Prop where
  interval : record.start ≤ record.stop
  total : record.total.Ordered
  sees : ∀ kind, record.Sees kind
  kinds : ∀ kind, (record.kindRate kind).Ordered
  below : ∀ kind, (record.kindRate kind).Below record.total

theorem Coherent.join {a b : RateRecord} (first : a.Coherent) (second : b.Coherent) :
    (a.join b).Coherent := by
  constructor
  case interval =>
    exact le_trans (min_le_left _ _) (le_trans first.interval (le_max_left _ _))
  case total => exact first.total.merge second.total
  case sees =>
    intro kind
    rw [sees_join]
    exact .inl (first.sees kind)
  case kinds =>
    intro kind
    rw [kindRate_join]
    exact (first.kinds kind).merge (second.kinds kind)
  case below =>
    intro kind
    rw [kindRate_join]
    exact (first.below kind).merge (second.below kind)

theorem mergeable_coherent : Mergeable Coherent := by
  intro records merged all done
  cases records with
  | nil => cases done
  | cons first rest =>
    cases done
    obtain ⟨here, others⟩ := List.forall_mem_cons.mp all
    rw [mergeRest_eq_foldl]
    clear all
    induction rest generalizing first with
    | nil => exact here
    | cons next rest ih =>
      obtain ⟨second, others⟩ := List.forall_mem_cons.mp others
      exact ih (first.join next) (here.join second) others

theorem perKind_ofCounts (start stop : Instant) (counts : IntervalCounts) (kind : EventKind) :
    (ofCounts start stop counts.total counts.pairs).perKind.get kind =
      some (.exactly (rateOver (counts.perKind.get kind) start stop)) := by
  cases kind <;> rfl

theorem coherent_ofCounts {start stop : Instant} (ordered : start ≤ stop) {counts : IntervalCounts}
    (bounded : ∀ kind, counts.perKind.get kind ≤ counts.total) :
    (ofCounts start stop counts.total counts.pairs).Coherent := by
  have rates : ∀ kind, (ofCounts start stop counts.total counts.pairs).kindRate kind =
      .exactly (rateOver (counts.perKind.get kind) start stop) := by
    intro kind
    rw [kindRate, perKind_ofCounts]
    rfl
  constructor
  case interval => exact ordered
  case total => exact RateRange.ordered_exactly _
  case sees =>
    intro kind
    rw [Sees, perKind_ofCounts]
    rfl
  case kinds =>
    intro kind
    rw [rates]
    exact RateRange.ordered_exactly _
  case below =>
    -- Rates over one interval are in the order of the counts.
    intro kind
    rw [rates]
    exact RateRange.below_exactly (rateOver_mono (bounded kind) start stop)

end RateRecord

def Counters.Bounded (counters : Counters) : Prop :=
  ∀ kind, counters.interval.perKind.get kind ≤ counters.interval.total

namespace Counters

theorem bounded_create : Bounded {} := by
  intro kind
  cases kind <;> exact Nat.le_refl 0

theorem Bounded.record {counters : Counters} (bounded : counters.Bounded) (kind : EventKind) :
    (counters.record kind).Bounded := by
  intro asked
  simp only [Counters.record, PerKind.get_set]
  split
  · exact Nat.succ_le_succ (bounded kind)
  · exact Nat.le_succ_of_le (bounded asked)

end Counters

namespace Recorder

inductive Call where
  | count (kind : EventKind)
  | reset
  | tick (now : Instant)
  | clear (now : Instant)

def perform : Recorder × Counters → Call → Recorder × Counters
  | (recorder, counters), .count kind => (recorder, counters.record kind)
  | (recorder, counters), .reset => (recorder, counters.reset)
  | (recorder, counters), .tick now => recorder.tick counters now
  | (recorder, counters), .clear now => (recorder.clear now, counters)

def run (state : Recorder × Counters) (calls : List Call) : Recorder × Counters :=
  calls.foldl perform state

/-- What holds of a recorder and its counters after any calls. -/
structure Coherent (recorder : Recorder) (counters : Counters) : Prop where
  counters : counters.Bounded
  history : recorder.history.All RateRecord.Coherent
  displayed : ∀ record ∈ recorder.displayed, record.Coherent

section
variable {recorder : Recorder} {counters : Counters}

theorem coherent_create (limits : HistoryLimits) (created : Instant) :
    (create limits created).Coherent {} where
  counters := Counters.bounded_create
  history := by simp [create, History.create, History.All]
  displayed := by simp [create]

theorem Coherent.taken (coherent : recorder.Coherent counters) (now : Instant) :
    (recorder.history.taken counters now).Coherent :=
  RateRecord.coherent_ofCounts (min_le_right _ _) coherent.counters

theorem Coherent.perform (coherent : recorder.Coherent counters) (call : Call) :
    (perform (recorder, counters) call).1.Coherent (perform (recorder, counters) call).2 := by
  cases call with
  | count kind => exact ⟨coherent.counters.record kind, coherent.history, coherent.displayed⟩
  | reset => exact ⟨Counters.bounded_create, coherent.history, coherent.displayed⟩
  | tick now =>
    have ticked : (recorder.history.tick counters now).1.All RateRecord.Coherent :=
      coherent.history.tick RateRecord.mergeable_coherent (coherent.taken now)
    exact ⟨Counters.bounded_create, ticked, ticked.ordered⟩
  | clear now =>
    refine ⟨coherent.counters, History.all_clear _ _ now, ?_⟩
    simp [Recorder.perform, clear, publish]

theorem Coherent.run (coherent : recorder.Coherent counters) (calls : List Call) :
    (run (recorder, counters) calls).1.Coherent (run (recorder, counters) calls).2 := by
  induction calls generalizing recorder counters with
  | nil => exact coherent
  | cons call rest ih => exact ih (coherent.perform call)

end

/-- Whatever was counted, and at whatever instants the recorder has ticked and was cleared: all
its records are coherent, those on display too, and at the next tick each rate can be computed
and is at most its count. -/
theorem records_coherent (limits : HistoryLimits) (created : Instant) (calls : List Call) :
    let (recorder, counters) := run (create limits created, {}) calls
    recorder.history.All RateRecord.Coherent ∧
    (∀ record ∈ recorder.displayed, record.Coherent) ∧
    ∀ now, (recorder.history.taken counters now).Coherent ∧
      ∀ count ∈ counters.interval.total :: counters.interval.pairs.map (·.2),
        let start := min recorder.history.lastTick now
        rateOver? count start now = some (rateOver count start now) ∧
        rateOver count start now ≤ count := by
  have coherent := (coherent_create limits created).run calls
  refine ⟨coherent.history, coherent.displayed, fun now => ⟨coherent.taken now, ?_⟩⟩
  intro count _ start
  exact ⟨rateOver?_eq (min_le_right _ _) count, rateOver_le count start now⟩

end Recorder

end Telemetry
