import Telemetry.Proofs.Window.Levels
import Telemetry.Time.Civil

/-!
The clock of a series, and readings by a clock that lags.

Instants before the creation of a series count as the creation, and a reading ends no earlier
than at the newest sample. Main statement: so the epochs follow the instants and a clock that lags
loses nothing; but an instant so long before the creation that the distance overflows counts as
the last one there is, and neither holds of it.
-/

set_option autoImplicit false

namespace Telemetry

/-- The first instant of the calendar, at the start of the year -262143. -/
def firstInstant : Instant := -8334601228800 * 1000000000

/-- The last instant of the calendar, at the end of the year 262142. -/
def lastInstant : Instant := 8210266876800 * 1000000000 - 1

def Dated (t : Instant) : Prop := firstInstant ≤ t ∧ t ≤ lastInstant

instance (t : Instant) : Decidable (Dated t) := inferInstanceAs (Decidable (_ ∧ _))

example : (Civil.clockOf firstInstant).date = ⟨-262143, 1, 1⟩ ∧
    (Civil.clockOf lastInstant).date = ⟨262142, 12, 31⟩ := by decide +kernel

namespace Window

/-- An instant so long before another one that the microseconds between them are no signed 64-bit
number. -/
def Remote (created t : Instant) : Prop := (t - created).tdiv 1000 < -2 ^ 63

instance (created t : Instant) : Decidable (Remote created t) :=
  inferInstanceAs (Decidable (_ < _))

def lastOffset : Nat := 2 ^ 63 - 1

theorem Remote.earlier {created a b : Instant} (remote : Remote created b) (order : a ≤ b) :
    Remote created a :=
  Int.lt_of_le_of_lt (Int.tdiv_le_tdiv (by decide) (Int.sub_le_sub_right order created)) remote

theorem Sample.ofValues_filter_eq_iff {samples : List Sample} {kept : Sample → Bool}
    (few : samples.length < 2 ^ 64) :
    Totals.ofValues ((samples.filter kept).map (·.value)) = .ofValues (samples.map (·.value)) ↔
      ∀ sample ∈ samples, kept sample = true := by
  constructor
  · intro same
    have fewer := List.length_filter_le kept samples
    have counts := congrArg Totals.count same
    simp only [Totals.ofValues, List.length_map, capped, counterMax] at counts
    exact List.length_filter_eq_length_iff.mp (by omega)
  · intro all
    rw [List.filter_eq_self.mpr all]

namespace Series

section
variable {series : Series} {a b t : Instant}

theorem offset_remote (remote : Remote series.created t) : series.offset t = lastOffset := by
  have beyond : microsBetween? series.created t = none :=
    if_neg fun within => Int.not_lt.mpr within.1 remote
  rw [offset, beyond]
  rfl

theorem offset_of_not_remote (within : ¬ Remote series.created t) :
    series.offset t = min (elapsed series.created t) lastOffset := by
  unfold Remote at within
  unfold offset microsBetween? elapsed lastOffset
  dsimp only
  split <;> simp only [Option.getD_some, Option.getD_none] <;> omega

theorem offset_le_last (series : Series) (t : Instant) : series.offset t ≤ lastOffset :=
  Nat.le_pred_of_lt (series.offset_lt t)

theorem offset_mono (within : ¬ Remote series.created a) (order : a ≤ b) :
    series.offset a ≤ series.offset b := by
  rw [offset_of_not_remote within, offset_of_not_remote fun remote => within (remote.earlier order)]
  have later : elapsed series.created a ≤ elapsed series.created b := elapsed_mono order
  omega

theorem offset_before (within : ¬ Remote series.created t) (before : t ≤ series.created) :
    series.offset t = 0 := by
  have start : elapsed series.created series.created = 0 := by rw [elapsed, Int.sub_self]; rfl
  have early : elapsed series.created t ≤ elapsed series.created series.created :=
    elapsed_mono before
  rw [offset_of_not_remote within]
  omega

theorem epoch_remote (remote : Remote series.created t) :
    series.epoch t = series.epochAt lastOffset := by
  rw [epoch, offset_remote remote]
  rfl

theorem epoch_le_iff (order : a ≤ b) : series.epoch a ≤ series.epoch b ↔
    (Remote series.created a → series.epoch b = series.epochAt lastOffset) := by
  have bound : series.epoch b ≤ series.epochAt lastOffset :=
    Nat.div_le_div_right (series.offset_le_last b)
  by_cases remote : Remote series.created a
  · rw [epoch_remote remote, imp_iff_right remote]
    exact ⟨fun le => Nat.le_antisymm bound le, fun same => Nat.le_of_eq same.symm⟩
  · exact iff_of_true (Nat.div_le_div_right (offset_mono remote order))
      fun absurdly => absurd absurdly remote

theorem epoch_before (before : t ≤ series.created) :
    series.epoch t = if Remote series.created t then series.epochAt lastOffset else 0 := by
  split
  · next remote => exact epoch_remote remote
  · next within => rw [epoch, offset_before within before, Nat.zero_div]

end

section
variable (series : Series) (entries : List (Nat × Instant))

def shownAt (stop : Nat) : List Sample :=
  (series.offered entries).filter (·.within series.windowMicros stop)

/-- Whether all that a reading at the newest sample shows is still shown at the last offset. -/
def Lasting : Prop :=
  ∀ sample ∈ series.shownAt entries (newestOf (series.offered entries)),
    sample.within series.windowMicros lastOffset = true

variable {series entries}

theorem totals_offered_eq (empty : series.Logged []) (t : Instant) :
    (series.run entries).totals t = .ofValues ((series.shownAt entries
      (max (series.offset t) (newestOf (series.offered entries)))).map (·.value)) :=
  empty.totals_offered entries t

theorem totals_of_offset_le (empty : series.Logged []) {t : Instant}
    (le : series.offset t ≤ newestOf (series.offered entries)) :
    (series.run entries).totals t = .ofValues ((series.shownAt entries
      (newestOf (series.offered entries))).map (·.value)) := by
  rw [totals_offered_eq empty, Nat.max_eq_right le]

theorem newestOf_offered_le (series : Series) (entries : List (Nat × Instant)) :
    newestOf (series.offered entries) ≤ lastOffset := by
  apply newestOf_le
  intro sample member
  obtain ⟨entry, -, rfl⟩ := List.mem_map.mp member
  exact series.offset_le_last entry.2

theorem offset_le_newestOf {entry : Nat × Instant} (member : entry ∈ entries) :
    series.offset entry.2 ≤ newestOf (series.offered entries) := by
  have offered : ⟨series.offset entry.2, entry.1⟩ ∈ series.offered entries :=
    List.mem_map_of_mem member
  exact le_newestOf offered

theorem totals_remote (empty : series.Logged []) {t : Instant}
    (remote : Remote series.created t) :
    (series.run entries).totals t =
      .ofValues ((series.shownAt entries lastOffset).map (·.value)) := by
  rw [totals_offered_eq empty, offset_remote remote,
    Nat.max_eq_left (newestOf_offered_le series entries)]

theorem shownAt_last (series : Series) (entries : List (Nat × Instant)) :
    series.shownAt entries lastOffset =
      (series.shownAt entries (newestOf (series.offered entries))).filter
        (·.within series.windowMicros lastOffset) := by
  rw [shownAt, shownAt, List.filter_filter]
  apply List.filter_congr
  intro sample _
  have ends := newestOf_offered_le series entries
  rw [Bool.eq_iff_iff, Bool.and_eq_true, Sample.within_iff, Sample.within_iff]
  omega

theorem shownAt_last_eq_iff (few : entries.length < 2 ^ 64) :
    Totals.ofValues ((series.shownAt entries lastOffset).map (·.value)) =
      .ofValues ((series.shownAt entries (newestOf (series.offered entries))).map (·.value)) ↔
    series.Lasting entries := by
  rw [shownAt_last]
  apply Sample.ofValues_filter_eq_iff
  refine Nat.lt_of_le_of_lt (List.length_filter_le _ _) ?_
  rwa [offered, List.length_map]

end

/-- The epochs of a series follow the instants, those before its creation have epoch zero, and a
reading at an instant no later than some sample is the reading at that sample. All this holds of
every instant that is not too long before the creation to be told from the last offset. An instant
that is has the last epoch, and a reading at it is that at the samples only if these are still
shown at the last offset. Every instant with a date is near enough if the first one is. -/
theorem lagging_clock_exact (created : Instant) (width : Span) (count : Nat) :
    let fresh := create created width count
    (∀ a b, a ≤ b → (fresh.epoch a ≤ fresh.epoch b ↔
      (Remote created a → fresh.epoch b = fresh.epochAt lastOffset))) ∧
    (∀ t ≤ created, fresh.epoch t = if Remote created t then fresh.epochAt lastOffset else 0) ∧
    (∀ entries, ∀ entry ∈ entries, ∀ t ≤ entry.2,
      let series := fresh.run entries
      (¬ Remote created t → series.totals t = series.totals entry.2) ∧
      (Remote created t → entries.length < 2 ^ 64 →
        (series.totals t = series.totals entry.2 ↔ fresh.Lasting entries))) ∧
    ((∀ t, Dated t → ¬ Remote created t) ↔ ¬ Remote created firstInstant) := by
  intro fresh
  have empty : fresh.Logged [] := logged_create created width count
  refine ⟨fun a b order => epoch_le_iff order, fun t before => epoch_before before, ?_, ?_⟩
  · intro entries entry member t order series
    have newest : series.totals entry.2 = _ := totals_of_offset_le empty (offset_le_newestOf member)
    rw [newest]
    constructor
    · -- A reading ends with the newest sample, and an earlier instant cannot move that.
      intro within
      have behind : fresh.offset t ≤ fresh.offset entry.2 := offset_mono within order
      exact totals_of_offset_le empty (Nat.le_trans behind (offset_le_newestOf member))
    · intro remote few
      rw [totals_remote empty remote]
      exact shownAt_last_eq_iff few
  · constructor
    · exact fun all => all firstInstant ⟨Int.le_refl _, by decide⟩
    · exact fun within t dated remote => within (remote.earlier dated.1)

/-- A series created in the year 255478 and an instant in the year -251540: the clock of the series
goes back, an instant before the creation has the last epoch, and a reading loses the sample. -/
theorem lagging_clock_overflow :
    let created : Instant := 8000000000000 * 1000000000
    let early : Instant := -8000000000000 * 1000000000
    let fresh := create created (.ofSeconds 1) 1
    let series := fresh.run [(7, created)]
    Dated created ∧ Dated early ∧ early ≤ created ∧ fresh.epoch created = 0 ∧
      fresh.epoch early = 9223372036854 ∧ ¬ fresh.epoch early ≤ fresh.epoch created ∧
      series.totals created = ⟨7, 7, 1⟩ ∧ series.totals early = ⟨0, 0, 0⟩ := by
  decide +kernel

end Series

end Window

end Telemetry
