import Mathlib.Algebra.BigOperators.Intervals
import Mathlib.Tactic.Ring
import Telemetry.Proofs.Window.Totals
import Telemetry.Window.Series

/-!
What the places of a series hold.

A place is used again for another epoch without a sweep: a sample that needs it empties it
first. No sample is lost by that while a window can still hold it. A place only ever moves on
to a later epoch, since a sample of an earlier one at the same place lies a whole turn behind
and is refused.
-/

set_option autoImplicit false

namespace Telemetry.Window

/-- Whether a window of some length that ends at an offset holds a sample. A window that
reaches back beyond the creation of the series holds all that came before its end. -/
def Sample.within (length stop : Nat) (sample : Sample) : Bool :=
  stop < length || stop - length < sample.offset

theorem Sample.within_iff (length stop : Nat) (sample : Sample) :
    sample.within length stop = true ↔ stop < sample.offset + length := by
  simp only [within, Bool.or_eq_true, decide_eq_true_eq]
  omega

theorem Sample.within_eq_false {sample : Sample} {length newest stop : Nat}
    (late : sample.offset + length ≤ newest) (ends : newest ≤ stop) :
    sample.within length stop = false := by
  -- A sample that lies before a window lies before every later one.
  apply Bool.eq_false_iff.mpr
  rw [Ne, Sample.within_iff]
  omega

namespace Series

def turn (series : Series) : Nat := series.count + 1

def placeOf (series : Series) (epoch : Nat) : Fin (series.count + 1) :=
  ⟨epoch % (series.count + 1), Nat.mod_lt _ (Nat.succ_pos _)⟩

def bucketAt (series : Series) (epoch : Nat) : Bucket := series.buckets[series.placeOf epoch]

def epochAt (series : Series) (offset : Nat) : Nat := offset / series.widthMicros

theorem offset_lt (series : Series) (t : Instant) : series.offset t < 2 ^ 63 := by
  simp only [offset, microsBetween?]
  split <;> simp only [Option.getD_some, Option.getD_none] <;> omega

theorem epochAt_mul_le (series : Series) (offset : Nat) :
    series.epochAt offset * series.widthMicros ≤ offset :=
  Nat.div_mul_le_self _ _

theorem lt_epochAt_succ_mul (series : Series) (offset : Nat) :
    offset < (series.epochAt offset + 1) * series.widthMicros := by
  rw [Nat.mul_comm]
  exact Nat.lt_mul_div_succ offset series.widthMicros_pos

theorem offset_add_window_lt {series : Series} {offset epoch : Nat}
    (turn : series.epochAt offset + series.turn ≤ epoch) :
    offset + series.windowMicros < epoch * series.widthMicros := by
  -- An epoch a whole turn later starts after every window with a sample of this epoch.
  have upper := series.lt_epochAt_succ_mul offset
  have length : series.windowMicros ≤ series.widthMicros * series.count := Nat.mod_le _ _
  calc offset + series.windowMicros
      < (series.epochAt offset + 1) * series.widthMicros +
          series.widthMicros * series.count := Nat.add_lt_add_of_lt_of_le upper length
    _ = (series.epochAt offset + series.turn) * series.widthMicros := by
        simp only [Series.turn]
        ring
    _ ≤ epoch * series.widthMicros := Nat.mul_le_mul_right _ turn

theorem turn_of_place_eq {series : Series} {epoch later : Nat}
    (place : later % series.turn = epoch % series.turn) (before : epoch < later) :
    epoch + series.turn ≤ later := by
  -- Two epochs with one place lie a whole number of turns apart.
  have divides := Nat.dvd_of_mod_eq_zero (Nat.sub_mod_eq_zero_of_mod_eq place)
  have le := Nat.le_of_dvd (Nat.sub_pos_of_lt before) divides
  omega

theorem bucketAt_eq (series : Series) {place : Nat} (bound : place % series.turn < series.turn) :
    series.bucketAt place = series.buckets[place % series.turn] := rfl

theorem bucketAt_congr {series : Series} {a b : Nat} (place : a % series.turn = b % series.turn) :
    series.bucketAt a = series.bucketAt b :=
  congrArg (fun i : Fin (series.count + 1) => series.buckets[i]) (Fin.ext place)

theorem toList_buckets (series : Series) :
    series.buckets.toList = (List.range series.turn).map series.bucketAt := by
  apply List.ext_getElem
  · simp [turn]
  · intro i low high
    have bound : i < series.turn := by simpa using high
    have place : i % series.turn = i := Nat.mod_eq_of_lt bound
    rw [List.getElem_map, List.getElem_range, bucketAt_eq _ (by omega)]
    simp only [place, Vector.getElem_toList]

/-- What a series holds that has taken in some samples, newest first. -/
structure Holds (series : Series) (taken : List Sample) : Prop where
  newest : series.newest = (taken.map (·.offset)).foldr Nat.max 0
  newest_lt : series.newest < 2 ^ 63
  samples : ∀ place, (series.bucketAt place).samples = taken.filter fun sample =>
    series.epochAt sample.offset % series.turn = place % series.turn ∧
      series.epochAt sample.offset = (series.bucketAt place).epoch
  totals : ∀ place, (series.bucketAt place).totals =
    .ofValues ((series.bucketAt place).samples.map (·.value))
  /-- A place has reached at least the epoch of each sample that came to it. -/
  reached : ∀ sample ∈ taken, series.epochAt sample.offset ≤
    (series.bucketAt (series.epochAt sample.offset)).epoch
  aligned : ∀ place, (series.bucketAt place).epoch = 0 ∨
    (series.bucketAt place).epoch % series.turn = place % series.turn
  begun : ∀ place, (series.bucketAt place).epoch * series.widthMicros ≤ series.newest

theorem bucketAt_create (created : Instant) (width : Span) (count place : Nat) :
    (create created width count).bucketAt place = {} :=
  Vector.getElem_replicate (Nat.mod_lt place (Nat.succ_pos _))

theorem holds_create (created : Instant) (width : Span) (count : Nat) :
    (create created width count).Holds [] where
  newest := rfl
  newest_lt := by simp [create]
  samples place := by
    rw [bucketAt_create]
    rfl
  totals place := by
    rw [bucketAt_create]
    rfl
  reached := by simp
  aligned place := by
    rw [bucketAt_create]
    exact .inl rfl
  begun place := by
    rw [bucketAt_create]
    simp

def taking (series : Series) (sample : Sample) : Series :=
  let epoch := series.epochAt sample.offset
  { series with
    buckets := series.buckets.set (series.placeOf epoch)
      (((series.bucketAt epoch).forEpoch epoch).record sample)
    newest := max series.newest sample.offset }

theorem add?_eq (series : Series) (value : Nat) (t : Instant) :
    series.add? value t =
      if series.expired (series.offset t) then none
      else some (series.taking ⟨series.offset t, value⟩) := rfl

theorem bucketAt_taking (series : Series) (sample : Sample) (place : Nat) :
    (series.taking sample).bucketAt place =
      if series.epochAt sample.offset % series.turn = place % series.turn then
        ((series.bucketAt place).forEpoch (series.epochAt sample.offset)).record sample
      else series.bucketAt place := by
  have read : (series.taking sample).bucketAt place =
      if series.epochAt sample.offset % series.turn = place % series.turn then
        ((series.bucketAt (series.epochAt sample.offset)).forEpoch
          (series.epochAt sample.offset)).record sample
      else series.bucketAt place :=
    Vector.getElem_set (Nat.mod_lt _ (Nat.succ_pos _)) (Nat.mod_lt _ (Nat.succ_pos _))
  rw [read]
  split
  · next same => rw [bucketAt_congr same]
  · rfl

section
variable {series : Series} {taken : List Sample} {sample : Sample}

theorem Holds.epoch_le (holds : series.Holds taken)
    (fresh : series.newest < sample.offset + series.windowMicros) :
    (series.bucketAt (series.epochAt sample.offset)).epoch ≤ series.epochAt sample.offset := by
  -- A place never has to go back to an earlier epoch for a sample that is not refused.
  by_contra beyond
  have later := Nat.lt_of_not_le beyond
  rcases holds.aligned (series.epochAt sample.offset) with zero | aligned
  · omega
  · have passed := offset_add_window_lt (turn_of_place_eq aligned later)
    have begun := holds.begun (series.epochAt sample.offset)
    omega

theorem Holds.forEpoch (holds : series.Holds taken)
    (fresh : series.newest < sample.offset + series.windowMicros) {place : Nat}
    (here : series.epochAt sample.offset % series.turn = place % series.turn) :
    let epoch := series.epochAt sample.offset
    let bucket := (series.bucketAt place).forEpoch epoch
    bucket.epoch = epoch ∧
      (bucket.samples = taken.filter fun other =>
        series.epochAt other.offset % series.turn = place % series.turn ∧
          series.epochAt other.offset = epoch) ∧
      bucket.totals = .ofValues (bucket.samples.map (·.value)) := by
  -- The bucket that a sample finds at its place holds the samples of its epoch.
  have le := holds.epoch_le fresh
  rw [bucketAt_congr here] at le
  by_cases same : (series.bucketAt place).epoch = series.epochAt sample.offset
  · simp only [Bucket.forEpoch, if_pos same]
    refine ⟨same, ?_, holds.totals place⟩
    rw [holds.samples, same]
  · simp only [Bucket.forEpoch, if_neg same]
    refine ⟨rfl, Eq.symm ?_, rfl⟩
    -- The place is behind, so no sample of this epoch has come to it yet.
    apply List.filter_eq_nil_iff.mpr
    intro other member
    simp only [decide_eq_true_eq]
    rintro ⟨place, epoch⟩
    have reached := holds.reached other member
    rw [epoch, bucketAt_congr here] at reached
    exact same (Nat.le_antisymm le reached)

theorem Holds.taking (holds : series.Holds taken)
    (fresh : series.newest < sample.offset + series.windowMicros)
    (bounded : sample.offset < 2 ^ 63) :
    (series.taking sample).Holds (sample :: taken) where
  newest := by
    simp only [List.map_cons, List.foldr_cons, ← holds.newest]
    exact Nat.max_comm _ _
  newest_lt := Nat.max_lt.mpr ⟨holds.newest_lt, bounded⟩
  -- In each field the place asked about is the one the sample comes to, whose bucket is made to
  -- stand for its epoch, or another one, which is left alone.
  samples place := by
    change ((series.taking sample).bucketAt place).samples = (sample :: taken).filter fun other =>
      series.epochAt other.offset % series.turn = place % series.turn ∧
        series.epochAt other.offset = ((series.taking sample).bucketAt place).epoch
    rw [bucketAt_taking]
    by_cases here : series.epochAt sample.offset % series.turn = place % series.turn
    · obtain ⟨epoch, samples, -⟩ := holds.forEpoch fresh here
      rw [if_pos here, List.filter_cons_of_pos (by simp [here, Bucket.record, Bucket.add, epoch])]
      simp only [Bucket.record, Bucket.add, samples, epoch]
    · rw [if_neg here, List.filter_cons_of_neg (by simp [here])]
      exact holds.samples place
  totals place := by
    rw [bucketAt_taking]
    by_cases here : series.epochAt sample.offset % series.turn = place % series.turn
    · obtain ⟨-, -, totals⟩ := holds.forEpoch fresh here
      rw [if_pos here]
      simp only [Bucket.record, Bucket.add, totals, Totals.add, Totals.merge_single,
        List.map_cons]
    · rw [if_neg here]
      exact holds.totals place
  reached other member := by
    change series.epochAt other.offset ≤
      ((series.taking sample).bucketAt (series.epochAt other.offset)).epoch
    rw [bucketAt_taking]
    by_cases here :
        series.epochAt sample.offset % series.turn = series.epochAt other.offset % series.turn
    · have epoch := (holds.forEpoch fresh here).1
      rw [if_pos here]
      simp only [Bucket.record, Bucket.add, epoch]
      rcases List.mem_cons.mp member with same | before
      · rw [same]
      · -- The place is never moved back to an earlier epoch.
        have reached := holds.reached other before
        rw [bucketAt_congr here.symm] at reached
        exact Nat.le_trans reached (holds.epoch_le fresh)
    · rw [if_neg here]
      rcases List.mem_cons.mp member with same | before
      · exact absurd (congrArg (fun s => series.epochAt s.offset % series.turn) same.symm) here
      · exact holds.reached other before
  aligned place := by
    change ((series.taking sample).bucketAt place).epoch = 0 ∨
      ((series.taking sample).bucketAt place).epoch % series.turn = place % series.turn
    rw [bucketAt_taking]
    by_cases here : series.epochAt sample.offset % series.turn = place % series.turn
    · rw [if_pos here]
      simp only [Bucket.record, Bucket.add, (holds.forEpoch fresh here).1]
      exact .inr here
    · rw [if_neg here]
      exact holds.aligned place
  begun place := by
    change ((series.taking sample).bucketAt place).epoch * series.widthMicros ≤
      max series.newest sample.offset
    rw [bucketAt_taking]
    by_cases here : series.epochAt sample.offset % series.turn = place % series.turn
    · rw [if_pos here]
      simp only [Bucket.record, Bucket.add, (holds.forEpoch fresh here).1]
      exact Nat.le_trans (series.epochAt_mul_le sample.offset) (Nat.le_max_right _ _)
    · rw [if_neg here]
      exact Nat.le_trans (holds.begun place) (Nat.le_max_left _ _)

end

end Series

end Telemetry.Window
