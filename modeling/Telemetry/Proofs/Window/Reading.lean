import Telemetry.Proofs.Window.Ring

/-!
A reading is exactly the samples inside its window.

The samples may come in any order and the reading may be at any instant. Whether a sample
counts depends on its offset and on the end of the window alone, never on what came to the
same place of the ring before or after it.
-/

set_option autoImplicit false

namespace Telemetry.Window

theorem flatten_places_perm {α : Type} [DecidableEq α] {n : Nat} (place : α → Nat)
    (bounded : ∀ item, place item < n) (items : List α) :
    ((List.range n).map fun p => items.filter fun item => place item = p).flatten.Perm items := by
  apply List.perm_iff_count.mpr
  intro item
  have counts : ∀ p, (items.filter fun item => place item = p).count item =
      if place item = p then items.count item else 0 := by
    intro p
    by_cases here : place item = p
    · rw [List.count_filter (by simpa using here), if_pos here]
    · rw [if_neg here]
      apply List.count_eq_zero_of_not_mem
      intro member
      exact here (by simpa using (List.mem_filter.mp member).2)
  rw [List.count_flatten, List.map_map]
  simp only [Function.comp_def, counts]
  rw [← List.sum_toFinset _ List.nodup_range]
  simp [bounded item]

theorem Bucket.after_eq {length stop : Nat} (long : length ≤ stop) (bucket : Bucket) :
    bucket.after (stop - length) =
      .ofValues ((bucket.samples.filter (·.within length stop)).map (·.value)) := by
  have same : bucket.samples.filter (stop - length < ·.offset) =
      bucket.samples.filter (·.within length stop) := by
    apply List.filter_congr
    intro sample _
    simp [Sample.within, Nat.not_lt.mpr long]
  rw [Bucket.after, same, ← Totals.mergeAll_single, List.map_map]
  rfl

namespace Series

section
variable {series : Series} {taken : List Sample}

theorem Holds.current (holds : series.Holds taken) {sample : Sample} (member : sample ∈ taken)
    (fresh : series.newest < sample.offset + series.windowMicros) :
    (series.bucketAt (series.epochAt sample.offset)).epoch = series.epochAt sample.offset :=
  Nat.le_antisymm (holds.epoch_le fresh) (holds.reached sample member)

theorem Holds.epoch_of_mem (holds : series.Holds taken) {place : Nat} {sample : Sample}
    (member : sample ∈ (series.bucketAt place).samples) :
    series.epochAt sample.offset = (series.bucketAt place).epoch := by
  rw [holds.samples] at member
  have found := (List.mem_filter.mp member).2
  simp only [decide_eq_true_eq] at found
  exact found.2

theorem Holds.contribution (holds : series.Holds taken) {stop : Nat}
    (ends : series.newest ≤ stop) (place : Nat) :
    series.contribution stop (series.bucketAt place) =
      .ofValues (((series.bucketAt place).samples.filter
        (·.within series.windowMicros stop)).map (·.value)) := by
  -- A bucket adds to a reading what the window holds of its samples.
  have present : ¬ stop / series.widthMicros < (series.bucketAt place).epoch := by
    have begun := Nat.le_trans (holds.begun place) ends
    exact Nat.not_lt.mpr ((Nat.le_div_iff_mul_le series.widthMicros_pos).mpr begun)
  have whole : (∀ sample ∈ (series.bucketAt place).samples,
      sample.within series.windowMicros stop = true) →
      (series.bucketAt place).totals = .ofValues (((series.bucketAt place).samples.filter
        (·.within series.windowMicros stop)).map (·.value)) := by
    intro all
    rw [List.filter_eq_self.mpr all]
    exact holds.totals place
  by_cases long : series.windowMicros ≤ stop
  · let start := stop - series.windowMicros
    have startEpoch := Nat.div_mul_le_self start series.widthMicros
    simp only [Series.contribution, if_pos long, or_iff_left present]
    by_cases gone : (series.bucketAt place).epoch < start / series.widthMicros
    · rw [if_pos gone, List.filter_eq_nil_iff.mpr ?_]
      · rfl
      · intro sample member
        have upper := series.lt_epochAt_succ_mul sample.offset
        rw [holds.epoch_of_mem member] at upper
        have le : ((series.bucketAt place).epoch + 1) * series.widthMicros ≤
            start / series.widthMicros * series.widthMicros := Nat.mul_le_mul_right _ gone
        rw [Sample.within_iff]
        omega
    · rw [if_neg gone]
      by_cases first : (series.bucketAt place).epoch = start / series.widthMicros
      · rw [if_pos first]
        exact Bucket.after_eq long _
      · rw [if_neg first]
        apply whole
        intro sample member
        have lower := series.epochAt_mul_le sample.offset
        rw [holds.epoch_of_mem member] at lower
        have next : start / series.widthMicros + 1 ≤ (series.bucketAt place).epoch := by omega
        have le := Nat.mul_le_mul_right series.widthMicros next
        have upper := Nat.lt_mul_div_succ start series.widthMicros_pos
        rw [Nat.mul_comm] at upper
        rw [Sample.within_iff]
        omega
  · simp only [Series.contribution, if_neg long, if_neg present]
    apply whole
    intro sample _
    rw [Sample.within_iff]
    omega

theorem Holds.contribution_place (holds : series.Holds taken) {stop place : Nat}
    (ends : series.newest ≤ stop) (bound : place < series.turn) :
    series.contribution stop (series.bucketAt place) =
      .ofValues (((taken.filter (·.within series.windowMicros stop)).filter fun sample =>
        series.epochAt sample.offset % series.turn = place).map (·.value)) := by
  -- A place adds to a reading what the window holds of the samples that belong to it.
  have here : place % series.turn = place := Nat.mod_eq_of_lt bound
  rw [holds.contribution ends, holds.samples, List.filter_filter, List.filter_filter]
  congr 2
  apply List.filter_congr
  intro sample member
  rw [Bool.eq_iff_iff]
  simp only [Bool.and_eq_true, decide_eq_true_eq, Sample.within_iff, here]
  constructor
  · rintro ⟨within, place, -⟩
    exact ⟨place, within⟩
  · rintro ⟨place, within⟩
    have current := holds.current member (by omega)
    rw [bucketAt_congr (place.trans here.symm)] at current
    exact ⟨within, place, current.symm⟩

theorem Holds.totals_eq (holds : series.Holds taken) (t : Instant) :
    series.totals t = .ofValues ((taken.filter
      (·.within series.windowMicros (series.readEnd t))).map (·.value)) := by
  have ends : series.newest ≤ series.readEnd t := Nat.le_max_right _ _
  let inside := taken.filter (·.within series.windowMicros (series.readEnd t))
  let part (place : Nat) := inside.filter fun sample =>
    series.epochAt sample.offset % series.turn = place
  -- Every sample of the window stands at the place of its epoch and at no other.
  have places : ((List.range series.turn).map part).flatten.Perm inside :=
    flatten_places_perm _ (fun _ => Nat.mod_lt _ (Nat.succ_pos _)) inside
  calc series.totals t
      = .mergeAll ((List.range series.turn).map fun place =>
          .ofValues ((part place).map (·.value))) := by
        rw [Series.totals, toList_buckets, List.map_map]
        apply congrArg Totals.mergeAll
        apply List.map_congr_left
        intro place member
        exact holds.contribution_place ends (List.mem_range.mp member)
    _ = .ofValues (((List.range series.turn).map part).flatten.map (·.value)) := by
        rw [List.map_flatten, ← Totals.mergeAll_ofValues, List.map_map, List.map_map]
        rfl
    _ = .ofValues (inside.map (·.value)) := Totals.ofValues_perm (places.map _)

end

end Series

end Telemetry.Window
