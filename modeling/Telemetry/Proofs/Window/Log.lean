import Telemetry.Proofs.Window.Reading

/-!
A series against the log of all samples it was ever offered.

Main statement: whatever the order in which samples come, a reading gives the totals of the
samples of the log that lie in its window, and exactly those samples are refused that no
later reading could show.
-/

set_option autoImplicit false

namespace Telemetry.Window

def elapsed (created t : Instant) : Nat := ((t - created).tdiv 1000).toNat

/-- An instant whose distance from another is a 64-bit number of microseconds. -/
def Near (created t : Instant) : Prop :=
  -2 ^ 63 ≤ (t - created).tdiv 1000 ∧ (t - created).tdiv 1000 < 2 ^ 63

instance (created t : Instant) : Decidable (Near created t) :=
  inferInstanceAs (Decidable (_ ∧ _))

theorem elapsed_mono {created earlier later : Instant} (order : earlier ≤ later) :
    elapsed created earlier ≤ elapsed created later :=
  Int.toNat_le_toNat (Int.tdiv_le_tdiv (by decide) (Int.sub_le_sub_right order created))

theorem near_of_le {created earlier later : Int} (near : Near created later)
    (after : created ≤ earlier) (order : earlier ≤ later) : Near created earlier := by
  unfold Near at near ⊢
  rw [Int.tdiv_eq_ediv_of_nonneg (by omega)] at near ⊢
  omega

def logOf (created : Instant) (entries : List (Nat × Instant)) : List Sample :=
  entries.map fun entry => ⟨elapsed created entry.2, entry.1⟩

def newestOf (log : List Sample) : Nat := (log.map (·.offset)).foldr Nat.max 0

theorem newestOf_perm {a b : List Sample} (same : a.Perm b) : newestOf a = newestOf b := by
  refine (same.map (·.offset)).foldr_eq' ?_ 0
  intro x _ y _ z
  exact Nat.max_left_comm y x z

theorem newestOf_cons (sample : Sample) (log : List Sample) :
    newestOf (sample :: log) = max sample.offset (newestOf log) := rfl

theorem newestOf_le {log : List Sample} {bound : Nat}
    (below : ∀ sample ∈ log, sample.offset ≤ bound) : newestOf log ≤ bound := by
  induction log with
  | nil => exact Nat.zero_le _
  | cons sample rest ih =>
    rw [newestOf_cons]
    exact Nat.max_le.mpr ⟨below sample List.mem_cons_self,
      ih fun other member => below other (List.mem_cons_of_mem _ member)⟩

theorem le_newestOf {log : List Sample} {sample : Sample} (member : sample ∈ log) :
    sample.offset ≤ newestOf log := by
  induction log with
  | nil => cases member
  | cons first rest ih =>
    rw [newestOf_cons]
    rcases List.mem_cons.mp member with rfl | later
    · exact Nat.le_max_left _ _
    · exact Nat.le_trans (ih later) (Nat.le_max_right _ _)

namespace Series

def run (series : Series) (entries : List (Nat × Instant)) : Series :=
  entries.foldl (fun series entry => series.add entry.1 entry.2) series

/-- A series that was offered some samples, newest first; what it took holds for all of them
in every window that ends with the newest or later. -/
structure Logged (series : Series) (log : List Sample) : Prop where
  newest : series.newest = newestOf log
  taken : ∃ taken, series.Holds taken ∧ ∀ stop, series.newest ≤ stop →
    log.filter (·.within series.windowMicros stop) =
      taken.filter (·.within series.windowMicros stop)

theorem offset_eq {series : Series} {t : Instant} (near : Near series.created t) :
    series.offset t = elapsed series.created t := by
  have within : microsBetween? series.created t = some ((t - series.created).tdiv 1000) :=
    if_pos near
  rw [offset, within]
  rfl

theorem expired_iff {series : Series} (bounded : series.newest < 2 ^ 63) (offset : Nat) :
    series.expired offset = true ↔ offset + series.windowMicros ≤ series.newest := by
  -- The cap on the sum of offset and window never decides.
  rw [expired, decide_eq_true_iff, capped, counterMax]
  omega

theorem add_expired {series : Series} {t : Instant} (expired : series.expired (series.offset t))
    (value : Nat) : series.add value t = series := by
  rw [add, add?_eq, if_pos expired]
  rfl

theorem add_fresh {series : Series} {t : Instant}
    (fresh : ¬ series.expired (series.offset t) = true) (value : Nat) :
    series.add value t = series.taking ⟨series.offset t, value⟩ := by
  rw [add, add?_eq, if_neg fresh]
  rfl

theorem add_frame (series : Series) (value : Nat) (t : Instant) :
    (series.add value t).created = series.created ∧
      (series.add value t).windowMicros = series.windowMicros := by
  by_cases expired : series.expired (series.offset t) = true
  · rw [add_expired expired]
    exact ⟨rfl, rfl⟩
  · rw [add_fresh expired]
    exact ⟨rfl, rfl⟩

theorem run_frame (series : Series) (entries : List (Nat × Instant)) :
    (series.run entries).created = series.created ∧
      (series.run entries).windowMicros = series.windowMicros := by
  induction entries generalizing series with
  | nil => exact ⟨rfl, rfl⟩
  | cons entry rest ih =>
    obtain ⟨created, window⟩ := add_frame series entry.1 entry.2
    have rested := ih (series.add entry.1 entry.2)
    rw [created, window] at rested
    exact rested

section
variable {series : Series} {log : List Sample}

theorem logged_create (created : Instant) (width : Span) (count : Nat) :
    (create created width count).Logged [] :=
  ⟨rfl, [], holds_create created width count, fun _ _ => rfl⟩

theorem Logged.newest_lt (logged : series.Logged log) : series.newest < 2 ^ 63 := by
  obtain ⟨taken, holds, -⟩ := logged.taken
  exact holds.newest_lt

theorem Logged.add (logged : series.Logged log) (value : Nat) (t : Instant) :
    (series.add value t).Logged (⟨series.offset t, value⟩ :: log) := by
  obtain ⟨taken, holds, same⟩ := logged.taken
  by_cases expired : series.expired (series.offset t) = true
  · have late := (expired_iff logged.newest_lt _).mp expired
    -- The sample is lost, but no window from here on would have held it.
    rw [add_expired expired]
    constructor
    case newest =>
      rw [newestOf_cons, ← logged.newest]
      exact (Nat.max_eq_right (Nat.le_trans (Nat.le_add_right _ _) late)).symm
    case taken =>
      refine ⟨taken, holds, ?_⟩
      intro stop ends
      have gone : (⟨series.offset t, value⟩ : Sample).within series.windowMicros stop = false :=
        Sample.within_eq_false late ends
      rw [List.filter_cons_of_neg (by simp [gone])]
      exact same stop ends
  · have fresh : ¬ series.offset t + series.windowMicros ≤ series.newest :=
      fun late => expired ((expired_iff logged.newest_lt _).mpr late)
    rw [add_fresh expired]
    constructor
    case newest =>
      rw [newestOf_cons, ← logged.newest]
      exact Nat.max_comm _ _
    case taken =>
      refine ⟨_, holds.taking (Nat.lt_of_not_le fresh) (series.offset_lt t), ?_⟩
      intro stop ends
      have before := same stop (Nat.le_trans (Nat.le_max_left _ _) ends)
      change (_ :: log).filter (·.within series.windowMicros stop) =
        (_ :: taken).filter (·.within series.windowMicros stop)
      rw [List.filter_cons, List.filter_cons, before]

theorem offset_congr {a b : Series} (same : a.created = b.created) : a.offset = b.offset := by
  funext t
  rw [offset, offset, same]

def offered (series : Series) (entries : List (Nat × Instant)) : List Sample :=
  entries.map fun entry => ⟨series.offset entry.2, entry.1⟩

theorem offered_eq {entries : List (Nat × Instant)}
    (near : ∀ entry ∈ entries, Near series.created entry.2) :
    series.offered entries = logOf series.created entries :=
  List.map_congr_left fun entry member => by rw [offset_eq (near entry member)]

theorem Logged.offered (logged : series.Logged log) (entries : List (Nat × Instant)) :
    (series.run entries).Logged ((series.offered entries).reverse ++ log) := by
  induction entries generalizing series log with
  | nil => exact logged
  | cons entry rest ih =>
    have later := ih (logged.add entry.1 entry.2)
    have same := offset_congr (add_frame series entry.1 entry.2).1
    simpa [Series.offered, same, Series.run] using later

theorem Logged.run (logged : series.Logged log) (entries : List (Nat × Instant))
    (near : ∀ entry ∈ entries, Near series.created entry.2) :
    (series.run entries).Logged ((logOf series.created entries).reverse ++ log) :=
  offered_eq near ▸ logged.offered entries

theorem Logged.totals_eq (logged : series.Logged log) (t : Instant) :
    series.totals t = .ofValues ((log.filter
      (·.within series.windowMicros (max (series.offset t) series.newest))).map (·.value)) := by
  obtain ⟨taken, holds, same⟩ := logged.taken
  rw [holds.totals_eq, same _ (Nat.le_max_right _ _)]
  rfl

theorem Logged.totals_run (empty : series.Logged []) {entries : List (Nat × Instant)} {t : Instant}
    (near : Near series.created t)
    (past : ∀ entry ∈ entries, Near series.created entry.2 ∧ entry.2 ≤ t) :
    (series.run entries).totals t = .ofValues ((entries.filter fun entry =>
      elapsed series.created t < elapsed series.created entry.2 + series.windowMicros).map
        (·.1)) := by
  let log := logOf series.created entries
  have logged : (series.run entries).Logged (log.reverse ++ []) :=
    empty.run entries fun entry member => (past entry member).1
  rw [List.append_nil] at logged
  obtain ⟨created, window⟩ := series.run_frame entries
  have newest : newestOf log.reverse ≤ elapsed series.created t := by
    apply newestOf_le
    intro sample member
    obtain ⟨entry, listed, rfl⟩ := List.mem_map.mp (List.mem_reverse.mp member)
    exact elapsed_mono (past entry listed).2
  -- No sample is ahead of the reading, so the window ends at the reading itself.
  have stop : max ((series.run entries).offset t) (series.run entries).newest =
      elapsed series.created t := by
    rw [logged.newest, offset_eq (created ▸ near), created, Nat.max_eq_left newest]
  rw [logged.totals_eq, stop, window]
  refine (Totals.ofValues_perm ((log.reverse_perm.filter _).map _)).trans ?_
  rw [show log = entries.map fun entry => ⟨elapsed series.created entry.2, entry.1⟩ from rfl,
    List.filter_map, List.map_map]
  refine congrArg (fun shown : List (Nat × Instant) => Totals.ofValues (shown.map (·.1)))
    (List.filter_congr ?_)
  intro entry _
  rw [Bool.eq_iff_iff, Function.comp_apply, Sample.within_iff, decide_eq_true_iff]

theorem Logged.add?_eq_none_iff (logged : series.Logged log) (value : Nat) (t : Instant) :
    series.add? value t = none ↔ series.offset t + series.windowMicros ≤ newestOf log := by
  rw [add?_eq, ← logged.newest, ← expired_iff logged.newest_lt]
  split <;> simp_all

end

theorem windowMicros?_eq_some_iff {series : Series} {length : Nat} :
    series.windowMicros? = some length ↔
      series.widthMicros * series.count < 2 ^ 64 ∧ length = series.windowMicros := by
  rw [windowMicros?, mul64?, Option.ite_none_right_eq_some, Option.some.injEq]
  refine and_congr_right fun fits => ?_
  rw [windowMicros, Nat.mod_eq_of_lt fits, eq_comm]

theorem windowMicros_create (created : Instant) {width : Span} {count : Nat}
    (fits : max width.inMicros 1 * max count 1 < 2 ^ 64) :
    (create created width count).windowMicros = max width.inMicros 1 * max count 1 := by
  have small : max width.inMicros 1 < 2 ^ 64 :=
    Nat.lt_of_le_of_lt (Nat.le_mul_of_pos_right _ (Nat.le_max_right count 1)) fits
  have widthMicros : (create created width count).widthMicros = max width.inMicros 1 := by
    simp only [Series.widthMicros, create, Span.inMicros, Span.ofMicros] at small ⊢
    omega
  rw [windowMicros, widthMicros]
  exact Nat.mod_eq_of_lt fits

/-- A reading shows the samples of its window, each of them once and no others, and the
samples that are refused are those that no reading from then on could show. -/
theorem reading_exact (created : Instant) (width : Span) (count : Nat)
    (entries : List (Nat × Instant))
    (fits : max width.inMicros 1 * max count 1 < 2 ^ 64)
    (near : ∀ entry ∈ entries, Near created entry.2) :
    let series := (create created width count).run entries
    let window := max width.inMicros 1 * max count 1
    let log := logOf created entries
    (∀ t, Near created t → series.totals t = .ofValues ((log.filter
      (·.within window (max (elapsed created t) (newestOf log)))).map (·.value))) ∧
    ∀ value t, Near created t →
      (series.add? value t = none ↔ elapsed created t + window ≤ newestOf log) ∧
      (series.add? value t = none → series.add value t = series ∧
        ∀ stop, newestOf log ≤ stop →
          (⟨elapsed created t, value⟩ : Sample).within window stop = false) := by
  intro series window log
  -- The newest sample comes first in what a series logs, the oldest in what it was offered.
  have logged : series.Logged (log.reverse ++ []) :=
    (logged_create created width count).run entries near
  rw [List.append_nil] at logged
  obtain ⟨start, length⟩ := run_frame (create created width count) entries
  have created_eq : series.created = created := start
  have window_eq : series.windowMicros = window := length.trans (windowMicros_create created fits)
  have newest : newestOf log.reverse = newestOf log := newestOf_perm log.reverse_perm
  constructor
  · intro t close
    rw [logged.totals_eq, logged.newest, newest, window_eq, offset_eq (created_eq ▸ close),
      created_eq]
    exact Totals.ofValues_perm ((log.reverse_perm.filter _).map _)
  · intro value t close
    have refused := logged.add?_eq_none_iff value t
    rw [newest, window_eq, offset_eq (created_eq ▸ close), created_eq] at refused
    refine ⟨refused, fun none => ⟨by rw [add, none]; rfl, ?_⟩⟩
    exact fun stop ends => Sample.within_eq_false (refused.mp none) ends

/-- Three samples in reverse order, of which the last comes too late, under a clock that lags
behind the newest. -/
theorem reading_exact_late :
    let second : Int := 1000000000
    let entries := [(10, 10 * second), (8, 8 * second), (5, 5 * second)]
    max (Span.ofSeconds 1).inMicros 1 * max 4 1 < 2 ^ 64 ∧
      (∀ entry ∈ entries, Near 0 entry.2) ∧
      ((create 0 (.ofSeconds 1) 4).run entries).totals (9 * second) = ⟨18, 10, 2⟩ := by
  intro second entries
  have fits : max (Span.ofSeconds 1).inMicros 1 * max 4 1 < 2 ^ 64 := by decide
  have near : ∀ entry ∈ entries, Near 0 entry.2 := by decide
  have shown := (reading_exact 0 (.ofSeconds 1) 4 entries fits near).1 (9 * second) (by decide)
  exact ⟨fits, near, shown.trans (by decide +kernel)⟩

end Series

end Telemetry.Window
