import Telemetry.Proofs.Window.Levels

/-!
The window that a tracker is made for and the one that its buckets cover.

A window is cut into buckets of whole microseconds, so what they cover together falls short of it
by less than a microsecond for each bucket. Main statement: a tracker counts no sample from before
its window, misses none but at the very start of it, and none at all where the cut leaves nothing
over.
-/

set_option autoImplicit false

namespace Telemetry.Window

section
variable {window : Span}

theorem defaultBuckets_short (short : window ≤ .ofSeconds 1) : defaultBuckets window = 10 :=
  if_pos short

theorem defaultBuckets_long (long : ¬ window ≤ .ofSeconds 1) :
    defaultBuckets window = min (max window.inSeconds 1) 600 :=
  if_neg long

theorem defaultBuckets_bounds (window : Span) :
    1 ≤ defaultBuckets window ∧ defaultBuckets window ≤ 600 := by
  by_cases short : window ≤ .ofSeconds 1
  · rw [defaultBuckets_short short]
    omega
  · rw [defaultBuckets_long short]
    omega

theorem defaultBuckets_le (long : .ofMicros 10 ≤ window) :
    defaultBuckets window ≤ window.inMicros := by
  by_cases short : window ≤ .ofSeconds 1
  · rw [defaultBuckets_short short]
    exact (Nat.le_div_iff_mul_le (by decide)).mpr long
  · have million : 1000000 ≤ window.inMicros :=
      (Nat.le_div_iff_mul_le (by decide)).mpr (Nat.le_of_not_le short)
    exact Nat.le_trans (Nat.le_trans (defaultBuckets_bounds window).2 (by decide)) million

theorem defaultBuckets_dvd {seconds : Nat} (positive : 0 < seconds) (short : seconds ≤ 600) :
    defaultBuckets (.ofSeconds seconds) ∣ (Span.ofSeconds seconds).inMicros := by
  by_cases one : seconds = 1
  · subst one
    decide
  · have longer : ¬ Span.ofSeconds seconds ≤ .ofSeconds 1 := by
      show ¬ seconds * 1000000000 ≤ 1 * 1000000000
      omega
    have whole : (Span.ofSeconds seconds).inSeconds = seconds :=
      Nat.mul_div_cancel seconds (by decide)
    have micros : (Span.ofSeconds seconds).inMicros = seconds * 1000000 := by
      show seconds * 1000000000 / 1000 = seconds * 1000000
      omega
    rw [defaultBuckets_long longer, whole, micros, Nat.max_eq_left positive, Nat.min_eq_left short]
    exact Nat.dvd_mul_right seconds 1000000

end

namespace Tracker

def run (tracker : Tracker) (entries : List (Nat × Instant)) : Tracker :=
  entries.foldl (fun tracker entry => tracker.add entry.1 entry.2) tracker

theorem run_eq (tracker : Tracker) (entries : List (Nat × Instant)) :
    tracker.run entries = { tracker with series := tracker.series.run entries } := by
  induction entries generalizing tracker with
  | nil => rfl
  | cons entry rest ih => exact ih (tracker.add entry.1 entry.2)

section
variable {window : Span} (created : Instant)

theorem series_create (window : Span) (created : Instant) :
    (create window created).series =
      .create created (window / defaultBuckets window) (defaultBuckets window) := by
  obtain ⟨some, few⟩ := defaultBuckets_bounds window
  have count : max (defaultBuckets window) 1 = defaultBuckets window := Nat.max_eq_left some
  have kept : defaultBuckets window % 2 ^ 32 = defaultBuckets window :=
    Nat.mod_eq_of_lt (Nat.lt_of_le_of_lt few (by decide))
  rw [create, withBuckets, count, kept]

theorem windowMicros_create (long : .ofMicros 10 ≤ window) (short : window < .ofMicros (2 ^ 62)) :
    (create window created).series.windowMicros =
      window.inMicros / defaultBuckets window * defaultBuckets window := by
  have some := (defaultBuckets_bounds window).1
  have width : max (Span.inMicros (window / defaultBuckets window)) 1 =
      window.inMicros / defaultBuckets window := by
    rw [Span.inMicros, Nat.div_div_eq_div_mul, Nat.mul_comm, ← Nat.div_div_eq_div_mul]
    exact Nat.max_eq_left (Nat.div_pos (defaultBuckets_le long) some)
  have count : max (defaultBuckets window) 1 = defaultBuckets window := Nat.max_eq_left some
  have fits : max (Span.inMicros (window / defaultBuckets window)) 1 *
      max (defaultBuckets window) 1 < 2 ^ 64 := by
    have bound : window.inMicros < 2 ^ 62 := (Nat.div_lt_iff_lt_mul (by decide)).mpr short
    rw [width, count]
    exact Nat.lt_of_le_of_lt (Nat.div_mul_le_self _ _) (Nat.lt_trans bound (by decide))
  rw [series_create, Series.windowMicros_create created fits, width, count]

/-- The number of samples in a stretch of offsets, its start left out. A stretch that starts before
the creation has all samples up to its end. -/
def tracked (created : Instant) (entries : List (Nat × Instant)) (start : Int) (stop : Nat) : Nat :=
  entries.countP fun entry =>
    start < elapsed created entry.2 ∧ elapsed created entry.2 ≤ stop

theorem count_run (tracker : Tracker) (empty : tracker.series.Logged [])
    {entries : List (Nat × Instant)} {t : Instant} (near : Near tracker.series.created t)
    (past : ∀ entry ∈ entries, Near tracker.series.created entry.2 ∧ entry.2 ≤ t) :
    let now := elapsed tracker.series.created t
    (tracker.run entries).count t = capped (tracked tracker.series.created entries
      (now - tracker.series.windowMicros) now) := by
  intro now
  rw [run_eq]
  show ((tracker.series.run entries).totals t).count = _
  rw [empty.totals_run near past]
  show capped (List.length _) = _
  rw [List.length_map, ← List.countP_eq_length_filter, tracked]
  refine congrArg capped (List.countP_congr ?_)
  intro entry member
  have le : elapsed tracker.series.created entry.2 ≤ now := elapsed_mono (past entry member).2
  simp only [decide_eq_true_iff]
  omega

theorem tracked_mono (created : Instant) (entries : List (Nat × Instant)) {start later : Int}
    (order : start ≤ later) (stop : Nat) :
    tracked created entries later stop ≤ tracked created entries start stop := by
  apply List.countP_mono_left
  intro entry _
  simp only [decide_eq_true_iff]
  exact fun ⟨inside, ends⟩ => ⟨Int.lt_of_le_of_lt order inside, ends⟩

end

/-- The number of samples that a tracker counts is at most that of its window, and at least that
of a window shorter by a microsecond for each bucket; where the buckets are cut without a rest it
is that of the window, as for all windows of up to ten minutes in whole seconds. Like all counters
it stops at the largest 64-bit number. The rate is the number over the window. -/
theorem count_nominal (window : Span) (created : Instant) (entries : List (Nat × Instant))
    (t : Instant) (long : .ofMicros 10 ≤ window) (short : window < .ofMicros (2 ^ 62))
    (near : Near created t) (past : ∀ entry ∈ entries, Near created entry.2 ∧ entry.2 ≤ t) :
    let tracker := (create window created).run entries
    let buckets := defaultBuckets window
    let length := window.inMicros
    let now := elapsed created t
    tracker.count t ≤ tracked created entries (now - length) now ∧
    capped (tracked created entries (now - length + buckets) now) ≤ tracker.count t ∧
    (buckets ∣ length → tracker.count t = capped (tracked created entries (now - length) now)) ∧
    (tracker.count t * 1000000 / length < 2 ^ 64 →
      tracker.rate t = tracker.count t * 1000000 / length) ∧
    ∀ seconds, 0 < seconds → seconds ≤ 600 →
      defaultBuckets (.ofSeconds seconds) ∣ (Span.ofSeconds seconds).inMicros := by
  intro tracker buckets length now
  have some : 0 < buckets := (defaultBuckets_bounds window).1
  have empty : (create window created).series.Logged [] := Series.logged_create created _ _
  have counted : tracker.count t =
      capped (tracked created entries (now - (length / buckets * buckets : Nat)) now) := by
    have run := (create window created).count_run empty near past
    rwa [windowMicros_create created long short] at run
  -- The division leaves less than a microsecond for each bucket.
  have le : length / buckets * buckets ≤ length := Nat.div_mul_le_self _ _
  have lt : length < length / buckets * buckets + buckets := Nat.lt_div_mul_add some
  refine ⟨?_, ?_, ?_, ?_, fun seconds => defaultBuckets_dvd⟩
  · rw [counted]
    exact Nat.le_trans (Nat.min_le_left _ _) (tracked_mono created entries (by omega) now)
  · rw [counted]
    exact Totals.capped_mono (tracked_mono created entries (by omega) now)
  · intro whole
    rwa [Nat.div_mul_cancel whole] at counted
  · intro fits
    have positive : max length 1 = length :=
      Nat.max_eq_left (Nat.le_trans some (defaultBuckets_le long))
    have nominal : tracker.window = window := congrArg Tracker.window (run_eq _ entries)
    rw [rate, perSecond, nominal, positive]
    exact Nat.mod_eq_of_lt fits

/-- Of a window of 15 microseconds the buckets cover 10: of three samples in it two are counted,
and only one of these in every case. -/
theorem count_nominal_rest :
    let window : Span := .ofMicros 15
    let entries := [(1, 8000), (1, 12000), (1, 18000)]
    let tracker := (create window 0).run entries
    .ofMicros 10 ≤ window ∧ window < .ofMicros (2 ^ 62) ∧ Near 0 20000 ∧
      (∀ entry ∈ entries, Near 0 entry.2 ∧ entry.2 ≤ 20000) ∧
      tracked 0 entries (20 - 15) 20 = 3 ∧ tracked 0 entries (20 - 15 + 10) 20 = 1 ∧
      tracker.count 20000 = 2 ∧ tracker.count 20000 ≤ 3 ∧ capped 1 ≤ tracker.count 20000 ∧
      tracker.rate 20000 = 133333 := by
  intro window entries tracker
  have long : .ofMicros 10 ≤ window := by decide
  have short : window < .ofMicros (2 ^ 62) := by decide
  have near : Near 0 20000 := by decide
  have past : ∀ entry ∈ entries, Near 0 entry.2 ∧ entry.2 ≤ 20000 := by decide
  have most : tracked 0 entries (20 - 15) 20 = 3 := by decide
  have least : tracked 0 entries (20 - 15 + 10) 20 = 1 := by decide
  have counted : tracker.count 20000 = 2 := by decide +kernel
  obtain ⟨upper, lower, -, rated, -⟩ := count_nominal window 0 entries 20000 long short near past
  refine ⟨long, short, near, past, most, least, counted, Nat.le_trans upper (by decide),
    Nat.le_trans (by decide) lower, ?_⟩
  exact (rated (by rw [counted]; decide)).trans (by rw [counted]; decide)

end Tracker

end Telemetry.Window
