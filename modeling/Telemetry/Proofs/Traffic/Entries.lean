import Telemetry.Proofs.Traffic.Rollup
import Telemetry.Proofs.Window.Nominal

/-!
Traffic against the log of all requests recorded on it.

Main statement: requests that are recorded on several parts, in any distribution and order,
roll up to what they make on a single one created no later than any part, as long as the
windows are cut at the same microsecond in all of them.
-/

set_option autoImplicit false

namespace Telemetry

namespace Window

theorem near_of_sub_lt {created start later : Int} (near : later - created < 2 ^ 63 * 1000)
    (after : created ≤ start) (order : start ≤ later) : Near start later := by
  unfold Near
  rw [Int.tdiv_eq_ediv_of_nonneg (by omega)]
  omega

/-- Whether the distance from a creation to an instant is cut to one microsecond more than that
from an instant at a whole microsecond would be. A window that ends there is so much shorter for
samples taken at whole microseconds. -/
def CutShort (created now : Instant) : Prop :=
  0 < created % 1000 ∧ created % 1000 ≤ now % 1000

instance (created now : Instant) : Decidable (CutShort created now) :=
  inferInstanceAs (Decidable (_ ∧ _))

theorem elapsed_lt_iff {created now t : Int} (after : created ≤ t) (order : t ≤ now)
    (whole : t % 1000 = 0) (window : Nat) :
    elapsed created now < elapsed created t + window ↔
      now / 1000 - t / 1000 + (if CutShort created now then 1 else 0) < window := by
  unfold elapsed
  rw [Int.tdiv_eq_ediv_of_nonneg (by omega), Int.tdiv_eq_ediv_of_nonneg (by omega)]
  have cut_iff : CutShort created now ↔ 0 < created % 1000 ∧ created % 1000 ≤ now % 1000 := .rfl
  by_cases cut : CutShort created now
  · rw [if_pos cut]
    rw [cut_iff] at cut
    omega
  · rw [if_neg cut]
    rw [cut_iff] at cut
    omega

end Window

structure Traffic.Entry where
  latency : Nat
  status : Nat
  time : Instant

namespace Traffic

def classed (entries : List Entry) : List Entry :=
  entries.filter fun entry => (StatusClass.ofStatus? entry.status).isSome

theorem classed_append (a b : List Entry) : classed (a ++ b) = classed a ++ classed b :=
  List.filter_append _ _

theorem classed_flatMap {α : Type} (entries : α → List Entry) (parts : List α) :
    classed (parts.flatMap entries) = parts.flatMap fun part => classed (entries part) :=
  List.filter_flatMap

def recordEntry (traffic : Traffic) (entry : Entry) : Traffic :=
  (traffic.record? entry.latency entry.status entry.time).getD traffic

def recordAll (traffic : Traffic) (entries : List Entry) : Traffic :=
  entries.foldl recordEntry traffic

def samples (entries : List Entry) : List (Nat × Instant) :=
  (classed entries).map fun entry => (entry.latency, entry.time)

/-- What some requests, recorded one after another, add to traffic. -/
structure Records (before : Traffic) (entries : List Entry) (after : Traffic) : Prop where
  requests : after.requests = before.requests + (classed entries).length
  classes : ∀ statusClass, after.classes.get statusClass = before.classes.get statusClass +
    entries.countP (StatusClass.ofStatus? ·.status = some statusClass)
  lastAccess : after.lastAccess =
    laterOf before.lastAccess ((classed entries).map (·.time)).max?
  trackers : after.latency.trackers = before.latency.trackers.map fun tracker =>
    { tracker with series := tracker.series.run (samples entries) }

theorem records_nil (traffic : Traffic) : traffic.Records [] traffic where
  requests := rfl
  classes _ := rfl
  lastAccess := (laterOf_none _).symm
  trackers := (List.map_id _).symm

theorem records_recordEntry (traffic : Traffic) (entry : Entry) :
    traffic.Records [entry] (traffic.recordEntry entry) := by
  cases status : StatusClass.ofStatus? entry.status with
  | none =>
    have same : traffic.recordEntry entry = traffic := by simp [recordEntry, record?, status]
    have none : classed [entry] = [] := by simp [classed, status]
    rw [same]
    obtain ⟨requests, -, lastAccess, trackers⟩ := traffic.records_nil
    constructor
    case requests => rwa [none]
    case classes => simp [status]
    case lastAccess => rwa [none]
    case trackers => rwa [samples, none]
  | some recorded =>
    have one : classed [entry] = [entry] := by simp [classed, status]
    constructor
    case requests => simp [recordEntry, record?, status, one]
    case classes => simp [recordEntry, record?, status, ClassCounts.get_bump]
    case lastAccess =>
      rw [one]
      cases before : traffic.lastAccess <;>
        simp [recordEntry, record?, status, before, latest, laterOf]
    case trackers => simp [recordEntry, record?, status, samples, one]; rfl

theorem Records.trans {before middle after : Traffic} {entries more : List Entry}
    (first : before.Records entries middle) (second : middle.Records more after) :
    before.Records (entries ++ more) after where
  requests := by
    rw [second.requests, first.requests, classed_append, List.length_append, Nat.add_assoc]
  classes statusClass := by
    rw [second.classes, first.classes, List.countP_append, Nat.add_assoc]
  lastAccess := by
    rw [second.lastAccess, first.lastAccess, laterOf_assoc, ← max?_append, ← List.map_append,
      classed_append]
  trackers := by
    rw [second.trackers, first.trackers, List.map_map]
    apply List.map_congr_left
    intro tracker _
    simp [samples, classed_append, Window.Series.run]

theorem records_recordAll (traffic : Traffic) (entries : List Entry) :
    traffic.Records entries (traffic.recordAll entries) := by
  induction entries generalizing traffic with
  | nil => exact traffic.records_nil
  | cons entry rest ih => exact (traffic.records_recordEntry entry).trans (ih _)

theorem windowMicros_tracker {window : Span} (listed : window ∈ windows) (created : Instant) :
    (Window.Tracker.create window created).series.windowMicros = window.inMicros := by
  have cut : ∀ window ∈ windows, Span.ofMicros 10 ≤ window ∧ window < .ofMicros (2 ^ 62) ∧
      Window.defaultBuckets window ∣ window.inMicros := by
    decide
  obtain ⟨long, short, whole⟩ := cut window listed
  rw [Window.Tracker.windowMicros_create created long short, Nat.div_mul_cancel whole]

theorem windowTotals_recordAll {created now : Instant} {entries : List Entry}
    (near : created ≤ now → Window.Near created now)
    (past : ∀ entry ∈ entries, created ≤ entry.time ∧ entry.time ≤ now) {level : Nat}
    {window : Span} (listed : windows[level]? = some window) :
    ((create created).recordAll entries).windowTotals level now =
      .ofValues (((classed entries).filter fun entry => Window.elapsed created now <
        Window.elapsed created entry.time + window.inMicros).map (·.latency)) := by
  let series := (Window.Tracker.create window created).series
  have empty : series.Logged [] := Window.Series.logged_create _ _ _
  have length : series.windowMicros = window.inMicros :=
    windowMicros_tracker (List.mem_of_getElem? listed) created
  have tracker : ((create created).recordAll entries).latency.trackers[level]? =
      some { window, series := series.run (samples entries) } := by
    rw [(records_recordAll (create created) entries).trackers]
    simp [create, Window.Levels.create, listed, Window.Tracker.create, Window.Tracker.withBuckets,
      series]
  rw [windowTotals, Window.Levels.totals, tracker]
  show (series.run (samples entries)).totals now = _
  cases entries with
  | nil => exact empty.totals_eq now
  | cons first rest =>
    -- With a request on record the reading cannot lie before the creation.
    have begun : created ≤ now :=
      Int.le_trans (past first List.mem_cons_self).1 (past first List.mem_cons_self).2
    have recorded : ∀ sample ∈ samples (first :: rest), created ≤ sample.2 ∧ sample.2 ≤ now := by
      intro sample member
      obtain ⟨entry, recorded, rfl⟩ := List.mem_map.mp member
      exact past entry (List.mem_of_mem_filter recorded)
    have read := empty.totals_run (near begun) fun sample member =>
      ⟨Window.near_of_le (near begun) (recorded sample member).1 (recorded sample member).2,
        (recorded sample member).2⟩
    rw [length] at read
    refine read.trans ?_
    rw [samples, List.filter_map, List.map_map]
    rfl

theorem filter_elapsed {created now : Instant} {entries : List Entry}
    (past : ∀ entry ∈ entries, created ≤ entry.time ∧ entry.time ≤ now ∧ entry.time % 1000 = 0)
    (window : Nat) :
    ((classed entries).filter fun entry =>
        Window.elapsed created now < Window.elapsed created entry.time + window) =
      (classed entries).filter fun entry =>
        now / 1000 - entry.time / 1000 + (if Window.CutShort created now then 1 else 0) < window := by
  apply List.filter_congr
  intro entry recorded
  obtain ⟨after, order, whole⟩ := past entry (List.mem_of_mem_filter recorded)
  simp only [Window.elapsed_lt_iff after order whole]

section
variable {created now : Instant} {parts : List (Instant × List Entry)} {all : List Entry}

theorem windowTotals_parts (together : all.Perm (parts.flatMap (·.2)))
    (near : now - created < 2 ^ 63 * 1000) (earliest : ∀ part ∈ parts, created ≤ part.1)
    (past : ∀ part ∈ parts, ∀ entry ∈ part.2,
      part.1 ≤ entry.time ∧ entry.time ≤ now ∧ entry.time % 1000 = 0)
    (cut : ∀ part ∈ parts, part.2 ≠ [] →
      (Window.CutShort part.1 now ↔ Window.CutShort created now))
    {level : Nat} {window : Span} (listed : windows[level]? = some window) :
    .mergeAll ((parts.map fun part => (create part.1).recordAll part.2).map
        (·.windowTotals level now)) =
      ((create created).recordAll all).windowTotals level now := by
  -- What a part shows depends on where the window ends only, not on its creation.
  let shown (entries : List Entry) : List Nat :=
    ((classed entries).filter fun entry => now / 1000 - entry.time / 1000 +
      (if Window.CutShort created now then 1 else 0) < window.inMicros).map (·.latency)
  have each : ∀ part ∈ parts,
      ((create part.1).recordAll part.2).windowTotals level now = .ofValues (shown part.2) := by
    intro part member
    have recorded := past part member
    rw [windowTotals_recordAll (Window.near_of_sub_lt near (earliest part member))
      (fun entry given => ⟨(recorded entry given).1, (recorded entry given).2.1⟩) listed,
      filter_elapsed recorded]
    by_cases none : part.2 = []
    · simp only [none, shown]
      rfl
    · simp only [cut part member none, shown]
  have single : ∀ entry ∈ all,
      created ≤ entry.time ∧ entry.time ≤ now ∧ entry.time % 1000 = 0 := by
    intro entry member
    obtain ⟨part, listed, given⟩ := List.mem_flatMap.mp (together.mem_iff.mp member)
    obtain ⟨after, order⟩ := past part listed entry given
    exact ⟨Int.le_trans (earliest part listed) after, order⟩
  have joined : (parts.map fun part => shown part.2).flatten = shown (parts.flatMap (·.2)) := by
    simp only [shown, classed_flatMap, List.filter_flatMap, List.map_flatMap]
    rfl
  calc .mergeAll ((parts.map fun part => (create part.1).recordAll part.2).map
          (·.windowTotals level now))
      = .mergeAll ((parts.map fun part => shown part.2).map .ofValues) := by
        rw [List.map_map, List.map_map]
        exact congrArg _ (List.map_congr_left each)
    _ = .ofValues (shown (parts.flatMap (·.2))) := by
        rw [Window.Totals.mergeAll_ofValues, joined]
    _ = .ofValues (shown all) :=
        Window.Totals.ofValues_perm (((together.symm.filter _).filter _).map _)
    _ = ((create created).recordAll all).windowTotals level now := by
        rw [windowTotals_recordAll (Window.near_of_sub_lt near (Int.le_refl created))
          (fun entry member => ⟨(single entry member).1, (single entry member).2.1⟩) listed,
          filter_elapsed single]

theorem counters_parts (together : all.Perm (parts.flatMap (·.2))) (created now : Instant) :
    let whole := rollup (parts.map fun part => (create part.1).recordAll part.2) now
    let single := (create created).recordAll all
    whole.requests = single.requests ∧ whole.classes = single.classes ∧
      whole.lastAccess = single.lastAccess := by
  intro whole single
  have records := records_recordAll (create created) all
  have part_records := fun part : Instant × List Entry => records_recordAll (create part.1) part.2
  -- Sums and maxima do not depend on the order in which the requests come.
  have recorded : (classed all).Perm (parts.flatMap fun part => classed part.2) := by
    rw [← classed_flatMap]
    exact together.filter _
  refine ⟨?_, ?_, ?_⟩
  · rw [requests_rollup, records.requests, recorded.length_eq, List.length_flatMap, List.map_map]
    simp only [Function.comp_def, (part_records _).requests]
    simp [create]
  · apply ClassCounts.ext_get
    intro statusClass
    rw [classes_rollup, records.classes, together.countP_eq, List.countP_flatMap, List.map_map]
    simp only [Function.comp_def, (part_records _).classes]
    cases statusClass <;> simp [create, ClassCounts.get]
  · have latest : ∀ part : Instant × List Entry,
        ((create part.1).recordAll part.2).lastAccess = ((classed part.2).map (·.time)).max? :=
      fun part => (part_records part).lastAccess
    rw [lastAccess_rollup, records.lastAccess, List.filterMap_map]
    simp only [Function.comp_def, latest]
    rw [max?_flatMap, max?_perm (recorded.map _), List.map_flatMap]
    rfl

/-- Requests that were recorded on several parts, none before the creation of its part and none
ahead of the reading, roll up to what they make on a single part created no later than any of
them. The requests come at whole microseconds, the reading less than 2 ^ 63 microseconds after
that creation, and the windows are cut at the same microsecond wherever there are requests, as
they are if the reading is taken at a whole microsecond too. -/
theorem rollup_undivided (together : all.Perm (parts.flatMap (·.2)))
    (near : now - created < 2 ^ 63 * 1000) (earliest : ∀ part ∈ parts, created ≤ part.1)
    (past : ∀ part ∈ parts, ∀ entry ∈ part.2,
      part.1 ≤ entry.time ∧ entry.time ≤ now ∧ entry.time % 1000 = 0)
    (cut : ∀ part ∈ parts, part.2 ≠ [] →
      (Window.CutShort part.1 now ↔ Window.CutShort created now)) :
    let whole := rollup (parts.map fun part => (create part.1).recordAll part.2) now
    let single := ((create created).recordAll all).finalize now
    whole.requests = single.requests ∧ whole.classes = single.classes ∧
      whole.lastAccess = single.lastAccess ∧ whole.lastSecond = single.lastSecond ∧
      whole.lastTen = single.lastTen ∧ whole.lastMinute = single.lastMinute := by
  intro whole single
  obtain ⟨requests, classes, lastAccess⟩ := counters_parts together created now
  have figures := fun (level : Nat) {window : Span} (listed : windows[level]? = some window) =>
    congrArg (WindowFigures.ofTotals window)
      (windowTotals_parts together near earliest past cut listed)
  exact ⟨requests, classes, lastAccess, figures 0 rfl, figures 1 rfl, figures 2 rfl⟩

end

/-- A part created between two microseconds, requests out of order and one without a class. -/
theorem rollup_undivided_shared :
    let first : List Entry := [⟨5, 200, 3000⟩, ⟨7, 999, 2000⟩]
    let second : List Entry := [⟨9, 404, 1000⟩]
    let parts : List (Instant × List Entry) := [(0, first), (500, second)]
    let whole := rollup (parts.map fun part => (create part.1).recordAll part.2) 2000000000
    let single := ((create 0).recordAll (second ++ first)).finalize 2000000000
    single.requests = 2 ∧ whole.requests = 2 ∧ whole.lastTen = single.lastTen := by
  intro first second parts whole single
  have together : (second ++ first).Perm (parts.flatMap (·.2)) := List.perm_append_comm
  have near : (2000000000 : Int) - 0 < 2 ^ 63 * 1000 := by decide
  have earliest : ∀ part ∈ parts, 0 ≤ part.1 := by simp [parts]
  have past : ∀ part ∈ parts, ∀ entry ∈ part.2,
      part.1 ≤ entry.time ∧ entry.time ≤ 2000000000 ∧ entry.time % 1000 = 0 := by
    simp [parts, first, second]
  have cut : ∀ part ∈ parts, part.2 ≠ [] →
      (Window.CutShort part.1 2000000000 ↔ Window.CutShort 0 2000000000) := by
    have each : ∀ part ∈ parts,
        (Window.CutShort part.1 2000000000 ↔ Window.CutShort 0 2000000000) := by
      simp only [parts, List.forall_mem_cons]
      decide
    exact fun part listed _ => each part listed
  obtain ⟨requests, -, -, -, lastTen, -⟩ := rollup_undivided together near earliest past cut
  have two : single.requests = 2 := by decide +kernel
  exact ⟨two, requests.trans two, lastTen⟩

/-- Read between two microseconds, a part that was created between two shows a window shorter
than one that was not; and a reading too far from a creation takes every request to be recent. -/
theorem rollup_undivided_cut :
    let rates (created start now : Instant) (request : Entry) : Nat × Nat :=
      ((rollup [create created, (create start).recordAll [request]] now).lastSecond.rate,
        (((create created).recordAll [request]).finalize now).lastSecond.rate)
    rates 0 500 1000000700 ⟨1, 200, 1000⟩ = (0, 1) ∧
      let far := 8000000000000000000000
      rates (-far) far (far + 3600000000000) ⟨1, 200, far⟩ = (0, 1) := by
  decide +kernel

end Traffic

end Telemetry
