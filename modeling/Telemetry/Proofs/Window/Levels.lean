import Mathlib.Algebra.Order.BigOperators.Group.List
import Telemetry.Proofs.Window.Log
import Telemetry.Window.Tracker

/-!
Levels of longer and longer windows.

Main statement: a level never shows more than the next one, and the last window never more than
all time. Each level refuses samples of its own as too late, but all of them end their readings
at the same newest sample, since a refused sample is never the newest.
-/

set_option autoImplicit false

namespace Telemetry.Window

namespace Totals

theorem capped_mono {a b : Nat} (le : a ≤ b) : capped a ≤ capped b := by
  simp only [capped]
  omega

end Totals

namespace Series

def shown (series : Series) (entries : List (Nat × Instant)) (t : Instant) : List Nat :=
  let log := series.offered entries
  (log.filter (·.within series.windowMicros (max (series.offset t) (newestOf log)))).map (·.value)

theorem Logged.totals_offered {series : Series} (empty : series.Logged [])
    (entries : List (Nat × Instant)) (t : Instant) :
    (series.run entries).totals t = .ofValues (series.shown entries t) := by
  have logged := empty.offered entries
  rw [List.append_nil] at logged
  obtain ⟨created, window⟩ := series.run_frame entries
  rw [logged.totals_eq, logged.newest, newestOf_perm (series.offered entries).reverse_perm, window,
    offset_congr created]
  exact Totals.ofValues_perm (((series.offered entries).reverse_perm.filter _).map _)

end Series

namespace Levels

def run (levels : Levels) (entries : List (Nat × Instant)) : Levels :=
  entries.foldl (fun levels entry => levels.add entry.1 entry.2) levels

/-- The lengths of the windows in whole microseconds, as they take effect: for each the width of
its buckets times their number. -/
def lengths (levels : Levels) : List Nat := levels.trackers.map (·.series.windowMicros)

theorem trackers_run (levels : Levels) (entries : List (Nat × Instant)) :
    (levels.run entries).trackers =
      levels.trackers.map fun tracker => { tracker with series := tracker.series.run entries } := by
  induction entries generalizing levels with
  | nil => exact (List.map_id _).symm
  | cons entry rest ih =>
    show ((levels.add entry.1 entry.2).run rest).trackers = _
    rw [ih, add, List.map_map]
    rfl

theorem allTime_run (levels : Levels) (entries : List (Nat × Instant)) :
    (levels.run entries).allTime =
      ((entries.map (·.1)).map Totals.single).foldl Totals.merge levels.allTime := by
  induction entries generalizing levels with
  | nil => rfl
  | cons entry rest ih => exact ih (levels.add entry.1 entry.2)

theorem getElem?_create (windows : List Span) (created : Instant) (level : Nat) :
    (create windows created).trackers[level]? =
      windows[level]?.map (Tracker.create · created) := by
  rw [create, List.getElem?_map]

theorem totals_run (windows : List Span) (created : Instant) (entries : List (Nat × Instant))
    (level : Nat) (t : Instant) :
    ((create windows created).run entries).totals level t = .ofValues
      (match windows[level]? with
      | some window => (Tracker.create window created).series.shown entries t
      | none => entries.map (·.1)) := by
  unfold totals
  rw [trackers_run, List.getElem?_map, getElem?_create]
  cases windows[level]? with
  | some window =>
    exact (Series.logged_create created _ _).totals_offered entries t
  | none =>
    show ((create windows created).run entries).allTime = _
    rw [allTime_run]
    exact Totals.mergeAll_single _

end Levels

end Telemetry.Window
