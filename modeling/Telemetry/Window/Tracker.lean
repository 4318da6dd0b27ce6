import Telemetry.Window.Series

/-!
Trackers: a series behind a nominal window, alone or one for each of several windows.
-/

set_option autoImplicit false

namespace Telemetry.Window

def perSecond (count : Nat) (window : Span) : Nat :=
  count * 1000000 / max window.inMicros 1 % 2 ^ 64

/-- Ten buckets up to a second, beyond it one for each second up to ten minutes. -/
def defaultBuckets (window : Span) : Nat :=
  if window ≤ .ofSeconds 1 then 10 else min (max window.inSeconds 1) 600

structure Tracker where
  window : Span
  series : Series
  deriving DecidableEq

namespace Tracker

def withBuckets (window : Span) (buckets : Nat) (now : Instant) : Tracker where
  window
  series := .create now (window / (max buckets 1 % 2 ^ 32)) (max buckets 1)

def create (window : Span) (now : Instant) : Tracker :=
  withBuckets window (defaultBuckets window) now

def add? (tracker : Tracker) (value : Nat) (t : Instant) : Option Tracker :=
  (tracker.series.add? value t).map fun series => { tracker with series }

def add (tracker : Tracker) (value : Nat) (t : Instant) : Tracker :=
  { tracker with series := tracker.series.add value t }

def totals (tracker : Tracker) (t : Instant) : Totals := tracker.series.totals t

def count (tracker : Tracker) (t : Instant) : Nat := (tracker.totals t).count

def rate (tracker : Tracker) (t : Instant) : Nat := perSecond (tracker.count t) tracker.window

def mean (tracker : Tracker) (t : Instant) : Binary64 := (tracker.totals t).mean

end Tracker

structure Levels where
  trackers : List Tracker
  allTime : Totals
  deriving DecidableEq

namespace Levels

def create (windows : List Span) (now : Instant) : Levels where
  trackers := windows.map (Tracker.create · now)
  allTime := {}

def add (levels : Levels) (value : Nat) (t : Instant) : Levels where
  trackers := levels.trackers.map (·.add value t)
  allTime := levels.allTime.add value

/-- Totals of a level; beyond the last window those of all time. -/
def totals (levels : Levels) (level : Nat) (t : Instant) : Totals :=
  match levels.trackers[level]? with
  | some tracker => tracker.totals t
  | none => levels.allTime

def window? (levels : Levels) (level : Nat) : Option Span :=
  levels.trackers[level]?.map (·.window)

def count (levels : Levels) (level : Nat) (t : Instant) : Nat := (levels.totals level t).count

def mean (levels : Levels) (level : Nat) (t : Instant) : Binary64 := (levels.totals level t).mean

/-- All time has no length, hence no rate. -/
def rate (levels : Levels) (level : Nat) (t : Instant) : Nat :=
  match levels.trackers[level]? with
  | some tracker => tracker.rate t
  | none => 0

end Levels

end Telemetry.Window
