import Telemetry.Time
import Telemetry.Window.Totals

/-!
Samples over a sliding window of fixed length.

A window is a number of buckets of equal width. The series keeps one bucket more than a
window has, since a window that starts inside a bucket touches that many. Each bucket knows
the stretch of time it stands for, its epoch, and is emptied when its place is needed for
another. A reading at an instant covers the window that ends there: whole buckets give
their totals, the bucket in which the window starts is sifted sample by sample. A reading
never ends before the newest sample, so an older clock loses nothing.
-/

set_option autoImplicit false

namespace Telemetry.Window

/-- A sample with its distance from the creation of the series in microseconds. -/
structure Sample where
  offset : Nat
  value : Nat
  deriving DecidableEq

structure Bucket where
  epoch : Nat := 0
  totals : Totals := {}
  /-- The samples, newest first. -/
  samples : List Sample := []
  deriving DecidableEq

namespace Bucket

def add (bucket : Bucket) (value : Nat) : Bucket :=
  { bucket with totals := bucket.totals.add value }

def record (bucket : Bucket) (sample : Sample) : Bucket :=
  { bucket.add sample.value with samples := sample :: bucket.samples }

def empty (epoch : Nat) : Bucket := { epoch }

def forEpoch (bucket : Bucket) (epoch : Nat) : Bucket :=
  if bucket.epoch = epoch then bucket else empty epoch

def after (bucket : Bucket) (offset : Nat) : Totals :=
  .mergeAll ((bucket.samples.filter (offset < ·.offset)).map (.single ·.value))

end Bucket

structure Series where
  created : Instant
  width : Span
  /-- Buckets in a window. -/
  count : Nat
  buckets : Vector Bucket (count + 1)
  newest : Nat
  deriving DecidableEq

namespace Series

/-- A series has at least one bucket, and buckets are at least a microsecond wide. -/
def create (created : Instant) (width : Span) (count : Nat) : Series where
  created
  width := max width (.ofMicros 1)
  count := max count 1
  buckets := .replicate _ {}
  newest := 0

def widthMicros (series : Series) : Nat := max (series.width.inMicros % 2 ^ 64) 1

theorem widthMicros_pos (series : Series) : 0 < series.widthMicros := by
  simp only [widthMicros]
  omega

/-- The length of a window in whole microseconds, within 64 bits. -/
def windowMicros (series : Series) : Nat := series.widthMicros * series.count % 2 ^ 64

/-- None where the product does not fit: then adding and reading end the program. -/
def windowMicros? (series : Series) : Option Nat := mul64? series.widthMicros series.count

/-- Microseconds since creation; instants before it count as zero. -/
def offset (series : Series) (t : Instant) : Nat :=
  ((microsBetween? series.created t).getD (2 ^ 63 - 1)).toNat

def epoch (series : Series) (t : Instant) : Nat := series.offset t / series.widthMicros

def readEnd (series : Series) (t : Instant) : Nat := max (series.offset t) series.newest

def expired (series : Series) (offset : Nat) : Bool :=
  capped (offset + series.windowMicros) ≤ series.newest

def add? (series : Series) (value : Nat) (t : Instant) : Option Series :=
  let offset := series.offset t
  if series.expired offset then none else
    let epoch := offset / series.widthMicros
    let place : Fin (series.count + 1) := Fin.ofNat _ epoch
    -- The place may still hold an earlier epoch, a turn or more behind.
    let bucket := (series.buckets[place].forEpoch epoch).record ⟨offset, value⟩
    some { series with
      buckets := series.buckets.set place bucket
      newest := max series.newest offset }

def add (series : Series) (value : Nat) (t : Instant) : Series :=
  (series.add? value t).getD series

/-- What one bucket adds to a reading that ends at an offset. -/
def contribution (series : Series) (stop : Nat) (bucket : Bucket) : Totals :=
  let width := series.widthMicros
  if series.windowMicros ≤ stop then
    let start := stop - series.windowMicros
    if bucket.epoch < start / width ∨ stop / width < bucket.epoch then {}
    else if bucket.epoch = start / width then bucket.after start
    else bucket.totals
  -- The window reaches back beyond the creation, so no bucket is cut.
  else if stop / width < bucket.epoch then {}
  else bucket.totals

def totals (series : Series) (t : Instant) : Totals :=
  .mergeAll (series.buckets.toList.map (series.contribution (series.readEnd t)))

def length (series : Series) : Span := series.width * (series.count % 2 ^ 32)

/-- Whether enough time has passed for every bucket of a window to have been in use. -/
def fullWindowSeen (series : Series) (t : Instant) : Bool :=
  series.count ≤ series.readEnd t / series.widthMicros + 1

end Series

end Telemetry.Window
