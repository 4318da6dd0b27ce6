import Telemetry.Rate

/-!
The history of event rates, at five resolutions, as it is kept and as it is displayed.

New records go to the finest tier. A tier that holds more than its limit gives up all but the newest
half of the limit; of what it gives up the oldest half becomes one record of the next tier. The
coarsest tier has no limit.

A tick changes the history and then publishes it; so does a clear. What is displayed stays as it was
between the two steps.
-/

set_option autoImplicit false

namespace Telemetry

inductive Resolution where
  | second
  | minute
  | tenMinute
  | hour
  | day
  deriving DecidableEq, Repr

namespace Resolution

def all : List Resolution := [second, minute, tenMinute, hour, day]

def next? : Resolution → Option Resolution
  | second => some minute
  | minute => some tenMinute
  | tenMinute => some hour
  | hour => some day
  | day => none

def name : Resolution → String
  | second => "second"
  | minute => "minute"
  | tenMinute => "ten-minute"
  | hour => "hour"
  | day => "day"

end Resolution

structure HistoryLimits where
  second : Nat := 120
  minute : Nat := 20
  tenMinute : Nat := 12
  hour : Nat := 48
  deriving DecidableEq

/-- Records of one resolution, oldest first. -/
structure Tier where
  limit : Option Nat
  records : List RateRecord := []
  deriving DecidableEq

namespace Tier

def append (tier : Tier) (record : RateRecord) : Tier :=
  { tier with records := tier.records ++ [record] }

def newest (n : Nat) (records : List RateRecord) : List RateRecord :=
  records.drop (records.length - n)

/-- What a tier over its limit keeps, and what it passes on. -/
def consolidate (tier : Tier) : Tier × Option RateRecord :=
  match tier.limit with
  | none => (tier, none)
  | some limit =>
    if tier.records.length ≤ limit then (tier, none)
    else
      let half := limit / 2
      -- Records between the oldest and the newest half are dropped.
      ({ tier with records := newest half (tier.records.drop half) },
        RateRecord.merge? (tier.records.take half))

/-- Append to the finest of some tiers; what a tier passes on goes to the next. -/
def cascade (record : RateRecord) : List Tier → List Tier
  | [] => []
  | tier :: coarser =>
    match (tier.append record).consolidate with
    | (tier, none) => tier :: coarser
    | (tier, some merged) => tier :: cascade merged coarser

end Tier

structure History where
  tiers : List Tier
  lastTick : Instant
  deriving DecidableEq

namespace History

def create (limits : HistoryLimits) (now : Instant) : History where
  tiers := [⟨some limits.second, []⟩, ⟨some limits.minute, []⟩, ⟨some limits.tenMinute, []⟩,
    ⟨some limits.hour, []⟩, ⟨none, []⟩]
  lastTick := now

def record (history : History) (record : RateRecord) : History :=
  { history with tiers := Tier.cascade record history.tiers }

/-- Record what was counted since the last tick. A clock that has stepped back gives an
interval of no length. -/
def tick (history : History) (counters : Counters) (now : Instant) : History × Counters :=
  let (counts, counters) := counters.takeInterval
  let start := min history.lastTick now
  ({ history.record (.ofCounts start now counts.total counts.pairs) with lastTick := now },
    counters)

def ordered (history : History) : List RateRecord :=
  history.tiers.reverse.flatMap (·.records)

def size (history : History) : Nat := (history.tiers.map (·.records.length)).sum

def clear (history : History) (now : Instant) : History where
  tiers := history.tiers.map fun tier => { tier with records := [] }
  lastTick := now

end History

/-! ### Recorders -/

structure Recorder where
  history : History
  displayed : List RateRecord := []
  deriving DecidableEq

namespace Recorder

def create (limits : HistoryLimits) (now : Instant) : Recorder where
  history := .create limits now

/-- The first step of a tick: record the interval; what is to be published is returned. -/
def advance (recorder : Recorder) (counters : Counters) (now : Instant) :
    List RateRecord × Recorder × Counters :=
  let (history, counters) := recorder.history.tick counters now
  (history.ordered, { recorder with history }, counters)

/-- The second step of a tick or a clear. -/
def publish (recorder : Recorder) (records : List RateRecord) : Recorder :=
  { recorder with displayed := records }

def tick (recorder : Recorder) (counters : Counters) (now : Instant) : Recorder × Counters :=
  let (records, recorder, counters) := recorder.advance counters now
  (recorder.publish records, counters)

/-- The first step of a clear. -/
def forget (recorder : Recorder) (now : Instant) : Recorder :=
  { recorder with history := recorder.history.clear now }

def clear (recorder : Recorder) (now : Instant) : Recorder := (recorder.forget now).publish []

end Recorder

end Telemetry
