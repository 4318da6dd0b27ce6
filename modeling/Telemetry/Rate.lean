import Telemetry.Event

/-!
Counts of events and their rates over an interval.

Events are counted in all and since the last interval was taken. A record of one interval holds for
all events, and for each kind it has seen, the highest and the lowest rate. Merging records spans
their intervals; a kind missing from a record had a rate of zero there.
-/

set_option autoImplicit false

namespace Telemetry

structure PerKind (α : Type) where
  httpStartStop : α
  containerMetric : α
  logMessage : α
  valueMetric : α
  counterEvent : α
  other : α
  deriving DecidableEq

namespace PerKind

variable {α : Type}

def get (values : PerKind α) : EventKind → α
  | .httpStartStop => values.httpStartStop
  | .containerMetric => values.containerMetric
  | .logMessage => values.logMessage
  | .valueMetric => values.valueMetric
  | .counterEvent => values.counterEvent
  | .other => values.other

def ofFn (f : EventKind → α) : PerKind α :=
  ⟨f .httpStartStop, f .containerMetric, f .logMessage, f .valueMetric, f .counterEvent,
    f .other⟩

@[simp] theorem get_ofFn (f : EventKind → α) (kind : EventKind) : (ofFn f).get kind = f kind := by
  cases kind <;> rfl

theorem ext_get {a b : PerKind α} (same : ∀ kind, a.get kind = b.get kind) : a = b := by
  obtain ⟨a1, a2, a3, a4, a5, a6⟩ := a
  have h1 := same .httpStartStop
  have h2 := same .containerMetric
  have h3 := same .logMessage
  have h4 := same .valueMetric
  have h5 := same .counterEvent
  have h6 := same .other
  simp only [get] at *
  subst h1 h2 h3 h4 h5 h6
  rfl

def set (values : PerKind α) (kind : EventKind) (value : α) : PerKind α :=
  match kind with
  | .httpStartStop => { values with httpStartStop := value }
  | .containerMetric => { values with containerMetric := value }
  | .logMessage => { values with logMessage := value }
  | .valueMetric => { values with valueMetric := value }
  | .counterEvent => { values with counterEvent := value }
  | .other => { values with other := value }

theorem get_set (values : PerKind α) (kind asked : EventKind) (value : α) :
    (values.set kind value).get asked = if asked = kind then value else values.get asked := by
  cases kind <;> cases asked <;> rfl

end PerKind

/-- The highest and the lowest rate of some intervals, in events per second. -/
structure RateRange where
  high : Nat := 0
  low : Nat := 0
  deriving DecidableEq

namespace RateRange

def exactly (rate : Nat) : RateRange := ⟨rate, rate⟩

def merge (a b : RateRange) : RateRange := ⟨max a.high b.high, min a.low b.low⟩

end RateRange

/-- A number of events as a rate; an interval below a second counts as one. -/
def rateOver (count : Nat) (start stop : Instant) : Nat :=
  let elapsed := millisBetween start stop
  if elapsed ≤ 1000 then count else count * 1000 / elapsed.toNat

structure RateRecord where
  start : Instant
  stop : Instant
  total : RateRange
  perKind : PerKind (Option RateRange)
  deriving DecidableEq

namespace RateRecord

/-- A record of counted events; of two counts for one kind the last holds. -/
def ofCounts (start stop : Instant) (total : Nat) (counts : List (EventKind × Nat)) :
    RateRecord where
  start
  stop
  total := .exactly (rateOver total start stop)
  perKind := counts.foldl
    (fun ranges (kind, n) => ranges.set kind (some (.exactly (rateOver n start stop))))
    (.ofFn fun _ => none)

def kindRate (record : RateRecord) (kind : EventKind) : RateRange :=
  (record.perKind.get kind).getD {}

def mergeRest (first : RateRecord) (rest : List RateRecord) : RateRecord where
  start := rest.foldl (fun t r => min t r.start) first.start
  stop := rest.foldl (fun t r => max t r.stop) first.stop
  total := rest.foldl (fun range r => range.merge r.total) first.total
  perKind := .ofFn fun kind =>
    if (first :: rest).any (fun r => (r.perKind.get kind).isSome) then
      some (rest.foldl (fun range r => range.merge (r.kindRate kind)) (first.kindRate kind))
    else none

def merge? : List RateRecord → Option RateRecord
  | [] => none
  | first :: rest => some (mergeRest first rest)

end RateRecord

/-! ### Counters -/

structure IntervalCounts where
  total : Nat := 0
  perKind : PerKind Nat := .ofFn fun _ => 0
  deriving DecidableEq

def IntervalCounts.pairs (counts : IntervalCounts) : List (EventKind × Nat) :=
  EventKind.all.map fun kind => (kind, counts.perKind.get kind)

structure Counters where
  /-- Events since the start or the last reset. -/
  processed : Nat := 0
  interval : IntervalCounts := {}
  deriving DecidableEq

namespace Counters

def record (counters : Counters) (kind : EventKind) : Counters where
  processed := counters.processed + 1
  interval :=
    { total := counters.interval.total + 1
      perKind := counters.interval.perKind.set kind (counters.interval.perKind.get kind + 1) }

def takeInterval (counters : Counters) : IntervalCounts × Counters :=
  (counters.interval, { counters with interval := {} })

def reset (_ : Counters) : Counters := {}

end Counters

end Telemetry
