import Telemetry.Quantity
import Telemetry.Window.Tracker

/-!
Traffic of one container, or of an application once its containers are rolled up.

Requests are counted by the class of their status; latencies in nanoseconds go into
windows of one, ten and sixty seconds. Rates and means are drawn from the windows only
when a view is taken.
-/

set_option autoImplicit false

namespace Telemetry

inductive StatusClass where
  | success
  | redirect
  | clientError
  | serverError
  deriving DecidableEq, Repr

/-- Statuses from 200 to 599 have a class. -/
def StatusClass.ofStatus? (status : Nat) : Option StatusClass :=
  match status / 100 with
  | 2 => some .success
  | 3 => some .redirect
  | 4 => some .clientError
  | 5 => some .serverError
  | _ => none

structure ClassCounts where
  success : Nat := 0
  redirect : Nat := 0
  clientError : Nat := 0
  serverError : Nat := 0
  deriving DecidableEq

namespace ClassCounts

def get (counts : ClassCounts) : StatusClass → Nat
  | .success => counts.success
  | .redirect => counts.redirect
  | .clientError => counts.clientError
  | .serverError => counts.serverError

def bump (counts : ClassCounts) : StatusClass → ClassCounts
  | .success => { counts with success := counts.success + 1 }
  | .redirect => { counts with redirect := counts.redirect + 1 }
  | .clientError => { counts with clientError := counts.clientError + 1 }
  | .serverError => { counts with serverError := counts.serverError + 1 }

def plus (a b : ClassCounts) : ClassCounts where
  success := a.success + b.success
  redirect := a.redirect + b.redirect
  clientError := a.clientError + b.clientError
  serverError := a.serverError + b.serverError

def total (counts : ClassCounts) : Nat :=
  counts.success + counts.redirect + counts.clientError + counts.serverError

theorem get_bump (counts : ClassCounts) (a b : StatusClass) :
    (counts.bump a).get b = counts.get b + if a = b then 1 else 0 := by
  cases a <;> cases b <;> rfl

theorem total_bump (counts : ClassCounts) (a : StatusClass) :
    (counts.bump a).total = counts.total + 1 := by
  cases a <;> simp only [bump, total] <;> omega

end ClassCounts

structure WindowFigures where
  /-- Mean latency in nanoseconds. -/
  mean : Binary64 := .zero
  /-- Requests per second. -/
  rate : Nat := 0
  deriving DecidableEq

def WindowFigures.ofTotals (window : Span) (totals : Window.Totals) : WindowFigures where
  mean := totals.mean
  rate := Window.perSecond totals.count window

structure Traffic where
  latency : Window.Levels
  requests : Nat := 0
  classes : ClassCounts := {}
  lastSecond : WindowFigures := {}
  lastTen : WindowFigures := {}
  lastMinute : WindowFigures := {}
  lastAccess : Option Instant := none
  deriving DecidableEq

namespace Traffic

def windows : List Span := [.ofSeconds 1, .ofSeconds 10, .ofSeconds 60]

def create (now : Instant) : Traffic where
  latency := .create windows now

/-- Count a completed request. One whose status has no class is not counted here. -/
def record? (traffic : Traffic) (latency status : Nat) (now : Instant) : Option Traffic :=
  (StatusClass.ofStatus? status).map fun statusClass =>
    { traffic with
      latency := traffic.latency.add latency now
      requests := traffic.requests + 1
      classes := traffic.classes.bump statusClass
      lastAccess := some (latest traffic.lastAccess now) }

def windowTotals (traffic : Traffic) (level : Nat) (now : Instant) : Window.Totals :=
  traffic.latency.totals level now

def withFigures (traffic : Traffic) (totals : Nat → Window.Totals) : Traffic :=
  { traffic with
    lastSecond := .ofTotals (.ofSeconds 1) (totals 0)
    lastTen := .ofTotals (.ofSeconds 10) (totals 1)
    lastMinute := .ofTotals (.ofSeconds 60) (totals 2) }

def finalize (traffic : Traffic) (now : Instant) : Traffic :=
  traffic.withFigures (traffic.windowTotals · now)

def laterOf : Option Instant → Option Instant → Option Instant
  | some a, some b => some (max a b)
  | some a, none => some a
  | none, b => b

def absorb (total part : Traffic) : Traffic :=
  { total with
    requests := total.requests + part.requests
    classes := total.classes.plus part.classes
    lastAccess := laterOf total.lastAccess part.lastAccess }

/-- The traffic of several containers as one. The totals of their windows are merged before
any mean is taken, so each request has the same weight. -/
def rollup (parts : List Traffic) (now : Instant) : Traffic :=
  (parts.foldl absorb (create now)).withFigures fun level =>
    .mergeAll (parts.map (·.windowTotals level now))

def summary (traffic : Traffic) : String :=
  let seconds := traffic.lastMinute.mean.div (.ofNat 1000000000)
  toString traffic.requests ++ " requests (2xx: " ++ toString traffic.classes.success ++
    " 3xx: " ++ toString traffic.classes.redirect ++ " 4xx: " ++
    toString traffic.classes.clientError ++ " 5xx: " ++ toString traffic.classes.serverError ++
    "); " ++ toString traffic.lastSecond.rate ++ "/" ++ toString traffic.lastTen.rate ++ "/" ++
    toString traffic.lastMinute.rate ++ " req/s; avg " ++ Quantity.display (some seconds) "s"

end Traffic

end Telemetry
