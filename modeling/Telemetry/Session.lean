import Telemetry.History
import Telemetry.Snapshot

/-!
A session: the intake with its streams, the snapshots and history drawn from it, and the
timers that draw them.

A session has no clock of its own. Each operation is given the instant at which it happens;
timers go by the time that passes.
-/

set_option autoImplicit false

namespace Telemetry

/-- Time left until the next snapshot and the next history tick. -/
structure Timers where
  snapshot : Span
  history : Span
  deriving DecidableEq

structure Session where
  config : Config
  intake : Intake
  board : Board
  recorder : Recorder
  streams : List Nat := []
  timers : Option Timers := none

/-- How often a timer fires within a span, and the time then left until it fires again. -/
def firings (remaining interval span : Span) : Nat × Span :=
  if span < remaining then (0, remaining - span)
  else ((span - remaining) / interval + 1, interval - (span - remaining) % interval)

namespace Session

def create (config : Config) (now : Instant) : Session where
  config
  intake := .create config
  board := .create config now
  recorder := .create config.history now

/-- Open a stream; its events are sent through the handle that is returned. -/
def openStream (session : Session) (stream : Nat) : Nat × Session :=
  (session.streams.length, { session with streams := session.streams ++ [stream] })

def process (session : Session) (stream : Nat) (envelope : Envelope) (now : Instant) : Session :=
  { session with intake := session.intake.process stream envelope now }

def send? (session : Session) (handle : Nat) (envelope : Envelope) (now : Instant) :
    Option Session :=
  session.streams[handle]?.map fun stream => session.process stream envelope now

def register (session : Session) (domain host path id : String) :
    Except Route.Error Unit × Session :=
  let figures := session.intake.figures
  let (result, routes) := figures.routes.registerPath domain host path id
  (result, { session with intake := { session.intake with figures := { figures with routes } } })

def publish (session : Session) (now : Instant) : Session :=
  { session with board := session.board.take session.intake now }

def publish? (session : Session) (now : Instant) : Option Session :=
  (session.board.take? session.intake now).map fun board => { session with board }

def tick (session : Session) (now : Instant) : Session :=
  let (recorder, counters) := session.recorder.tick session.intake.counters now
  { session with recorder, intake := { session.intake with counters } }

def clear (session : Session) (now : Instant) : Session :=
  let intake := session.intake.clear
  { session with
    intake
    board := session.board.reset intake now
    recorder := session.recorder.clear now }

/-- Start the timers, if they do not run. The first snapshot is due at once, the first
history tick after one interval. -/
def start (session : Session) : Session :=
  { session with timers := session.timers.or (some ⟨0, session.config.historyTick⟩) }

def shutdown (session : Session) : Session := { session with timers := none }

def times (n : Nat) (action : Session → Session) (session : Session) : Session :=
  Nat.repeat action n session

/-- Let time pass. Snapshots and ticks draw on different figures, so their order does not
show. -/
def pass (session : Session) (span : Span) (now : Instant) : Session :=
  match session.timers with
  | none => session
  | some timers =>
    let (snapshots, snapshot) := firings timers.snapshot session.config.snapshotInterval span
    let (ticks, history) := firings timers.history session.config.historyTick span
    let session := (session.times snapshots (·.publish now)).times ticks (·.tick now)
    { session with timers := some ⟨snapshot, history⟩ }

/-- The same where snapshots may end the program: the first that falls due tells, since all of
them draw on the same figures. -/
def pass? (session : Session) (span : Span) (now : Instant) : Option Session :=
  if session.timers.any fun timers => timers.snapshot ≤ span then
    (session.publish? now).map fun _ => session.pass span now
  else some (session.pass span now)

end Session

end Telemetry
