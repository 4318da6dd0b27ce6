import Telemetry.Proofs.Concurrency.Schedule
import Telemetry.History

/-!
Tasks that tick and clear the history while events are counted.

A tick or a clear changes the history under its lock and stores what is to be displayed some
time later, without the lock. The locks are numbered here; the program does not keep the
numbers.
-/

set_option autoImplicit false

namespace Telemetry

structure Desk where
  counters : Counters := {}
  recorder : Recorder
  /-- How often the history was locked. -/
  locks : Nat := 0
  /-- What each task has still to store, with the number of its lock. -/
  pending : Nat → Option (Nat × List RateRecord) := fun _ => none
  /-- The number of the lock under which the records on display were read. -/
  shown : Nat := 0

namespace Desk

inductive Act where
  | count (kind : EventKind)
  | resetCounters
  | advance (task : Nat) (now : Instant)
  | forget (task : Nat) (now : Instant)
  | publish (task : Nat)

def locked (desk : Desk) (task : Nat) (records : List RateRecord) (recorder : Recorder)
    (counters : Counters) : Option Desk :=
  if (desk.pending task).isSome then none
  else some { desk with
    counters
    recorder
    locks := desk.locks + 1
    pending := Function.update desk.pending task (some (desk.locks + 1, records)) }

def step (desk : Desk) : Act → Option Desk
  | .count kind => some { desk with counters := desk.counters.record kind }
  | .resetCounters => some { desk with counters := desk.counters.reset }
  | .advance task now =>
    let (records, recorder, counters) := desk.recorder.advance desk.counters now
    desk.locked task records recorder counters
  | .forget task now => desk.locked task [] (desk.recorder.forget now) desk.counters
  | .publish task => (desk.pending task).map fun (lock, records) =>
    { desk with
      recorder := desk.recorder.publish records
      pending := Function.update desk.pending task none
      shown := lock }

def read? (desk : Desk) : Act → Option (List RateRecord)
  | .advance _ now => some (desk.recorder.history.tick desk.counters now).1.ordered
  | .forget _ _ => some []
  | _ => none

theorem locked_eq_some {desk next : Desk} {task : Nat} {records : List RateRecord}
    {recorder : Recorder} {counters : Counters}
    (taken : desk.locked task records recorder counters = some next) :
    desk.pending task = none ∧ next = { desk with
      counters
      recorder
      locks := desk.locks + 1
      pending := Function.update desk.pending task (some (desk.locks + 1, records)) } := by
  unfold locked at taken
  split at taken
  · cases taken
  · next free =>
    cases taken
    exact ⟨by simpa using free, rfl⟩

theorem step_cases {desk next : Desk} {act : Act} (taken : desk.step act = some next) :
    (desk.read? act = none ∧ next.recorder = desk.recorder ∧ next.locks = desk.locks ∧
      next.pending = desk.pending ∧ next.shown = desk.shown) ∨
    (∃ task records, desk.read? act = some records ∧ desk.pending task = none ∧
      next.recorder.displayed = desk.recorder.displayed ∧ next.locks = desk.locks + 1 ∧
      next.pending = Function.update desk.pending task (some (desk.locks + 1, records)) ∧
      next.shown = desk.shown) ∨
    ∃ task lock records, act = .publish task ∧ desk.read? act = none ∧
      desk.pending task = some (lock, records) ∧ next.recorder = desk.recorder.publish records ∧
      next.locks = desk.locks ∧ next.pending = Function.update desk.pending task none ∧
      next.shown = lock := by
  cases act with
  | count kind =>
    cases taken
    exact .inl ⟨rfl, rfl, rfl, rfl, rfl⟩
  | resetCounters =>
    cases taken
    exact .inl ⟨rfl, rfl, rfl, rfl, rfl⟩
  | advance task now =>
    obtain ⟨free, rfl⟩ := locked_eq_some taken
    exact .inr (.inl ⟨task, _, rfl, free, rfl, rfl, rfl, rfl⟩)
  | forget task now =>
    obtain ⟨free, rfl⟩ := locked_eq_some taken
    exact .inr (.inl ⟨task, _, rfl, free, rfl, rfl, rfl, rfl⟩)
  | publish task =>
    obtain ⟨⟨lock, records⟩, pending, rfl⟩ := Option.map_eq_some_iff.mp taken
    exact .inr (.inr ⟨task, lock, records, rfl, rfl, pending, rfl, rfl, rfl, rfl⟩)

theorem advance_publish {desk : Desk} {task : Nat} (free : desk.pending task = none)
    (now : Instant) : ((desk.step (.advance task now)).bind (·.step (.publish task))).map
        (fun next => (next.recorder, next.counters)) =
      some (desk.recorder.tick desk.counters now) := by
  simp [step, locked, free, Recorder.tick, Recorder.advance, Recorder.publish]

theorem forget_publish {desk : Desk} {task : Nat} (free : desk.pending task = none)
    (now : Instant) : ((desk.step (.forget task now)).bind (·.step (.publish task))).map
        (·.recorder) = some (desk.recorder.clear now) := by
  simp [step, locked, free, Recorder.clear]

end Desk

end Telemetry
