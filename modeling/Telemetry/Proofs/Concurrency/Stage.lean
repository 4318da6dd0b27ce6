import Telemetry.Proofs.Concurrency.Schedule
import Telemetry.Snapshot

/-!
Tasks that copy, reset and publish while events are taken in.

A task numbers a draft under the lock of the live figures and publishes it some time later.
Between the two any other task may act.
-/

set_option autoImplicit false

namespace Telemetry

/-- What may happen to the live figures and the counters, each without being disturbed. -/
inductive LiveAct where
  | count (kind : EventKind)
  | apply (stream : Nat) (envelope : Envelope) (now : Instant)
  | register (domain host path id : String)
  | takeInterval
  | clearFigures
  | resetCounters

def LiveAct.run : LiveAct → Intake → Intake
  | count kind, intake => intake.count kind
  | apply stream envelope now, intake => intake.apply stream envelope now
  | register domain host path id, intake =>
    let routes := (intake.figures.routes.registerPath domain host path id).2
    { intake with figures := { intake.figures with routes } }
  | takeInterval, intake => { intake with counters := intake.counters.takeInterval.2 }
  | clearFigures, intake => intake.clearFigures
  | resetCounters, intake => intake.resetCounters

structure Stage where
  intake : Intake
  board : Board
  /-- What each task has numbered and not yet published, with the instant it was given. -/
  pending : Nat → Option (Draft × Instant) := fun _ => none

namespace Stage

inductive Act where
  | live (act : LiveAct)
  | copy (task : Nat) (now : Instant)
  | blank (task : Nat) (now : Instant)
  | publish (task : Nat)

def Act.task? : Act → Option Nat
  | live _ => none
  | copy task _ | blank task _ | publish task => some task

/-- A task publishes what it has numbered before it numbers again. -/
def number (stage : Stage) (task : Nat) (now : Instant) (numbered : Draft × Board) :
    Option Stage :=
  if (stage.pending task).isSome then none
  else some { stage with
    board := numbered.2
    pending := Function.update stage.pending task (some (numbered.1, now)) }

def step (stage : Stage) : Act → Option Stage
  | .live act => some { stage with intake := act.run stage.intake }
  | .copy task now => stage.number task now (stage.board.copy stage.intake)
  | .blank task now => stage.number task now (stage.board.blank stage.intake)
  | .publish task => (stage.pending task).map fun (draft, now) =>
    { stage with
      board := stage.board.publish (draft.finalize now stage.board.threshold)
      pending := Function.update stage.pending task none }

def issue? (stage : Stage) : Act → Option Snapshot
  | .copy _ now => some
    { generation := stage.board.latest + 1
      takenAt := now
      processed := stage.intake.counters.processed
      figures := stage.intake.figures.finalize now stage.board.threshold }
  | .blank _ now => some
    { generation := stage.board.latest + 1
      takenAt := now
      processed := 0
      figures := .create stage.intake.figures.routes.limits }
  | _ => none

def due? (stage : Stage) (task : Nat) : Option Snapshot :=
  (stage.pending task).map fun (draft, now) => draft.finalize now stage.board.threshold

theorem number_eq_some {stage next : Stage} {task : Nat} {now : Instant}
    {numbered : Draft × Board} (taken : stage.number task now numbered = some next) :
    stage.pending task = none ∧ next = { stage with
      board := numbered.2
      pending := Function.update stage.pending task (some (numbered.1, now)) } := by
  unfold number at taken
  split at taken
  · cases taken
  · next free =>
    cases taken
    exact ⟨by simpa using free, rfl⟩

theorem due?_update (stage : Stage) {board : Board} (task : Nat)
    (drafted : Option (Draft × Instant)) (threshold : board.threshold = stage.board.threshold) :
    due? { stage with board, pending := Function.update stage.pending task drafted } =
      Function.update stage.due? task (drafted.map fun (draft, now) =>
        draft.finalize now stage.board.threshold) := by
  funext other
  simp only [due?, threshold]
  by_cases same : other = task
  · subst same
    rw [Function.update_self, Function.update_self]
  · rw [Function.update_of_ne same, Function.update_of_ne same]
    rfl

theorem step_cases {stage next : Stage} {act : Act} (taken : stage.step act = some next) :
    (act.task? = none ∧ stage.issue? act = none ∧ next.board = stage.board ∧
      next.due? = stage.due?) ∨
    (∃ task snapshot, act.task? = some task ∧ stage.issue? act = some snapshot ∧
      stage.due? task = none ∧
      next.board = { stage.board with latest := stage.board.latest + 1 } ∧
      next.due? = Function.update stage.due? task (some snapshot)) ∨
    ∃ task snapshot, act = .publish task ∧ stage.issue? act = none ∧
      stage.due? task = some snapshot ∧ next.board = stage.board.publish snapshot ∧
      next.due? = Function.update stage.due? task none := by
  cases act with
  | live act =>
    cases taken
    exact .inl ⟨rfl, rfl, rfl, rfl⟩
  | copy task now =>
    obtain ⟨free, rfl⟩ := number_eq_some taken
    refine .inr (.inl ⟨task, _, rfl, rfl, ?_, rfl, due?_update stage task _ rfl⟩)
    rw [due?, free]
    rfl
  | blank task now =>
    obtain ⟨free, rfl⟩ := number_eq_some taken
    refine .inr (.inl ⟨task, _, rfl, rfl, ?_, rfl, due?_update stage task _ rfl⟩)
    rw [due?, free]
    rfl
  | publish task =>
    obtain ⟨⟨draft, now⟩, pending, rfl⟩ := Option.map_eq_some_iff.mp taken
    -- A snapshot is finalized only now, from the figures and the instant kept since it was
    -- numbered.
    refine .inr (.inr ⟨task, draft.finalize now stage.board.threshold, rfl, rfl, ?_, rfl, ?_⟩)
    · rw [due?, pending]
      rfl
    · refine due?_update stage task none ?_
      unfold Board.publish
      split <;> rfl

theorem number_publish {stage : Stage} {task : Nat} (free : stage.pending task = none)
    (now : Instant) (numbered : Draft × Board) :
    (stage.number task now numbered).bind (·.step (.publish task)) =
      some { stage with
        board := numbered.2.publish (numbered.1.finalize now numbered.2.threshold) } := by
  simp [number, step, free]

theorem copy_publish {stage : Stage} {task : Nat} (free : stage.pending task = none)
    (now : Instant) : (stage.step (.copy task now)).bind (·.step (.publish task)) =
      some { stage with board := stage.board.take stage.intake now } :=
  number_publish free now (stage.board.copy stage.intake)

theorem blank_publish {stage : Stage} {task : Nat} (free : stage.pending task = none)
    (now : Instant) : (stage.step (.blank task now)).bind (·.step (.publish task)) =
      some { stage with board := stage.board.reset stage.intake now } :=
  number_publish free now (stage.board.blank stage.intake)

end Stage

end Telemetry
