import Telemetry.Proofs.Concurrency.Stage
import Telemetry.Proofs.Intake.Accounting

/-!
Tasks that take in events and clear the intake, each in two steps.

An event is counted first and applied to the figures under their lock later. A clear empties
the figures under the lock first and resets the counters later. Between the two steps of a call
any other task may act.
-/

set_option autoImplicit false

namespace Telemetry

/-- A call that has taken the first of its two steps. -/
inductive Call where
  | event (arrival : Arrival)
  | clear

def Call.isEvent : Call → Bool
  | event _ => true
  | clear => false

structure Hub where
  stage : Stage
  calls : Table Nat Call := ∅

def Stage.Act.isBeside : Act → Bool
  | live (.register _ _ _ _) | live .takeInterval | copy _ _ | blank _ _ | publish _ => true
  | live (.count _) | live (.apply _ _ _) | live .clearFigures | live .resetCounters => false

namespace Hub

def create (config : Config) (created : Instant) : Hub where
  stage := { intake := .create config, board := .create config created }

inductive Act where
  | begin (task : Nat) (arrival : Arrival)
  | finish (task : Nat)
  | wipe (task : Nat)
  | reset (task : Nat)
  | beside (act : Stage.Act)

namespace Act

def isBegin : Act → Bool
  | begin _ _ => true
  | _ => false

def isFinish : Act → Bool
  | finish _ => true
  | _ => false

def isWipe : Act → Bool
  | wipe _ => true
  | _ => false

def isReset : Act → Bool
  | reset _ => true
  | _ => false

end Act

def enter (hub : Hub) (task : Nat) (call : Call) (act : LiveAct) : Option Hub :=
  if hub.calls.contains task then none
  else (hub.stage.step (.live act)).map fun stage => ⟨stage, hub.calls.insert task call⟩

def leave (hub : Hub) (task : Nat) (act : LiveAct) : Option Hub :=
  (hub.stage.step (.live act)).map fun stage => ⟨stage, hub.calls.erase task⟩

def step (hub : Hub) : Act → Option Hub
  | .begin task arrival => hub.enter task (.event arrival) (.count arrival.envelope.event.kind)
  | .finish task =>
    match hub.calls.get? task with
    | some (.event arrival) =>
      hub.leave task (.apply arrival.stream arrival.envelope arrival.now)
    | _ => none
  | .wipe task => hub.enter task .clear .clearFigures
  | .reset task =>
    match hub.calls.get? task with
    | some .clear => hub.leave task .resetCounters
    | _ => none
  | .beside act =>
    if act.isBeside then (hub.stage.step act).map fun stage => { hub with stage } else none

def counted (hub : Hub) : Nat := hub.stage.intake.counters.processed

def applied (hub : Hub) : Nat := hub.stage.intake.figures.ingest.processed

def inFlight (hub : Hub) : Nat := hub.calls.total fun call => if call.isEvent then 1 else 0

section
variable {hub next : Hub}

theorem enter_eq_some {task : Nat} {call : Call} {act : LiveAct}
    (taken : hub.enter task call act = some next) :
    next.stage.intake = act.run hub.stage.intake ∧
    next.inFlight = hub.inFlight + if call.isEvent then 1 else 0 := by
  unfold enter at taken
  split at taken
  · cases taken
  · next free =>
    cases taken
    exact ⟨rfl, Table.total_insert_new _ (by simpa [Table.contains] using free) call⟩

theorem leave_eq_some {task : Nat} {call : Call} {act : LiveAct}
    (found : hub.calls.get? task = some call) (taken : hub.leave task act = some next) :
    next.stage.intake = act.run hub.stage.intake ∧
    next.inFlight + (if call.isEvent then 1 else 0) = hub.inFlight := by
  cases taken
  exact ⟨rfl, Table.total_erase _ found⟩

theorem beside_eq_some {act : Stage.Act} (taken : hub.step (.beside act) = some next) :
    next.counted = hub.counted ∧ next.applied = hub.applied ∧ next.inFlight = hub.inFlight := by
  simp only [step] at taken
  split at taken
  · next beside =>
    obtain ⟨stage, done, rfl⟩ := Option.map_eq_some_iff.mp taken
    cases act with
    | live act =>
      cases done
      cases act with
      | register domain host path id => exact ⟨rfl, rfl, rfl⟩
      | takeInterval => exact ⟨rfl, rfl, rfl⟩
      | count kind => cases beside
      | apply stream envelope now => cases beside
      | clearFigures => cases beside
      | resetCounters => cases beside
    | copy task now =>
      obtain ⟨-, rfl⟩ := Stage.number_eq_some done
      exact ⟨rfl, rfl, rfl⟩
    | blank task now =>
      obtain ⟨-, rfl⟩ := Stage.number_eq_some done
      exact ⟨rfl, rfl, rfl⟩
    | publish task =>
      obtain ⟨_, -, rfl⟩ := Option.map_eq_some_iff.mp done
      exact ⟨rfl, rfl, rfl⟩
  · cases taken

theorem step_figures {act : Act} (taken : hub.step act = some next) :
    next.counted = (if act.isReset then 0 else hub.counted + if act.isBegin then 1 else 0) ∧
    next.applied = (if act.isWipe then 0 else hub.applied + if act.isFinish then 1 else 0) ∧
    next.inFlight + (if act.isFinish then 1 else 0) =
      hub.inFlight + if act.isBegin then 1 else 0 := by
  cases act with
  | begin task arrival =>
    obtain ⟨intake, open_⟩ := enter_eq_some taken
    rw [counted, applied, intake]
    exact ⟨rfl, rfl, open_⟩
  | wipe task =>
    obtain ⟨intake, open_⟩ := enter_eq_some taken
    rw [counted, applied, intake]
    exact ⟨rfl, rfl, open_⟩
  | finish task =>
    simp only [step] at taken
    split at taken
    · next arrival found =>
      obtain ⟨intake, closed⟩ := leave_eq_some found taken
      rw [counted, applied, intake]
      exact ⟨rfl, Intake.processed_apply _ arrival, closed⟩
    · cases taken
  | reset task =>
    simp only [step] at taken
    split at taken
    · next found =>
      obtain ⟨intake, closed⟩ := leave_eq_some found taken
      rw [counted, applied, intake]
      exact ⟨rfl, rfl, closed⟩
    · cases taken
  | beside act => exact beside_eq_some taken

end

end Hub

end Telemetry
