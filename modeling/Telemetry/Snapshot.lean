import Telemetry.Intake

/-!
Snapshots of the live figures, in numbered generations.

A snapshot is made in two steps. A copy takes the next number together with the figures;
later the finalized copy is published, unless a newer generation is already displayed. A
reset takes a number in the same way and publishes empty figures, so copies taken before it
can no longer be displayed.
-/

set_option autoImplicit false

namespace Telemetry

structure Snapshot where
  generation : Nat
  takenAt : Instant
  processed : Nat
  figures : Figures

/-- The figures as they were when a generation got its number. -/
structure Draft where
  generation : Nat
  processed : Nat
  figures : Figures

def Draft.finalize (draft : Draft) (now : Instant) (threshold : Int) : Snapshot where
  generation := draft.generation
  takenAt := now
  processed := draft.processed
  figures := draft.figures.finalize now threshold

def Draft.finalize? (draft : Draft) (now : Instant) (threshold : Int) : Option Snapshot :=
  (draft.figures.finalize? now threshold).map fun figures =>
    { draft.finalize now threshold with figures }

structure Board where
  threshold : Span
  latest : Nat := 0
  displayed : Snapshot

namespace Board

/-- The generation with number zero is empty. -/
def create (config : Config) (now : Instant) : Board where
  threshold := config.staleThreshold
  displayed := ⟨0, now, 0, .create config.routes⟩

def copy (board : Board) (intake : Intake) : Draft × Board :=
  (⟨board.latest + 1, intake.counters.processed, intake.figures⟩,
    { board with latest := board.latest + 1 })

def blank (board : Board) (intake : Intake) : Draft × Board :=
  (⟨board.latest + 1, 0, .create intake.figures.routes.limits⟩,
    { board with latest := board.latest + 1 })

/-- Display a snapshot, unless a newer one is displayed. -/
def publish (board : Board) (snapshot : Snapshot) : Board :=
  if snapshot.generation < board.displayed.generation then board
  else { board with displayed := snapshot }

def take (board : Board) (intake : Intake) (now : Instant) : Board :=
  let (draft, board) := board.copy intake
  board.publish (draft.finalize now board.threshold)

def take? (board : Board) (intake : Intake) (now : Instant) : Option Board :=
  let (draft, board) := board.copy intake
  (draft.finalize? now board.threshold).map board.publish

def reset (board : Board) (intake : Intake) (now : Instant) : Board :=
  let (draft, board) := board.blank intake
  board.publish (draft.finalize now board.threshold)

end Board

end Telemetry
