import Mathlib.Data.List.DropRight
import Telemetry.Proofs.Concurrency.Hub

/-!
The two counts of events in a snapshot, along every schedule.

The one has lost the events begun before the last reset, the other those finished before the
last wipe. A clear makes the two losses at different moments, and events may be in flight at
both, so the counts agree only as far as the losses do.
-/

set_option autoImplicit false

namespace Telemetry.Hub

def upTo (kind : Act → Bool) (acts : List Act) : List Act := acts.rdropWhile fun act => !kind act

/-- Events begun before the last reset: the counters have forgotten them. -/
def begunBeforeReset (past : List Act) : Nat := (upTo (·.isReset) past).countP (·.isBegin)

/-- Events finished before the last wipe: the figures have forgotten them. -/
def finishedBeforeWipe (past : List Act) : Nat := (upTo (·.isWipe) past).countP (·.isFinish)

theorem count_upTo_concat {clears raises : Act → Bool} {past : List Act} {act : Act}
    {before after : Nat}
    (counted : before + (upTo clears past).countP raises = past.countP raises)
    (changed : after = if clears act then 0 else before + if raises act then 1 else 0) :
    after + (upTo clears (past ++ [act])).countP raises = (past ++ [act]).countP raises := by
  cases starts : clears act with
  | true =>
    have whole : upTo clears (past ++ [act]) = past ++ [act] :=
      List.rdropWhile_concat_neg _ _ _ (by simp [starts])
    rw [changed, starts, whole]
    exact Nat.zero_add _
  | false =>
    have same : upTo clears (past ++ [act]) = upTo clears past :=
      List.rdropWhile_concat_pos _ _ _ (by simp [starts])
    rw [starts, if_neg Bool.false_ne_true] at changed
    rw [same, changed, List.countP_append, List.countP_singleton]
    omega

structure Balanced (past : List Act) (hub : Hub) : Prop where
  counted : hub.counted + begunBeforeReset past = past.countP (·.isBegin)
  applied : hub.applied + finishedBeforeWipe past = past.countP (·.isFinish)
  inFlight : past.countP (·.isFinish) + hub.inFlight = past.countP (·.isBegin)

theorem Balanced.step {past : List Act} {hub next : Hub} (balanced : Balanced past hub) {act : Act}
    (taken : hub.step act = some next) : Balanced (past ++ [act]) next := by
  obtain ⟨counted, applied, inFlight⟩ := step_figures taken
  constructor
  case counted => exact count_upTo_concat balanced.counted counted
  case applied => exact count_upTo_concat balanced.applied applied
  case inFlight =>
    have before := balanced.inFlight
    simp only [List.countP_append, List.countP_singleton]
    omega

theorem balanced_reached {config : Config} {created : Instant} {acts : List Act} {n : Nat}
    {hub : Hub} (reached : Schedule.Reaches step (create config created) acts n hub) :
    Balanced (acts.take n) hub := by
  induction reached with
  | start => exact ⟨rfl, rfl, rfl⟩
  | act before found taken ih =>
    rw [List.take_add_one, found]
    exact ih.step taken

/-- The two counts of a copy are off by what the last reset and the last wipe have made them
forget. They lie within the events in flight of each other exactly if the two losses do, and
so they do as long as nothing has been cleared. -/
theorem balance_exact (config : Config) (created : Instant) (acts : List Act) (n : Nat)
    (hub : Hub) (reached : Schedule.Reaches step (create config created) acts n hub)
    (task : Nat) (now : Instant) (snapshot : Snapshot)
    (copied : hub.stage.issue? (.copy task now) = some snapshot) :
    let past := acts.take n
    let total := snapshot.processed
    let applied := snapshot.figures.ingest.processed
    let reset := begunBeforeReset past
    let wiped := finishedBeforeWipe past
    total + reset = past.countP (·.isBegin) ∧ applied + wiped = past.countP (·.isFinish) ∧
    past.countP (·.isFinish) + hub.inFlight = past.countP (·.isBegin) ∧
    (applied ≤ total ∧ total ≤ applied + hub.inFlight ↔
      wiped ≤ reset ∧ reset ≤ wiped + hub.inFlight) ∧
    ((∀ act ∈ past, act.isReset = false ∧ act.isWipe = false) →
      applied ≤ total ∧ total ≤ applied + hub.inFlight) := by
  intro past total applied reset wiped
  cases copied
  have balanced := balanced_reached reached
  have counted : total + reset = past.countP (·.isBegin) := balanced.counted
  have finished : applied + wiped = past.countP (·.isFinish) := balanced.applied
  have inFlight : past.countP (·.isFinish) + hub.inFlight = past.countP (·.isBegin) :=
    balanced.inFlight
  refine ⟨counted, finished, inFlight, by omega, ?_⟩
  intro uncleared
  -- Where nothing was cleared neither side has forgotten anything.
  have noReset : reset = 0 := by
    have none : upTo (·.isReset) past = [] :=
      List.rdropWhile_eq_nil_iff.mpr fun act member => by simp [(uncleared act member).1]
    simp only [reset, begunBeforeReset, none, List.countP_nil]
  have noWipe : wiped = 0 := by
    have none : upTo (·.isWipe) past = [] :=
      List.rdropWhile_eq_nil_iff.mpr fun act member => by simp [(uncleared act member).2]
    simp only [wiped, finishedBeforeWipe, none, List.countP_nil]
  omega

/-- A clear between the two steps of an event. A copy between its own two steps has two events
in the one count and none in the other, with one in flight; and when all calls are finished, the
figures have an event that the counters do not have. -/
theorem balance_torn :
    let start := create {} 0
    let arrival : Arrival := ⟨0, { event := .unknown }, 0⟩
    let acts := [.begin 0 arrival, .finish 0, .begin 0 arrival, .wipe 1, .beside (.copy 2 1),
      .beside (.publish 2), .reset 1, .finish 0, .beside (.copy 2 2)]
    ∃ clearing cleared during after, Schedule.Reaches step start acts 4 clearing ∧
      clearing.stage.issue? (.copy 2 1) = some during ∧
      during.figures.ingest.processed + clearing.inFlight < during.processed ∧
      Schedule.Reaches step start acts 8 cleared ∧
      cleared.stage.issue? (.copy 2 2) = some after ∧ cleared.calls = ∅ ∧
      after.processed < after.figures.ingest.processed := by
  intro start arrival acts
  have idle : Schedule.Reaches step start acts 0 start := .start
  have begun := ((idle.act rfl rfl).act rfl rfl).act rfl rfl
  have clearing := begun.act rfl rfl
  have published := (clearing.act rfl rfl).act rfl rfl
  have cleared := (published.act rfl rfl).act rfl rfl
  exact ⟨_, _, _, _, clearing, rfl, by decide, cleared, rfl, rfl, by decide⟩

/-- A copy while one event is in flight and another is applied. -/
theorem balance_exact_uncleared :
    let start := create {} 0
    let arrival : Arrival := ⟨0, { event := .unknown }, 0⟩
    let acts := [.begin 0 arrival, .begin 1 arrival, .finish 0, .beside (.copy 2 1)]
    ∃ hub snapshot, Schedule.Reaches step start acts 3 hub ∧
      hub.stage.issue? (.copy 2 1) = some snapshot ∧ snapshot.processed = 2 ∧
      snapshot.figures.ingest.processed = 1 ∧ hub.inFlight = 1 ∧
      snapshot.processed ≤ snapshot.figures.ingest.processed + hub.inFlight := by
  intro start arrival acts
  have idle : Schedule.Reaches step start acts 0 start := .start
  have reached := ((idle.act rfl rfl).act rfl rfl).act rfl rfl
  refine ⟨_, _, reached, rfl, rfl, rfl, rfl, ?_⟩
  obtain ⟨-, -, -, -, uncleared⟩ := balance_exact {} 0 acts 3 _ reached 2 1 _ rfl
  refine (uncleared ?_).2
  simp [acts, Act.isReset, Act.isWipe]

end Telemetry.Hub
