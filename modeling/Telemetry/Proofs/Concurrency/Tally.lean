import Mathlib.Algebra.BigOperators.Group.List.Basic
import Telemetry.Proofs.Concurrency.Schedule
import Telemetry.Proofs.Table
import Telemetry.Rate

/-!
Tasks that count events and drain the counts, one atomic operation at a time.

To count an event takes three increments and to drain an interval takes seven swaps. Between two
operations of a task any other task may act, so an event may be split over two intervals.

Main statement: what the swaps of a counter have returned and what is left in it are together the
increments of that counter, at every moment of every schedule. Once every call is finished, the
events counted in all are those counted by kind.
-/

set_option autoImplicit false

namespace Telemetry

inductive Tally.Counter where
  | total
  | kind (kind : EventKind)
  deriving DecidableEq

namespace IntervalCounts

def get (counts : IntervalCounts) : Tally.Counter → Nat
  | .total => counts.total
  | .kind kind => counts.perKind.get kind

def set (counts : IntervalCounts) (counter : Tally.Counter) (value : Nat) : IntervalCounts :=
  match counter with
  | .total => { counts with total := value }
  | .kind kind => { counts with perKind := counts.perKind.set kind value }

theorem get_set (counts : IntervalCounts) (counter asked : Tally.Counter) (value : Nat) :
    (counts.set counter value).get asked = if asked = counter then value else counts.get asked := by
  cases counter with
  | total => cases asked <;> rfl
  | kind kind =>
    cases asked with
    | total => rfl
    | kind askedKind => simp only [set, get, PerKind.get_set, Tally.Counter.kind.injEq]

end IntervalCounts

namespace Tally

inductive Operation where
  | process
  | count (counter : Counter)
  | draw (counter : Counter)
  deriving DecidableEq

/-- An operation that was carried out; a swap has returned a value. -/
inductive Outcome where
  | processed
  | counted (counter : Counter)
  | drew (counter : Counter) (value : Nat)
  deriving DecidableEq

namespace Operation

def apply (counters : Counters) : Operation → Counters
  | process => { counters with processed := counters.processed + 1 }
  | count counter =>
    { counters with interval := counters.interval.set counter (counters.interval.get counter + 1) }
  | draw counter => { counters with interval := counters.interval.set counter 0 }

def outcome (counters : Counters) : Operation → Outcome
  | process => .processed
  | count counter => .counted counter
  | draw counter => .drew counter (counters.interval.get counter)

end Operation

namespace Outcome

def operation : Outcome → Operation
  | processed => .process
  | counted counter => .count counter
  | drew counter _ => .draw counter

def drawn (counter : Counter) : Outcome → Nat
  | drew other value => if counter = other then value else 0
  | _ => 0

end Outcome

theorem operation_outcome (operation : Operation) (counters : Counters) :
    (operation.outcome counters).operation = operation := by
  cases operation <;> rfl

theorem drawn_outcome (operation : Operation) (counters : Counters) (counter : Counter) :
    (operation.outcome counters).drawn counter + (operation.apply counters).interval.get counter =
      counters.interval.get counter + [operation].count (.count counter) := by
  cases operation with
  | process => exact Nat.zero_add _
  | count other =>
    by_cases here : counter = other
    · simp [Operation.apply, Operation.outcome, Outcome.drawn, IntervalCounts.get_set, here]
    · simp [Operation.apply, Operation.outcome, Outcome.drawn, IntervalCounts.get_set, here,
        Ne.symm here]
  | draw other =>
    by_cases here : counter = other
    · simp [Operation.apply, Operation.outcome, Outcome.drawn, IntervalCounts.get_set, here]
    · simp [Operation.apply, Operation.outcome, Outcome.drawn, IntervalCounts.get_set, here]

theorem processed_apply (operation : Operation) (counters : Counters) :
    (operation.apply counters).processed =
      counters.processed + [operation].count .process := by
  cases operation <;> rfl

inductive Call where
  | record (kind : EventKind)
  | drain

def Call.operations : Call → List Operation
  | record kind => [.process, .count .total, .count (.kind kind)]
  | drain => .draw .total :: EventKind.all.map fun kind => .draw (.kind kind)

/-- A task alone: the operations one after the other, and what has become of each. -/
def carryOut (counters : Counters) : List Operation → Counters × List Outcome
  | [] => (counters, [])
  | operation :: rest =>
    let (after, outcomes) := carryOut (operation.apply counters) rest
    (after, operation.outcome counters :: outcomes)

theorem carryOut_record (counters : Counters) (kind : EventKind) :
    (carryOut counters (Call.record kind).operations).1 = counters.record kind := by
  cases kind <;> rfl

theorem carryOut_drain (counters : Counters) :
    let (counts, after) := counters.takeInterval
    carryOut counters Call.drain.operations = (after,
      .drew .total counts.total :: counts.pairs.map fun (kind, n) => .drew (.kind kind) n) := rfl

end Tally

structure Tally where
  counters : Counters := {}
  pending : Table Nat (List Tally.Operation) := ∅
  log : List Tally.Outcome := []

namespace Tally

inductive Act where
  | begin (task : Nat) (call : Call)
  | proceed (task : Nat)

def settle (pending : Table Nat (List Operation)) (task : Nat) (rest : List Operation) :
    Table Nat (List Operation) :=
  if rest = [] then pending.erase task else pending.insert task rest

def step (tally : Tally) : Act → Option Tally
  | .begin task call =>
    if tally.pending.contains task then none
    else some { tally with pending := tally.pending.insert task call.operations }
  | .proceed task =>
    match tally.pending.get? task with
    | some (operation :: rest) => some
      { counters := operation.apply tally.counters
        pending := settle tally.pending task rest
        log := tally.log ++ [operation.outcome tally.counters] }
    | _ => none

def done (tally : Tally) (operation : Operation) : Nat :=
  (tally.log.map (·.operation)).count operation

/-- How often an operation has still to be carried out for the calls that were begun. -/
def owed (tally : Tally) (operation : Operation) : Nat := tally.pending.total (·.count operation)

def increments (tally : Tally) (counter : Counter) : Nat := tally.done (.count counter)

def returned (tally : Tally) (counter : Counter) : Nat := (tally.log.map (·.drawn counter)).sum

/-- All that was ever counted in a counter, drained or not. -/
def cumulative (tally : Tally) (counter : Counter) : Nat :=
  tally.returned counter + tally.counters.interval.get counter

theorem step_cases {tally next : Tally} {act : Act} (taken : tally.step act = some next) :
    (∃ task call, act = .begin task call ∧ tally.pending.get? task = none ∧
      next = { tally with pending := tally.pending.insert task call.operations }) ∨
    ∃ task operation rest, act = .proceed task ∧
      tally.pending.get? task = some (operation :: rest) ∧
      next = { counters := operation.apply tally.counters
               pending := settle tally.pending task rest
               log := tally.log ++ [operation.outcome tally.counters] } := by
  cases act with
  | begin task call =>
    simp only [step] at taken
    split at taken
    · cases taken
    · next free =>
      cases taken
      exact .inl ⟨task, call, rfl, by simpa [Table.contains] using free, rfl⟩
  | proceed task =>
    simp only [step] at taken
    split at taken
    · next operation rest found =>
      cases taken
      exact .inr ⟨task, operation, rest, rfl, found, rfl⟩
    · cases taken

theorem total_settle {pending : Table Nat (List Operation)} {task : Nat} {operation : Operation}
    {rest : List Operation} (found : pending.get? task = some (operation :: rest))
    (asked : Operation) :
    (settle pending task rest).total (·.count asked) + [operation].count asked =
      pending.total (·.count asked) := by
  have split : (operation :: rest).count asked = [operation].count asked + rest.count asked := by
    rw [← List.singleton_append, List.count_append]
  unfold settle
  by_cases last : rest = []
  · rw [if_pos last]
    rw [last] at found
    exact Table.total_erase _ found
  · rw [if_neg last]
    have altered := pending.total_alter (·.count asked) task fun _ => rest
    rw [found, Option.elim_some, split] at altered
    have inserted : (pending.insert task rest).total (·.count asked) +
        ([operation].count asked + rest.count asked) =
          pending.total (·.count asked) + rest.count asked := altered
    omega

/-- The counters against what was done to them. -/
structure Conserved (tally : Tally) : Prop where
  counted : ∀ counter, tally.cumulative counter = tally.increments counter
  processed : tally.counters.processed = tally.done .process

/-- Each call counts an event once in all and once by its kind, or not at all. -/
structure Balanced (times : Operation → Nat) : Prop where
  processed : times .process = times (.count .total)
  kinds : times (.count .total) = (EventKind.all.map fun kind => times (.count (.kind kind))).sum

theorem balanced_operations (call : Call) : Balanced (call.operations.count ·) := by
  cases call with
  | drain => exact ⟨rfl, rfl⟩
  | record kind =>
    constructor
    case processed => rfl
    case kinds => cases kind <;> rfl

theorem Balanced.plus {first second : Operation → Nat} (balanced : Balanced first)
    (others : Balanced second) : Balanced fun operation => first operation + second operation where
  processed := by rw [balanced.processed, others.processed]
  kinds := by rw [balanced.kinds, others.kinds, List.sum_map_add]

section
variable {tally next : Tally}

theorem Conserved.step (conserved : tally.Conserved) {act : Act}
    (taken : tally.step act = some next) : next.Conserved := by
  rcases step_cases taken with ⟨task, call, -, -, rfl⟩ | ⟨task, operation, rest, -, -, rfl⟩
  · exact ⟨conserved.counted, conserved.processed⟩
  · constructor
    case counted =>
      intro counter
      have before := conserved.counted counter
      have changed := drawn_outcome operation tally.counters counter
      simp only [cumulative, returned, increments, done, List.map_append, List.sum_append,
        List.count_append, List.map_singleton, List.sum_singleton, operation_outcome] at before ⊢
      omega
    case processed =>
      simp only [done, List.map_append, List.count_append, List.map_singleton, operation_outcome,
        processed_apply, conserved.processed]

theorem Balanced.step (balanced : Balanced fun operation => tally.done operation +
    tally.owed operation) {act : Act} (taken : tally.step act = some next) :
    Balanced fun operation => next.done operation + next.owed operation := by
  rcases step_cases taken with ⟨task, call, -, free, rfl⟩ |
    ⟨task, operation, rest, -, found, rfl⟩
  · have begun : (fun operation => tally.done operation +
          (tally.pending.insert task call.operations).total (·.count operation)) =
        fun operation => tally.done operation + tally.owed operation +
          call.operations.count operation := by
      funext operation
      rw [Table.total_insert_new _ free, ← Nat.add_assoc]
      rfl
    exact begun ▸ balanced.plus (balanced_operations call)
  · -- The operation is no longer owed and stands in the log.
    have moved : (fun asked => ((tally.log ++ [operation.outcome tally.counters]).map
          (·.operation)).count asked +
            (settle tally.pending task rest).total (·.count asked)) =
        fun asked => tally.done asked + tally.owed asked := by
      funext asked
      have settled := total_settle found asked
      rw [List.map_append, List.count_append, List.map_singleton, operation_outcome, done, owed]
      omega
    exact moved ▸ balanced

end

theorem reached_conserved {acts : List Act} {n : Nat} {tally : Tally}
    (reached : Schedule.Reaches step {} acts n tally) :
    tally.Conserved ∧ Balanced fun operation => tally.done operation + tally.owed operation := by
  induction reached with
  | start =>
    refine ⟨⟨?_, rfl⟩, rfl, rfl⟩
    intro counter
    cases counter with
    | total => rfl
    | kind kind => cases kind <;> rfl
  | act before found taken ih => exact ⟨ih.1.step taken, ih.2.step taken⟩

/-- At every moment of every schedule, what the swaps of a counter have returned and what it still
holds are together its increments, and the number of events processed is that of its increments.
When no call is unfinished, all events ever counted, drained or not, are those processed and those
counted by kind. -/
theorem counting_conserves (acts : List Act) (n : Nat) (tally : Tally)
    (reached : Schedule.Reaches step {} acts n tally) :
    (∀ counter, tally.returned counter + tally.counters.interval.get counter =
      tally.increments counter) ∧
    tally.counters.processed = tally.done .process ∧
    (tally.pending = ∅ →
      tally.cumulative .total =
        (EventKind.all.map fun kind => tally.cumulative (.kind kind)).sum ∧
      tally.cumulative .total = tally.counters.processed) := by
  obtain ⟨conserved, balanced⟩ := reached_conserved reached
  refine ⟨conserved.counted, conserved.processed, fun finished => ?_⟩
  -- With no call unfinished nothing is owed, so what was done is balanced in itself.
  have settled : ∀ operation, tally.done operation + tally.owed operation =
      tally.done operation := by
    intro operation
    rw [owed, finished]
    rfl
  simp only [settled] at balanced
  constructor
  · simp only [conserved.counted]
    exact balanced.kinds
  · rw [conserved.counted, conserved.processed]
    exact balanced.processed.symm

/-- A drain that falls between the last two increments of an event: the event is in the total
that the drain returns, and by its kind in the next interval. -/
theorem counting_conserves_split :
    let acts := [.begin 0 (.record .other), .proceed 0, .proceed 0, .begin 1 .drain] ++
      List.replicate 7 (.proceed 1) ++ [.proceed 0]
    ∃ tally, Schedule.Reaches step {} acts 12 tally ∧ tally.pending = ∅ ∧
      tally.returned .total = 1 ∧ tally.returned (.kind .other) = 0 ∧
      tally.counters.interval.get (.kind .other) = 1 ∧
      tally.cumulative .total =
        (EventKind.all.map fun kind => tally.cumulative (.kind kind)).sum := by
  intro acts
  have idle : Schedule.Reaches step {} acts 0 {} := .start
  have between := (((idle.act rfl rfl).act rfl rfl).act rfl rfl).act rfl rfl
  have drained := ((((((between.act rfl rfl).act rfl rfl).act rfl rfl).act rfl rfl).act rfl
    rfl).act rfl rfl).act rfl rfl
  have counted := drained.act rfl rfl
  exact ⟨_, counted, rfl, rfl, rfl, rfl,
    ((counting_conserves acts 12 _ counted).2.2 rfl).1⟩

end Tally

end Telemetry
