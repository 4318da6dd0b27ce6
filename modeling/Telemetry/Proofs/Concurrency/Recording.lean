import Telemetry.Proofs.Concurrency.Desk
import Telemetry.Proofs.History.Records

/-!
When the display of the history goes back.

Main statement: what is displayed was read under one lock, and the display goes back to an
older lock exactly if a task stores after one that has locked later. A clear is undone in this
way and in no other.
-/

set_option autoImplicit false

namespace Telemetry

namespace Desk

def create (limits : HistoryLimits) (created : Instant) (counters : Counters) : Desk where
  counters
  recorder := .create limits created

/-- The act at a place of a schedule reads records under a lock. -/
def Reads (start : Desk) (acts : List Act) (n lock : Nat) (records : List RateRecord) : Prop :=
  ∃ desk act, Schedule.Reaches step start acts n desk ∧ acts[n]? = some act ∧
    desk.read? act = some records ∧ lock = desk.locks + 1

/-- The act at a place of a schedule stores what was read under a lock. -/
def Stores (start : Desk) (acts : List Act) (n lock : Nat) : Prop :=
  ∃ desk task records, Schedule.Reaches step start acts n desk ∧
    acts[n]? = some (.publish task) ∧ desk.pending task = some (lock, records)

theorem locks_step {desk next : Desk} {act : Act} (taken : desk.step act = some next) :
    next.locks = desk.locks + if (desk.read? act).isSome then 1 else 0 := by
  rcases step_cases taken with ⟨silent, -, locks, -⟩ | ⟨task, records, read, -, -, locks, -⟩ |
    ⟨task, lock, records, -, silent, -, -, locks, -⟩
  · rw [locks, silent]
    rfl
  · rw [locks, read]
    rfl
  · rw [locks, silent]
    rfl

section
variable {start : Desk} {acts : List Act}

theorem Reads.lt_iff {m n a b : Nat} {first second : List RateRecord}
    (reads : Reads start acts m a first) (reads' : Reads start acts n b second) :
    m < n ↔ a < b := by
  obtain ⟨desk, act, here, found, read, rfl⟩ := reads
  obtain ⟨desk', act', there, found', read', rfl⟩ := reads'
  rw [Nat.succ_lt_succ_iff]
  refine here.lt_iff_of_counter (fun desk act => (desk.read? act).isSome) ?_ ?_ there
    found found' (by simp [read]) (by simp [read'])
  · intro desk act next taken
    rw [locks_step taken]
    exact Nat.le_add_right _ _
  · intro desk act next takes taken
    rw [locks_step taken, if_pos takes]
    exact Nat.lt_succ_self _

theorem Reads.unique {n a b : Nat} {first second : List RateRecord}
    (reads : Reads start acts n a first) (reads' : Reads start acts n b second) :
    a = b ∧ first = second := by
  obtain ⟨desk, act, here, found, read, rfl⟩ := reads
  obtain ⟨desk', act', there, found', read', rfl⟩ := reads'
  rw [found, Option.some.injEq] at found'
  rw [here.unique there, found', read', Option.some.injEq] at read
  exact ⟨by rw [here.unique there], read.symm⟩

theorem owing (start : Desk) (acts : List Act) :
    Schedule.Owing step start acts pending fun n read => Reads start acts n read.1 read.2 := by
  intro i desk next act here found taken
  rcases step_cases taken with ⟨-, -, -, pending, -⟩ |
    ⟨task, records, given, -, -, -, pending, -⟩ |
    ⟨task, lock, records, -, -, -, -, -, pending, -⟩
  · exact .inl pending
  · refine .inr ⟨task, some (desk.locks + 1, records), pending, ?_⟩
    rintro read ⟨⟩
    exact ⟨desk, act, here, found, given, rfl⟩
  · refine .inr ⟨task, none, pending, ?_⟩
    rintro read ⟨⟩

theorem displayed_read (idle : ∀ task, start.pending task = none) {n : Nat} {desk : Desk}
    (reached : Schedule.Reaches step start acts n desk) :
    desk.shown = start.shown ∧ desk.recorder.displayed = start.recorder.displayed ∨
      ∃ m < n, Reads start acts m desk.shown desk.recorder.displayed := by
  induction reached with
  | start => exact .inl ⟨rfl, rfl⟩
  | @act n before after act here found taken ih =>
    have widen : ∀ {lock records}, (∃ m < n, Reads start acts m lock records) →
        ∃ m < n + 1, Reads start acts m lock records := by
      rintro lock records ⟨m, less, reads⟩
      exact ⟨m, Nat.lt_succ_of_lt less, reads⟩
    rcases step_cases taken with ⟨-, recorder, -, -, same⟩ |
      ⟨task, read, -, -, displayed, -, -, same⟩ |
      ⟨task, lock, records, -, -, due, recorder, -, -, same⟩
    · rw [recorder, same]
      exact ih.imp id widen
    · rw [displayed, same]
      exact ih.imp id widen
    · rw [recorder, same]
      exact .inr (widen (here.owed (owing start acts) idle due))

theorem shown_from {m n : Nat} {desk later : Desk}
    (first : Schedule.Reaches step start acts m desk)
    (second : Schedule.Reaches step start acts n later) (le : m ≤ n) :
    later.shown = desk.shown ∨ ∃ p, m ≤ p ∧ p < n ∧ Stores start acts p later.shown := by
  -- The display changes by stores only.
  induction second with
  | start =>
    obtain rfl := Nat.le_zero.mp le
    rw [first.unique .start]
    exact .inl rfl
  | @act n before after act here found taken ih =>
    rcases Nat.le_or_eq_of_le_succ le with less | rfl
    · have widen : (∃ p, m ≤ p ∧ p < n ∧ Stores start acts p before.shown) →
          ∃ p, m ≤ p ∧ p < n + 1 ∧ Stores start acts p before.shown := by
        rintro ⟨p, low, high, stores⟩
        exact ⟨p, low, Nat.lt_succ_of_lt high, stores⟩
      rcases step_cases taken with ⟨-, -, -, -, same⟩ | ⟨task, read, -, -, -, -, -, same⟩ |
        ⟨task, lock, records, publishes, -, due, -, -, -, same⟩
      · rw [same]
        exact (ih less).imp id widen
      · rw [same]
        exact (ih less).imp id widen
      · rw [same]
        subst publishes
        exact .inr ⟨n, less, Nat.lt_succ_self n, before, task, records, here, found, due⟩
    · rw [first.unique (.act here found taken)]
      exact .inl rfl

theorem Stores.shown {n lock : Nat} (stores : Stores start acts n lock) :
    ∃ desk, Schedule.Reaches step start acts (n + 1) desk ∧ desk.shown = lock := by
  obtain ⟨desk, task, records, here, found, due⟩ := stores
  have taken : desk.step (.publish task) = some { desk with
      recorder := desk.recorder.publish records
      pending := Function.update desk.pending task none
      shown := lock } := by
    rw [step, due]
    rfl
  exact ⟨_, here.act found taken, rfl⟩

theorem shown_mono_iff (untouched : start.shown = 0) :
    (∀ m n desk later, m ≤ n → Schedule.Reaches step start acts m desk →
      Schedule.Reaches step start acts n later → desk.shown ≤ later.shown) ↔
    ∀ m n a b, m < n → Stores start acts m a → Stores start acts n b → a ≤ b := by
  -- Each way the lock on display is read off the last store before it.
  constructor
  · intro forward m n a b less first second
    obtain ⟨desk, reached, rfl⟩ := first.shown
    obtain ⟨later, arrived, rfl⟩ := second.shown
    exact forward _ _ desk later (Nat.succ_le_succ (Nat.le_of_lt less)) reached arrived
  · intro ordered m n desk later le reached arrived
    rcases shown_from reached arrived le with same | ⟨p, low, -, second⟩
    · exact Nat.le_of_eq same.symm
    · rcases shown_from .start reached (Nat.zero_le m) with same | ⟨q, -, high, first⟩
      · rw [same, untouched]
        exact Nat.zero_le _
      · exact ordered q p _ _ (Nat.lt_of_lt_of_le high low) first second

theorem history_step {desk next : Desk} {act : Act} (taken : desk.step act = some next) :
    next.recorder.history = desk.recorder.history ∨
    (∃ task now, act = .advance task now ∧
      next.recorder.history = (desk.recorder.history.tick desk.counters now).1) ∨
    ∃ now, next.recorder.history = desk.recorder.history.clear now := by
  cases act with
  | count kind =>
    cases taken
    exact .inl rfl
  | resetCounters =>
    cases taken
    exact .inl rfl
  | advance task now =>
    obtain ⟨-, rfl⟩ := locked_eq_some taken
    exact .inr (.inl ⟨task, now, rfl, rfl⟩)
  | forget task now =>
    obtain ⟨-, rfl⟩ := locked_eq_some taken
    exact .inr (.inr ⟨now, rfl⟩)
  | publish task =>
    obtain ⟨⟨lock, records⟩, pending, rfl⟩ := Option.map_eq_some_iff.mp taken
    exact .inl rfl

/-- Every record taken at a tick from one place of a schedule up to another. -/
def TakenFrom (start : Desk) (acts : List Act) (m n : Nat) (keeps : RateRecord → Prop) : Prop :=
  ∀ i desk task now, m ≤ i → i < n → Schedule.Reaches step start acts i desk →
    acts[i]? = some (.advance task now) → keeps (desk.recorder.history.taken desk.counters now)

theorem all_from {keeps : RateRecord → Prop} (mergeable : RateRecord.Mergeable keeps)
    {m n : Nat} {desk later : Desk} (first : Schedule.Reaches step start acts m desk)
    (all : desk.recorder.history.All keeps)
    (second : Schedule.Reaches step start acts n later) (le : m ≤ n)
    (taken : TakenFrom start acts m n keeps) : later.recorder.history.All keeps := by
  refine first.between (fun desk => desk.recorder.history.All keeps) all second le ?_
  intro i before act after low high here found moved still
  rcases history_step moved with same | ⟨task, now, rfl, ticked⟩ | ⟨now, cleared⟩
  · rw [same]
    exact still
  · rw [ticked]
    exact still.tick mergeable (taken i before task now low high here found)
  · rw [cleared]
    exact History.all_clear keeps _ now

theorem reads_after_clear {keeps : RateRecord → Prop} (mergeable : RateRecord.Mergeable keeps)
    {m k clear lock task : Nat} {now : Instant} {records : List RateRecord}
    (clears : acts[m]? = some (.forget task now)) (cleared : Reads start acts m clear [])
    (reads : Reads start acts k lock records) (since : clear ≤ lock)
    (taken : TakenFrom start acts (m + 1) (k + 1) keeps) :
    ∀ record ∈ records, keeps record := by
  -- The history is empty after the clear, so all that is read later comes of later ticks.
  rcases Nat.lt_trichotomy m k with less | rfl | greater
  · obtain ⟨desk, act, here, found, read, -⟩ := reads
    obtain ⟨before, _, there, -⟩ := cleared
    obtain ⟨next, moved, reached⟩ := there.next here clears less
    obtain ⟨-, rfl⟩ := locked_eq_some moved
    have all : desk.recorder.history.All keeps :=
      all_from mergeable reached (History.all_clear keeps _ now) here less
        fun i desk task now low high => taken i desk task now low (Nat.lt_succ_of_lt high)
    cases act with
    | advance task now =>
      cases read
      exact (all.tick mergeable (taken k desk task now less (Nat.lt_succ_self k) here found)).ordered
    | forget task now =>
      cases read
      simp
    | count kind => cases read
    | resetCounters => cases read
    | publish task => cases read
  · rw [← (cleared.unique reads).2]
    simp
  · exact absurd ((reads.lt_iff cleared).mp greater) (Nat.not_lt_of_le since)

theorem pending_kept {desk next : Desk} {act : Act} {task lock : Nat} {records : List RateRecord}
    (held : desk.pending task = some (lock, records)) (other : act ≠ .publish task)
    (taken : desk.step act = some next) : next.pending task = some (lock, records) := by
  rcases step_cases taken with ⟨-, -, -, pending, -⟩ |
    ⟨another, read, -, free, -, -, pending, -⟩ |
    ⟨another, stored, read, publishes, -, -, -, -, pending, -⟩
  · rw [pending, held]
  · have different : task ≠ another := by
      rintro rfl
      rw [free] at held
      cases held
    rw [pending, Function.update_of_ne different, held]
  · have different : task ≠ another := by
      rintro rfl
      exact other publishes
    rw [pending, Function.update_of_ne different, held]

theorem stores_clear {m n clear task : Nat} {now : Instant} {desk : Desk}
    (clears : acts[m]? = some (.forget task now)) (cleared : Reads start acts m clear [])
    (publishes : acts[n]? = some (.publish task)) (less : m < n)
    (waits : ∀ i, m < i → i < n → acts[i]? ≠ some (.publish task))
    (reached : Schedule.Reaches step start acts n desk) : Stores start acts n clear := by
  obtain ⟨before, act, here, -, -, rfl⟩ := cleared
  obtain ⟨next, moved, there⟩ := here.next reached clears less
  obtain ⟨-, rfl⟩ := locked_eq_some moved
  have held : desk.pending task = some (before.locks + 1, []) := by
    refine there.between (fun desk => desk.pending task = some (before.locks + 1, []))
      (Function.update_self ..) reached less ?_
    intro i stage act next low high _ found taken still
    refine pending_kept still ?_ taken
    rintro rfl
    exact waits i low high found
  exact ⟨desk, task, [], reached, publishes, held⟩

end

/-- The display shows what was read under one lock, and it goes back exactly if stores come out
of the order of their locks. After a clear is stored the display is made of records taken
after the clear, or else a task has stored since what it read before the clear. -/
theorem display_exact (limits : HistoryLimits) (created : Instant) (counters : Counters)
    (acts : List Act) :
    let start := create limits created counters
    let reaches := Schedule.Reaches step start acts
    (∀ n desk, reaches n desk → desk.shown = 0 ∧ desk.recorder.displayed = [] ∨
      ∃ m < n, Reads start acts m desk.shown desk.recorder.displayed) ∧
    (∀ m n a b first second, Reads start acts m a first → Reads start acts n b second →
      (m < n ↔ a < b)) ∧
    ((∀ m n desk later, m ≤ n → reaches m desk → reaches n later → desk.shown ≤ later.shown) ↔
      ∀ m n a b, m < n → Stores start acts m a → Stores start acts n b → a ≤ b) ∧
    ∀ m n l clear task now desk, acts[m]? = some (.forget task now) →
      Reads start acts m clear [] → acts[n]? = some (.publish task) → m < n →
      (∀ i, m < i → i < n → acts[i]? ≠ some (.publish task)) → n < l → reaches l desk →
      clear ≤ desk.shown ∧ (∀ keeps, RateRecord.Mergeable keeps →
        TakenFrom start acts (m + 1) l keeps → ∀ record ∈ desk.recorder.displayed, keeps record) ∨
      desk.shown < clear ∧ (∃ k < m, Reads start acts k desk.shown desk.recorder.displayed) ∧
        ∃ p, n < p ∧ p < l ∧ Stores start acts p desk.shown := by
  intro start reaches
  have idle : ∀ task, start.pending task = none := fun _ => rfl
  refine ⟨fun n desk reached => displayed_read idle reached, ?_, shown_mono_iff rfl, ?_⟩
  · intro m n a b first second reads reads'
    exact reads.lt_iff reads'
  intro m n l clear task now desk clears cleared publishes less waits published reached
  obtain ⟨at_store, arrived⟩ := reached.earlier (Nat.le_of_lt published)
  obtain ⟨stored, there, shows⟩ :=
    (stores_clear clears cleared publishes less waits arrived).shown
  have positive : 0 < clear := by
    obtain ⟨_, _, _, _, _, rfl⟩ := cleared
    exact Nat.succ_pos _
  -- The clear is on display until another task stores, which may have locked before it.
  have moved := shown_from there reached published
  have origin : ∃ k < l, Reads start acts k desk.shown desk.recorder.displayed := by
    rcases displayed_read idle reached with ⟨none, -⟩ | read
    · rcases moved with same | ⟨p, -, -, keeper, other, records, before, -, due⟩
      · rw [none, shows] at same
        exact absurd same (Nat.ne_of_lt positive)
      · obtain ⟨k, -, _, _, _, _, _, lock⟩ := before.owed (owing start acts) idle due
        rw [none] at lock
        exact absurd lock (Nat.zero_ne_add_one _)
    · exact read
  obtain ⟨k, before, reads⟩ := origin
  by_cases since : clear ≤ desk.shown
  · refine .inl ⟨since, ?_⟩
    intro keeps mergeable taken
    refine reads_after_clear mergeable clears cleared reads since ?_
    exact fun i desk task now low high => taken i desk task now low (Nat.lt_of_lt_of_le high before)
  · have older := Nat.lt_of_not_le since
    refine .inr ⟨older, ⟨k, (reads.lt_iff cleared).mpr older, reads⟩, ?_⟩
    rcases moved with same | ⟨p, low, high, stores⟩
    · rw [same, shows] at older
      exact absurd older (Nat.lt_irrefl _)
    · exact ⟨p, low, high, stores⟩

/-- A clear that a slow tick undoes: the record that was taken before the clear is displayed
after it. -/
theorem display_undone :
    let start := create {} 0 {}
    let acts := [.count .other, .advance 0 1000000000, .forget 1 2000000000, .publish 1,
      .publish 0]
    ∃ ticking cleared later, Schedule.Reaches step start acts 1 ticking ∧
      Schedule.Reaches step start acts 4 cleared ∧ cleared.recorder.displayed = [] ∧
      Schedule.Reaches step start acts 5 later ∧ later.shown < cleared.shown ∧
      later.recorder.displayed =
        [ticking.recorder.history.taken ticking.counters 1000000000] := by
  intro start acts
  have idle : Schedule.Reaches step start acts 0 start := .start
  have ticking := idle.act rfl rfl
  have cleared := ((ticking.act rfl rfl).act rfl rfl).act rfl rfl
  exact ⟨_, _, _, ticking, cleared, rfl, cleared.act rfl rfl, by decide, rfl⟩

end Desk

end Telemetry
