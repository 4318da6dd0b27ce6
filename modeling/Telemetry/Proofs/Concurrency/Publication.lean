import Telemetry.Proofs.Concurrency.Stage

/-!
Publication never goes back.

Main statement: under every schedule snapshots are numbered in the order in which they are
copied, the number of the displayed snapshot only grows, what is displayed is a snapshot as it
was numbered, and a reset that is published puts an end to every older copy.
-/

set_option autoImplicit false

namespace Telemetry

namespace Board

theorem publish_displayed (board : Board) (snapshot : Snapshot) :
    (board.publish snapshot).displayed = board.displayed ∨
      (board.publish snapshot).displayed = snapshot := by
  unfold publish
  split
  · exact .inl rfl
  · exact .inr rfl

theorem publish_generation (board : Board) (snapshot : Snapshot) :
    (board.publish snapshot).displayed.generation =
      max board.displayed.generation snapshot.generation := by
  unfold publish
  split
  · next newer => exact (Nat.max_eq_left (Nat.le_of_lt newer)).symm
  · next older => exact (Nat.max_eq_right (Nat.le_of_not_lt older)).symm

theorem publish_frame (board : Board) (snapshot : Snapshot) :
    (board.publish snapshot).threshold = board.threshold ∧
      (board.publish snapshot).latest = board.latest := by
  unfold publish
  split <;> exact ⟨rfl, rfl⟩

structure Advances (board later : Board) : Prop where
  latest : board.latest ≤ later.latest
  displayed : board.displayed.generation ≤ later.displayed.generation
  threshold : later.threshold = board.threshold

theorem Advances.refl (board : Board) : Advances board board :=
  ⟨Nat.le_refl _, Nat.le_refl _, rfl⟩

theorem Advances.trans {a b c : Board} (first : Advances a b) (second : Advances b c) :
    Advances a c :=
  ⟨Nat.le_trans first.latest second.latest, Nat.le_trans first.displayed second.displayed,
    second.threshold.trans first.threshold⟩

theorem advances_publish (board : Board) (snapshot : Snapshot) :
    Advances board (board.publish snapshot) := by
  obtain ⟨threshold, latest⟩ := board.publish_frame snapshot
  refine ⟨Nat.le_of_eq latest.symm, ?_, threshold⟩
  rw [publish_generation]
  exact Nat.le_max_left _ _

end Board

namespace Stage

def create (config : Config) (created : Instant) (intake : Intake) : Stage where
  intake
  board := .create config created

theorem advances_step {stage next : Stage} {act : Act} (taken : stage.step act = some next) :
    stage.board.Advances next.board := by
  rcases step_cases taken with ⟨-, -, board, -⟩ | ⟨task, snapshot, -, -, -, board, -⟩ |
    ⟨task, snapshot, -, -, -, board, -⟩
  · rw [board]
    exact .refl _
  · rw [board]
    exact ⟨Nat.le_succ _, Nat.le_refl _, rfl⟩
  · rw [board]
    exact stage.board.advances_publish snapshot

/-- What the act at a place of a schedule numbers. -/
def Issued (start : Stage) (acts : List Act) (n : Nat) (snapshot : Snapshot) : Prop :=
  ∃ stage act, Schedule.Reaches step start acts n stage ∧ acts[n]? = some act ∧
    stage.issue? act = some snapshot

section
variable {start : Stage} {acts : List Act}

theorem advances {m n : Nat} {stage later : Stage}
    (first : Schedule.Reaches step start acts m stage)
    (second : Schedule.Reaches step start acts n later) (le : m ≤ n) :
    stage.board.Advances later.board :=
  Schedule.Reaches.trans_of_step (fun stage later => stage.board.Advances later.board)
    (fun stage => .refl stage.board) Board.Advances.trans advances_step first second le

theorem generation_eq {stage : Stage} {act : Act} {snapshot : Snapshot}
    (issued : stage.issue? act = some snapshot) :
    snapshot.generation = stage.board.latest + 1 := by
  cases act <;> cases issued <;> rfl

theorem latest_lt {stage next : Stage} {act : Act} (issues : (stage.issue? act).isSome)
    (taken : stage.step act = some next) : stage.board.latest < next.board.latest := by
  rcases step_cases taken with ⟨-, silent, -⟩ | ⟨task, numbered, -, -, -, board, -⟩ |
    ⟨task, numbered, -, silent, -⟩
  · simp [silent] at issues
  · rw [board]
    exact Nat.lt_succ_self _
  · simp [silent] at issues

theorem Issued.lt_iff {m n : Nat} {a b : Snapshot} (first : Issued start acts m a)
    (second : Issued start acts n b) : m < n ↔ a.generation < b.generation := by
  obtain ⟨stage, act, here, found, given⟩ := first
  obtain ⟨stage', act', there, found', given'⟩ := second
  rw [generation_eq given, generation_eq given', Nat.succ_lt_succ_iff]
  exact here.lt_iff_of_counter (fun stage act => (stage.issue? act).isSome)
    (fun taken => (advances_step taken).latest) latest_lt there found found'
    (by simp [given]) (by simp [given'])

theorem owing (start : Stage) (acts : List Act) :
    Schedule.Owing step start acts due? (Issued start acts) := by
  intro i stage next act here found taken
  rcases step_cases taken with ⟨-, -, -, kept⟩ | ⟨task, snapshot, -, given, -, -, kept⟩ |
    ⟨task, snapshot, -, -, -, -, kept⟩
  · exact .inl kept
  · refine .inr ⟨task, some snapshot, kept, ?_⟩
    rintro numbered ⟨⟩
    exact ⟨stage, act, here, found, given⟩
  · refine .inr ⟨task, none, kept, ?_⟩
    rintro numbered ⟨⟩

theorem displayed_issued (idle : ∀ task, start.due? task = none) {n : Nat} {stage : Stage}
    (reached : Schedule.Reaches step start acts n stage) :
    stage.board.displayed = start.board.displayed ∨
      ∃ m < n, Issued start acts m stage.board.displayed := by
  induction reached with
  | start => exact .inl rfl
  | @act n before after act here found taken ih =>
    have widen : ∀ {snapshot}, (∃ m < n, Issued start acts m snapshot) →
        ∃ m < n + 1, Issued start acts m snapshot := by
      rintro snapshot ⟨m, less, issued⟩
      exact ⟨m, Nat.lt_succ_of_lt less, issued⟩
    rcases step_cases taken with ⟨-, -, board, -⟩ | ⟨task, numbered, -, -, -, board, -⟩ |
      ⟨task, published, -, -, due, board, -⟩
    · rw [board]
      exact ih.imp id widen
    · rw [board]
      exact ih.imp id widen
    · rw [board]
      -- A draft that was overtaken is dropped, and the display stays.
      rcases before.board.publish_displayed published with same | same
      · rw [same]
        exact ih.imp id widen
      · rw [same]
        exact .inr (widen (here.owed (owing start acts) idle due))

theorem due?_kept {stage next : Stage} {act : Act} {task : Nat} {snapshot : Snapshot}
    (due : stage.due? task = some snapshot) (other : act ≠ .publish task)
    (taken : stage.step act = some next) : next.due? task = some snapshot := by
  rcases step_cases taken with ⟨-, -, -, kept⟩ | ⟨another, numbered, -, -, free, -, kept⟩ |
    ⟨another, published, publishes, -, -, -, kept⟩
  · rw [kept, due]
  · have different : task ≠ another := by
      rintro rfl
      rw [free] at due
      cases due
    rw [kept, Function.update_of_ne different, due]
  · have different : task ≠ another := by
      rintro rfl
      exact other publishes
    rw [kept, Function.update_of_ne different, due]

theorem due?_blank {stage next : Stage} {task : Nat} {now : Instant}
    (taken : stage.step (.blank task now) = some next) :
    next.due? task = stage.issue? (.blank task now) := by
  rcases step_cases taken with ⟨without, -⟩ | ⟨another, numbered, same, given, -, -, kept⟩ |
    ⟨another, published, impossible, -⟩
  · cases without
  · cases same
    rw [kept, Function.update_self, given]
  · cases impossible

theorem due?_until {m n : Nat} {task : Nat} {snapshot : Snapshot} {stage later : Stage}
    (first : Schedule.Reaches step start acts m stage) (due : stage.due? task = some snapshot)
    (second : Schedule.Reaches step start acts n later) (le : m ≤ n)
    (waits : ∀ i, m ≤ i → i < n → acts[i]? ≠ some (.publish task)) :
    later.due? task = some snapshot := by
  refine first.between (fun stage => stage.due? task = some snapshot) due second le ?_
  intro i stage act next low high _ found taken still
  refine due?_kept still ?_ taken
  rintro rfl
  exact waits i low high found

theorem reset_le {m n l : Nat} {task : Nat} {now : Instant} {reset : Snapshot} {stage : Stage}
    (resets : acts[m]? = some (.blank task now)) (issued : Issued start acts m reset)
    (publishes : acts[n]? = some (.publish task)) (less : m < n)
    (waits : ∀ i, m < i → i < n → acts[i]? ≠ some (.publish task)) (published : n < l)
    (reached : Schedule.Reaches step start acts l stage) :
    reset.generation ≤ stage.board.displayed.generation := by
  -- The reset stays due up to the act that publishes it, and from there the display only grows.
  obtain ⟨at_reset, act, here, found, given⟩ := issued
  rw [resets, Option.some.injEq] at found
  subst found
  obtain ⟨waiting, taken, there⟩ := here.next reached resets (Nat.lt_trans less published)
  obtain ⟨at_publish, arrived⟩ := reached.earlier (Nat.le_of_lt published)
  obtain ⟨shown, displays, further⟩ := arrived.next reached publishes published
  have owed := due?_until there ((due?_blank taken).trans given) arrived less waits
  have displayed : reset.generation ≤ shown.board.displayed.generation := by
    rcases step_cases displays with ⟨without, -⟩ | ⟨_, _, -, silent, -⟩ |
      ⟨another, snapshot, same, -, due, board, -⟩
    · cases without
    · cases silent
    · cases same
      rw [owed, Option.some.injEq] at due
      rw [board, Board.publish_generation, due]
      exact Nat.le_max_right _ _
  exact Nat.le_trans displayed (advances further reached published).displayed

end

/-- Numbers follow the order of the copies and the display follows the numbers. What is
displayed is a snapshot of the figures at the act that numbered it, or the empty one of the
beginning; and no copy from before a reset is displayed once the reset is published. -/
theorem publication_monotone (config : Config) (created : Instant) (intake : Intake)
    (acts : List Act) :
    let start := create config created intake
    let reaches := Schedule.Reaches step start acts
    (∀ m n a b, Issued start acts m a → Issued start acts n b →
      (m < n ↔ a.generation < b.generation)) ∧
    (∀ m n stage later, m ≤ n → reaches m stage → reaches n later →
      stage.board.displayed.generation ≤ later.board.displayed.generation) ∧
    (∀ n stage, reaches n stage → stage.board.threshold = config.staleThreshold ∧
      (stage.board.displayed = ⟨0, created, 0, .create config.routes⟩ ∨
        ∃ m < n, Issued start acts m stage.board.displayed)) ∧
    ∀ m n l task now reset stage, acts[m]? = some (.blank task now) →
      Issued start acts m reset → acts[n]? = some (.publish task) → m < n →
      (∀ i, m < i → i < n → acts[i]? ≠ some (.publish task)) → n < l → reaches l stage →
      ∀ k copy, k < m → Issued start acts k copy →
        copy.generation < stage.board.displayed.generation := by
  intro start reaches
  refine ⟨?_, ?_, ?_, ?_⟩
  · intro m n a b first second
    exact first.lt_iff second
  · intro m n stage later le first second
    exact (advances first second le).displayed
  · intro n stage reached
    exact ⟨(advances .start reached (Nat.zero_le n)).threshold,
      displayed_issued (fun _ => rfl) reached⟩
  · intro m n l task now reset stage resets issued publishes less waits published reached k copy
      before copied
    -- The copy has a lower number than the reset, and the display has reached the reset.
    exact Nat.lt_of_lt_of_le ((copied.lt_iff issued).mp before)
      (reset_le resets issued publishes less waits published reached)

/-- A copy that is overtaken by a reset. -/
theorem publication_monotone_overtaken :
    let start := create {} 0 (.create {})
    let acts := [.copy 0 1, .blank 1 2, .publish 1, .publish 0]
    ∃ stage copy, Schedule.Reaches step start acts 4 stage ∧ Issued start acts 0 copy ∧
      copy.generation < stage.board.displayed.generation := by
  intro start acts
  have idle : Schedule.Reaches step start acts 0 start := .start
  have copied := idle.act rfl rfl
  have blanked := copied.act rfl rfl
  have reached := (blanked.act rfl rfl).act rfl rfl
  have issued : Issued start acts 0 _ := ⟨_, _, idle, rfl, rfl⟩
  refine ⟨_, _, reached, issued, ?_⟩
  obtain ⟨-, -, -, overtaken⟩ := publication_monotone {} 0 (.create {}) acts
  refine overtaken 1 2 4 1 2 _ _ rfl ⟨_, _, copied, rfl, rfl⟩ rfl (by decide) ?_ (by decide)
    reached 0 _ (by decide) issued
  intro i low high
  omega

end Stage

end Telemetry
