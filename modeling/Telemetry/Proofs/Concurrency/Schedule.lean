import Mathlib.Logic.Function.Basic

/-!
Schedules of acts, taken one after the other.

Several tasks share one state, and an act is what one of them does without being disturbed.
A schedule is any order of such acts; an act that cannot be taken where it stands ends the
runs of its schedule.
-/

set_option autoImplicit false

namespace Telemetry.Schedule

variable {σ α : Type}

inductive Reaches (step : σ → α → Option σ) (start : σ) (acts : List α) : Nat → σ → Prop where
  | start : Reaches step start acts 0 start
  | act {n : Nat} {before after : σ} {act : α} : Reaches step start acts n before →
      acts[n]? = some act → step before act = some after → Reaches step start acts (n + 1) after

section
variable {step : σ → α → Option σ} {start : σ} {acts : List α}

theorem Reaches.unique {n : Nat} {s t : σ} (first : Reaches step start acts n s)
    (second : Reaches step start acts n t) : s = t := by
  induction first generalizing t with
  | start =>
    cases second
    rfl
  | act before found taken ih =>
    cases second with
    | act before' found' taken' =>
      have same := ih before'
      rw [found, Option.some.injEq] at found'
      rw [← same, ← found', taken, Option.some.injEq] at taken'
      exact taken'

theorem Reaches.last {n : Nat} {t : σ} (reaches : Reaches step start acts (n + 1) t) :
    ∃ s act, Reaches step start acts n s ∧ acts[n]? = some act ∧ step s act = some t := by
  cases reaches with
  | act before found taken => exact ⟨_, _, before, found, taken⟩

theorem Reaches.earlier {m n : Nat} {t : σ} (reaches : Reaches step start acts n t)
    (le : m ≤ n) : ∃ s, Reaches step start acts m s := by
  induction reaches with
  | start =>
    obtain rfl := Nat.le_zero.mp le
    exact ⟨start, .start⟩
  | @act n before after act reached found taken ih =>
    rcases Nat.le_or_eq_of_le_succ le with less | rfl
    · exact ih less
    · exact ⟨after, .act reached found taken⟩

theorem Reaches.next {m n : Nat} {s t : σ} {act : α} (first : Reaches step start acts m s)
    (second : Reaches step start acts n t) (found : acts[m]? = some act) (less : m < n) :
    ∃ next, step s act = some next ∧ Reaches step start acts (m + 1) next := by
  obtain ⟨next, reached⟩ := second.earlier less
  obtain ⟨before, other, earlier, same, taken⟩ := reached.last
  rw [found, Option.some.injEq] at same
  rw [earlier.unique first, ← same] at taken
  exact ⟨next, taken, reached⟩

theorem Reaches.between (holds : σ → Prop) {m n : Nat} {s t : σ}
    (first : Reaches step start acts m s) (held : holds s)
    (second : Reaches step start acts n t) (le : m ≤ n)
    (kept : ∀ i {s act t}, m ≤ i → i < n → Reaches step start acts i s → acts[i]? = some act →
      step s act = some t → holds s → holds t) : holds t := by
  induction second with
  | start =>
    obtain rfl := Nat.le_zero.mp le
    rw [← first.unique .start]
    exact held
  | @act n before after act reached found taken ih =>
    rcases Nat.le_or_eq_of_le_succ le with less | rfl
    · have still := ih less fun i _ _ _ low high => kept i low (Nat.lt_succ_of_lt high)
      exact kept n less (Nat.lt_succ_self n) reached found taken still
    · rw [← first.unique (.act reached found taken)]
      exact held

theorem Reaches.trans_of_step (related : σ → σ → Prop) (refl : ∀ s, related s s)
    (trans : ∀ {r s t}, related r s → related s t → related r t)
    (respects : ∀ {s act t}, step s act = some t → related s t) {m n : Nat} {s t : σ}
    (first : Reaches step start acts m s) (second : Reaches step start acts n t) (le : m ≤ n) :
    related s t :=
  first.between (related s) (refl s) second le fun _ _ _ _ _ _ _ _ taken before =>
    trans before (respects taken)

end

/-- Acts that take numbers from a counter, each its own, take them in their order. -/
theorem Reaches.lt_iff_of_counter {step : σ → α → Option σ} {start : σ} {acts : List α}
    {counter : σ → Nat} (takes : σ → α → Prop)
    (grows : ∀ {s act t}, step s act = some t → counter s ≤ counter t)
    (bumps : ∀ {s act t}, takes s act → step s act = some t → counter s < counter t)
    {m n : Nat} {s t : σ} {a b : α} (first : Reaches step start acts m s)
    (second : Reaches step start acts n t) (here : acts[m]? = some a) (there : acts[n]? = some b)
    (takesHere : takes s a) (takesThere : takes t b) : m < n ↔ counter s < counter t := by
  -- What one act has taken, the counter has left behind at every later one.
  have earlier : ∀ {m n : Nat} {s t : σ} {a : α}, Reaches step start acts m s →
      Reaches step start acts n t → acts[m]? = some a → takes s a → m < n →
      counter s < counter t := by
    intro m n s t a first second here took less
    obtain ⟨next, taken, reached⟩ := first.next second here less
    exact Nat.lt_of_lt_of_le (bumps took taken)
      (reached.trans_of_step (fun s t => counter s ≤ counter t) (fun _ => Nat.le_refl _)
        Nat.le_trans grows second less)
  constructor
  · exact earlier first second here takesHere
  · intro smaller
    rcases Nat.lt_trichotomy m n with less | rfl | greater
    · exact less
    · rw [first.unique second] at smaller
      exact absurd smaller (Nat.lt_irrefl _)
    · exact absurd (earlier second first there takesThere greater) (Nat.lt_asymm smaller)

section
variable {step : σ → α → Option σ} {start : σ} {acts : List α} {β : Type}

/-- An act may change what one task owes, to nothing or to what the act makes. -/
def Owing (step : σ → α → Option σ) (start : σ) (acts : List α) (owes : σ → Nat → Option β)
    (made : Nat → β → Prop) : Prop :=
  ∀ {i : Nat} {s t : σ} {act : α}, Reaches step start acts i s → acts[i]? = some act →
    step s act = some t → owes t = owes s ∨ ∃ task new,
      owes t = Function.update (owes s) task new ∧ ∀ value, new = some value → made i value

theorem Reaches.owed {owes : σ → Nat → Option β} {made : Nat → β → Prop}
    (owing : Owing step start acts owes made) (idle : ∀ task, owes start task = none)
    {n : Nat} {s : σ} (reached : Reaches step start acts n s) {task : Nat} {value : β}
    (owed : owes s task = some value) : ∃ m < n, made m value := by
  induction reached generalizing task value with
  | start =>
    rw [idle] at owed
    cases owed
  | @act n before after act here found taken ih =>
    have earlier : ∀ {task value}, owes before task = some value →
        ∃ m < n + 1, made m value := by
      intro task value owed
      obtain ⟨m, less, fact⟩ := ih owed
      exact ⟨m, Nat.lt_succ_of_lt less, fact⟩
    -- Only the task that acts may owe something new.
    rcases owing here found taken with same | ⟨actor, new, changed, fresh⟩
    · rw [same] at owed
      exact earlier owed
    · rw [changed] at owed
      by_cases own : task = actor
      · subst own
        rw [Function.update_self] at owed
        exact ⟨n, Nat.lt_succ_self n, fresh value owed⟩
      · rw [Function.update_of_ne own] at owed
        exact earlier owed

end

end Telemetry.Schedule
