import Telemetry.Limiter

/-!
A limiter that is asked in its two ways, in any order, while time passes.

A watch of a limiter keeps the clock and a log of the calls, each with its time and what the
caller was told. The log alone says when events were let through, how many calls were refused and
how many refusals were reported; the limiter keeps the last of the first and the difference of the
other two, and so decides every call as the log would.

Main statement: after any waits and calls, a call was let through exactly where none had been
before it or the last one that was lies at least the interval back, and the refusals reported so
far and the ones the limiter still holds are together the calls refused so far.
-/

set_option autoImplicit false

namespace Telemetry.Limiter

inductive Act where
  | wait (span : Span)
  | check
  | take

/-- What the caller is told. -/
inductive Answer where
  | checked (allowed : Bool)
  | taken (held : Option Nat)
  deriving DecidableEq

namespace Answer

def allowed : Answer → Bool
  | checked allowed => allowed
  | taken held => held.isSome

def reported : Answer → Nat
  | checked _ => 0
  | taken held => held.getD 0

def isReport : Answer → Bool
  | checked _ => false
  | taken held => held.isSome

theorem reported_of_refused {answer : Answer} (refused : answer.allowed = false) :
    answer.reported = 0 := by
  cases answer with
  | checked => rfl
  | taken held =>
    cases held with
    | none => rfl
    | some => cases refused

theorem isReport_of_refused {answer : Answer} (refused : answer.allowed = false) :
    answer.isReport = false := by
  cases answer with
  | checked => rfl
  | taken held => exact refused

end Answer

structure Call where
  time : Instant
  answer : Answer
  deriving DecidableEq

/-! ### What a log says -/

def passes (log : List Call) : List Instant := (log.filter (·.answer.allowed)).map (·.time)

def refusals (log : List Call) : Nat := log.countP (!·.answer.allowed)

def reports (log : List Call) : Nat := (log.map (·.answer.reported)).sum

/-- Nothing was let through yet, or the last time lies at least the interval back. -/
def Due (interval : Span) (before : List Call) (now : Instant) : Prop :=
  ∀ last ∈ (passes before).getLast?, (interval : Int) ≤ now - last

/-- Something holds of each call and the ones before it. -/
def Throughout (holds : List Call → Call → Prop) (log : List Call) : Prop :=
  ∀ before call after, log = before ++ call :: after → holds before call

section
variable {log : List Call} {call : Call}

theorem throughout_nil {holds : List Call → Call → Prop} : Throughout holds [] := by
  intro before call after same
  simp at same

theorem Throughout.concat {holds : List Call → Call → Prop} (earlier : Throughout holds log)
    (here : holds log call) : Throughout holds (log ++ [call]) := by
  intro before other after same
  -- The call is the new one where none comes after it, else it was in the log before.
  rcases List.eq_nil_or_concat after with rfl | ⟨between, last, rfl⟩
  · obtain ⟨rfl, rfl⟩ := List.append_singleton_inj.mp same
    exact here
  · rw [List.concat_eq_append, ← List.cons_append, ← List.append_assoc] at same
    exact earlier before other between (List.append_singleton_inj.mp same).1

theorem passes_refused (refused : call.answer.allowed = false) :
    passes (log ++ [call]) = passes log := by
  simp [passes, refused]

theorem passes_allowed (allowed : call.answer.allowed = true) :
    passes (log ++ [call]) = passes log ++ [call.time] := by
  simp [passes, allowed]

theorem refusals_refused (refused : call.answer.allowed = false) :
    refusals (log ++ [call]) = refusals log + 1 := by
  simp [refusals, refused]

theorem refusals_allowed (allowed : call.answer.allowed = true) :
    refusals (log ++ [call]) = refusals log := by
  simp [refusals, allowed]

theorem reports_concat : reports (log ++ [call]) = reports log + call.answer.reported := by
  simp [reports]

theorem Due.spaced {interval : Span} {now : Instant} (due : Due interval log now)
    (spaced : (passes log).Pairwise fun earlier later => (interval : Int) ≤ later - earlier) :
    (passes log ++ [now]).Pairwise fun earlier later => (interval : Int) ≤ later - earlier := by
  refine List.pairwise_append.mpr ⟨spaced, List.pairwise_singleton _ now, ?_⟩
  intro earlier member later here
  cases List.mem_singleton.mp here
  cases found : (passes log).getLast? with
  | none =>
    rw [List.getLast?_eq_none_iff.mp found] at member
    cases member
  | some last =>
    have far := due last found
    obtain ⟨others, split⟩ := List.getLast?_eq_some_iff.mp found
    rw [split] at member spaced
    -- A pass before the last one lies farther back than the last one does.
    rcases List.mem_append.mp member with member | member
    · have between := (List.pairwise_append.mp spaced).2.2 earlier member last
        (List.mem_singleton_self last)
      omega
    · cases List.mem_singleton.mp member
      exact far

end

/-! ### Waits and calls -/

/-- A limiter with the clock it is asked by and the calls so far, oldest first. -/
structure Watch where
  limiter : Limiter
  now : Instant
  log : List Call := []

namespace Watch

def note (watch : Watch) (answer : Answer) (limiter : Limiter) : Watch :=
  { watch with limiter := limiter, log := watch.log ++ [⟨watch.now, answer⟩] }

def step (watch : Watch) : Act → Watch
  | .wait span => { watch with now := watch.now + span }
  | .check =>
    let (allowed, limiter) := watch.limiter.check watch.now
    watch.note (.checked allowed) limiter
  | .take =>
    let (held, limiter) := watch.limiter.take watch.now
    watch.note (.taken held) limiter

def run (watch : Watch) (acts : List Act) : Watch := acts.foldl step watch

theorem step_cases (watch : Watch) (act : Act) :
    (∃ span : Span, watch.step act = { watch with now := watch.now + span }) ∨
    (watch.limiter.allows watch.now = false ∧ ∃ answer : Answer, answer.allowed = false ∧
      watch.step act = watch.note answer
        { watch.limiter with suppressed := watch.limiter.suppressed + 1 }) ∨
    (watch.limiter.allows watch.now = true ∧ ∃ (answer : Answer) (held : Nat),
      answer.allowed = true ∧ answer.reported + held = watch.limiter.suppressed ∧
      (answer.isReport = true → held = 0) ∧
      watch.step act = watch.note answer
        { watch.limiter with lastAllowed := some watch.now, suppressed := held }) := by
  cases act with
  | wait span => exact .inl ⟨span, rfl⟩
  | check =>
    cases allows : watch.limiter.allows watch.now with
    | false => exact .inr (.inl ⟨rfl, .checked false, rfl, by simp [step, check, allows]⟩)
    | true =>
      -- Nothing is told of the refusals, so all of them stay.
      exact .inr (.inr ⟨rfl, .checked true, watch.limiter.suppressed, rfl, Nat.zero_add _, nofun,
        by simp [step, check, allows]⟩)
  | take =>
    cases allows : watch.limiter.allows watch.now with
    | false => exact .inr (.inl ⟨rfl, .taken none, rfl, by simp [step, take, check, allows]⟩)
    | true =>
      exact .inr (.inr ⟨rfl, .taken (some watch.limiter.suppressed), 0, rfl, rfl, fun _ => rfl,
        by simp [step, take, check, allows]⟩)

/-- A limiter against the log of its calls. -/
structure Faithful (interval : Span) (watch : Watch) : Prop where
  interval_eq : watch.limiter.interval = interval
  last : watch.limiter.lastAllowed = (passes watch.log).getLast?
  balance : reports watch.log + watch.limiter.suppressed = refusals watch.log
  judged : Throughout (fun before call => call.answer.allowed = true ↔
    Due interval before call.time) watch.log
  told : Throughout (fun before call => call.answer.isReport = true →
    reports before + call.answer.reported = refusals before) watch.log
  spaced : (passes watch.log).Pairwise fun earlier later => (interval : Int) ≤ later - earlier

section
variable {interval : Span} {watch : Watch}

theorem Faithful.allows_iff (faithful : watch.Faithful interval) :
    watch.limiter.allows watch.now = true ↔ Due interval watch.log watch.now := by
  unfold allows Due
  rw [faithful.last, faithful.interval_eq]
  cases (passes watch.log).getLast? with
  | none => exact ⟨fun _ => nofun, fun _ => rfl⟩
  | some last => simp

theorem Faithful.refuse (faithful : watch.Faithful interval) {answer : Answer}
    (refused : answer.allowed = false) (early : ¬ Due interval watch.log watch.now) :
    (watch.note answer { watch.limiter with suppressed := watch.limiter.suppressed + 1 }).Faithful
      interval where
  interval_eq := faithful.interval_eq
  last := faithful.last.trans (congrArg _ (passes_refused refused).symm)
  balance := by
    have balance := faithful.balance
    show reports (watch.log ++ [⟨watch.now, answer⟩]) + (watch.limiter.suppressed + 1) =
      refusals (watch.log ++ [⟨watch.now, answer⟩])
    rw [reports_concat, refusals_refused refused, answer.reported_of_refused refused]
    omega
  judged := faithful.judged.concat (by simp [refused, early])
  told := faithful.told.concat (by simp [answer.isReport_of_refused refused])
  spaced := by
    show (passes (watch.log ++ [⟨watch.now, answer⟩])).Pairwise _
    rw [passes_refused refused]
    exact faithful.spaced

theorem Faithful.allow (faithful : watch.Faithful interval) {answer : Answer} {held : Nat}
    (allowed : answer.allowed = true) (due : Due interval watch.log watch.now)
    (split : answer.reported + held = watch.limiter.suppressed)
    (emptied : answer.isReport = true → held = 0) :
    (watch.note answer { watch.limiter with
      lastAllowed := some watch.now, suppressed := held }).Faithful interval where
  interval_eq := faithful.interval_eq
  last := by
    show some watch.now = (passes (watch.log ++ [⟨watch.now, answer⟩])).getLast?
    rw [passes_allowed allowed, List.getLast?_concat]
  balance := by
    have balance := faithful.balance
    show reports (watch.log ++ [⟨watch.now, answer⟩]) + held =
      refusals (watch.log ++ [⟨watch.now, answer⟩])
    rw [reports_concat, refusals_allowed allowed]
    show reports watch.log + answer.reported + held = refusals watch.log
    omega
  -- The refusals that the answer tells of are no longer held, so the sum stays what it was.
  judged := faithful.judged.concat (by simp [allowed, due])
  told := by
    have balance := faithful.balance
    refine faithful.told.concat fun report => ?_
    have nothing := emptied report
    show reports watch.log + answer.reported = refusals watch.log
    omega
  spaced := by
    show (passes (watch.log ++ [⟨watch.now, answer⟩])).Pairwise _
    rw [passes_allowed allowed]
    exact due.spaced faithful.spaced

theorem Faithful.step (faithful : watch.Faithful interval) (act : Act) :
    (watch.step act).Faithful interval := by
  -- The limiter decides by the time it keeps, which is what the log would decide.
  have decided := faithful.allows_iff
  rcases watch.step_cases act with ⟨span, stepped⟩ | ⟨refuses, answer, refused, stepped⟩ |
    ⟨allows, answer, held, allowed, split, emptied, stepped⟩
  · rw [stepped]
    exact { faithful with }
  · rw [stepped]
    refine faithful.refuse refused ?_
    rw [← decided, refuses]
    exact Bool.false_ne_true
  · rw [stepped]
    exact faithful.allow allowed (decided.mp allows) split emptied

theorem Faithful.run (faithful : watch.Faithful interval) (acts : List Act) :
    (watch.run acts).Faithful interval := by
  induction acts generalizing watch with
  | nil => exact faithful
  | cons act rest ih => exact ih (faithful.step act)

theorem faithful_start (interval : Span) (start : Instant) :
    (Watch.mk { interval := interval } start []).Faithful interval where
  interval_eq := rfl
  last := rfl
  balance := rfl
  judged := throughout_nil
  told := throughout_nil
  spaced := .nil

end

/-- For every interval and all waits and calls in both ways: a call was let through exactly where
none had been before it or the last one that was lies at least the interval back, so that those
let through are never closer; the refusals reported so far and those the limiter holds are
together the calls refused so far; and each report tells of all refusals not yet reported. -/
theorem spacing_exact (interval : Span) (start : Instant) (acts : List Act) :
    let watch := (Watch.mk { interval := interval } start []).run acts
    (∀ before call after, watch.log = before ++ call :: after →
      (call.answer.allowed = true ↔ passes before = [] ∨
        ∃ last, (passes before).getLast? = some last ∧ (interval : Int) ≤ call.time - last)) ∧
    ((passes watch.log).Pairwise fun earlier later => (interval : Int) ≤ later - earlier) ∧
    reports watch.log + watch.limiter.suppressed = refusals watch.log ∧
    ∀ before call after, watch.log = before ++ call :: after → call.answer.isReport = true →
      reports before + call.answer.reported = refusals before := by
  intro watch
  have faithful : watch.Faithful interval := (faithful_start interval start).run acts
  refine ⟨?_, faithful.spaced, faithful.balance, faithful.told⟩
  intro before call after split
  -- What is kept to along a run holds at each of its calls.
  refine Iff.trans (faithful.judged before call after split) ?_
  unfold Due
  cases found : (passes before).getLast? with
  | none => simp [List.getLast?_eq_none_iff.mp found]
  | some last =>
    have some : passes before ≠ [] := by
      intro none
      rw [none] at found
      cases found
    simp [some]

/-- An event let through without a report leaves the refusals to the next report. -/
example : ((Watch.mk { interval := 500 } 0 []).run [.check, .take, .wait 300, .check, .wait 200,
    .check, .take, .wait 500, .take]).log.map (·.answer) =
    [.checked true, .taken none, .checked false, .checked true, .taken none, .taken (some 3)] := by
  decide

end Watch

end Telemetry.Limiter
