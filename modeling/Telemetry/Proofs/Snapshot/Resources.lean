import Mathlib.Algebra.Order.BigOperators.Group.List
import Mathlib.Algebra.Order.Group.Nat
import Telemetry.Proofs.Envelope.RoundTrip
import Telemetry.Proofs.Snapshot.View
import Telemetry.Session

/-!
Memory and disk of an application.

Its containers report amounts, which are added one by one in 64 bits. Whatever a line holds, each
amount fits in these; what several add up to need not, and then an addition ends the program. Main
statement: whatever lines were read, a roll-up is drawn if and only if both sums fit, and its totals
are the sums; a view is drawn if and only if every roll-up in it is.
-/

set_option autoImplicit false

namespace Telemetry

/-! ### Adding in 64 bits -/

/-- At some amount the addition leaves 64 bits. -/
def Overflows (amounts : List Nat) : Prop :=
  ∃ front amount total, front ++ [amount] <+: amounts ∧ sum64? front = some total ∧
    2 ^ 64 ≤ total + amount

theorem sum64?_concat (front : List Nat) (amount : Nat) :
    sum64? (front ++ [amount]) = (sum64? front).bind (add64? · amount) := by
  rw [sum64?, List.foldlM_append]
  simp [sum64?]

theorem sum64?_eq (amounts : List Nat) :
    sum64? amounts = if amounts.sum < 2 ^ 64 then some amounts.sum else none := by
  induction amounts using List.reverseRecOn with
  | nil => rfl
  | append_singleton front amount ih =>
    rw [sum64?_concat, ih, List.sum_append, List.sum_singleton]
    by_cases fits : front.sum < 2 ^ 64
    · rw [if_pos fits]
      rfl
    · have beyond : ¬ front.sum + amount < 2 ^ 64 := by omega
      rw [if_neg fits, if_neg beyond]
      rfl

theorem sum64?_eq_some_iff {amounts : List Nat} {total : Nat} :
    sum64? amounts = some total ↔ amounts.sum < 2 ^ 64 ∧ total = amounts.sum := by
  rw [sum64?_eq, Option.ite_none_right_eq_some, Option.some.injEq, eq_comm (a := total)]

theorem overflows_iff (amounts : List Nat) : Overflows amounts ↔ 2 ^ 64 ≤ amounts.sum := by
  constructor
  · rintro ⟨front, amount, total, ⟨rest, rfl⟩, added, leaves⟩
    obtain ⟨-, rfl⟩ := sum64?_eq_some_iff.mp added
    simp only [List.sum_append, List.sum_singleton]
    omega
  · induction amounts using List.reverseRecOn with
    | nil => exact nofun
    | append_singleton front amount ih =>
      intro large
      -- Either the front overflows already, or the last addition does.
      by_cases before : 2 ^ 64 ≤ front.sum
      · obtain ⟨earlier, first, total, begins, rest⟩ := ih before
        exact ⟨earlier, first, total, begins.trans (List.prefix_append _ _), rest⟩
      · -- Up to here the sum fits, so the running total is the sum.
        have added := sum64?_eq_some_iff.mpr ⟨Nat.not_le.mp before, rfl⟩
        exact ⟨front, amount, front.sum, List.prefix_refl _, added, by simpa using large⟩

/-! ### Applications -/

/-- Memory and disk that fit in 64 bits. -/
def ResourceSample.Fits (sample : ResourceSample) : Prop :=
  sample.memoryBytes < 2 ^ 64 ∧ sample.diskBytes < 2 ^ 64

namespace App

/-- What becomes of an application when the samples of its containers are added up. -/
structure RollsUp (samples : List ResourceSample) (rolled : Option App) : Prop where
  bounded : ∀ sample ∈ samples, sample.Fits
  ends : rolled = none ↔
    Overflows (samples.map (·.memoryBytes)) ∨ Overflows (samples.map (·.diskBytes))
  drawn : rolled.isSome ↔
    (samples.map (·.memoryBytes)).sum < 2 ^ 64 ∧ (samples.map (·.diskBytes)).sum < 2 ^ 64
  memory : ∀ app ∈ rolled, app.rollup.memoryBytes = (samples.map (·.memoryBytes)).sum
  disk : ∀ app ∈ rolled, app.rollup.diskBytes = (samples.map (·.diskBytes)).sum
  covers : ∀ app ∈ rolled, ∀ sample ∈ samples,
    sample.memoryBytes ≤ app.rollup.memoryBytes ∧ sample.diskBytes ≤ app.rollup.diskBytes

def SumsFit (app : App) : Prop :=
  (app.samples.map (·.memoryBytes)).sum < 2 ^ 64 ∧ (app.samples.map (·.diskBytes)).sum < 2 ^ 64

/-- Every sample fits. -/
def Fits (app : App) : Prop :=
  ∀ i container, app.container? i = some container → ∀ sample ∈ container.sample, sample.Fits

section
variable {app : App}

theorem recomputeRollup?_eq_some_iff {rolled : App} :
    app.recomputeRollup? = some rolled ↔ app.SumsFit ∧ rolled = app.recomputeRollup := by
  simp only [recomputeRollup?, rollup?, Option.bind_eq_bind, Option.map_eq_some_iff,
    Option.bind_eq_some_iff, sum64?_eq_some_iff]
  constructor
  · rintro ⟨_, ⟨_, ⟨memory, rfl⟩, _, ⟨disk, rfl⟩, same⟩, rfl⟩
    cases same
    exact ⟨⟨memory, disk⟩, rfl⟩
  · rintro ⟨⟨memory, disk⟩, rfl⟩
    exact ⟨_, ⟨_, ⟨memory, rfl⟩, _, ⟨disk, rfl⟩, rfl⟩, rfl⟩

theorem finalizeApp?_eq_some_iff {shown : App} {now : Instant} {threshold : Int} :
    Figures.finalizeApp? now threshold app = some shown ↔
      ((app.finalizeTraffic now).evictStale now threshold).SumsFit ∧
        shown = Figures.finalizeApp now threshold app :=
  recomputeRollup?_eq_some_iff

theorem Fits.samples (fits : app.Fits) : ∀ sample ∈ app.samples, sample.Fits := by
  intro sample member
  obtain ⟨container, present, reported⟩ := List.mem_filterMap.mp member
  obtain ⟨i, found⟩ := Slots.mem_present present
  exact fits i container found sample reported

theorem Fits.rollsUp (fits : app.Fits) : RollsUp app.samples app.recomputeRollup? := by
  have drawn : app.recomputeRollup?.isSome ↔ app.SumsFit := by
    simp [Option.isSome_iff_exists, recomputeRollup?_eq_some_iff]
  have whole : ∀ rolled ∈ app.recomputeRollup?, rolled = app.recomputeRollup :=
    fun rolled found => (recomputeRollup?_eq_some_iff.mp found).2
  constructor
  case bounded => exact fits.samples
  case ends =>
    rw [overflows_iff, overflows_iff, ← Option.not_isSome_iff_eq_none, drawn, SumsFit]
    omega
  case drawn => exact drawn
  case memory =>
    intro rolled found
    rw [whole rolled found]
    rfl
  case disk =>
    intro rolled found
    rw [whole rolled found]
    rfl
  case covers =>
    intro rolled found sample member
    rw [whole rolled found]
    exact ⟨List.le_sum_of_mem (List.mem_map_of_mem member),
      List.le_sum_of_mem (List.mem_map_of_mem member)⟩

theorem Fits.rollsUp_finalizeApp (fits : app.Fits) (now : Instant) (threshold : Int) :
    RollsUp (app.keptSamples now threshold) (Figures.finalizeApp? now threshold app) := by
  have kept : ((app.finalizeTraffic now).evictStale now threshold).Fits := by
    intro i container found
    rw [container?, containers_evictStale, Slots.get?_filter] at found
    exact fits i container (Option.filter_eq_some_iff.mp found).1
  have samples := samples_evictStale (app.finalizeTraffic now) now threshold
  have same : (app.finalizeTraffic now).keptSamples now threshold =
      app.keptSamples now threshold := rfl
  rw [← same, ← samples]
  exact kept.rollsUp

theorem Fits.updateContainer (fits : app.Fits) (i : Nat) (now : Instant)
    {change : Container → Container}
    (kept : ∀ container : Container, (∀ sample ∈ container.sample, sample.Fits) →
      ∀ sample ∈ (change container).sample, sample.Fits) :
    (app.updateContainer i now change).Fits := by
  -- Only the one container changes, or one is added that has reported nothing.
  intro j container found
  rw [container?_updateContainer] at found
  split at found
  · cases found
    refine kept _ ?_
    cases there : app.container? i with
    | none => exact nofun
    | some container => exact fits i container there
  · exact fits j container found

theorem invariant_fits (limit : Nat) :
    Invariant limit ResourceSample.Fits fun _ => App.Fits where
  created _ _ _ := nofun
  request _ _ _ _ _ _ _ fits := fits
  sample _ _ i _ _ now _ admitted fits :=
    fits.updateContainer i now fun _ _ _ same => Option.some.inj same ▸ admitted
  line _ _ i _ now _ fits := fits.updateContainer i now fun _ kept => kept
  platformLine _ _ _ fits := fits
  crash _ _ _ _ fits := fits

end

end App

/-! ### Lines -/

theorem Json.Codec.lt_of_natural {bits n : Nat} (restores : (natural bits).Restores n) :
    n < 2 ^ bits := by
  have back : (Value.intIn? 0 (2 ^ bits) (Value.int n)).map Int.toNat = some n := restores.back
  obtain ⟨m, found, same⟩ := Option.map_eq_some_iff.mp back
  obtain ⟨low, high⟩ := bounds_intIn? found
  have within : ((m.toNat : Nat) : Int) < 2 ^ bits := by omega
  rw [same] at within
  exact_mod_cast within

theorem Envelope.brings_of_ofLine? {line : String} {envelope : Envelope}
    (read : ofLine? line = some envelope) : envelope.event.Brings ResourceSample.Fits := by
  obtain ⟨value, parsed, decoded⟩ := Option.bind_eq_some_iff.mp read
  cases value with
  | obj source =>
    have restored := restored_of_decodeMembers? (Json.fits_value? parsed) decoded
    cases came : envelope.event with
    | metric event =>
      have each : ∀ field ∈ eventFields (.metric event), field.codec.Restores field.content :=
        fun field inside => restored field (List.mem_append_right _ (came ▸ inside))
      have memory :=
        each ⟨_, "memory_bytes", .natural 64, event.memoryBytes⟩ (by simp [eventFields])
      have disk := each ⟨_, "disk_bytes", .natural 64, event.diskBytes⟩ (by simp [eventFields])
      exact ⟨Json.Codec.lt_of_natural memory, Json.Codec.lt_of_natural disk⟩
    | _ => trivial
  | _ => cases decoded

namespace Figures

/-- Figures that lines, registrations and clears can lead to. -/
inductive Fed (config : Config) : Figures → Prop where
  | create : Fed config (.create config.routes)
  | line {figures : Figures} {line : String} {envelope : Envelope} (stream : Nat) (now : Instant) :
      Envelope.ofLine? line = some envelope → Fed config figures →
      Fed config (figures.apply config stream envelope now)
  | register {figures : Figures} (registration : Route.Registration) : Fed config figures →
      Fed config { figures with routes := (registration.submit figures.routes).2 }
  | clear {figures : Figures} : Fed config figures → Fed config figures.clear

section
variable {config : Config} {figures : Figures}

theorem Fed.fits (fed : figures.Fed config) : figures.apps.Each App.Fits := by
  induction fed with
  | create | clear => exact Table.eachAt_empty
  | line stream now read fed each =>
    exact eachAt_apply (App.invariant_fits _) each stream (Envelope.brings_of_ofLine? read) now
  | register registration fed each => exact each

theorem finalize?_eq_some_iff {view : Figures} {now : Instant} {threshold : Int} :
    figures.finalize? now threshold = some view ↔
      (figures.apps.Each fun app => (finalizeApp? now threshold app).isSome) ∧
        view = figures.finalize now threshold := by
  have gives : ∀ app shown, finalizeApp? now threshold app = some shown →
      shown = finalizeApp now threshold app :=
    fun _ _ found => (App.finalizeApp?_eq_some_iff.mp found).2
  simp only [finalize?, Option.map_eq_some_iff, Table.map?_eq_some_iff gives]
  constructor
  · rintro ⟨_, ⟨each, rfl⟩, rfl⟩
    exact ⟨each, rfl⟩
  · rintro ⟨each, rfl⟩
    exact ⟨_, ⟨each, rfl⟩, rfl⟩

/-- Whatever lines were read, the roll-up of an application is drawn if and only if what its
containers report adds up in 64 bits, whether of all its containers or of those that a view keeps;
and a view is drawn if and only if all its roll-ups are, which it then shows. -/
theorem totals_exact (fed : figures.Fed config) :
    (figures.apps.Each fun app => App.RollsUp app.samples app.recomputeRollup?) ∧
    ∀ now threshold,
      (figures.apps.Each fun app =>
        App.RollsUp (app.keptSamples now threshold) (finalizeApp? now threshold app)) ∧
      ((figures.finalize? now threshold).isSome ↔
        figures.apps.Each fun app => (finalizeApp? now threshold app).isSome) ∧
      ∀ view ∈ figures.finalize? now threshold, ∀ id app, figures.apps.get? id = some app →
        view.apps.get? id = finalizeApp? now threshold app := by
  refine ⟨fun id app found => (fed.fits id app found).rollsUp, fun now threshold =>
    ⟨fun id app found => (fed.fits id app found).rollsUp_finalizeApp now threshold, ?_, ?_⟩⟩
  · simp [Option.isSome_iff_exists, finalize?_eq_some_iff]
  · intro view drawn id app found
    obtain ⟨each, rfl⟩ := finalize?_eq_some_iff.mp drawn
    obtain ⟨shown, rolled⟩ := Option.isSome_iff_exists.mp (each id app found)
    rw [rolled, (App.finalizeApp?_eq_some_iff.mp rolled).2]
    show (figures.apps.map _).get? id = _
    rw [Table.get?_map, found]
    rfl

end

/-- Two instances that report, of which a later view keeps the second one. -/
theorem totals_exact_two :
    let first := "\x7b\"event_type\":1,\"application_id\":\"app\",\"instance_index\":0," ++
      "\"memory_bytes\":5\x7d"
    let second := "\x7b\"event_type\":1,\"application_id\":\"app\",\"instance_index\":1," ++
      "\"memory_bytes\":7\x7d"
    ∃ envelope envelope', Envelope.ofLine? first = some envelope ∧
      Envelope.ofLine? second = some envelope' ∧
      let figures := ((create {}).apply {} 0 envelope 0).apply {} 0 envelope' 10
      ∃ app rolled view shown, figures.apps.get? "app" = some app ∧
        app.recomputeRollup? = some rolled ∧ rolled.rollup.memoryBytes = 12 ∧
        figures.finalize? 20 15 = some view ∧ view.apps.get? "app" = some shown ∧
        shown.rollup.memoryBytes = 7 := by
  intro first second
  have state : (Envelope.ofLine? first).bind (fun envelope =>
      (Envelope.ofLine? second).bind fun envelope' =>
        let figures := ((create {}).apply {} 0 envelope 0).apply {} 0 envelope' 10
        (figures.apps.get? "app").bind fun app =>
          if app.recomputeRollup?.isSome ∧ (figures.finalize? 20 15).isSome then
            some (app.samples.map (·.memoryBytes), (app.keptSamples 20 15).map (·.memoryBytes))
          else none) = some ([5, 7], [7]) := by
    decide +kernel
  obtain ⟨envelope, read, state⟩ := Option.bind_eq_some_iff.mp state
  obtain ⟨envelope', read', state⟩ := Option.bind_eq_some_iff.mp state
  obtain ⟨app, found, state⟩ := Option.bind_eq_some_iff.mp state
  obtain ⟨⟨summed, viewed⟩, state⟩ := Option.ite_none_right_eq_some.mp state
  obtain ⟨whole, kept⟩ := Prod.mk.inj (Option.some.inj state)
  obtain ⟨rolled, summed⟩ := Option.isSome_iff_exists.mp summed
  obtain ⟨view, viewed⟩ := Option.isSome_iff_exists.mp viewed
  have fed : Fed {} (((create {}).apply {} 0 envelope 0).apply {} 0 envelope' 10) :=
    .line 0 10 read' (.line 0 0 read .create)
  obtain ⟨drawn, views⟩ := totals_exact fed
  obtain ⟨shows, each, shown⟩ := views 20 15
  obtain ⟨app', rolled'⟩ := Option.isSome_iff_exists.mp
    (each.mp (Option.isSome_of_eq_some viewed) "app" app found)
  have memory := (drawn "app" app found).memory rolled summed
  have memory' := (shows "app" app found).memory app' rolled'
  rw [whole] at memory
  rw [kept] at memory'
  exact ⟨envelope, envelope', read, read', app, rolled, view, app', found, summed, memory, viewed,
    (shown view viewed "app" app found).trans rolled', memory'⟩

/-- Two instances of which each reports half of what 64 bits can count: there is neither a
roll-up nor a view. -/
theorem memory_overflow :
    let lines := ["0", "1"].map fun index => "\x7b\"event_type\":1,\"application_id\":\"app\"," ++
      "\"instance_index\":" ++ index ++ ",\"memory_bytes\":9223372036854775808\x7d"
    let figures := (lines.filterMap Envelope.ofLine?).foldl
      (fun figures envelope => figures.apply {} 0 envelope 0) (create {})
    (figures.apps.get? "app").map (fun app =>
      (app.samples.map (·.memoryBytes), app.recomputeRollup?.isSome)) =
        some ([2 ^ 63, 2 ^ 63], false) ∧ (figures.finalize? 0 80).isSome = false := by
  decide +kernel

end Figures

/-! ### Sessions

Where no snapshot ends the program, it does what it would do if bytes had no bounds. -/

namespace Session

section
variable {session later : Session} {now : Instant}

theorem publish?_eq_some_iff : session.publish? now = some later ↔
    (session.intake.figures.finalize? now session.board.threshold).isSome ∧
      later = session.publish now := by
  simp only [publish?, Board.take?, Draft.finalize?, Option.map_map, Option.map_eq_some_iff,
    Option.isSome_iff_exists]
  constructor
  · rintro ⟨view, drawn, rfl⟩
    obtain ⟨-, rfl⟩ := Figures.finalize?_eq_some_iff.mp drawn
    exact ⟨⟨_, drawn⟩, rfl⟩
  · rintro ⟨⟨view, drawn⟩, rfl⟩
    refine ⟨view, drawn, ?_⟩
    obtain ⟨-, rfl⟩ := Figures.finalize?_eq_some_iff.mp drawn
    rfl

/-- Time passes as if bytes had no bounds, unless a snapshot falls due that cannot be drawn. -/
theorem pass?_eq_some_iff {span : Span} : session.pass? span now = some later ↔
    (∀ timers ∈ session.timers, timers.snapshot ≤ span →
      (session.intake.figures.finalize? now session.board.threshold).isSome) ∧
        later = session.pass span now := by
  unfold pass?
  cases session.timers with
  | none =>
    rw [Option.any_none, if_neg Bool.false_ne_true, Option.some.injEq, eq_comm]
    exact (and_iff_right nofun).symm
  | some timers =>
    -- The figures do not change while time passes, so the first snapshot that falls due decides.
    by_cases due : timers.snapshot ≤ span
    · simp only [Option.any_some, due, decide_true, if_true, Option.map_eq_some_iff,
        publish?_eq_some_iff, Option.mem_some]
      constructor
      · rintro ⟨_, ⟨drawn, -⟩, rfl⟩
        exact ⟨fun _ _ _ => drawn, rfl⟩
      · rintro ⟨drawn, rfl⟩
        exact ⟨_, ⟨drawn timers rfl due, rfl⟩, rfl⟩
    · simp only [Option.any_some, due, decide_false, Bool.false_eq_true, if_false, Option.mem_some,
        forall_eq', false_imp_iff, true_and, Option.some.injEq]
      exact eq_comm

end

end Session

end Telemetry
