import Telemetry.Config
import Telemetry.Proofs.History.Provenance
import Telemetry.Proofs.History.Records

/-!
How many records a history holds, and what a consolidation does with them.

Main statement: with limits that are accepted, no call leaves a tier beyond its limit. A tier is
consolidated only when a record has just taken it beyond, and then passes exactly one record on;
each tier holds the newest of all it was given since the last clear, and the coarsest holds all.
-/

set_option autoImplicit false

namespace Telemetry

open RateRecord (MergedOf)

namespace Tier

/-- What becomes of a tier that is given a record, and what it passes on. A tier that had room
before and has none left for the record keeps the newest half of its limit, merges the oldest
half and drops what is between. -/
inductive Takes (record : RateRecord) (tier : Tier) : Tier → Option RateRecord → Prop where
  | grows : (∀ limit, tier.limit = some limit → tier.records.length + 1 ≤ limit) →
      Takes record tier (tier.append record) none
  | consolidates {limit : Nat} {oldest dropped kept : List RateRecord} {merged : RateRecord} :
      tier.limit = some limit → tier.records.length ≤ limit → limit < tier.records.length + 1 →
      tier.records ++ [record] = oldest ++ (dropped ++ kept) → 0 < limit / 2 →
      oldest.length = limit / 2 → kept.length = limit / 2 →
      dropped.length = tier.records.length + 1 - 2 * (limit / 2) → MergedOf oldest merged →
      Takes record tier { tier with records := kept } (some merged)

/-- What becomes of some tiers when the finest is given a record or none, and what each of them
is given. Each is given what the finer one passes on, and past the coarsest nothing goes. -/
inductive Passes : Option RateRecord → List Tier → List Tier → List (Option RateRecord) → Prop where
  | rests (tiers : List Tier) : Passes none tiers tiers (tiers.map fun _ => none)
  | takes {record : RateRecord} {tier after : Tier} {passed : Option RateRecord}
      {coarser later : List Tier} {givens : List (Option RateRecord)} :
      tier.Takes record after passed → Passes passed coarser later givens →
      Passes (some record) (tier :: coarser) (after :: later) (some record :: givens)

def givens : Option RateRecord → List Tier → List (Option RateRecord)
  | _, [] => []
  | given, tier :: coarser =>
    given :: givens (given.bind fun record => (tier.append record).consolidate.2) coarser

theorem givens_none (tiers : List Tier) : givens none tiers = tiers.map fun _ => none := by
  induction tiers with
  | nil => rfl
  | cons tier coarser ih => rw [givens, Option.bind_none, ih, List.map_cons]

/-- The newest of all records given, as many as the limit allows; all of them without one. -/
structure Keeps (given : List RateRecord) (tier : Tier) : Prop where
  suffix : tier.records <:+ given
  bound : ∀ limit, tier.limit = some limit → tier.records.length ≤ limit
  whole : tier.limit = none → tier.records = given

theorem halves_eq {half : Nat} {records : List RateRecord} (enough : 2 * half ≤ records.length) :
    ∃ dropped, records = records.take half ++ (dropped ++ newest half (records.drop half)) ∧
      (records.take half).length = half ∧ (newest half (records.drop half)).length = half ∧
      dropped.length = records.length - 2 * half := by
  refine ⟨(records.drop half).take ((records.drop half).length - half), ?_, ?_, ?_, ?_⟩
  · rw [newest, List.take_append_drop, List.take_append_drop]
  · rw [List.length_take]
    omega
  · rw [newest, List.length_drop, List.length_drop]
    omega
  · rw [List.length_take, List.length_drop]
    omega

section
variable {tier : Tier} {limit : Nat}

theorem consolidate_of_le (limited : tier.limit = some limit)
    (fits : tier.records.length ≤ limit) : tier.consolidate = (tier, none) := by
  obtain ⟨_, records⟩ := tier
  cases limited
  exact if_pos fits

theorem consolidate_of_lt (limited : tier.limit = some limit)
    (beyond : limit < tier.records.length) :
    tier.consolidate =
      ({ tier with records := newest (limit / 2) (tier.records.drop (limit / 2)) },
        RateRecord.merge? (tier.records.take (limit / 2))) := by
  obtain ⟨_, records⟩ := tier
  cases limited
  exact if_neg (Nat.not_le_of_lt beyond)

theorem takes_unlimited (record : RateRecord) (unlimited : tier.limit = none) :
    (tier.append record).consolidate = (tier.append record, none) ∧
      tier.Takes record (tier.append record) none := by
  refine ⟨?_, .grows ?_⟩
  · have kept : (tier.append record).limit = none := unlimited
    rw [consolidate, kept]
  · rw [unlimited]
    rintro _ ⟨⟩

theorem takes_limited (record : RateRecord) (limited : tier.limit = some limit)
    (room : 2 ≤ limit) (bound : tier.records.length ≤ limit) :
    tier.Takes record (tier.append record).consolidate.1 (tier.append record).consolidate.2 := by
  have length : (tier.append record).records.length = tier.records.length + 1 := List.length_append
  have kept : (tier.append record).limit = some limit := limited
  by_cases fits : (tier.append record).records.length ≤ limit
  · rw [consolidate_of_le kept fits]
    refine .grows fun other same => ?_
    have here : limit = other := Option.some.inj (limited.symm.trans same)
    omega
  · rw [consolidate_of_lt kept (Nat.lt_of_not_le fits)]
    obtain ⟨dropped, split, oldest, newest, between⟩ :=
      @halves_eq (limit / 2) (tier.append record).records (by omega)
    obtain ⟨merged, done, -⟩ := RateRecord.exists_mergedOf_covers
      (List.ne_nil_of_length_pos (l := (tier.append record).records.take (limit / 2)) (by omega))
    rw [length] at between fits
    rw [show RateRecord.merge? _ = some merged from done]
    exact .consolidates limited bound (Nat.lt_of_not_le fits) split (by omega) oldest newest
      between done

end

theorem passes_cascade {caps : List Nat} {tiers : List Tier}
    (limits : tiers.map (·.limit) = caps.map some ++ [none]) (room : ∀ cap ∈ caps, 2 ≤ cap)
    (bound : ∀ tier ∈ tiers, ∀ limit, tier.limit = some limit → tier.records.length ≤ limit)
    (record : RateRecord) :
    Passes (some record) tiers (cascade record tiers) (givens (some record) tiers) := by
  -- By the tiers from the finest on: what one passes on is what the next is given.
  induction caps generalizing tiers record with
  | nil =>
    obtain ⟨coarsest, rfl, unlimited⟩ := List.map_eq_singleton_iff.mp limits
    obtain ⟨rests, takes⟩ := takes_unlimited record unlimited
    rw [cascade_cons, givens, Option.bind_some, rests]
    exact .takes takes (.rests [])
  | cons cap caps ih =>
    obtain ⟨tier, coarser, rfl, limited, others⟩ := List.map_eq_cons_iff.mp limits
    obtain ⟨here, later⟩ := List.forall_mem_cons.mp room
    obtain ⟨within, below⟩ := List.forall_mem_cons.mp bound
    have takes := takes_limited record limited here (within cap limited)
    rw [cascade_cons, givens, Option.bind_some]
    cases passed : (tier.append record).consolidate.2 with
    | none =>
      rw [passed] at takes
      rw [givens_none]
      exact .takes takes (.rests coarser)
    | some merged =>
      rw [passed] at takes
      exact .takes takes (ih others later below merged)

theorem Takes.keeps {record : RateRecord} {tier after : Tier} {passed : Option RateRecord}
    (takes : tier.Takes record after passed) {given : List RateRecord} (keeps : Keeps given tier) :
    Keeps (given ++ [record]) after := by
  have suffix : tier.records ++ [record] <:+ given ++ [record] :=
    List.suffix_append_self_iff.mpr keeps.suffix
  cases takes with
  | grows fits =>
    refine ⟨suffix, ?_, ?_⟩
    · intro limit limited
      have length : (tier.append record).records.length = tier.records.length + 1 :=
        List.length_append
      rw [length]
      exact fits limit limited
    · intro unlimited
      rw [append, keeps.whole unlimited]
  | @consolidates limit oldest dropped kept merged limited before beyond split room old new =>
    refine ⟨?_, ?_, ?_⟩
    · -- What is kept is the end of what was there with the new record, which is all that was given.
      rw [split, ← List.append_assoc] at suffix
      exact (List.suffix_append _ kept).trans suffix
    · intro other same
      have here : limit = other := Option.some.inj (limited.symm.trans same)
      show kept.length ≤ other
      omega
    · intro unlimited
      cases limited.symm.trans unlimited

theorem Passes.keeps {given : Option RateRecord} {tiers later : List Tier}
    {givens : List (Option RateRecord)} (passes : Passes given tiers later givens)
    {logs : List (List RateRecord)} (keeps : List.Forall₂ Keeps logs tiers) :
    List.Forall₂ Keeps (List.zipWith (fun log given => log ++ given.toList) logs givens) later := by
  induction passes generalizing logs with
  | rests tiers =>
    induction keeps with
    | nil => exact .nil
    | cons here _ ih => exact .cons (by simpa using here) ih
  | takes takes _ ih =>
    obtain _ | ⟨here, others⟩ := keeps
    exact .cons (takes.keeps here) (ih others)

end Tier

namespace History

inductive Call where
  | record (record : RateRecord)
  | tick (counters : Counters) (now : Instant)
  | clear (now : Instant)

def perform (history : History) : Call → History
  | .record record => history.record record
  | .tick counters now => (history.tick counters now).1
  | .clear now => history.clear now

def taken? (history : History) : Call → Option RateRecord
  | .record record => some record
  | .tick counters now => some (history.taken counters now)
  | .clear _ => none

theorem tiers_perform {history : History} {call : Call} {record : RateRecord}
    (taken : history.taken? call = some record) :
    (history.perform call).tiers = Tier.cascade record history.tiers := by
  cases call with
  | record | tick =>
    cases taken
    rfl
  | clear => cases taken

/-- A history, and beside it all records that were given to each tier since the last clear. -/
structure Journal where
  history : History
  given : List (List RateRecord)

namespace Journal

def create (limits : HistoryLimits) (now : Instant) : Journal where
  history := .create limits now
  given := [[], [], [], [], []]

def perform (journal : Journal) (call : Call) : Journal where
  history := journal.history.perform call
  given := match journal.history.taken? call with
    | some record => journal.given.zipWith (fun log given => log ++ given.toList)
        (Tier.givens (some record) journal.history.tiers)
    | none => journal.given.map fun _ => []

def run (journal : Journal) (calls : List Call) : Journal := calls.foldl perform journal

structure Sound (limits : HistoryLimits) (journal : Journal) : Prop where
  arises : Arises limits journal.history
  keeps : List.Forall₂ Tier.Keeps journal.given journal.history.tiers

section
variable {limits : HistoryLimits} {journal : Journal}

def caps (limits : HistoryLimits) : List Nat :=
  [limits.second, limits.minute, limits.tenMinute, limits.hour]

theorem sound_create (limits : HistoryLimits) (now : Instant) :
    (create limits now).Sound limits := by
  have empty : ∀ limit, Tier.Keeps [] ⟨limit, []⟩ :=
    fun _ => ⟨List.nil_suffix, fun _ _ => Nat.zero_le _, fun _ => rfl⟩
  exact ⟨.create now, .cons (empty _) (.cons (empty _) (.cons (empty _) (.cons (empty _)
    (.cons (empty _) .nil))))⟩

theorem Sound.limits_eq (sound : journal.Sound limits) :
    journal.history.tiers.map (·.limit) = (caps limits).map some ++ [none] :=
  sound.arises.limits_eq 0

theorem Sound.passes (sound : journal.Sound limits) (room : ∀ cap ∈ caps limits, 2 ≤ cap)
    (record : RateRecord) :
    Tier.Passes (some record) journal.history.tiers (Tier.cascade record journal.history.tiers)
      (Tier.givens (some record) journal.history.tiers) := by
  refine Tier.passes_cascade sound.limits_eq room ?_ record
  intro tier member
  obtain ⟨i, bound, rfl⟩ := List.getElem_of_mem member
  have length := sound.keeps.length_eq
  exact (sound.keeps.get (by omega) bound).bound

theorem Sound.clear_eq (sound : journal.Sound limits) (now : Instant) :
    journal.perform (.clear now) = create limits now := by
  have five : journal.given.length = 5 := by
    have tiers := congrArg List.length sound.limits_eq
    rw [List.length_map] at tiers
    rw [sound.keeps.length_eq, tiers]
    rfl
  have emptied : (journal.given.map fun _ => []) = [[], [], [], [], ([] : List RateRecord)] := by
    rw [List.map_const', five]
    rfl
  show (⟨journal.history.clear now, journal.given.map fun _ => []⟩ : Journal) = _
  rw [sound.arises.clear_eq, emptied]
  rfl

theorem Sound.perform (sound : journal.Sound limits) (room : ∀ cap ∈ caps limits, 2 ≤ cap)
    (call : Call) : (journal.perform call).Sound limits := by
  cases call with
  | record record =>
    exact ⟨sound.arises.record record, (sound.passes room record).keeps sound.keeps⟩
  | tick counters now =>
    exact ⟨sound.arises.tick counters now, (sound.passes room _).keeps sound.keeps⟩
  | clear now =>
    rw [sound.clear_eq now]
    exact sound_create limits now

theorem Sound.run (sound : journal.Sound limits) (room : ∀ cap ∈ caps limits, 2 ≤ cap)
    (calls : List Call) : (journal.run calls).Sound limits := by
  induction calls generalizing journal with
  | nil => exact sound
  | cons call rest ih => exact ih (sound.perform room call)

end

end Journal

end History

theorem Config.room_of_check {config : Config} (valid : config.check = .ok config) :
    ∀ cap ∈ History.Journal.caps config.history, 2 ≤ cap := by
  unfold check at valid
  split at valid
  · cases valid
  · next accepted =>
    have met := List.find?_eq_none.mp accepted
    simp only [requirements, List.forall_mem_cons, Bool.not_eq_true', Bool.not_eq_false,
      Requirement.holds, decide_eq_true_eq] at met
    obtain ⟨-, -, -, -, second, minute, tenMinute, hour, -⟩ := met
    simp [History.Journal.caps, second, minute, tenMinute, hour]

namespace History.Journal

/-- With limits that are accepted, after any calls each tier holds the newest records it was
given since the last clear, within its limit if it has one and all of them if not. A further call
that takes a record passes it down tier by tier, each consolidated only if the record has taken
it beyond its limit, and a clear leaves nothing behind. -/
theorem storage_exact {config : Config} (valid : config.check = .ok config) (created : Instant)
    (calls : List Call) :
    let journal := (create config.history created).run calls
    journal.history.tiers.map (·.limit) = [some config.history.second,
      some config.history.minute, some config.history.tenMinute, some config.history.hour, none] ∧
    List.Forall₂ Tier.Keeps journal.given journal.history.tiers ∧
    ∀ call, match journal.history.taken? call with
      | some record => ∃ givens, Tier.Passes (some record) journal.history.tiers
            (journal.perform call).history.tiers givens ∧
          (journal.perform call).given =
            journal.given.zipWith (fun log given => log ++ given.toList) givens
      | none => ∃ now, call = .clear now ∧ journal.perform call = create config.history now := by
  intro journal
  -- An accepted configuration gives each limited tier room for two records at least.
  have room := Config.room_of_check valid
  have sound : journal.Sound config.history := (sound_create config.history created).run room calls
  refine ⟨sound.limits_eq, sound.keeps, ?_⟩
  intro call
  cases taken : journal.history.taken? call with
  | some record =>
    refine ⟨Tier.givens (some record) journal.history.tiers, ?_, ?_⟩
    · rw [perform, tiers_perform taken]
      exact sound.passes room record
    · rw [perform, taken]
  | none =>
    cases call with
    | record | tick => cases taken
    | clear now => exact ⟨now, rfl, sound.clear_eq now⟩

/-- Seven records where every tier has room for two: from the third on every other record takes
the finest tier over its limit, and the last of them takes the next one over too. -/
theorem storage_exact_cascade :
    let record (i : Nat) : RateRecord := ⟨i, i + 1, .exactly i, .ofFn fun _ => none⟩
    let config : Config := { history := ⟨2, 2, 2, 2⟩ }
    let journal := (create config.history 0).run ((List.range 7).map (.record ∘ record))
    config.check = .ok config ∧
      journal.history.tiers.map (·.records.map (·.total.high)) = [[6], [4], [0], [], []] ∧
      journal.given.map (·.map (·.total.high)) =
        [[0, 1, 2, 3, 4, 5, 6], [0, 2, 4], [0], [], []] ∧
      List.Forall₂ Tier.Keeps journal.given journal.history.tiers := by
  intro record config journal
  have valid : config.check = .ok config := by decide +kernel
  exact ⟨valid, by decide +kernel, by decide +kernel, (storage_exact valid 0 _).2.1⟩

end History.Journal

end Telemetry
