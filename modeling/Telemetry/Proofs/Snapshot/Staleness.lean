import Telemetry.Proofs.Intake.Accounting
import Telemetry.Proofs.Snapshot.View

/-!
Which containers a view leaves out for their silence.

The threshold that a view goes by is the span that is set, as long as that can be compared with an
age; a longer one counts as a year. Main statement: to set a longer span never hides more, and
what is hidden has really been silent for longer than what is set, exactly as long as the spans
that are set stay clear of that.
-/

set_option autoImplicit false

namespace Telemetry

/-! ### Reading the span -/

namespace Config

theorem staleAfter_of_ofEntries? {entries : Toml.Entries} {config : Config}
    (read : ofEntries? entries = some config) :
    ∃ seconds : Nat, config.staleAfter = .ofSeconds seconds ∧
      (entries.get? "stale_container_threshold" = some (.int seconds) ∨
        entries.get? "stale_container_threshold" = none ∧ seconds = 80) := by
  simp only [ofEntries?, Option.bind_eq_bind, Option.bind_eq_some_iff] at read
  -- Of the settings only the first to be read matters here.
  obtain ⟨span, given, _, -, _, -, _, -, _, -, _, -, _, -, _, -, _, -, made⟩ := read
  obtain rfl := Option.some.inj made
  cases found : entries.get? "stale_container_threshold" with
  | none =>
    rw [found] at given
    exact ⟨80, (Option.some.inj given).symm, .inr ⟨rfl, rfl⟩⟩
  | some value =>
    rw [found] at given
    obtain ⟨seconds, natural, rfl⟩ := Option.map_eq_some_iff.mp given
    refine ⟨seconds, rfl, .inl ?_⟩
    cases value with
    | int n =>
      simp only [nat?] at natural
      split at natural
      · next positive =>
        obtain rfl := Option.some.inj natural
        rw [Int.toNat_of_nonneg positive]
      · cases natural
    | _ => cases natural

theorem pos_of_check {config checked : Config} (passed : config.check = .ok checked) :
    checked = config ∧ 0 < config.staleAfter := by
  unfold check at passed
  split at passed
  · cases passed
  · next none =>
    cases passed
    have first := List.find?_eq_none.mp none _ (.head _)
    exact ⟨rfl, Nat.pos_of_ne_zero (by simpa [Requirement.holds] using first)⟩

theorem staleAfter_of_ofToml {text : String} {config : Config}
    (accepted : ofToml text = .ok config) :
    ∃ entries, ∃ seconds : Nat, Toml.ofText? text = some entries ∧ 0 < seconds ∧
      config.staleAfter = .ofSeconds seconds ∧
      (entries.get? "stale_container_threshold" = some (.int seconds) ∨
        entries.get? "stale_container_threshold" = none ∧ seconds = 80) := by
  unfold ofToml at accepted
  split at accepted
  · next read found =>
    obtain ⟨rfl, positive⟩ := pos_of_check accepted
    obtain ⟨entries, parsed, read⟩ := Option.bind_eq_some_iff.mp found
    obtain ⟨seconds, span, given⟩ := staleAfter_of_ofEntries? read
    refine ⟨entries, seconds, parsed, ?_, span, given⟩
    rw [span] at positive
    exact Nat.pos_of_mul_pos_right positive
  · cases accepted

/-! ### The span and the threshold -/

/-- What a span counts as that cannot be compared with an age: a year of 52 weeks. -/
def fallbackAge : Span := .ofSeconds (52 * 7 * 86400)

theorem fallbackAge_lt_longestAge : fallbackAge < longestAge := by decide

theorem longestAge_iff (seconds : Nat) :
    .ofSeconds seconds ≤ longestAge ↔ seconds ≤ 9223372036854775 := by
  show seconds * 1000000000 ≤ (2 ^ 63 - 1) * 1000000 ↔ seconds ≤ 9223372036854775
  omega

theorem staleThreshold_eq (config : Config) : config.staleThreshold =
    if config.staleAfter ≤ longestAge then config.staleAfter else fallbackAge := rfl

def staleAt (config : Config) (span : Span) : Config := { config with staleAfter := span }

theorem staleAfter_le_staleThreshold_iff (config : Config) :
    config.staleAfter ≤ config.staleThreshold ↔ config.staleAfter ≤ longestAge := by
  rw [staleThreshold_eq]
  split
  · next within => exact iff_of_true (Nat.le_refl _) within
  · next beyond =>
    refine iff_of_false (fun covered => beyond ?_) beyond
    exact Nat.le_trans covered (Nat.le_of_lt fallbackAge_lt_longestAge)

theorem staleThreshold_le_staleAt_iff {config : Config} {span : Span}
    (longer : config.staleAfter ≤ span) :
    config.staleThreshold ≤ (config.staleAt span).staleThreshold ↔
      span ≤ longestAge ∨ longestAge < config.staleAfter ∨ config.staleAfter ≤ fallbackAge := by
  have given : (config.staleAt span).staleAfter = span := rfl
  rw [staleThreshold_eq, staleThreshold_eq, given]
  by_cases far : span ≤ longestAge
  · rw [if_pos far, if_pos (Nat.le_trans longer far)]
    exact iff_of_true longer (.inl far)
  · rw [if_neg far]
    split
    · next within =>
      constructor
      · exact fun covered => .inr (.inr covered)
      · rintro (near | beyond | covered)
        · exact absurd near far
        · exact absurd within (Nat.not_le_of_lt beyond)
        · exact covered
    · next beyond => exact iff_of_true (Nat.le_refl _) (.inr (.inl (Nat.lt_of_not_le beyond)))

end Config

/-! ### Views under different settings -/

def Figures.container? (figures : Figures) (id : String) (i : Nat) : Option Container :=
  (figures.apps.get? id).bind (·.container? i)

theorem Figures.container?_finalize (figures : Figures) (now : Instant) (threshold : Int)
    (id : String) (i : Nat) : (figures.finalize now threshold).container? id i =
      (figures.container? id i).filter (·.recent now threshold) := by
  unfold container? finalize
  rw [Table.get?_map]
  cases figures.apps.get? id with
  | none => rfl
  | some app => exact app.container?_finalizeApp now threshold i

namespace Config

/-- The live figures after some events. -/
def liveAfter (config : Config) (arrivals : List Arrival) : Figures :=
  ((Intake.create config).run arrivals).figures

/-- The figures that are displayed when a view is taken after some events. -/
def viewAfter (config : Config) (arrivals : List Arrival) (created now : Instant) : Figures :=
  ((Board.create config created).take ((Intake.create config).run arrivals) now).displayed.figures

section
variable (config : Config) (arrivals : List Arrival) (created now : Instant) (id : String) (i : Nat)

theorem container?_viewAfter :
    (config.viewAfter arrivals created now).container? id i =
      ((config.liveAfter arrivals).container? id i).filter (·.recent now config.staleThreshold) :=
  Figures.container?_finalize _ now config.staleThreshold id i

theorem run_staleAt (intake : Intake) (span : Span) :
    ({ intake with config := intake.config.staleAt span }.run arrivals).figures =
      (intake.run arrivals).figures := by
  induction arrivals generalizing intake with
  | nil => rfl
  | cons arrival rest ih => exact ih (intake.take arrival)

theorem liveAfter_staleAt (span : Span) :
    (config.staleAt span).liveAfter arrivals = config.liveAfter arrivals :=
  run_staleAt arrivals (Intake.create config) span

end

def oneSample : Arrival :=
  ⟨0, { event := .metric { applicationId := some "app", instanceIndex := some 0 } }, 0⟩

theorem liveAfter_oneSample (config : Config) : ∃ container,
    (config.liveAfter [oneSample]).container? "app" 0 = some container ∧
      container.lastUpdate = 0 := by
  let event : MetricEvent := { applicationId := some "app", instanceIndex := some 0 }
  have identified : identity event.requiredApp event.requiredInstance config.maxInstanceIndex =
      .ok ("app", 0) :=
    (event.identity_iff _ _ _).mpr ⟨rfl, by decide, rfl, Nat.zero_le _⟩
  have applied : config.liveAfter [oneSample] =
      ((Figures.create config.routes).withIngest (·.countStream 0)).updateApp "app" 0
        (·.updateContainer 0 0 (·.observe event.sample none 0)) := by
    show ((Figures.create config.routes).withIngest (·.countStream 0)).applyMetric config ""
      event 0 = _
    unfold Figures.applyMetric
    rw [identified]
    rfl
  rw [applied]
  exact ⟨_, rfl, rfl⟩

/-- Every container that views under one setting show, views under the other show as well. -/
def ShownUnder (config other : Config) : Prop :=
  ∀ arrivals created now id i,
    ((config.viewAfter arrivals created now).container? id i).isSome →
      ((other.viewAfter arrivals created now).container? id i).isSome

/-- A container is left out only if it has been silent for longer than what is set. -/
def HidesSilent (config : Config) : Prop :=
  ∀ arrivals created now id i container,
    (config.liveAfter arrivals).container? id i = some container →
    (config.viewAfter arrivals created now).container? id i = none →
      config.staleAfter < now - container.lastUpdate

theorem isSome_filter_recent (container : Container) (now : Instant) (threshold : Int) :
    ((some container).filter (·.recent now threshold)).isSome ↔
      now - container.lastUpdate ≤ threshold := by
  simp [Option.filter, Container.recent]

theorem shownUnder_staleAt_iff (config : Config) (span : Span) :
    ShownUnder config (config.staleAt span) ↔
      config.staleThreshold ≤ (config.staleAt span).staleThreshold := by
  constructor
  · intro shown
    obtain ⟨container, found, sampled⟩ := config.liveAfter_oneSample
    have aged := shown [oneSample] 0 config.staleThreshold "app" 0
    rw [container?_viewAfter, container?_viewAfter, liveAfter_staleAt, found,
      isSome_filter_recent, isSome_filter_recent, sampled, Int.sub_zero] at aged
    exact Int.ofNat_le.mp (aged (Int.le_refl _))
  · intro longer arrivals created now id i
    rw [container?_viewAfter, container?_viewAfter, liveAfter_staleAt]
    cases (config.liveAfter arrivals).container? id i with
    | none => exact fun absent => absent
    | some container =>
      rw [isSome_filter_recent, isSome_filter_recent]
      exact fun recent => Int.le_trans recent (Int.ofNat_le.mpr longer)

theorem hidesSilent_iff (config : Config) :
    config.HidesSilent ↔ config.staleAfter ≤ config.staleThreshold := by
  have hidden : ∀ (container : Container) (now : Instant),
      (some container).filter (·.recent now config.staleThreshold) = none ↔
        config.staleThreshold < now - container.lastUpdate := by
    intro container now
    rw [← Option.not_isSome_iff_eq_none, isSome_filter_recent, Int.not_le]
  constructor
  · intro silent
    obtain ⟨container, found, sampled⟩ := config.liveAfter_oneSample
    have aged := silent [oneSample] 0 (config.staleThreshold + 1) "app" 0 container found
    rw [container?_viewAfter, found, hidden, sampled, Int.sub_zero] at aged
    exact Int.ofNat_le.mp (Int.le_of_lt_add_one (aged (Int.lt_succ _)))
  · intro covered arrivals created now id i container found absent
    rw [container?_viewAfter, found, hidden] at absent
    exact Int.lt_of_le_of_lt (Int.ofNat_le.mpr covered) absent

/-- To set a longer span never hides more, unless the longer one cannot be compared with an age and
the shorter one, which can, is longer than a year of 52 weeks. What is hidden has been silent for
longer than what is set exactly when that can be compared with an age: when a document that is
accepted sets 9223372036854775 seconds or less. -/
theorem staleness_exact (config : Config) :
    (∀ span, config.staleAfter ≤ span → (ShownUnder config (config.staleAt span) ↔
      span ≤ longestAge ∨ longestAge < config.staleAfter ∨ config.staleAfter ≤ fallbackAge)) ∧
    (config.HidesSilent ↔ config.staleAfter ≤ longestAge) ∧
    ∀ text, ofToml text = .ok config → ∃ entries, ∃ seconds : Nat,
      Toml.ofText? text = some entries ∧ 0 < seconds ∧ config.staleAfter = .ofSeconds seconds ∧
      (entries.get? "stale_container_threshold" = some (.int seconds) ∨
        entries.get? "stale_container_threshold" = none ∧ seconds = 80) ∧
      (config.HidesSilent ↔ seconds ≤ 9223372036854775) := by
  have silent : config.HidesSilent ↔ config.staleAfter ≤ longestAge :=
    config.hidesSilent_iff.trans config.staleAfter_le_staleThreshold_iff
  refine ⟨?_, silent, ?_⟩
  · intro span longer
    rw [shownUnder_staleAt_iff, staleThreshold_le_staleAt_iff longer]
  · intro text accepted
    obtain ⟨entries, seconds, parsed, positive, span, given⟩ := staleAfter_of_ofToml accepted
    refine ⟨entries, seconds, parsed, positive, span, given, ?_⟩
    rw [silent, span, longestAge_iff]

/-- A container that was sampled once and is looked at after 32000000 seconds, more than a year: it
is shown if 40000000 seconds are set, and left out if more are set than any age can have. -/
theorem staleness_year :
    let short : Config := { staleAfter := .ofSeconds 40000000 }
    let long : Config := { staleAfter := .ofSeconds 9223372036854776 }
    let now : Instant := Span.ofSeconds 32000000
    ofToml "stale_container_threshold = 40000000" = .ok short ∧
      ofToml "stale_container_threshold = 9223372036854776" = .ok long ∧
      long = short.staleAt long.staleAfter ∧ short.staleAfter ≤ long.staleAfter ∧
      ((short.viewAfter [oneSample] 0 now).container? "app" 0).isSome = true ∧
      (long.viewAfter [oneSample] 0 now).container? "app" 0 = none ∧
      now < long.staleAfter := by
  decide +kernel

end Config

end Telemetry
