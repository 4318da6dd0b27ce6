import Telemetry.Proofs.Intake.Effect

/-!
Accounts of every run of the intake.

Main statement: from the creation of an intake, or from the last time it was cleared, each
event taken in has met exactly one fate, and the counters are the numbers of the fates met.
-/

set_option autoImplicit false

namespace Telemetry

namespace Ingest

theorem processed_countStream (ingest : Ingest) (stream : Nat) :
    (ingest.countStream stream).processed = ingest.processed + 1 :=
  ingest.byStream.sum_count stream

def ofStream (ingest : Ingest) (stream : Nat) : Nat := (ingest.byStream.get? stream).getD 0

theorem ofStream_countStream (ingest : Ingest) (stream other : Nat) :
    (ingest.countStream stream).ofStream other =
      ingest.ofStream other + if stream = other then 1 else 0 := by
  rw [ofStream, countStream, Table.get?_update]
  by_cases same : stream = other
  · subst same
    simp [ofStream]
  · simp [ofStream, same, Ne.symm same]

end Ingest

namespace Intake

def take (intake : Intake) (arrival : Arrival) : Intake :=
  intake.process arrival.stream arrival.envelope arrival.now

def run (intake : Intake) (arrivals : List Arrival) : Intake := arrivals.foldl take intake

theorem byStream_apply (intake : Intake) (arrival : Arrival) :
    (intake.apply arrival.stream arrival.envelope arrival.now).figures.ingest.byStream =
      (intake.figures.ingest.countStream arrival.stream).byStream :=
  congrArg Ledger.byStream (Figures.ledger_applyEvent intake.config
    (intake.figures.withIngest (·.countStream arrival.stream)) arrival)

theorem processed_apply (intake : Intake) (arrival : Arrival) :
    (intake.apply arrival.stream arrival.envelope arrival.now).figures.ingest.processed =
      intake.figures.ingest.processed + 1 := by
  rw [Ingest.processed, byStream_apply]
  exact Ingest.processed_countStream _ _

/-- An intake that has taken in some events since it was empty. -/
structure Accounted (config : Config) (arrivals : List Arrival) (intake : Intake) : Prop where
  settings : intake.config = config
  processed : intake.counters.processed = arrivals.length
  total : intake.figures.ingest.processed = arrivals.length
  streams : ∀ stream, intake.figures.ingest.ofStream stream =
    arrivals.countP (·.stream = stream)
  counts : ∀ id, intake.figures.countsOf id =
    .ofFates config.maxCrashes id (arrivals.map (fateOf config))
  tallies : intake.figures.tallies = .ofFates (arrivals.map (fateOf config))

theorem accounted_clear (live : Intake) : Accounted live.config [] live.clear where
  settings := rfl
  processed := rfl
  total := rfl
  streams _ := rfl
  counts _ := (AppCounts.ofFates_nil _ _).symm
  tallies := rfl

theorem accounted_create (config : Config) : Accounted config [] (create config) :=
  accounted_clear (create config)

section
variable {config : Config} {arrivals : List Arrival} {intake : Intake}

theorem Accounted.take (accounted : Accounted config arrivals intake) (arrival : Arrival) :
    Accounted config (arrivals ++ [arrival]) (intake.take arrival) := by
  have same := accounted.settings
  subst same
  -- The stream is counted first, and the fate settles on top of it.
  let counted := intake.figures.withIngest (·.countStream arrival.stream)
  have settled := Figures.ledger_applyEvent intake.config counted arrival
  have streams := byStream_apply (intake.count arrival.envelope.event.kind) arrival
  constructor
  case settings => rfl
  case processed =>
    rw [List.length_append, List.length_singleton, ← accounted.processed]
    rfl
  case total =>
    rw [List.length_append, List.length_singleton, ← accounted.total]
    exact processed_apply _ arrival
  case streams =>
    intro stream
    have one := Ingest.ofStream_countStream intake.figures.ingest arrival.stream stream
    rw [accounted.streams] at one
    rw [List.countP_append, List.countP_singleton]
    simp only [decide_eq_true_eq]
    rw [← one]
    exact congrArg (fun table => (table.get? stream).getD 0) streams
  case counts =>
    intro id
    rw [List.map_append, List.map_singleton, AppCounts.ofFates_concat, ← accounted.counts]
    exact congrFun (congrArg Ledger.counts settled) id
  case tallies =>
    rw [List.map_append, List.map_singleton, Tallies.ofFates_concat, ← accounted.tallies]
    exact congrArg Ledger.tallies settled

theorem Accounted.run (accounted : Accounted config arrivals intake) (more : List Arrival) :
    Accounted config (arrivals ++ more) (intake.run more) := by
  -- By induction on what is still to come; what has come already stands in front of it.
  induction more generalizing arrivals intake with
  | nil => simpa [Intake.run] using accounted
  | cons arrival rest ih =>
    have later := ih (accounted.take arrival)
    rwa [List.append_assoc] at later

end

/-- Every event meets one fate, and every counter is the number of events that met its fates.
Of the crashes reported the last are remembered. -/
theorem accounting_exact (config : Config) (start : Intake) (arrivals : List Arrival)
    (fresh : start = create config ∨ ∃ live : Intake, live.config = config ∧ start = live.clear) :
    let after := start.run arrivals
    let ingest := after.figures.ingest
    let counts := after.figures.countsOf
    let fates := arrivals.map (fateOf config)
    (∀ arrival fate, fateOf config arrival = fate ↔ Meets config arrival fate) ∧
    after.counters.processed = arrivals.length ∧ ingest.processed = arrivals.length ∧
    (∀ stream, ingest.ofStream stream = arrivals.countP (·.stream = stream)) ∧
    (∀ app i, (counts app).requests i = fates.countP (·.isRequest app i)) ∧
    (∀ app i statusClass,
      (counts app).classes i statusClass = fates.count (.request app i statusClass)) ∧
    (∀ app i stream, (counts app).lines i stream = fates.count (.containerLine app i stream)) ∧
    (∀ app stream,
      (counts app).platformLines stream = fates.countP (·.isPlatformLine app stream)) ∧
    (∀ app, (counts app).crashCount = (fates.filterMap (·.crashOf? app)).length ∧
      (counts app).crashes = (fates.filterMap (·.crashOf? app)).rtake config.maxCrashes) ∧
    ingest.serverLeg = fates.count .serverLeg ∧
    ingest.statusOutOfRange = fates.countP (·.isOddStatus) ∧
    ingest.malformed = fates.count .malformed ∧ ingest.unknown = fates.count .unknown ∧
    ingest.ignoredLines = fates.count .ignoredLine ∧
    ingest.unknownGauges = fates.count .unknownGauge ∧
    ingest.ignoredCounters = fates.count .ignoredCounter := by
  intro after ingest counts fates
  -- A clear leaves nothing counted, as the creation does, so no event is accounted for at the
  -- start.
  have accounted : Accounted config arrivals after := by
    rcases fresh with rfl | ⟨live, rfl, rfl⟩
    · exact (accounted_create config).run arrivals
    · exact (accounted_clear live).run arrivals
  have counted : ∀ app, counts app = .ofFates config.maxCrashes app fates := accounted.counts
  have tallied : after.figures.tallies = .ofFates fates := accounted.tallies
  refine ⟨fun _ => fateOf_eq_iff, accounted.processed, accounted.total, accounted.streams,
    ?_, ?_, ?_, ?_, ?_, ?_⟩
  · intro app i
    rw [counted]
    rfl
  · intro app i statusClass
    rw [counted]
    rfl
  · intro app i stream
    rw [counted]
    rfl
  · intro app stream
    rw [counted]
    rfl
  · intro app
    rw [counted]
    exact ⟨rfl, rfl⟩
  · injection tallied with leg odd malformed unknown lines gauges counters
    exact ⟨leg, odd, malformed, unknown, lines, gauges, counters⟩

/-- Three requests to a cleared intake: one that is counted, one as the server saw it, and one
of an instance beyond the limit. -/
theorem accounting_exact_requests :
    let request : HttpEvent :=
      { peer := some .client, status := 404, applicationId := some "app", instanceIndex := some 1 }
    let arrivals : List Arrival := [⟨0, { event := .http request }, 0⟩,
      ⟨1, { event := .http { request with peer := some .server } }, 0⟩,
      ⟨0, { event := .http { request with instanceIndex := some 10001 } }, 0⟩]
    let start := (create {}).clear
    let figures := (start.run arrivals).figures
    (start = create {} ∨ ∃ live : Intake, live.config = {} ∧ start = live.clear) ∧
      figures.ingest.processed = 3 ∧ (figures.countsOf "app").classes 1 .clientError = 1 ∧
      figures.ingest.serverLeg = 1 ∧ figures.ingest.malformed = 1 := by
  intro request arrivals start figures
  have fresh : start = create {} ∨ ∃ live : Intake, live.config = {} ∧ start = live.clear :=
    .inr ⟨create {}, rfl, rfl⟩
  obtain ⟨-, -, total, -, -, classes, -, -, -, leg, -, malformed, -⟩ :=
    accounting_exact {} start arrivals fresh
  refine ⟨fresh, ?_, ?_, ?_, ?_⟩
  · rw [total]
    rfl
  · rw [classes]
    decide +kernel
  · rw [leg]
    decide +kernel
  · rw [malformed]
    decide +kernel

end Intake

end Telemetry
