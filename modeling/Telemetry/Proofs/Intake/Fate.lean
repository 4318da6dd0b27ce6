import Telemetry.Intake

/-!
What an event comes to.

Each event that is taken in meets one fate: it is counted at an application, kept as a
reading, passed over for a stated reason, or rejected for want of a usable identity. `Meets`
states the conditions of each fate by themselves; `fateOf` decides between them.
-/

set_option autoImplicit false

namespace Telemetry

/-- An event with the stream it came on and the instant at which it was taken in. -/
structure Arrival where
  stream : Nat
  envelope : Envelope
  now : Instant

inductive Fate where
  | request (app : String) (index : Nat) (statusClass : StatusClass)
  | oddStatus (app : String) (index : Nat)
  | serverLeg
  | sample (app : String) (index : Nat)
  | containerLine (app : String) (index : Nat) (stream : LogStream)
  | platformLine (app : String) (stream : LogStream) (crash : Option Crash)
  | ignoredLine
  | gauge (ip : String)
  | unknownGauge
  | loss
  | ignoredCounter
  | unknown
  | malformed
  deriving DecidableEq

def StatusClass.Covers : StatusClass → Nat → Prop
  | success, status => 200 ≤ status ∧ status ≤ 299
  | redirect, status => 300 ≤ status ∧ status ≤ 399
  | clientError, status => 400 ≤ status ∧ status ≤ 499
  | serverError, status => 500 ≤ status ∧ status ≤ 599

theorem StatusClass.ofStatus?_eq_some_iff (status : Nat) (statusClass : StatusClass) :
    ofStatus? status = some statusClass ↔ statusClass.Covers status := by
  have ranges : ofStatus? status = some statusClass ↔
      status / 100 = 2 ∧ statusClass = success ∨ status / 100 = 3 ∧ statusClass = redirect ∨
      status / 100 = 4 ∧ statusClass = clientError ∨
      status / 100 = 5 ∧ statusClass = serverError := by
    unfold ofStatus?
    split <;> cases statusClass <;> simp_all
  -- A class is told by the hundreds of the status.
  rw [ranges]
  cases statusClass <;> simp [Covers] <;> omega

def HttpEvent.Names (limit : Nat) (event : HttpEvent) (app : String) (index : Nat) : Prop :=
  event.applicationId = some app ∧ app ≠ "" ∧ event.instanceIndex = some (index : Int) ∧
    index ≤ limit

def MetricEvent.Names (limit : Nat) (event : MetricEvent) (app : String) (index : Nat) : Prop :=
  event.applicationId = some app ∧ app ≠ "" ∧ event.instanceIndex = some (index : Int) ∧
    index ≤ limit

def LogEvent.NamesApp (event : LogEvent) (app : String) : Prop :=
  event.appId = some app ∧ app ≠ ""

def LogEvent.Names (limit : Nat) (event : LogEvent) (app : String) (index : Nat) : Prop :=
  event.NamesApp app ∧ (∃ text, event.sourceInstance = some text ∧
    decimalCount? (Text.trim text.toList) = some index) ∧ index ≤ limit

/-- The crash that a line reports, at the time its envelope gives. -/
def Arrival.report? (arrival : Arrival) (event : LogEvent) : Option Log.CrashReport :=
  Log.crashReport? event.message (arrival.envelope.timestamp.getD arrival.now)

/-- The conditions under which an event meets a fate. -/
inductive Meets (config : Config) (arrival : Arrival) : Fate → Prop where
  | request {event : HttpEvent} {app : String} {index : Nat} {statusClass : StatusClass} :
      arrival.envelope.event = .http event → event.peer = some .client →
      event.Names config.maxInstanceIndex app index → statusClass.Covers event.status →
      Meets config arrival (.request app index statusClass)
  | oddStatus {event : HttpEvent} {app : String} {index : Nat} :
      arrival.envelope.event = .http event → event.peer = some .client →
      event.Names config.maxInstanceIndex app index →
      (∀ statusClass : StatusClass, ¬ statusClass.Covers event.status) →
      Meets config arrival (.oddStatus app index)
  | serverLeg {event : HttpEvent} :
      arrival.envelope.event = .http event → event.peer ≠ some .client →
      Meets config arrival .serverLeg
  | anonymousRequest {event : HttpEvent} :
      arrival.envelope.event = .http event → event.peer = some .client →
      (∀ app index, ¬ event.Names config.maxInstanceIndex app index) →
      Meets config arrival .malformed
  | sample {event : MetricEvent} {app : String} {index : Nat} :
      arrival.envelope.event = .metric event →
      event.Names config.maxInstanceIndex app index →
      Meets config arrival (.sample app index)
  | anonymousSample {event : MetricEvent} :
      arrival.envelope.event = .metric event →
      (∀ app index, ¬ event.Names config.maxInstanceIndex app index) →
      Meets config arrival .malformed
  | containerLine {event : LogEvent} {app : String} {index : Nat} :
      arrival.envelope.event = .log event → Log.policyOf event.sourceType = .container →
      event.Names config.maxInstanceIndex app index →
      Meets config arrival (.containerLine app index event.stream)
  | anonymousContainerLine {event : LogEvent} :
      arrival.envelope.event = .log event → Log.policyOf event.sourceType = .container →
      (∀ app index, ¬ event.Names config.maxInstanceIndex app index) →
      Meets config arrival .malformed
  | platformLine {event : LogEvent} {app : String} :
      arrival.envelope.event = .log event → Log.policyOf event.sourceType = .nonContainer →
      event.NamesApp app → Meets config arrival (.platformLine app event.stream none)
  | anonymousPlatformLine {event : LogEvent} :
      arrival.envelope.event = .log event → Log.policyOf event.sourceType = .nonContainer →
      (∀ app, ¬ event.NamesApp app) → Meets config arrival .malformed
  | reportLine {event : LogEvent} {app : String} :
      arrival.envelope.event = .log event → Log.policyOf event.sourceType = .crashReport →
      event.NamesApp app →
      Meets config arrival
        (.platformLine app event.stream ((arrival.report? event).map (·.crash)))
  /-- The report itself names the application. -/
  | selfNamedReport {event : LogEvent} {report : Log.CrashReport} :
      arrival.envelope.event = .log event → Log.policyOf event.sourceType = .crashReport →
      (∀ app, ¬ event.NamesApp app) → arrival.report? event = some report →
      Meets config arrival (.platformLine report.appId event.stream (some report.crash))
  | anonymousReportLine {event : LogEvent} :
      arrival.envelope.event = .log event → Log.policyOf event.sourceType = .crashReport →
      (∀ app, ¬ event.NamesApp app) → arrival.report? event = none →
      Meets config arrival .malformed
  | ignoredLine {event : LogEvent} :
      arrival.envelope.event = .log event → Log.policyOf event.sourceType = .ignore →
      Meets config arrival .ignoredLine
  | gauge {event : GaugeEvent} :
      arrival.envelope.event = .gauge event → (Gauge.ofMetric? event.name).isSome →
      arrival.envelope.ip ≠ "" → Meets config arrival (.gauge arrival.envelope.ip)
  | gaugeNowhere {event : GaugeEvent} :
      arrival.envelope.event = .gauge event → (Gauge.ofMetric? event.name).isSome →
      arrival.envelope.ip = "" → Meets config arrival .malformed
  | unknownGauge {event : GaugeEvent} :
      arrival.envelope.event = .gauge event → Gauge.ofMetric? event.name = none →
      Meets config arrival .unknownGauge
  | loss {event : CounterEvent} :
      arrival.envelope.event = .counter event → event.name ∈ lossCounters →
      Meets config arrival .loss
  | ignoredCounter {event : CounterEvent} :
      arrival.envelope.event = .counter event → event.name ∉ lossCounters →
      Meets config arrival .ignoredCounter
  | unknown : arrival.envelope.event = .unknown → Meets config arrival .unknown

def HttpEvent.fate (config : Config) (event : HttpEvent) : Fate :=
  if event.clientObserved then
    match identity event.requiredApp event.requiredInstance config.maxInstanceIndex with
    | .error _ => .malformed
    | .ok (app, index) =>
      match StatusClass.ofStatus? event.status with
      | some statusClass => .request app index statusClass
      | none => .oddStatus app index
  else .serverLeg

def MetricEvent.fate (config : Config) (event : MetricEvent) : Fate :=
  match identity event.requiredApp event.requiredInstance config.maxInstanceIndex with
  | .error _ => .malformed
  | .ok (app, index) => .sample app index

def LogEvent.fate (config : Config) (report : Option Log.CrashReport) (event : LogEvent) : Fate :=
  match Log.policyOf event.sourceType with
  | .ignore => .ignoredLine
  | .container =>
    match identity event.requiredApp event.requiredInstance config.maxInstanceIndex with
    | .error _ => .malformed
    | .ok (app, index) => .containerLine app index event.stream
  | .nonContainer =>
    match event.requiredApp with
    | .error _ => .malformed
    | .ok app => .platformLine app event.stream none
  | .crashReport =>
    match event.requiredApp, report with
    | .ok app, report => .platformLine app event.stream (report.map (·.crash))
    | .error _, some report => .platformLine report.appId event.stream (some report.crash)
    | .error _, none => .malformed

def GaugeEvent.fate (ip : String) (event : GaugeEvent) : Fate :=
  if (Gauge.ofMetric? event.name).isNone then .unknownGauge
  else if ip = "" then .malformed
  else .gauge ip

def CounterEvent.fate (event : CounterEvent) : Fate :=
  if event.name ∈ lossCounters then .loss else .ignoredCounter

def fateOf (config : Config) (arrival : Arrival) : Fate :=
  match arrival.envelope.event with
  | .http event => event.fate config
  | .metric event => event.fate config
  | .log event => event.fate config (arrival.report? event)
  | .gauge event => event.fate arrival.envelope.ip
  | .counter event => event.fate
  | .unknown => .unknown

theorem nonEmpty_eq_ok_iff (field : String) (value : Option String) (text : String) :
    nonEmpty field value = .ok text ↔ value = some text ∧ text ≠ "" := by
  cases value with
  | none => simp [nonEmpty]
  | some other =>
    simp only [nonEmpty, Option.some.injEq]
    split
    · next empty =>
      constructor
      · intro impossible
        cases impossible
      · rintro ⟨rfl, filled⟩
        exact absurd empty filled
    · next filled =>
      constructor
      · intro same
        cases same
        exact ⟨rfl, filled⟩
      · rintro ⟨rfl, -⟩
        rfl

theorem instanceOf_eq_ok_iff (field : String) (value : Option Int) (index : Nat) :
    instanceOf field value = .ok index ↔ value = some (index : Int) := by
  cases value with
  | none => simp [instanceOf]
  | some other =>
    simp only [instanceOf, Option.some.injEq]
    split
    · next natural =>
      rw [Except.ok.injEq]
      omega
    · next negative =>
      constructor
      · intro impossible
        cases impossible
      · intro same
        omega

theorem identity_eq_ok_iff (app : Except EventError String) (index : Except EventError Nat)
    (limit : Nat) (name : String) (i : Nat) :
    identity app index limit = .ok (name, i) ↔ app = .ok name ∧ index = .ok i ∧ i ≤ limit := by
  cases app with
  | error => simp [identity, bind, Except.bind]
  | ok app =>
    cases index with
    | error => simp [identity, bind, Except.bind]
    | ok index =>
      by_cases bounded : index ≤ limit
      · simp only [identity, boundedInstance, bind, Except.bind, pure, Except.pure,
          if_pos bounded, Except.ok.injEq, Prod.mk.injEq]
        constructor
        · rintro ⟨rfl, rfl⟩
          exact ⟨rfl, rfl, bounded⟩
        · rintro ⟨app, index, -⟩
          exact ⟨app, index⟩
      · simp only [identity, boundedInstance, bind, Except.bind, if_neg bounded, Except.ok.injEq]
        constructor
        · intro impossible
          cases impossible
        · rintro ⟨-, rfl, within⟩
          exact absurd within bounded

theorem HttpEvent.identity_iff (event : HttpEvent) (limit : Nat) (app : String) (index : Nat) :
    identity event.requiredApp event.requiredInstance limit = .ok (app, index) ↔
      event.Names limit app index := by
  rw [identity_eq_ok_iff, requiredApp, requiredInstance, nonEmpty_eq_ok_iff,
    instanceOf_eq_ok_iff, and_assoc]
  rfl

theorem MetricEvent.identity_iff (event : MetricEvent) (limit : Nat) (app : String)
    (index : Nat) :
    identity event.requiredApp event.requiredInstance limit = .ok (app, index) ↔
      event.Names limit app index := by
  rw [identity_eq_ok_iff, requiredApp, requiredInstance, nonEmpty_eq_ok_iff,
    instanceOf_eq_ok_iff, and_assoc]
  rfl

theorem LogEvent.requiredApp_iff (event : LogEvent) (app : String) :
    event.requiredApp = .ok app ↔ event.NamesApp app :=
  nonEmpty_eq_ok_iff _ _ _

theorem LogEvent.requiredInstance_iff (event : LogEvent) (index : Nat) :
    event.requiredInstance = .ok index ↔ ∃ text, event.sourceInstance = some text ∧
      decimalCount? (Text.trim text.toList) = some index := by
  unfold requiredInstance
  cases event.sourceInstance with
  | none => simp
  | some text => cases parsed : decimalCount? (Text.trim text.toList) <;> simp [parsed]

theorem LogEvent.identity_iff (event : LogEvent) (limit : Nat) (app : String) (index : Nat) :
    identity event.requiredApp event.requiredInstance limit = .ok (app, index) ↔
      event.Names limit app index := by
  rw [identity_eq_ok_iff, requiredApp_iff, requiredInstance_iff]
  rfl

theorem not_of_eq_error {α : Type} {result : Except EventError α} {error : EventError}
    (failed : result = .error error) (value : α) : result ≠ .ok value := by
  rw [failed]
  intro impossible
  cases impossible

theorem eq_error_of_not {α : Type} {result : Except EventError α}
    (never : ∀ value, result ≠ .ok value) : ∃ error, result = .error error := by
  cases result with
  | error error => exact ⟨error, rfl⟩
  | ok value => exact absurd rfl (never value)

section
variable {config : Config} {arrival : Arrival}

theorem meets_http {event : HttpEvent} (http : arrival.envelope.event = .http event) :
    Meets config arrival (event.fate config) := by
  -- The conditions are asked in the order in which the fate is decided.
  unfold HttpEvent.fate
  by_cases client : event.clientObserved = true
  · have peer : event.peer = some .client := by simpa [HttpEvent.clientObserved] using client
    rw [if_pos client]
    split
    · next error failed =>
      apply Meets.anonymousRequest http peer
      intro app index named
      exact not_of_eq_error failed _ ((event.identity_iff _ app index).mpr named)
    · next app index found =>
      have named := (event.identity_iff _ app index).mp found
      split
      · next statusClass covered =>
        exact .request http peer named ((StatusClass.ofStatus?_eq_some_iff _ _).mp covered)
      · next none =>
        refine .oddStatus http peer named ?_
        intro statusClass covers
        rw [(StatusClass.ofStatus?_eq_some_iff _ _).mpr covers] at none
        cases none
  · rw [if_neg client]
    exact .serverLeg http (by simpa [HttpEvent.clientObserved] using client)

theorem meets_metric {event : MetricEvent} (metric : arrival.envelope.event = .metric event) :
    Meets config arrival (event.fate config) := by
  unfold MetricEvent.fate
  split
  · next error failed =>
    apply Meets.anonymousSample metric
    intro app index named
    exact not_of_eq_error failed _ ((event.identity_iff _ app index).mpr named)
  · next app index found => exact .sample metric ((event.identity_iff _ app index).mp found)

theorem meets_log {event : LogEvent} (log : arrival.envelope.event = .log event) :
    Meets config arrival (event.fate config (arrival.report? event)) := by
  have unnamed : ∀ {error}, event.requiredApp = .error error → ∀ app, ¬ event.NamesApp app :=
    fun failed app named => not_of_eq_error failed _ ((event.requiredApp_iff app).mpr named)
  unfold LogEvent.fate
  split
  · next policy => exact .ignoredLine log policy
  · next policy =>
    split
    · next error failed =>
      apply Meets.anonymousContainerLine log policy
      intro app index named
      exact not_of_eq_error failed _ ((event.identity_iff _ app index).mpr named)
    · next app index found =>
      exact .containerLine log policy ((event.identity_iff _ app index).mp found)
  · next policy =>
    split
    · next error failed => exact .anonymousPlatformLine log policy (unnamed failed)
    · next app found => exact .platformLine log policy ((event.requiredApp_iff app).mp found)
  · next policy =>
    split
    · next app found => exact .reportLine log policy ((event.requiredApp_iff app).mp found)
    -- Only a report may name the application where its line does not.
    · next failed report => exact .selfNamedReport log policy (unnamed failed) report
    · next failed none => exact .anonymousReportLine log policy (unnamed failed) none

theorem meets_gauge {event : GaugeEvent} (gauge : arrival.envelope.event = .gauge event) :
    Meets config arrival (event.fate arrival.envelope.ip) := by
  unfold GaugeEvent.fate
  split
  · next none => exact .unknownGauge gauge (by simpa using none)
  · next known =>
    have known : (Gauge.ofMetric? event.name).isSome := by
      simpa [Option.isSome_iff_ne_none] using known
    split
    · next nowhere => exact .gaugeNowhere gauge known nowhere
    · next somewhere => exact .gauge gauge known somewhere

theorem meets_fateOf (config : Config) (arrival : Arrival) :
    Meets config arrival (fateOf config arrival) := by
  unfold fateOf
  split
  · next http => exact meets_http http
  · next metric => exact meets_metric metric
  · next log => exact meets_log log
  · next gauge => exact meets_gauge gauge
  · next event counter =>
    unfold CounterEvent.fate
    split
    · next loss => exact .loss counter loss
    · next other => exact .ignoredCounter counter other
  · next unknown => exact .unknown unknown

theorem fateOf_of_meets {fate : Fate} (meets : Meets config arrival fate) :
    fateOf config arrival = fate := by
  -- The conditions of a fate decide every test on the way to it.
  cases meets with
  | @request event app index statusClass http peer named covers =>
    have found := (event.identity_iff _ app index).mpr named
    have covered := (StatusClass.ofStatus?_eq_some_iff _ _).mpr covers
    simp [fateOf, http, HttpEvent.fate, HttpEvent.clientObserved, peer, found, covered]
  | @oddStatus event app index http peer named odd =>
    have found := (event.identity_iff _ app index).mpr named
    have covered : StatusClass.ofStatus? event.status = none := by
      apply Option.eq_none_iff_forall_ne_some.mpr
      intro statusClass classed
      exact odd statusClass ((StatusClass.ofStatus?_eq_some_iff _ _).mp classed)
    simp [fateOf, http, HttpEvent.fate, HttpEvent.clientObserved, peer, found, covered]
  | serverLeg http peer =>
    simp [fateOf, http, HttpEvent.fate, HttpEvent.clientObserved, peer]
  | @anonymousRequest event http peer anonymous =>
    obtain ⟨error, failed⟩ := eq_error_of_not fun (app, index) found =>
      anonymous app index ((event.identity_iff _ app index).mp found)
    simp [fateOf, http, HttpEvent.fate, HttpEvent.clientObserved, peer, failed]
  | @sample event app index metric named =>
    have found := (event.identity_iff _ app index).mpr named
    simp [fateOf, metric, MetricEvent.fate, found]
  | @anonymousSample event metric anonymous =>
    obtain ⟨error, failed⟩ := eq_error_of_not fun (app, index) found =>
      anonymous app index ((event.identity_iff _ app index).mp found)
    simp [fateOf, metric, MetricEvent.fate, failed]
  | @containerLine event app index log policy named =>
    have found := (event.identity_iff _ app index).mpr named
    simp [fateOf, log, LogEvent.fate, policy, found]
  | @anonymousContainerLine event log policy anonymous =>
    obtain ⟨error, failed⟩ := eq_error_of_not fun (app, index) found =>
      anonymous app index ((event.identity_iff _ app index).mp found)
    simp [fateOf, log, LogEvent.fate, policy, failed]
  | @platformLine event app log policy named =>
    have found := (event.requiredApp_iff app).mpr named
    simp [fateOf, log, LogEvent.fate, policy, found]
  | @anonymousPlatformLine event log policy anonymous =>
    obtain ⟨error, failed⟩ := eq_error_of_not fun app found =>
      anonymous app ((event.requiredApp_iff app).mp found)
    simp [fateOf, log, LogEvent.fate, policy, failed]
  | @reportLine event app log policy named =>
    have found := (event.requiredApp_iff app).mpr named
    simp [fateOf, log, LogEvent.fate, policy, found]
  | @selfNamedReport event report log policy anonymous reported =>
    obtain ⟨error, failed⟩ := eq_error_of_not fun app found =>
      anonymous app ((event.requiredApp_iff app).mp found)
    simp [fateOf, log, LogEvent.fate, policy, failed, reported]
  | @anonymousReportLine event log policy anonymous silent =>
    obtain ⟨error, failed⟩ := eq_error_of_not fun app found =>
      anonymous app ((event.requiredApp_iff app).mp found)
    simp [fateOf, log, LogEvent.fate, policy, failed, silent]
  | ignoredLine log policy => simp [fateOf, log, LogEvent.fate, policy]
  | gauge gauge known somewhere =>
    simp [fateOf, gauge, GaugeEvent.fate, Option.isSome_iff_ne_none.mp known, somewhere]
  | gaugeNowhere gauge known nowhere =>
    simp [fateOf, gauge, GaugeEvent.fate, Option.isSome_iff_ne_none.mp known, nowhere]
  | unknownGauge gauge none => simp [fateOf, gauge, GaugeEvent.fate, none]
  | loss counter loss => simp [fateOf, counter, CounterEvent.fate, loss]
  | ignoredCounter counter other => simp [fateOf, counter, CounterEvent.fate, other]
  | unknown unknown => simp [fateOf, unknown]

theorem fateOf_eq_iff (fate : Fate) :
    fateOf config arrival = fate ↔ Meets config arrival fate := by
  constructor
  · intro same
    rw [← same]
    exact meets_fateOf config arrival
  · exact fateOf_of_meets

end

end Telemetry
