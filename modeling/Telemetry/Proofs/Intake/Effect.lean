import Telemetry.Proofs.Intake.Ledger
import Telemetry.Proofs.Table

/-!
What one event does to the counts and the tallies.
-/

set_option autoImplicit false

namespace Telemetry

namespace App

def counts (app : App) : AppCounts where
  requests i := (app.traffic? i).elim 0 (·.requests)
  classes i statusClass := (app.traffic? i).elim 0 (·.classes.get statusClass)
  lines i stream := (app.container? i).elim 0 (·.lines.get stream)
  platformLines := app.platformLines.get
  crashCount := app.crashCount
  crashes := app.crashes

theorem counts_create (id : String) (now : Instant) : (create id now).counts = {} := by
  ext <;> simp [counts, create, traffic?, container?, Slots.get?]

theorem container?_updateContainer (app : App) (i j : Nat) (now : Instant)
    (change : Container → Container) :
    (app.updateContainer i now change).container? j =
      if i = j then some (change ((app.container? i).getD (.create i now)))
      else app.container? j :=
  Slots.get?_update app.containers i j _ change

theorem traffic?_recordRequest (app : App) (i j latency status : Nat) (now : Instant) :
    (app.recordRequest i latency status now).2.traffic? j =
      if i = j then
        let before := (app.traffic? i).getD (.create now)
        some ((before.record? latency status now).getD before)
      else app.traffic? j :=
  Slots.get?_update app.traffic i j _ _

section
variable (app : App) (limit : Nat) (name : String) (i : Nat) (now : Instant)

theorem counts_observe (sample : ResourceSample) (cell : Option String) :
    (app.updateContainer i now (·.observe sample cell now)).counts =
      app.counts.settle limit name (.sample name i) := by
  -- A change that leaves the lines of a container alone leaves every count alone.
  ext
  case lines j stream =>
    simp only [counts, AppCounts.settle, container?_updateContainer]
    by_cases same : i = j
    · subst same
      cases app.container? i <;> simp [Container.observe, Container.create]
    · simp [same]
  all_goals rfl

theorem counts_recordLine (stream : LogStream) :
    (app.updateContainer i now (·.recordLine stream)).counts =
      app.counts.settle limit name (.containerLine name i stream) := by
  ext
  case lines j other =>
    simp only [counts, AppCounts.settle, container?_updateContainer]
    by_cases same : i = j
    · subst same
      cases app.container? i <;>
        simp [Container.recordLine, Container.create, LineCounts.get_bump]
    · simp [same]
  all_goals rfl

theorem counts_recordRequest (latency status : Nat) :
    (app.recordRequest i latency status now).2.counts =
      app.counts.settle limit name
        ((StatusClass.ofStatus? status).elim (.oddStatus name i) (.request name i)) := by
  ext
  case requests j =>
    simp only [counts, AppCounts.settle, traffic?_recordRequest]
    by_cases same : i = j
    · subst same
      -- The place is filled for a status without a class too, but counts nothing then.
      cases app.traffic? i <;> cases classed : StatusClass.ofStatus? status <;>
        simp [Traffic.record?, Traffic.create, classed, Fate.isRequest]
    · cases StatusClass.ofStatus? status <;> simp [same, Fate.isRequest]
  case classes j statusClass =>
    simp only [counts, AppCounts.settle, traffic?_recordRequest]
    by_cases same : i = j
    · subst same
      cases app.traffic? i <;> cases classed : StatusClass.ofStatus? status <;>
        simp [Traffic.record?, Traffic.create, classed, ClassCounts.get_bump]
    · cases StatusClass.ofStatus? status <;> simp [same]
  all_goals cases StatusClass.ofStatus? status <;> rfl

theorem counts_recordPlatformLine (stream : LogStream) :
    (app.recordPlatformLine stream).counts =
      app.counts.settle limit name (.platformLine name stream none) := by
  ext
  case platformLines other =>
    simp [counts, AppCounts.settle, recordPlatformLine, LineCounts.get_bump, Fate.isPlatformLine]
  all_goals simp [counts, AppCounts.settle, recordPlatformLine, Fate.isRequest, Fate.crashOf?,
    remember, traffic?, container?]

theorem counts_addCrash (crash : Crash) :
    (app.addCrash crash limit).counts =
      { app.counts with
        crashCount := app.counts.crashCount + 1
        crashes := remember limit app.counts.crashes (some crash) } := by
  have kept : (app.addCrash crash limit).crashes = remember limit app.crashes (some crash) := by
    by_cases without : limit = 0
    · simp [addCrash, remember, without]
    -- What is dropped lies within the old crashes, since the new one may be kept.
    · have first : app.crashes.length + 1 - limit ≤ app.crashes.length := by omega
      simp [addCrash, remember, without, List.rtake, List.drop_append_of_le_length first]
  ext
  case crashes => rw [counts, kept]; rfl
  all_goals rfl

theorem counts_recordReport (stream : LogStream) (crash : Crash) :
    ((app.recordPlatformLine stream).addCrash crash limit).counts =
      app.counts.settle limit name (.platformLine name stream (some crash)) := by
  rw [counts_addCrash, counts_recordPlatformLine app limit name]
  simp [AppCounts.settle, Fate.crashOf?, Fate.isRequest, Fate.isPlatformLine, remember]

end

end App

def Fate.app? : Fate → Option String
  | request app _ _ | oddStatus app _ | sample app _ | containerLine app _ _
  | platformLine app _ _ => some app
  | _ => none

theorem AppCounts.settle_elsewhere {fate : Fate} {app : String} (elsewhere : fate.app? ≠ some app)
    (limit : Nat) (counts : AppCounts) : counts.settle limit app fate = counts := by
  cases fate <;> simp_all [Fate.app?, settle, Fate.isRequest, Fate.isPlatformLine, Fate.crashOf?,
    remember]

namespace Figures

/-- What is counted of an application; one that was never heard of counts nothing. -/
def countsOf (figures : Figures) (id : String) : AppCounts :=
  (figures.apps.get? id).elim {} App.counts

def tallies (figures : Figures) : Tallies where
  serverLeg := figures.ingest.serverLeg
  statusOutOfRange := figures.ingest.statusOutOfRange
  malformed := figures.ingest.malformed
  unknown := figures.ingest.unknown
  ignoredLines := figures.ingest.ignoredLines
  unknownGauges := figures.ingest.unknownGauges
  ignoredCounters := figures.ingest.ignoredCounters

def ledger (figures : Figures) : Ledger :=
  ⟨figures.ingest.byStream, figures.countsOf, figures.tallies⟩

theorem counts_getD (figures : Figures) (id : String) (now : Instant) :
    ((figures.apps.get? id).getD (.create id now)).counts = figures.countsOf id := by
  unfold countsOf
  cases figures.apps.get? id with
  | none => exact App.counts_create id now
  | some app => rfl

theorem countsOf_changed {figures after : Figures} {id : String} {now : Instant}
    {change : App → App} {limit : Nat} {fate : Fate}
    (placed : ∀ other, after.apps.get? other =
      if other = id then some (change ((figures.apps.get? id).getD (.create id now)))
      else figures.apps.get? other)
    (here : fate.app? = some id)
    (changed : ∀ app : App, (change app).counts = app.counts.settle limit id fate)
    (other : String) :
    after.countsOf other = (figures.countsOf other).settle limit other fate := by
  -- A change of one application that is counted as a fate says is counted so everywhere.
  rw [countsOf, placed other]
  by_cases same : other = id
  · subst same
    rw [if_pos rfl, Option.elim_some, changed, counts_getD]
  · rw [if_neg same, AppCounts.settle_elsewhere (by simpa [here] using Ne.symm same)]
    rfl

theorem countsOf_unchanged {figures after : Figures} {fate : Fate}
    (apps : after.apps = figures.apps) (nowhere : fate.app? = none) (limit : Nat) (id : String) :
    after.countsOf id = (figures.countsOf id).settle limit id fate := by
  rw [AppCounts.settle_elsewhere (by simp [nowhere]), countsOf, apps]
  rfl

theorem ledger_updateApp {figures : Figures} {id : String} {change : App → App} {limit : Nat}
    {fate : Fate} (here : fate.app? = some id)
    (untallied : figures.tallies.settle fate = figures.tallies)
    (changed : ∀ app : App, (change app).counts = app.counts.settle limit id fate)
    (now : Instant) :
    (figures.updateApp id now change).ledger = figures.ledger.settle limit fate := by
  ext1
  case byStream => rfl
  case counts =>
    funext other
    exact countsOf_changed (fun _ => Table.get?_update _ _ _ _ _) here changed other
  case tallies => exact untallied.symm

theorem ledger_beside {figures after : Figures} {fate : Fate} (nowhere : fate.app? = none)
    (apps : after.apps = figures.apps)
    (byStream : after.ingest.byStream = figures.ingest.byStream)
    (tallied : after.tallies = figures.tallies.settle fate) (limit : Nat) :
    after.ledger = figures.ledger.settle limit fate := by
  -- An event that reaches no application.
  ext1
  case byStream => exact byStream
  case counts => exact funext (countsOf_unchanged apps nowhere limit)
  case tallies => exact tallied

theorem ledger_reject (figures : Figures) (limit : Nat) :
    figures.reject.ledger = figures.ledger.settle limit .malformed := by
  apply ledger_beside
  case tallied => ext <;> simp [tallies, reject, withIngest, Tallies.settle, Fate.isOddStatus]
  all_goals rfl

section
variable (config : Config) (figures : Figures) (now : Instant)

theorem ledger_countOnRoute (event : HttpEvent) :
    (figures.countOnRoute event now).ledger = figures.ledger := by
  -- What becomes of the route of a request does not show here.
  unfold countOnRoute
  split
  next result routes tracked =>
    cases result with
    | ok refused => rfl
    | error error => cases error <;> rfl

theorem ledger_recordRequest (event : HttpEvent) (app : String) (index limit : Nat) :
    (figures.recordRequest app index event now).ledger =
      figures.ledger.settle limit ((StatusClass.ofStatus? event.status).elim (.oddStatus app index)
        (.request app index)) := by
  -- The table is visited, which leaves in place what an update would.
  let change : App → App := fun app => (app.recordRequest index event.latency event.status now).2
  have placed : ∀ other, (figures.recordRequest app index event now).apps.get? other =
      if other = app then some (change ((figures.apps.get? app).getD (.create app now)))
      else figures.apps.get? other :=
    fun other => Table.get?_visit figures.apps app other (.create app now) fun app =>
      app.recordRequest index event.latency event.status now
  ext1
  case byStream =>
    simp only [ledger, recordRequest]
    split <;> rfl
  case counts =>
    funext id
    refine countsOf_changed placed ?_ ?_ id
    · cases StatusClass.ofStatus? event.status <;> rfl
    · exact fun before => before.counts_recordRequest _ app index now _ _
  case tallies =>
    cases classed : StatusClass.ofStatus? event.status <;>
      ext <;> simp [ledger, Ledger.settle, tallies, recordRequest, Table.visit,
        App.recordRequest, Traffic.record?, classed, Tallies.settle, Fate.isOddStatus]

theorem ledger_applyHttp (event : HttpEvent) :
    (figures.applyHttp config event now).ledger =
      figures.ledger.settle config.maxCrashes (event.fate config) := by
  unfold applyHttp HttpEvent.fate
  by_cases client : event.clientObserved = true
  · simp only [client, Bool.not_true, Bool.false_eq_true, if_false, if_true]
    -- The route may or may not be counted; neither shows in the ledger.
    generalize tracked : (if config.routeTracking then figures.countOnRoute event now
      else figures) = routed
    have same : routed.ledger = figures.ledger := by
      rw [← tracked]
      split
      · exact ledger_countOnRoute figures now event
      · rfl
    rw [← same]
    cases identity event.requiredApp event.requiredInstance config.maxInstanceIndex with
    | error error => exact ledger_reject routed _
    | ok pair =>
      have counted := ledger_recordRequest routed now event pair.1 pair.2 config.maxCrashes
      cases classed : StatusClass.ofStatus? event.status <;> simpa [classed] using counted
  · simp only [client, Bool.not_false, if_true, Bool.false_eq_true, if_false]
    apply ledger_beside
    case tallied => ext <;> simp [tallies, withIngest, Tallies.settle, Fate.isOddStatus]
    all_goals rfl

theorem ledger_applyMetric (ip : String) (event : MetricEvent) :
    (figures.applyMetric config ip event now).ledger =
      figures.ledger.settle config.maxCrashes (event.fate config) := by
  unfold applyMetric MetricEvent.fate
  cases identity event.requiredApp event.requiredInstance config.maxInstanceIndex with
  | error error => exact ledger_reject figures _
  | ok pair =>
    refine ledger_updateApp rfl rfl ?_ now
    exact fun before => before.counts_observe _ pair.1 pair.2 now _ _

theorem ledger_applyReport (timestamp : Option Instant) (event : LogEvent)
    (policy : Log.policyOf event.sourceType = .crashReport) :
    (figures.applyReport config timestamp event now).ledger =
      figures.ledger.settle config.maxCrashes
        (event.fate config (Log.crashReport? event.message (timestamp.getD now))) := by
  unfold applyReport LogEvent.fate
  rw [policy]
  generalize Log.crashReport? event.message (timestamp.getD now) = report
  cases event.requiredApp with
  | ok app =>
    refine ledger_updateApp rfl rfl ?_ now
    intro before
    cases report with
    | none => exact before.counts_recordPlatformLine _ app event.stream
    | some report => exact before.counts_recordReport _ app event.stream report.crash
  | error error =>
    cases report with
    | none => exact ledger_reject figures _
    | some report =>
      refine ledger_updateApp rfl rfl ?_ now
      exact fun before => before.counts_recordReport _ report.appId event.stream report.crash

theorem ledger_applyLog (timestamp : Option Instant) (event : LogEvent) :
    (figures.applyLog config timestamp event now).ledger =
      figures.ledger.settle config.maxCrashes
        (event.fate config (Log.crashReport? event.message (timestamp.getD now))) := by
  cases policy : Log.policyOf event.sourceType with
  -- A report is the one line that takes a path of its own.
  | crashReport =>
    rw [← ledger_applyReport config figures now timestamp event policy, applyLog, policy]
  | ignore =>
    simp only [applyLog, LogEvent.fate, policy]
    apply ledger_beside
    case tallied => ext <;> simp [tallies, withIngest, Tallies.settle, Fate.isOddStatus]
    all_goals rfl
  | container =>
    simp only [applyLog, LogEvent.fate, policy]
    cases identity event.requiredApp event.requiredInstance config.maxInstanceIndex with
    | error error => exact ledger_reject figures _
    | ok pair =>
      refine ledger_updateApp rfl rfl ?_ now
      exact fun before => before.counts_recordLine _ pair.1 pair.2 now event.stream
  | nonContainer =>
    simp only [applyLog, LogEvent.fate, policy]
    cases event.requiredApp with
    | error error => exact ledger_reject figures _
    | ok app =>
      refine ledger_updateApp rfl rfl ?_ now
      exact fun before => before.counts_recordPlatformLine _ app event.stream

theorem ledger_applyGauge (envelope : Envelope) (event : GaugeEvent) (limit : Nat) :
    (figures.applyGauge envelope event now).ledger =
      figures.ledger.settle limit (event.fate envelope.ip) := by
  unfold applyGauge GaugeEvent.fate
  cases Gauge.ofMetric? event.name with
  | none =>
    apply ledger_beside
    case tallied => ext <;> simp [tallies, withIngest, Tallies.settle, Fate.isOddStatus]
    all_goals rfl
  | some gauge =>
    by_cases nowhere : envelope.ip = ""
    · simpa [nowhere] using ledger_reject figures limit
    · simp only [nowhere, if_false, Option.isNone_some, Bool.false_eq_true]
      apply ledger_beside <;> rfl

theorem ledger_applyCounter (event : CounterEvent) (limit : Nat) :
    (figures.applyCounter event).ledger = figures.ledger.settle limit event.fate := by
  by_cases loss : event.name ∈ lossCounters
  · simp only [applyCounter, CounterEvent.fate, loss, if_true]
    apply ledger_beside <;> rfl
  · simp only [applyCounter, CounterEvent.fate, loss, if_false]
    apply ledger_beside
    case tallied => ext <;> simp [tallies, withIngest, Tallies.settle, Fate.isOddStatus]
    all_goals rfl

theorem ledger_applyEvent (arrival : Arrival) :
    (figures.applyEvent config arrival.envelope arrival.now).ledger =
      figures.ledger.settle config.maxCrashes (fateOf config arrival) := by
  cases came : arrival.envelope.event with
  | http event =>
    simp only [applyEvent, fateOf, came]
    exact ledger_applyHttp config figures arrival.now event
  | metric event =>
    simp only [applyEvent, fateOf, came]
    exact ledger_applyMetric config figures arrival.now arrival.envelope.ip event
  | log event =>
    simp only [applyEvent, fateOf, came]
    exact ledger_applyLog config figures arrival.now arrival.envelope.timestamp event
  | gauge event =>
    simp only [applyEvent, fateOf, came]
    exact ledger_applyGauge figures arrival.now arrival.envelope event config.maxCrashes
  | counter event =>
    simp only [applyEvent, fateOf, came]
    exact ledger_applyCounter figures event config.maxCrashes
  | unknown =>
    simp only [applyEvent, fateOf, came]
    apply ledger_beside
    case tallied => ext <;> simp [tallies, withIngest, Tallies.settle, Fate.isOddStatus]
    all_goals rfl

end

end Figures

end Telemetry
