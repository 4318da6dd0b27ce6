import Telemetry.Proofs.Intake.Requests

/-!
What is counted of applications and what is counted on routes do not interfere.

Main statement: two runs whose events say the same of applications count the same for
applications, cells and all but the routes, whatever the events say of routes, whether routes
are tracked, and which are registered; and two runs whose events say the same of routes
attribute the same, whatever the events say of instances.
-/

set_option autoImplicit false

namespace Telemetry

def HttpEvent.forApp (event : HttpEvent) : HttpEvent :=
  { event with
    uri := ""
    method := .other
    userAgent := none
    forwarded := []
    contentLength := 0
    requestBytes := none
    remoteAddress := none
    requestId := none }

def HttpEvent.forRoute (event : HttpEvent) : HttpEvent :=
  { event with
    instanceIndex := none
    startTimestamp := 0
    stopTimestamp := 0 }

def Event.mapHttp (change : HttpEvent → HttpEvent) : Event → Event
  | .http event => .http (change event)
  | event => event

def Envelope.mapHttp (change : HttpEvent → HttpEvent) (envelope : Envelope) : Envelope :=
  { envelope with event := envelope.event.mapHttp change }

def Arrival.mapHttp (change : HttpEvent → HttpEvent) (arrival : Arrival) : Arrival :=
  { arrival with envelope := arrival.envelope.mapHttp change }

def Config.forApps (config : Config) : Config :=
  { config with routeTracking := false, routes := {} }

def Ingest.unrouted (ingest : Ingest) : Ingest :=
  { ingest with domainRejected := 0, hostRejected := 0, uriFailures := 0, keysRejected := 0 }

namespace Figures

def unrouted (figures : Figures) : Figures :=
  { figures with routes := .create {}, ingest := figures.ingest.unrouted }

section
variable (config : Config) (figures : Figures) (now : Instant)

theorem unrouted_countOnRoute (event : HttpEvent) :
    (figures.countOnRoute event now).unrouted = figures.unrouted := by
  unfold countOnRoute
  split
  next outcome routes tracked => rcases outcome with (_ | _ | _) | _ <;> rfl

theorem unrouted_recordRequest (app : String) (index : Nat) (event : HttpEvent) :
    (figures.recordRequest app index event now).unrouted =
      figures.unrouted.recordRequest app index event now := by
  obtain ⟨⟨recorded, apps⟩, visited⟩ : ∃ pair, (figures.apps.visit app (.create app now) fun app =>
      app.recordRequest index event.latency event.status now) = pair := ⟨_, rfl⟩
  have kept : figures.unrouted.apps = figures.apps := rfl
  unfold recordRequest
  rw [kept, visited]
  cases recorded <;> rfl

theorem unrouted_applyHttp (event : HttpEvent) :
    (figures.applyHttp config event now).unrouted =
      figures.unrouted.applyHttp config.forApps event.forApp now := by
  have observed : event.forApp.clientObserved = event.clientObserved := rfl
  have named : identity event.forApp.requiredApp event.forApp.requiredInstance
      config.forApps.maxInstanceIndex =
    identity event.requiredApp event.requiredInstance config.maxInstanceIndex := rfl
  unfold applyHttp
  rw [observed, named]
  cases event.clientObserved with
  | false => rfl
  | true =>
    -- Counting on a route changes nothing but what is erased.
    have routed : (if config.routeTracking then figures.countOnRoute event now
        else figures).unrouted = figures.unrouted := by
      split
      · exact unrouted_countOnRoute figures now event
      · rfl
    rw [Bool.not_true, if_neg Bool.false_ne_true, if_neg Bool.false_ne_true]
    cases identity event.requiredApp event.requiredInstance config.maxInstanceIndex with
    | error error => exact congrArg reject routed
    | ok pair =>
      refine (unrouted_recordRequest _ now pair.1 pair.2 event).trans ?_
      rw [routed]
      rfl

theorem unrouted_applyMetric (ip : String) (event : MetricEvent) :
    (figures.applyMetric config ip event now).unrouted =
      figures.unrouted.applyMetric config.forApps ip event now := by
  have limit : config.forApps.maxInstanceIndex = config.maxInstanceIndex := rfl
  unfold applyMetric
  rw [limit]
  cases identity event.requiredApp event.requiredInstance config.maxInstanceIndex <;> rfl

theorem unrouted_applyReport (timestamp : Option Instant) (event : LogEvent) :
    (figures.applyReport config timestamp event now).unrouted =
      figures.unrouted.applyReport config.forApps timestamp event now := by
  simp only [applyReport]
  split
  · next unnamed => rfl
  · next app named => rfl

theorem unrouted_applyLog (timestamp : Option Instant) (event : LogEvent) :
    (figures.applyLog config timestamp event now).unrouted =
      figures.unrouted.applyLog config.forApps timestamp event now := by
  have limit : config.forApps.maxInstanceIndex = config.maxInstanceIndex := rfl
  unfold applyLog
  rw [limit]
  cases Log.policyOf event.sourceType with
  | ignore => rfl
  | container =>
    cases identity event.requiredApp event.requiredInstance config.maxInstanceIndex <;> rfl
  | nonContainer => cases event.requiredApp <;> rfl
  | crashReport => exact unrouted_applyReport config figures now timestamp event

theorem unrouted_applyGauge (envelope : Envelope) (change : HttpEvent → HttpEvent)
    (event : GaugeEvent) :
    (figures.applyGauge envelope event now).unrouted =
      figures.unrouted.applyGauge (envelope.mapHttp change) event now := by
  have address : (envelope.mapHttp change).ip = envelope.ip := rfl
  unfold applyGauge
  rw [address]
  cases Gauge.ofMetric? event.name with
  | none => rfl
  | some gauge =>
    dsimp only
    split <;> rfl

theorem unrouted_applyCounter (event : CounterEvent) :
    (figures.applyCounter event).unrouted = figures.unrouted.applyCounter event := by
  unfold applyCounter withIngest unrouted
  dsimp only
  split <;> rfl

theorem unrouted_apply (arrival : Arrival) :
    (figures.apply config arrival.stream arrival.envelope arrival.now).unrouted =
      figures.unrouted.apply config.forApps arrival.stream
        (arrival.envelope.mapHttp HttpEvent.forApp) arrival.now := by
  obtain ⟨stream, ⟨origin, deployment, job, index, ip, timestamp, event⟩, now⟩ := arrival
  let counted := figures.withIngest (·.countStream stream)
  cases event with
  | http event => exact unrouted_applyHttp config counted now event
  | metric event => exact unrouted_applyMetric config counted now ip event
  | log event => exact unrouted_applyLog config counted now timestamp event
  | gauge event => exact unrouted_applyGauge counted now _ _ event
  | counter event => exact unrouted_applyCounter counted event
  | unknown => rfl

end

theorem Attribution.take_forRoute (attribution : Attribution) (tracking : Bool)
    (arrival : Arrival) :
    attribution.take tracking (arrival.mapHttp HttpEvent.forRoute) =
      attribution.take tracking arrival := by
  obtain ⟨stream, ⟨origin, deployment, job, index, ip, timestamp, event⟩, now⟩ := arrival
  cases event with
  | http event =>
    have named : event.forRoute.applicationId = event.applicationId := rfl
    have tracked : ∀ app, attribution.routes.track event.forRoute app now =
      attribution.routes.track event app now := fun _ => rfl
    have counted : attribution.count event.forRoute now = attribution.count event now := by
      unfold count
      rw [named, tracked]
    exact congrArg (if event.clientObserved && tracking then · else attribution) counted
  | metric | log | gauge | counter | unknown => rfl

end Figures

namespace Intake

def unrouted (intake : Intake) : Intake :=
  { intake with config := intake.config.forApps, figures := intake.figures.unrouted }

def arrivals (acts : List Act) : List Arrival :=
  acts.filterMap fun
    | .event arrival => some arrival
    | .register _ => none

def Act.mapHttp (change : HttpEvent → HttpEvent) : Act → Act
  | event arrival => event (arrival.mapHttp change)
  | register registration => register registration

theorem unrouted_take (intake : Intake) (arrival : Arrival) :
    (intake.take arrival).unrouted = intake.unrouted.take (arrival.mapHttp HttpEvent.forApp) := by
  have kind : (arrival.mapHttp HttpEvent.forApp).envelope.event.kind =
      arrival.envelope.event.kind := by
    show (arrival.envelope.event.mapHttp _).kind = _
    cases arrival.envelope.event <;> rfl
  have applied := Figures.unrouted_apply intake.config intake.figures arrival
  unfold take process
  rw [kind]
  exact congrArg (fun figures => (⟨intake.config.forApps, figures,
    intake.counters.record arrival.envelope.event.kind⟩ : Intake)) applied

theorem unrouted_performAll (intake : Intake) (acts : List Act) :
    (intake.performAll acts).unrouted =
      intake.unrouted.run ((arrivals acts).map (·.mapHttp HttpEvent.forApp)) := by
  induction acts generalizing intake with
  | nil => rfl
  | cons act rest ih =>
    refine (ih (intake.perform act)).trans ?_
    cases act with
    | event arrival => rw [perform, unrouted_take]; rfl
    | register registration => rfl

def Act.attribute (tracking : Bool) (attribution : Figures.Attribution) :
    Act → Figures.Attribution
  | event arrival => attribution.take tracking arrival
  | register registration =>
    { attribution with routes := (registration.submit attribution.routes).2 }

theorem attribute_forRoute (tracking : Bool) (attribution : Figures.Attribution) (act : Act) :
    (act.mapHttp HttpEvent.forRoute).attribute tracking attribution =
      act.attribute tracking attribution := by
  cases act with
  | event arrival => exact attribution.take_forRoute tracking arrival
  | register registration => rfl

theorem attribution_performAll (intake : Intake) (acts : List Act) :
    (intake.performAll acts).figures.attribution =
      (acts.map (·.mapHttp HttpEvent.forRoute)).foldl
        (fun attribution act => act.attribute intake.config.routeTracking attribution)
        intake.figures.attribution := by
  rw [List.foldl_map]
  simp only [attribute_forRoute]
  induction acts generalizing intake with
  | nil => rfl
  | cons act rest ih =>
    refine (ih (intake.perform act)).trans ?_
    cases act with
    | event arrival =>
      have taken := @Figures.attribution_apply intake.config intake.figures arrival
      exact congrArg (rest.foldl _) taken
    | register registration => rfl

/-- In two runs that differ in what requests say of their routes, and in the settings and the
registrations of routes, the same is counted of applications and cells, and by every counter but
the four that tell of routes, whenever as many events were taken in. In two runs that differ in
the instances of requests and the time these took, the same is attributed to routes. -/
theorem accounts_separate (config other : Config) (acts others : List Act) :
    (config.forApps = other.forApps →
      (arrivals acts).map (·.mapHttp HttpEvent.forApp) =
        (arrivals others).map (·.mapHttp HttpEvent.forApp) →
      ∀ past pasts, past <+: acts → pasts <+: others →
        (arrivals past).length = (arrivals pasts).length →
        let left := (create config).performAll past
        let right := (create other).performAll pasts
        left.figures.apps = right.figures.apps ∧ left.figures.cells = right.figures.cells ∧
        left.figures.ingest.unrouted = right.figures.ingest.unrouted ∧
        left.counters = right.counters) ∧
    (acts.map (·.mapHttp HttpEvent.forRoute) = others.map (·.mapHttp HttpEvent.forRoute) →
      ((create config).performAll acts).figures.attribution =
        ((create config).performAll others).figures.attribution) := by
  constructor
  · rintro settings same past pasts ⟨rest, rfl⟩ ⟨rests, rfl⟩ length left right
    have created : (create config).unrouted = (create other).unrouted := by
      unfold unrouted create
      rw [settings]
      rfl
    -- Equally many events from the fronts of equal runs are the same events.
    have shared : (arrivals past).map (·.mapHttp HttpEvent.forApp) =
        (arrivals pasts).map (·.mapHttp HttpEvent.forApp) := by
      simp only [arrivals, List.filterMap_append, List.map_append] at same length ⊢
      exact (List.append_inj same (by simpa using length)).1
    have equal : left.unrouted = right.unrouted := by
      rw [unrouted_performAll, unrouted_performAll, created, shared]
    injection equal with _ figures counters
    injection figures with apps cells _ ingest
    exact ⟨apps, cells, ingest, counters⟩
  · intro same
    rw [attribution_performAll, attribution_performAll, same]

/-- A request that is counted on a registered route, one whose locator cannot be read, and one
without an instance. -/
theorem accounts_separate_request :
    let client : HttpEvent :=
      { peer := some .client, status := 200, applicationId := some "app" }
    let request (uri : String) (instanceIndex : Option Int) : Act :=
      .event ⟨0, { event := .http { client with uri, instanceIndex } }, 0⟩
    let acts := [.register (.path "b" "a" "" "r"), request "a.b" (some 1)]
    let unreadable := [request "" (some 1)]
    let unplaced := [.register (.path "b" "a" "" "r"), request "a.b" none]
    let left := ((create {}).performAll acts).figures
    let right := ((create { routeTracking := false }).performAll unreadable).figures
    let beside := ((create {}).performAll unplaced).figures
    left.apps.size = 1 ∧ left.apps = right.apps ∧
      left.routes.requests = 1 ∧ left.attribution = beside.attribution := by
  intro client request acts unreadable unplaced left right beside
  obtain ⟨separate, -⟩ := accounts_separate {} { routeTracking := false } acts unreadable
  obtain ⟨apps, -⟩ := separate rfl rfl acts unreadable (List.prefix_refl _) (List.prefix_refl _) rfl
  obtain ⟨-, attributes⟩ := accounts_separate {} {} acts unplaced
  exact ⟨by decide +kernel, apps, by decide +kernel, attributes rfl⟩

end Intake

end Telemetry
