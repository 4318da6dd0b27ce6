import Telemetry.Proofs.Intake.Accounting
import Telemetry.Proofs.Route.Totals

/-!
Where the requests of clients end up.

Each of them is counted on one route, or refused for want of room for its domain or its host,
or its locator could not be read. What the intake says of refusals is what the tree of routes
says of them.
-/

set_option autoImplicit false

namespace Telemetry

open Route (Tree Registration)

def Arrival.isClientRequest (arrival : Arrival) : Bool :=
  match arrival.envelope.event with
  | .http event => event.clientObserved
  | _ => false

namespace Figures

structure Attribution where
  routes : Tree
  domainRejected : Nat
  hostRejected : Nat
  uriFailures : Nat
  keysRejected : Nat

def attribution (figures : Figures) : Attribution where
  routes := figures.routes
  domainRejected := figures.ingest.domainRejected
  hostRejected := figures.ingest.hostRejected
  uriFailures := figures.ingest.uriFailures
  keysRejected := figures.ingest.keysRejected

def Attribution.count (attribution : Attribution) (event : HttpEvent) (now : Instant) :
    Attribution :=
  let (outcome, routes) := attribution.routes.track event (event.applicationId.getD "") now
  match outcome with
  | .ok refused => { attribution with routes, keysRejected := attribution.keysRejected + refused }
  | .error (.domainLimit _ _) =>
    { attribution with routes, domainRejected := attribution.domainRejected + 1 }
  | .error (.hostLimit _ _ _) =>
    { attribution with routes, hostRejected := attribution.hostRejected + 1 }
  | .error (.uri _ _) => { attribution with routes, uriFailures := attribution.uriFailures + 1 }

def Attribution.take (attribution : Attribution) (tracking : Bool) (arrival : Arrival) :
    Attribution :=
  match arrival.envelope.event with
  | .http event =>
    if event.clientObserved && tracking then attribution.count event arrival.now else attribution
  | _ => attribution

/-- A number of requests, all of them accounted for. -/
structure Attribution.Balanced (attribution : Attribution) (requests : Nat) : Prop where
  requests : attribution.routes.requests + attribution.domainRejected +
    attribution.hostRejected + attribution.uriFailures = requests
  domains : attribution.domainRejected = attribution.routes.domains.rejected
  hosts : attribution.hostRejected = attribution.routes.hostRefusals
  keys : attribution.keysRejected = attribution.routes.keyRefusals

theorem balanced_create (limits : Route.Limits) : (create limits).attribution.Balanced 0 where
  requests := rfl
  domains := rfl
  hosts := rfl
  keys := rfl

theorem Attribution.Balanced.count {attribution : Attribution} {requests : Nat}
    (balanced : attribution.Balanced requests) (event : HttpEvent) (now : Instant) :
    (attribution.count event now).Balanced (requests + 1) := by
  obtain ⟨⟨outcome, after⟩, tracked⟩ : ∃ pair, attribution.routes.track event
      (event.applicationId.getD "") now = pair := ⟨_, rfl⟩
  obtain ⟨requests, domains, hosts, keys⟩ := Tree.figures_track tracked
  obtain ⟨all, domains', hosts', keys'⟩ := balanced
  unfold Attribution.count
  rw [tracked]
  -- One case for each place where the request may have ended up.
  rcases outcome with (_ | _ | _) | refused
  all_goals
    constructor
    all_goals
      simp only [Route.figureOf, Route.Error.atDomain, Route.Error.atHost] at *
      omega

section
variable {config : Config} (figures : Figures) (now : Instant)

theorem attribution_recordRequest (app : String) (index : Nat) (event : HttpEvent) :
    (figures.recordRequest app index event now).attribution = figures.attribution := by
  unfold recordRequest attribution
  dsimp only
  split <;> rfl

theorem attribution_reject : figures.reject.attribution = figures.attribution := rfl

theorem attribution_countOnRoute (event : HttpEvent) :
    (figures.countOnRoute event now).attribution = figures.attribution.count event now := by
  obtain ⟨⟨outcome, after⟩, tracked⟩ : ∃ pair, figures.routes.track event
      (event.applicationId.getD "") now = pair := ⟨_, rfl⟩
  unfold countOnRoute Attribution.count attribution
  rw [tracked]
  rcases outcome with (_ | _ | _) | refused <;> rfl

theorem attribution_applyHttp (event : HttpEvent) :
    (figures.applyHttp config event now).attribution =
      if event.clientObserved && config.routeTracking then figures.attribution.count event now
      else figures.attribution := by
  unfold applyHttp
  cases event.clientObserved with
  | false => rfl
  | true =>
    rw [Bool.not_true, if_neg Bool.false_ne_true, Bool.true_and]
    -- Whether the request then has an identity makes no difference to its route.
    have counted : (if config.routeTracking then figures.countOnRoute event now
        else figures).attribution = if config.routeTracking
          then figures.attribution.count event now else figures.attribution := by
      split
      · exact attribution_countOnRoute figures now event
      · rfl
    rw [← counted]
    cases identity event.requiredApp event.requiredInstance config.maxInstanceIndex with
    | error error => exact attribution_reject _
    | ok pair => exact attribution_recordRequest _ now _ _ event

theorem attribution_applyMetric (ip : String) (event : MetricEvent) :
    (figures.applyMetric config ip event now).attribution = figures.attribution := by
  unfold applyMetric
  split <;> rfl

theorem attribution_applyLog (timestamp : Option Instant) (event : LogEvent) :
    (figures.applyLog config timestamp event now).attribution = figures.attribution := by
  unfold applyLog applyReport
  split
  · rfl
  · split <;> rfl
  · split <;> rfl
  · dsimp only
    split <;> rfl

theorem attribution_applyGauge (envelope : Envelope) (event : GaugeEvent) :
    (figures.applyGauge envelope event now).attribution = figures.attribution := by
  unfold applyGauge
  split
  · rfl
  · split <;> rfl

theorem attribution_applyCounter (event : CounterEvent) :
    (figures.applyCounter event).attribution = figures.attribution := by
  unfold applyCounter withIngest
  dsimp only
  split <;> rfl

theorem attribution_apply (arrival : Arrival) :
    (figures.apply config arrival.stream arrival.envelope arrival.now).attribution =
      figures.attribution.take config.routeTracking arrival := by
  -- The stream is counted first and has no part in this.
  let counted := figures.withIngest (·.countStream arrival.stream)
  have same : counted.attribution = figures.attribution := rfl
  rw [← same]
  unfold apply applyEvent Attribution.take
  cases arrival.envelope.event with
  | http event => exact attribution_applyHttp counted arrival.now event
  | metric event => exact attribution_applyMetric counted arrival.now arrival.envelope.ip event
  | log event => exact attribution_applyLog counted arrival.now arrival.envelope.timestamp event
  | gauge event => exact attribution_applyGauge counted arrival.now arrival.envelope event
  | counter event => exact attribution_applyCounter counted event
  | unknown => rfl

theorem routes_apply (config : Config) (arrival : Arrival) :
    let after := figures.apply config arrival.stream arrival.envelope arrival.now
    after.routes = figures.routes ∨
    ∃ event appId, after.routes = (figures.routes.track event appId arrival.now).2 := by
  intro after
  have taken : after.routes = (figures.attribution.take config.routeTracking arrival).routes :=
    congrArg Attribution.routes (figures.attribution_apply arrival)
  rw [taken]
  unfold Attribution.take
  split
  · next event _ =>
    split
    · refine .inr ⟨event, event.applicationId.getD "", ?_⟩
      unfold Attribution.count attribution
      generalize figures.routes.track event (event.applicationId.getD "") arrival.now = tracked
      rcases tracked with ⟨(_ | _ | _) | _, routes⟩ <;> rfl
    · exact .inl rfl
  · exact .inl rfl

end

section
variable {config : Config} {figures : Figures} {requests : Nat}

theorem balanced_apply (tracking : config.routeTracking = true)
    (balanced : figures.attribution.Balanced requests) (arrival : Arrival) :
    (figures.apply config arrival.stream arrival.envelope arrival.now).attribution.Balanced
      (requests + if arrival.isClientRequest then 1 else 0) := by
  rw [attribution_apply, tracking]
  unfold Attribution.take Arrival.isClientRequest
  cases arrival.envelope.event with
  | http event =>
    simp only [Bool.and_true]
    by_cases client : event.clientObserved = true
    · rw [if_pos client, if_pos client]
      exact balanced.count event arrival.now
    · rw [if_neg client, if_neg client]
      exact balanced
  | metric | log | gauge | counter | unknown => exact balanced

theorem balanced_register (balanced : figures.attribution.Balanced requests)
    {registration : Registration} {routes : Tree}
    (done : registration.accepted? figures.routes = some routes) :
    { figures with routes }.attribution.Balanced requests := by
  obtain ⟨counted, domains, hosts, keys⟩ := Tree.figures_register done
  obtain ⟨all, domains', hosts', keys'⟩ := balanced
  constructor
  all_goals
    simp only [attribution] at *
    omega

end

end Figures

namespace Intake

inductive Act where
  | event (arrival : Arrival)
  | register (registration : Registration)

def Act.isClientRequest : Act → Bool
  | event arrival => arrival.isClientRequest
  | register _ => false

/-- Register a route. A registration that is refused may leave its domain behind. -/
def submit (intake : Intake) (registration : Registration) : Intake :=
  let routes := (registration.submit intake.figures.routes).2
  { intake with figures := { intake.figures with routes } }

def perform (intake : Intake) : Act → Intake
  | .event arrival => intake.take arrival
  | .register registration => intake.submit registration

def performAll (intake : Intake) (acts : List Act) : Intake := acts.foldl perform intake

/-- Events are always taken in, registrations only where there is room. -/
def act? (intake : Intake) : Act → Option Intake
  | .event arrival => some (intake.take arrival)
  | .register registration => (registration.accepted? intake.figures.routes).map fun routes =>
    { intake with figures := { intake.figures with routes } }

def run? (intake : Intake) (acts : List Act) : Option Intake := acts.foldlM act? intake

section
variable {config : Config} {intake after : Intake} {requests : Nat}

theorem balanced_act? (tracking : config.routeTracking = true) (settings : intake.config = config)
    (balanced : intake.figures.attribution.Balanced requests) {act : Act}
    (taken : intake.act? act = some after) : after.config = config ∧
      after.figures.attribution.Balanced (requests + if act.isClientRequest then 1 else 0) := by
  subst settings
  cases act with
  | event arrival =>
    obtain rfl := Option.some.inj taken
    exact ⟨rfl, Figures.balanced_apply tracking balanced arrival⟩
  | register registration =>
    obtain ⟨routes, done, rfl⟩ := Option.map_eq_some_iff.mp taken
    exact ⟨rfl, Figures.balanced_register balanced done⟩

theorem balanced_run? (tracking : config.routeTracking = true) (settings : intake.config = config)
    (balanced : intake.figures.attribution.Balanced requests) {acts : List Act}
    (reached : intake.run? acts = some after) :
    after.figures.attribution.Balanced (requests + acts.countP (·.isClientRequest)) := by
  induction acts generalizing intake requests with
  | nil =>
    cases reached
    exact balanced
  | cons act rest ih =>
    rw [run?, List.foldlM_cons] at reached
    obtain ⟨next, taken, later⟩ := Option.bind_eq_some_iff.mp reached
    obtain ⟨settings, balanced⟩ := balanced_act? tracking settings balanced taken
    have whole := ih settings balanced later
    rw [List.countP_cons, Nat.add_comm (List.countP _ _), ← Nat.add_assoc]
    exact whole

end

/-- From its creation or its last clear on, an intake has every request of a client on one
route or in one of three counters, and counts the refusals as the tree of routes does. -/
theorem requests_attributed (config : Config) (tracking : config.routeTracking = true)
    (start : Intake)
    (fresh : start = create config ∨ ∃ live : Intake, live.config = config ∧ start = live.clear)
    (acts : List Act) (after : Intake) (reached : start.run? acts = some after) :
    let ingest := after.figures.ingest
    let routes := after.figures.routes
    routes.requests + ingest.domainRejected + ingest.hostRejected + ingest.uriFailures =
      acts.countP (·.isClientRequest) ∧
    ingest.domainRejected = routes.domains.rejected ∧
    ingest.hostRejected = routes.hostRefusals ∧ ingest.keysRejected = routes.keyRefusals := by
  intro ingest routes
  have settled : start.config = config ∧ start.figures.attribution.Balanced 0 := by
    rcases fresh with rfl | ⟨live, rfl, rfl⟩
    · exact ⟨rfl, Figures.balanced_create config.routes⟩
    · exact ⟨rfl, Figures.balanced_create _⟩
  have balanced := balanced_run? tracking settled.1 settled.2 reached
  rw [Nat.zero_add] at balanced
  exact ⟨balanced.requests, balanced.domains, balanced.hosts, balanced.keys⟩

/-- With room for one host of one domain and for no user agent, four requests have four ends. -/
theorem requests_attributed_full :
    let config : Config :=
      { routes := { domains := 1, hostsPerDomain := 1, userAgents := 0, forwarders := 0 } }
    let request (uri : String) : Act :=
      .event ⟨0, { event := .http { uri, peer := some .client, userAgent := some "x" } }, 0⟩
    let acts := [.register (.path "b" "a" "" "r"), request "a.b", request "c.b", request "a.c",
      request ""]
    ∃ after, (create config).run? acts = some after ∧
      let ingest := after.figures.ingest
      let routes := after.figures.routes
      routes.requests = 1 ∧
      routes.requests + ingest.domainRejected + ingest.hostRejected + ingest.uriFailures = 4 ∧
      ingest.domainRejected = routes.domains.rejected ∧
      ingest.hostRejected = routes.hostRefusals ∧ ingest.keysRejected = routes.keyRefusals := by
  intro config request acts
  have counted : ((create config).run? acts).map (·.figures.routes.requests) = some 1 := by
    decide +kernel
  obtain ⟨after, reached, one⟩ := Option.map_eq_some_iff.mp counted
  exact ⟨after, reached, one,
    requests_attributed config rfl (create config) (.inl rfl) acts after reached⟩

end Intake

end Telemetry
