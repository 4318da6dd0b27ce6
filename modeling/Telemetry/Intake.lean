import Telemetry.Config
import Telemetry.Figures
import Telemetry.Log

/-!
Taking events in.

Every event is counted once for its kind and once for its stream, and then applied to the
figures. An event that cannot be applied is counted as malformed; none stops the intake.
-/

set_option autoImplicit false

namespace Telemetry

namespace Ingest

def countStream (ingest : Ingest) (stream : Nat) : Ingest :=
  { ingest with byStream := ingest.byStream.update stream 0 (· + 1) }

def countAttribution (ingest : Ingest) : Except Route.Error Nat → Ingest
  | .ok refused => { ingest with keysRejected := ingest.keysRejected + refused }
  | .error (.domainLimit _ _) => { ingest with domainRejected := ingest.domainRejected + 1 }
  | .error (.hostLimit _ _ _) => { ingest with hostRejected := ingest.hostRejected + 1 }
  | .error (.uri _ _) => { ingest with uriFailures := ingest.uriFailures + 1 }

end Ingest

def lossCounters : List String :=
  ["TruncatingBuffer.DroppedMessages", "doppler_proxy.slow_consumer",
    "DopplerServer.TruncatingBuffer.totalDroppedMessages"]

def boundedInstance (limit index : Nat) : Except EventError Nat :=
  if index ≤ limit then .ok index else .error (.invalidField "instance_index" (toString index))

def identity (app : Except EventError String) (index : Except EventError Nat) (limit : Nat) :
    Except EventError (String × Nat) := do
  let app ← app
  let index ← boundedInstance limit (← index)
  return (app, index)

def MetricEvent.sample (event : MetricEvent) : ResourceSample where
  cpuPercentage := event.cpuPercentage
  memoryBytes := event.memoryBytes
  diskBytes := event.diskBytes
  memoryQuota := event.memoryQuota
  diskQuota := event.diskQuota

namespace Figures

def withIngest (figures : Figures) (change : Ingest → Ingest) : Figures :=
  { figures with ingest := change figures.ingest }

def reject (figures : Figures) : Figures :=
  figures.withIngest fun ingest => { ingest with malformed := ingest.malformed + 1 }

def countOnRoute (figures : Figures) (event : HttpEvent) (now : Instant) : Figures :=
  let (result, routes) := figures.routes.track event (event.applicationId.getD "") now
  { figures with routes, ingest := figures.ingest.countAttribution result }

def recordRequest (figures : Figures) (app : String) (index : Nat) (event : HttpEvent)
    (now : Instant) : Figures :=
  let (recorded, apps) := figures.apps.visit app (.create app now) fun app =>
    app.recordRequest index event.latency event.status now
  let ingest := figures.ingest
  { figures with
    apps
    ingest :=
      if recorded then ingest
      else { ingest with statusOutOfRange := ingest.statusOutOfRange + 1 } }

/-- A request counts on its route and at its instance, and the one does not depend on the
other. -/
def applyHttp (config : Config) (event : HttpEvent) (now : Instant) (figures : Figures) :
    Figures :=
  if !event.clientObserved then
    figures.withIngest fun ingest => { ingest with serverLeg := ingest.serverLeg + 1 }
  else
    let figures := if config.routeTracking then figures.countOnRoute event now else figures
    match identity event.requiredApp event.requiredInstance config.maxInstanceIndex with
    | .error _ => figures.reject
    | .ok (app, index) => figures.recordRequest app index event now

def applyMetric (config : Config) (ip : String) (event : MetricEvent) (now : Instant)
    (figures : Figures) : Figures :=
  match identity event.requiredApp event.requiredInstance config.maxInstanceIndex with
  | .error _ => figures.reject
  | .ok (app, index) =>
    let cellIp := if ip = "" then none else some ip
    figures.updateApp app now fun app =>
      app.updateContainer index now (·.observe event.sample cellIp now)

/-- A line that reports a crash may leave it to the report to name the application. -/
def applyReport (config : Config) (timestamp : Option Instant) (event : LogEvent)
    (now : Instant) (figures : Figures) : Figures :=
  let report := Log.crashReport? event.message (timestamp.getD now)
  let named := match event.requiredApp, report with
    | .ok app, _ => some app
    | .error _, report => report.map (·.appId)
  match named with
  | none => figures.reject
  | some app =>
    figures.updateApp app now fun app =>
      let app := app.recordPlatformLine event.stream
      match report with
      | some report => app.addCrash report.crash config.maxCrashes
      | none => app

def applyLog (config : Config) (timestamp : Option Instant) (event : LogEvent) (now : Instant)
    (figures : Figures) : Figures :=
  match Log.policyOf event.sourceType with
  | .ignore =>
    figures.withIngest fun ingest => { ingest with ignoredLines := ingest.ignoredLines + 1 }
  | .container =>
    match identity event.requiredApp event.requiredInstance config.maxInstanceIndex with
    | .error _ => figures.reject
    | .ok (app, index) =>
      figures.updateApp app now fun app =>
        app.updateContainer index now (·.recordLine event.stream)
  | .nonContainer =>
    match event.requiredApp with
    | .error _ => figures.reject
    | .ok app => figures.updateApp app now (·.recordPlatformLine event.stream)
  | .crashReport => figures.applyReport config timestamp event now

/-- Only the gauges of cells are kept, and a cell needs an address. -/
def applyGauge (envelope : Envelope) (event : GaugeEvent) (now : Instant) (figures : Figures) :
    Figures :=
  match Gauge.ofMetric? event.name with
  | none =>
    figures.withIngest fun ingest => { ingest with unknownGauges := ingest.unknownGauges + 1 }
  | some gauge =>
    if envelope.ip = "" then figures.reject
    else figures.updateCell envelope.ip fun cell =>
      (cell.identify envelope.deployment envelope.job envelope.index).observe gauge event.value
        event.unit now

def applyCounter (event : CounterEvent) (figures : Figures) : Figures :=
  figures.withIngest fun ingest =>
    if event.name ∈ lossCounters then
      { ingest with dropped := min (ingest.dropped + event.delta) (2 ^ 64 - 1) }
    else { ingest with ignoredCounters := ingest.ignoredCounters + 1 }

def applyEvent (config : Config) (envelope : Envelope) (now : Instant) (figures : Figures) :
    Figures :=
  match envelope.event with
  | .http event => figures.applyHttp config event now
  | .metric event => figures.applyMetric config envelope.ip event now
  | .log event => figures.applyLog config envelope.timestamp event now
  | .gauge event => figures.applyGauge envelope event now
  | .counter event => figures.applyCounter event
  | .unknown => figures.withIngest fun ingest => { ingest with unknown := ingest.unknown + 1 }

def apply (config : Config) (stream : Nat) (envelope : Envelope) (now : Instant)
    (figures : Figures) : Figures :=
  (figures.withIngest (·.countStream stream)).applyEvent config envelope now

end Figures

/-- The live figures, with the counters of events by kind beside them. -/
structure Intake where
  config : Config
  figures : Figures
  counters : Counters := {}

namespace Intake

def create (config : Config) : Intake where
  config
  figures := .create config.routes

/-- The first step of taking in an event. -/
def count (intake : Intake) (kind : EventKind) : Intake :=
  { intake with counters := intake.counters.record kind }

/-- The second step of taking in an event. -/
def apply (intake : Intake) (stream : Nat) (envelope : Envelope) (now : Instant) : Intake :=
  { intake with figures := intake.figures.apply intake.config stream envelope now }

def process (intake : Intake) (stream : Nat) (envelope : Envelope) (now : Instant) : Intake :=
  (intake.count envelope.event.kind).apply stream envelope now

def clearFigures (intake : Intake) : Intake := { intake with figures := intake.figures.clear }

def resetCounters (intake : Intake) : Intake := { intake with counters := intake.counters.reset }

def clear (intake : Intake) : Intake := intake.clearFigures.resetCounters

end Intake

end Telemetry
