import Telemetry.Proofs.Intake.Fate
import Telemetry.Proofs.Table

/-!
What an event does to the applications.

It changes at most one of them, which is added if need be, by one of a handful of changes. What
every application keeps, and what never decreases in one, follows from these alone.
-/

set_option autoImplicit false

namespace Telemetry

inductive App.Step (limit : Nat) (now : Instant) (app : App) : Event → App → Prop where
  | request {event : HttpEvent} {i : Nat} : i ≤ limit →
      Step limit now app (.http event) (app.recordRequest i event.latency event.status now).2
  | sample {event : MetricEvent} {i : Nat} {cell : Option String} : i ≤ limit →
      Step limit now app (.metric event)
        (app.updateContainer i now (·.observe event.sample cell now))
  | line {event : LogEvent} {i : Nat} : i ≤ limit →
      Step limit now app (.log event) (app.updateContainer i now (·.recordLine event.stream))
  | platformLine {event : LogEvent} :
      Step limit now app (.log event) (app.recordPlatformLine event.stream)
  | crash {event : LogEvent} {crash : Crash} {kept : Nat} :
      Step limit now app (.log event) ((app.recordPlatformLine event.stream).addCrash crash kept)

namespace Figures

inductive AppsStep (limit : Nat) (now : Instant) (event : Event) (apps : Table String App) :
    Table String App → Prop where
  | same : AppsStep limit now event apps apps
  | one {id : String} {app : App} : id ≠ "" →
      App.Step limit now ((apps.get? id).getD (.create id now)) event app →
      AppsStep limit now event apps (apps.insert id app)

section
variable {config : Config} {figures : Figures} {now : Instant}

theorem apps_countOnRoute (figures : Figures) (event : HttpEvent) (now : Instant) :
    (figures.countOnRoute event now).apps = figures.apps := by
  unfold countOnRoute
  split
  rfl

theorem appsStep_updateApp {limit : Nat} {event : Event} {id : String} {change : App → App}
    (named : id ≠ "") (step : ∀ app : App, app.Step limit now event (change app)) :
    AppsStep limit now event figures.apps (figures.updateApp id now change).apps := by
  unfold updateApp Table.update
  rw [Table.alter_eq_insert]
  exact .one named (step _)

theorem appsStep_recordRequest {limit i : Nat} {event : HttpEvent} {id : String} (named : id ≠ "")
    (bounded : i ≤ limit) :
    AppsStep limit now (.http event) figures.apps (figures.recordRequest id i event now).apps := by
  unfold recordRequest
  exact .one named (.request bounded)

theorem appsStep_applyHttp (event : HttpEvent) :
    AppsStep config.maxInstanceIndex now (.http event) figures.apps
      (figures.applyHttp config event now).apps := by
  unfold applyHttp
  split
  · exact .same
  · generalize routed : (if config.routeTracking then figures.countOnRoute event now
      else figures) = counted
    have same : counted.apps = figures.apps := by
      rw [← routed]
      split
      · exact figures.apps_countOnRoute event now
      · rfl
    rw [← same]
    cases identified : identity event.requiredApp event.requiredInstance
        config.maxInstanceIndex with
    | error error => exact .same
    | ok pair =>
      obtain ⟨-, named, -, bounded⟩ := (event.identity_iff _ pair.1 pair.2).mp identified
      exact appsStep_recordRequest named bounded

theorem appsStep_applyMetric (ip : String) (event : MetricEvent) :
    AppsStep config.maxInstanceIndex now (.metric event) figures.apps
      (figures.applyMetric config ip event now).apps := by
  unfold applyMetric
  cases identified : identity event.requiredApp event.requiredInstance config.maxInstanceIndex with
  | error error => exact .same
  | ok pair =>
    obtain ⟨-, named, -, bounded⟩ := (event.identity_iff _ pair.1 pair.2).mp identified
    exact appsStep_updateApp named fun _ => .sample bounded

theorem appsStep_applyReport (timestamp : Option Instant) (event : LogEvent) :
    AppsStep config.maxInstanceIndex now (.log event) figures.apps
      (figures.applyReport config timestamp event now).apps := by
  unfold applyReport
  cases reported : Log.crashReport? event.message (timestamp.getD now) with
  | none =>
    cases required : event.requiredApp with
    | error error => exact .same
    | ok app =>
      have named := ((event.requiredApp_iff app).mp required).2
      exact appsStep_updateApp named fun _ => .platformLine
  | some report =>
    cases required : event.requiredApp with
    | error error => exact appsStep_updateApp (Log.appId_ne_empty reported) fun _ => .crash
    | ok app =>
      have named := ((event.requiredApp_iff app).mp required).2
      exact appsStep_updateApp named fun _ => .crash

theorem appsStep_applyLog (timestamp : Option Instant) (event : LogEvent) :
    AppsStep config.maxInstanceIndex now (.log event) figures.apps
      (figures.applyLog config timestamp event now).apps := by
  unfold applyLog
  cases Log.policyOf event.sourceType with
  | ignore => exact .same
  | container =>
    cases identified : identity event.requiredApp event.requiredInstance
        config.maxInstanceIndex with
    | error error => exact .same
    | ok pair =>
      obtain ⟨names, -, bounded⟩ := (event.identity_iff _ pair.1 pair.2).mp identified
      exact appsStep_updateApp names.2 fun _ => .line bounded
  | nonContainer =>
    cases required : event.requiredApp with
    | error error => exact .same
    | ok app =>
      have named := ((event.requiredApp_iff app).mp required).2
      exact appsStep_updateApp named fun _ => .platformLine
  | crashReport => exact appsStep_applyReport timestamp event

theorem apps_applyGauge (figures : Figures) (envelope : Envelope) (event : GaugeEvent)
    (now : Instant) : (figures.applyGauge envelope event now).apps = figures.apps := by
  unfold applyGauge
  split
  · rfl
  · split <;> rfl

theorem appsStep_apply (config : Config) (figures : Figures) (stream : Nat) (envelope : Envelope)
    (now : Instant) : AppsStep config.maxInstanceIndex now envelope.event figures.apps
      (figures.apply config stream envelope now).apps := by
  -- The stream is counted first, which leaves the applications alone.
  have counted : (figures.withIngest (·.countStream stream)).apps = figures.apps := rfl
  rw [← counted]
  unfold apply applyEvent
  cases envelope.event with
  | http event => exact appsStep_applyHttp event
  | metric event => exact appsStep_applyMetric envelope.ip event
  | log event => exact appsStep_applyLog envelope.timestamp event
  | gauge event =>
    dsimp only
    rw [apps_applyGauge]
    exact .same
  | counter event => exact .same
  | unknown => exact .same

end

end Figures

end Telemetry
