import Telemetry.Proofs.Intake.Live
import Telemetry.Proofs.Intake.Separation

/-!
What an event leaves alone.

Main statement: an event that is set aside changes no application and no cell; any other changes
at most the one application or the one cell that it names, within an application only what its
kind is for, and never the figures that are drawn up in views only.
-/

set_option autoImplicit false

namespace Telemetry

/-- A row of places that is as another but for one place, and reaches up to that place. -/
structure Slots.DiffersAt {α : Type} (i : Nat) (before after : Slots α) : Prop where
  elsewhere : ∀ j, j ≠ i → get? after j = get? before j
  length : after.length = max before.length (i + 1)

theorem Slots.differsAt_update {α : Type} (slots : Slots α) (i : Nat) (new : α)
    (change : α → α) : DiffersAt i slots (slots.update i new change) where
  elsewhere j other := by rw [get?_update, if_neg (Ne.symm other)]
  length := slots.length_update i new change

inductive Arrival.IsFor (arrival : Arrival) (app : String) : Prop where
  | request {event : HttpEvent} : arrival.envelope.event = .http event →
      event.applicationId = some app → app ≠ "" → IsFor arrival app
  | sample {event : MetricEvent} : arrival.envelope.event = .metric event →
      event.applicationId = some app → app ≠ "" → IsFor arrival app
  | line {event : LogEvent} : arrival.envelope.event = .log event → event.NamesApp app →
      IsFor arrival app
  /-- A line that names none may report the crash of one. -/
  | report {event : LogEvent} {report : Log.CrashReport} : arrival.envelope.event = .log event →
      Log.policyOf event.sourceType = .crashReport → (∀ name, ¬ event.NamesApp name) →
      arrival.report? event = some report → report.appId = app → IsFor arrival app

/-- What an event may change of the application it is for. -/
inductive App.Touched (before : App) : Event → App → Prop where
  | request {event : HttpEvent} {i : Nat} {traffic : Slots Traffic} :
      event.instanceIndex = some (i : Int) → Slots.DiffersAt i before.traffic traffic →
      Touched before (.http event) { before with traffic }
  | sample {event : MetricEvent} {i : Nat} {containers : Slots Container} :
      event.instanceIndex = some (i : Int) → Slots.DiffersAt i before.containers containers →
      Touched before (.metric event) { before with containers }
  | containerLine {event : LogEvent} {i : Nat} {containers : Slots Container} :
      Log.policyOf event.sourceType = .container → event.requiredInstance = .ok i →
      Slots.DiffersAt i before.containers containers →
      Touched before (.log event) { before with containers }
  | platformLine {event : LogEvent} {platformLines : LineCounts} {crashes : List Crash}
      {crashCount : Nat} : Log.policyOf event.sourceType ≠ .container →
      Touched before (.log event) { before with platformLines, crashes, crashCount }

theorem App.Touched.drawn {before after : App} {event : Event}
    (touched : before.Touched event after) :
    after.rollup = before.rollup ∧ after.totalTraffic = before.totalTraffic := by
  cases touched <;> exact ⟨rfl, rfl⟩

/-- The tallies of events that are set aside, for whatever reason. -/
def Tallies.setAside (tallies : Tallies) : List Nat :=
  [tallies.serverLeg, tallies.malformed, tallies.unknown, tallies.ignoredLines,
    tallies.unknownGauges, tallies.ignoredCounters]

namespace Figures

/-- What an event may change of the figures, routes and counters apart. -/
inductive Touched (arrival : Arrival) (figures after : Figures) : Prop where
  | nothing : after.apps = figures.apps → after.cells = figures.cells →
      Touched arrival figures after
  | app {id : String} {app : App} : arrival.IsFor id →
      ((figures.apps.get? id).getD (.create id arrival.now)).Touched arrival.envelope.event app →
      after.apps.get? id = some app →
      (∀ other, other ≠ id → after.apps.get? other = figures.apps.get? other) →
      after.cells = figures.cells → after.tallies.setAside = figures.tallies.setAside →
      Touched arrival figures after
  | cell {event : GaugeEvent} : arrival.envelope.event = .gauge event →
      (Gauge.ofMetric? event.name).isSome → arrival.envelope.ip ≠ "" →
      (∀ ip, ip ≠ arrival.envelope.ip → after.cells.get? ip = figures.cells.get? ip) →
      after.apps = figures.apps → after.tallies.setAside = figures.tallies.setAside →
      Touched arrival figures after

section
variable {arrival : Arrival} {figures : Figures}

theorem Touched.from {counted after : Figures} (touched : Touched arrival counted after)
    (apps : counted.apps = figures.apps) (cells : counted.cells = figures.cells)
    (tallies : counted.tallies.setAside = figures.tallies.setAside) :
    Touched arrival figures after := by
  cases touched with
  | nothing sameApps sameCells => exact .nothing (sameApps.trans apps) (sameCells.trans cells)
  | app named touched found others sameCells sameTallies =>
    rw [apps] at touched others
    exact .app named touched found others (sameCells.trans cells) (sameTallies.trans tallies)
  | cell came known somewhere others sameApps sameTallies =>
    rw [cells] at others
    exact .cell came known somewhere others (sameApps.trans apps) (sameTallies.trans tallies)

theorem touched_updateApp {id : String} {change : App → App} (named : arrival.IsFor id)
    (touches : ∀ app : App, app.Touched arrival.envelope.event (change app)) :
    Touched arrival figures (figures.updateApp id arrival.now change) := by
  have placed := fun other => figures.apps.get?_update id other (.create id arrival.now) change
  refine .app named (touches _) ?_ ?_ rfl rfl
  · exact (placed id).trans (if_pos rfl)
  · exact fun other elsewhere => (placed other).trans (if_neg elsewhere)

theorem touched_recordRequest {event : HttpEvent} (came : arrival.envelope.event = .http event)
    {id : String} {i : Nat} (named : arrival.IsFor id)
    (instanced : event.instanceIndex = some (i : Int)) :
    Touched arrival figures (figures.recordRequest id i event arrival.now) := by
  let before := (figures.apps.get? id).getD (.create id arrival.now)
  have placed := fun other => figures.apps.get?_visit id other (.create id arrival.now)
    fun app => app.recordRequest i event.latency event.status arrival.now
  have touched : before.Touched arrival.envelope.event
      (before.recordRequest i event.latency event.status arrival.now).2 := by
    rw [came]
    exact .request instanced (Slots.differsAt_update _ _ _ _)
  refine .app named touched ?_ ?_ rfl ?_
  · exact (placed id).trans (if_pos rfl)
  · exact fun other elsewhere => (placed other).trans (if_neg elsewhere)
  · unfold recordRequest
    dsimp only [tallies]
    split <;> rfl

theorem touched_applyHttp (config : Config) {event : HttpEvent}
    (came : arrival.envelope.event = .http event) :
    Touched arrival figures (figures.applyHttp config event arrival.now) := by
  unfold applyHttp
  split
  · exact .nothing rfl rfl
  · generalize routed : (if config.routeTracking then figures.countOnRoute event arrival.now
      else figures) = counted
    have same : counted.unrouted = figures.unrouted := by
      rw [← routed]
      split
      · exact unrouted_countOnRoute figures arrival.now event
      · rfl
    injection same with apps cells _ ingest
    injection ingest with _ malformed unknown leg _ _ _ _ _ lines gauges counters
    have tallies : counted.tallies.setAside = figures.tallies.setAside := by
      simp only [Tallies.setAside, Figures.tallies, malformed, unknown, leg, lines, gauges, counters]
    refine Touched.from ?_ apps cells tallies
    cases identified : identity event.requiredApp event.requiredInstance
        config.maxInstanceIndex with
    | error error => exact .nothing rfl rfl
    | ok pair =>
      obtain ⟨app, nonempty, instanced, -⟩ := (event.identity_iff _ pair.1 pair.2).mp identified
      exact touched_recordRequest came (.request came app nonempty) instanced

theorem touched_applyMetric (config : Config) {event : MetricEvent}
    (came : arrival.envelope.event = .metric event) :
    Touched arrival figures
      (figures.applyMetric config arrival.envelope.ip event arrival.now) := by
  unfold applyMetric
  cases identified : identity event.requiredApp event.requiredInstance config.maxInstanceIndex with
  | error error => exact .nothing rfl rfl
  | ok pair =>
    obtain ⟨app, nonempty, instanced, -⟩ := (event.identity_iff _ pair.1 pair.2).mp identified
    refine touched_updateApp (.sample came app nonempty) fun app => ?_
    rw [came]
    exact .sample instanced (Slots.differsAt_update _ _ _ _)

theorem touched_applyReport (config : Config) {event : LogEvent}
    (came : arrival.envelope.event = .log event)
    (policy : Log.policyOf event.sourceType = .crashReport) :
    Touched arrival figures
      (figures.applyReport config arrival.envelope.timestamp event arrival.now) := by
  have elsewhere : Log.policyOf event.sourceType ≠ .container := by simp [policy]
  have line : ∀ app : App, app.Touched arrival.envelope.event
      (app.recordPlatformLine event.stream) := by
    intro app
    rw [came]
    exact .platformLine elsewhere
  have crash : ∀ (report : Log.CrashReport) (app : App), app.Touched arrival.envelope.event
      ((app.recordPlatformLine event.stream).addCrash report.crash config.maxCrashes) := by
    intro report app
    rw [came]
    exact .platformLine elsewhere
  unfold applyReport
  generalize reported : Log.crashReport? event.message
    (arrival.envelope.timestamp.getD arrival.now) = report
  -- Only where the line names no application is the report asked for one.
  cases required : event.requiredApp with
  | ok app =>
    have named := (event.requiredApp_iff app).mp required
    cases report with
    | none => exact touched_updateApp (.line came named) line
    | some report => exact touched_updateApp (.line came named) (crash report)
  | error error =>
    have nameless : ∀ name, ¬ event.NamesApp name := by
      intro name named
      exact not_of_eq_error required name ((event.requiredApp_iff name).mpr named)
    cases report with
    | none => exact .nothing rfl rfl
    | some report =>
      exact touched_updateApp (.report came policy nameless reported rfl) (crash report)

theorem touched_applyLog (config : Config) {event : LogEvent}
    (came : arrival.envelope.event = .log event) :
    Touched arrival figures
      (figures.applyLog config arrival.envelope.timestamp event arrival.now) := by
  unfold applyLog
  cases policy : Log.policyOf event.sourceType with
  | ignore => exact .nothing rfl rfl
  | container =>
    cases identified : identity event.requiredApp event.requiredInstance
        config.maxInstanceIndex with
    | error error => exact .nothing rfl rfl
    | ok pair =>
      obtain ⟨required, instanced, -⟩ := (identity_eq_ok_iff _ _ _ pair.1 pair.2).mp identified
      have named := (event.requiredApp_iff pair.1).mp required
      refine touched_updateApp (.line came named) fun app => ?_
      rw [came]
      exact .containerLine policy instanced (Slots.differsAt_update _ _ _ _)
  | nonContainer =>
    cases required : event.requiredApp with
    | error error => exact .nothing rfl rfl
    | ok app =>
      have named := (event.requiredApp_iff app).mp required
      refine touched_updateApp (.line came named) fun app => ?_
      rw [came]
      exact .platformLine (by simp [policy])
  | crashReport => exact touched_applyReport config came policy

theorem touched_applyGauge {event : GaugeEvent} (came : arrival.envelope.event = .gauge event) :
    Touched arrival figures (figures.applyGauge arrival.envelope event arrival.now) := by
  unfold applyGauge
  cases known : Gauge.ofMetric? event.name with
  | none => exact .nothing rfl rfl
  | some gauge =>
    dsimp only
    split
    · exact .nothing rfl rfl
    · next somewhere =>
      refine .cell came (by simp [known]) somewhere ?_ rfl rfl
      intro ip elsewhere
      exact (figures.cells.get?_update _ ip _ _).trans (if_neg elsewhere)

theorem touched_apply (config : Config) (figures : Figures) (arrival : Arrival) :
    Touched arrival figures
      (figures.apply config arrival.stream arrival.envelope arrival.now) := by
  have counted : Touched arrival (figures.withIngest (·.countStream arrival.stream))
      (figures.apply config arrival.stream arrival.envelope arrival.now) := by
    unfold apply applyEvent
    cases came : arrival.envelope.event with
    | http event => exact touched_applyHttp config came
    | metric event => exact touched_applyMetric config came
    | log event => exact touched_applyLog config came
    | gauge event => exact touched_applyGauge came
    | counter | unknown => exact .nothing rfl rfl
  exact counted.from rfl rfl rfl

theorem cells_of_no_gauge {config : Config} (none : ∀ ip, ¬ Meets config arrival (.gauge ip)) :
    (figures.apply config arrival.stream arrival.envelope arrival.now).cells = figures.cells := by
  cases touched_apply config figures arrival with
  | nothing _ cells => exact cells
  | app _ _ _ _ cells _ => exact cells
  | cell came known somewhere _ _ _ => exact absurd (.gauge came known somewhere) (none _)

theorem cells_of_gauge {config : Config} {event : GaugeEvent} {gauge : Gauge}
    (came : arrival.envelope.event = .gauge event) (read : Gauge.ofMetric? event.name = some gauge)
    (somewhere : arrival.envelope.ip ≠ "") :
    (figures.apply config arrival.stream arrival.envelope arrival.now).cells =
      figures.cells.update arrival.envelope.ip (.create arrival.envelope.ip) fun cell =>
        (cell.identify arrival.envelope.deployment arrival.envelope.job
          arrival.envelope.index).observe gauge event.value event.unit arrival.now := by
  unfold apply applyEvent applyGauge
  simp only [came, read, if_neg somewhere]
  rfl

theorem Touched.drawn {after : Figures} (touched : Touched arrival figures after) {id : String}
    {app : App} (found : after.apps.get? id = some app) :
    let before := (figures.apps.get? id).getD (.create id arrival.now)
    app.rollup = before.rollup ∧ app.totalTraffic = before.totalTraffic := by
  have kept : after.apps.get? id = figures.apps.get? id →
      app = (figures.apps.get? id).getD (.create id arrival.now) := by
    intro same
    rw [← same, found, Option.getD_some]
  cases touched with
  | nothing apps =>
    rw [kept (by rw [apps])]
    exact ⟨rfl, rfl⟩
  | cell _ _ _ _ apps =>
    rw [kept (by rw [apps])]
    exact ⟨rfl, rfl⟩
  | @app touchedId touchedApp _ touched foundThere others =>
    by_cases here : id = touchedId
    · subst here
      rw [found, Option.some.injEq] at foundThere
      rw [foundThere]
      exact touched.drawn
    · rw [kept (others id here)]
      exact ⟨rfl, rfl⟩

end

theorem Live.undrawn {config : Config} {figures : Figures} (live : figures.Live config) :
    figures.apps.Each fun app =>
      app.rollup = {} ∧ ∃ created, app.totalTraffic = .create created := by
  have invariant : App.Invariant config.maxInstanceIndex (fun _ => True) fun _ app =>
      app.rollup = {} ∧ ∃ created, app.totalTraffic = .create created := by
    constructor
    case created => exact fun _ now _ => ⟨rfl, now, rfl⟩
    all_goals intros; assumption
  exact live.each invariant

/-- An event touches at most the application or the cell that it names, and neither if it is
set aside. In an application it leaves the figures alone that only views draw up; these are as
they were when the application was created. Requests of clients alone change the routes. -/
theorem apply_frame (config : Config) (figures : Figures) (live : figures.Live config)
    (arrival : Arrival) :
    let after := figures.apply config arrival.stream arrival.envelope arrival.now
    Touched arrival figures after ∧
    (after.tallies.setAside ≠ figures.tallies.setAside →
      after.apps = figures.apps ∧ after.cells = figures.cells) ∧
    (∀ id app, figures.apps.get? id = some app →
      app.rollup = {} ∧ ∃ created, app.totalTraffic = .create created) ∧
    (∀ id app, after.apps.get? id = some app → app.rollup = {} ∧
      app.totalTraffic = ((figures.apps.get? id).map (·.totalTraffic)).getD (.create arrival.now)) ∧
    (arrival.isClientRequest = false → after.routes = figures.routes) := by
  intro after
  have touched := touched_apply config figures arrival
  refine ⟨touched, ?_, ?_, ?_, ?_⟩
  · intro counted
    cases touched with
    | nothing apps cells => exact ⟨apps, cells⟩
    | app _ _ _ _ _ tallies => exact absurd tallies counted
    | cell _ _ _ _ _ tallies => exact absurd tallies counted
  · exact fun id app found => live.undrawn id app found
  · intro id app found
    obtain ⟨-, traffic⟩ := touched.drawn found
    have later := live.event arrival.stream arrival.envelope arrival.now
    refine ⟨(later.undrawn id app found).1, traffic.trans ?_⟩
    cases figures.apps.get? id <;> rfl
  · intro beside
    -- The routes are part of the attribution, which nothing but the request of a client moves.
    have taken := @attribution_apply config figures arrival
    have same : figures.attribution.take config.routeTracking arrival = figures.attribution := by
      unfold Arrival.isClientRequest at beside
      unfold Attribution.take
      split
      · next event came =>
        rw [came] at beside
        rw [show event.clientObserved = false from beside]
        rfl
      · rfl
    exact congrArg Attribution.routes (taken.trans same)

/-- A request that is counted at an instance, and then one that names none and is only counted
on its route. -/
theorem apply_frame_requests :
    let client : HttpEvent :=
      { uri := "a.b", peer := some .client, status := 200, applicationId := some "app" }
    let counted : Arrival :=
      ⟨0, { event := .http { client with instanceIndex := some 2 } }, 0⟩
    let nowhere : Arrival := ⟨0, { event := .http client }, 1⟩
    let take (figures : Figures) (arrival : Arrival) :=
      figures.apply {} arrival.stream arrival.envelope arrival.now
    let start : Figures := .create {}
    let before := take start counted
    let after := take before nowhere
    start.Live {} ∧ Touched counted start before ∧ before.apps.size = 1 ∧
      after.tallies.setAside ≠ before.tallies.setAside ∧
      after.apps = before.apps ∧ after.routes.requests = 2 := by
  intro client counted nowhere take start before after
  have live : start.Live {} := .create
  obtain ⟨touched, -⟩ := apply_frame {} start live counted
  obtain ⟨-, aside, -⟩ := apply_frame {} before (live.event _ _ _) nowhere
  have counts : after.tallies.setAside ≠ before.tallies.setAside := by decide +kernel
  exact ⟨live, touched, by decide +kernel, counts, (aside counts).1, by decide +kernel⟩

end Figures

end Telemetry
