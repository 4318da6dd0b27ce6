import Telemetry.Proofs.Intake.Frame
import Telemetry.Proofs.Route.Filing
import Telemetry.Proofs.Session.Renewal
import Telemetry.Proofs.Snapshot.View

/-!
Everything in the figures stands under the name it bears.

Main statement: whatever is done to a session, applications, cells, domains and hosts stand in
its live figures and in all that is drawn from them under their own names, and containers in
their own places; live traffic has each of its requests in one class and among its samples.
-/

set_option autoImplicit false

namespace Telemetry

/-- Each request is counted in one class, and its latency among those of all time, whose number
stops at the largest that a counter holds. -/
structure Traffic.Counted (traffic : Traffic) : Prop where
  classed : traffic.requests = traffic.classes.total
  sampled : traffic.latency.allTime.count = Window.capped traffic.requests

structure App.Counted (app : App) : Prop where
  traffic : ∀ i traffic, app.traffic? i = some traffic → traffic.Counted
  total : app.totalTraffic.Counted

/-- An application under its identity, with its containers in their places and with no place
beyond a limit. -/
structure App.Filed (limit : Nat) (id : String) (app : App) : Prop where
  named : id ≠ ""
  id : app.id = id
  containers : ∀ i container, app.container? i = some container → container.instanceIndex = i
  containerPlaces : app.containers.length ≤ limit + 1
  trafficPlaces : app.traffic.length ≤ limit + 1

structure Cell.Filed (ip : String) (cell : Cell) : Prop where
  named : ip ≠ ""
  ip : cell.ip = ip

structure Figures.Filed (config : Config) (figures : Figures) : Prop where
  apps : figures.apps.EachAt (App.Filed config.maxInstanceIndex)
  cells : figures.cells.EachAt Cell.Filed
  routes : figures.routes.Filed

namespace Traffic

theorem counted_create (now : Instant) : (create now).Counted :=
  ⟨rfl, rfl⟩

theorem Counted.record? {traffic after : Traffic} (counted : traffic.Counted)
    {latency status : Nat} {now : Instant}
    (recorded : traffic.record? latency status now = some after) : after.Counted := by
  obtain ⟨statusClass, -, rfl⟩ := Option.map_eq_some_iff.mp recorded
  refine ⟨?_, ?_⟩
  · rw [ClassCounts.total_bump, ← counted.classed]
  · have before := counted.sampled
    show Window.capped (traffic.latency.allTime.count + 1) = Window.capped (traffic.requests + 1)
    unfold Window.capped at before ⊢
    omega

end Traffic

namespace App

theorem invariant_counted (limit : Nat) (admits : ResourceSample → Prop) :
    Invariant limit admits fun _ => Counted := by
  -- The total is drawn up in views only, so a request reaches one place of the traffic.
  constructor
  case created => exact fun _ now _ => ⟨fun _ _ => nofun, Traffic.counted_create now⟩
  case request =>
    intro _ app i latency status now _ counted
    refine ⟨?_, counted.total⟩
    intro j traffic found
    rw [traffic?_recordRequest] at found
    have before : ((app.traffic? i).getD (.create now)).Counted := by
      cases there : app.traffic? i with
      | none => exact Traffic.counted_create now
      | some traffic => exact counted.traffic i traffic there
    split at found
    · cases found
      cases recorded : ((app.traffic? i).getD (.create now)).record? latency status now with
      | none => exact before
      | some after => exact before.record? recorded
    · exact counted.traffic j traffic found
  case sample => exact fun _ _ _ _ _ _ _ _ counted => ⟨counted.traffic, counted.total⟩
  case line => exact fun _ _ _ _ _ _ counted => ⟨counted.traffic, counted.total⟩
  case platformLine => exact fun _ _ _ counted => ⟨counted.traffic, counted.total⟩
  case crash => exact fun _ _ _ _ counted => ⟨counted.traffic, counted.total⟩

section
variable {limit : Nat} {id : String} {app : App}

theorem filed_create (limit : Nat) (now : Instant) (named : id ≠ "") :
    (create id now).Filed limit id where
  named := named
  id := rfl
  containers := fun _ _ => nofun
  containerPlaces := Nat.zero_le _
  trafficPlaces := Nat.zero_le _

theorem Filed.updateContainer (filed : app.Filed limit id) {i : Nat} (bounded : i ≤ limit)
    (now : Instant) {change : Container → Container}
    (kept : ∀ container, (change container).instanceIndex = container.instanceIndex) :
    (app.updateContainer i now change).Filed limit id := by
  refine { filed with containers := ?_, containerPlaces := ?_ }
  · intro j container found
    rw [container?_updateContainer] at found
    split at found
    · next here =>
      cases found
      rw [kept, ← here]
      cases there : app.container? i with
      | none => rfl
      | some container => exact filed.containers i container there
    · exact filed.containers j container found
  · have length := app.containers.length_update i (.create i now) change
    have before := filed.containerPlaces
    show (app.containers.update i _ change).length ≤ limit + 1
    omega

theorem Filed.recordRequest (filed : app.Filed limit id) {i : Nat} (bounded : i ≤ limit)
    (latency status : Nat) (now : Instant) :
    (app.recordRequest i latency status now).2.Filed limit id := by
  refine { filed with trafficPlaces := ?_ }
  have before := filed.trafficPlaces
  show (app.traffic.update i _ _).length ≤ limit + 1
  rw [Slots.length_update]
  omega

theorem invariant_filed (limit : Nat) (admits : ResourceSample → Prop) :
    Invariant limit admits (Filed limit) where
  created _ now named := filed_create limit now named
  request _ _ _ latency status now bounded filed := filed.recordRequest bounded latency status now
  sample _ _ _ _ _ now bounded _ filed := filed.updateContainer bounded now fun _ => rfl
  line _ _ _ _ now bounded filed := filed.updateContainer bounded now fun _ => rfl
  platformLine _ _ _ filed := { filed with }
  crash _ _ _ _ filed := { filed with }

theorem Filed.finalize (filed : app.Filed limit id) (now : Instant) (threshold : Int) :
    (Figures.finalizeApp now threshold app).Filed limit id := by
  have containers : (Figures.finalizeApp now threshold app).containers =
      app.containers.map (·.filter (·.recent now threshold)) :=
    containers_evictStale (app.finalizeTraffic now) now threshold
  constructor
  case named => exact filed.named
  case id => exact filed.id
  case containers =>
    intro i container found
    rw [container?, containers, Slots.get?_filter] at found
    exact filed.containers i container (Option.filter_eq_some_iff.mp found).1
  case containerPlaces =>
    rw [containers, List.length_map]
    exact filed.containerPlaces
  case trafficPlaces =>
    have places : (Figures.finalizeApp now threshold app).traffic.length = app.traffic.length :=
      List.length_map _
    rw [places]
    exact filed.trafficPlaces

end

end App

theorem Cell.Filed.observe {ip : String} {cell : Cell} (filed : cell.Filed ip)
    (deployment job index : String) (gauge : Gauge) (value : Binary64) (unit : String)
    (now : Instant) :
    ((cell.identify deployment job index).observe gauge value unit now).Filed ip := by
  refine ⟨filed.named, ?_⟩
  rw [← filed.ip]
  cases gauge <;> rfl

namespace Figures

section
variable {config : Config} {figures : Figures}

theorem cells_apply (filed : figures.cells.EachAt Cell.Filed) (arrival : Arrival) :
    (figures.apply config arrival.stream arrival.envelope arrival.now).cells.EachAt
      Cell.Filed := by
  by_cases gauge : ∃ ip, Meets config arrival (.gauge ip)
  · obtain ⟨ip, meets⟩ := gauge
    cases meets with
    | gauge came known somewhere =>
      obtain ⟨gauge, read⟩ := Option.isSome_iff_exists.mp known
      rw [cells_of_gauge came read somewhere]
      exact Table.EachAt.update filed ⟨somewhere, rfl⟩ fun _ filed => filed.observe _ _ _ _ _ _ _
  · rw [cells_of_no_gauge (not_exists.mp gauge)]
    exact filed

theorem Live.filed (live : figures.Live config) : figures.Filed config where
  apps := live.eachAt (App.invariant_filed _ _)
  cells := by
    induction live with
    | create | clear => exact Table.eachAt_empty
    | event stream envelope now live ih => exact cells_apply ih ⟨stream, envelope, now⟩
    | register registration live ih => exact ih
  routes := by
    obtain ⟨acts, reached⟩ := live.routes
    rw [reached]
    exact (Route.Tree.filed_create _).performAll acts

theorem Filed.finalize (filed : figures.Filed config) (now : Instant) (threshold : Int) :
    (figures.finalize now threshold).Filed config where
  apps := filed.apps.map fun _ _ filed => filed.finalize now threshold
  cells := filed.cells
  routes := filed.routes

end

end Figures

namespace Session

/-- What is displayed is a view of figures that were live at some time. -/
def Displays (config : Config) (session : Session) : Prop :=
  ∃ (figures : Figures) (now : Instant) (threshold : Int), figures.Live config ∧
    session.board.displayed.figures = figures.finalize now threshold

section
variable {config : Config} {session : Session}

theorem displays_create (config : Config) (now : Instant) : (create config now).Displays config :=
  ⟨.create config.routes, now, 0, .create, rfl⟩

theorem Sound.displays_publish (sound : session.Sound config) (now : Instant) :
    (session.publish now).Displays config := by
  refine ⟨session.intake.figures, now, session.board.threshold, sound.figures, ?_⟩
  rw [Session.publish, Board.take_eq sound.displayed]
  rfl

theorem Sound.displays_clear (sound : session.Sound config) (now : Instant) :
    (session.clear now).Displays config := by
  refine ⟨.create config.routes, now, session.board.threshold, .create, ?_⟩
  rw [Session.clear, Board.reset_eq sound.displayed, ← sound.figures.limits]
  rfl

theorem Sound.displays_perform (sound : session.Sound config) (displays : session.Displays config)
    (act : Act) : (session.perform act).Displays config := by
  cases act with
  | event | register | tick | openStream | start | shutdown => exact displays
  | publish now => exact sound.displays_publish now
  | clear now => exact sound.displays_clear now
  | pass span now =>
    refine (pass_induction (motive := fun later => later.Sound config ∧ later.Displays config)
      span ?_ ?_ ?_ ⟨sound, displays⟩).2
    · exact fun later both => ⟨both.1.publish now, both.1.displays_publish now⟩
    · exact fun later both => ⟨both.1.tick now, both.2⟩
    · exact fun later timers both => ⟨{ both.1 with }, both.2⟩
  | send handle envelope now =>
    show ((session.streams[handle]?.map fun stream => _).getD session).Displays config
    cases session.streams[handle]? <;> exact displays

theorem Sound.displays_run (sound : session.Sound config) (displays : session.Displays config)
    (acts : List Act) : (session.run acts).Displays config := by
  induction acts generalizing session with
  | nil => exact displays
  | cons act rest ih => exact ih (sound.perform act) (sound.displays_perform displays act)

end

/-- Whatever is done to a session, its live figures, each view of them and what it displays have
everything under its own name and in its own place, with the searched lists in order, and in
live figures every request of an application is in one class and among the samples. -/
theorem figures_filed (config : Config) (created : Instant) (acts : List Act) :
    let session := (create config created).run acts
    let live := session.intake.figures
    live.Filed config ∧ live.apps.Each App.Counted ∧
      (∀ now threshold, (live.finalize now threshold).Filed config) ∧
      session.board.displayed.figures.Filed config := by
  intro session live
  have sound : session.Sound config := (sound_create config created).run acts
  have filed : live.Filed config := sound.figures.filed
  refine ⟨filed, sound.figures.each (App.invariant_counted _ _), filed.finalize, ?_⟩
  obtain ⟨figures, now, threshold, drawn, shown⟩ :=
    (sound_create config created).displays_run (displays_create config created) acts
  rw [show session.board.displayed.figures = _ from shown]
  exact drawn.filed.finalize now threshold

end Session

end Telemetry
