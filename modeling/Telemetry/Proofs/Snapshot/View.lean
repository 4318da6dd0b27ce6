import Telemetry.Proofs.Intake.Effect
import Telemetry.Proofs.Intake.Live
import Telemetry.Proofs.Traffic.Rollup
import Telemetry.Snapshot

/-!
What a view shows of the live figures.

Main statement: a copy of live figures, finalized at an instant, has the applications, cells,
routes and counters of the live ones. Of each application it shows the containers that are not
stale and the figures of all traffic, the traffic of stale containers included; and to finalize
it once more changes nothing.
-/

set_option autoImplicit false

namespace Telemetry

namespace Slots

variable {α β : Type}

theorem get?_map (slots : Slots α) (f : α → β) (i : Nat) :
    get? (slots.map (·.map f)) i = (get? slots i).map f := by
  unfold get?
  rw [List.getElem?_map]
  cases slots[i]? <;> rfl

theorem get?_filter (slots : Slots α) (keep : α → Bool) (i : Nat) :
    get? (slots.map (·.filter keep)) i = (get? slots i).filter keep := by
  unfold get?
  rw [List.getElem?_map]
  cases slots[i]? <;> rfl

theorem present_map (slots : Slots α) (f : α → β) :
    present (slots.map (·.map f)) = (present slots).map f := by
  simp only [present, List.filterMap_map, List.map_filterMap]
  rfl

theorem present_filter (slots : Slots α) (keep : α → Bool) :
    present (slots.map (·.filter keep)) = (present slots).filter keep := by
  induction slots with
  | nil => rfl
  | cons slot rest ih =>
    cases slot with
    | none => exact ih
    | some item =>
      cases kept : keep item <;> simpa [present, Option.filter, kept] using ih

theorem mem_present {slots : Slots α} {item : α} (member : item ∈ present slots) :
    ∃ i, get? slots i = some item := by
  obtain ⟨slot, listed, found⟩ := List.mem_filterMap.mp member
  obtain ⟨i, bound, here⟩ := List.getElem_of_mem listed
  refine ⟨i, ?_⟩
  rw [get?, List.getElem?_eq_getElem bound, here]
  exact found

end Slots

namespace Traffic

/-- Traffic as live figures have it: each request counted in one class, and the windows of a
view behind it. -/
structure Sound (traffic : Traffic) : Prop where
  classed : traffic.requests = traffic.classes.total
  windows : traffic.latency.trackers.map (·.window) = windows

theorem sound_create (now : Instant) : (create now).Sound :=
  ⟨rfl, rfl⟩

theorem Sound.record? {traffic after : Traffic} (sound : traffic.Sound) {latency status : Nat}
    {now : Instant} (recorded : traffic.record? latency status now = some after) : after.Sound := by
  obtain ⟨statusClass, -, rfl⟩ := Option.map_eq_some_iff.mp recorded
  refine ⟨?_, ?_⟩
  · rw [ClassCounts.total_bump, ← sound.classed]
  · rw [← sound.windows]
    simp [Window.Levels.add, Window.Tracker.add]

def reading (traffic : Traffic) (level : Nat) (now : Instant) : WindowFigures where
  mean := traffic.latency.mean level now
  rate := traffic.latency.rate level now

theorem Sound.reading_eq {traffic : Traffic} (sound : traffic.Sound) {level : Nat}
    {window : Span} (listed : Traffic.windows[level]? = some window) (now : Instant) :
    traffic.reading level now = .ofTotals window (traffic.windowTotals level now) := by
  rw [← sound.windows, List.getElem?_map] at listed
  obtain ⟨tracker, found, rfl⟩ := Option.map_eq_some_iff.mp listed
  simp only [reading, WindowFigures.ofTotals, windowTotals, Window.Levels.mean,
    Window.Levels.rate, Window.Levels.totals, found]
  rfl

def readAt (traffic : Traffic) (now : Instant) : Traffic :=
  { traffic with
    lastSecond := traffic.reading 0 now
    lastTen := traffic.reading 1 now
    lastMinute := traffic.reading 2 now }

theorem Sound.finalize_eq {traffic : Traffic} (sound : traffic.Sound) (now : Instant) :
    traffic.finalize now = traffic.readAt now := by
  unfold finalize withFigures readAt
  rw [sound.reading_eq rfl, sound.reading_eq rfl, sound.reading_eq rfl]

end Traffic

def Container.recent (container : Container) (now : Instant) (threshold : Int) : Bool :=
  now - container.lastUpdate ≤ threshold

namespace App

def Sound (app : App) : Prop := ∀ i traffic, app.traffic? i = some traffic → traffic.Sound

theorem invariant_sound (limit : Nat) (admits : ResourceSample → Prop) :
    Invariant limit admits fun _ => Sound := by
  -- Of all changes of an application only a request reaches its traffic.
  constructor
  case created => exact fun _ _ _ _ _ => nofun
  case request =>
    intro _ app i latency status now _ sound j traffic found
    rw [traffic?_recordRequest] at found
    have before : ((app.traffic? i).getD (.create now)).Sound := by
      cases there : app.traffic? i with
      | none => exact Traffic.sound_create now
      | some traffic => exact sound i traffic there
    split at found
    · cases found
      cases recorded : ((app.traffic? i).getD (.create now)).record? latency status now with
      | none => exact before
      | some after => exact before.record? recorded
    · exact sound j traffic found
  case sample => exact fun _ _ _ _ _ _ _ _ sound => sound
  case line => exact fun _ _ _ _ _ _ sound => sound
  case platformLine => exact fun _ _ _ sound => sound
  case crash => exact fun _ _ _ _ sound => sound

theorem Sound.present {app : App} (sound : app.Sound) {traffic : Traffic}
    (member : traffic ∈ Slots.present app.traffic) : traffic.Sound := by
  obtain ⟨i, found⟩ := Slots.mem_present member
  exact sound i traffic found

def kept (app : App) (now : Instant) (threshold : Int) : List Container :=
  (Slots.present app.containers).filter (·.recent now threshold)

def keptSamples (app : App) (now : Instant) (threshold : Int) : List ResourceSample :=
  (app.kept now threshold).filterMap (·.sample)

/-- What a view at an instant shows of an application. -/
structure Shows (app : App) (now : Instant) (threshold : Int) (shown : App) : Prop where
  id : shown.id = app.id
  platformLines : shown.platformLines = app.platformLines
  crashes : shown.crashes = app.crashes
  crashCount : shown.crashCount = app.crashCount
  places : shown.containers.length = app.containers.length
  containers : ∀ i, shown.container? i = (app.container? i).filter (·.recent now threshold)
  reporting : shown.rollup.reporting = (app.kept now threshold).countP (·.sample.isSome)
  lines : shown.rollup.lines = ((app.kept now threshold).map (·.lines.out)).sum +
    ((app.kept now threshold).map (·.lines.err)).sum +
    (app.platformLines.out + app.platformLines.err)
  trafficPlaces : shown.traffic.length = app.traffic.length
  traffic : ∀ i, shown.traffic? i = (app.traffic? i).map (·.readAt now)
  requests : shown.totalTraffic.requests =
    ((Slots.present app.traffic).map (·.requests)).sum
  classes : ∀ statusClass, shown.totalTraffic.classes.get statusClass =
    ((Slots.present app.traffic).map (·.classes.get statusClass)).sum
  classed : shown.totalTraffic.requests = shown.totalTraffic.classes.total
  lastAccess : shown.totalTraffic.lastAccess =
    ((Slots.present app.traffic).filterMap (·.lastAccess)).max?

section
variable (app : App) (now : Instant) (threshold : Int)

theorem containers_evictStale :
    (app.evictStale now threshold).containers =
      app.containers.map (·.filter (·.recent now threshold)) := by
  have same : (fun container : Container => !container.stale now threshold) =
      fun container => container.recent now threshold := by
    funext container
    rw [Bool.eq_iff_iff]
    simp [Container.stale, Container.recent]
  unfold evictStale
  rw [same]

theorem present_evictStale :
    Slots.present (app.evictStale now threshold).containers = app.kept now threshold := by
  rw [containers_evictStale, Slots.present_filter, kept]

theorem samples_evictStale :
    (app.evictStale now threshold).samples = app.keptSamples now threshold := by
  rw [samples, present_evictStale, keptSamples]

theorem container?_finalizeApp (i : Nat) :
    (Figures.finalizeApp now threshold app).container? i =
      (app.container? i).filter (·.recent now threshold) := by
  have evicted := containers_evictStale (app.finalizeTraffic now) now threshold
  exact (congrArg (Slots.get? · i) evicted).trans (Slots.get?_filter _ _ i)

theorem totalTraffic_finalizeTraffic :
    (app.finalizeTraffic now).totalTraffic = .rollup (Slots.present app.traffic) now := by
  show Traffic.rollup (Slots.present (app.traffic.map (·.map (·.finalize now)))) now = _
  rw [Slots.present_map, Traffic.rollup_finalize]

theorem finalizeTraffic_idem :
    (app.finalizeTraffic now).finalizeTraffic now = app.finalizeTraffic now := by
  have once : (app.finalizeTraffic now).traffic.map (·.map (·.finalize now)) =
      (app.finalizeTraffic now).traffic := by
    show (app.traffic.map (·.map (·.finalize now))).map (·.map (·.finalize now)) =
      app.traffic.map (·.map (·.finalize now))
    rw [List.map_map]
    refine List.map_congr_left fun slot _ => ?_
    cases slot <;> rfl
  rw [finalizeTraffic, once]
  rfl

theorem evictStale_idem :
    (app.evictStale now threshold).evictStale now threshold = app.evictStale now threshold := by
  have once : (app.evictStale now threshold).containers.map
      (·.filter fun container => !container.stale now threshold) =
        (app.evictStale now threshold).containers := by
    rw [evictStale, List.map_map]
    refine List.map_congr_left fun slot _ => ?_
    rw [Function.comp_apply, Option.filter_filter]
    simp only [Bool.and_self]
  rw [evictStale, once]

theorem reporting_rollupOf :
    app.rollupOf.reporting = (Slots.present app.containers).countP (·.sample.isSome) :=
  List.length_filterMap_eq_countP

theorem lines_rollupOf :
    app.rollupOf.lines = ((Slots.present app.containers).map (·.lines.out)).sum +
      ((Slots.present app.containers).map (·.lines.err)).sum +
      (app.platformLines.out + app.platformLines.err) := by
  rw [← List.sum_map_add, Nat.add_comm]
  rfl

end

theorem Sound.classed_rollup {app : App} (sound : app.Sound) (now : Instant) :
    (Traffic.rollup (Slots.present app.traffic) now).requests =
      (Traffic.rollup (Slots.present app.traffic) now).classes.total := by
  have each : ∀ traffic ∈ Slots.present app.traffic, traffic.requests =
      traffic.classes.get .success + traffic.classes.get .redirect +
        traffic.classes.get .clientError + traffic.classes.get .serverError :=
    fun traffic member => (sound.present member).classed
  have total : ∀ counts : ClassCounts, counts.total = counts.get .success +
      counts.get .redirect + counts.get .clientError + counts.get .serverError := fun _ => rfl
  rw [total, Traffic.requests_rollup, List.map_congr_left each]
  simp only [List.sum_map_add, Traffic.classes_rollup]

theorem Sound.shows {app : App} (sound : app.Sound) (now : Instant) (threshold : Int) :
    app.Shows now threshold (Figures.finalizeApp now threshold app) := by
  have total : (Figures.finalizeApp now threshold app).totalTraffic =
      .rollup (Slots.present app.traffic) now := totalTraffic_finalizeTraffic app now
  have present := present_evictStale (app.finalizeTraffic now) now threshold
  have kept : (app.finalizeTraffic now).kept now threshold = app.kept now threshold := rfl
  constructor
  case id => rfl
  case platformLines => rfl
  case crashes => rfl
  case crashCount => rfl
  case places => exact List.length_map _
  case containers => exact container?_finalizeApp app now threshold
  case reporting =>
    have counted := reporting_rollupOf ((app.finalizeTraffic now).evictStale now threshold)
    rwa [present, kept] at counted
  case lines =>
    have counted := lines_rollupOf ((app.finalizeTraffic now).evictStale now threshold)
    rwa [present, kept] at counted
  case trafficPlaces => exact List.length_map _
  case traffic =>
    intro i
    refine (Slots.get?_map app.traffic (·.finalize now) i).trans ?_
    have whole : Slots.get? app.traffic i = app.traffic? i := rfl
    rw [whole]
    cases found : app.traffic? i with
    | none => rw [Option.map_none, Option.map_none]
    | some traffic => rw [Option.map_some, Option.map_some, (sound i traffic found).finalize_eq]
  case requests => rw [total, Traffic.requests_rollup]
  case classes =>
    intro statusClass
    rw [total, Traffic.classes_rollup]
  case classed => rw [total, sound.classed_rollup]
  case lastAccess => rw [total, Traffic.lastAccess_rollup]

end App

namespace Figures

theorem finalizeApp_idem (now : Instant) (threshold : Int) (app : App) :
    finalizeApp now threshold (finalizeApp now threshold app) = finalizeApp now threshold app := by
  -- Neither of the first two passes reads the roll-up or what the other one writes.
  calc finalizeApp now threshold (finalizeApp now threshold app)
      = ((((app.finalizeTraffic now).finalizeTraffic now).evictStale now threshold).evictStale
          now threshold).recomputeRollup := rfl
    _ = finalizeApp now threshold app := by
        rw [App.finalizeTraffic_idem, App.evictStale_idem, finalizeApp]

theorem finalize_idem (figures : Figures) (now : Instant) (threshold : Int) :
    (figures.finalize now threshold).finalize now threshold = figures.finalize now threshold := by
  simp only [finalize, Table.map_map, finalizeApp_idem]

end Figures

/-- A copy of live figures, finalized at an instant, has their applications, cells, routes and
counters. It shows of each application what is not stale with the figures of all its traffic,
and to finalize it again at the same instant changes nothing. -/
theorem Board.view_exact {intake : Intake} (live : intake.figures.Live intake.config)
    (board : Board) (now : Instant) (threshold : Int) :
    let view := ((board.copy intake).1.finalize now threshold).figures
    view.apps.keys = intake.figures.apps.keys ∧ view.cells = intake.figures.cells ∧
      view.routes = intake.figures.routes ∧ view.ingest = intake.figures.ingest ∧
      (∀ id app, intake.figures.apps.get? id = some app →
        ∃ shown, view.apps.get? id = some shown ∧ app.Shows now threshold shown) ∧
      view.finalize now threshold = view := by
  intro view
  refine ⟨Table.keys_map _ _, rfl, rfl, rfl, ?_, Figures.finalize_idem _ _ _⟩
  intro id app found
  have sound : app.Sound := live.each (App.invariant_sound _ _) id app found
  refine ⟨Figures.finalizeApp now threshold app, ?_, sound.shows now threshold⟩
  have mapped := intake.figures.apps.get?_map (Figures.finalizeApp now threshold) id
  rwa [found] at mapped

/-- A sample and a request at one instance, read once the instance has gone stale: the container
is left out and the request is not. -/
theorem Board.view_exact_stale :
    let sample : MetricEvent := { applicationId := some "app", instanceIndex := some 0 }
    let request : HttpEvent :=
      { peer := some .client, uri := "a.com", status := 404, applicationId := some "app",
        instanceIndex := some 0 }
    let intake := ((Intake.create {}).process 0 { event := .metric sample } 0).process 0
      { event := .http request } 0
    let board := Board.create {} 0
    let view := ((board.copy intake).1.finalize 81000000000 80000000000).figures
    intake.figures.Live intake.config ∧ ∃ app shown, intake.figures.apps.get? "app" = some app ∧
      view.apps.get? "app" = some shown ∧ (app.container? 0).isSome = true ∧
      shown.container? 0 = none ∧ shown.totalTraffic.requests = 1 ∧
      view.finalize 81000000000 80000000000 = view := by
  intro sample request intake board view
  have live : intake.figures.Live intake.config :=
    Intake.live_process (Intake.live_process (Intake.live_create {}) _ _ _) _ _ _
  obtain ⟨-, -, -, -, apps, again⟩ := view_exact live board 81000000000 80000000000
  have state : (intake.figures.apps.get? "app").map (fun app =>
      ((app.container? 0).map (·.lastUpdate),
        (Slots.present app.traffic).map (·.requests))) = some (some 0, [1]) := by
    decide +kernel
  obtain ⟨app, found, facts⟩ := Option.map_eq_some_iff.mp state
  obtain ⟨updated, requests⟩ := Prod.ext_iff.mp facts
  obtain ⟨container, there, first⟩ := Option.map_eq_some_iff.mp updated
  obtain ⟨shown, viewed, shows⟩ := apps "app" app found
  refine ⟨live, app, shown, found, viewed, ?_, ?_, ?_, again⟩
  · rw [there, Option.isSome_some]
  · rw [shows.containers, there]
    simp [Container.recent, first]
  · rw [shows.requests, show (Slots.present app.traffic).map (·.requests) = [1] from requests]
    rfl

end Telemetry
