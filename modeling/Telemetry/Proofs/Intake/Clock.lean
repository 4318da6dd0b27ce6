import Telemetry.Proofs.Intake.Frame
import Telemetry.Proofs.Intake.Step

/-!
When something was heard of last.

Containers, traffic and methods keep the latest of the times at which they were heard of, cells
the time of the gauge that came last. So the time of a cell alone may go back.

Main statement: along a run no time goes back exactly when the gauges of each cell come in the
order of their times, and when the first of them is not older than what the cell has.
-/

set_option autoImplicit false

namespace Telemetry

/-! ### Times that may be missing -/

theorem time_le_refl (time : Option Instant) : time ≤ time := by
  cases time with
  | none => exact Option.none_le
  | some time => exact Option.some_le_some.mpr (Int.le_refl time)

theorem time_le_trans {a b c : Option Instant} (first : a ≤ b) (second : b ≤ c) : a ≤ c := by
  cases a with
  | none => exact Option.none_le
  | some a =>
    cases b with
    | none => exact absurd first Option.not_some_le_none
    | some b =>
      cases c with
      | none => exact absurd second Option.not_some_le_none
      | some c =>
        rw [Option.some_le_some] at first second ⊢
        exact Int.le_trans first second

theorem time_le_latest (time : Option Instant) (now : Instant) :
    time ≤ some (latest time now) := by
  cases time with
  | none => exact Option.none_le
  | some time => exact Option.some_le_some.mpr (Int.le_max_left time now)

section
variable {κ ν : Type} [DecidableEq κ] {time : ν → Option Instant}

theorem Table.Extends.time_le {table later : Table κ ν}
    (extended : table.Extends (fun before after => time before ≤ time after) later) (key : κ) :
    (table.get? key).bind time ≤ (later.get? key).bind time := by
  cases found : table.get? key with
  | none => exact Option.none_le
  | some value =>
    obtain ⟨next, there, moved⟩ := extended key value found
    rw [there]
    exact moved

end

/-! ### Applications -/

inductive App.Part where
  | container (i : Nat)
  | traffic (i : Nat)
  | totalTraffic
  deriving DecidableEq

def App.lastSeen? (app : App) : App.Part → Option Instant
  | .container i => (app.container? i).map (·.lastUpdate)
  | .traffic i => (app.traffic? i).bind (·.lastAccess)
  | .totalTraffic => app.totalTraffic.lastAccess

namespace App

section
variable {app : App} {i : Nat} {now : Instant}

theorem lastSeen?_updateContainer {change : Container → Container}
    (part : Part)
    (grows : ∀ container : Container, container.lastUpdate ≤ (change container).lastUpdate) :
    app.lastSeen? part ≤ (app.updateContainer i now change).lastSeen? part := by
  cases part with
  | container j =>
    simp only [lastSeen?, container?_updateContainer]
    split
    · next here =>
      subst here
      cases app.container? i with
      | none => exact Option.none_le
      | some container => exact Option.some_le_some.mpr (grows container)
    · exact time_le_refl _
  | traffic j => exact time_le_refl _
  | totalTraffic => exact time_le_refl _

theorem lastSeen?_recordRequest (latency status : Nat) (part : Part) :
    app.lastSeen? part ≤ (app.recordRequest i latency status now).2.lastSeen? part := by
  cases part with
  | container j => exact time_le_refl _
  | traffic j =>
    simp only [lastSeen?, traffic?_recordRequest]
    split
    · next here =>
      subst here
      cases app.traffic? i with
      | none => exact Option.none_le
      | some traffic =>
        -- A status without a class is not recorded, and the time stays as it is.
        show traffic.lastAccess ≤ ((traffic.record? latency status now).getD traffic).lastAccess
        unfold Traffic.record?
        cases StatusClass.ofStatus? status with
        | none => exact time_le_refl _
        | some statusClass => exact time_le_latest _ _
    · exact time_le_refl _
  | totalTraffic => exact time_le_refl _

theorem Step.lastSeen?_le {limit : Nat} {event : Event} {after : App}
    (step : app.Step limit now event after) (part : Part) :
    app.lastSeen? part ≤ after.lastSeen? part := by
  cases step with
  | request => exact lastSeen?_recordRequest _ _ part
  | sample =>
    refine lastSeen?_updateContainer part fun container => ?_
    exact Int.le_max_left container.lastUpdate now
  | line =>
    refine lastSeen?_updateContainer part fun container => ?_
    exact Int.le_refl container.lastUpdate
  | platformLine | crash => cases part <;> exact time_le_refl _

end

end App

theorem Figures.AppsStep.extends {limit : Nat} {event : Event} {now : Instant}
    {apps later : Table String App} (step : AppsStep limit now event apps later) (part : App.Part) :
    apps.Extends (fun before after => before.lastSeen? part ≤ after.lastSeen? part) later := by
  have reflexive : ∀ app : App, app.lastSeen? part ≤ app.lastSeen? part := fun _ => time_le_refl _
  cases step with
  | same => exact .refl reflexive apps
  | one named step =>
    refine Table.extends_insert reflexive ?_
    intro old found
    rw [found] at step
    exact step.lastSeen?_le part

/-! ### Routes -/

namespace Route

def AppTraffic.lastAccess? (traffic : AppTraffic) (method : Method) : Option Instant :=
  (traffic.methods.get? method).bind (·.lastAccess)

end Route

def Route.lastAccess? (route : Route) (appId : String) (method : Method) : Option Instant :=
  (route.apps.get? appId).bind (·.lastAccess? method)

namespace Route

namespace Tree

theorem lastAccess?_countOn (tree : Tree) (event : HttpEvent) (appId : String) (now : Instant)
    (other : String) (method : Method) :
    Moves (fun before after : Route =>
        before.lastAccess? other method ≤ after.lastAccess? other method)
      (tree.countOn event appId now) := by
  intro route
  have record : Moves (fun before after : MethodTraffic => before.lastAccess ≤ after.lastAccess)
      (·.record (.ofEvent event) now) :=
    fun traffic => time_le_latest traffic.lastAccess now
  have methods : Moves (fun before after : AppTraffic =>
        before.lastAccess? method ≤ after.lastAccess? method)
      (·.record event.method tree.limits.keys (.ofEvent event) now) :=
    fun traffic =>
      (record.visit (fun _ => time_le_refl _) _ event.method traffic.methods).time_le method
  exact (methods.visit (fun _ => time_le_refl _) _ appId route.apps).time_le other

def lastAccess? (tree : Tree) (place : Place) (appId : String) (method : Method) :
    Option Instant :=
  (tree.route? place).bind (·.lastAccess? appId method)

theorem lastAccess?_track (tree : Tree) (event : HttpEvent) (appId : String) (now : Instant)
    (place : Place) (other : String) (method : Method) :
    tree.lastAccess? place other method ≤
      (tree.track event appId now).2.lastAccess? place other method := by
  have tracked := (Prod.eta (tree.track event appId now)).symm
  have kept : ∀ after : Tree, after.route? = tree.route? →
      tree.lastAccess? place other method ≤ after.lastAccess? place other method := by
    intro after same
    unfold lastAccess?
    rw [same]
    exact time_le_refl _
  rcases track_cases tracked with ⟨error, -, -, same⟩ | ⟨location, -, visit⟩
  · exact kept _ (by rw [same])
  · rcases visit.counts with ⟨error, -, -, same⟩ | ⟨refused, route, -, counted, routes⟩
    · exact kept _ same
    · unfold lastAccess?
      rw [routes, Function.update_apply]
      split
      · next here =>
        cases found : tree.route? place with
        | none => exact Option.none_le
        | some before =>
          rw [← here, found, Option.getD_some] at counted
          have moved := tree.lastAccess?_countOn event appId now other method before
          rw [counted] at moved
          exact moved
      · exact time_le_refl _

end Tree

end Route

/-! ### Figures -/

inductive Entity where
  | part (appId : String) (part : App.Part)
  | method (place : Route.Place) (appId : String) (method : Method)
  | cell (ip : String)
  deriving DecidableEq

namespace Figures

/-- When an entity was heard of last, as far as the figures know it. -/
def lastSeen? (figures : Figures) : Entity → Option Instant
  | .part appId part => (figures.apps.get? appId).bind (·.lastSeen? part)
  | .method place appId method => figures.routes.lastAccess? place appId method
  | .cell ip => (figures.cells.get? ip).bind (·.lastUpdate)

section
variable (config : Config) (figures : Figures) (arrival : Arrival)

theorem lastAccess?_apply (place : Route.Place) (appId : String) (method : Method) :
    figures.routes.lastAccess? place appId method ≤
      (figures.apply config arrival.stream arrival.envelope arrival.now).routes.lastAccess?
        place appId method := by
  rcases figures.routes_apply config arrival with same | ⟨event, other, tracked⟩
  · rw [same]
    exact time_le_refl _
  · rw [tracked]
    exact figures.routes.lastAccess?_track event other arrival.now place appId method

theorem lastSeen?_cell (ip : String) :
    (figures.apply config arrival.stream arrival.envelope arrival.now).lastSeen? (.cell ip) =
      if fateOf config arrival = .gauge ip then some arrival.now
      else figures.lastSeen? (.cell ip) := by
  unfold lastSeen?
  by_cases gauge : ∃ ip, Meets config arrival (.gauge ip)
  · obtain ⟨place, meets⟩ := gauge
    rw [fateOf_of_meets meets]
    cases meets with
    | gauge came known somewhere =>
      obtain ⟨gauge, read⟩ := Option.isSome_iff_exists.mp known
      simp only [cells_of_gauge came read somewhere, Table.get?_update, Fate.gauge.injEq]
      by_cases here : ip = arrival.envelope.ip
      · rw [if_pos here, if_pos here.symm]
        rfl
      · rw [if_neg here, if_neg (Ne.symm here)]
  · have elsewhere : fateOf config arrival ≠ .gauge ip :=
      fun meets => gauge ⟨ip, (fateOf_eq_iff _).mp meets⟩
    rw [if_neg elsewhere, cells_of_no_gauge (not_exists.mp gauge)]

theorem lastSeen?_le_apply {entity : Entity} (other : ∀ ip, entity ≠ .cell ip) :
    figures.lastSeen? entity ≤
      (figures.apply config arrival.stream arrival.envelope arrival.now).lastSeen? entity := by
  cases entity with
  | part appId part =>
    have step := appsStep_apply config figures arrival.stream arrival.envelope arrival.now
    exact (step.extends part).time_le appId
  | method place appId method => exact figures.lastAccess?_apply config arrival place appId method
  | cell ip => exact absurd rfl (other ip)

end

end Figures

/-! ### Runs -/

theorem isChain_toList_append (time : Option Instant) (now : Instant) (rest : List Instant) :
    (time.toList ++ now :: rest).IsChain (· ≤ ·) ↔
      time ≤ some now ∧ (now :: rest).IsChain (· ≤ ·) := by
  cases time with
  | none => exact (and_iff_right Option.none_le).symm
  | some time =>
    rw [Option.some_le_some]
    exact List.isChain_cons_cons

namespace Intake

def gaugeTimes (config : Config) (ip : String) (arrivals : List Arrival) : List Instant :=
  (arrivals.filter fun arrival => fateOf config arrival = .gauge ip).map (·.now)

theorem gaugeTimes_cons (config : Config) (ip : String) (arrival : Arrival)
    (rest : List Arrival) :
    gaugeTimes config ip (arrival :: rest) =
      if fateOf config arrival = .gauge ip then arrival.now :: gaugeTimes config ip rest
      else gaugeTimes config ip rest := by
  simp only [gaugeTimes, List.filter_cons, decide_eq_true_eq]
  split <;> rfl

/-- No event of a run takes a time back. -/
def Steady (intake : Intake) : List Arrival → Prop
  | [] => True
  | arrival :: rest =>
    (∀ entity, intake.figures.lastSeen? entity ≤
      (intake.take arrival).figures.lastSeen? entity) ∧ (intake.take arrival).Steady rest

section
variable (intake : Intake)

theorem lastSeen?_cell_take (arrival : Arrival) (ip : String) :
    (intake.take arrival).figures.lastSeen? (.cell ip) =
      if fateOf intake.config arrival = .gauge ip then some arrival.now
      else intake.figures.lastSeen? (.cell ip) :=
  intake.figures.lastSeen?_cell intake.config arrival ip

theorem forall_lastSeen?_le_take_iff (arrival : Arrival) :
    (∀ entity, intake.figures.lastSeen? entity ≤
      (intake.take arrival).figures.lastSeen? entity) ↔
    ∀ ip, intake.figures.lastSeen? (.cell ip) ≤
      (intake.take arrival).figures.lastSeen? (.cell ip) := by
  constructor
  · exact fun all ip => all (.cell ip)
  · intro cells entity
    by_cases cell : ∃ ip, entity = .cell ip
    · obtain ⟨ip, rfl⟩ := cell
      exact cells ip
    · exact intake.figures.lastSeen?_le_apply intake.config arrival fun ip here => cell ⟨ip, here⟩

theorem lastSeen?_le_run {entity : Entity} (other : ∀ ip, entity ≠ .cell ip)
    (arrivals : List Arrival) :
    intake.figures.lastSeen? entity ≤ (intake.run arrivals).figures.lastSeen? entity := by
  induction arrivals generalizing intake with
  | nil => exact time_le_refl _
  | cons arrival rest ih =>
    have first := intake.figures.lastSeen?_le_apply intake.config arrival other
    exact time_le_trans first (ih (intake.take arrival))

theorem lastSeen?_cell_run (arrivals : List Arrival) (ip : String) :
    (intake.run arrivals).figures.lastSeen? (.cell ip) =
      (gaugeTimes intake.config ip arrivals).getLast?.or (intake.figures.lastSeen? (.cell ip)) := by
  induction arrivals generalizing intake with
  | nil => rfl
  | cons arrival rest ih =>
    refine (ih (intake.take arrival)).trans ?_
    show (gaugeTimes intake.config ip rest).getLast?.or _ = _
    rw [lastSeen?_cell_take, gaugeTimes_cons]
    split
    · rw [List.getLast?_cons]
      cases (gaugeTimes intake.config ip rest).getLast? <;> rfl
    · rfl

theorem steady_iff (arrivals : List Arrival) :
    intake.Steady arrivals ↔ ∀ ip, ((intake.figures.lastSeen? (.cell ip)).toList ++
      gaugeTimes intake.config ip arrivals).IsChain (· ≤ ·) := by
  induction arrivals generalizing intake with
  | nil =>
    refine iff_of_true trivial fun ip => ?_
    cases intake.figures.lastSeen? (.cell ip) with
    | none => exact .nil
    | some time => exact .singleton time
  | cons arrival rest ih =>
    rw [Steady, forall_lastSeen?_le_take_iff, ih, ← forall_and]
    refine forall_congr' fun ip => ?_
    show _ ∧ (_ ++ gaugeTimes intake.config ip rest).IsChain _ ↔ _
    rw [lastSeen?_cell_take, gaugeTimes_cons]
    split
    · rw [isChain_toList_append]
      rfl
    · exact and_iff_right (time_le_refl _)

end

/-- No event takes back the time of anything but a cell, and that of a cell it takes back exactly
when it is a gauge of that cell and came at an earlier time. Along a run a cell always has the
time of its last gauge; so nothing goes back exactly when the gauges of each cell come in the order
of their times, none before the time that the cell has already. -/
theorem lastSeen_exact (intake : Intake) :
    (∀ arrival, (∀ entity, intake.figures.lastSeen? entity ≤
        (intake.take arrival).figures.lastSeen? entity) ↔
      ∀ ip time, Meets intake.config arrival (.gauge ip) →
        intake.figures.lastSeen? (.cell ip) = some time → time ≤ arrival.now) ∧
    (∀ arrivals entity, (∀ ip, entity ≠ .cell ip) → intake.figures.lastSeen? entity ≤
      (intake.run arrivals).figures.lastSeen? entity) ∧
    (∀ arrivals ip, (intake.run arrivals).figures.lastSeen? (.cell ip) =
      (gaugeTimes intake.config ip arrivals).getLast?.or (intake.figures.lastSeen? (.cell ip))) ∧
    ∀ arrivals, intake.Steady arrivals ↔ ∀ ip, ((intake.figures.lastSeen? (.cell ip)).toList ++
      gaugeTimes intake.config ip arrivals).IsChain (· ≤ ·) := by
  refine ⟨?_, ?_, intake.lastSeen?_cell_run, intake.steady_iff⟩
  · intro arrival
    -- Only cells can go back, and only the one whose gauge has come.
    rw [forall_lastSeen?_le_take_iff]
    refine forall_congr' fun ip => ?_
    rw [lastSeen?_cell_take, ← fateOf_eq_iff]
    by_cases here : fateOf intake.config arrival = .gauge ip
    · rw [if_pos here]
      cases seen : intake.figures.lastSeen? (.cell ip) with
      | none => simp
      | some time => simp [here]
    · rw [if_neg here]
      exact iff_of_true (time_le_refl _) fun _ meets => absurd meets here
  · exact fun arrivals entity other => intake.lastSeen?_le_run other arrivals

/-- Two gauges of one cell, the second from an earlier time: the cell goes back to that. -/
theorem lastSeen_gauge_back :
    let gauge (now : Instant) : Arrival :=
      ⟨0, { ip := "10.0.0.1", event := .gauge { name := "numCPUS" } }, now⟩
    let before := (create {}).run [gauge 5]
    let after := before.take (gauge 3)
    before.figures.Live before.config ∧ before.figures.lastSeen? (.cell "10.0.0.1") = some 5 ∧
      after.figures.lastSeen? (.cell "10.0.0.1") = some 3 := by
  intro gauge before after
  exact ⟨live_process (live_create {}) _ _ _, by decide +kernel, by decide +kernel⟩

end Intake

end Telemetry
