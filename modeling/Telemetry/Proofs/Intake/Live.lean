import Telemetry.Proofs.Intake.Step
import Telemetry.Proofs.Route.Registration

/-!
Live figures: those that events, registrations and clears can lead to.

What every change of an application keeps holds of all applications of live figures.
-/

set_option autoImplicit false

namespace Telemetry

/-- What the changes of an application keep, given the identity it stands under. Identities are not
empty, instances are up to a limit, and no samples are taken but those that are admitted. -/
structure App.Invariant (limit : Nat) (admits : ResourceSample → Prop)
    (property : String → App → Prop) : Prop where
  created : ∀ id now, id ≠ "" → property id (.create id now)
  request : ∀ id app i latency status now, i ≤ limit → property id app →
    property id (app.recordRequest i latency status now).2
  sample : ∀ id app i sample cell now, i ≤ limit → admits sample → property id app →
    property id (app.updateContainer i now (·.observe sample cell now))
  line : ∀ id app i stream now, i ≤ limit → property id app →
    property id (app.updateContainer i now (·.recordLine stream))
  platformLine : ∀ id app stream, property id app → property id (app.recordPlatformLine stream)
  crash : ∀ id app crash limit, property id app → property id (app.addCrash crash limit)

def Event.Brings (admits : ResourceSample → Prop) : Event → Prop
  | .metric event => admits event.sample
  | _ => True

namespace Figures

theorem AppsStep.eachAt {limit : Nat} {admits : ResourceSample → Prop}
    {property : String → App → Prop} {event : Event} {now : Instant} {apps later : Table String App}
    (step : AppsStep limit now event apps later) (invariant : App.Invariant limit admits property)
    (brings : event.Brings admits) (each : apps.EachAt property) : later.EachAt property := by
  cases step with
  | same => exact each
  | @one id app named step =>
    have before := each.getD (invariant.created id now named)
    refine each.insert ?_
    cases step with
    | request bounded => exact invariant.request id _ _ _ _ now bounded before
    | sample bounded => exact invariant.sample id _ _ _ _ now bounded brings before
    | line bounded => exact invariant.line id _ _ _ now bounded before
    | platformLine => exact invariant.platformLine id _ _ before
    | crash => exact invariant.crash id _ _ _ (invariant.platformLine id _ _ before)

theorem eachAt_apply {config : Config} {admits : ResourceSample → Prop}
    {property : String → App → Prop} {figures : Figures}
    (invariant : App.Invariant config.maxInstanceIndex admits property)
    (each : figures.apps.EachAt property) (stream : Nat) {envelope : Envelope}
    (brings : envelope.event.Brings admits) (now : Instant) :
    (figures.apply config stream envelope now).apps.EachAt property :=
  (appsStep_apply config figures stream envelope now).eachAt invariant brings each

/-- Figures that events, registrations and clears can lead to. A registration counts also if
it is refused. -/
inductive Live (config : Config) : Figures → Prop where
  | create : Live config (.create config.routes)
  | event {figures : Figures} (stream : Nat) (envelope : Envelope) (now : Instant) :
      Live config figures → Live config (figures.apply config stream envelope now)
  | register {figures : Figures} (registration : Route.Registration) :
      Live config figures →
      Live config { figures with routes := (registration.submit figures.routes).2 }
  | clear {figures : Figures} : Live config figures → Live config figures.clear

section
variable {config : Config} {figures : Figures}

theorem Live.eachAt (live : figures.Live config) {property : String → App → Prop}
    (invariant : App.Invariant config.maxInstanceIndex (fun _ => True) property) :
    figures.apps.EachAt property := by
  induction live with
  | create => exact Table.eachAt_empty
  | event stream envelope now live each =>
    have brings : envelope.event.Brings fun _ => True := by
      cases envelope.event <;> trivial
    exact eachAt_apply invariant each stream brings now
  | register registration live each => exact each
  | clear live each => exact Table.eachAt_empty

theorem Live.each (live : figures.Live config) {property : App → Prop}
    (invariant : App.Invariant config.maxInstanceIndex (fun _ => True) fun _ => property) :
    figures.apps.Each property :=
  live.eachAt invariant

end

end Figures

theorem Intake.live_create (config : Config) :
    (create config).figures.Live (create config).config := .create

theorem Intake.live_process {intake : Intake} (live : intake.figures.Live intake.config)
    (stream : Nat) (envelope : Envelope) (now : Instant) :
    (intake.process stream envelope now).figures.Live
      (intake.process stream envelope now).config :=
  live.event stream envelope now

end Telemetry
