import Telemetry.Proofs.Table
import Telemetry.Route.Host

/-!
What a request adds to the figures of a host.

Every request raises the count of requests by one and the count of refused keys by as many as
it is said to have had refused. A registration raises neither.
-/

set_option autoImplicit false

namespace Telemetry

namespace Route

def countKey (counted : Nat × CappedTable String Nat) (key : String) :
    Nat × CappedTable String Nat :=
  let updated := counted.2.update key 0 (· + 1)
  (if updated.1 then counted.1 else counted.1 + 1, updated.2)

theorem countKeys_eq (table : CappedTable String Nat) (keys : List String) :
    countKeys table keys = (keys.filter (· ≠ "")).foldl countKey (0, table) := rfl

theorem rejected_countKey (counted : Nat × CappedTable String Nat) (key : String) :
    (countKey counted key).2.rejected + counted.1 =
      counted.2.rejected + (countKey counted key).1 := by
  have here := counted.2.rejected_update key 0 (· + 1)
  simp only [countKey]
  split at here <;> simp_all
  omega

theorem rejected_foldl_countKey (keys : List String) (counted : Nat × CappedTable String Nat) :
    (keys.foldl countKey counted).2.rejected + counted.1 =
      counted.2.rejected + (keys.foldl countKey counted).1 := by
  induction keys generalizing counted with
  | nil => rfl
  | cons key rest ih =>
    have first := rejected_countKey counted key
    have later := ih (countKey counted key)
    rw [List.foldl_cons]
    omega

theorem raises_countKeys (keys : List String) :
    Raises CappedTable.rejected (fun refused => refused) (countKeys · keys) := by
  intro table
  have counted := rejected_foldl_countKey (keys.filter (· ≠ "")) (0, table)
  rwa [← countKeys_eq] at counted

namespace MethodTraffic

def refusals (traffic : MethodTraffic) : Nat :=
  traffic.userAgents.rejected + traffic.forwarders.rejected

theorem raises_requests (request : Request) (now : Instant) :
    Raises requests (fun _ => 1) (·.record request now) :=
  fun _ => rfl

theorem raises_refusals (request : Request) (now : Instant) :
    Raises refusals (fun refused => refused) (·.record request now) := by
  intro traffic
  have agents := raises_countKeys request.userAgent.toList traffic.userAgents
  have forwarders := raises_countKeys request.forwarded traffic.forwarders
  simp only [refusals, record] at agents forwarders ⊢
  omega

end MethodTraffic

def AppTraffic.total (f : MethodTraffic → Nat) (traffic : AppTraffic) : Nat :=
  traffic.methods.total f

end Route

def Route.total (f : Route.MethodTraffic → Nat) (route : Route) : Nat :=
  route.apps.total (Route.AppTraffic.total f)

def Host.total (f : Route.MethodTraffic → Nat) (host : Host) : Nat :=
  host.routes.total (Route.total f) + host.tcpRoutes.total (Route.total f)

section
variable {f : Route.MethodTraffic → Nat} {α : Type} {raise : α → Nat}

theorem Route.AppTraffic.raises_record {raise : Nat → Nat} {request : Route.Request}
    {now : Instant} (raises : Raises f raise (·.record request now))
    {limits : Route.KeyLimits} (zero : f (.create limits) = 0) (method : Method) :
    Raises (total f) raise (·.record method limits request now) :=
  fun traffic => raises.visit _ zero method traffic.methods

theorem Route.raises_visitApp {change : Route.AppTraffic → α × Route.AppTraffic}
    (raises : Raises (Route.AppTraffic.total f) raise change) (appId : String) :
    Raises (total f) raise (·.visitApp appId change) :=
  fun route => raises.visit { appId } rfl appId route.apps

theorem Host.raises_visit {change : Route → α × Route}
    (raises : Raises (Route.total f) raise change) (target : Route.Target) :
    Raises (total f) raise (·.visit target change) := by
  intro host
  cases target with
  | path text =>
    have visited := raises.visit {} rfl text host.routes
    simp only [total, visit] at visited ⊢
    omega
  | port number =>
    have visited := raises.visit {} rfl number host.tcpRoutes
    simp only [total, visit] at visited ⊢
    omega

end

end Telemetry
