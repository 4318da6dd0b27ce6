import Telemetry.Proofs.Route.Refusal

/-!
Everything in a tree stands under the name it bears.

Domains, hosts and applications name the key they are kept under, the lists that are searched
from the longest text on are in that order without repetition, and the requests with one method
are those with each of their statuses. Registrations and requests keep this, refused or not.
-/

set_option autoImplicit false

namespace Telemetry

namespace Route

def MethodTraffic.Balanced (traffic : MethodTraffic) : Prop :=
  traffic.requests = traffic.statuses.values.sum + traffic.otherStatuses

structure AppTraffic.Filed (appId : String) (traffic : AppTraffic) : Prop where
  id : traffic.appId = appId
  methods : traffic.methods.Each MethodTraffic.Balanced

end Route

def Route.Filed (route : Route) : Prop := route.apps.EachAt Route.AppTraffic.Filed

structure Host.Filed (name : String) (host : Host) : Prop where
  name : host.name = name
  routes : host.routes.Each Route.Filed
  tcpRoutes : host.tcpRoutes.Each Route.Filed
  ranked : Route.Ranked host.index
  indexed : ∀ text, text ∈ host.index ↔ text ∈ host.routes.keys

namespace Route

structure Domain.Filed (name : String) (domain : Domain) : Prop where
  name : domain.name = name
  hosts : domain.hosts.table.EachAt Host.Filed

structure Tree.Filed (tree : Tree) : Prop where
  domains : tree.domains.table.EachAt Domain.Filed
  known : Ranked tree.knownDomains

theorem MethodTraffic.balanced_record (request : Request) (now : Instant) :
    Keeps Balanced (·.record request now) := by
  intro traffic balanced
  unfold Balanced at balanced ⊢
  simp only [record]
  split
  · rw [Table.sum_count]
    omega
  · omega

theorem AppTraffic.filed_record (appId : String) (limits : KeyLimits) (method : Method)
    (request : Request) (now : Instant) :
    Keeps (Filed appId) (·.record method limits request now) :=
  fun _ filed => ⟨filed.id,
    (MethodTraffic.balanced_record request now).visit (.create limits) rfl method _ filed.methods⟩

theorem filed_visitApp {α : Type} {change : AppTraffic → α × AppTraffic} {appId : String}
    (keeps : Keeps (AppTraffic.Filed appId) change) : Keeps Filed (·.visitApp appId change) :=
  fun _ filed => keeps.visitAt ⟨rfl, Table.each_empty⟩ _ filed

end Route

namespace Host

theorem ranked_index (host : Host) : Route.Ranked host.index := by
  rw [host.indexed]
  exact Route.ranked_longestFirst host.routes.distinct

theorem mem_index (host : Host) (text : String) : text ∈ host.index ↔ text ∈ host.routes.keys := by
  rw [host.indexed]
  exact Route.mem_longestFirst

theorem filed_create (name : String) : (create name).Filed name where
  name := rfl
  routes := Table.each_empty
  tcpRoutes := Table.each_empty
  ranked := ranked_index _
  indexed := mem_index _

theorem filed_visit {α : Type} {change : Route → α × Route} (keeps : Keeps Route.Filed change)
    (name : String) (target : Route.Target) : Keeps (Filed name) (·.visit target change) := by
  intro host filed
  have visited := fun {κ : Type} [DecidableEq κ] (key : κ) =>
    keeps.visit {} Table.eachAt_empty key
  refine ⟨?_, ?_, ?_, ranked_index _, mem_index _⟩
  · cases target <;> exact filed.name
  · cases target with
    | path text => exact visited text _ filed.routes
    | port number => exact filed.routes
  · cases target with
    | path text => exact filed.tcpRoutes
    | port number => exact visited number _ filed.tcpRoutes

end Host

namespace Route.Tree

theorem filed_create (limits : Limits) : (create limits).Filed where
  domains := Table.eachAt_empty
  known := ⟨.nil, .nil⟩

section
variable {α : Type} {tree after : Tree} {domain host : String} {change : Host → α × Host}
  {outcome : Except Error α}

theorem Filed.domainAt (filed : tree.Filed) (domain : String) :
    (tree.domainAt domain).Filed domain :=
  filed.domains.getD ⟨rfl, Table.eachAt_empty⟩

theorem Filed.hostAt (filed : tree.Filed) (domain host : String) :
    (tree.hostAt domain host).Filed host := by
  rw [Tree.hostAt, ← get?_domainAt]
  exact (filed.domainAt domain).hosts.getD (Host.filed_create host)

theorem Filed.setDomain (filed : tree.Filed) {entry : Domain} (fit : entry.Filed domain) :
    (tree.setDomain domain entry).Filed where
  domains := filed.domains.insert fit
  known := filed.known

theorem Visit.filed (visit : Visit tree domain host change (outcome, after))
    (keeps : Keeps (Host.Filed host) change) (filed : tree.Filed) : after.Filed := by
  have before := filed.domainAt domain
  cases visit with
  | domainRefused full => exact ⟨filed.domains, filed.known⟩
  | @hostRefused entry room same full =>
    subst same
    exact filed.setDomain ⟨before.name, before.hosts⟩
  | @changed entry result value room same space changed =>
    subst same
    have fit : value.Filed host := by
      have kept := keeps _ (filed.hostAt domain host)
      rwa [← changed] at kept
    rw [CappedTable.insert_of_admits space]
    exact filed.setDomain ⟨before.name, before.hosts.insert fit⟩

theorem ranked_learnDomain (ranked : Ranked tree.knownDomains) (domain : String) :
    Ranked (tree.learnDomain domain).knownDomains := by
  refine ⟨distinct_learnDomain ranked.distinct domain, ?_⟩
  unfold learnDomain
  split
  · exact ranked.sorted
  · exact pairwise_longestFirst _

theorem Filed.learnDomain (filed : tree.Filed) (domain : String) :
    (tree.learnDomain domain).Filed where
  domains := tree.domains_learnDomain domain ▸ filed.domains
  known := ranked_learnDomain filed.known domain

theorem Filed.submit (filed : tree.Filed) (registration : Registration) :
    (registration.submit tree).2.Filed := by
  have identified : Keeps (Host.Filed registration.place.host) registration.effect :=
    fun host => Host.filed_visit (fun _ filed => filed) _ registration.place.target host
  exact (registration.visit_submit tree).filed identified (filed.learnDomain _)

theorem Filed.track (filed : tree.Filed) (event : HttpEvent) (appId : String) (now : Instant) :
    (tree.track event appId now).2.Filed := by
  have tracked := (Prod.eta (tree.track event appId now)).symm
  rcases track_cases tracked with ⟨error, -, -, same⟩ | ⟨location, -, visit⟩
  · rw [same]
    exact filed
  · have counted : Keeps Route.Filed (tree.countOn event appId now) :=
      filed_visitApp (AppTraffic.filed_record appId tree.limits.keys event.method _ now)
    exact visit.filed (fun host => Host.filed_visit counted _ _ host) filed

theorem Filed.perform (filed : tree.Filed) (act : Act) : (tree.perform act).2.Filed := by
  cases act with
  | register registration => exact filed.submit registration
  | track event appId now => exact filed.track event appId now

theorem Filed.performAll (filed : tree.Filed) (acts : List Act) : (tree.performAll acts).Filed := by
  induction acts generalizing tree with
  | nil => exact filed
  | cons act rest ih => exact ih (filed.perform act)

end

end Route.Tree

end Telemetry
