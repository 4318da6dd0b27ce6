import Telemetry.Proofs.Route.Longest
import Telemetry.Proofs.Route.Place

/-!
What a tree knows after registrations and requests.

Requests add domains, hosts and roots as they come. Beside the roots, the routes of a tree are
the registered ones, and so are the domains that names are split at and the identities.
-/

set_option autoImplicit false

namespace Telemetry

namespace Host

open Route (Target)

theorem mem_routes_keys (host : Host) (text : String) :
    text ∈ host.routes.keys ↔ (host.route? (.path text)).isSome :=
  host.routes.mem_keys_iff text

theorem routed_target (host : Host) (path : String) (port : Option Nat)
    (inner : host.target path port ≠ .path "") :
    (host.route? (host.target path port)).isSome := by
  unfold target at inner ⊢
  cases found : port.filter host.tcpRoutes.contains with
  | some number =>
    obtain ⟨-, routed⟩ := Option.filter_eq_some_iff.mp found
    exact routed
  | none =>
    rw [found] at inner
    have chosen := (host.longest_findPath path).mem
    rcases List.mem_cons.mp chosen with root | key
    · exact absurd (congrArg Target.path root) inner
    · exact (host.mem_routes_keys _).mp key

theorem target_congr {host other : Host}
    (same : ∀ target, target ≠ .path "" →
      ((host.route? target).isSome ↔ (other.route? target).isSome))
    (path : String) (port : Option Nat) : host.target path port = other.target path port := by
  have ports : host.tcpRoutes.contains = other.tcpRoutes.contains := by
    funext number
    exact Bool.eq_iff_iff.mpr (same (.port number) nofun)
  have paths : host.findPath path = other.findPath path := by
    refine findPath_congr path fun text inner => ?_
    rw [mem_routes_keys, mem_routes_keys]
    exact same (.path text) fun equal => inner (Target.path.inj equal)
  rw [target, target, ports, paths]

end Host

namespace Route

inductive Registration where
  | path (domain host path id : String)
  | port (domain : String) (number : Nat) (id : String)

namespace Registration

def place : Registration → Place
  | path domain host text _ =>
    ⟨Text.lowerAscii domain, Text.lowerAscii host, .path (normalizePath text)⟩
  | port domain number _ => ⟨Text.lowerAscii domain, "", .port number⟩

def id : Registration → String
  | path _ _ _ id | port _ _ id => id

def submit (tree : Tree) : Registration → Except Error Unit × Tree
  | path domain host text id => tree.registerPath domain host text id
  | port domain number id => tree.registerPort domain number id

def accepted? (registration : Registration) (tree : Tree) : Option Tree :=
  match registration.submit tree with
  | (.ok _, after) => some after
  | (.error _, _) => none

end Registration

namespace Tree

theorem mem_learnDomain (tree : Tree) (domain other : String) :
    other ∈ (tree.learnDomain domain).knownDomains ↔
      other ∈ tree.knownDomains ∨ other = domain := by
  unfold learnDomain
  split
  · next known =>
    constructor
    · exact .inl
    · rintro (member | rfl)
      · exact member
      · exact known
  · rw [mem_longestFirst, List.mem_append, List.mem_singleton]

theorem sorted_learnDomain {tree : Tree} (sorted : LongestFirst tree.knownDomains)
    (domain : String) : LongestFirst (tree.learnDomain domain).knownDomains := by
  unfold learnDomain
  split
  · exact sorted
  · exact sorted_longestFirst _

theorem domains_learnDomain (tree : Tree) (domain : String) :
    (tree.learnDomain domain).domains = tree.domains := by
  unfold learnDomain
  split <;> rfl

theorem limits_learnDomain (tree : Tree) (domain : String) :
    (tree.learnDomain domain).limits = tree.limits := by
  unfold learnDomain
  split <;> rfl

theorem route?_learnDomain (tree : Tree) (domain : String) :
    (tree.learnDomain domain).route? = tree.route? := by
  funext place
  rw [route?, host?, domains_learnDomain]
  rfl

end Tree

namespace Registration

def effect (registration : Registration) (host : Host) : Unit × Host :=
  host.visit registration.place.target fun route => ((), route.identify (some registration.id))

theorem submit_eq (registration : Registration) (tree : Tree) :
    registration.submit tree =
      (tree.learnDomain registration.place.domain).visitHost registration.place.domain
        registration.place.host registration.effect := by
  cases registration with
  | path domain host text id => rfl
  | port domain number id =>
    have domainItself : Text.lowerAscii "" = "" := by simp [Text.lowerAscii]
    rw [submit, Tree.registerPort, Tree.register, domainItself]
    rfl

theorem visit_submit (registration : Registration) (tree : Tree) :
    (tree.learnDomain registration.place.domain).Visit registration.place.domain
      registration.place.host registration.effect (registration.submit tree) :=
  submit_eq registration tree ▸ Tree.visit_visitHost _ _ _ _

section
variable {registration : Registration} {tree after : Tree}

theorem visit_of_accepted? (done : registration.accepted? tree = some after) :
    (tree.learnDomain registration.place.domain).Visit registration.place.domain
      registration.place.host registration.effect (.ok (), after) := by
  have visit := registration.visit_submit tree
  unfold accepted? at done
  split at done
  · next submitted =>
    cases done
    rw [submitted] at visit
    exact visit
  · cases done

theorem route?_of_accepted? (done : registration.accepted? tree = some after) :
    after.route? = Function.update tree.route? registration.place
      (some (((tree.route? registration.place).getD {}).identify (some registration.id))) := by
  rcases (visit_of_accepted? done).routes rfl with ⟨error, refused, -⟩ | ⟨_, _, -, same, routes⟩
  · cases refused
  · cases same
    rw [Tree.route?_learnDomain] at routes
    exact routes

end

end Registration

namespace Tree

def place (tree : Tree) (location : Location) : Place :=
  ⟨location.domain, location.host,
    (tree.hostAt location.domain location.host).target location.path location.port⟩

def id? (tree : Tree) (place : Place) : Option String := (tree.route? place).bind (·.id)

theorem id_getD (tree : Tree) (place : Place) :
    ((tree.route? place).getD {}).id = tree.id? place := by
  unfold id?
  cases tree.route? place <;> rfl

def countOn (tree : Tree) (event : HttpEvent) (appId : String) (now : Instant) (route : Route) :
    Nat × Route :=
  route.visitApp appId fun traffic =>
    traffic.record event.method tree.limits.keys (.ofEvent event) now

def countAt (tree : Tree) (event : HttpEvent) (appId : String) (now : Instant)
    (location : Location) (host : Host) : Nat × Host :=
  host.visit (host.target location.path location.port) (tree.countOn event appId now)

theorem visit_cases {α : Type} {tree after : Tree} {uri appId : String}
    {change : AppTraffic → α × AppTraffic} {outcome : Except Error α}
    (visited : tree.visit uri appId change = (outcome, after)) :
    (∃ error, tree.locate uri = .error error ∧ outcome = .error error ∧ after = tree) ∨
    ∃ location, tree.locate uri = .ok location ∧
      tree.Visit location.domain location.host (fun host =>
        host.visit (host.target location.path location.port) (·.visitApp appId change))
        (outcome, after) := by
  unfold visit at visited
  cases located : tree.locate uri with
  | error error =>
    rw [located] at visited
    cases visited
    exact .inl ⟨error, rfl, rfl, rfl⟩
  | ok location =>
    rw [located] at visited
    exact .inr ⟨location, rfl, visited ▸ visit_visitHost tree _ _ _⟩

section
variable {tree after : Tree} {event : HttpEvent} {appId : String} {now : Instant}
  {outcome : Except Error Nat}

theorem track_cases (tracked : tree.track event appId now = (outcome, after)) :
    (∃ error, tree.locate event.uri = .error error ∧ outcome = .error error ∧ after = tree) ∨
    ∃ location, tree.locate event.uri = .ok location ∧
      tree.Visit location.domain location.host (tree.countAt event appId now location)
        (outcome, after) :=
  visit_cases tracked

theorem Visit.counts {location : Location} (visit : tree.Visit location.domain location.host
      (tree.countAt event appId now location) (outcome, after)) :
    (∃ error, outcome = .error error ∧ error.isLimit = true ∧ after.route? = tree.route?) ∨
    ∃ refused route, outcome = .ok refused ∧
      tree.countOn event appId now ((tree.route? (tree.place location)).getD {}) =
        (refused, route) ∧
      after.route? = Function.update tree.route? (tree.place location) (some route) :=
  visit.routes rfl

theorem track_keeps (tracked : tree.track event appId now = (outcome, after)) :
    after.knownDomains = tree.knownDomains ∧ after.id? = tree.id? ∧
    ∀ place : Place, place.target ≠ .path "" →
      (after.route? place).isSome = (tree.route? place).isSome := by
  rcases track_cases tracked with ⟨error, -, -, rfl⟩ | ⟨location, -, visit⟩
  · exact ⟨rfl, rfl, fun _ _ => rfl⟩
  rcases visit.counts with ⟨error, -, -, same⟩ | ⟨refused, route, -, counted, routes⟩
  · refine ⟨visit.frame.1, ?_, fun _ _ => by rw [same]⟩
    funext place
    rw [id?, id?, same]
  · -- Counting changes the traffic of a route and not its identity.
    have identity : route.id = tree.id? (tree.place location) := by
      rw [← id_getD]
      exact (congrArg (·.2.id) counted).symm
    refine ⟨visit.frame.1, ?_, ?_⟩
    · funext place
      rw [id?, routes, Function.update_apply]
      split
      · next here => rw [here, Option.bind_some, identity]
      · rfl
    · intro place inner
      rw [routes, Function.update_apply]
      split
      · next here =>
        rw [here] at inner ⊢
        rw [tree.route?_eq]
        exact (Host.routed_target _ _ _ inner).symm
      · rfl

end

def Routed (tree : Tree) (registrations : List Registration) : Prop :=
  ∀ place, place.target ≠ .path "" → ((tree.route? place).isSome ↔
    ∃ registration ∈ registrations, registration.place = place)

theorem routed_create (limits : Limits) : (create limits).Routed [] := by
  intro place _
  simp [create, route?, host?]

section
variable {tree after : Tree} {registrations : List Registration}

theorem Routed.register (routed : tree.Routed registrations) {registration : Registration}
    (done : registration.accepted? tree = some after) :
    after.Routed (registrations ++ [registration]) := by
  intro place inner
  rw [Registration.route?_of_accepted? done, Function.update_apply]
  split
  · next here => simp [here]
  · next elsewhere => simp [routed place inner, or_and_right, exists_or, Ne.symm elsewhere]

theorem Routed.track (routed : tree.Routed registrations) {event : HttpEvent} {appId : String}
    {now : Instant} {outcome : Except Error Nat}
    (tracked : tree.track event appId now = (outcome, after)) : after.Routed registrations := by
  intro place inner
  rw [(track_keeps tracked).2.2 place inner]
  exact routed place inner

end

/-- All that registrations have left in a tree, whatever requests came between them. -/
structure Knows (tree : Tree) (registrations : List Registration) : Prop where
  sorted : LongestFirst tree.knownDomains
  domains : ∀ domain, domain ∈ tree.knownDomains ↔
    ∃ registration ∈ registrations, registration.place.domain = domain
  routes : tree.Routed registrations
  identified : ∀ registration ∈ registrations, (tree.id? registration.place).isSome
  ids : ∀ place id, tree.id? place = some id →
    ∃ registration ∈ registrations, registration.place = place ∧ registration.id = id

theorem knows_create (limits : Limits) : (create limits).Knows [] where
  sorted := .nil
  domains := by simp [create]
  routes := routed_create limits
  identified := nofun
  ids := nofun

section
variable {tree after : Tree} {registrations : List Registration}

theorem Knows.register (knows : tree.Knows registrations) {registration : Registration}
    (done : registration.accepted? tree = some after) :
    after.Knows (registrations ++ [registration]) := by
  have known := (Registration.visit_of_accepted? done).frame.1
  have routes := Registration.route?_of_accepted? done
  -- The first identity stays: a registration gives its place one only where there was none.
  have ids : ∀ place, after.id? place =
      if place = registration.place then (tree.id? place).or (some registration.id)
      else tree.id? place := by
    intro place
    rw [id?, routes, Function.update_apply]
    split
    · next here => rw [here, Option.bind_some, Route.identify, id_getD]
    · rfl
  constructor
  case sorted =>
    rw [known]
    exact sorted_learnDomain knows.sorted _
  case domains =>
    intro domain
    rw [known, mem_learnDomain, knows.domains]
    simp [or_and_right, exists_or, eq_comm]
  case routes => exact knows.routes.register done
  case identified =>
    intro other member
    rw [ids]
    split
    · simp
    · next elsewhere =>
      rcases List.mem_append.mp member with earlier | last
      · exact knows.identified other earlier
      · exact absurd (congrArg _ (List.mem_singleton.mp last)) elsewhere
  case ids =>
    intro place id found
    rw [ids] at found
    split at found
    · next here =>
      cases earlier : tree.id? place with
      | none =>
        rw [earlier, Option.none_or, Option.some.injEq] at found
        exact ⟨registration, by simp, here.symm, found⟩
      | some other =>
        rw [earlier, Option.some_or] at found
        obtain ⟨first, member, same⟩ := knows.ids place id (earlier.trans found)
        exact ⟨first, List.mem_append_left _ member, same⟩
    · obtain ⟨first, member, same⟩ := knows.ids place id found
      exact ⟨first, List.mem_append_left _ member, same⟩

theorem Knows.track (knows : tree.Knows registrations) {event : HttpEvent} {appId : String}
    {now : Instant} {outcome : Except Error Nat}
    (tracked : tree.track event appId now = (outcome, after)) : after.Knows registrations := by
  obtain ⟨known, ids, -⟩ := track_keeps tracked
  constructor
  case sorted =>
    rw [known]
    exact knows.sorted
  case domains =>
    rw [known]
    exact knows.domains
  case routes => exact knows.routes.track tracked
  case identified =>
    rw [ids]
    exact knows.identified
  case ids =>
    rw [ids]
    exact knows.ids

end

end Tree

end Route

end Telemetry
