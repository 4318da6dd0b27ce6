import Telemetry.Proofs.Route.Count
import Telemetry.Proofs.Route.Registration

/-!
Where requests are counted depends on the registrations alone.

Two trees that saw the same registrations, in any order and with any requests between them,
know the same domains, the same routes but for roots, and the same identities. A request that
neither tree refuses is then located, matched and counted alike in both.
-/

set_option autoImplicit false

namespace Telemetry.Route.Tree

inductive Act where
  | register (registration : Registration)
  | track (event : HttpEvent) (appId : String) (now : Instant)

def Act.registration? : Act → Option Registration
  | register registration => some registration
  | track _ _ _ => none

def registrations (acts : List Act) : List Registration := acts.filterMap (·.registration?)

/-- Requests may be refused, registrations may not. -/
def act? (tree : Tree) : Act → Option Tree
  | .register registration => registration.accepted? tree
  | .track event appId now => some (tree.track event appId now).2

def run? (tree : Tree) (acts : List Act) : Option Tree := acts.foldlM act? tree

def requestsAt (tree : Tree) (place : Place) : Nat := ((tree.route? place).getD {}).requests

def Counts (before after : Tree) (place : Place) : Prop :=
  ∀ other, after.requestsAt other = before.requestsAt other + if other = place then 1 else 0

section
variable {tree after : Tree} {known : List Registration}

theorem Knows.act? (knows : tree.Knows known) {act : Act} (taken : tree.act? act = some after) :
    after.Knows (known ++ registrations [act]) := by
  cases act with
  | register registration => exact knows.register taken
  | track event appId now =>
    have none : registrations [.track event appId now] = [] := rfl
    rw [none, List.append_nil, ← Option.some.inj taken]
    exact knows.track (Prod.eta (tree.track event appId now)).symm

theorem Knows.run? (knows : tree.Knows known) {acts : List Act}
    (reached : tree.run? acts = some after) : after.Knows (known ++ registrations acts) := by
  induction acts generalizing tree known with
  | nil =>
    cases reached
    simpa [registrations] using knows
  | cons act rest ih =>
    rw [Tree.run?, List.foldlM_cons] at reached
    obtain ⟨next, taken, later⟩ := Option.bind_eq_some_iff.mp reached
    have first := ih (knows.act? taken) later
    rwa [List.append_assoc, registrations, registrations, ← List.filterMap_append] at first

end

/-- What two trees agree on that know the same registrations. -/
structure Agree (tree other : Tree) : Prop where
  locations : tree.locate = other.locate
  places : tree.place = other.place
  ids : tree.id? = other.id?

theorem Knows.agree {tree other : Tree} {known known' : List Registration}
    (knows : tree.Knows known) (knows' : other.Knows known')
    (same : ∀ registration, registration ∈ known ↔ registration ∈ known')
    (consistent : ∀ first ∈ known, ∀ second ∈ known, first.place = second.place →
      first.id = second.id) : Agree tree other where
  locations := by
    funext uri
    refine locate_congr knows.sorted knows'.sorted (fun domain => ?_) uri
    simp only [knows.domains, knows'.domains, same]
  places := by
    funext location
    have targets : ∀ target, target ≠ .path "" →
        (((tree.hostAt location.domain location.host).route? target).isSome ↔
          ((other.hostAt location.domain location.host).route? target).isSome) := by
      intro target inner
      have routed := knows.routes ⟨location.domain, location.host, target⟩ inner
      have routed' := knows'.routes ⟨location.domain, location.host, target⟩ inner
      rw [route?_eq] at routed routed'
      simp only [routed, routed', same]
    rw [place, place, Host.target_congr targets]
  ids := by
    funext place
    cases found : tree.id? place with
    | none =>
      -- Without an identity here the place was never registered.
      cases found' : other.id? place with
      | none => rfl
      | some id =>
        obtain ⟨registration, member, rfl, -⟩ := knows'.ids place id found'
        have identified := knows.identified registration ((same _).mpr member)
        rw [found] at identified
        cases identified
    | some id =>
      obtain ⟨first, member, rfl, rfl⟩ := knows.ids place id found
      obtain ⟨id', found'⟩ := Option.isSome_iff_exists.mp
        (knows'.identified first ((same _).mp member))
      obtain ⟨second, member', here, rfl⟩ := knows'.ids first.place id' found'
      rw [found', consistent first member second ((same _).mpr member') here.symm]

theorem requests_countOn (tree : Tree) (event : HttpEvent) (appId : String) (now : Instant)
    (route : Route) :
    (tree.countOn event appId now route).2.requests = route.requests + 1 :=
  Route.raises_visitApp
    (AppTraffic.raises_record (MethodTraffic.raises_requests (.ofEvent event) now) rfl _) appId
    route

section
variable {tree after : Tree} {event : HttpEvent} {appId : String} {now : Instant}
  {outcome : Except Error Nat}

theorem counts_of_tracked (tracked : tree.track event appId now = (outcome, after))
    (room : ∀ error, outcome = .error error → error.isLimit = false) {location : Location}
    (located : tree.locate event.uri = .ok location) :
    tree.Counts after (tree.place location) ∧ ∃ route,
      after.route? (tree.place location) = some route ∧
      route.id = tree.id? (tree.place location) := by
  rcases track_cases tracked with ⟨error, unread, -⟩ | ⟨here, read, visit⟩
  · rw [located] at unread
    cases unread
  obtain rfl : location = here := Except.ok.inj (located.symm.trans read)
  rcases visit.counts with ⟨error, refused, limit, -⟩ | ⟨refused, route, -, counted, routes⟩
  · rw [room error refused] at limit
    cases limit
  · have one := tree.requests_countOn event appId now
      ((tree.route? (tree.place location)).getD {})
    have found : after.route? (tree.place location) = some route := by
      rw [routes, Function.update_self]
    have identity := congrFun (track_keeps tracked).2.1 (tree.place location)
    rw [id?, found, Option.bind_some] at identity
    refine ⟨?_, route, found, identity⟩
    intro other
    -- Only the route of the place was changed, by one request.
    rw [requestsAt, requestsAt, routes, Function.update_apply]
    split
    · next same =>
      rw [same, ← one, counted]
      rfl
    · rfl

theorem unread_of_tracked (tracked : tree.track event appId now = (outcome, after))
    {error : Error} (unread : tree.locate event.uri = .error error) :
    outcome = .error error ∧ after = tree := by
  rcases track_cases tracked with ⟨reason, unread', failed, kept⟩ | ⟨location, read, -⟩
  · rw [unread] at unread'
    cases unread'
    exact ⟨failed, kept⟩
  · rw [unread] at read
    cases read

end

/-- Two runs with the same registrations, each in its own order and among its own requests,
leave trees that count any further request at the same place, on a route with the same
identity, if neither refuses it for want of room. -/
theorem attribution_of_registrations {limits limits' : Limits} {acts acts' : List Act}
    {tree tree' after after' : Tree} {outcome outcome' : Except Error Nat} {event : HttpEvent}
    {appId : String} {now : Instant}
    (reached : (create limits).run? acts = some tree)
    (reached' : (create limits').run? acts' = some tree')
    (same : ∀ registration, registration ∈ registrations acts ↔ registration ∈ registrations acts')
    (consistent : ∀ first ∈ registrations acts, ∀ second ∈ registrations acts,
      first.place = second.place → first.id = second.id)
    (tracked : tree.track event appId now = (outcome, after))
    (tracked' : tree'.track event appId now = (outcome', after'))
    (room : ∀ error, outcome = .error error → error.isLimit = false)
    (room' : ∀ error, outcome' = .error error → error.isLimit = false) :
    (∃ error, outcome = .error error ∧ outcome' = .error error ∧ after = tree ∧ after' = tree') ∨
    ∃ place route route', tree.Counts after place ∧ tree'.Counts after' place ∧
      after.route? place = some route ∧ after'.route? place = some route' ∧
      route.id = route'.id := by
  -- Requests leave no trace in what the two trees agree on.
  have agree : Agree tree tree' :=
    ((knows_create limits).run? reached).agree ((knows_create limits').run? reached')
      (by simpa using same) (by simpa using consistent)
  cases located : tree.locate event.uri with
  | error error =>
    have located' := located
    rw [agree.locations] at located'
    obtain ⟨failed, kept⟩ := unread_of_tracked tracked located
    obtain ⟨failed', kept'⟩ := unread_of_tracked tracked' located'
    exact .inl ⟨error, failed, failed', kept, kept'⟩
  | ok location =>
    have located' := located
    rw [agree.locations] at located'
    obtain ⟨counts, route, found, identity⟩ := counts_of_tracked tracked room located
    obtain ⟨counts', route', found', identity'⟩ := counts_of_tracked tracked' room' located'
    rw [← agree.places, ← agree.ids] at identity'
    rw [← agree.places] at counts' found'
    exact .inr ⟨tree.place location, route, route', counts, counts', found, found',
      identity.trans identity'.symm⟩

/-- A request that made a root of its own before there were registrations, and the same request
once there are: it goes to the path that was registered last, as where there was no such root. -/
theorem attribution_of_registrations_late :
    let path : Registration := .path "eu" "w" "/a/" "r"
    let root : Registration := .path "eu" "w" "" "s"
    let request : HttpEvent := { uri := "w.eu/a/b" }
    let acts : List Act := [.register path, .register root]
    let acts' : List Act := [.track request "app" 1, .register root, .register path]
    ∃ tree tree', (create {}).run? acts = some tree ∧ (create {}).run? acts' = some tree' ∧
      ∃ place route route', tree.Counts (tree.track request "app" 2).2 place ∧
        tree'.Counts (tree'.track request "app" 2).2 place ∧
        (tree.track request "app" 2).2.route? place = some route ∧
        (tree'.track request "app" 2).2.route? place = some route' ∧ route.id = route'.id := by
  intro path root request acts acts'
  have fits : ((create {}).run? acts).map
      (fun tree => (tree.track request "app" 2).1.toOption.isSome) = some true := by
    decide +kernel
  have fits' : ((create {}).run? acts').map
      (fun tree => (tree.track request "app" 2).1.toOption.isSome) = some true := by
    decide +kernel
  obtain ⟨tree, reached, counted⟩ := Option.map_eq_some_iff.mp fits
  obtain ⟨tree', reached', counted'⟩ := Option.map_eq_some_iff.mp fits'
  have room : ∀ {outcome : Except Error Nat}, outcome.toOption.isSome = true →
      ∀ error, outcome = .error error → error.isLimit = false := by
    rintro _ counted error rfl
    cases counted
  have same : ∀ registration,
      registration ∈ registrations acts ↔ registration ∈ registrations acts' := by
    intro registration
    exact List.Perm.mem_iff (.swap root path [])
  have apart : path.place ≠ root.place := by decide +kernel
  have consistent : ∀ first ∈ [path, root], ∀ second ∈ [path, root],
      first.place = second.place → first.id = second.id := by
    simp [apart, apart.symm]
  have tracked := (Prod.eta (tree.track request "app" 2)).symm
  have tracked' := (Prod.eta (tree'.track request "app" 2)).symm
  rcases attribution_of_registrations reached reached' same consistent tracked tracked'
    (room counted) (room counted') with ⟨error, failed, -⟩ | ⟨place, route, route', attributed⟩
  · rw [failed] at counted
    cases counted
  · exact ⟨tree, tree', reached, reached', place, route, route', attributed⟩

end Telemetry.Route.Tree
