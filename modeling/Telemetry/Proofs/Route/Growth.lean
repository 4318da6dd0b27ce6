import Telemetry.Proofs.Route.Run

/-!
A tree keeps to its limits and never lets go of what it has.

Main statement: whatever registrations and requests come, no table of a tree holds more keys
than its limit allows, the routes are the registered ones and roots, and nothing that was once
admitted goes away or loses a count.
-/

set_option autoImplicit false

namespace Telemetry

namespace Route

theorem countKeys_induction {property : CappedTable String Nat → Prop}
    (step : ∀ table key, property table → property (table.update key 0 (· + 1)).2)
    (keys : List String) : Keeps property (countKeys · keys) := by
  intro table holds
  show property (countKeys table keys).2
  rw [countKeys_eq]
  -- By induction on the keys, for any number of keys refused before them.
  suffices ∀ counted : Nat × CappedTable String Nat, property counted.2 →
      property ((keys.filter (· ≠ "")).foldl countKey counted).2 from this (0, table) holds
  induction keys.filter (· ≠ "") with
  | nil => exact fun _ holds => holds
  | cons key rest ih => exact fun counted holds => ih _ (step counted.2 key holds)

/-! ### Within the limits -/

def MethodTraffic.Fits (limits : KeyLimits) (traffic : MethodTraffic) : Prop :=
  traffic.userAgents.Fits limits.userAgents ∧ traffic.forwarders.Fits limits.forwarders

def AppTraffic.Fits (limits : KeyLimits) (traffic : AppTraffic) : Prop :=
  traffic.methods.Each (MethodTraffic.Fits limits)

end Route

def Route.Fits (limits : Route.KeyLimits) (route : Route) : Prop :=
  route.apps.Each (Route.AppTraffic.Fits limits)

def Host.Fits (limits : Route.KeyLimits) (host : Host) : Prop :=
  host.routes.Each (Route.Fits limits) ∧ host.tcpRoutes.Each (Route.Fits limits)

namespace Route

structure Domain.Fits (limits : Limits) (domain : Domain) : Prop where
  hosts : domain.hosts.Fits limits.hostsPerDomain
  each : domain.hosts.table.Each (Host.Fits limits.keys)

structure Tree.Fits (limits : Limits) (tree : Tree) : Prop where
  settings : tree.limits = limits
  domains : tree.domains.Fits limits.domains
  each : tree.domains.table.Each (Domain.Fits limits)

theorem MethodTraffic.keeps_record (limits : KeyLimits) (request : Request) (now : Instant) :
    Keeps (Fits limits) (·.record request now) :=
  fun _ fits =>
    ⟨countKeys_induction (fun _ key fits => fits.update key 0 _) _ _ fits.1,
      countKeys_induction (fun _ key fits => fits.update key 0 _) _ _ fits.2⟩

theorem AppTraffic.keeps_record (limits : KeyLimits) (method : Method) (request : Request)
    (now : Instant) : Keeps (Fits limits) (·.record method limits request now) :=
  fun _ fits => (MethodTraffic.keeps_record limits request now).visit _
    ⟨CappedTable.fits_create _, CappedTable.fits_create _⟩ method _ fits

theorem keeps_visitApp {α : Type} {limits : KeyLimits} {change : AppTraffic → α × AppTraffic}
    (keeps : Keeps (AppTraffic.Fits limits) change) (appId : String) :
    Keeps (Route.Fits limits) (·.visitApp appId change) :=
  fun _ fits => keeps.visit { appId } Table.each_empty appId _ fits

end Route

theorem Host.keeps_visit {α : Type} {limits : Route.KeyLimits} {change : Route → α × Route}
    (keeps : Keeps (Route.Fits limits) change) (target : Route.Target) :
    Keeps (Fits limits) (·.visit target change) := by
  intro host fits
  have visited := fun {κ : Type} [DecidableEq κ] (key : κ) =>
    keeps.visit {} Table.each_empty key
  cases target with
  | path text => exact ⟨visited text _ fits.1, fits.2⟩
  | port number => exact ⟨fits.1, visited number _ fits.2⟩

namespace Route.Tree

theorem fits_create (limits : Limits) : (create limits).Fits limits where
  settings := rfl
  domains := CappedTable.fits_create _
  each := Table.each_empty

section
variable {α : Type} {limits : Limits} {tree after : Tree} {domain host : String}
  {change : Host → α × Host} {outcome : Except Error α}

theorem Fits.domainAt (fits : tree.Fits limits) (domain : String) :
    (tree.domainAt domain).Fits limits := by
  refine fits.each.getD ⟨?_, Table.each_empty⟩ domain
  rw [fits.settings]
  exact CappedTable.fits_create _

theorem Fits.hostAt (fits : tree.Fits limits) (domain host : String) :
    (tree.hostAt domain host).Fits limits.keys := by
  rw [Tree.hostAt, ← get?_domainAt]
  exact (fits.domainAt domain).each.getD ⟨Table.each_empty, Table.each_empty⟩ host

theorem Fits.setDomain (fits : tree.Fits limits) (room : tree.domains.admits domain = true)
    {entry : Domain} (fit : entry.Fits limits) : (tree.setDomain domain entry).Fits limits where
  settings := fits.settings
  domains := fits.domains.alter room _
  each := fits.each.insert fit domain

theorem Visit.fits (visit : Visit tree domain host change (outcome, after))
    (keeps : Keeps (Host.Fits limits.keys) change) (fits : tree.Fits limits) :
    after.Fits limits := by
  have before := fits.domainAt domain
  cases visit with
  | domainRefused full => exact ⟨fits.settings, fits.domains.refuse, fits.each⟩
  | @hostRefused entry room same full =>
    subst same
    exact fits.setDomain room ⟨before.hosts.refuse, before.each⟩
  | @changed entry result value room same space changed =>
    subst same
    have fit : value.Fits limits.keys := by
      have kept := keeps _ (fits.hostAt domain host)
      rwa [← changed] at kept
    rw [CappedTable.insert_of_admits space]
    exact fits.setDomain room ⟨before.hosts.alter space _, before.each.insert fit host⟩

end

theorem keeps_effect (limits : KeyLimits) (registration : Registration) :
    Keeps (Host.Fits limits) registration.effect :=
  Host.keeps_visit (fun _ fits => fits) _

theorem fits_learnDomain {limits : Limits} {tree : Tree} (fits : tree.Fits limits)
    (domain : String) : (tree.learnDomain domain).Fits limits where
  settings := (tree.limits_learnDomain domain).trans fits.settings
  domains := tree.domains_learnDomain domain ▸ fits.domains
  each := tree.domains_learnDomain domain ▸ fits.each

theorem Fits.perform {limits : Limits} {tree : Tree} (fits : tree.Fits limits) (act : Act) :
    (tree.perform act).2.Fits limits := by
  cases act with
  | register registration =>
    exact (registration.visit_submit tree).fits (keeps_effect _ registration)
      (fits_learnDomain fits _)
  | track event appId now =>
    have tracked := (Prod.eta (tree.track event appId now)).symm
    show (tree.track event appId now).2.Fits limits
    rcases track_cases tracked with ⟨error, -, -, same⟩ | ⟨location, -, visit⟩
    · rw [same]
      exact fits
    · have counted : Keeps (Route.Fits limits.keys) (tree.countOn event appId now) := by
        unfold countOn
        rw [fits.settings]
        exact keeps_visitApp (AppTraffic.keeps_record _ event.method _ now) appId
      exact visit.fits (fun host => Host.keeps_visit counted _ host) fits

theorem Fits.performAll {limits : Limits} {tree : Tree} (fits : tree.Fits limits)
    (acts : List Act) : (tree.performAll acts).Fits limits := by
  induction acts generalizing tree with
  | nil => exact fits
  | cons act rest ih => exact ih (fits.perform act)

end Route.Tree

/-! ### Nothing is lost -/

namespace Route

/-- Traffic that has only been added to. -/
structure MethodTraffic.Grows (traffic later : MethodTraffic) : Prop where
  requests : traffic.requests ≤ later.requests
  statuses : traffic.statuses.Extends (· ≤ ·) later.statuses
  otherStatuses : traffic.otherStatuses ≤ later.otherStatuses
  userAgents : traffic.userAgents.table.Extends (· ≤ ·) later.userAgents.table
  forwarders : traffic.forwarders.table.Extends (· ≤ ·) later.forwarders.table

structure AppTraffic.Grows (traffic later : AppTraffic) : Prop where
  requests : traffic.requests ≤ later.requests
  methods : traffic.methods.Extends MethodTraffic.Grows later.methods

end Route

structure Route.Grows (route later : Route) : Prop where
  requests : route.requests ≤ later.requests
  id : ∀ id, route.id = some id → later.id = some id
  apps : route.apps.Extends Route.AppTraffic.Grows later.apps

structure Host.Grows (host later : Host) : Prop where
  requests : host.requests ≤ later.requests
  routes : host.routes.Extends Route.Grows later.routes
  tcpRoutes : host.tcpRoutes.Extends Route.Grows later.tcpRoutes

namespace Route

def Domain.requests (domain : Domain) : Nat := (domain.hosts.values.map (·.requests)).sum

structure Domain.Grows (domain later : Domain) : Prop where
  requests : domain.requests ≤ later.requests
  hosts : domain.hosts.table.Extends Host.Grows later.hosts.table

/-- A tree of which nothing is lost, on any level. -/
def Tree.Grows (tree later : Tree) : Prop :=
  tree.domains.table.Extends Domain.Grows later.domains.table

namespace MethodTraffic.Grows

theorem refl (traffic : MethodTraffic) : traffic.Grows traffic where
  requests := Nat.le_refl _
  statuses := .refl Nat.le_refl _
  otherStatuses := Nat.le_refl _
  userAgents := .refl Nat.le_refl _
  forwarders := .refl Nat.le_refl _

theorem trans {a b c : MethodTraffic} (first : a.Grows b) (second : b.Grows c) : a.Grows c where
  requests := Nat.le_trans first.requests second.requests
  statuses := first.statuses.trans Nat.le_trans second.statuses
  otherStatuses := Nat.le_trans first.otherStatuses second.otherStatuses
  userAgents := first.userAgents.trans Nat.le_trans second.userAgents
  forwarders := first.forwarders.trans Nat.le_trans second.forwarders

end MethodTraffic.Grows

theorem AppTraffic.Grows.of_methods {traffic later : AppTraffic}
    (methods : traffic.methods.Extends MethodTraffic.Grows later.methods) :
    traffic.Grows later :=
  ⟨methods.total_le (·.requests), methods⟩

theorem AppTraffic.Grows.refl (traffic : AppTraffic) : traffic.Grows traffic :=
  .of_methods (.refl .refl _)

theorem AppTraffic.Grows.trans {a b c : AppTraffic} (first : a.Grows b) (second : b.Grows c) :
    a.Grows c :=
  .of_methods (first.methods.trans .trans second.methods)

theorem Grows.of_apps {route later : Route} (id : ∀ id, route.id = some id → later.id = some id)
    (apps : route.apps.Extends AppTraffic.Grows later.apps) : route.Grows later :=
  ⟨apps.total_le (·.requests), id, apps⟩

theorem Grows.refl (route : Route) : route.Grows route :=
  .of_apps (fun _ has => has) (.refl .refl _)

theorem Grows.trans {a b c : Route} (first : a.Grows b) (second : b.Grows c) : a.Grows c :=
  .of_apps (fun id has => second.id id (first.id id has)) (first.apps.trans .trans second.apps)

end Route

namespace Host

theorem Grows.of_routes {host later : Host} (routes : host.routes.Extends Route.Grows later.routes)
    (tcpRoutes : host.tcpRoutes.Extends Route.Grows later.tcpRoutes) : host.Grows later :=
  ⟨Nat.add_le_add (routes.total_le (·.requests)) (tcpRoutes.total_le (·.requests)), routes,
    tcpRoutes⟩

theorem Grows.refl (host : Host) : host.Grows host :=
  .of_routes (.refl .refl _) (.refl .refl _)

theorem Grows.trans {a b c : Host} (first : a.Grows b) (second : b.Grows c) : a.Grows c :=
  .of_routes (first.routes.trans .trans second.routes)
    (first.tcpRoutes.trans .trans second.tcpRoutes)

theorem moves_visit {α : Type} {change : Route → α × Route} (moves : Moves Route.Grows change)
    (target : Route.Target) : Moves Grows (·.visit target change) := by
  intro host
  cases target with
  | path text => exact .of_routes (moves.visit .refl {} text _) (.refl .refl _)
  | port number => exact .of_routes (.refl .refl _) (moves.visit .refl {} number _)

end Host

namespace Route

theorem moves_countKeys (keys : List String) :
    Moves (fun table later => table.table.Extends (· ≤ ·) later.table) (countKeys · keys) := by
  intro table
  have extends_update : ∀ (counted : CappedTable String Nat) (key : String),
      table.table.Extends (· ≤ ·) counted.table →
      table.table.Extends (· ≤ ·) (counted.update key 0 (· + 1)).2.table := by
    intro counted key extended
    -- A refused key leaves the table as it is, an admitted one is counted once more.
    unfold CappedTable.update
    split
    · exact extended.trans Nat.le_trans (Table.extends_count _ _)
    · exact extended
  exact countKeys_induction extends_update keys table (.refl Nat.le_refl _)

theorem MethodTraffic.moves_record (request : Request) (now : Instant) :
    Moves Grows (·.record request now) := by
  intro traffic
  constructor
  case requests => exact Nat.le_succ _
  case statuses =>
    simp only [record]
    split
    · exact Table.extends_count _ _
    · exact .refl Nat.le_refl _
  case otherStatuses =>
    simp only [record]
    split <;> omega
  case userAgents => exact moves_countKeys _ _
  case forwarders => exact moves_countKeys _ _

theorem AppTraffic.moves_record (method : Method) (limits : KeyLimits) (request : Request)
    (now : Instant) : Moves Grows (·.record method limits request now) :=
  fun _ => .of_methods ((MethodTraffic.moves_record request now).visit .refl _ method _)

theorem moves_visitApp {α : Type} {change : AppTraffic → α × AppTraffic}
    (moves : Moves AppTraffic.Grows change) (appId : String) :
    Moves Grows (·.visitApp appId change) :=
  fun _ => .of_apps (fun _ has => has) (moves.visit .refl _ appId _)

theorem grows_identify (route : Route) (id : String) : route.Grows (route.identify (some id)) := by
  refine .of_apps ?_ (.refl .refl _)
  intro first has
  rw [identify, has]
  rfl

theorem Domain.Grows.of_hosts {domain later : Domain}
    (hosts : domain.hosts.table.Extends Host.Grows later.hosts.table) : domain.Grows later :=
  ⟨hosts.total_le (·.requests), hosts⟩

theorem Domain.Grows.refl (domain : Domain) : domain.Grows domain :=
  .of_hosts (.refl .refl _)

theorem Domain.Grows.trans {a b c : Domain} (first : a.Grows b) (second : b.Grows c) :
    a.Grows c :=
  .of_hosts (first.hosts.trans .trans second.hosts)

namespace Tree

theorem Grows.refl (tree : Tree) : tree.Grows tree := Table.Extends.refl Domain.Grows.refl _

theorem Grows.trans {a b c : Tree} (first : a.Grows b) (second : b.Grows c) : a.Grows c :=
  Table.Extends.trans Domain.Grows.trans first second

section
variable {α : Type} {tree after : Tree} {domain host : String} {change : Host → α × Host}
  {outcome : Except Error α}

theorem grows_setDomain {entry : Domain} (grows : (tree.domainAt domain).Grows entry) :
    tree.Grows (tree.setDomain domain entry) := by
  refine Table.extends_insert Domain.Grows.refl ?_
  intro old found
  rwa [domainAt_eq found] at grows

theorem Visit.grows (visit : Visit tree domain host change (outcome, after))
    (moves : Moves Host.Grows change) : tree.Grows after := by
  cases visit with
  | domainRefused full => exact .refl tree
  | @hostRefused entry room same full =>
    subst same
    exact grows_setDomain (.of_hosts (.refl .refl _))
  | @changed entry result value room same space changed =>
    subst same
    rw [CappedTable.insert_of_admits space]
    refine grows_setDomain (.of_hosts (Table.extends_insert .refl ?_))
    intro old found
    have here : tree.hostAt domain host = old :=
      hostAt_eq ((tree.get?_domainAt domain host).symm.trans found)
    have moved := moves (tree.hostAt domain host)
    rwa [here, ← here, ← changed, here] at moved

end

theorem grows_perform (tree : Tree) (act : Act) : tree.Grows (tree.perform act).2 := by
  cases act with
  | register registration =>
    have learnt : tree.Grows (tree.learnDomain registration.place.domain) := by
      rw [Tree.Grows, domains_learnDomain]
      exact Grows.refl tree
    refine learnt.trans ((registration.visit_submit tree).grows ?_)
    exact Host.moves_visit (fun route => route.grows_identify registration.id) _
  | track event appId now =>
    have tracked := (Prod.eta (tree.track event appId now)).symm
    show tree.Grows (tree.track event appId now).2
    rcases track_cases tracked with ⟨error, -, -, same⟩ | ⟨location, -, visit⟩
    · rw [same]
      exact .refl tree
    · refine visit.grows fun host => Host.moves_visit ?_ _ host
      exact moves_visitApp (AppTraffic.moves_record _ _ _ now) appId

theorem grows_performAll (tree : Tree) (acts : List Act) : tree.Grows (tree.performAll acts) := by
  induction acts generalizing tree with
  | nil => exact .refl tree
  | cons act rest ih => exact (tree.grows_perform act).trans (ih _)

/-- Whatever registrations and requests come, no table of the tree holds more than its limit
allows. The paths of a host are among those registered on it and the root, its ports are those
registered on it; and what is there stays there with all its counts, whatever comes next. -/
theorem held_within_limits (limits : Limits) (acts : List Act) :
    let tree := (create limits).performAll acts
    let registered := (create limits).accepted acts
    tree.domains.size ≤ limits.domains ∧
    (∀ name domain, tree.domains.get? name = some domain →
      domain.hosts.size ≤ limits.hostsPerDomain) ∧
    (∀ place route appId traffic method counts, tree.route? place = some route →
      route.apps.get? appId = some traffic → traffic.methods.get? method = some counts →
      counts.userAgents.size ≤ limits.userAgents ∧
        counts.forwarders.size ≤ limits.forwarders) ∧
    (∀ domain name host, tree.host? domain name = some host →
      (∀ text ∈ host.routes.keys, text = "" ∨
        ∃ registration ∈ registered, registration.place = ⟨domain, name, .path text⟩) ∧
      ∀ number, number ∈ host.tcpRoutes.keys ↔
        ∃ registration ∈ registered, registration.place = ⟨domain, name, .port number⟩) ∧
    ∀ more, tree.Grows (tree.performAll more) := by
  intro tree registered
  have fits : tree.Fits limits := (fits_create limits).performAll acts
  have routed : tree.Routed registered := (routed_create limits).performAll acts
  refine ⟨fits.domains.bound, fun name domain found => (fits.each name domain found).hosts.bound,
    ?_, ?_, tree.grows_performAll⟩
  · intro place route appId traffic method counts found app counted
    obtain ⟨host, there, routes⟩ := Option.bind_eq_some_iff.mp found
    have held : host.Fits limits.keys := hostAt_eq there ▸ fits.hostAt place.domain place.host
    have on_route : route.Fits limits.keys := by
      obtain ⟨paths, ports⟩ := held
      cases place with
      | mk domain name target =>
        cases target with
        | path text => exact paths text route routes
        | port number => exact ports number route routes
    obtain ⟨agents, forwarders⟩ := on_route appId traffic app method counts counted
    exact ⟨agents.bound, forwarders.bound⟩
  · intro domain name host found
    -- The tables of a host hold what the tree has a route for at it.
    have there : ∀ target, tree.route? ⟨domain, name, target⟩ = host.route? target := by
      intro target
      rw [route?, found, Option.bind_some]
    constructor
    · intro text key
      by_cases root : text = ""
      · exact .inl root
      · refine .inr ((routed ⟨domain, name, .path text⟩ ?_).mp ?_)
        · exact fun same => root (Target.path.inj same)
        · rw [there]
          exact (host.mem_routes_keys text).mp key
    · intro number
      have inner : Target.port number ≠ .path "" := by simp
      rw [← routed ⟨domain, name, .port number⟩ inner, there]
      exact host.tcpRoutes.mem_keys_iff number

/-- One domain with one host and no user agents, under requests that name others. -/
theorem held_within_limits_full :
    let limits : Limits := { domains := 1, hostsPerDomain := 1, userAgents := 0, forwarders := 1 }
    let request (uri : String) : Act :=
      .track { uri, userAgent := some "x", forwarded := ["f", "g"] } "app" 0
    let acts := [.register (.path "b" "a" "v" "r"), request "a.b/v/w", request "c.b", request "a.c"]
    let tree := (create limits).performAll acts
    tree.domains.size ≤ 1 ∧ ∃ host, tree.host? "b" "a" = some host ∧ host.requests = 1 ∧
      (∀ text ∈ host.routes.keys, text = "" ∨ ∃ registration ∈ (create limits).accepted acts,
        registration.place = ⟨"b", "a", .path text⟩) ∧
      tree.Grows (tree.performAll [request "a.b"]) := by
  intro limits request acts tree
  have counted : (tree.host? "b" "a").map (·.requests) = some 1 := by decide +kernel
  obtain ⟨host, found, one⟩ := Option.map_eq_some_iff.mp counted
  obtain ⟨domains, -, -, routes, grows⟩ := held_within_limits limits acts
  exact ⟨domains, host, found, one, (routes "b" "a" host found).1, grows _⟩

end Tree

end Route

end Telemetry
