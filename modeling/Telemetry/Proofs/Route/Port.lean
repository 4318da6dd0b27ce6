import Telemetry.Proofs.Route.Locator
import Telemetry.Proofs.Route.Registration

/-!
Requests to a registered port.

A port that was registered on a domain stays there until the tree is cleared, and names of the
domain are split at it. Main statement: requests that name domain and port are attributed to the
port unless it is the usual one of the web, which locators do not keep, or they have no scheme in
front but its mark somewhere behind.
-/

set_option autoImplicit false

namespace Telemetry.Route.Tree

/-- A tree and what becomes of it until it is cleared and like new: targets are registered, and
the traffic that requests are attributed to is looked up and changed. Requests that are resolved
or counted are such visits. -/
inductive Becomes (tree : Tree) : Tree → Prop where
  | refl : Becomes tree tree
  | register {later : Tree} (registration : Registration) : Becomes tree later →
      Becomes tree (registration.submit later).2
  | visit {later : Tree} {α : Type} (uri appId : String)
      (change : AppTraffic → α × AppTraffic) : Becomes tree later →
      Becomes tree (later.visit uri appId change).2

/-- Whatever is done to the traffic of a request is done on the route of one place, and to no
other route. -/
def Attributed (tree : Tree) (uri : String) (place : Place) : Prop :=
  ∀ (α : Type) (appId : String) (change : AppTraffic → α × AppTraffic),
    let changed := ((tree.route? place).getD {}).visitApp appId change
    (tree.visit uri appId change).1 = .ok changed.1 ∧
      (tree.visit uri appId change).2.route? =
        Function.update tree.route? place (some changed.2)

structure Serves (tree : Tree) (domain : String) (number : Nat) : Prop where
  sorted : LongestFirst tree.knownDomains
  known : domain ∈ tree.knownDomains
  routed : (tree.route? ⟨domain, "", .port number⟩).isSome

/-! ### A registered port stays -/

section
variable {α : Type} {tree after : Tree} {domain host : String} {change : Host → α × Host}
  {outcome : Except Error α}

theorem Visit.isSome_route? (visit : tree.Visit domain host change (outcome, after))
    {target : Target} {changeRoute : Route → α × Route}
    (here : change (tree.hostAt domain host) = (tree.hostAt domain host).visit target changeRoute)
    {place : Place} (routed : (tree.route? place).isSome) : (after.route? place).isSome := by
  rcases visit.routes here with ⟨error, -, -, same⟩ | ⟨result, route, -, -, routes⟩
  · rwa [same]
  · rw [routes, Function.update_apply]
    split
    · rfl
    · exact routed

theorem Visit.admitted (visit : tree.Visit domain host change (outcome, after))
    (held : (tree.host? domain host).isSome) : ∃ result, outcome = .ok result := by
  have within : (tree.domainAt domain).hosts.contains host = true := by
    show ((tree.domainAt domain).hosts.get? host).isSome = true
    rwa [get?_domainAt]
  cases visit with
  | domainRefused full =>
    have kept : tree.domains.contains domain = true := by
      obtain ⟨value, found⟩ := Option.isSome_iff_exists.mp held
      obtain ⟨entry, there, -⟩ := Option.bind_eq_some_iff.mp found
      exact Option.isSome_of_eq_some there
    rw [CappedTable.admits, kept, Bool.true_or] at full
    cases full
  | @hostRefused entry room same full =>
    rw [CappedTable.admits, same, within, Bool.true_or] at full
    cases full
  | changed => exact ⟨_, rfl⟩

end

theorem knownDomains_submit (tree : Tree) (registration : Registration) :
    (registration.submit tree).2.knownDomains =
      (tree.learnDomain registration.place.domain).knownDomains :=
  (registration.visit_submit tree).frame.1

theorem knownDomains_visit {α : Type} (tree : Tree) (uri appId : String)
    (change : AppTraffic → α × AppTraffic) :
    (tree.visit uri appId change).2.knownDomains = tree.knownDomains := by
  have visited := (Prod.eta (tree.visit uri appId change)).symm
  rcases visit_cases visited with ⟨error, -, -, same⟩ | ⟨location, -, visit⟩
  · rw [same]
  · exact visit.frame.1

section
variable {tree later : Tree} {domain : String} {number : Nat}

theorem Becomes.sorted (becomes : tree.Becomes later) (sorted : LongestFirst tree.knownDomains) :
    LongestFirst later.knownDomains := by
  induction becomes with
  | refl => exact sorted
  | register registration _ ih =>
    rw [knownDomains_submit]
    exact sorted_learnDomain ih _
  | visit uri appId change _ ih => rwa [knownDomains_visit]

theorem Becomes.known (becomes : tree.Becomes later) (known : domain ∈ tree.knownDomains) :
    domain ∈ later.knownDomains := by
  induction becomes with
  | refl => exact known
  | register registration _ ih =>
    rw [knownDomains_submit]
    exact (mem_learnDomain _ _ _).mpr (.inl ih)
  | visit uri appId change _ ih => rwa [knownDomains_visit]

theorem Becomes.routed (becomes : tree.Becomes later) {place : Place}
    (routed : (tree.route? place).isSome) : (later.route? place).isSome := by
  induction becomes with
  | refl => exact routed
  | register registration _ ih =>
    refine (registration.visit_submit _).isSome_route? rfl ?_
    rw [route?_learnDomain]
    exact ih
  | @visit later α uri appId change _ ih =>
    have visited := (Prod.eta (later.visit uri appId change)).symm
    rcases visit_cases visited with ⟨error, -, -, same⟩ | ⟨location, -, visit⟩
    · rw [same]
      exact ih
    · exact visit.isSome_route? rfl ih

theorem Serves.becomes (serves : tree.Serves domain number) (becomes : tree.Becomes later) :
    later.Serves domain number :=
  ⟨becomes.sorted serves.sorted, becomes.known serves.known, becomes.routed serves.routed⟩

theorem becomes_of_accepted? {registration : Registration}
    (done : registration.accepted? tree = some later) : tree.Becomes later := by
  unfold Registration.accepted? at done
  split at done
  · next submitted =>
    cases done
    have becomes : tree.Becomes (registration.submit tree).2 := .register registration .refl
    rwa [submitted] at becomes
  · cases done

theorem there_of_accepted? {registration : Registration}
    (done : registration.accepted? tree = some later) :
    registration.place.domain ∈ later.knownDomains ∧
      (later.route? registration.place).isSome := by
  have known := (Registration.visit_of_accepted? done).frame.1
  have routes := Registration.route?_of_accepted? done
  constructor
  · rw [known]
    exact (mem_learnDomain _ _ _).mpr (.inr rfl)
  · rw [routes, Function.update_self, Option.isSome_some]

theorem serves_of_accepted? {id : String} (sorted : LongestFirst tree.knownDomains)
    (lower : Text.lowerAscii domain = domain)
    (done : (Registration.port domain number id).accepted? tree = some later) :
    later.Serves domain number := by
  have place : (Registration.port domain number id).place = ⟨domain, "", .port number⟩ := by
    rw [Registration.place, lower]
  have there := there_of_accepted? done
  rw [place] at there
  exact ⟨(becomes_of_accepted? done).sorted sorted, there.1, there.2⟩

end

/-! ### Where traffic goes -/

section
variable {tree : Tree} {uri : String} {place : Place} {location : Location}

theorem attributed_of_held (located : tree.locate uri = .ok location)
    (held : (tree.host? location.domain location.host).isSome) :
    tree.Attributed uri (tree.place location) := by
  intro α appId change changed
  have visited := (Prod.eta (tree.visit uri appId change)).symm
  rcases visit_cases visited with ⟨error, unread, -⟩ | ⟨here, read, visit⟩
  · rw [located] at unread
    cases unread
  · obtain rfl : location = here := Except.ok.inj (located.symm.trans read)
    obtain ⟨result, done⟩ := visit.admitted held
    rcases visit.routes rfl with ⟨error, refused, -⟩ | ⟨result, route, answered, same, routes⟩
    · rw [done] at refused
      cases refused
    · have both : changed = (result, route) := same
      rw [both]
      exact ⟨answered, routes⟩

theorem held_of_routed (routed : (tree.route? place).isSome) :
    (tree.host? place.domain place.host).isSome := by
  obtain ⟨route, found⟩ := Option.isSome_iff_exists.mp routed
  obtain ⟨host, there, -⟩ := Option.bind_eq_some_iff.mp found
  exact Option.isSome_of_eq_some there

def rename (traffic : AppTraffic) : Unit × AppTraffic :=
  ((), { traffic with appId := traffic.appId ++ "x" })

theorem ne_rename (route : Route) : (route.visitApp "" rename).2 ≠ route := by
  intro same
  have renamed := congrArg (·.apps.get? "") same
  have visited : (route.visitApp "" rename).2.apps.get? "" = _ :=
    route.apps.get?_visit "" "" { appId := "" } rename
  rw [if_pos rfl] at visited
  simp only [visited] at renamed
  cases found : route.apps.get? "" with
  | none =>
    rw [found] at renamed
    cases renamed
  | some traffic =>
    rw [found, Option.getD_some, Option.some.injEq] at renamed
    have longer := congrArg (·.appId.length) renamed
    simp [rename] at longer

theorem Attributed.located (attributed : tree.Attributed uri place) :
    ∃ location, tree.locate uri = .ok location ∧ tree.place location = place := by
  obtain ⟨answered, changed⟩ := attributed Unit "" rename
  have visited := (Prod.eta (tree.visit uri "" rename)).symm
  rcases visit_cases visited with ⟨error, -, failed, -⟩ | ⟨location, read, visit⟩
  · rw [answered] at failed
    cases failed
  · refine ⟨location, read, ?_⟩
    rcases visit.routes rfl with ⟨error, refused, -⟩ | ⟨result, route, -, -, routes⟩
    · rw [answered] at refused
      cases refused
    · by_contra apart
      -- Elsewhere the route of the place would be as it was, though its traffic is renamed.
      have still : (tree.visit uri "" rename).2.route? place = tree.route? place := by
        rw [routes]
        exact Function.update_of_ne (Ne.symm apart) _ _
      rw [changed, Function.update_self] at still
      cases found : tree.route? place with
      | none =>
        rw [found] at still
        cases still
      | some kept =>
        rw [found, Option.getD_some, Option.some.injEq] at still
        exact ne_rename kept still

theorem attributed_iff_of_held (located : tree.locate uri = .ok location)
    (held : (tree.host? location.domain location.host).isSome) :
    tree.Attributed uri place ↔ tree.place location = place := by
  constructor
  · intro there
    obtain ⟨other, read, placed⟩ := there.located
    rwa [Except.ok.inj (located.symm.trans read)]
  · rintro rfl
    exact attributed_of_held located held

end

/-! ### Requests that name domain and port -/

section
variable {tree : Tree} {domain rest : String} {number : Nat}

theorem toList_port (number : Nat) :
    (":" ++ toString number).toList = ':' :: Nat.toDigits 10 number := by
  simp

theorem addressed_port (labels : Uri.Labels Char.isLower domain.toList) (number : Nat)
    (ends : ∀ c, rest.toList.head? = some c → c ∈ ['/', '?', '#']) :
    Uri.Addressed domain.toList (":" ++ toString number).toList rest.toList where
  named := labels.ne_nil
  name := by
    intro c member
    rcases labels.mem member with lower | rfl
    · exact Uri.isNameChar_of_isAlpha (Text.isAlpha_of_isLower lower)
    · rfl
  port := .inr ⟨Nat.toDigits 10 number, toList_port number, Nat.toDigits_ne_nil,
    fun _ member => Nat.isDigit_of_mem_toDigits (by decide) (by decide) member⟩
  rest := ends

theorem locate_port (serves : tree.Serves domain number)
    (labels : Uri.Labels Char.isLower domain.toList) (small : number < 65536)
    (ends : ∀ c, rest.toList.head? = some c → c ∈ ['/', '?', '#']) :
    ∃ path, tree.locate ("http://" ++ (domain ++ (":" ++ toString number) ++ rest)) =
      .ok ⟨"", domain, path, if number = 80 then none else some number⟩ := by
  have spelt : Uri.portNumber? (":" ++ toString number).toList = some number := by
    rw [toList_port, Uri.portNumber?, Uri.numberIn_toDigits]
  have within : ∀ n, Uri.portNumber? (":" ++ toString number).toList = some n → n < 65536 := by
    intro n same
    rwa [← Option.some.inj (spelt.symm.trans same)]
  have kept : (some number).filter (· ≠ 80) = if number = 80 then none else some number := by
    by_cases usual : number = 80
    · simp [usual, Option.filter]
    · simp [usual, Option.filter]
  have letters := labels.mono fun _ => Text.isAlpha_of_isLower
  obtain ⟨path, read⟩ := locate_letters (addressed_port labels number ends) letters within tree
  rw [lowerAscii_labels labels, splitName_known serves.sorted serves.known, spelt, kept] at read
  exact ⟨path, read⟩

theorem place_port (serves : tree.Serves domain number) (path : String) :
    tree.place ⟨"", domain, path, some number⟩ = ⟨domain, "", .port number⟩ := by
  have routed : (tree.hostAt domain "").tcpRoutes.contains number = true := by
    have there := serves.routed
    rwa [route?_eq] at there
  simp [place, Host.target, Option.filter, routed]

theorem Serves.attributed_iff (serves : tree.Serves domain number) {uri path : String}
    (located : tree.locate uri =
      .ok ⟨"", domain, path, if number = 80 then none else some number⟩) :
    tree.Attributed uri ⟨domain, "", .port number⟩ ↔ number ≠ 80 := by
  rw [attributed_iff_of_held located (held_of_routed serves.routed)]
  by_cases usual : number = 80
  · rw [if_pos usual]
    exact iff_of_false nofun (not_not_intro usual)
  · rw [if_neg usual]
    exact iff_of_true (place_port serves path) usual

theorem not_attributed_of_marked (labels : Uri.Labels Char.isLower domain.toList)
    (ends : ∀ c, rest.toList.head? = some c → c ∈ ['/', '?', '#'])
    (marked : Text.contains "://".toList (domain ++ (":" ++ toString number) ++ rest).toList =
      true) (host : String) (target : Target) :
    ¬ tree.Attributed (domain ++ (":" ++ toString number) ++ rest) ⟨domain, host, target⟩ := by
  intro there
  obtain ⟨location, read, placed⟩ := there.located
  obtain ⟨-, -, numeric⟩ :=
    numeric_of_marked (addressed_port labels number ends) tree marked (by rw [read]; rfl)
  obtain ⟨first, more, named, lower⟩ := labels.cons
  have same : location.domain = domain := congrArg Place.domain placed
  refine Text.not_numeric_of_isAlpha (Text.isAlpha_of_isLower lower) (numeric first (.inr ?_))
  rw [same, named]
  exact List.mem_cons_self

end

/-- Requests that name a registered domain and port, with anything behind them, are attributed
to the port unless it is the usual one of the web; without a scheme in front they must also not
have its mark in them. Those to the usual port go to a path of the domain. -/
theorem port_exact {limits : Limits} {tree registered later : Tree} {domain id rest : String}
    {number : Nat} (reached : (create limits).Becomes tree)
    (labels : Uri.Labels Char.isLower domain.toList) (small : number < 65536)
    (done : (Registration.port domain number id).accepted? tree = some registered)
    (since : registered.Becomes later)
    (ends : ∀ c, rest.toList.head? = some c → c ∈ ['/', '?', '#']) :
    let uri := domain ++ (":" ++ toString number) ++ rest
    (later.Attributed ("http://" ++ uri) ⟨domain, "", .port number⟩ ↔ number ≠ 80) ∧
    (later.Attributed uri ⟨domain, "", .port number⟩ ↔
      number ≠ 80 ∧ Text.contains "://".toList uri.toList = false) ∧
    (number = 80 → ∃ text, later.Attributed ("http://" ++ uri) ⟨domain, "", .path text⟩) := by
  intro uri
  have serves : later.Serves domain number :=
    (serves_of_accepted? (reached.sorted .nil) (lowerAscii_labels labels) done).becomes since
  obtain ⟨path, located⟩ := locate_port serves labels small ends
  refine ⟨serves.attributed_iff located, ?_, ?_⟩
  · -- Without the mark a scheme is put in front, which gives the form above.
    cases marked : Text.contains "://".toList uri.toList with
    | false =>
      have read := (later.locate_unmarked marked).trans (congrArg Except.toOption located)
      simpa using serves.attributed_iff (eq_ok_of_toOption read)
    | true =>
      refine ⟨fun there => ?_, fun ⟨_, unmarked⟩ => by cases unmarked⟩
      exact absurd there (not_attributed_of_marked labels ends marked _ _)
  · intro usual
    have here := attributed_of_held located (held_of_routed serves.routed)
    rw [if_pos usual] at here
    exact ⟨_, here⟩

/-- A port registered on a domain, after a request to another port of it. -/
theorem port_exact_other :
    ∃ registered, (Registration.port "a.b" 8080 "r").accepted? (create {}) = some registered ∧
      (registered.resolve "a.b:8081" "app").2.Attributed "a.b:8080/x" ⟨"a.b", "", .port 8080⟩ := by
  have accepted : ((Registration.port "a.b" 8080 "r").accepted? (create {})).isSome = true := by
    decide +kernel
  obtain ⟨registered, done⟩ := Option.isSome_iff_exists.mp accepted
  have labels : Uri.Labels Char.isLower "a.b".toList := by
    have split : "a.b".toList.splitOn '.' = [['a'], ['b']] := by decide
    rw [Uri.Labels, split]
    simp
  have ends : ∀ c, "/x".toList.head? = some c → c ∈ ['/', '?', '#'] := by
    rintro c ⟨⟩
    decide
  have later : registered.Becomes (registered.resolve "a.b:8081" "app").2 := .visit _ _ _ .refl
  obtain ⟨-, bare, -⟩ := port_exact .refl labels (by decide) done later ends
  exact ⟨registered, done, bare.mpr ⟨by decide, by decide +kernel⟩⟩

/-- The usual port of the web, registered and then requested. -/
theorem port_usual :
    let registered := (Registration.port "a.b" 80 "r").submit (create {})
    let tree := (registered.2.track { uri := "http://a.b:80/x" } "app" 0).2
    registered.1.toOption = some () ∧
      (tree.route? ⟨"a.b", "", .port 80⟩).map (·.requests) = some 0 ∧
      (tree.route? ⟨"a.b", "", .path ""⟩).map (·.requests) = some 1 := by
  decide +kernel

end Telemetry.Route.Tree
