import Mathlib.Logic.Function.Basic
import Telemetry.Proofs.Table
import Telemetry.Route.Tree

/-!
Where a route stands in a tree, and what a visit to a host does there.

A visit is refused at its domain, refused at its host, or changes the one host it is for. All
else that is said of visits follows from these three cases.
-/

set_option autoImplicit false

namespace Telemetry

namespace Host

open Route (Target)

def route? (host : Host) : Target → Option Route
  | .path text => host.routes.get? text
  | .port number => host.tcpRoutes.get? number

@[simp] theorem route?_create (name : String) (target : Target) :
    (create name).route? target = none := by
  cases target <;> rfl

theorem route?_visit {α : Type} (host : Host) (target other : Target)
    (change : Route → α × Route) :
    (host.visit target change).2.route? other =
      if other = target then some (change ((host.route? target).getD {})).2
      else host.route? other := by
  cases target with
  | path text =>
    cases other with
    | path other => simpa [visit, route?] using host.routes.get?_visit text other {} change
    | port other => simp [visit, route?]
  | port number =>
    cases other with
    | path other => simp [visit, route?]
    | port other => simpa [visit, route?] using host.tcpRoutes.get?_visit number other {} change

theorem visit_result {α : Type} (host : Host) (target : Target) (change : Route → α × Route) :
    (host.visit target change).1 = (change ((host.route? target).getD {})).1 := by
  cases target <;> rfl

end Host

namespace Route

structure Place where
  domain : String
  host : String
  target : Target
  deriving DecidableEq

/-- A refusal for want of room, as opposed to a locator that cannot be read. -/
def Error.isLimit : Error → Bool
  | .domainLimit _ _ | .hostLimit _ _ _ => true
  | .uri _ _ => false

namespace Tree

variable {α : Type}

def route? (tree : Tree) (place : Place) : Option Route :=
  (tree.host? place.domain place.host).bind (·.route? place.target)

def hostAt (tree : Tree) (domain host : String) : Host :=
  (tree.host? domain host).getD (.create host)

def domainAt (tree : Tree) (domain : String) : Domain :=
  (tree.domains.get? domain).getD ⟨domain, .create tree.limits.hostsPerDomain⟩

def setDomain (tree : Tree) (domain : String) (entry : Domain) : Tree :=
  { tree with domains := { tree.domains with table := tree.domains.table.insert domain entry } }

theorem route?_eq (tree : Tree) (place : Place) :
    tree.route? place = (tree.hostAt place.domain place.host).route? place.target := by
  unfold route? hostAt
  cases tree.host? place.domain place.host with
  | none => exact (Host.route?_create _ _).symm
  | some host => rfl

theorem get?_domainAt (tree : Tree) (domain host : String) :
    (tree.domainAt domain).hosts.get? host = tree.host? domain host := by
  unfold domainAt host?
  cases tree.domains.get? domain <;> rfl

theorem domainAt_eq {tree : Tree} {domain : String} {kept : Domain}
    (found : tree.domains.get? domain = some kept) : tree.domainAt domain = kept := by
  rw [domainAt, found, Option.getD_some]

theorem hostAt_eq {tree : Tree} {domain host : String} {kept : Host}
    (found : tree.host? domain host = some kept) : tree.hostAt domain host = kept := by
  rw [hostAt, found, Option.getD_some]

theorem host?_setDomain (tree : Tree) (domain : String) (entry : Domain) (other host : String) :
    (tree.setDomain domain entry).host? other host =
      if other = domain then entry.hosts.get? host else tree.host? other host := by
  have found : (tree.setDomain domain entry).domains.get? other =
      if other = domain then some entry else tree.domains.get? other :=
    tree.domains.table.get?_alter domain other _
  rw [host?, found]
  split <;> rfl

inductive Visit (tree : Tree) (domain host : String) (change : Host → α × Host) :
    Except Error α × Tree → Prop where
  | domainRefused : tree.domains.admits domain = false →
      Visit tree domain host change (.error (.domainLimit domain tree.domains.limit),
        { tree with domains := tree.domains.refuse })
  | hostRefused {entry : Domain} : tree.domains.admits domain = true →
      entry = tree.domainAt domain → entry.hosts.admits host = false →
      Visit tree domain host change (.error (.hostLimit domain host entry.hosts.limit),
        tree.setDomain domain { entry with hosts := entry.hosts.refuse })
  | changed {entry : Domain} {result : α} {value : Host} : tree.domains.admits domain = true →
      entry = tree.domainAt domain → entry.hosts.admits host = true →
      (result, value) = change (tree.hostAt domain host) →
      Visit tree domain host change (.ok result, tree.setDomain domain
        { entry with hosts := (entry.hosts.insert host value).2 })

theorem visit_visitHost (tree : Tree) (domain host : String) (change : Host → α × Host) :
    Visit tree domain host change (tree.visitHost domain host change) := by
  have current : ((tree.domainAt domain).hosts.get? host).getD (.create host) =
      tree.hostAt domain host := by
    rw [get?_domainAt, hostAt]
  unfold visitHost
  cases room : tree.domains.admits domain with
  | false => exact .domainRefused room
  | true =>
    simp only [Bool.not_true, Bool.false_eq_true, if_false, CappedTable.insert_of_admits room]
    change Visit tree domain host change (if (!(tree.domainAt domain).hosts.admits host) = true
      then _ else _)
    cases space : (tree.domainAt domain).hosts.admits host with
    | false => exact .hostRefused room rfl space
    | true =>
      rw [Bool.not_true, if_neg Bool.false_ne_true]
      refine .changed room rfl space ?_
      rw [← current]
      rfl

section
variable {tree after : Tree} {domain host : String} {change : Host → α × Host}
  {outcome : Except Error α}

theorem Visit.frame (visit : Visit tree domain host change (outcome, after)) :
    after.knownDomains = tree.knownDomains ∧ after.limits = tree.limits := by
  cases visit <;> exact ⟨rfl, rfl⟩

theorem Visit.hosts (visit : Visit tree domain host change (outcome, after)) :
    (∃ error, outcome = .error error ∧ error.isLimit = true ∧ after.host? = tree.host?) ∨
    ∃ result value, outcome = .ok result ∧ change (tree.hostAt domain host) = (result, value) ∧
      ∀ d h, after.host? d h = if d = domain ∧ h = host then some value else tree.host? d h := by
  cases visit with
  | domainRefused full => exact .inl ⟨_, rfl, rfl, rfl⟩
  | @hostRefused entry room same full =>
    refine .inl ⟨_, rfl, rfl, ?_⟩
    funext d h
    rw [host?_setDomain, CappedTable.get?_refuse, same, get?_domainAt]
    split
    · next here => rw [here]
    · rfl
  | @changed entry result value room same space changed =>
    refine .inr ⟨result, value, rfl, changed.symm, ?_⟩
    intro d h
    -- There is room for the host, so it is entered under its name.
    have inserted : ((entry.hosts.insert host value).2).get? h =
        if h = host then some value else entry.hosts.get? h := by
      rw [CappedTable.insert_of_admits space]
      exact Table.get?_alter _ _ _ _
    rw [host?_setDomain, inserted, same, get?_domainAt]
    by_cases here : d = domain
    · simp [here]
    · simp [here]

theorem Visit.routes (visit : Visit tree domain host change (outcome, after)) {target : Target}
    {changeRoute : Route → α × Route}
    (here : change (tree.hostAt domain host) =
      (tree.hostAt domain host).visit target changeRoute) :
    (∃ error, outcome = .error error ∧ error.isLimit = true ∧ after.route? = tree.route?) ∨
    ∃ result route, outcome = .ok result ∧
      changeRoute ((tree.route? ⟨domain, host, target⟩).getD {}) = (result, route) ∧
      after.route? = Function.update tree.route? ⟨domain, host, target⟩ (some route) := by
  rcases visit.hosts with ⟨error, refused, limit, same⟩ | ⟨result, value, done, changed, hosts⟩
  · refine .inl ⟨error, refused, limit, ?_⟩
    funext place
    rw [route?, route?, same]
  · have found := tree.route?_eq ⟨domain, host, target⟩
    have returned := (tree.hostAt domain host).visit_result target changeRoute
    have visited := fun other =>
      (tree.hostAt domain host).route?_visit target other changeRoute
    rw [← here, changed, ← found] at returned
    simp only [← here, changed, ← found] at visited
    refine .inr ⟨result, _, done, Prod.ext returned.symm rfl, ?_⟩
    funext ⟨d, h, other⟩
    rw [route?, hosts, Function.update_apply]
    -- Other hosts keep their routes, and so do other targets of this one.
    by_cases same : d = domain ∧ h = host
    · obtain ⟨rfl, rfl⟩ := same
      rw [if_pos ⟨rfl, rfl⟩, Option.bind_some, visited, ← tree.route?_eq ⟨d, h, other⟩]
      simp
    · have elsewhere : (⟨d, h, other⟩ : Place) ≠ ⟨domain, host, target⟩ := by
        rintro ⟨⟩
        exact same ⟨rfl, rfl⟩
      rw [if_neg same, if_neg elsewhere]
      rfl

end

end Tree

end Route

end Telemetry
