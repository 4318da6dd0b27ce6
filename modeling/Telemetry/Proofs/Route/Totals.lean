import Telemetry.Proofs.Route.Count
import Telemetry.Proofs.Route.Registration

/-!
Figures of a whole tree, before and after a visit to one of its hosts.

A visit raises a figure by what its change raises it by, or else it is refused and raises the
refusals of the domains or of the hosts by one.
-/

set_option autoImplicit false

namespace Telemetry.Route

namespace Error

def atDomain : Error → Nat
  | .domainLimit _ _ => 1
  | _ => 0

def atHost : Error → Nat
  | .hostLimit _ _ _ => 1
  | _ => 0

end Error

/-- A figure of an outcome, by what it is of a result or of an error. -/
def figureOf {α : Type} (ofResult : α → Nat) (ofError : Error → Nat) : Except Error α → Nat
  | .ok result => ofResult result
  | .error error => ofError error

def Domain.total (f : MethodTraffic → Nat) (domain : Domain) : Nat :=
  domain.hosts.table.total (Host.total f)

namespace Tree

def total (f : MethodTraffic → Nat) (tree : Tree) : Nat :=
  tree.domains.table.total (Domain.total f)

def requests (tree : Tree) : Nat :=
  (tree.domains.values.map fun domain => (domain.hosts.values.map Host.requests).sum).sum

def hostRefusals (tree : Tree) : Nat := (tree.domains.values.map (·.hosts.rejected)).sum

def keyRefusals (tree : Tree) : Nat := tree.total (·.refusals)

theorem hostRefusals_eq (tree : Tree) :
    tree.hostRefusals = tree.domains.table.total (·.hosts.rejected) := rfl

theorem total_setDomain (tree : Tree) (g : Domain → Nat)
    (zero : ∀ name limit, g ⟨name, .create limit⟩ = 0) (domain : String) (entry : Domain) :
    (tree.setDomain domain entry).domains.table.total g + g (tree.domainAt domain) =
      tree.domains.table.total g + g entry := by
  have altered := tree.domains.table.total_alter g domain fun _ => entry
  have old : (tree.domains.table.get? domain).elim 0 g = g (tree.domainAt domain) := by
    unfold domainAt CappedTable.get?
    cases tree.domains.table.get? domain with
    | none => exact (zero _ _).symm
    | some found => rfl
  rw [old] at altered
  exact altered

theorem total_insertHost (tree : Tree) (f : MethodTraffic → Nat) {entry : Domain}
    {domain host : String} (same : entry = tree.domainAt domain)
    (space : entry.hosts.admits host = true) (value : Host) :
    Domain.total f { entry with hosts := (entry.hosts.insert host value).2 } +
      Host.total f (tree.hostAt domain host) = Domain.total f entry + Host.total f value := by
  have altered := entry.hosts.table.total_alter (Host.total f) host fun _ => value
  have old : (entry.hosts.table.get? host).elim 0 (Host.total f) =
      Host.total f (tree.hostAt domain host) := by
    rw [hostAt, ← get?_domainAt, ← same, CappedTable.get?]
    cases entry.hosts.table.get? host <;> rfl
  rw [old] at altered
  rw [Domain.total, CappedTable.insert_of_admits space]
  exact altered

section
variable {α : Type} {tree after : Tree} {domain host : String} {change : Host → α × Host}
  {outcome : Except Error α}

theorem Visit.total {f : MethodTraffic → Nat} {raise : α → Nat}
    (raises : Raises (Host.total f) raise change)
    (visit : Visit tree domain host change (outcome, after)) :
    after.total f = tree.total f + figureOf raise (fun _ => 0) outcome := by
  cases visit with
  | domainRefused full => rfl
  | @hostRefused entry room same full =>
    have set := tree.total_setDomain (Domain.total f) (fun _ _ => rfl) domain
      { entry with hosts := entry.hosts.refuse }
    -- A refused host is counted in a domain that is otherwise as it was.
    have kept : Domain.total f { entry with hosts := entry.hosts.refuse } =
        Domain.total f (tree.domainAt domain) := by
      rw [same]
      rfl
    rw [kept] at set
    exact Nat.add_right_cancel set
  | @changed entry result value room same space changed =>
    have set := tree.total_setDomain (Domain.total f) (fun _ _ => rfl) domain
      { entry with hosts := (entry.hosts.insert host value).2 }
    have inserted := tree.total_insertHost f same space value
    have raised := raises (tree.hostAt domain host)
    rw [← changed] at raised
    rw [← same] at set
    simp only [Tree.total, figureOf] at raised ⊢
    omega

theorem Visit.domainRefusals (visit : Visit tree domain host change (outcome, after)) :
    after.domains.rejected =
      tree.domains.rejected + figureOf (fun _ => 0) Error.atDomain outcome := by
  cases visit <;> rfl

theorem Visit.hostRefusals (visit : Visit tree domain host change (outcome, after)) :
    after.hostRefusals = tree.hostRefusals + figureOf (fun _ => 0) Error.atHost outcome := by
  cases visit with
  | domainRefused full => rfl
  | @hostRefused entry room same full =>
    have set := tree.total_setDomain (·.hosts.rejected) (fun _ _ => rfl) domain
      { entry with hosts := entry.hosts.refuse }
    have one : entry.hosts.refuse.rejected = (tree.domainAt domain).hosts.rejected + 1 := by
      rw [same]
      rfl
    simp only [one] at set
    rw [hostRefusals_eq, hostRefusals_eq, figureOf, Error.atHost]
    omega
  | @changed entry result value room same space changed =>
    have set := tree.total_setDomain (·.hosts.rejected) (fun _ _ => rfl) domain
      { entry with hosts := (entry.hosts.insert host value).2 }
    have kept : (entry.hosts.insert host value).2.rejected =
        (tree.domainAt domain).hosts.rejected := by
      rw [CappedTable.insert_of_admits space, same]
    simp only [kept] at set
    exact Nat.add_right_cancel set

end

section
variable {tree after : Tree}

theorem uri_of_locate {uri : String} {error : Error} (unread : tree.locate uri = .error error) :
    ∃ reason, error = .uri uri reason := by
  unfold locate at unread
  dsimp only at unread
  split at unread
  · cases unread
    exact ⟨_, rfl⟩
  · cases unread

theorem total_registered {registration : Registration} {outcome : Except Error Unit}
    (visit : (tree.learnDomain registration.place.domain).Visit registration.place.domain
      registration.place.host registration.effect (outcome, after)) (f : MethodTraffic → Nat) :
    after.total f = tree.total f := by
  have raises : Raises (Host.total f) (fun _ => 0) registration.effect :=
    Host.raises_visit (fun _ => rfl) _
  have visited := visit.total raises
  rw [Tree.total, Tree.total, domains_learnDomain] at visited
  cases outcome <;> exact visited

theorem figures_register {registration : Registration}
    (done : registration.accepted? tree = some after) :
    after.requests = tree.requests ∧ after.domains.rejected = tree.domains.rejected ∧
    after.hostRefusals = tree.hostRefusals ∧ after.keyRefusals = tree.keyRefusals := by
  have visit := Registration.visit_of_accepted? done
  have total := total_registered visit
  have domains := visit.domainRefusals
  have hosts := visit.hostRefusals
  rw [domains_learnDomain] at domains
  rw [Tree.hostRefusals, Tree.hostRefusals, domains_learnDomain] at hosts
  exact ⟨total _, domains, hosts, total _⟩

theorem figures_track {event : HttpEvent} {appId : String} {now : Instant}
    {outcome : Except Error Nat} (tracked : tree.track event appId now = (outcome, after)) :
    after.requests = tree.requests + figureOf (fun _ => 1) (fun _ => 0) outcome ∧
    after.domains.rejected =
      tree.domains.rejected + figureOf (fun _ => 0) Error.atDomain outcome ∧
    after.hostRefusals = tree.hostRefusals + figureOf (fun _ => 0) Error.atHost outcome ∧
    after.keyRefusals =
      tree.keyRefusals + figureOf (fun refused => refused) (fun _ => 0) outcome := by
  rcases track_cases tracked with ⟨error, unread, rfl, rfl⟩ | ⟨location, -, visit⟩
  · obtain ⟨reason, rfl⟩ := uri_of_locate unread
    exact ⟨rfl, rfl, rfl, rfl⟩
  · have raises : ∀ {f : MethodTraffic → Nat} {raise : Nat → Nat},
        Raises f raise (·.record (.ofEvent event) now) → f (.create tree.limits.keys) = 0 →
        Raises (Host.total f) raise (tree.countAt event appId now location) := by
      intro f raise raises zero host
      have recorded := AppTraffic.raises_record raises zero event.method
      exact Host.raises_visit (Route.raises_visitApp recorded appId) _ host
    exact ⟨visit.total (raises (MethodTraffic.raises_requests _ now) rfl), visit.domainRefusals,
      visit.hostRefusals, visit.total (raises (MethodTraffic.raises_refusals _ now) rfl)⟩

end

end Tree

end Telemetry.Route
