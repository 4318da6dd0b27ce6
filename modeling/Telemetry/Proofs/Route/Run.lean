import Telemetry.Proofs.Route.Attribution

/-!
Runs of a tree in which registrations and requests may be refused.

Refused or not, an act leaves a tree behind. Beside the roots, that tree has the routes whose
registrations were accepted on the way and no others.
-/

set_option autoImplicit false

namespace Telemetry.Route.Tree

/-- What an act answers and the tree it leaves. A registration has no keys to refuse. -/
def perform (tree : Tree) : Act → Except Error Nat × Tree
  | .register registration =>
    let (outcome, after) := registration.submit tree
    (outcome.map fun _ => 0, after)
  | .track event appId now => tree.track event appId now

def performAll (tree : Tree) (acts : List Act) : Tree :=
  acts.foldl (fun tree act => (tree.perform act).2) tree

theorem performAll_append (tree : Tree) (first second : List Act) :
    tree.performAll (first ++ second) = (tree.performAll first).performAll second :=
  List.foldl_append

def accepts? (tree : Tree) (act : Act) : Option Registration :=
  act.registration?.filter fun registration => (registration.accepted? tree).isSome

/-- The registrations of a run that are not refused, each by the tree it comes to. -/
def accepted (tree : Tree) : List Act → List Registration
  | [] => []
  | act :: rest => (tree.accepts? act).toList ++ (tree.perform act).2.accepted rest

section
variable {tree : Tree} {registrations : List Registration}

@[simp] theorem accepts?_track (tree : Tree) (event : HttpEvent) (appId : String) (now : Instant) :
    tree.accepts? (.track event appId now) = none := rfl

theorem accepts?_register {registration : Registration} :
    tree.accepts? (.register registration) =
      if (registration.accepted? tree).isSome then some registration else none := by
  simp [accepts?, Act.registration?, Option.filter]

@[simp] theorem perform_register (tree : Tree) (registration : Registration) :
    (tree.perform (.register registration)).2 = (registration.submit tree).2 := rfl

theorem accepted_or_refused (tree : Tree) (registration : Registration) :
    registration.accepted? tree = some (registration.submit tree).2 ∨
    ∃ error after, registration.submit tree = (.error error, after) ∧ error.isLimit = true ∧
      registration.accepted? tree = none ∧ after.route? = tree.route? := by
  have visit := registration.visit_submit tree
  unfold Registration.accepted?
  generalize registration.submit tree = submitted at visit
  obtain ⟨outcome, after⟩ := submitted
  cases outcome with
  | ok done => exact .inl rfl
  | error error =>
    rcases visit.routes rfl with ⟨reason, failed, limit, routes⟩ | ⟨result, route, done, -⟩
    · cases failed
      refine .inr ⟨error, after, rfl, limit, rfl, ?_⟩
      rw [routes, route?_learnDomain]
    · cases done

theorem Routed.perform (routed : tree.Routed registrations) (act : Act) :
    (tree.perform act).2.Routed (registrations ++ (tree.accepts? act).toList) := by
  cases act with
  | track event appId now =>
    rw [accepts?_track, Option.toList_none, List.append_nil]
    exact routed.track (Prod.eta (tree.track event appId now)).symm
  | register registration =>
    rw [accepts?_register, perform_register]
    rcases tree.accepted_or_refused registration with
      done | ⟨error, after, failed, -, refused, routes⟩
    · rw [done]
      exact routed.register done
    · rw [refused, failed]
      intro place inner
      simpa [routes] using routed place inner

theorem Routed.performAll (routed : tree.Routed registrations) (acts : List Act) :
    (tree.performAll acts).Routed (registrations ++ tree.accepted acts) := by
  induction acts generalizing tree registrations with
  | nil => simpa [Tree.performAll, accepted] using routed
  | cons act rest ih =>
    have later := ih (routed.perform act)
    rwa [List.append_assoc] at later

end

end Telemetry.Route.Tree
