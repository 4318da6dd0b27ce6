import Mathlib.Control.Monad.Basic
import Telemetry.Proofs.Route.Refusal

/-!
What a refused request leaves behind.

Main statement: where domains may keep hosts, it leaves one more count of refusals in the table
that had no room, and no later act can tell. Where they may not, a domain that there is room for
is entered before its host is refused, and stays.
-/

set_option autoImplicit false

namespace Telemetry.Route.Tree

theorem keys_setDomain {tree : Tree} {domain : String} (vacant : ¬ tree.Settled domain)
    (entry : Domain) :
    (tree.setDomain domain entry).domains.keys = tree.domains.keys ++ [domain] := by
  have new : domain ∉ tree.domains.table.keys := by
    intro known
    exact vacant (.inl ((tree.domains.table.mem_keys_iff domain).mp known))
  have altered := tree.domains.table.keys_alter domain fun _ => entry
  rw [if_neg new] at altered
  exact altered

/-- A request is refused because it cannot be read, or because a table has no room; then nothing
is changed but the count of that table. Only where no domain may keep a host a request also
leaves its domain, if that had room and was not there. -/
theorem refused_exact {tree after : Tree} {event : HttpEvent} {appId : String} {now : Instant}
    {error : Error} (refused : tree.track event appId now = (.error error, after)) :
    ((∀ location, tree.locate event.uri = .ok location → ¬ tree.Strands location.domain) →
      (tree.locate event.uri = .error error ∧ after = tree ∨
        ∃ location, tree.locate event.uri = .ok location ∧
          tree.Refuses location.domain location.host error after) ∧
      ∀ more, after.outcomes more = tree.outcomes more ∧
        (after.performAll more).Alike (tree.performAll more)) ∧
    ∀ location, tree.locate event.uri = .ok location → tree.Strands location.domain →
      error = .hostLimit location.domain location.host 0 ∧
      after = tree.setDomain location.domain ⟨location.domain, (CappedTable.create 0).refuse⟩ ∧
      after.domains.keys = tree.domains.keys ++ [location.domain] := by
  rcases track_cases refused with ⟨reason, unread, failed, same⟩ | ⟨location, read, visit⟩
  · obtain rfl : error = reason := Except.error.inj failed
    subst same
    constructor
    · exact fun _ => ⟨.inl ⟨unread, rfl⟩, (Alike.refl after).performAll⟩
    · intro location read
      rw [unread] at read
      cases read
  -- A request is located in one place, so what holds of its visit holds of every place asked for.
  · have only : ∀ other, tree.locate event.uri = .ok other → other = location := by
      intro other here
      exact Except.ok.inj (here.symm.trans read)
    rcases visit.refuses with ⟨spared, refuses⟩ | ⟨strands, failed, left⟩
    · constructor
      · exact fun _ => ⟨.inr ⟨location, read, refuses⟩, refuses.alike.performAll⟩
      · intro other here strands
        exact absurd (only other here ▸ strands) spared
    · constructor
      · exact fun never => absurd strands (never location read)
      · intro other here strands
        obtain rfl := only other here
        refine ⟨failed, left, ?_⟩
        rw [left]
        exact keys_setDomain strands.2 _

/-- A second host of a domain that may keep one: no later act can tell that it was asked for. -/
theorem refused_exact_host :
    let tree := (create { hostsPerDomain := 1 }).performAll [.register (.path "com" "www" "/" "r")]
    ∃ after, tree.track { uri := "a.com" } "app" 0 = (.error (.hostLimit "com" "a" 1), after) ∧
      ∀ more, after.outcomes more = tree.outcomes more := by
  intro tree
  have failed : (tree.track { uri := "a.com" } "app" 0).1 = .error (.hostLimit "com" "a" 1) := by
    decide +kernel
  have tracked : tree.track { uri := "a.com" } "app" 0 =
      (.error (.hostLimit "com" "a" 1), (tree.track { uri := "a.com" } "app" 0).2) :=
    Prod.ext failed rfl
  refine ⟨_, tracked, fun more => ?_⟩
  obtain ⟨spared, -⟩ := refused_exact tracked
  have hosts : tree.limits.hostsPerDomain ≠ 0 := by decide +kernel
  exact ((spared fun _ _ strands => hosts strands.1).2 more).1

/-- With room for one domain and for no host, a refused request takes the room: its domain stays,
and the next one is refused for want of room for a domain, where otherwise its host would be. -/
theorem refused_stranded :
    let tree := create { domains := 1, hostsPerDomain := 0 }
    let first : Act := .track { uri := "a.b" } "app" 0
    let next : Act := .track { uri := "a.c" } "app" 0
    let after := (tree.perform first).2
    (tree.perform first).1 = .error (.hostLimit "b" "a" 0) ∧
      tree.domains.keys = [] ∧ after.domains.keys = ["b"] ∧
      (tree.perform next).1 = .error (.hostLimit "c" "a" 0) ∧
      (after.perform next).1 = .error (.domainLimit "c" 1) := by
  decide +kernel

end Telemetry.Route.Tree
