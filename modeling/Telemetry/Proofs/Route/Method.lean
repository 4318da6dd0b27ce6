import Telemetry.Proofs.Route.Filing
import Telemetry.Proofs.Table.Arrival

/-!
What is counted of the requests with one method.

Main statement: after any requests, those with each status and those without a class make up all
of them; the user agents and the addresses that are kept are the first distinct ones that came,
each with the number of times it was named, and the uses of all others were refused.
-/

set_option autoImplicit false

namespace Telemetry

/-! ### Keys and their uses -/

namespace CappedTable

variable {κ : Type} [DecidableEq κ] {limit : Nat} {offered : List κ} {table : CappedTable κ Nat}

/-- A table has the first distinct keys of those offered to it, as many as it has room for, each
with the number of its uses; the uses of the other keys were refused. -/
structure Counts (limit : Nat) (offered : List κ) (table : CappedTable κ Nat) : Prop where
  kept : table.limit = limit
  keys : table.keys = offered.eraseDups.take limit
  uses : ∀ key count, table.get? key = some count → count = offered.count key
  whole : table.values.sum + table.rejected = offered.length

theorem counts_create (limit : Nat) : Counts limit ([] : List κ) (create limit) where
  kept := rfl
  keys := List.take_nil.symm
  uses := nofun
  whole := rfl

theorem Counts.count_eq_zero (counts : Counts limit offered table) {key : κ}
    (absent : table.get? key = none) (admitted : table.admits key = true) :
    offered.count key = 0 := by
  have new : key ∉ table.keys := by
    intro known
    have found : (table.get? key).isSome := (table.table.mem_keys_iff key).mp known
    rw [absent] at found
    cases found
  have room : table.keys.length < limit := by
    refine Nat.lt_of_not_le fun full => ?_
    rw [← table.size_eq, ← counts.kept] at full
    rw [admits_eq_false_iff.mpr ⟨new, full⟩] at admitted
    cases admitted
  -- Nothing was cut off then: the keys are all that were offered.
  rw [counts.keys] at new room
  rw [List.length_take] at room
  rw [List.take_of_length_le (by omega), List.mem_eraseDups] at new
  exact List.count_eq_zero.mpr new

theorem get?_use (table : CappedTable κ Nat) (key other : κ) :
    (table.update key 0 (· + 1)).2.get? other =
      if table.admits key = true ∧ other = key then some ((table.get? key).getD 0 + 1)
      else table.get? other := by
  unfold update
  cases admitted : table.admits key with
  | false => simp
  | true =>
    simp only [true_and]
    exact table.table.get?_update key other 0 (· + 1)

theorem whole_use (table : CappedTable κ Nat) (key : κ) :
    (table.update key 0 (· + 1)).2.values.sum + (table.update key 0 (· + 1)).2.rejected =
      table.values.sum + table.rejected + 1 := by
  unfold update
  split
  · have counted := table.table.sum_count key
    simp only [values]
    omega
  · rfl

theorem Counts.use (counts : Counts limit offered table) (key : κ) :
    Counts limit (offered ++ [key]) (table.update key 0 (· + 1)).2 where
  kept := by
    unfold update
    split <;> exact counts.kept
  keys := by
    have updated := table.keys_perform
      (show (Act.update key 0 (· + 1)).keepsKeys = true from rfl)
    have first := firstKeys_concat limit offered key
    rw [size_eq, counts.kept, counts.keys] at updated
    exact updated.trans first.symm
  uses := by
    intro other count found
    rw [List.count_append, List.count_singleton]
    rw [get?_use] at found
    split at found
    · next here =>
      obtain ⟨admitted, rfl⟩ := here
      have before : (table.get? other).getD 0 = offered.count other := by
        cases known : table.get? other with
        | none => exact (counts.count_eq_zero known admitted).symm
        | some uses => exact counts.uses other uses known
      rw [← Option.some.inj found, before, beq_self_eq_true, if_pos rfl]
    · next elsewhere =>
      -- A key that is there is always admitted, so this is another one.
      have other_ne : other ≠ key := by
        rintro rfl
        have known : table.contains other = true := Option.isSome_of_eq_some found
        exact elsewhere ⟨by rw [admits, known, Bool.true_or], rfl⟩
      rw [counts.uses other count found, beq_false_of_ne other_ne.symm]
      rfl
  whole := by
    rw [whole_use, counts.whole, List.length_append, List.length_singleton]

theorem Counts.get?_eq (counts : Counts limit offered table) {key : κ} (known : key ∈ table.keys) :
    table.get? key = some (offered.count key) := by
  obtain ⟨count, found⟩ := Option.isSome_iff_exists.mp ((table.table.mem_keys_iff key).mp known)
  exact counts.uses key count found ▸ found

end CappedTable

namespace Route

open CappedTable (Counts)

theorem counts_countKeys {limit : Nat} {offered : List String} {table : CappedTable String Nat}
    (counts : Counts limit offered table) (keys : List String) :
    Counts limit (offered ++ keys.filter (· ≠ "")) (countKeys table keys).2 := by
  rw [countKeys_eq]
  -- By induction on the keys, for any number of keys refused before them.
  suffices ∀ refused, Counts limit (offered ++ keys.filter (· ≠ ""))
      ((keys.filter (· ≠ "")).foldl countKey (refused, table)).2 from this 0
  induction keys.filter (· ≠ "") generalizing offered table with
  | nil => simpa using counts
  | cons key rest ih =>
    intro refused
    have later := ih (counts.use key) (countKey (refused, table) key).1
    rwa [List.append_assoc] at later

/-! ### Requests -/

namespace MethodTraffic

/-- Requests counted one after the other, and how many keys each had refused. -/
def recordAll (traffic : MethodTraffic) :
    List (Request × Instant) → List Nat × MethodTraffic
  | [] => ([], traffic)
  | (request, now) :: rest =>
    let (refused, next) := traffic.record request now
    let (others, last) := next.recordAll rest
    (refused :: others, last)

/-- The user agents that requests name. -/
def agentsOf (calls : List (Request × Instant)) : List String :=
  calls.flatMap fun (request, _) => request.userAgent.toList.filter (· ≠ "")

def forwardersOf (calls : List (Request × Instant)) : List String :=
  calls.flatMap fun (request, _) => request.forwarded.filter (· ≠ "")

def statusesOf (calls : List (Request × Instant)) : List Nat := calls.map (·.1.status)

/-- Traffic in which some requests are counted and no others. -/
structure Tallies (limits : KeyLimits) (calls : List (Request × Instant))
    (traffic : MethodTraffic) : Prop where
  requests : traffic.requests = calls.length
  balanced : traffic.Balanced
  statuses : ∀ status, traffic.statuses.get? status =
    if 200 ≤ status ∧ status ≤ 599 ∧ status ∈ statusesOf calls then
      some ((statusesOf calls).count status)
    else none
  userAgents : Counts limits.userAgents (agentsOf calls) traffic.userAgents
  forwarders : Counts limits.forwarders (forwardersOf calls) traffic.forwarders

theorem tallies_create (limits : KeyLimits) : Tallies limits [] (create limits) where
  requests := rfl
  balanced := rfl
  statuses status := by simp [statusesOf, create]
  userAgents := CappedTable.counts_create _
  forwarders := CappedTable.counts_create _

theorem Tallies.record {limits : KeyLimits} {calls : List (Request × Instant)}
    {traffic : MethodTraffic} (tallies : Tallies limits calls traffic) (request : Request)
    (now : Instant) :
    Tallies limits (calls ++ [(request, now)]) (traffic.record request now).2 where
  requests := by
    rw [List.length_append, List.length_singleton, ← tallies.requests]
    rfl
  balanced := balanced_record request now traffic tallies.balanced
  statuses status := by
    have before := tallies.statuses status
    have seen : statusesOf (calls ++ [(request, now)]) = statusesOf calls ++ [request.status] :=
      List.map_append
    rw [seen, List.count_append, List.count_singleton]
    simp only [MethodTraffic.record, List.mem_append, List.mem_singleton]
    split
    · next classed =>
      rw [Table.get?_update, tallies.statuses]
      by_cases here : status = request.status
      · subst here
        by_cases known : request.status ∈ statusesOf calls <;>
          simp [classed, known, List.count_eq_zero.mpr]
      · simp [before, here, Ne.symm here]
    · next unclassed =>
      by_cases here : status = request.status
      · -- A status without a class is never in the table.
        have outside : ∀ present, ¬ (200 ≤ status ∧ status ≤ 599 ∧ present) :=
          fun _ inside => unclassed (here ▸ ⟨inside.1, inside.2.1⟩)
        rw [before, if_neg (outside _), if_neg (outside _)]
      · simp [before, here, Ne.symm here]
  userAgents := by
    have counted := counts_countKeys tallies.userAgents request.userAgent.toList
    have named : agentsOf (calls ++ [(request, now)]) =
        agentsOf calls ++ request.userAgent.toList.filter (· ≠ "") := by
      simp [agentsOf]
    exact named ▸ counted
  forwarders := by
    have counted := counts_countKeys tallies.forwarders request.forwarded
    have named : forwardersOf (calls ++ [(request, now)]) =
        forwardersOf calls ++ request.forwarded.filter (· ≠ "") := by
      simp [forwardersOf]
    exact named ▸ counted

theorem Tallies.recordAll {limits : KeyLimits} {calls : List (Request × Instant)}
    {traffic : MethodTraffic} (tallies : Tallies limits calls traffic)
    (more : List (Request × Instant)) :
    Tallies limits (calls ++ more) (traffic.recordAll more).2 := by
  induction more generalizing calls traffic with
  | nil =>
    rw [List.append_nil]
    exact tallies
  | cons call rest ih =>
    obtain ⟨request, now⟩ := call
    have later := ih (tallies.record request now)
    rwa [List.append_assoc] at later

theorem refusals_recordAll (traffic : MethodTraffic) (calls : List (Request × Instant)) :
    (traffic.recordAll calls).2.refusals = traffic.refusals + (traffic.recordAll calls).1.sum := by
  induction calls generalizing traffic with
  | nil => rfl
  | cons call rest ih =>
    obtain ⟨request, now⟩ := call
    have first := raises_refusals request now traffic
    have later := ih (traffic.record request now).2
    simp only [MethodTraffic.recordAll, List.sum_cons] at first later ⊢
    omega

/-- Every request is counted once, with its status or with those that have no class, and every
status that has one with its number of requests. The user agents kept are the first distinct ones
that are not empty, as many as the limit allows, each with the number of requests that named it;
so are the addresses. What is not counted under a key was refused, and the answers tell how
much. -/
theorem recordAll_exact (limits : KeyLimits) (calls : List (Request × Instant)) :
    let returned := ((create limits).recordAll calls).1
    let traffic := ((create limits).recordAll calls).2
    traffic.requests = calls.length ∧
    traffic.requests = traffic.statuses.values.sum + traffic.otherStatuses ∧
    (∀ status, traffic.statuses.get? status =
      if 200 ≤ status ∧ status ≤ 599 ∧ status ∈ statusesOf calls then
        some ((statusesOf calls).count status)
      else none) ∧
    traffic.userAgents.keys = (agentsOf calls).eraseDups.take limits.userAgents ∧
    (∀ agent ∈ traffic.userAgents.keys,
      traffic.userAgents.get? agent = some ((agentsOf calls).count agent)) ∧
    traffic.userAgents.values.sum + traffic.userAgents.rejected = (agentsOf calls).length ∧
    traffic.forwarders.keys = (forwardersOf calls).eraseDups.take limits.forwarders ∧
    (∀ address ∈ traffic.forwarders.keys,
      traffic.forwarders.get? address = some ((forwardersOf calls).count address)) ∧
    traffic.forwarders.values.sum + traffic.forwarders.rejected = (forwardersOf calls).length ∧
    returned.sum = traffic.userAgents.rejected + traffic.forwarders.rejected := by
  intro returned traffic
  have tallies : Tallies limits calls traffic := (tallies_create limits).recordAll calls
  have refused := refusals_recordAll (create limits) calls
  refine ⟨tallies.requests, tallies.balanced, tallies.statuses, tallies.userAgents.keys,
    fun _ => tallies.userAgents.get?_eq, tallies.userAgents.whole, tallies.forwarders.keys,
    fun _ => tallies.forwarders.get?_eq, tallies.forwarders.whole, ?_⟩
  exact (refused.trans (Nat.zero_add _)).symm

end MethodTraffic

end Route

end Telemetry
