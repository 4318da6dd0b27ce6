import Mathlib.Data.String.Basic
import Telemetry.Proofs.Route.Filing
import Telemetry.Proofs.Route.Reception
import Telemetry.Proofs.Route.Totals
import Telemetry.Proofs.Sorting

/-!
Summaries of all routes of a tree.

A tree is listed table within table, and a route is told by the names it stands under. Paths and
ports are told by texts of one kind, which never meet: a path that has a route is the root or begins
with a slash. Main statement: whatever was registered and requested, every route is summed up once,
in an order that does not depend on the one the tables are read in.
-/

set_option autoImplicit false

namespace Telemetry

/-! ### Lists collected from tables -/

namespace Table

variable {κ ν α β : Type} [DecidableEq κ]

def gather (table : Table κ ν) (list : κ → ν → List α) : List α :=
  table.entries.flatMap fun entry => list entry.1 entry.2

theorem flatMap_values (table : Table κ ν) (list : ν → List α) :
    table.values.flatMap list = table.gather fun _ => list :=
  List.flatMap_map Prod.snd list table.entries

section
variable {table : Table κ ν} {list other : κ → ν → List α}

theorem mem_gather {a : α} :
    a ∈ table.gather list ↔ ∃ key value, table.get? key = some value ∧ a ∈ list key value := by
  simp only [gather, List.mem_flatMap, Prod.exists, mem_entries_iff]

theorem gather_congr
    (same : ∀ key value, table.get? key = some value → list key value = other key value) :
    table.gather list = table.gather other := by
  refine List.flatMap_congr fun entry member => ?_
  exact same _ _ ((table.mem_entries_iff _ _).mp member)

theorem map_gather (f : α → β) :
    (table.gather list).map f = table.gather fun key value => (list key value).map f :=
  List.map_flatMap

theorem nodup_gather (key : α → κ) (each : ∀ k value, (list k value).Nodup)
    (tells : ∀ k value, ∀ a ∈ list k value, key a = k) : (table.gather list).Nodup := by
  refine List.nodup_flatMap.mpr ⟨fun entry _ => each _ _, ?_⟩
  refine (List.pairwise_map.mp table.distinct).imp fun apart a here there => ?_
  exact apart ((tells _ _ a here).symm.trans (tells _ _ a there))

end

end Table

open Std (TransCmp)

open Route (Target Place Summary)

def Host.targets (host : Host) : List Target :=
  host.routes.keys.map .path ++ host.tcpRoutes.keys.map .port

theorem Host.mem_targets (host : Host) (target : Target) :
    target ∈ host.targets ↔ (host.route? target).isSome := by
  cases target with
  | path text => simp [targets, route?, Table.mem_keys_iff]
  | port number => simp [targets, route?, Table.mem_keys_iff]

theorem Host.nodup_targets (host : Host) : host.targets.Nodup := by
  refine List.nodup_append'.mpr ⟨?_, ?_, ?_⟩
  · exact host.routes.distinct.map fun _ _ => Target.path.inj
  · exact host.tcpRoutes.distinct.map fun _ _ => Target.port.inj
  · simp [List.disjoint_left]

namespace Route

def Target.text : Target → String
  | path text => text
  | port number => ":" ++ toString number

theorem Target.eq_of_text {a b : Target} (normal : ∀ path, a = .path path ∨ b = .path path →
    Normal path.toList) (same : a.text = b.text) : a = b := by
  -- A port's text begins with a colon, a path's with a slash if it is not empty.
  have apart : ∀ (path : String) (number : Nat), Normal path.toList →
      path ≠ ":" ++ toString number := by
    rintro path number (root | ⟨slash, -⟩) rfl
    · simp at root
    · simp at slash
  cases a with
  | path text =>
    cases b with
    | path other => exact congrArg path same
    | port number => exact absurd same (apart text number (normal text (.inl rfl)))
  | port number =>
    cases b with
    | path text => exact absurd same.symm (apart text number (normal text (.inr rfl)))
    | port other =>
      have digits : number.repr = other.repr := by simpa [text] using same
      have read := congrArg (fun written : String => Nat.ofDigitChars 10 written.toList 0) digits
      simp only [Nat.toList_repr, Nat.ofDigitChars_ten_toDigits] at read
      exact congrArg port read

/-- The names a route is told by. -/
def Summary.label (summary : Summary) : String × String × String :=
  (summary.domain, summary.host, summary.route)

/-- More requests, or as many and the names before in the order of domain, host and route. -/
def Summary.Before (a b : Summary) : Prop :=
  b.requests < a.requests ∨ a.requests = b.requests ∧
    (a.domain < b.domain ∨ a.domain = b.domain ∧
      (a.host < b.host ∨ a.host = b.host ∧ a.route < b.route))

namespace Tree

/-! ### Places that have a route -/

section
variable {tree : Tree} {domain name : String} {host : Host}

def places (tree : Tree) : List Place :=
  tree.domains.table.gather fun domain entry => entry.hosts.table.gather fun name host =>
    host.targets.map (⟨domain, name, ·⟩)

theorem host?_eq_some_iff : tree.host? domain name = some host ↔
    ∃ entry, tree.domains.table.get? domain = some entry ∧
      entry.hosts.table.get? name = some host :=
  Option.bind_eq_some_iff

theorem mem_places (tree : Tree) (place : Place) :
    place ∈ tree.places ↔ (tree.route? place).isSome := by
  constructor
  · intro listed
    obtain ⟨domain, entry, known, listed⟩ := Table.mem_gather.mp listed
    obtain ⟨name, host, kept, listed⟩ := Table.mem_gather.mp listed
    obtain ⟨target, routed, rfl⟩ := List.mem_map.mp listed
    rw [route?, host?_eq_some_iff.mpr ⟨entry, known, kept⟩]
    exact (host.mem_targets target).mp routed
  · intro routed
    obtain ⟨route, found⟩ := Option.isSome_iff_exists.mp routed
    obtain ⟨host, there, here⟩ := Option.bind_eq_some_iff.mp found
    obtain ⟨entry, known, kept⟩ := host?_eq_some_iff.mp there
    have target := (host.mem_targets place.target).mpr (Option.isSome_of_eq_some here)
    refine Table.mem_gather.mpr ⟨_, entry, known, Table.mem_gather.mpr ⟨_, host, kept, ?_⟩⟩
    exact List.mem_map_of_mem target

theorem nodup_places (tree : Tree) : tree.places.Nodup := by
  have hosts : ∀ (domain name : String) (host : Host),
      (host.targets.map (Place.mk domain name)).Nodup := by
    intro domain name host
    refine host.nodup_targets.map fun target other same => ?_
    exact (Place.mk.inj same).2.2
  refine Table.nodup_gather Place.domain (fun domain entry => ?_) ?_
  · refine Table.nodup_gather Place.host (hosts domain) ?_
    rintro name host place listed
    obtain ⟨target, -, rfl⟩ := List.mem_map.mp listed
    rfl
  · rintro domain entry place listed
    obtain ⟨name, host, -, listed⟩ := Table.mem_gather.mp listed
    obtain ⟨target, -, rfl⟩ := List.mem_map.mp listed
    rfl

/-! ### What is told of them -/

def summaryAt (tree : Tree) (place : Place) : Summary :=
  ⟨place.domain, place.host, place.target.text, tree.id? place, tree.requestsAt place⟩

theorem summaryAt_eq {target : Target} {route : Route}
    (found : tree.route? ⟨domain, name, target⟩ = some route) :
    tree.summaryAt ⟨domain, name, target⟩ =
      ⟨domain, name, target.text, route.id, route.requests⟩ := by
  rw [summaryAt, id?, requestsAt, found]
  rfl

theorem hostSummaries_eq (there : tree.host? domain name = some host) (bears : host.name = name) :
    hostSummaries domain host = (host.targets.map (Place.mk domain name)).map tree.summaryAt := by
  have told : ∀ target route, host.route? target = some route →
      tree.summaryAt ⟨domain, name, target⟩ =
        ⟨domain, host.name, target.text, route.id, route.requests⟩ := by
    intro target route here
    rw [bears]
    refine summaryAt_eq ?_
    rw [route?, there]
    exact here
  simp only [hostSummaries, Host.targets, Table.keys, Entries.keys, List.map_append, List.map_map]
  congr 1
  · refine List.map_congr_left fun entry member => ?_
    exact (told (.path entry.1) entry.2 ((host.routes.mem_entries_iff _ _).mp member)).symm
  · refine List.map_congr_left fun entry member => ?_
    exact (told (.port entry.1) entry.2 ((host.tcpRoutes.mem_entries_iff _ _).mp member)).symm

theorem summaries_eq (filed : tree.Filed) :
    tree.summaries = sortRows compareSummaries (tree.places.map tree.summaryAt) := by
  -- Table by table: summaries tell the names of domains and hosts, places the keys they are under.
  have listed : (tree.domains.values.flatMap fun entry =>
        entry.hosts.values.flatMap (hostSummaries entry.name)) =
      tree.places.map tree.summaryAt := by
    rw [places, Table.map_gather, CappedTable.values, Table.flatMap_values]
    refine Table.gather_congr fun domain entry known => ?_
    have kept := filed.domains domain entry known
    rw [Table.map_gather, CappedTable.values, Table.flatMap_values, kept.name]
    refine Table.gather_congr fun name host held => ?_
    have there : tree.host? domain name = some host :=
      host?_eq_some_iff.mpr ⟨entry, known, held⟩
    exact hostSummaries_eq there (kept.hosts name host held).name
  rw [← listed]
  rfl

end

/-! ### Telling routes apart -/

section
variable {tree : Tree} {registrations : List Registration}

theorem Routed.normal (routed : tree.Routed registrations) {domain host path : String}
    (here : (tree.route? ⟨domain, host, .path path⟩).isSome) : Normal path.toList := by
  by_cases root : path = ""
  · exact .inl (by rw [root]; rfl)
  · have inner : Target.path path ≠ .path "" := fun same => root (Target.path.inj same)
    obtain ⟨registration, -, stands⟩ := (routed _ inner).mp here
    cases registration with
    | path domain host text id =>
      cases stands
      exact normal_normalizePath text
    | port domain number id => cases stands

theorem Routed.label_inj (routed : tree.Routed registrations) {place other : Place}
    (here : (tree.route? place).isSome) (there : (tree.route? other).isSome)
    (same : (tree.summaryAt place).label = (tree.summaryAt other).label) : place = other := by
  obtain ⟨domain, host, target⟩ := place
  obtain ⟨domain', host', target'⟩ := other
  simp only [Summary.label, summaryAt, Prod.mk.injEq] at same
  obtain ⟨rfl, rfl, text⟩ := same
  have targets : target = target' := by
    refine Target.eq_of_text ?_ text
    rintro path (rfl | rfl)
    · exact routed.normal here
    · exact routed.normal there
  rw [targets]

theorem Routed.nodup_labels (routed : tree.Routed registrations) :
    ((tree.places.map tree.summaryAt).map Summary.label).Nodup := by
  rw [List.map_map]
  refine tree.nodup_places.map_on fun place here other there same => ?_
  exact routed.label_inj ((tree.mem_places _).mp here) ((tree.mem_places _).mp there) same

end

/-! ### The order of summaries -/

instance : TransCmp compareSummaries :=
  inferInstanceAs (TransCmp (compareLex (fun a b => compareOn Summary.requests b a)
    (compareLex (compareOn Summary.domain) (compareLex (compareOn Summary.host)
      (compareOn Summary.route)))))

theorem compareSummaries_eq_lt_iff {a b : Summary} : compareSummaries a b = .lt ↔ a.Before b := by
  rw [Summary.Before, @eq_comm _ a.requests]
  simp only [compareSummaries, Ordering.then_eq_lt, compare_lt_iff_lt, compare_eq_iff_eq]

theorem label_of_compareSummaries {a b : Summary} (same : compareSummaries a b = .eq) :
    a.label = b.label := by
  obtain ⟨-, names⟩ := Ordering.then_eq_eq.mp same
  obtain ⟨domains, names⟩ := Ordering.then_eq_eq.mp names
  obtain ⟨hosts, routes⟩ := Ordering.then_eq_eq.mp names
  have equal {x y : String} : compare x y = .eq → x = y := Std.LawfulEqCmp.eq_of_compare
  rw [Summary.label, Summary.label, equal domains, equal hosts, equal routes]

/-! ### Requests of all summaries -/

theorem sum_hostSummaries (domain : String) (host : Host) :
    ((hostSummaries domain host).map (·.requests)).sum = host.requests := by
  simp [hostSummaries, Host.requests, Table.values, Function.comp_def]

theorem sum_summaries (tree : Tree) :
    (tree.summaries.map (·.requests)).sum = tree.requests := by
  have collected {α : Type} (rows : List α) (list : α → List Summary) :
      ((rows.flatMap list).map (·.requests)).sum =
        (rows.map fun row => ((list row).map (·.requests)).sum).sum := by
    simp [List.flatMap, List.map_flatten, List.sum_flatten, Function.comp_def]
  have sorted := sortRows_perm compareSummaries (tree.domains.values.flatMap fun entry =>
    entry.hosts.values.flatMap (hostSummaries entry.name))
  refine (sorted.map (·.requests)).sum_nat.trans ?_
  simp only [collected, sum_hostSummaries, requests]

def Act.counts : Act → Except Error Nat → Nat
  | .track _ _ _, .ok _ => 1
  | _, _ => 0

def counted (tree : Tree) : List Act → Nat
  | [] => 0
  | act :: rest => act.counts (tree.perform act).1 + (tree.perform act).2.counted rest

theorem requests_perform (tree : Tree) (act : Act) :
    (tree.perform act).2.requests = tree.requests + act.counts (tree.perform act).1 := by
  cases act with
  | register registration => exact total_registered (registration.visit_submit tree) (·.requests)
  | track event appId now =>
    have figures := (figures_track (Prod.eta (tree.track event appId now)).symm).1
    change (tree.track event appId now).2.requests = _
    rw [figures]
    change _ = _ + Act.counts _ (tree.track event appId now).1
    cases (tree.track event appId now).1 <;> rfl

theorem requests_performAll (tree : Tree) (acts : List Act) :
    (tree.performAll acts).requests = tree.requests + tree.counted acts := by
  induction acts generalizing tree with
  | nil => rfl
  | cons act rest ih =>
    have later := ih (tree.perform act).2
    rw [requests_perform] at later
    rw [counted, ← Nat.add_assoc]
    exact later

/-- A list of the places that have a route, in any order. -/
structure Lists (tree : Tree) (places : List Place) : Prop where
  once : places.Nodup
  all : ∀ place, place ∈ places ↔ (tree.route? place).isSome

theorem lists_places (tree : Tree) : tree.Lists tree.places :=
  ⟨tree.nodup_places, tree.mem_places⟩

theorem Lists.perm {tree : Tree} {places others : List Place} (first : tree.Lists places)
    (second : tree.Lists others) : places.Perm others :=
  (List.perm_ext_iff_of_nodup first.once second.once).mpr fun place =>
    (first.all place).trans (second.all place).symm

/-- After any run, each place that has a route is summed up once, under names of its own; the
summaries count the requests of the run, and come in one order whatever the order of the tables. -/
theorem summaries_exact (limits : Limits) (acts : List Act) :
    let tree := (create limits).performAll acts
    tree.Lists tree.places ∧
    (∀ places, tree.Lists places → tree.summaries.Perm (places.map tree.summaryAt) ∧
      sortRows compareSummaries (places.map tree.summaryAt) = tree.summaries) ∧
    (tree.summaries.map Summary.label).Nodup ∧
    (tree.summaries.map (·.requests)).sum = (create limits).counted acts ∧
    tree.summaries.Pairwise Summary.Before := by
  intro tree
  have told := summaries_eq ((filed_create limits).performAll acts)
  have labels := ((routed_create limits).performAll acts).nodup_labels
  -- Summaries with one label do not occur, so their order leaves nothing open.
  have apart := toldApart_of_id labels fun _ _ => label_of_compareSummaries
  refine ⟨tree.lists_places, ?_, ?_, ?_, ?_⟩
  · intro places lists
    have listed := (lists.perm tree.lists_places).map tree.summaryAt
    have settled := (sortRows_congr apart listed).trans told.symm
    exact ⟨settled ▸ sortRows_perm _ _, settled⟩
  · rw [told]
    exact ((sortRows_perm _ _).map _).nodup_iff.mpr labels
  · rw [sum_summaries, requests_performAll]
    exact Nat.zero_add _
  · rw [told]
    exact (ascending_sortRows apart).imp compareSummaries_eq_lt_iff.mp

end Tree
end Route
end Telemetry
