import Telemetry.Proofs.Route.Growth

/-!
What a refused registration leaves behind.

A registration learns its domain before room for it is sought, so the domain stays known if the
registration is refused. Main statement: this is all that stays, it is of no consequence where
the domain was known before, and it is what names under that domain are split at where it was
not; the domains a tree knows are those of all registrations it ever saw.
-/

set_option autoImplicit false

namespace Telemetry.Route

def Domain.unrefused (domain : Domain) : Domain :=
  { domain with hosts := { domain.hosts with rejected := 0 } }

namespace Tree

def unrefused (tree : Tree) : Tree :=
  { tree with
    domains := { tree.domains with table := tree.domains.table.map (·.unrefused), rejected := 0 } }

/-- Two trees that differ in their counts of refusals only. -/
def Alike (tree other : Tree) : Prop := tree.unrefused = other.unrefused

theorem alike_refuse (tree : Tree) : { tree with domains := tree.domains.refuse }.Alike tree := rfl

theorem unrefused_domainAt (tree : Tree) (domain : String) :
    tree.unrefused.domainAt domain = (tree.domainAt domain).unrefused := by
  unfold domainAt
  rw [show tree.unrefused.domains.get? domain = (tree.domains.get? domain).map (·.unrefused) from
    tree.domains.table.get?_map _ domain]
  cases tree.domains.get? domain <;> rfl

theorem unrefused_setDomain (tree : Tree) (domain : String) (entry : Domain) :
    (tree.setDomain domain entry).unrefused = tree.unrefused.setDomain domain entry.unrefused := by
  simp only [unrefused, setDomain, Table.map_insert]

namespace Alike

variable {tree other : Tree}

theorem refl (tree : Tree) : tree.Alike tree := rfl

theorem limits (alike : tree.Alike other) : tree.limits = other.limits :=
  congrArg (·.limits) alike

theorem knownDomains (alike : tree.Alike other) : tree.knownDomains = other.knownDomains :=
  congrArg (·.knownDomains) alike

theorem limit (alike : tree.Alike other) : tree.domains.limit = other.domains.limit :=
  congrArg (·.domains.limit) alike

theorem admits (alike : tree.Alike other) (domain : String) :
    tree.domains.admits domain = other.domains.admits domain := by
  have blind : ∀ tree : Tree,
      tree.unrefused.domains.admits domain = tree.domains.admits domain := by
    intro tree
    have contains : tree.unrefused.domains.contains domain = tree.domains.contains domain := by
      show ((tree.domains.table.map _).get? domain).isSome = _
      rw [Table.get?_map, Option.isSome_map]
      rfl
    have full : tree.unrefused.domains.full = tree.domains.full := by
      show decide (_ ≤ (tree.domains.table.map _).size) = _
      rw [Table.size_map]
      rfl
    rw [CappedTable.admits, contains, full, CappedTable.admits]
  rw [← blind tree, alike, blind]

theorem domainAt (alike : tree.Alike other) (domain : String) :
    (tree.domainAt domain).unrefused = (other.domainAt domain).unrefused := by
  rw [← unrefused_domainAt, alike, unrefused_domainAt]

theorem host? (alike : tree.Alike other) : tree.host? = other.host? := by
  funext domain host
  have same := congrArg (·.hosts.get? host) (alike.domainAt domain)
  rwa [← get?_domainAt, ← get?_domainAt]

theorem hostAt (alike : tree.Alike other) : tree.hostAt = other.hostAt := by
  funext domain host
  rw [Tree.hostAt, Tree.hostAt, alike.host?]

theorem locate (alike : tree.Alike other) : tree.locate = other.locate := by
  funext uri
  rw [Tree.locate, Tree.locate,
    show tree.splitName = other.splitName from funext fun name => by
      rw [splitName, splitName, alike.knownDomains]]

theorem learnDomain (alike : tree.Alike other) (domain : String) :
    (tree.learnDomain domain).Alike (other.learnDomain domain) := by
  have blind : ∀ tree : Tree,
      (tree.learnDomain domain).unrefused = tree.unrefused.learnDomain domain := by
    intro tree
    unfold Tree.learnDomain
    rw [apply_ite unrefused]
    rfl
  show (tree.learnDomain domain).unrefused = (other.learnDomain domain).unrefused
  rw [blind, blind, alike]

theorem setDomain (alike : tree.Alike other) (domain : String) {entry entry' : Domain}
    (same : entry.unrefused = entry'.unrefused) :
    (tree.setDomain domain entry).Alike (other.setDomain domain entry') := by
  show (tree.setDomain domain entry).unrefused = (other.setDomain domain entry').unrefused
  rw [unrefused_setDomain, unrefused_setDomain, alike, same]

end Alike

section
variable {α : Type} {tree other : Tree} {domain host : String} {change : Host → α × Host}
  {result result' : Except Error α × Tree}

theorem Alike.visit (alike : tree.Alike other)
    (visit : tree.Visit domain host change result)
    (visit' : other.Visit domain host change result') :
    result.1 = result'.1 ∧ result.2.Alike result'.2 := by
  have room := alike.admits domain
  have entries := alike.domainAt domain
  have space : (tree.domainAt domain).hosts.admits host =
      (other.domainAt domain).hosts.admits host := congrArg (·.hosts.admits host) entries
  -- Both trees have the same room, so both visits end in the same one of the three ways.
  cases visit with
  | domainRefused full =>
    cases visit' with
    | domainRefused full' => exact ⟨by rw [alike.limit], alike⟩
    | hostRefused room' => simp [full, room'] at room
    | changed room' => simp [full, room'] at room
  | @hostRefused entry free same full =>
    subst same
    cases visit' with
    | domainRefused full' => simp [free, full'] at room
    | @hostRefused entry' free' same' full' =>
      subst same'
      have limit : (tree.domainAt domain).hosts.limit = (other.domainAt domain).hosts.limit :=
        congrArg (·.hosts.limit) entries
      exact ⟨by rw [limit], alike.setDomain domain entries⟩
    | @changed entry' answer' value' free' same' space' =>
      subst same'
      simp [full, space'] at space
  | @changed entry answer value free same fits changed =>
    subst same
    cases visit' with
    | domainRefused full' => simp [free, full'] at room
    | @hostRefused entry' free' same' full' =>
      subst same'
      simp [fits, full'] at space
    | @changed entry' answer' value' free' same' fits' changed' =>
      subst same'
      obtain ⟨rfl, rfl⟩ := Prod.ext_iff.mp ((alike.hostAt ▸ changed).trans changed'.symm)
      refine ⟨rfl, alike.setDomain domain ?_⟩
      rw [CappedTable.insert_of_admits fits, CappedTable.insert_of_admits fits']
      let insert (entry : Domain) : Domain :=
        { entry with hosts := { entry.hosts with table := entry.hosts.table.insert host value } }
      exact congrArg insert entries

end

theorem visit_track {tree : Tree} {event : HttpEvent} {location : Location}
    (located : tree.locate event.uri = .ok location) (appId : String) (now : Instant) :
    tree.Visit location.domain location.host (tree.countAt event appId now location)
      (tree.track event appId now) := by
  rcases tracked : tree.track event appId now with ⟨outcome, after⟩
  rcases track_cases tracked with ⟨error, unread, -⟩ | ⟨here, read, visit⟩
  · rw [located] at unread
    cases unread
  · rw [located] at read
    cases read
    exact visit

theorem Alike.perform {tree other : Tree} (alike : tree.Alike other) (act : Act) :
    (tree.perform act).1 = (other.perform act).1 ∧
      (tree.perform act).2.Alike (other.perform act).2 := by
  -- The counts of refusals differ, and nothing that is done looks at them.
  cases act with
  | register registration =>
    obtain ⟨outcome, after⟩ := (alike.learnDomain registration.place.domain).visit
      (registration.visit_submit tree) (registration.visit_submit other)
    exact ⟨congrArg (·.map fun _ => 0) outcome, after⟩
  | track event appId now =>
    show (tree.track event appId now).1 = (other.track event appId now).1 ∧
      (tree.track event appId now).2.Alike (other.track event appId now).2
    have located : tree.locate event.uri = other.locate event.uri := by rw [alike.locate]
    cases read : other.locate event.uri with
    | error error =>
      have failed := unread_of_tracked (Prod.eta (tree.track event appId now)).symm
        (located.trans read)
      have failed' := unread_of_tracked (Prod.eta (other.track event appId now)).symm read
      rw [failed.1, failed.2, failed'.1, failed'.2]
      exact ⟨rfl, alike⟩
    | ok location =>
      have counting : tree.countAt event appId now = other.countAt event appId now := by
        funext location host
        unfold countAt countOn
        rw [alike.limits]
      have visit := visit_track (located.trans read) appId now
      rw [counting] at visit
      exact alike.visit visit (visit_track read appId now)

def outcomes (tree : Tree) : List Act → List (Except Error Nat)
  | [] => []
  | act :: rest => (tree.perform act).1 :: (tree.perform act).2.outcomes rest

theorem Alike.performAll {tree other : Tree} (alike : tree.Alike other) (acts : List Act) :
    tree.outcomes acts = other.outcomes acts ∧
      (tree.performAll acts).Alike (other.performAll acts) := by
  induction acts generalizing tree other with
  | nil => exact ⟨rfl, alike⟩
  | cons act rest ih =>
    obtain ⟨outcome, after⟩ := alike.perform act
    obtain ⟨outcomes, last⟩ := ih after
    exact ⟨by rw [Tree.outcomes, Tree.outcomes, outcome, outcomes], last⟩

/-- A domain is kept, or there is no room for one more. -/
def Settled (tree : Tree) (domain : String) : Prop :=
  tree.domains.contains domain = true ∨ tree.domains.full = true

theorem settled_setDomain {tree : Tree} {domain other : String}
    (settled : other = domain ∨ tree.Settled other) (entry : Domain) :
    (tree.setDomain domain entry).Settled other := by
  have contains : (tree.setDomain domain entry).domains.contains other =
      (decide (other = domain) || tree.domains.contains other) := by
    show ((tree.domains.table.alter domain _).get? other).isSome = _
    rw [Table.get?_alter]
    split
    · next here => simp [here]
    · next elsewhere => simp [elsewhere, CappedTable.contains, Table.contains]
  have grown : tree.domains.size ≤ (tree.setDomain domain entry).domains.size := by
    show _ ≤ (tree.domains.table.alter domain _).size
    rw [Table.size_alter]
    split
    · exact Nat.le_refl _
    · exact Nat.le_succ _
  rcases settled with here | kept | full
  · exact .inl (by rw [contains, here]; simp)
  · exact .inl (by rw [contains, kept]; simp)
  · exact .inr (decide_eq_true (Nat.le_trans (of_decide_eq_true full) grown))

section
variable {α : Type} {tree after : Tree} {domain host : String} {change : Host → α × Host}

theorem Visit.settled {outcome : Except Error α}
    (visit : tree.Visit domain host change (outcome, after)) {other : String}
    (settled : other = domain ∨ tree.Settled other) : after.Settled other := by
  cases visit with
  | domainRefused full =>
    rcases settled with rfl | settled
    · refine .inr ?_
      have taken : tree.domains.full = true := by
        simpa using (Bool.or_eq_false_iff.mp full).2
      exact taken
    · exact settled
  | hostRefused => exact settled_setDomain settled _
  | changed => exact settled_setDomain settled _

/-- A refusal that leaves one more count of refusals, where there was no room, and nothing else. -/
inductive Refuses (tree : Tree) (domain host : String) : Error → Tree → Prop where
  | domain : tree.domains.admits domain = false →
      Refuses tree domain host (.domainLimit domain tree.domains.limit)
        { tree with domains := tree.domains.refuse }
  | host {entry : Domain} : tree.domains.get? domain = some entry →
      entry.hosts.admits host = false →
      Refuses tree domain host (.hostLimit domain host entry.hosts.limit)
        (tree.setDomain domain { entry with hosts := entry.hosts.refuse })

theorem Refuses.alike {error : Error} (refuses : tree.Refuses domain host error after) :
    after.Alike tree := by
  cases refuses with
  | domain full => exact tree.alike_refuse
  | @host entry found full =>
    have unchanged : tree.setDomain domain entry = tree := by
      rw [setDomain, Table.insert_self found]
    have counted : ({ entry with hosts := entry.hosts.refuse } : Domain).unrefused =
        entry.unrefused := rfl
    have alike := (Alike.refl tree).setDomain domain counted
    rwa [unchanged] at alike

/-- There is room for a domain, which is not kept yet, and none for a host of any domain. -/
def Strands (tree : Tree) (domain : String) : Prop :=
  tree.limits.hostsPerDomain = 0 ∧ ¬ tree.Settled domain

theorem Visit.refuses {error : Error}
    (visit : tree.Visit domain host change (.error error, after)) :
    (¬ tree.Strands domain ∧ tree.Refuses domain host error after) ∨
      (tree.Strands domain ∧ error = .hostLimit domain host 0 ∧
        after = tree.setDomain domain ⟨domain, (CappedTable.create 0).refuse⟩) := by
  cases visit with
  | domainRefused full =>
    refine .inl ⟨fun strands => strands.2 (.inr ?_), .domain full⟩
    simpa using (Bool.or_eq_false_iff.mp full).2
  | @hostRefused entry room same full =>
    subst same
    cases found : tree.domains.get? domain with
    | some kept =>
      rw [domainAt_eq found] at full ⊢
      refine .inl ⟨fun strands => strands.2 (.inl ?_), .host found full⟩
      exact Option.isSome_of_eq_some found
    | none =>
      have fresh : tree.domainAt domain = ⟨domain, .create tree.limits.hostsPerDomain⟩ := by
        rw [domainAt, found, Option.getD_none]
      rw [fresh] at full ⊢
      -- A domain with no host yet refuses one only if it may keep none at all.
      have none : tree.limits.hostsPerDomain = 0 := by
        have closed : decide (0 < tree.limits.hostsPerDomain) = false :=
          (CappedTable.admits_create _ host).symm.trans full
        simpa using closed
      have absent : tree.domains.contains domain = false := Option.isSome_eq_false_iff.mpr (by
        rw [Option.isNone_iff_eq_none]
        exact found)
      refine .inr ⟨⟨none, ?_⟩, ?_, ?_⟩
      · rintro (kept | full)
        · simp [absent] at kept
        · simp [CappedTable.admits, absent, full] at room
      · rw [none]
        rfl
      · rw [none]

theorem Visit.refused {error : Error}
    (visit : tree.Visit domain host change (.error error, after)) :
    after.Alike tree ∨ (tree.limits.hostsPerDomain = 0 ∧ ¬ tree.Settled domain ∧
      after.Alike (tree.setDomain domain ⟨domain, .create 0⟩)) := by
  rcases visit.refuses with ⟨-, refuses⟩ | ⟨⟨none, vacant⟩, -, rfl⟩
  · exact .inl refuses.alike
  · exact .inr ⟨none, vacant, (Alike.refl tree).setDomain domain rfl⟩

end

/-- The domains a tree knows are those of the registrations it has seen, each once, and all are
settled. -/
structure Remembers (tree : Tree) (seen : List Registration) : Prop where
  distinct : tree.knownDomains.Nodup
  domains : ∀ domain, domain ∈ tree.knownDomains ↔
    ∃ registration ∈ seen, registration.place.domain = domain
  settled : ∀ domain ∈ tree.knownDomains, tree.Settled domain

theorem remembers_create (limits : Limits) : (create limits).Remembers [] where
  distinct := .nil
  domains := by simp [create]
  settled := nofun

theorem distinct_learnDomain {tree : Tree} (distinct : tree.knownDomains.Nodup) (domain : String) :
    (tree.learnDomain domain).knownDomains.Nodup := by
  unfold learnDomain
  split
  · exact distinct
  · next new =>
    refine (List.mergeSort_perm _ _).nodup_iff.mpr ?_
    refine List.nodup_append.mpr ⟨distinct, List.pairwise_singleton _ _, ?_⟩
    rintro _ known _ single rfl
    exact new (List.mem_singleton.mp single ▸ known)

theorem Remembers.submit {tree : Tree} {seen : List Registration} (remembers : tree.Remembers seen)
    (registration : Registration) :
    (registration.submit tree).2.Remembers (seen ++ [registration]) := by
  have visit := registration.visit_submit tree
  rcases submitted : registration.submit tree with ⟨outcome, after⟩
  rw [submitted] at visit
  have known : after.knownDomains = _ := visit.frame.1
  constructor
  case distinct =>
    rw [known]
    exact distinct_learnDomain remembers.distinct _
  case domains =>
    intro domain
    rw [known, mem_learnDomain, remembers.domains]
    simp [or_and_right, exists_or, eq_comm]
  case settled =>
    intro domain member
    rw [known, mem_learnDomain] at member
    -- The domain of the registration is settled by the visit, the others were before.
    refine visit.settled ?_
    rcases member with earlier | here
    · refine .inr ?_
      rw [Settled, domains_learnDomain]
      exact remembers.settled domain earlier
    · exact .inl here

theorem Remembers.track {tree : Tree} {seen : List Registration} (remembers : tree.Remembers seen)
    (event : HttpEvent) (appId : String) (now : Instant) :
    (tree.track event appId now).2.Remembers seen := by
  rcases tracked : tree.track event appId now with ⟨outcome, after⟩
  rcases track_cases tracked with ⟨error, -, -, same⟩ | ⟨location, -, visit⟩
  · exact same ▸ remembers
  · have known := visit.frame.1
    constructor
    case distinct => exact known ▸ remembers.distinct
    case domains => exact known ▸ remembers.domains
    case settled =>
      intro domain member
      exact visit.settled (.inr (remembers.settled domain (known ▸ member)))

theorem Remembers.performAll {tree : Tree} {seen : List Registration}
    (remembers : tree.Remembers seen) (acts : List Act) :
    (tree.performAll acts).Remembers (seen ++ registrations acts) := by
  induction acts generalizing tree seen with
  | nil => simpa [Tree.performAll, registrations] using remembers
  | cons act rest ih =>
    have step : (tree.perform act).2.Remembers (seen ++ registrations [act]) := by
      cases act with
      | register registration => exact remembers.submit registration
      | track event appId now =>
        have none : registrations [.track event appId now] = [] := rfl
        rw [none, List.append_nil]
        exact remembers.track event appId now
    have later := ih step
    rwa [List.append_assoc, registrations, registrations, ← List.filterMap_append] at later

theorem splitName_learnDomain {tree : Tree} {domain : String} (new : domain ∉ tree.knownDomains) :
    (tree.learnDomain domain).splitName domain = ("", domain) := by
  refine splitName_known ?_ ((tree.mem_learnDomain domain domain).mpr (.inr rfl))
  rw [Tree.learnDomain, if_neg new]
  exact sorted_longestFirst _

theorem splitName_ne {tree : Tree} {domain : String} (new : domain ∉ tree.knownDomains)
    (named : domain ≠ "") : tree.splitName domain ≠ ("", domain) := by
  rw [splitName, splitAtDomain?_eq]
  cases found : tree.knownDomains.find? (endsIn domain) with
  | some other =>
    intro same
    have here : other = domain := (Prod.mk.inj same).2
    exact new (here ▸ List.mem_of_find?_eq_some found)
  | none =>
    intro same
    have rest : (splitAtLabel domain).2 = domain := congrArg Prod.snd same
    have shorter := congrArg (·.toList.length) rest
    have long : domain.toList.length ≠ 0 := by simpa using named
    simp only [splitAtLabel, String.toList_ofList, List.length_drop] at shorter
    omega

/-- What a refused registration changes is that its domain is known, or where no domain may keep
a host also that there is an empty domain. If the domain was known nothing is changed that any
later act could tell; if it was not, its own name is split otherwise than before. A tree knows
the domains of all registrations it has seen, refused or not. -/
theorem refusal_exact {limits : Limits} {acts : List Act} {registration : Registration}
    {error : Error} {after : Tree}
    (refused : registration.submit ((create limits).performAll acts) = (.error error, after)) :
    let tree := (create limits).performAll acts
    let domain := registration.place.domain
    let learnt := tree.learnDomain domain
    (after.Alike learnt ∨ (limits.hostsPerDomain = 0 ∧ domain ∉ tree.knownDomains ∧
      after.Alike (learnt.setDomain domain ⟨domain, .create 0⟩))) ∧
    (domain ∈ tree.knownDomains → ∀ more, after.outcomes more = tree.outcomes more ∧
      (after.performAll more).Alike (tree.performAll more)) ∧
    (domain ∉ tree.knownDomains → domain ≠ "" →
      after.splitName domain = ("", domain) ∧ tree.splitName domain ≠ ("", domain)) ∧
    after.knownDomains.Nodup ∧ ∀ other, other ∈ after.knownDomains ↔
      ∃ earlier ∈ registrations acts ++ [registration], earlier.place.domain = other := by
  intro tree domain learnt
  have remembers : tree.Remembers (registrations acts) := (remembers_create limits).performAll acts
  have visit : learnt.Visit domain registration.place.host registration.effect (.error error, after) :=
    refused ▸ registration.visit_submit tree
  have settings : learnt.limits = limits :=
    (fits_learnDomain ((fits_create limits).performAll acts) domain).settings
  have unchanged : domain ∈ tree.knownDomains → learnt = tree := fun known => if_pos known
  have left : after.Alike learnt ∨ (limits.hostsPerDomain = 0 ∧ domain ∉ tree.knownDomains ∧
      after.Alike (learnt.setDomain domain ⟨domain, .create 0⟩)) := by
    rcases visit.refused with alike | ⟨none, vacant, alike⟩
    · exact .inl alike
    · refine .inr ⟨settings ▸ none, ?_, alike⟩
      -- A domain that is known is settled, and a settled one is not entered anew.
      intro known
      exact vacant (unchanged known ▸ remembers.settled domain known)
  have last : after.Remembers (registrations acts ++ [registration]) := by
    have submitted := remembers.submit registration
    rwa [refused] at submitted
  refine ⟨left, ?_, ?_, last.distinct, last.domains⟩
  · intro known more
    have alike : after.Alike tree := by
      rcases left with alike | ⟨-, unknown, -⟩
      · rwa [unchanged known] at alike
      · exact absurd known unknown
    exact alike.performAll more
  · intro unknown named
    have split : after.splitName = learnt.splitName := by
      funext name
      rw [splitName, splitName, visit.frame.1]
    exact ⟨split ▸ splitName_learnDomain unknown, splitName_ne unknown named⟩

/-- A port of a domain that has no room for a host of its own: the domain is known already, and
no later act can tell. -/
theorem refusal_exact_known :
    let tree := (create { hostsPerDomain := 1 }).performAll [.register (.path "com" "www" "/" "r")]
    ∃ error after, Registration.submit tree (.port "com" 80 "s") = (.error error, after) ∧
      ∀ more, after.outcomes more = tree.outcomes more := by
  intro tree
  have failed : (Registration.submit tree (.port "com" 80 "s")).1.toOption.isSome = false := by
    decide +kernel
  generalize submitted : Registration.submit tree (.port "com" 80 "s") = result at failed ⊢
  obtain ⟨outcome, after⟩ := result
  cases outcome with
  | ok done => cases failed
  | error error =>
    have known : (Registration.port "com" 80 "s").place.domain ∈ tree.knownDomains := by
      decide +kernel
    obtain ⟨-, unnoticed, -⟩ := refusal_exact submitted
    exact ⟨error, after, rfl, fun more => (unnoticed known more).1⟩

/-- With room for one domain a registration of a second one is refused. After it a name under the
refused domain is split there, a request that had a place has none, and two domains are known. -/
theorem refusal_remembered :
    let tree := (create { domains := 1 }).performAll [.register (.path "com" "www" "/" "r")]
    let registration : Registration := .path "b.com" "www" "/" "s"
    let request : Act := .track { uri := "a.b.com" } "app" 0
    ∃ after, registration.submit tree = (.error (.domainLimit "b.com" 1), after) ∧
      tree.splitName "a.b.com" = ("a.b", "com") ∧ after.splitName "a.b.com" = ("a", "b.com") ∧
      (tree.perform request).1.toOption = some 0 ∧ (after.perform request).1.toOption = none ∧
      after.knownDomains.length = 2 := by
  intro tree registration request
  have learnt : tree.learnDomain "b.com" = { tree with knownDomains := ["b.com", "com"] } := by
    have known : tree.knownDomains = ["com"] := by decide +kernel
    have short : "com".utf8ByteSize = 3 := by decide
    have long : "b.com".utf8ByteSize = 5 := by decide
    have sorted : longestFirst ["com", "b.com"] = ["b.com", "com"] := by
      simp [longestFirst, List.mergeSort, short, long]
    rw [Tree.learnDomain, known, if_neg (by decide), List.singleton_append, sorted]
  have place : registration.place = ⟨"b.com", "www", .path ""⟩ := by decide +kernel
  refine ⟨{ tree with domains := tree.domains.refuse, knownDomains := ["b.com", "com"] }, ?_, ?_⟩
  · have full : tree.domains.admits "b.com" = false := by decide +kernel
    rw [Registration.submit_eq, place, learnt]
    simp only [visitHost, full]
    rfl
  · decide +kernel

end Tree

end Telemetry.Route
