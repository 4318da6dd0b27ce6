import Mathlib.Data.List.Basic
import Telemetry.Proofs.Route.Filing

/-!
Which route of a host takes a path.

A path goes to the longest registered one that it is or goes on behind at a slash, and to the root
where there is none. Main statement: whatever was registered on a host and requested from it, its
paths are found so; a request changes one route and adds none but a root; and a registration takes
over just those paths that had a shorter match.
-/

set_option autoImplicit false

namespace Telemetry

namespace Route

/-- A path covers itself and what goes on behind it at a slash. -/
def Covers (registered path : String) : Prop :=
  path = registered ∨ ∃ rest, path = registered ++ "/" ++ rest

/-- The longest of some paths that covers one, or the root if none does. -/
inductive Matches (paths : List String) (path : String) : String → Prop where
  | longest {found : String} : found ∈ paths → Covers found path →
      (∀ other ∈ paths, Covers other path → other ≠ found →
        other.utf8ByteSize < found.utf8ByteSize) →
      Matches paths path found
  | root : (∀ other ∈ paths, ¬ Covers other path) → Matches paths path ""

theorem extends?_iff (path registered : String) :
    extends? path.toList registered.toList = true ↔ Covers registered path := by
  unfold extends?
  constructor
  · intro extended
    split at extended
    · next found =>
      have joined := List.isPrefixOf?_eq_some_iff_append_eq.mp found
      exact .inl (String.toList_inj.mp (by simpa using joined.symm))
    · next rest found =>
      have joined := List.isPrefixOf?_eq_some_iff_append_eq.mp found
      exact .inr ⟨String.ofList rest, String.toList_inj.mp (by simpa using joined.symm)⟩
    · cases extended
  · rintro (rfl | ⟨rest, rfl⟩)
    · have found : path.toList.isPrefixOf? path.toList = some [] :=
        List.isPrefixOf?_eq_some_iff_append_eq.mpr (List.append_nil _)
      simp only [found]
    · have found : registered.toList.isPrefixOf? (registered ++ "/" ++ rest).toList =
          some ('/' :: rest.toList) :=
        List.isPrefixOf?_eq_some_iff_append_eq.mpr (by simp)
      simp only [found]

instance (registered path : String) : Decidable (Covers registered path) :=
  decidable_of_iff _ (extends?_iff path registered)

example : ¬ Covers "/webappa" "/webappabc" ∧ Covers "/é" "/é/" ∧ ¬ Covers "/é/" "/é" := by decide

section
variable {paths : List String} {path found other : String}

theorem takes?_of_covers (covers : Covers found path) : takes? path found = true :=
  Bool.or_eq_true_iff.mpr (.inr ((extends?_iff path found).mpr covers))

theorem covers_of_takes? (takes : takes? path found = true) (inner : found ≠ "") :
    Covers found path := by
  rcases Bool.or_eq_true_iff.mp takes with root | extended
  · exact absurd (of_decide_eq_true root) inner
  · exact (extends?_iff path found).mp extended

theorem size_lt_of_le (covers : Covers found path) (covers' : Covers other path)
    (apart : other ≠ found) (le : other.utf8ByteSize ≤ found.utf8ByteSize) :
    other.utf8ByteSize < found.utf8ByteSize := by
  refine Nat.lt_of_le_of_ne le fun same => apart ?_
  exact onePerSize_takes? path _ _ (takes?_of_covers covers') (takes?_of_covers covers) same

theorem Matches.unique (first : Matches paths path found) (second : Matches paths path other) :
    found = other := by
  cases first with
  | root uncovered =>
    cases second with
    | root => rfl
    | longest member covers => exact absurd covers (uncovered _ member)
  | longest member covers bound =>
    cases second with
    | root uncovered => exact absurd covers (uncovered _ member)
    | longest member' covers' bound' =>
      by_contra apart
      have less := bound' _ member covers apart
      have greater := bound _ member' covers' (Ne.symm apart)
      omega

theorem Matches.concat (before : Matches paths path found) (new : String) :
    Matches (paths ++ [new]) path
      (if Covers new path ∧ found.utf8ByteSize < new.utf8ByteSize then new else found) := by
  have cases_of_mem : ∀ {other}, other ∈ paths ++ [new] → other ∈ paths ∨ other = new := by
    simp
  have last : new ∈ paths ++ [new] := by simp
  -- Either the new path covers and is longer, so it takes over, or what was matched stays.
  split
  · next taken =>
    obtain ⟨covers, longer⟩ := taken
    refine .longest last covers fun other member covers' apart => ?_
    have earlier := (cases_of_mem member).resolve_right apart
    cases before with
    | root uncovered => exact absurd covers' (uncovered other earlier)
    | longest _ _ bound =>
      by_cases same : other = found
      · exact same ▸ longer
      · exact Nat.lt_trans (bound other earlier covers' same) longer
  · next left =>
    have shorter : Covers new path → new.utf8ByteSize ≤ found.utf8ByteSize :=
      fun covers => Nat.not_lt.mp fun longer => left ⟨covers, longer⟩
    cases before with
    | longest member covers bound =>
      refine .longest (List.mem_append_left _ member) covers fun other member' covers' apart => ?_
      rcases cases_of_mem member' with earlier | rfl
      · exact bound other earlier covers' apart
      · exact size_lt_of_le covers covers' apart (shorter covers')
    | root uncovered =>
      by_cases covers : Covers new path
      · -- What is no longer than the root is the root itself.
        obtain rfl : new = "" :=
          String.utf8ByteSize_eq_zero_iff.mp (Nat.le_zero.mp (shorter covers))
        refine .longest last covers fun other member covers' apart => ?_
        exact absurd covers' (uncovered other ((cases_of_mem member).resolve_right apart))
      · refine .root fun other member => ?_
        rcases cases_of_mem member with earlier | rfl
        · exact uncovered other earlier
        · exact covers

end

end Route

namespace Host

open Route (Target Covers Matches)

inductive Act where
  | register (target : Target) (id : Option String)
  | request (path : String) (port : Option Nat) (change : Route → Route)

def Act.path? : Act → Option String
  | register (.path text) _ => some text
  | _ => none

def paths (acts : List Act) : List String := acts.filterMap (·.path?)

def perform (host : Host) : Act → Host
  | .register target id => host.register target id
  | .request path port change =>
    (host.visit (host.target path port) fun route => ((), change route)).2

def performAll (host : Host) (acts : List Act) : Host := acts.foldl perform host

/-- Beside the root, the paths of a host are the registered ones. -/
def Holds (host : Host) (paths : List String) : Prop :=
  ∀ text, text ≠ "" → (text ∈ host.routes.keys ↔ text ∈ paths)

theorem mem_keys_visit {α : Type} (host : Host) (target : Target) (change : Route → α × Route)
    (text : String) : text ∈ (host.visit target change).2.routes.keys ↔
      text ∈ host.routes.keys ∨ target = .path text := by
  rw [mem_routes_keys, mem_routes_keys, route?_visit]
  split
  · next here => simp [here]
  · next elsewhere => simp [Ne.symm elsewhere]

theorem target_none (host : Host) (path : String) :
    host.target path none = .path (host.findPath path) := rfl

section
variable {host : Host} {paths : List String}

theorem holds_create (name : String) : (create name).Holds [] := by
  intro text _
  simp [create, Table.mem_keys_iff]

theorem Holds.perform (holds : host.Holds paths) (act : Act) :
    (host.perform act).Holds (paths ++ act.path?.toList) := by
  intro text inner
  cases act with
  | register target id =>
    rw [Host.perform, register, mem_keys_visit, holds text inner]
    cases target <;> simp [Act.path?, eq_comm]
  | request path port change =>
    rw [Host.perform, mem_keys_visit, holds text inner]
    have none : (Act.request path port change).path? = none := rfl
    rw [none, Option.toList_none, List.append_nil]
    refine or_iff_left_of_imp fun here => ?_
    have apart : host.target path port ≠ .path "" := by
      rw [here]
      exact fun root => inner (Target.path.inj root)
    have routed := host.routed_target path port apart
    rw [here] at routed
    exact (holds text inner).mp ((host.mem_routes_keys text).mpr routed)

theorem Holds.performAll (holds : host.Holds paths) (acts : List Act) :
    (host.performAll acts).Holds (paths ++ Host.paths acts) := by
  induction acts generalizing host paths with
  | nil => simpa [Host.performAll, Host.paths] using holds
  | cons act rest ih =>
    have later := ih (holds.perform act)
    have listed : Host.paths (act :: rest) = act.path?.toList ++ Host.paths rest := by
      cases found : act.path? <;> simp [Host.paths, found]
    rwa [List.append_assoc, ← listed] at later

theorem Holds.matches (holds : host.Holds paths) (path : String) :
    Matches paths path (host.findPath path) := by
  have longest := host.longest_findPath path
  have member : ∀ {text}, text ∈ paths → text ∈ "" :: host.routes.keys := by
    intro text listed
    by_cases root : text = ""
    · simp [root]
    · exact List.mem_cons_of_mem _ ((holds text root).mpr listed)
  have bound : ∀ text ∈ paths, Covers text path →
      text.utf8ByteSize ≤ (host.findPath path).utf8ByteSize :=
    fun text listed covers => longest.bound text (member listed) (Route.takes?_of_covers covers)
  -- The root is found also where it was not registered; then no registered path covers.
  by_cases root : host.findPath path = ""
  · rw [root] at bound ⊢
    by_cases covered : "" ∈ paths ∧ Covers "" path
    · refine .longest covered.1 covered.2 fun other listed covers apart => ?_
      exact Route.size_lt_of_le covered.2 covers apart (bound other listed covers)
    · refine .root fun other listed covers => covered ?_
      have same := String.utf8ByteSize_eq_zero_iff.mp (Nat.le_zero.mp (bound other listed covers))
      exact same ▸ ⟨listed, covers⟩
  · have covers := Route.covers_of_takes? longest.matched root
    have key := (List.mem_cons.mp longest.mem).resolve_left root
    refine .longest ((holds _ root).mp key) covers fun other listed covers' apart => ?_
    exact Route.size_lt_of_le covers covers' apart (bound other listed covers')

end

theorem findPath_register (name : String) (acts : List Act) (text : String) (id : Option String)
    (path : String) :
    let host := (create name).performAll acts
    (host.register (.path text) id).findPath path =
      if Covers text path ∧ (host.findPath path).utf8ByteSize < text.utf8ByteSize then text
      else host.findPath path := by
  intro host
  have holds : host.Holds (paths acts) := (holds_create name).performAll acts
  have after := (holds.perform (.register (.path text) id)).matches path
  exact after.unique ((holds.matches path).concat text)

/-- What comes of a request for a path: the route it is matched with is returned and changed, and
no other. No route is added but a root, the index lists the paths that have one, longest first,
and later requests are matched as before. -/
structure Answers {α : Type} (host : Host) (found : String) (change : Route → α × Route)
    (result : α) (after : Host) : Prop where
  returned : result = (change ((host.route? (.path found)).getD {})).1
  changed : after.route? (.path found) =
    some (change ((host.route? (.path found)).getD {})).2
  others : ∀ target, target ≠ .path found → after.route? target = host.route? target
  keys : ∀ text ∈ after.routes.keys, text ∈ host.routes.keys ∨ text = ""
  index : ∀ text, text ∈ after.index ↔ text ∈ after.routes.keys
  ranked : Route.Ranked after.index
  later : ∀ path, after.findPath path = host.findPath path

theorem answers_visit {α : Type} (host : Host) (path : String) (change : Route → α × Route) :
    host.Answers (host.findPath path) change (host.visit (host.target path none) change).1
      (host.visit (host.target path none) change).2 := by
  rw [target_none]
  have chosen := List.mem_cons.mp (host.longest_findPath path).mem
  constructor
  case returned => exact host.visit_result _ change
  case changed => rw [route?_visit, if_pos rfl]
  case others =>
    intro target apart
    rw [route?_visit, if_neg apart]
  case keys =>
    intro text member
    rcases (host.mem_keys_visit _ change text).mp member with earlier | here
    · exact .inl earlier
    · rw [← Target.path.inj here]
      exact chosen.symm
  case index => exact mem_index _
  case ranked => exact ranked_index _
  case later =>
    -- A root that was added takes only what no other path takes, as before.
    intro other
    refine findPath_congr other fun text inner => ?_
    rw [mem_keys_visit]
    refine or_iff_left_of_imp fun here => ?_
    rw [← Target.path.inj here] at inner ⊢
    exact chosen.resolve_left inner

/-- After any registrations and requests a path is matched with the one longest registered path
that covers it, or with the root. A request for it answers from the route of its match. A path that
is registered becomes the match of just what it covers and had a shorter one. -/
theorem findPath_exact (name : String) (acts : List Act) (path : String) :
    let host := (create name).performAll acts
    let found := host.findPath path
    (Matches (paths acts) path found ∧
      ∀ other, Matches (paths acts) path other → other = found) ∧
    (∀ (α : Type) (change : Route → α × Route),
      let visited := host.visit (host.target path none) change
      host.Answers found change visited.1 visited.2) ∧
    ∀ text id, let after := host.register (.path text) id
      (after.findPath path ≠ found ↔
        Covers text path ∧ found.utf8ByteSize < text.utf8ByteSize) ∧
      (after.findPath path ≠ found → after.findPath path = text) := by
  intro host found
  have holds : host.Holds (paths acts) := (holds_create name).performAll acts
  have matched := holds.matches path
  refine ⟨⟨matched, fun other => (matched.unique · |>.symm)⟩, fun _ change => answers_visit _ _ _,
    fun text id => ?_⟩
  have registered := findPath_register name acts text id path
  intro after
  -- The match moves exactly when the registered path is longer than the one found before.
  rw [show after.findPath path = _ from registered]
  split
  · next taken =>
    refine ⟨iff_of_true (fun same => ?_) taken, fun _ => rfl⟩
    have longer := taken.2
    rw [same] at longer
    exact Nat.lt_irrefl _ longer
  · next left => exact ⟨iff_of_false (fun apart => apart rfl) left, fun apart => absurd rfl apart⟩

end Host

end Telemetry
