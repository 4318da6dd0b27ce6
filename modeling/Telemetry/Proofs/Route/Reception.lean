import Mathlib.Data.List.DropRight
import Telemetry.Proofs.Route.Port
import Telemetry.Proofs.Route.Prefix
import Telemetry.Proofs.Uri.Path

/-!
Requests to a registered path.

A path is registered as it is written, but for blanks around it and slashes behind it. The path of
a request is read first. Main statement: requests that name the host and write the path behind it
are attributed to the path if and only if it is read as it is written; otherwise they go to another
path of the host.
-/

set_option autoImplicit false

namespace Telemetry

theorem Text.trim_plain {cs : List Char} (plain : ∀ c ∈ cs, isBlank c = false) : trim cs = cs := by
  have front : trimStart cs = cs := by
    rw [trimStart, List.dropWhile_eq_self_iff]
    intro filled
    simp [plain]
  rw [trim, front]
  refine List.rdropWhile_eq_self_iff.mpr fun filled => ?_
  simp [plain]

namespace Route

open Uri (Verbatim)

/-! ### Paths in normal form -/

def Normal (path : List Char) : Prop :=
  path = [] ∨ path.head? = some '/' ∧ path.getLast? ≠ some '/'

theorem getLast?_trimPath (cs : List Char) : (trimPath cs).getLast? ≠ some '/' := by
  intro last
  have filled : trimPath cs ≠ [] := by
    intro empty
    rw [empty] at last
    cases last
  have other := List.rdropWhile_last_not (fun c => decide (c = '/')) (Text.trim cs) filled
  rw [List.getLast?_eq_some_getLast filled, Option.some.injEq] at last
  exact other (decide_eq_true last)

theorem normal_normalChars (cs : List Char) : Normal (normalChars cs) := by
  have last := getLast?_trimPath cs
  unfold normalChars
  split
  · exact .inl rfl
  · next rest trimmed =>
    rw [trimmed] at last
    exact .inr ⟨rfl, last⟩
  · next filled _ =>
    refine .inr ⟨rfl, ?_⟩
    rwa [List.getLast?_cons_of_ne_nil filled]

theorem normal_normalizePath (path : String) : Normal (normalizePath path).toList := by
  rw [normalizePath, String.toList_ofList]
  exact normal_normalChars _

section
variable {path : List Char}

theorem isBlank_kept {c : Char} (kept : Uri.keptInPath c = true) : Text.isBlank c = false := by
  refine Text.ascii_cases (motive := fun c => Uri.keptInPath c = true → Text.isBlank c = false) ?_
    (Uri.keptInPath_iff.mp kept).1 kept
  decide

theorem normalChars_verbatim (verbatim : Verbatim path) (headed : path.head? = some '/') :
    normalChars path = path.rdropWhile (· = '/') := by
  have trimmed : trimPath path = path.rdropWhile (· = '/') := by
    rw [trimPath, Text.trim_plain fun c member => isBlank_kept (verbatim.kept c member)]
    rfl
  rw [normalChars, trimmed]
  cases left : path.rdropWhile (· = '/') with
  | nil => rfl
  | cons first rest =>
    have begins := List.rdropWhile_prefix (fun c => decide (c = '/')) path
    rw [left] at begins
    obtain ⟨behind, joined⟩ := begins
    rw [← joined] at headed
    cases headed
    rfl

theorem normalChars_eq_self (verbatim : Verbatim path) (normal : Normal path)
    (filled : path ≠ []) : normalChars path = path := by
  obtain ⟨headed, last⟩ := normal.resolve_left filled
  rw [normalChars_verbatim verbatim headed]
  refine List.rdropWhile_eq_self_iff.mpr fun filled ends => last ?_
  rw [List.getLast?_eq_some_getLast filled, of_decide_eq_true ends]

theorem verbatim_normalChars (verbatim : Verbatim path) (headed : path.head? = some '/') :
    Verbatim (normalChars path) := by
  rw [normalChars_verbatim verbatim headed]
  have joined : path.rdropWhile (· = '/') ++ path.rtakeWhile (· = '/') = path :=
    List.rdropWhile_append_rtakeWhile
  cases behind : path.rtakeWhile (· = '/') with
  | nil =>
    rw [behind, List.append_nil] at joined
    rwa [joined]
  | cons c rest =>
    have slash : c = '/' := by
      have member : c ∈ path.rtakeWhile (· = '/') := behind ▸ List.mem_cons_self
      simpa using List.mem_rtakeWhile_imp member
    rw [behind, slash] at joined
    rw [← joined] at verbatim
    exact (Uri.verbatim_append.mp verbatim).1

end

/-! ### What a path is read as -/

/-- The path of a request that writes a path behind its host. -/
def received (path : String) : String :=
  normalizePath (String.ofList (Uri.pathOf true (Uri.beforeQuery (Uri.tidied path.toList))))

theorem verbatim_received (path : String) : Verbatim (received path).toList := by
  obtain ⟨verbatim, headed⟩ := Uri.verbatim_pathOf (Uri.beforeQuery (Uri.tidied path.toList))
  rw [received, normalizePath, String.toList_ofList, String.toList_ofList]
  exact verbatim_normalChars verbatim headed

theorem received_verbatim {path : String} (normal : Normal path.toList)
    (verbatim : Verbatim path.toList) : received path = path := by
  rw [received, normalizePath, Uri.beforeQuery_verbatim verbatim, String.toList_ofList,
    ← String.toList_inj, String.toList_ofList]
  by_cases root : path.toList = []
  · rw [root]
    rfl
  · have headed := (normal.resolve_left root).1
    rw [Uri.pathOf_verbatim verbatim headed, normalChars_eq_self verbatim normal root]

theorem verbatim_of_covers {front path : String} (covers : Covers front path)
    (verbatim : Verbatim path.toList) : Verbatim front.toList := by
  rcases covers with rfl | ⟨rest, rfl⟩
  · exact verbatim
  · have joined : (front ++ "/" ++ rest).toList = front.toList ++ '/' :: rest.toList := by simp
    rw [joined] at verbatim
    exact (Uri.verbatim_append.mp verbatim).1

theorem findPath_self (host : Host) {path : String} (there : path ∈ host.routes.keys) :
    host.findPath path = path := by
  have holds : host.Holds host.routes.keys := fun _ _ => Iff.rfl
  refine (holds.matches path).unique (.longest there (.inl rfl) fun other _ covers apart => ?_)
  rcases covers with same | ⟨rest, joined⟩
  · exact absurd same.symm apart
  · have slash : "/".utf8ByteSize = 1 := by decide
    rw [joined, String.utf8ByteSize_append, String.utf8ByteSize_append]
    omega

theorem findPath_received_iff (host : Host) {path : String} (normal : Normal path.toList)
    (there : path ∈ host.routes.keys) :
    host.findPath (received path) = path ↔ Verbatim path.toList := by
  have holds : host.Holds host.routes.keys := fun _ _ => Iff.rfl
  constructor
  · intro found
    have matched := holds.matches (received path)
    rw [found] at matched
    cases matched with
    | longest _ covers => exact verbatim_of_covers covers (verbatim_received path)
    | root => exact Uri.verbatim_nil
  · intro verbatim
    rw [received_verbatim normal verbatim, findPath_self host there]

end Route

namespace Route.Tree

section
variable {tree : Tree} {domain host : String}

theorem splitName_joined (sorted : LongestFirst tree.knownDomains)
    (known : domain ∈ tree.knownDomains)
    (longest : ∀ other ∈ tree.knownDomains, Under other (host ++ "." ++ domain) →
      other.utf8ByteSize ≤ domain.utf8ByteSize) :
    tree.splitName (host ++ "." ++ domain) = (host, domain) :=
  (split_splitName sorted (fun _ => Iff.rfl) _).unique (.within known rfl longest)

theorem labels_joined {allowed : Char → Bool} (labels : Uri.Labels allowed domain.toList)
    (labels' : Uri.Labels allowed host.toList) :
    Uri.Labels allowed (host ++ "." ++ domain).toList := by
  rw [toList_joined, Uri.Labels, List.splitOn_append_cons_self]
  exact fun label listed => (List.mem_append.mp listed).elim (labels' label) (labels label)

theorem locate_path {key : String} (split : tree.splitName (host ++ "." ++ domain) = (host, domain))
    (labels : Uri.Labels Char.isLower (host ++ "." ++ domain).toList)
    (normal : Normal key.toList) :
    tree.locate ("http://" ++ (host ++ "." ++ domain ++ key)) =
      .ok ⟨host, domain, received key, none⟩ := by
  have addressed : Uri.Addressed (host ++ "." ++ domain).toList "".toList key.toList := by
    refine ⟨labels.ne_nil, fun c member => ?_, .inl rfl, fun c first => ?_⟩
    · rcases labels.mem member with lower | rfl
      · exact Uri.isNameChar_of_isAlpha (Text.isAlpha_of_isLower lower)
      · rfl
    · rcases normal with root | ⟨headed, -⟩
      · rw [root] at first
        cases first
      · rw [← Option.some.inj (headed.symm.trans first)]
        exact List.mem_cons_self
  have letters := labels.mono fun _ => Text.isAlpha_of_isLower
  have read := locate_named addressed letters nofun tree
  rwa [lowerAscii_labels labels, split, String.append_empty] at read

end

/-- Requests that write a registered path behind the name of its host, which is under no longer
domain, are attributed to the path if and only if it is read as it is written. If it is not, they
are attributed to another path of the host. -/
theorem reception_exact {limits : Limits} {tree registered later : Tree}
    {domain host path id : String} (reached : (create limits).Becomes tree)
    (labels : Uri.Labels Char.isLower domain.toList)
    (labels' : Uri.Labels Char.isLower host.toList)
    (done : (Registration.path domain host path id).accepted? tree = some registered)
    (since : registered.Becomes later)
    (longest : ∀ other ∈ later.knownDomains, Under other (host ++ "." ++ domain) →
      other.utf8ByteSize ≤ domain.utf8ByteSize) :
    let key := normalizePath path
    let uri := "http://" ++ (host ++ "." ++ domain ++ key)
    (later.Attributed uri ⟨domain, host, .path key⟩ ↔ Uri.Verbatim key.toList) ∧
      (¬ Uri.Verbatim key.toList →
        ∃ text, text ≠ key ∧ later.Attributed uri ⟨domain, host, .path text⟩) := by
  intro key uri
  have place : (Registration.path domain host path id).place = ⟨domain, host, .path key⟩ := by
    rw [Registration.place, lowerAscii_labels labels, lowerAscii_labels labels']
  obtain ⟨known, routed⟩ := there_of_accepted? done
  rw [place] at known routed
  have kept := since.routed routed
  have sorted := since.sorted ((becomes_of_accepted? done).sorted (reached.sorted .nil))
  have normal : Normal key.toList := normal_normalizePath path
  -- The name is split where it was joined, since no longer domain takes it.
  have located : later.locate uri = .ok ⟨host, domain, received key, none⟩ :=
    locate_path (splitName_joined sorted (since.known known) longest)
      (labels_joined labels labels') normal
  have there : key ∈ (later.hostAt domain host).routes.keys := by
    rw [route?_eq] at kept
    exact (Host.mem_routes_keys _ _).mpr kept
  have found := findPath_received_iff (later.hostAt domain host) normal there
  have held := held_of_routed kept
  have placed : later.place ⟨host, domain, received key, none⟩ =
      ⟨domain, host, .path ((later.hostAt domain host).findPath (received key))⟩ := rfl
  -- Traffic goes to one place only, so all depends on which path is found.
  refine ⟨?_, fun misread => ⟨_, mt found.mp misread, ?_⟩⟩
  · rw [attributed_iff_of_held located held, placed]
    simpa using found
  · rw [← placed]
    exact attributed_of_held located held

/-- A path with a slash behind it, and a later request to another path. -/
theorem reception_exact_versions :
    ∃ registered, (Registration.path "b.c" "a" "/v1/%20/" "r").accepted? (create {}) =
        some registered ∧
      (registered.resolve "a.b.c/v1" "app").2.Attributed "http://a.b.c/v1/%20"
        ⟨"b.c", "a", .path "/v1/%20"⟩ := by
  have accepted :
      ((Registration.path "b.c" "a" "/v1/%20/" "r").accepted? (create {})).isSome = true := by
    decide
  obtain ⟨registered, done⟩ := Option.isSome_iff_exists.mp accepted
  have labels : Uri.Labels Char.isLower "b.c".toList := by decide
  have labels' : Uri.Labels Char.isLower "a".toList := by decide
  have known : (registered.resolve "a.b.c/v1" "app").2.knownDomains = ["b.c"] := by
    rw [resolve, knownDomains_visit, (Registration.visit_of_accepted? done).frame.1]
    decide +kernel
  have key : normalizePath "/v1/%20/" = "/v1/%20" := by decide
  have verbatim : Uri.Verbatim (normalizePath "/v1/%20/").toList := by decide
  have longest : ∀ other ∈ (registered.resolve "a.b.c/v1" "app").2.knownDomains,
      Under other ("a" ++ "." ++ "b.c") → other.utf8ByteSize ≤ "b.c".utf8ByteSize := by
    rw [known]
    rintro other member -
    rw [List.mem_singleton.mp member]
  have there := (reception_exact .refl labels labels' done (.visit _ _ _ .refl) longest).1.mpr
    verbatim
  rw [key] at there
  exact ⟨registered, done, there⟩

/-- A path with a blank in it, registered and then requested. -/
theorem path_with_blank :
    let registered := (Registration.path "com" "a" "/a b" "r").submit (create {})
    let tree := (registered.2.track { uri := "http://a.com/a b" } "app" 0).2
    registered.1.toOption = some () ∧
      (tree.route? ⟨"com", "a", .path "/a b"⟩).map (·.requests) = some 0 ∧
      (tree.route? ⟨"com", "a", .path ""⟩).map (·.requests) = some 1 := by
  decide +kernel

end Route.Tree

end Telemetry
