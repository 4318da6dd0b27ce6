import Telemetry.Proofs.Route.Split
import Telemetry.Proofs.Uri.Authority

/-!
Locators with a scheme and without one.

A locator without a scheme is read as if it were one of the web. Whether it has a scheme is told
by the mark behind schemes, wherever in the text the mark stands. Main statement: a locator that
begins with a host's name is read alike with the web's scheme in front and without it unless the
mark stands in its path, query or fragment; then what begins it is taken for a scheme.
-/

set_option autoImplicit false

namespace Telemetry.Route

/-! ### A split loses a dot at most -/

theorem mem_of_labelBefore? {name domain label : List Char}
    (split : labelBefore? name domain = some label) {c : Char} (other : c ≠ '.') :
    c ∈ name ↔ c ∈ label ∨ c ∈ domain := by
  rcases labelBefore?_eq_some_iff.mp split with ⟨rfl, rfl⟩ | rfl
  · simp
  · simp [other]

theorem labelBefore?_of_splitAtDomain? {name host domain : String} {domains : List String}
    (split : splitAtDomain? name domains = some (host, domain)) :
    labelBefore? name.toList domain.toList = some host.toList := by
  induction domains with
  | nil => cases split
  | cons first rest ih =>
    unfold splitAtDomain? at split
    split at split
    · next label found =>
      cases split
      rw [found, String.toList_ofList]
    · exact ih split

theorem mem_splitAtLabel {name : String} {c : Char} (other : c ≠ '.') :
    c ∈ name.toList ↔ c ∈ (splitAtLabel name).1.toList ∨ c ∈ (splitAtLabel name).2.toList := by
  rcases first_label name with dotless | ⟨host, domain, first, rfl⟩
  · rw [splitAtLabel_single dotless]
    simp
  · rw [splitAtLabel_joined first, toList_joined]
    simp [other]

namespace Tree

theorem mem_splitName (tree : Tree) (name : String) {c : Char} (other : c ≠ '.') :
    c ∈ name.toList ↔
      c ∈ (tree.splitName name).1.toList ∨ c ∈ (tree.splitName name).2.toList := by
  unfold splitName
  cases split : splitAtDomain? name tree.knownDomains with
  | none => exact mem_splitAtLabel other
  | some parts => exact mem_of_labelBefore? (labelBefore?_of_splitAtDomain? split) other

/-! ### What a locator is read as -/

theorem eq_ok_of_toOption {ε α : Type} {outcome : Except ε α} {value : α}
    (some : outcome.toOption = .some value) : outcome = .ok value := by
  cases outcome with
  | error error => cases some
  | ok answer => rw [Option.some.inj some]

def locationOf (tree : Tree) (parsed : Uri) : Location :=
  let (host, domain) := tree.splitName (Text.lowerAscii parsed.host)
  ⟨host, domain, normalizePath parsed.path, parsed.port⟩

theorem toOption_locate (tree : Tree) (uri : String) :
    (tree.locate uri).toOption =
      (Uri.ofText (if Text.contains "://".toList uri.toList then uri
        else "http://" ++ uri)).toOption.map tree.locationOf := by
  rw [locate]
  cases Uri.ofText (if Text.contains "://".toList uri.toList then uri else "http://" ++ uri) <;> rfl

theorem contains_schemed (uri : String) :
    Text.contains "://".toList ("http://" ++ uri).toList = true := by
  rw [String.toList_append]
  rfl

theorem locate_schemed (tree : Tree) (uri : String) :
    (tree.locate ("http://" ++ uri)).toOption =
      (Uri.ofText ("http://" ++ uri)).toOption.map tree.locationOf := by
  rw [toOption_locate, contains_schemed, if_pos rfl]

theorem locate_unmarked (tree : Tree) {uri : String}
    (unmarked : Text.contains "://".toList uri.toList = false) :
    (tree.locate uri).toOption = (tree.locate ("http://" ++ uri)).toOption := by
  rw [locate_schemed, toOption_locate, unmarked, if_neg Bool.false_ne_true]

theorem numeric_locationOf (tree : Tree) {parsed : Uri}
    (numeric : ∀ c ∈ parsed.host.toList, c.isDigit = true ∨ c = '.') {c : Char}
    (member : c ∈ (tree.locationOf parsed).host.toList ∨
      c ∈ (tree.locationOf parsed).domain.toList) : c.isDigit = true ∨ c = '.' := by
  by_cases dot : c = '.'
  · exact .inr dot
  · have within := (tree.mem_splitName (Text.lowerAscii parsed.host) dot).mpr member
    rw [Text.lowerAscii, String.toList_map] at within
    obtain ⟨d, inside, rfl⟩ := List.mem_map.mp within
    rcases numeric d inside with digit | rfl
    · rw [Text.toLower_digit digit]
      exact .inl digit
    · exact .inr rfl

section
variable {name port rest : String}

theorem ofList_locator (name port rest : String) :
    String.ofList (name.toList ++ port.toList ++ rest.toList) = name ++ port ++ rest := by
  rw [← String.toList_inj]
  simp

theorem ofList_lower (name : String) :
    String.ofList (name.toList.map Char.toLower) = Text.lowerAscii name := by
  rw [← String.toList_inj, String.toList_ofList, Text.lowerAscii, String.toList_map]

theorem lowerAscii_labels (labels : Uri.Labels Char.isLower name.toList) :
    Text.lowerAscii name = name := by
  rw [← String.toList_inj, Text.lowerAscii, String.toList_map]
  refine (List.map_congr_left fun c member => ?_).trans name.toList.map_id
  rcases labels.mem member with lower | rfl
  · exact Text.toLower_eq_self lower
  · rfl

theorem locate_named (addressed : Uri.Addressed name.toList port.toList rest.toList)
    (labels : Uri.Labels Char.isAlpha name.toList)
    (small : ∀ n, Uri.portNumber? port.toList = some n → n < 65536) (tree : Tree) :
    tree.locate ("http://" ++ (name ++ port ++ rest)) =
      .ok ⟨(tree.splitName (Text.lowerAscii name)).1, (tree.splitName (Text.lowerAscii name)).2,
        normalizePath (String.ofList (Uri.pathOf true (Uri.beforeQuery (Uri.tidied rest.toList)))),
        (Uri.portNumber? port.toList).filter (· ≠ 80)⟩ := by
  have fits : (Uri.portNumber? port.toList).any (65536 ≤ ·) = false := by
    cases number : Uri.portNumber? port.toList with
    | none => rfl
    | some n => exact decide_eq_false (Nat.not_le.mpr (small n number))
  have lower : Uri.Labels Char.isLower (Text.lowerAscii name).toList := by
    rw [Text.lowerAscii, String.toList_map]
    exact labels.lower
  have read := addressed.ofText_letters labels
  rw [fits, if_neg Bool.false_ne_true, ofList_lower, ofList_locator] at read
  have found := tree.locate_schemed (name ++ port ++ rest)
  rw [read] at found
  have located := eq_ok_of_toOption found
  rwa [locationOf, lowerAscii_labels lower] at located

theorem locate_letters (addressed : Uri.Addressed name.toList port.toList rest.toList)
    (labels : Uri.Labels Char.isAlpha name.toList)
    (small : ∀ n, Uri.portNumber? port.toList = some n → n < 65536) (tree : Tree) :
    ∃ path, tree.locate ("http://" ++ (name ++ port ++ rest)) =
      .ok ⟨(tree.splitName (Text.lowerAscii name)).1, (tree.splitName (Text.lowerAscii name)).2,
        path, (Uri.portNumber? port.toList).filter (· ≠ 80)⟩ :=
  ⟨_, locate_named addressed labels small tree⟩

theorem numeric_of_marked (addressed : Uri.Addressed name.toList port.toList rest.toList)
    (tree : Tree) {location : Location}
    (marked : Text.contains "://".toList (name ++ port ++ rest).toList = true)
    (read : (tree.locate (name ++ port ++ rest)).toOption = some location) :
    port ≠ "" ∧ (∃ usual, Uri.Scheme.ofName (Text.lowerAscii name) = .web usual) ∧
      ∀ c, c ∈ location.host.toList ∨ c ∈ location.domain.toList → c.isDigit = true ∨ c = '.' := by
  rw [toOption_locate, marked, if_pos rfl] at read
  obtain ⟨parsed, ok, rfl⟩ := Option.map_eq_some_iff.mp read
  have parses := eq_ok_of_toOption ok
  rw [← ofList_locator] at parses
  obtain ⟨filled, web, numeric⟩ := addressed.numeric_of_ofText parses
  refine ⟨?_, ofList_lower name ▸ web, fun c => tree.numeric_locationOf numeric⟩
  rintro rfl
  exact filled rfl

theorem ne_of_marked (addressed : Uri.Addressed name.toList port.toList rest.toList)
    (tree : Tree) {location : Location}
    (marked : Text.contains "://".toList (name ++ port ++ rest).toList = true)
    (read : (tree.locate (name ++ port ++ rest)).toOption = some location) :
    (tree.locate ("http://" ++ (name ++ port ++ rest))).toOption ≠ some location := by
  obtain ⟨-, ⟨usual, web⟩, numeric⟩ := numeric_of_marked addressed tree marked read
  intro same
  rw [locate_schemed] at same
  obtain ⟨parsed, ok, rfl⟩ := Option.map_eq_some_iff.mp same
  rw [← ofList_lower] at web
  have labels := addressed.labels_of_web web
  rw [← ofList_locator, addressed.ofText_letters labels] at ok
  split at ok
  · cases ok
  · cases ok
    -- The first letter of the name is in the host or in the domain, where there is none.
    obtain ⟨first, more, named, letter⟩ := labels.cons
    have lower := Text.isLower_toLower letter
    have kept := Text.toLower_eq_self lower
    have dotless : first.toLower ≠ '.' := by
      intro dot
      rw [dot] at lower
      cases lower
    have within : first.toLower ∈ (Text.lowerAscii (Text.lowerAscii name)).toList := by
      simp [Text.lowerAscii, named, kept]
    rw [ofList_lower] at numeric
    exact Text.not_numeric_of_isAlpha (Text.isAlpha_of_isLower lower)
      (numeric _ ((tree.mem_splitName _ dotless).mp within))

end

/-- With a scheme in front and without one a locator is read alike if and only if its text has
no mark of a scheme, or cannot be read in either form. With one a name of letters is always read.
Where the text has the mark, only the name of a web scheme with a port behind it is read without
one: as that scheme, and with the port for an address. -/
theorem locate_bare_exact (tree : Tree) {name port rest : String}
    (addressed : Uri.Addressed name.toList port.toList rest.toList) :
    let uri := name ++ port ++ rest
    let bare := (tree.locate uri).toOption
    let schemed := (tree.locate ("http://" ++ uri)).toOption
    let marked := Text.contains "://".toList uri.toList
    (bare = schemed ↔ marked = false ∨ bare = none ∧ schemed = none) ∧
    (Uri.Labels Char.isAlpha name.toList →
      (∀ n, Uri.portNumber? port.toList = some n → n < 65536) →
      ∃ path, schemed = some ⟨(tree.splitName (Text.lowerAscii name)).1,
        (tree.splitName (Text.lowerAscii name)).2, path,
        (Uri.portNumber? port.toList).filter (· ≠ 80)⟩) ∧
    (marked = true → ∀ location, bare = some location →
      port ≠ "" ∧ (∃ usual, Uri.Scheme.ofName (Text.lowerAscii name) = .web usual) ∧
        ∀ c, c ∈ location.host.toList ∨ c ∈ location.domain.toList →
          c.isDigit = true ∨ c = '.') := by
  intro uri bare schemed marked
  refine ⟨⟨fun same => ?_, ?_⟩, fun labels small => ?_,
    fun set location read => numeric_of_marked addressed tree set read⟩
  · cases set : marked with
    | false => exact .inl rfl
    | true =>
      right
      cases read : bare with
      | none => exact ⟨rfl, same.symm.trans read⟩
      | some location =>
        -- With the mark the two forms name different hosts.
        exact absurd (same.symm.trans read) (ne_of_marked addressed tree set read)
  · rintro (unmarked | ⟨unread, unread'⟩)
    · exact tree.locate_unmarked unmarked
    · rw [unread, unread']
  · obtain ⟨path, located⟩ := locate_letters addressed labels small tree
    exact ⟨path, congrArg Except.toOption located⟩

/-- A port and a path with other marks in it. -/
theorem locate_bare_exact_path :
    ((create {}).locate "a.b:8080/x?y=z:/w").toOption =
      ((create {}).locate "http://a.b:8080/x?y=z:/w").toOption := by
  have port : ∀ c ∈ "8080".toList, c.isDigit = true := by simp
  have addressed : Uri.Addressed "a.b".toList ":8080".toList "/x?y=z:/w".toList := by
    refine ⟨by decide, by simp [Uri.isNameChar], .inr ⟨"8080".toList, rfl, by decide, port⟩, ?_⟩
    rintro c ⟨⟩
    decide
  exact (locate_bare_exact (create {}) addressed).1.mpr (.inl (by decide +kernel))

/-- A locator in the query of another one makes it unreadable without a scheme. -/
theorem locate_bare_query :
    Uri.Addressed "a.b".toList [] "/?q=http://c".toList ∧
      ((create {}).locate "a.b/?q=http://c").toOption = none ∧
      ((create {}).locate "http://a.b/?q=http://c").toOption = some ⟨"a", "b", "", none⟩ := by
  refine ⟨⟨by decide, by simp [Uri.isNameChar], .inl rfl, ?_⟩, by decide +kernel,
    by decide +kernel⟩
  rintro c ⟨⟩
  decide

end Tree

end Telemetry.Route
