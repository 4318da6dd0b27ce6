import Mathlib.Data.List.Basic
import Mathlib.Data.List.TakeWhile
import Telemetry.Proofs.Route.Filing

/-!
Where a host name is split.

A name is split before the longest registered domain it ends with, and behind its first label where
there is none. Main statement: whatever was registered, in whatever order, a name of labels that
are not empty is split so, and put together again its parts are the name; so no two such names
ever come to one host of one domain.
-/

set_option autoImplicit false

namespace Telemetry.Route

/-- A name that is a domain or ends with one behind a dot. -/
def Under (domain name : String) : Prop :=
  name = domain ∨ ∃ label, name = label ++ "." ++ domain

inductive Split (domains : List String) (name : String) : String × String → Prop where
  | whole : name ∈ domains → Split domains name ("", name)
  | within {host domain : String} : domain ∈ domains → name = host ++ "." ++ domain →
      (∀ other ∈ domains, Under other name → other.utf8ByteSize ≤ domain.utf8ByteSize) →
      Split domains name (host, domain)
  | label {host domain : String} : (∀ other ∈ domains, ¬ Under other name) →
      '.' ∉ host.toList → name = host ++ "." ++ domain → Split domains name (host, domain)
  | single : (∀ other ∈ domains, ¬ Under other name) → '.' ∉ name.toList →
      Split domains name (name, "")

/-- A name none of whose labels is empty. -/
def Labelled (name : String) : Prop := ∀ label ∈ name.toList.splitOn '.', label ≠ []

/-- Host and domain with a dot between them, without the empty ones. -/
def rejoined (parts : String × String) : String :=
  ".".intercalate ([parts.1, parts.2].filter (· ≠ ""))

/-! ### One domain -/

theorem labelBefore?_eq_some_iff {name domain label : List Char} :
    labelBefore? name domain = some label ↔
      name = domain ∧ label = [] ∨ name = label ++ '.' :: domain := by
  unfold labelBefore?
  constructor
  · intro found
    split at found
    · next whole => exact .inl ⟨whole, (Option.some.inj found).symm⟩
    · split at found
      · next rest ends =>
        have joined := List.isPrefixOf?_eq_some_iff_append_eq.mp ends
        have forth := congrArg List.reverse joined
        rw [← Option.some.inj found]
        exact .inr (by simpa using forth.symm)
      · cases found
  · rintro (⟨rfl, rfl⟩ | rfl)
    · exact if_pos rfl
    · have longer : label ++ '.' :: domain ≠ domain := by
        intro same
        have lengths := congrArg List.length same
        rw [List.length_append, List.length_cons] at lengths
        omega
      -- The end of a name is looked for as the front of the reversed name.
      have ends : domain.reverse.isPrefixOf? (label ++ '.' :: domain).reverse =
          some ('.' :: label.reverse) :=
        List.isPrefixOf?_eq_some_iff_append_eq.mpr (by simp)
      rw [if_neg longer]
      simp only [ends, List.reverse_reverse]

theorem toList_joined (host domain : String) :
    (host ++ "." ++ domain).toList = host.toList ++ '.' :: domain.toList := by
  simp

theorem eq_joined {name : String} {label : List Char} {domain : String}
    (same : name.toList = label ++ '.' :: domain.toList) :
    name = String.ofList label ++ "." ++ domain := by
  rw [← String.toList_inj, toList_joined, String.toList_ofList, same]

theorem endsIn_iff (name domain : String) : endsIn name domain = true ↔ Under domain name := by
  unfold endsIn
  rw [Option.isSome_iff_exists]
  constructor
  · rintro ⟨label, found⟩
    rcases labelBefore?_eq_some_iff.mp found with ⟨whole, -⟩ | joined
    · exact .inl (String.toList_inj.mp whole)
    · exact .inr ⟨_, eq_joined joined⟩
  · rintro (rfl | ⟨label, rfl⟩)
    · exact ⟨[], labelBefore?_eq_some_iff.mpr (.inl ⟨rfl, rfl⟩)⟩
    · exact ⟨label.toList, labelBefore?_eq_some_iff.mpr (.inr (toList_joined label domain))⟩

/-! ### No domain -/

theorem splitAtLabel_joined {host domain : String} (first : '.' ∉ host.toList) :
    splitAtLabel (host ++ "." ++ domain) = (host, domain) := by
  have label : (host.toList ++ '.' :: domain.toList).takeWhile (fun c => decide (c ≠ '.')) =
      host.toList := by
    rw [List.takeWhile_append_of_pos]
    · simp
    · intro c member
      simpa using fun dot : c = '.' => first (dot ▸ member)
  have rest : (host.toList ++ '.' :: domain.toList).drop (host.toList.length + 1) =
      domain.toList := by
    rw [← List.drop_drop, List.drop_left]
    rfl
  rw [splitAtLabel, toList_joined, label, rest, String.ofList_toList, String.ofList_toList]

theorem splitAtLabel_single {name : String} (dotless : '.' ∉ name.toList) :
    splitAtLabel name = (name, "") := by
  have label : name.toList.takeWhile (fun c => decide (c ≠ '.')) = name.toList := by
    rw [List.takeWhile_eq_self_iff]
    intro c member
    simpa using fun dot : c = '.' => dotless (dot ▸ member)
  rw [splitAtLabel, label, String.ofList_toList, List.drop_of_length_le (Nat.le_succ _)]

theorem first_label (name : String) : '.' ∉ name.toList ∨
    ∃ host domain : String, '.' ∉ host.toList ∧ name = host ++ "." ++ domain := by
  by_cases dotted : '.' ∈ name.toList
  · obtain ⟨label, rest, joined, first⟩ := List.eq_append_cons_of_mem dotted
    refine .inr ⟨String.ofList label, String.ofList rest, by rwa [String.toList_ofList], ?_⟩
    exact eq_joined (by rw [String.toList_ofList, joined])
  · exact .inl dotted

/-! ### Splits -/

section
variable {domains others : List String} {name host domain : String}
  {parts parts' : String × String}

theorem size_lt_joined (host domain : String) :
    domain.utf8ByteSize < (host ++ "." ++ domain).utf8ByteSize := by
  have dot : ".".utf8ByteSize = 1 := by decide
  rw [String.utf8ByteSize_append, String.utf8ByteSize_append]
  omega

theorem Split.inside (split : Split domains name parts) {other : String} (listed : other ∈ domains)
    (under : Under other name) : Longest (endsIn name) domains parts.2 ∧
      labelBefore? name.toList parts.2.toList = some parts.1.toList := by
  cases split with
  | whole member =>
    have itself : Under name name := .inl rfl
    refine ⟨⟨member, (endsIn_iff name name).mpr itself, fun text _ ends => ?_⟩,
      labelBefore?_eq_some_iff.mpr (.inl ⟨rfl, rfl⟩)⟩
    rcases (endsIn_iff name text).mp ends with whole | ⟨label, joined⟩
    · rw [whole]
    · rw [joined]
      exact Nat.le_of_lt (size_lt_joined label text)
  | @within host domain member joined bound =>
    have ends := (endsIn_iff name domain).mpr (.inr ⟨host, joined⟩)
    refine ⟨⟨member, ends, fun text member ends => ?_⟩, labelBefore?_eq_some_iff.mpr (.inr ?_)⟩
    · exact bound text member ((endsIn_iff name text).mp ends)
    · rw [joined, toList_joined]
  | label outside => exact absurd under (outside other listed)
  | single outside => exact absurd under (outside other listed)

theorem Split.outside (split : Split domains name parts)
    (outside : ∀ other ∈ domains, ¬ Under other name) : parts = splitAtLabel name := by
  cases split with
  | whole member => exact absurd (.inl rfl) (outside name member)
  | within member joined => exact absurd (.inr ⟨_, joined⟩) (outside _ member)
  | label _ first joined => rw [joined, splitAtLabel_joined first]
  | single _ dotless => rw [splitAtLabel_single dotless]

theorem Split.unique (first : Split domains name parts) (second : Split domains name parts') :
    parts = parts' := by
  by_cases inside : ∃ other ∈ domains, Under other name
  · obtain ⟨other, listed, under⟩ := inside
    obtain ⟨longest, label⟩ := first.inside listed under
    obtain ⟨longest', label'⟩ := second.inside listed under
    have same := longest.unique (onePerSize_endsIn name) (fun _ => Iff.rfl) longest'
    rw [same, label', Option.some.injEq, String.toList_inj] at label
    exact Prod.ext label.symm same
  · have outside : ∀ other ∈ domains, ¬ Under other name :=
      fun other listed under => inside ⟨other, listed, under⟩
    rw [first.outside outside, second.outside outside]

/-! ### Put together again -/

theorem Labelled.ne_empty (labelled : Labelled name) : name ≠ "" := by
  rintro rfl
  exact labelled [] (by simp) rfl

theorem Labelled.filled (labelled : Labelled (host ++ "." ++ domain)) :
    host ≠ "" ∧ domain ≠ "" := by
  rw [Labelled, toList_joined, List.splitOn_append_cons_self] at labelled
  constructor
  · rintro rfl
    exact labelled [] (by simp) rfl
  · rintro rfl
    exact labelled [] (by simp) rfl

theorem rejoined_joined (filled : host ≠ "") (filled' : domain ≠ "") :
    rejoined (host, domain) = host ++ "." ++ domain := by
  simp [rejoined, filled, filled', String.intercalate_cons_cons]

theorem Split.rejoined (split : Split domains name parts) (labelled : Labelled name) :
    rejoined parts = name := by
  cases split with
  | whole | single => simp [Route.rejoined, labelled.ne_empty]
  | within _ joined | label _ _ joined =>
    subst joined
    exact rejoined_joined labelled.filled.1 labelled.filled.2

end

namespace Tree

theorem split_splitName {tree : Tree} {domains : List String}
    (sorted : LongestFirst tree.knownDomains)
    (same : ∀ domain, domain ∈ tree.knownDomains ↔ domain ∈ domains) (name : String) :
    Split domains name (tree.splitName name) := by
  rw [splitName, splitAtDomain?_eq]
  cases found : tree.knownDomains.find? (endsIn name) with
  | none =>
    have outside : ∀ other ∈ domains, ¬ Under other name := by
      intro other listed under
      have missed := List.find?_eq_none.mp found other ((same other).mpr listed)
      exact missed ((endsIn_iff name other).mpr under)
    rw [Option.map_none, Option.getD_none]
    rcases first_label name with dotless | ⟨host, domain, first, joined⟩
    · rw [splitAtLabel_single dotless]
      exact .single outside dotless
    · have split : splitAtLabel (host ++ "." ++ domain) = (host, domain) :=
        splitAtLabel_joined first
      rw [← joined] at split
      rw [split]
      exact .label outside first joined
  | some domain =>
    -- Domains are searched from the longest on, so the first that is found is the longest.
    have longest := longest_of_find? sorted found
    have listed := (same domain).mp longest.mem
    rw [Option.map_some, Option.getD_some]
    obtain ⟨label, before⟩ := Option.isSome_iff_exists.mp longest.matched
    rw [before, Option.getD_some]
    rcases labelBefore?_eq_some_iff.mp before with ⟨whole, rfl⟩ | joined
    · obtain rfl : name = domain := String.toList_inj.mp whole
      exact .whole listed
    · refine .within listed (eq_joined joined) fun other member under => ?_
      exact longest.bound other ((same other).mpr member) ((endsIn_iff name other).mpr under)

def hostname? (uri : String) : Option String :=
  (Uri.ofText (if Text.contains "://".toList uri.toList then uri
    else "http://" ++ uri)).toOption.map (Text.lowerAscii ·.host)

theorem splitName_of_locate {tree : Tree} {uri : String} {location : Location}
    (located : tree.locate uri = .ok location) :
    ∃ name, hostname? uri = some name ∧ tree.splitName name = (location.host, location.domain) := by
  unfold locate at located
  unfold hostname?
  dsimp only at located
  split at located
  · cases located
  · next parsed read =>
    rw [read]
    cases located
    exact ⟨_, rfl, rfl⟩

section
variable (limits : Limits) (acts : List Act)

/-- The domains that were registered, refused registrations included. -/
def registeredDomains (acts : List Act) : List String :=
  (registrations acts).map (·.place.domain)

theorem split_performAll (name : String) :
    Split (registeredDomains acts) name
      (((create limits).performAll acts).splitName name) := by
  have filed : ((create limits).performAll acts).Filed := (filed_create limits).performAll acts
  have remembers := (remembers_create limits).performAll acts
  refine split_splitName filed.known.longestFirst (fun domain => ?_) name
  rw [remembers.domains, registeredDomains, List.mem_map]
  rfl

end

/-- After any acts a name of labels that are not empty is split at the longest registered domain
it is under, or behind its first label, and in no other way. Put together again the parts are the
name, so no other name is ever split so, then or at any other time; and what a request is booked
under tells the name of its host. -/
theorem splitName_exact (limits : Limits) (acts : List Act) {name : String}
    (labelled : Labelled name) :
    let tree := (create limits).performAll acts
    (∀ parts, Split (registeredDomains acts) name parts ↔ tree.splitName name = parts) ∧
    rejoined (tree.splitName name) = name ∧
    (∀ (limits' : Limits) (acts' : List Act) (other : String), Labelled other →
      ((create limits').performAll acts').splitName other = tree.splitName name → other = name) ∧
    ∀ uri location, hostname? uri = some name → tree.locate uri = .ok location →
      rejoined (location.host, location.domain) = name := by
  intro tree
  have split : Split (registeredDomains acts) name (tree.splitName name) :=
    split_performAll limits acts name
  have whole : rejoined (tree.splitName name) = name := split.rejoined labelled
  refine ⟨fun parts => ⟨split.unique, ?_⟩, whole, ?_, ?_⟩
  · rintro rfl
    exact split
  · intro limits' acts' other labelled' same
    -- Both names are put together again from the same parts.
    have again := (split_performAll limits' acts' other).rejoined labelled'
    rw [← again, same, whole]
  · intro uri location named located
    obtain ⟨host, here, parts⟩ := splitName_of_locate located
    obtain rfl : host = name := Option.some.inj (here.symm.trans named)
    rw [← parts, whole]

/-- A name under two registered domains, of which the longer one came later and the other one in
capitals. -/
theorem splitName_exact_nested :
    let acts : List Act := [.register (.path "Example.com" "www" "/" "r"),
      .register (.path "apps.example.com" "api" "/v1" "s")]
    Labelled "a.b.apps.example.com" ∧
      ((create {}).performAll acts).splitName "a.b.apps.example.com" =
        ("a.b", "apps.example.com") := by
  intro acts
  have labelled : Labelled "a.b.apps.example.com" := by
    unfold Labelled
    decide
  have listed : registeredDomains acts = ["example.com", "apps.example.com"] := by decide +kernel
  refine ⟨labelled, ((splitName_exact {} acts labelled).1 _).mp (.within ?_ rfl ?_)⟩
  · simp [listed]
  · rw [listed]
    rintro other member -
    rcases List.mem_pair.mp member with rfl | rfl <;> decide

end Tree

end Telemetry.Route
