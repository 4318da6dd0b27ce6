import Telemetry.Route.Tree

/-!
The longest match is the only one of its length.

Paths and domains are searched from the longest on, and of two texts that begin or end the
same text the longer one is longer by something. So what is found depends on which texts there
are, and not on the order in which they came.
-/

set_option autoImplicit false

namespace Telemetry

namespace Route

def LongestFirst (texts : List String) : Prop :=
  texts.Pairwise fun earlier later => later.utf8ByteSize ≤ earlier.utf8ByteSize

theorem mem_longestFirst {text : String} {texts : List String} :
    text ∈ longestFirst texts ↔ text ∈ texts :=
  List.mem_mergeSort

structure Ranked (texts : List String) : Prop where
  distinct : texts.Nodup
  sorted : texts.Pairwise fun earlier later => later.utf8ByteSize < earlier.utf8ByteSize ∨
    later.utf8ByteSize = earlier.utf8ByteSize ∧ earlier ≤ later

theorem pairwise_longestFirst (texts : List String) :
    (longestFirst texts).Pairwise fun earlier later => later.utf8ByteSize < earlier.utf8ByteSize ∨
      later.utf8ByteSize = earlier.utf8ByteSize ∧ earlier ≤ later := by
  have sorted := @List.pairwise_mergeSort String
    (fun a b => b.utf8ByteSize < a.utf8ByteSize || (a.utf8ByteSize = b.utf8ByteSize && a ≤ b))
    ?_ ?_ texts
  · refine sorted.imp ?_
    intro a b before
    simp only [Bool.or_eq_true, Bool.and_eq_true, decide_eq_true_eq] at before
    exact before.imp_right fun ⟨same, le⟩ => ⟨same.symm, le⟩
  · intro a b c first second
    simp only [Bool.or_eq_true, Bool.and_eq_true, decide_eq_true_eq] at first second ⊢
    rcases first with longer | ⟨same, le⟩
    · exact .inl (by omega)
    · rcases second with longer | ⟨same', le'⟩
      · exact .inl (by omega)
      · exact .inr ⟨same.trans same', String.le_trans le le'⟩
  · intro a b
    simp only [Bool.or_eq_true, Bool.and_eq_true, decide_eq_true_eq]
    have total := String.le_total a b
    rcases Nat.lt_trichotomy a.utf8ByteSize b.utf8ByteSize with less | same | greater
    · exact .inr (.inl less)
    · rcases total with le | ge
      · exact .inl (.inr ⟨same, le⟩)
      · exact .inr (.inr ⟨same.symm, ge⟩)
    · exact .inl (.inl greater)

theorem sorted_longestFirst (texts : List String) : LongestFirst (longestFirst texts) := by
  refine (pairwise_longestFirst texts).imp ?_
  omega

theorem Ranked.longestFirst {texts : List String} (ranked : Ranked texts) : LongestFirst texts :=
  ranked.sorted.imp (by omega)

theorem ranked_longestFirst {texts : List String} (distinct : texts.Nodup) :
    Ranked (longestFirst texts) where
  distinct := (List.mergeSort_perm _ _).nodup_iff.mpr distinct
  sorted := pairwise_longestFirst texts

/-- A match among some texts that no other match is longer than. -/
structure Longest (matches? : String → Bool) (texts : List String) (found : String) : Prop where
  mem : found ∈ texts
  matched : matches? found = true
  bound : ∀ text ∈ texts, matches? text = true → text.utf8ByteSize ≤ found.utf8ByteSize

section
variable {matches? : String → Bool} {texts others : List String} {found other : String}

theorem longest_of_find? (sorted : LongestFirst texts) (hit : texts.find? matches? = some found) :
    Longest matches? texts found := by
  refine ⟨List.mem_of_find?_eq_some hit, List.find?_some hit, ?_⟩
  obtain ⟨-, before, after, rfl, missed⟩ := List.find?_eq_some_iff_append.mp hit
  intro text member matched
  rcases List.mem_append.mp member with early | late
  · have miss := missed text early
    rw [matched] at miss
    cases miss
  · rcases List.mem_cons.mp late with rfl | late
    · exact Nat.le_refl _
    · exact List.rel_of_pairwise_cons (List.pairwise_append.mp sorted).2.1 late

/-- No two matches have one length. -/
def OnePerSize (matches? : String → Bool) : Prop :=
  ∀ a b : String, matches? a = true → matches? b = true → a.utf8ByteSize = b.utf8ByteSize → a = b

theorem Longest.unique (one : OnePerSize matches?) (same : ∀ text, text ∈ texts ↔ text ∈ others)
    (first : Longest matches? texts found) (second : Longest matches? others other) :
    found = other := by
  have le := second.bound found ((same _).mp first.mem) first.matched
  have ge := first.bound other ((same _).mpr second.mem) second.matched
  exact one _ _ first.matched second.matched (Nat.le_antisymm le ge)

theorem find?_congr (one : OnePerSize matches?) (sorted : LongestFirst texts)
    (sorted' : LongestFirst others) (same : ∀ text, text ∈ texts ↔ text ∈ others) :
    texts.find? matches? = others.find? matches? := by
  cases hit : texts.find? matches? with
  | none =>
    have missed := List.find?_eq_none.mp hit
    exact (List.find?_eq_none.mpr fun text member => missed text ((same text).mpr member)).symm
  | some found =>
    have first := longest_of_find? sorted hit
    cases hit' : others.find? matches? with
    | none => exact absurd first.matched (List.find?_eq_none.mp hit' _ ((same _).mp first.mem))
    | some other => rw [first.unique one same (longest_of_find? sorted' hit')]

end

theorem eq_of_inside {short long : String} (within : short.toList <:+: long.toList)
    (size : long.utf8ByteSize ≤ short.utf8ByteSize) : short = long := by
  obtain ⟨before, after, joined⟩ := within
  have whole : long = String.ofList before ++ short ++ String.ofList after := by
    simp [← String.toList_inj, joined]
  rw [whole, String.utf8ByteSize_append, String.utf8ByteSize_append] at size
  have none : String.ofList before = "" ∧ String.ofList after = "" := by
    rw [← String.utf8ByteSize_eq_zero_iff, ← String.utf8ByteSize_eq_zero_iff]
    omega
  rw [whole, none.1, none.2, String.empty_append, String.append_empty]

theorem eq_of_prefixes {a b : String} {text : List Char} (first : a.toList <+: text)
    (second : b.toList <+: text) (size : a.utf8ByteSize = b.utf8ByteSize) : a = b := by
  rcases List.prefix_or_prefix_of_prefix first second with short | long
  · exact eq_of_inside short.isInfix (Nat.le_of_eq size.symm)
  · exact (eq_of_inside long.isInfix (Nat.le_of_eq size)).symm

theorem eq_of_suffixes {a b : String} {text : List Char} (first : a.toList <:+ text)
    (second : b.toList <:+ text) (size : a.utf8ByteSize = b.utf8ByteSize) : a = b := by
  rcases List.suffix_or_suffix_of_suffix first second with short | long
  · exact eq_of_inside short.isInfix (Nat.le_of_eq size.symm)
  · exact (eq_of_inside long.isInfix (Nat.le_of_eq size)).symm

/-! ### Paths of a host -/

theorem prefix_of_extends? {path registered : List Char} (extended : extends? path registered) :
    registered <+: path := by
  unfold extends? at extended
  cases found : registered.isPrefixOf? path with
  | none => simp [found] at extended
  | some rest => exact ⟨rest, Text.append_eq_of_isPrefixOf? found⟩

/-- Whether a path may be filed under another one: the root takes them all. -/
def takes? (path registered : String) : Bool :=
  registered = "" || extends? path.toList registered.toList

theorem onePerSize_takes? (path : String) : OnePerSize (takes? path) := by
  have begins : ∀ {registered}, takes? path registered = true →
      registered.toList <+: path.toList := by
    intro registered takes
    rcases Bool.or_eq_true_iff.mp takes with root | extended
    · rw [of_decide_eq_true root]
      exact List.nil_prefix
    · exact prefix_of_extends? extended
  exact fun _ _ first second => eq_of_prefixes (begins first) (begins second)

end Route

namespace Host

open Route

theorem longest_findPath (host : Host) (path : String) :
    Longest (takes? path) ("" :: host.routes.keys) (host.findPath path) := by
  rw [findPath, host.indexed]
  cases hit : (longestFirst host.routes.keys).find? fun registered =>
      extends? path.toList registered.toList with
  | none =>
    refine ⟨List.mem_cons_self, rfl, ?_⟩
    -- Where nothing is found only the root takes the path.
    intro text member takes
    rcases Bool.or_eq_true_iff.mp takes with root | extended
    · rw [of_decide_eq_true root]
      exact Nat.le_refl _
    · rcases List.mem_cons.mp member with rfl | member
      · exact Nat.le_refl _
      · exact absurd extended (List.find?_eq_none.mp hit text (mem_longestFirst.mpr member))
  | some found =>
    have longest := longest_of_find? (sorted_longestFirst _) hit
    refine ⟨List.mem_cons_of_mem _ (mem_longestFirst.mp longest.mem),
      Bool.or_eq_true_iff.mpr (.inr longest.matched), ?_⟩
    intro text member takes
    rcases Bool.or_eq_true_iff.mp takes with root | extended
    · rw [of_decide_eq_true root]
      exact Nat.zero_le _
    · rcases List.mem_cons.mp member with rfl | member
      · exact Nat.zero_le _
      · exact longest.bound text (mem_longestFirst.mpr member) extended

theorem findPath_congr {host other : Host} (path : String)
    (same : ∀ text, text ≠ "" → (text ∈ host.routes.keys ↔ text ∈ other.routes.keys)) :
    host.findPath path = other.findPath path := by
  refine (host.longest_findPath path).unique (onePerSize_takes? path) ?_
    (other.longest_findPath path)
  intro text
  rw [List.mem_cons, List.mem_cons]
  by_cases root : text = ""
  · simp [root]
  · rw [same text root]

end Host

namespace Route

/-! ### Domains of a tree -/

def endsIn (name domain : String) : Bool := (labelBefore? name.toList domain.toList).isSome

theorem suffix_of_endsIn {name domain : String} (ends : endsIn name domain) :
    domain.toList <:+ name.toList := by
  unfold endsIn labelBefore? at ends
  split at ends
  · next whole => exact ⟨[], whole.symm⟩
  · cases found : domain.toList.reverse.isPrefixOf? name.toList.reverse with
    | none => simp [found] at ends
    | some label =>
      have joined := Text.append_eq_of_isPrefixOf? found
      exact List.reverse_prefix.mp ⟨label, joined⟩

theorem onePerSize_endsIn (name : String) : OnePerSize (endsIn name) :=
  fun _ _ first second => eq_of_suffixes (suffix_of_endsIn first) (suffix_of_endsIn second)

theorem splitAtDomain?_eq (name : String) (domains : List String) :
    splitAtDomain? name domains = (domains.find? (endsIn name)).map fun domain =>
      (String.ofList ((labelBefore? name.toList domain.toList).getD []), domain) := by
  induction domains with
  | nil => rfl
  | cons domain rest ih =>
    cases found : labelBefore? name.toList domain.toList with
    | none =>
      rw [splitAtDomain?, found, List.find?_cons_of_neg (by simp [endsIn, found])]
      exact ih
    | some label =>
      rw [splitAtDomain?, found, List.find?_cons_of_pos (by simp [endsIn, found])]
      simp [found]

namespace Tree

theorem splitName_known {tree : Tree} (sorted : LongestFirst tree.knownDomains) {domain : String}
    (known : domain ∈ tree.knownDomains) : tree.splitName domain = ("", domain) := by
  have itself : labelBefore? domain.toList domain.toList = some [] := if_pos rfl
  have ends : endsIn domain domain = true := by rw [endsIn, itself, Option.isSome_some]
  cases found : tree.knownDomains.find? (endsIn domain) with
  | none => exact absurd ends (List.find?_eq_none.mp found domain known)
  | some longest =>
    have hit := longest_of_find? sorted found
    have same : longest = domain :=
      eq_of_inside (suffix_of_endsIn hit.matched).isInfix (hit.bound domain known ends)
    rw [splitName, splitAtDomain?_eq, found, same, Option.map_some, itself]
    rfl

theorem locate_congr {tree other : Tree} (sorted : LongestFirst tree.knownDomains)
    (sorted' : LongestFirst other.knownDomains)
    (same : ∀ domain, domain ∈ tree.knownDomains ↔ domain ∈ other.knownDomains) (uri : String) :
    tree.locate uri = other.locate uri := by
  have split : tree.splitName = other.splitName := by
    funext name
    rw [splitName, splitName, splitAtDomain?_eq, splitAtDomain?_eq,
      find?_congr (onePerSize_endsIn name) sorted sorted' same]
  rw [locate, locate, split]

end Tree

end Route

end Telemetry
