import Mathlib.Data.List.TakeWhile
import Telemetry.Proofs.Uri.Authority

/-!
Paths that are read as they are written.

Reading a path escapes characters, takes backslashes for slashes and resolves segments of dots.
What it gives has none of these left, and a path that has none of them is read as it is.
-/

set_option autoImplicit false

namespace Telemetry.Uri

open Text

def keptInPath (c : Char) : Bool := c.toNat < 0x80 && !escapedInPath c && c ≠ '\\'

/-- A path that is read as it is written: no character is written otherwise, and no segment is one
dot or two. -/
structure Verbatim (path : List Char) : Prop where
  kept : ∀ c ∈ path, keptInPath c = true
  dotless : ∀ segment ∈ path.splitOn '/', isOneDot segment = false ∧ isTwoDots segment = false

/-- A path behind which more segments are written. -/
structure Open (path : List Char) : Prop where
  verbatim : Verbatim path
  headed : path.head? = some '/'
  ended : ∃ front, path = front ++ ['/']

theorem keptInPath_iff {c : Char} :
    keptInPath c = true ↔ c.toNat < 0x80 ∧ escapedInPath c = false ∧ c ≠ '\\' := by
  simp [keptInPath, and_assoc]

theorem verbatim_iff (path : List Char) :
    (path.all keptInPath && (path.splitOn '/').all fun segment =>
      !isOneDot segment && !isTwoDots segment) = true ↔ Verbatim path := by
  simp only [Bool.and_eq_true, List.all_eq_true, Bool.not_eq_true']
  exact ⟨fun ⟨kept, dotless⟩ => ⟨kept, dotless⟩, fun ⟨kept, dotless⟩ => ⟨kept, dotless⟩⟩

instance (path : List Char) : Decidable (Verbatim path) := decidable_of_iff _ (verbatim_iff path)

example : Verbatim "/a/b%20c/...".toList ∧ ¬ Verbatim "/a/%2E./b".toList := by decide

theorem verbatim_nil : Verbatim [] where
  kept := nofun
  dotless := by
    intro segment listed
    rw [List.mem_singleton.mp listed]
    decide

theorem verbatim_append {front rest : List Char} :
    Verbatim (front ++ '/' :: rest) ↔ Verbatim front ∧ Verbatim rest := by
  have slash : keptInPath '/' = true := by decide
  constructor
  · rintro ⟨kept, dotless⟩
    rw [List.splitOn_append_cons_self] at dotless
    obtain ⟨kept, kept'⟩ := List.forall_mem_append.mp kept
    obtain ⟨dotless, dotless'⟩ := List.forall_mem_append.mp dotless
    exact ⟨⟨kept, dotless⟩, ⟨(List.forall_mem_cons.mp kept').2, dotless'⟩⟩
  · rintro ⟨⟨kept, dotless⟩, ⟨kept', dotless'⟩⟩
    constructor
    case kept => exact List.forall_mem_append.mpr ⟨kept, List.forall_mem_cons.mpr ⟨slash, kept'⟩⟩
    case dotless =>
      rw [List.splitOn_append_cons_self]
      exact List.forall_mem_append.mpr ⟨dotless, dotless'⟩

/-! ### Reading leaves nothing to be read otherwise -/

theorem keptInPath_hexDigit (n : Nat) : keptInPath (hexDigit n) = true ∧ hexDigit n ≠ '/' := by
  have digits : ∀ n < 16, keptInPath (hexDigit n) = true ∧ hexDigit n ≠ '/' := by decide
  have same : hexDigit n = hexDigit (n % 16) := by
    unfold hexDigit
    rw [Nat.mod_mod]
  rw [same]
  exact digits _ (Nat.mod_lt n (by decide))

theorem kept_encode {cs : List Char} (plain : ∀ c ∈ cs, isSlash true c = false) {c : Char}
    (member : c ∈ encode escapedInPath cs) : keptInPath c = true ∧ c ≠ '/' := by
  obtain ⟨d, within, here⟩ := List.mem_flatMap.mp member
  have slashless := plain d within
  simp only [isSlash, Bool.true_and, Bool.or_eq_false_iff, decide_eq_false_iff_not] at slashless
  unfold encodeChar at here
  split at here
  · next itself =>
    rw [List.mem_singleton.mp here]
    simp only [Bool.and_eq_true] at itself
    exact ⟨by simp [keptInPath, itself, slashless], slashless.1⟩
  · obtain ⟨byte, -, digit⟩ := List.mem_flatMap.mp here
    simp only [encodeByte, List.mem_cons, List.not_mem_nil, or_false] at digit
    rcases digit with rfl | rfl | rfl
    · decide
    · exact keptInPath_hexDigit _
    · exact keptInPath_hexDigit _

theorem verbatim_segment {segment : List Char}
    (plain : ∀ c ∈ segment, keptInPath c = true ∧ c ≠ '/')
    (one : isOneDot segment = false) (two : isTwoDots segment = false) : Verbatim segment where
  kept := fun c member => (plain c member).1
  dotless := by
    have slashless : '/' ∉ segment := fun member => (plain '/' member).2 rfl
    intro other listed
    rw [List.splitOn_eq_singleton slashless, List.mem_singleton] at listed
    exact listed ▸ ⟨one, two⟩

theorem upToSlash_append {front rest : List Char} (slashless : '/' ∉ rest) :
    upToSlash (front ++ '/' :: rest) = front ++ ['/'] := by
  have passed : ∀ c ∈ rest.reverse, decide (c ≠ '/') = true := by
    intro c member
    exact decide_eq_true fun slash => slashless (slash ▸ List.mem_reverse.mp member)
  have turned : (front ++ '/' :: rest).reverse = rest.reverse ++ '/' :: front.reverse := by simp
  rw [upToSlash, turned, List.dropWhile_append_of_pos passed]
  simp

theorem exists_last_slash {path : List Char} (slash : '/' ∈ path) :
    ∃ front rest, path = front ++ '/' :: rest ∧ '/' ∉ rest := by
  obtain ⟨rest, front, turned, first⟩ := List.eq_append_cons_of_mem (List.mem_reverse.mpr slash)
  refine ⟨front.reverse, rest.reverse, ?_, fun member => first (List.mem_reverse.mp member)⟩
  rw [List.reverse_eq_iff.mp turned]
  simp

theorem open_upToSlash {path : List Char} (verbatim : Verbatim path)
    (headed : path.head? = some '/') : Open (upToSlash path) := by
  obtain ⟨front, rest, rfl, slashless⟩ := exists_last_slash (List.mem_of_head? headed)
  rw [upToSlash_append slashless]
  refine ⟨verbatim_append.mpr ⟨(verbatim_append.mp verbatim).1, verbatim_nil⟩, ?_, front, rfl⟩
  cases front with
  | nil => rfl
  | cons first front => exact headed

section
variable {path : List Char}

theorem Open.endsWithSlash (opened : Open path) : endsWithSlash path = true := by
  obtain ⟨front, rfl⟩ := opened.ended
  simp [Uri.endsWithSlash]

theorem Open.shorten (opened : Open path) : Open (shorten path) := by
  unfold Uri.shorten
  dsimp only
  split
  · next inner =>
    obtain ⟨front, rfl⟩ := opened.ended
    have before := (verbatim_append.mp opened.verbatim).1
    rw [List.dropLast_concat] at inner ⊢
    simp only [Bool.and_eq_true, List.contains_eq_mem, decide_eq_true_eq] at inner
    obtain ⟨first, front, rfl⟩ := List.exists_cons_of_ne_nil (List.ne_nil_of_mem inner.1.2)
    exact open_upToSlash before opened.headed
  · exact open_upToSlash opened.verbatim opened.headed

theorem Open.head?_append (opened : Open path) (rest : List Char) :
    (path ++ rest).head? = some '/' := by
  rw [List.head?_append, opened.headed, Option.some_or]

theorem Open.append (opened : Open path) {rest : List Char} (verbatim : Verbatim rest) :
    Verbatim (path ++ rest) := by
  obtain ⟨front, rfl⟩ := opened.ended
  rw [List.append_assoc, List.singleton_append]
  exact verbatim_append.mpr ⟨(verbatim_append.mp opened.verbatim).1, verbatim⟩

theorem Open.addSegment_slash (opened : Open path) {segment : List Char}
    (plain : ∀ c ∈ segment, keptInPath c = true ∧ c ≠ '/') :
    Open (addSegment path segment true) := by
  unfold addSegment
  split
  · have shorter := opened.shorten
    simpa [shorter.endsWithSlash] using shorter
  · next two =>
    split
    · rwa [if_pos opened.endsWithSlash]
    · next one =>
      have segment := verbatim_segment plain (Bool.eq_false_iff.mpr one) (Bool.eq_false_iff.mpr two)
      have closed := verbatim_append.mpr ⟨segment, verbatim_nil⟩
      rw [if_pos rfl, List.append_assoc]
      exact ⟨opened.append closed, opened.head?_append _, _, (List.append_assoc _ _ _).symm⟩

theorem Open.addSegment_last (opened : Open path) {segment : List Char}
    (plain : ∀ c ∈ segment, keptInPath c = true ∧ c ≠ '/') :
    Verbatim (addSegment path segment false) ∧
      (addSegment path segment false).head? = some '/' := by
  unfold addSegment
  split
  · exact ⟨opened.shorten.verbatim, opened.shorten.headed⟩
  · next two =>
    split
    · rw [if_pos opened.endsWithSlash]
      exact ⟨opened.verbatim, opened.headed⟩
    · next one =>
      have segment := verbatim_segment plain (Bool.eq_false_iff.mpr one) (Bool.eq_false_iff.mpr two)
      rw [if_neg Bool.false_ne_true, List.append_nil]
      exact ⟨opened.append segment, opened.head?_append _⟩

theorem Open.addSegments (opened : Open path) {segments : List (List Char)}
    (plain : ∀ segment ∈ segments, ∀ c ∈ segment, isSlash true c = false) :
    Verbatim (addSegments path segments) ∧ (addSegments path segments).head? = some '/' := by
  induction path, segments using addSegments.induct with
  | case1 path => exact ⟨opened.verbatim, opened.headed⟩
  | case2 path last =>
    exact opened.addSegment_last fun c => kept_encode (plain last List.mem_cons_self)
  | case3 path segment rest more ih =>
    obtain ⟨here, others⟩ := List.forall_mem_cons.mp plain
    rw [Uri.addSegments]
    · exact ih (opened.addSegment_slash fun c => kept_encode here) others
    · exact more

end

theorem open_root : Open ['/'] where
  verbatim := verbatim_append.mpr ⟨verbatim_nil, verbatim_nil⟩
  headed := rfl
  ended := ⟨[], rfl⟩

theorem verbatim_pathOf (cs : List Char) :
    Verbatim (pathOf true cs) ∧ (pathOf true cs).head? = some '/' := by
  cases cs with
  | nil => exact ⟨open_root.verbatim, rfl⟩
  | cons c rest =>
    exact open_root.addSegments fun segment listed d within => (mem_of_mem_splitOnP listed within).2

/-! ### Such a path is read as it is -/

theorem splitOnP_congr {α : Type} {p q : α → Bool} {cs : List α} (same : ∀ c ∈ cs, p c = q c) :
    cs.splitOnP p = cs.splitOnP q := by
  induction cs with
  | nil => rfl
  | cons c rest ih =>
    obtain ⟨here, others⟩ := List.forall_mem_cons.mp same
    rw [List.splitOnP_cons_eq_if_modifyHead, List.splitOnP_cons_eq_if_modifyHead, here, ih others]

theorem addSegments_verbatim (path : List Char) {segments : List (List Char)}
    (filled : segments ≠ [])
    (plain : ∀ segment ∈ segments, (∀ c ∈ segment, keptInPath c = true) ∧
      isOneDot segment = false ∧ isTwoDots segment = false) :
    addSegments path segments = path ++ ['/'].intercalate segments := by
  -- Nothing in these segments is escaped, and none of them is dropped or goes back.
  have added : ∀ segment ∈ segments, ∀ path slash,
      addSegment path (encode escapedInPath segment) slash =
        path ++ segment ++ (if slash then ['/'] else []) := by
    intro segment listed path slash
    obtain ⟨kept, one, two⟩ := plain segment listed
    have itself : encode escapedInPath segment = segment := encode_eq_self fun c within =>
      (keptInPath_iff.mp (kept c within)).imp_right And.left
    simp [addSegment, itself, one, two]
  induction path, segments using addSegments.induct with
  | case1 path => exact absurd rfl filled
  | case2 path last => simp [addSegments, added]
  | case3 path segment rest more ih =>
    obtain ⟨here, others⟩ := List.forall_mem_cons.mp plain
    obtain ⟨here', others'⟩ := List.forall_mem_cons.mp added
    obtain ⟨next, rest, rfl⟩ := List.exists_cons_of_ne_nil more
    rw [addSegments, ih (List.cons_ne_nil _ _) others others', here']
    · simp
    · exact more

section
variable {path : List Char}

theorem pathOf_verbatim (verbatim : Verbatim path) (headed : path.head? = some '/') :
    pathOf true path = path := by
  cases path with
  | nil => cases headed
  | cons slash rest =>
    cases headed
    have behind : Verbatim rest := by
      rw [← List.nil_append ('/' :: rest)] at verbatim
      exact (verbatim_append.mp verbatim).2
    have pieces : rest.splitOnP (isSlash true) = rest.splitOn '/' := by
      rw [List.splitOn_eq_splitOnP]
      refine splitOnP_congr fun c member => ?_
      have plain := (keptInPath_iff.mp (behind.kept c member)).2.2
      simp [isSlash, plain, beq_eq_decide]
    show addSegments ['/'] (rest.splitOnP (isSlash true)) = '/' :: rest
    rw [pieces, addSegments_verbatim _ (List.splitOn_ne_nil '/' rest), List.intercalate_splitOn]
    · rfl
    · intro segment listed
      exact ⟨fun c within => behind.kept c (mem_of_mem_splitOn listed within),
        behind.dotless segment listed⟩

theorem beforeQuery_verbatim (verbatim : Verbatim path) : beforeQuery (tidied path) = path := by
  have plain : ∀ c, keptInPath c = true → 0x20 < c.toNat ∧ (c ≠ '?' && c ≠ '#') = true := by
    intro c kept
    refine ascii_cases (motive := fun c => keptInPath c = true →
      0x20 < c.toNat ∧ (c ≠ '?' && c ≠ '#') = true) ?_ (keptInPath_iff.mp kept).1 kept
    decide
  have whole := tidied_append (fun c member => (plain c (verbatim.kept c member)).1) []
  rw [List.append_nil] at whole
  rw [whole, show tidied [] = [] from rfl, List.append_nil, beforeQuery,
    List.takeWhile_eq_self_iff]
  exact fun c member => (plain c (verbatim.kept c member)).2

end

end Telemetry.Uri
