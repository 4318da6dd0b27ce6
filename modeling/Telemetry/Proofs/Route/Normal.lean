import Telemetry.Proofs.Route.Reception
import Telemetry.Proofs.Text.Words

/-!
Paths brought into normal form.

Blanks around a path are dropped first, then the slashes behind it. Main statement: what is left is
the root, or begins with a slash and does not end with one; but a blank before the slashes at the
end is stranded there, and exactly then the path ends with a blank and is not left alone when it is
brought into normal form again.
-/

set_option autoImplicit false

namespace Telemetry.Route

open Text (isBlank Bare)

/-- A blank stands before slashes at the end. -/
inductive Stranded (path : List Char) : Prop where
  | intro {front slashes : List Char} {c : Char} : Text.trim path = front ++ c :: slashes →
      isBlank c = true → slashes ≠ [] → (∀ d ∈ slashes, d = '/') → Stranded path

section
variable {path cs : List Char}

theorem trim_eq_trimPath_append (cs : List Char) :
    ∃ slashes, Text.trim cs = trimPath cs ++ slashes ∧ ∀ d ∈ slashes, d = '/' := by
  refine ⟨(Text.trim cs).rtakeWhile (· = '/'), List.rdropWhile_append_rtakeWhile.symm, ?_⟩
  intro d member
  simpa using List.mem_rtakeWhile_imp member

theorem trimPath_eq {front slashes : List Char} (trimmed : Text.trim cs = front ++ slashes)
    (other : front.getLast? ≠ some '/') (all : ∀ d ∈ slashes, d = '/') : trimPath cs = front := by
  have kept : front.rdropWhile (· = '/') = front := by
    refine List.rdropWhile_eq_self_iff.mpr fun filled slash => other ?_
    rw [List.getLast?_eq_some_getLast filled, of_decide_eq_true slash]
  have dropped : ∀ d ∈ slashes.reverse, decide (d = '/') = true := fun d member =>
    decide_eq_true (all d (List.mem_reverse.mp member))
  rw [trimPath, trimmed, Text.dropEndWhile, List.reverse_append, List.dropWhile_append_of_pos dropped]
  exact kept

theorem getLast?_normalChars (cs : List Char) :
    (normalChars cs).getLast? = (trimPath cs).getLast? := by
  unfold normalChars
  split
  · next root => rw [root]
  · next rest same => rw [same]
  · next filled _ => exact List.getLast?_cons_of_ne_nil filled

theorem head?_normalChars {c : Char} (headed : c ∈ (normalChars cs).head?) : c = '/' := by
  rcases normal_normalChars cs with root | ⟨slash, -⟩
  · rw [root] at headed
    cases headed
  · exact Option.some.inj (headed.symm.trans slash)

theorem stranded_iff :
    Stranded cs ↔ ∃ c ∈ (normalChars cs).getLast?, isBlank c = true := by
  rw [getLast?_normalChars]
  constructor
  · rintro ⟨trimmed, blank, -, all⟩
    next front slashes c =>
    have other : (front ++ [c]).getLast? ≠ some '/' := by
      rw [List.getLast?_concat]
      rintro ⟨⟩
      exact absurd blank (by decide)
    rw [trimPath_eq (trimmed.trans (List.append_cons _ _ _)) other all]
    exact ⟨c, List.getLast?_concat, blank⟩
  · rintro ⟨c, last, blank⟩
    obtain ⟨slashes, trimmed, all⟩ := trim_eq_trimPath_append cs
    obtain ⟨front, ended⟩ := List.getLast?_eq_some_iff.mp last
    rw [ended, List.append_assoc, List.singleton_append] at trimmed
    refine ⟨trimmed, blank, fun none => ?_, all⟩
    have bare := (Text.bare_trim cs).last c
    rw [trimmed, none] at bare
    exact absurd blank (Bool.eq_false_iff.mp (bare List.getLast?_concat))

theorem normalChars_prefix (headed : path.head? = some '/') :
    normalChars path <+: Text.trim path ∧ Text.trim path <+: path := by
  obtain ⟨rest, rfl⟩ := List.head?_eq_some_iff.mp headed
  have front : Text.trim ('/' :: rest) <+: '/' :: rest :=
    List.rdropWhile_prefix isBlank (Text.trimStart ('/' :: rest))
  obtain ⟨slashes, trimmed, -⟩ := trim_eq_trimPath_append ('/' :: rest)
  refine ⟨?_, front⟩
  rw [trimmed] at front ⊢
  cases kept : trimPath ('/' :: rest) with
  | nil =>
    rw [normalChars, kept]
    exact List.nil_prefix
  | cons d behind =>
    rw [kept, List.cons_append, List.cons_prefix_cons] at front
    obtain ⟨rfl, -⟩ := front
    rw [normalChars, kept]
    exact List.prefix_append _ _

theorem normalChars_eq_self_iff : normalChars path = path ↔ Normal path ∧ Bare path := by
  constructor
  · intro same
    have normal : Normal path := same ▸ normal_normalChars path
    refine ⟨normal, ?_⟩
    rcases normal with rfl | ⟨headed, -⟩
    · exact Text.trim_eq_self_iff.mp rfl
    · obtain ⟨longer, shorter⟩ := normalChars_prefix headed
      rw [same] at longer
      exact Text.trim_eq_self_iff.mp (shorter.eq_of_length_le longer.length_le)
  · rintro ⟨rfl | ⟨headed, last⟩, bare⟩
    · rfl
    · obtain ⟨rest, rfl⟩ := List.head?_eq_some_iff.mp headed
      have trimmed := Text.trim_eq_self_iff.mpr bare
      have whole := trimPath_eq (trimmed.trans (List.append_nil _).symm) last nofun
      rw [normalChars, whole]
      rfl

end

/-- A path in normal form is the root, or it begins with a slash and does not end with one. Unless
a blank is stranded before slashes at the end of the path, it does not end with a blank either and
is left alone when it is brought into normal form once more; if one is, neither holds. -/
theorem normalizePath_exact (path : String) :
    let key := normalizePath path
    Normal key.toList ∧ (∀ c ∈ key.toList.head?, isBlank c = false) ∧
      ((∀ c ∈ key.toList.getLast?, isBlank c = false) ↔ ¬ Stranded path.toList) ∧
      (normalizePath key = key ↔ ¬ Stranded path.toList) := by
  intro key
  have spelled : key.toList = normalChars path.toList := String.toList_ofList
  have normal : Normal key.toList := normal_normalizePath path
  have first : ∀ c ∈ key.toList.head?, isBlank c = false := by
    intro c headed
    rw [spelled] at headed
    rw [head?_normalChars headed]
    decide
  have last : (∀ c ∈ key.toList.getLast?, isBlank c = false) ↔ ¬ Stranded path.toList := by
    rw [spelled, stranded_iff]
    simp only [not_exists, not_and, Bool.not_eq_true]
  have again : normalizePath key = key ↔ normalChars key.toList = key.toList := by
    rw [← String.toList_inj, normalizePath, String.toList_ofList]
  refine ⟨normal, first, last, ?_⟩
  -- A path in normal form that neither begins nor ends with a blank is left alone.
  rw [again, normalChars_eq_self_iff, ← last]
  exact ⟨fun settled => settled.2.last, fun solid => ⟨normal, first, solid⟩⟩

/-- A blank between two slashes at the end. -/
theorem normalizePath_twice :
    normalizePath "/a /" = "/a " ∧ normalizePath (normalizePath "/a /") = "/a" ∧
      normalizePath "/ /" = "/ " ∧ normalizePath (normalizePath "/ /") = "" := by
  decide

end Telemetry.Route
