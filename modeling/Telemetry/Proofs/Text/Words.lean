import Mathlib.Data.List.Chain
import Mathlib.Data.List.DropRight
import Mathlib.Data.List.TakeWhile
import Telemetry.Text.Blank

/-!
Texts and their words.

A text put together from words with single spaces has these words again, no blank at its ends and
no two blanks side by side.
-/

set_option autoImplicit false

namespace Telemetry.Text

/-- A word is not empty and holds no blank. -/
structure IsWord (piece : List Char) : Prop where
  filled : piece ≠ []
  solid : ∀ c ∈ piece, isBlank c = false

theorem isWord_of_all {piece : List Char} (filled : piece ≠ [])
    (solid : piece.all (fun c => !isBlank c) = true) : IsWord piece :=
  ⟨filled, by simpa using solid⟩

section
variable {cs front rest word : List Char} {c : Char} {pieces : List (List Char)}

/-! ### Cutting -/

/-- A text is solid, or a solid front, a blank and a text. -/
theorem blank_induction {motive : List Char → Prop}
    (solid : ∀ cs : List Char, (∀ c ∈ cs, isBlank c = false) → motive cs)
    (cut : ∀ (front : List Char) (c : Char) (rest : List Char),
      (∀ d ∈ front, isBlank d = false) → isBlank c = true → motive rest →
        motive (front ++ c :: rest))
    (cs : List Char) : motive cs := by
  -- The front ends at the first blank, and what is behind that blank is shorter than the text.
  by_cases blank : ∃ c ∈ cs, isBlank c = true
  · obtain ⟨c, member, blank⟩ := blank
    let front := cs.takeWhile fun c => !isBlank c
    have apart : front ++ cs.dropWhile (fun c => !isBlank c) = cs := List.takeWhile_append_dropWhile
    have plain : ∀ d ∈ front, isBlank d = false := fun d inside => by
      simpa using List.mem_takeWhile_imp inside
    cases behind : cs.dropWhile fun c => !isBlank c with
    | nil =>
      have whole := List.dropWhile_eq_nil_iff.mp behind c member
      simp [blank] at whole
    | cons d rest =>
      have first : isBlank d = true := by
        have head := List.head?_dropWhile_not (fun c => !isBlank c) cs
        rw [behind] at head
        simpa using head
      rw [behind] at apart
      have shorter : rest.length < cs.length := by
        rw [← apart]
        simp only [List.length_append, List.length_cons]
        omega
      rw [← apart]
      exact cut front d rest plain first (blank_induction solid cut rest)
  · refine solid cs fun c member => Bool.eq_false_iff.mpr fun blank' => blank ⟨c, member, blank'⟩
termination_by cs.length

theorem words_append_cons (blank : isBlank c = true) (front rest : List Char) :
    words (front ++ c :: rest) = words front ++ words rest := by
  rw [words, List.splitOnP_append_cons front rest blank, List.filter_append]
  rfl

theorem words_solid (solid : ∀ c ∈ cs, isBlank c = false) :
    words cs = if cs = [] then [] else [cs] := by
  rw [words, List.splitOnP_eq_singleton solid]
  cases cs <;> rfl

theorem IsWord.words (whole : IsWord word) : words word = [word] := by
  rw [words_solid whole.solid, if_neg whole.filled]

theorem of_mem_words (member : word ∈ words cs) : IsWord word ∧ word <:+: cs := by
  induction cs using blank_induction with
  | solid cs solid =>
    rw [words_solid solid] at member
    split at member
    · cases member
    · next filled =>
      rw [List.mem_singleton.mp member]
      exact ⟨⟨filled, solid⟩, List.infix_rfl⟩
  | cut front c rest solid blank ih =>
    rw [words_append_cons blank, List.mem_append] at member
    rcases member with before | behind
    · rw [words_solid solid] at before
      split at before
      · cases before
      · next filled =>
        rw [List.mem_singleton.mp before]
        exact ⟨⟨filled, solid⟩, (List.prefix_append _ _).isInfix⟩
    · obtain ⟨whole, within⟩ := ih behind
      exact ⟨whole, within.trans ((List.suffix_cons c rest).trans (List.suffix_append _ _)).isInfix⟩

/-! ### Putting together -/

theorem unwords_cons_cons (first second : List Char) (pieces : List (List Char)) :
    unwords (first :: second :: pieces) = first ++ ' ' :: unwords (second :: pieces) := by
  rw [unwords, List.intercalate_cons_cons, List.append_assoc]
  rfl

theorem words_unwords (whole : ∀ piece ∈ pieces, IsWord piece) :
    words (unwords pieces) = pieces := by
  induction pieces with
  | nil => rfl
  | cons first pieces ih =>
    obtain ⟨here, others⟩ := List.forall_mem_cons.mp whole
    cases pieces with
    | nil => simpa [unwords] using here.words
    | cons second pieces =>
      rw [unwords_cons_cons, words_append_cons rfl, here.words, ih others]
      rfl

theorem unwords_inj {others : List (List Char)} (whole : ∀ piece ∈ pieces, IsWord piece)
    (whole' : ∀ piece ∈ others, IsWord piece) :
    unwords pieces = unwords others ↔ pieces = others := by
  constructor
  · intro same
    rw [← words_unwords whole, same, words_unwords whole']
  · rintro rfl
    rfl

theorem head?_unwords (whole : ∀ piece ∈ pieces, IsWord piece) :
    (unwords pieces).head? = pieces.head?.bind List.head? := by
  cases pieces with
  | nil => rfl
  | cons first pieces =>
    cases pieces with
    | nil => simp [unwords]
    | cons second pieces =>
      obtain ⟨d, tail, rfl⟩ :=
        List.exists_cons_of_ne_nil (whole first List.mem_cons_self).filled
      simp [unwords_cons_cons]

theorem getLast?_unwords (whole : ∀ piece ∈ pieces, IsWord piece) :
    (unwords pieces).getLast? = pieces.getLast?.bind List.getLast? := by
  induction pieces with
  | nil => rfl
  | cons first pieces ih =>
    obtain ⟨-, others⟩ := List.forall_mem_cons.mp whole
    cases pieces with
    | nil => simp [unwords]
    | cons second pieces =>
      have filled : unwords (second :: pieces) ≠ [] := by
        intro empty
        have none := words_unwords others
        rw [empty] at none
        cases none
      rw [unwords_cons_cons, List.getLast?_append_of_ne_nil _ (List.cons_ne_nil _ _),
        List.getLast?_cons_of_ne_nil filled, ih others, List.getLast?_cons_cons]

theorem isChain_unwords {near : Char → Char → Prop}
    (inner : ∀ piece ∈ pieces, List.IsChain near piece)
    (beside : ∀ piece ∈ pieces, ∀ c ∈ piece, near c ' ' ∧ near ' ' c)
    (whole : ∀ piece ∈ pieces, IsWord piece) : List.IsChain near (unwords pieces) := by
  induction pieces with
  | nil => exact List.isChain_nil
  | cons first pieces ih =>
    obtain ⟨here, others⟩ := List.forall_mem_cons.mp inner
    obtain ⟨besides, beside'⟩ := List.forall_mem_cons.mp beside
    have whole' := (List.forall_mem_cons.mp whole).2
    cases pieces with
    | nil => simpa [unwords] using here
    | cons second pieces =>
      -- Where two words meet there is a space, which has a character of a word on either side.
      have behind : List.IsChain near (' ' :: unwords (second :: pieces)) := by
        refine List.isChain_cons.mpr ⟨fun d headed => ?_, ih others beside' whole'⟩
        rw [head?_unwords whole'] at headed
        exact (beside' second List.mem_cons_self d (List.mem_of_mem_head? headed)).2
      rw [unwords_cons_cons]
      refine List.isChain_append.mpr ⟨here, behind, fun d last e headed => ?_⟩
      rw [← Option.some.inj headed]
      exact (besides d (List.mem_of_mem_getLast? last)).1

theorem eq_space_of_mem_unwords (whole : ∀ piece ∈ pieces, IsWord piece)
    (member : c ∈ unwords pieces) (blank : isBlank c = true) : c = ' ' := by
  induction pieces with
  | nil => cases member
  | cons first pieces ih =>
    obtain ⟨here, others⟩ := List.forall_mem_cons.mp whole
    have elsewhere : c ∉ first := fun inside => by simp [here.solid c inside] at blank
    cases pieces with
    | nil =>
      rw [unwords, List.intercalate_singleton] at member
      exact absurd member elsewhere
    | cons second pieces =>
      rw [unwords_cons_cons, List.mem_append, List.mem_cons] at member
      exact (member.resolve_left elsewhere).elim id fun behind => ih others behind

/-! ### Ends -/

/-- A text without blanks at its ends. -/
structure Bare (cs : List Char) : Prop where
  first : ∀ c ∈ cs.head?, isBlank c = false
  last : ∀ c ∈ cs.getLast?, isBlank c = false

theorem last_trimEnd {cs : List Char} (ended : c ∈ (trimEnd cs).getLast?) : isBlank c = false := by
  have filled : trimEnd cs ≠ [] := List.getLast?_isSome.mp (Option.isSome_of_mem ended)
  rw [List.getLast?_eq_some_getLast filled] at ended
  rw [← Option.some.inj ended]
  exact Bool.eq_false_iff.mpr (List.rdropWhile_last_not isBlank cs filled)

theorem bare_trim (cs : List Char) : Bare (trim cs) where
  first c headed := by
    have front : trim cs <+: trimStart cs := List.rdropWhile_prefix isBlank (trimStart cs)
    obtain ⟨behind, whole⟩ := front
    have head := List.head?_dropWhile_not isBlank cs
    rw [← trimStart, ← whole, List.head?_append, headed] at head
    simpa using head
  last _ := last_trimEnd

theorem trim_eq_self_iff : trim cs = cs ↔ Bare cs := by
  constructor
  · intro same
    rw [← same]
    exact bare_trim cs
  · rintro ⟨first, last⟩
    have front : trimStart cs = cs := by
      rw [trimStart, List.dropWhile_eq_self_iff]
      intro filled
      simpa using first _ (List.head?_eq_getElem? ▸ List.getElem?_eq_getElem filled)
    rw [trim, front]
    refine List.rdropWhile_eq_self_iff.mpr fun filled => ?_
    simpa using last _ (List.getLast?_eq_some_getLast filled)

theorem bare_unwords (whole : ∀ piece ∈ pieces, IsWord piece) : Bare (unwords pieces) where
  first c headed := by
    rw [head?_unwords whole] at headed
    obtain ⟨piece, listed, inside⟩ := Option.bind_eq_some_iff.mp headed
    exact (whole piece (List.mem_of_mem_head? listed)).solid c (List.mem_of_mem_head? inside)
  last c ended := by
    rw [getLast?_unwords whole] at ended
    obtain ⟨piece, listed, inside⟩ := Option.bind_eq_some_iff.mp ended
    exact (whole piece (List.mem_of_mem_getLast? listed)).solid c (List.mem_of_mem_getLast? inside)

end

end Telemetry.Text
