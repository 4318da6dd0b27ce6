import Telemetry.Proofs.Log.Payload
import Telemetry.Proofs.Text.Words

/-!
Exit descriptions, cleaned.

Main statement: whatever an exit description says, cleaning brings it on one line, with single
spaces and without list marks. One heading is taken off; what is left begins with a heading again,
or is changed by cleaning once more, exactly if a second heading stood behind the first, or if text
is fused to the colon of a heading.
-/

set_option autoImplicit false

namespace Telemetry.Log

open Text

/-- No line break or tab is spelled out by a character and the next. -/
def Apart (c d : Char) : Prop := ¬ (c = '\\' ∧ (d = 'n' ∨ d = 't'))

/-- A text on one line, with single spaces and without list marks. -/
structure Tidy (text : List Char) : Prop where
  trimmed : trim text = text
  spaces : ∀ c ∈ text, isBlank c = true → c = ' '
  single : ∀ c d, [c, d] <:+: text → ¬ (isBlank c = true ∧ isBlank d = true)
  unescaped : ∀ c d, [c, d] <:+: text → Apart c d
  unmarked : ['*'] ∉ words text

/-- A text that begins with a heading: a number, `error` or `error(s)`, and `occurred:`. -/
inductive Headed : List Char → Prop where
  | intro {count mark rest : List Char} : count ≠ [] → (∀ c ∈ count, c.isDigit = true) →
      mark ∈ ["error".toList, "error(s)".toList] →
      Headed (count ++ ' ' :: (mark ++ ' ' :: ("occurred:".toList ++ rest)))

def gist (description : List Char) : List (List Char) :=
  (words (flattenEscapes description)).filter (· ≠ ['*'])

inductive Heading : List (List Char) → List (List Char) → Prop where
  | intro {count mark : List Char} {behind : List (List Char)} : (∀ c ∈ count, c.isDigit = true) →
      "error".toList <+: mark → Heading (count :: mark :: "occurred:".toList :: behind) behind

/-- Words that begin with a heading to whose colon more may be fused. -/
inductive Begins : List (List Char) → Prop where
  | intro {count mark last : List Char} {behind : List (List Char)} :
      (∀ c ∈ count, c.isDigit = true) → mark ∈ ["error".toList, "error(s)".toList] →
      "occurred:".toList <+: last → Begins (count :: mark :: last :: behind)

structure Plain (word : List Char) : Prop where
  whole : IsWord word
  unescaped : List.IsChain Apart word
  unmarked : word ≠ ['*']

section
variable {cs description : List Char} {given behind rest : List (List Char)}

/-! ### Spelled out line breaks and tabs -/

theorem head?_flattenEscapes {c : Char} (headed : c ∈ (flattenEscapes cs).head?) :
    c = ' ' ∨ cs.head? = some c := by
  fun_cases flattenEscapes cs with
  | case1 | case2 => exact .inl (Option.some.inj headed).symm
  | case3 c rest newline tab =>
    rw [flattenEscapes] at headed
    · exact .inr headed
    · exact newline
    · exact tab
  | case4 => cases headed

theorem isChain_flattenEscapes (cs : List Char) : List.IsChain Apart (flattenEscapes cs) := by
  have space : ∀ d, Apart ' ' d := fun d => by simp [Apart]
  fun_induction flattenEscapes cs with
  | case1 rest ih | case2 rest ih => exact List.isChain_cons.mpr ⟨fun d _ => space d, ih⟩
  | case3 c rest newline tab ih =>
    refine List.isChain_cons.mpr ⟨fun d headed => ?_, ih⟩
    rintro ⟨rfl, letter⟩
    rcases head?_flattenEscapes headed with rfl | same
    · simp at letter
    · obtain ⟨tail, rfl⟩ := List.head?_eq_some_iff.mp same
      rcases letter with rfl | rfl
      · exact newline _ rfl rfl
      · exact tab _ rfl rfl
  | case4 => exact List.isChain_nil

theorem flattenEscapes_eq_self (apart : List.IsChain Apart cs) : flattenEscapes cs = cs := by
  fun_induction flattenEscapes cs with
  | case1 rest ih => exact absurd ⟨rfl, .inl rfl⟩ (List.isChain_cons_cons.mp apart).1
  | case2 rest ih => exact absurd ⟨rfl, .inr rfl⟩ (List.isChain_cons_cons.mp apart).1
  | case3 c rest newline tab ih => rw [ih (List.isChain_cons.mp apart).2]
  | case4 => rfl

/-! ### Words that cleaning leaves alone -/

theorem plain_gist : ∀ word ∈ gist description, Plain word := by
  intro word listed
  obtain ⟨member, unmarked⟩ := List.mem_filter.mp listed
  obtain ⟨whole, within⟩ := of_mem_words member
  have unescaped := List.IsChain.infix (isChain_flattenEscapes description) within
  exact ⟨whole, unescaped, of_decide_eq_true unmarked⟩

theorem isChain_unwords_plain (plain : ∀ word ∈ given, Plain word) :
    List.IsChain Apart (unwords given) := by
  refine isChain_unwords (fun word listed => (plain word listed).unescaped) ?_
    fun word listed => (plain word listed).whole
  exact fun word listed c inside => ⟨by simp [Apart], by simp [Apart]⟩

theorem gist_unwords (plain : ∀ word ∈ given, Plain word) : gist (unwords given) = given := by
  rw [gist, flattenEscapes_eq_self (isChain_unwords_plain plain),
    words_unwords fun word listed => (plain word listed).whole, List.filter_eq_self]
  exact fun word listed => decide_eq_true (plain word listed).unmarked

theorem tidy_unwords (plain : ∀ word ∈ given, Plain word) : Tidy (unwords given) := by
  have whole : ∀ word ∈ given, IsWord word := fun word listed => (plain word listed).whole
  have single : List.IsChain (fun c d => ¬ (isBlank c = true ∧ isBlank d = true))
      (unwords given) := by
    have solid : ∀ word ∈ given, ∀ c ∈ word, ¬ isBlank c = true := fun word listed c inside =>
      Bool.eq_false_iff.mp ((whole word listed).solid c inside)
    -- Of two neighbours one is in a word, where nothing is blank.
    refine isChain_unwords (fun word listed => ?_) (fun word listed c inside => ?_) whole
    · refine List.Pairwise.isChain (List.pairwise_of_forall_mem_list fun c inside d _ => ?_)
      exact fun both => solid word listed c inside both.1
    · exact ⟨fun both => solid word listed c inside both.1,
        fun both => solid word listed c inside both.2⟩
  constructor
  case trimmed => exact trim_eq_self_iff.mpr (bare_unwords whole)
  case spaces => exact fun c => eq_space_of_mem_unwords whole
  case single =>
    intro c d pair
    have chained := List.IsChain.infix single pair
    exact List.isChain_pair.mp chained
  case unescaped =>
    intro c d pair
    have chained := List.IsChain.infix (isChain_unwords_plain plain) pair
    exact List.isChain_pair.mp chained
  case unmarked =>
    rw [words_unwords whole]
    exact fun listed => (plain _ listed).unmarked rfl

/-! ### Headings -/

theorem dropHeading_cases (given : List (List Char)) :
    Heading given (dropHeading given) ∨
      dropHeading given = given ∧ ∀ behind, ¬ Heading given behind := by
  fun_cases dropHeading given with
  | case1 first second third rest found =>
    simp only [Bool.and_eq_true, List.all_eq_true, decide_eq_true_eq,
      List.isPrefixOf_iff_prefix] at found
    obtain ⟨⟨digits, mark⟩, rfl⟩ := found
    exact .inl ⟨digits, mark⟩
  | case2 first second third rest other =>
    refine .inr ⟨rfl, ?_⟩
    rintro _ ⟨digits, mark⟩
    simp only [List.all_eq_true.mpr digits, List.isPrefixOf_iff_prefix.mpr mark, Bool.true_and,
      decide_true, not_true_eq_false] at other
  | case3 words short =>
    refine .inr ⟨rfl, ?_⟩
    rintro _ ⟨⟩
    exact short _ _ _ _ rfl

theorem Heading.dropHeading (heading : Heading given behind) : dropHeading given = behind := by
  rcases dropHeading_cases given with found | ⟨-, none⟩
  · generalize Log.dropHeading given = dropped at found
    cases heading
    cases found
    rfl
  · exact absurd heading (none behind)

theorem dropHeading_eq_self_iff : dropHeading given = given ↔ ∀ behind, ¬ Heading given behind := by
  constructor
  · rintro same _ ⟨digits, mark⟩
    rw [(Heading.intro digits mark).dropHeading] at same
    have longer := congrArg List.length same
    simp only [List.length_cons] at longer
    omega
  · intro none
    exact (dropHeading_cases given).elim (absurd · (none _)) And.left

theorem plain_dropHeading (plain : ∀ word ∈ given, Plain word) :
    ∀ word ∈ dropHeading given, Plain word := by
  rcases dropHeading_cases given with found | ⟨same, -⟩
  · generalize dropHeading given = dropped at found
    cases found
    exact fun word listed => plain word (by simp [listed])
  · rwa [same]

theorem cleanExit_unwords (plain : ∀ word ∈ given, Plain word) :
    cleanExit (unwords given) = unwords (dropHeading given) :=
  congrArg (fun words => unwords (dropHeading words)) (gist_unwords plain)

theorem words_append {word : List Char} (whole : IsWord word) (rest : List Char) :
    ∃ tail others, words (word ++ rest) = (word ++ tail) :: others := by
  induction rest using blank_induction with
  | solid rest solid =>
    have joined : IsWord (word ++ rest) :=
      ⟨by simp [whole.filled], List.forall_mem_append.mpr ⟨whole.solid, solid⟩⟩
    exact ⟨rest, [], joined.words⟩
  | cut front c rest solid blank ih =>
    have joined : IsWord (word ++ front) :=
      ⟨by simp [whole.filled], List.forall_mem_append.mpr ⟨whole.solid, solid⟩⟩
    refine ⟨front, words rest, ?_⟩
    rw [← List.append_assoc, words_append_cons blank, joined.words]
    rfl

theorem isWord_mark {mark : List Char} (listed : mark ∈ ["error".toList, "error(s)".toList]) :
    IsWord mark := by
  have either : ∀ mark ∈ ["error".toList, "error(s)".toList],
      mark ≠ [] ∧ mark.all (fun c => !isBlank c) = true := by decide
  exact isWord_of_all (either mark listed).1 (either mark listed).2

theorem headed_unwords_iff (whole : ∀ word ∈ given, IsWord word) :
    Headed (unwords given) ↔ Begins given := by
  constructor
  · generalize spelled : unwords given = text
    rintro ⟨filled, digits, listed⟩
    next count mark rest =>
    have last : IsWord "occurred:".toList := isWord_of_all (by decide) (by decide)
    obtain ⟨tail, others, first⟩ := words_append last rest
    have number : IsWord count := ⟨filled, fun c inside => isBlank_of_isDigit (digits c inside)⟩
    -- Both texts are taken apart into words, of which the first three are the heading.
    have split := congrArg words spelled
    rw [words_unwords whole, words_append_cons rfl, words_append_cons rfl, number.words,
      (isWord_mark listed).words, first] at split
    rw [split]
    exact ⟨digits, listed, List.prefix_append _ _⟩
  · rintro ⟨digits, listed, ⟨tail, rfl⟩⟩
    next count mark behind =>
    have filled := (whole count (by simp)).filled
    have spelled : ∃ rest, unwords (("occurred:".toList ++ tail) :: behind) =
        "occurred:".toList ++ rest := by
      cases behind with
      | nil => exact ⟨tail, List.intercalate_singleton⟩
      | cons next behind =>
        exact ⟨_, (unwords_cons_cons _ _ _).trans (List.append_assoc _ _ _)⟩
    obtain ⟨rest, spelled⟩ := spelled
    rw [unwords_cons_cons, unwords_cons_cons, spelled]
    exact ⟨filled, digits, listed⟩

end

/-- Cleaning brings any description on one line, with single spaces and without list marks. What is
left is clean for good unless the description has a second heading behind its first, and it begins
with a heading only then or where text is fused to the colon of a heading. -/
theorem cleanExit_exact (description : List Char) :
    Tidy (cleanExit description) ∧
      (cleanExit (cleanExit description) = cleanExit description ↔
        ¬ ∃ behind rest, Heading (gist description) behind ∧ Heading behind rest) ∧
      (Headed (cleanExit description) ↔
        (∃ behind, Heading (gist description) behind ∧ Begins behind) ∨
          Begins (gist description) ∧ ∀ behind, ¬ Heading (gist description) behind) := by
  have plain : ∀ word ∈ dropHeading (gist description), Plain word :=
    plain_dropHeading plain_gist
  have whole : ∀ {given : List (List Char)}, (∀ word ∈ given, Plain word) →
      ∀ word ∈ given, IsWord word := fun plain word listed => (plain word listed).whole
  -- What was cleaned consists of plain words, so a second cleaning can only drop another heading.
  have again : cleanExit (cleanExit description) =
      unwords (dropHeading (dropHeading (gist description))) :=
    cleanExit_unwords plain
  have once : cleanExit description = unwords (dropHeading (gist description)) := rfl
  refine ⟨tidy_unwords plain, ?_, ?_⟩
  · rw [again, once, unwords_inj (whole (plain_dropHeading plain)) (whole plain),
      dropHeading_eq_self_iff]
    rcases dropHeading_cases (gist description) with found | ⟨same, none⟩
    · constructor
      · rintro none ⟨behind, rest, first, second⟩
        exact none rest (first.dropHeading ▸ second)
      · exact fun never rest second => never ⟨_, rest, found, second⟩
    · rw [same]
      exact ⟨fun _ ⟨behind, _, first, _⟩ => none behind first, fun _ => none⟩
  · rw [once, headed_unwords_iff (whole plain)]
    rcases dropHeading_cases (gist description) with found | ⟨same, none⟩
    · constructor
      · exact fun begins => .inl ⟨_, found, begins⟩
      · rintro (⟨behind, first, begins⟩ | ⟨-, none⟩)
        · exact first.dropHeading ▸ begins
        · exact absurd found (none _)
    · rw [same]
      exact ⟨fun begins => .inr ⟨begins, none⟩, fun either =>
        either.elim (fun ⟨behind, first, _⟩ => absurd first (none behind)) And.left⟩

/-- An error that lists the errors of another. -/
theorem cleanExit_nested :
    let said := "1 error occurred:\n\t* 2 error(s) occurred:\n\n* boom\n* bang".toList
    cleanExit said = "2 error(s) occurred: boom bang".toList ∧ Headed (cleanExit said) ∧
      cleanExit (cleanExit said) ≠ cleanExit said := by
  intro said
  have cleaned : cleanExit said = "2 error(s) occurred: boom bang".toList := by decide +kernel
  have changed : cleanExit (cleanExit said) ≠ cleanExit said := by decide +kernel
  have digits : ∀ c ∈ ['2'], c.isDigit = true := by simp
  refine ⟨cleaned, ?_, changed⟩
  rw [cleaned]
  exact @Headed.intro ['2'] "error(s)".toList " boom bang".toList nofun digits (.tail _ (.head _))

end Telemetry.Log
