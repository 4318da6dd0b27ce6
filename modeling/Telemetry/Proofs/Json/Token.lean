import Mathlib.Data.List.Basic
import Mathlib.Data.List.TakeWhile
import Telemetry.Json.Token

/-!
Tokens of texts that are put together.

What is read as a token is a front of the text, and the token is read from that front whatever
follows it, as long as what follows does not go on with a number. This holds of each part of a
token and passes to what is read part after part. So a text and what follows it have the tokens of
the one and then those of the other.
-/

set_option autoImplicit false

namespace Telemetry.Json.Token

/-- A text that does not go on with a number. -/
def Closes (rest : List Char) : Prop :=
  ∀ c ∈ rest.head?, c.isDigit = false ∧ c ≠ '.' ∧ c ≠ 'e' ∧ c ≠ 'E'

theorem closes_cons {c : Char} (rest : List Char)
    (apart : c.isDigit = false ∧ c ≠ '.' ∧ c ≠ 'e' ∧ c ≠ 'E') : Closes (c :: rest) := by
  rintro d member
  cases Option.mem_some.mp member
  exact apart

/-- Another text that may follow in the place of one: it begins alike, if it goes on with a
number at all. -/
def MayReplace (after rest : List Char) : Prop :=
  ∀ c ∈ rest.head?, after.head? = some c ∨ (c.isDigit = false ∧ c ≠ '.' ∧ c ≠ 'e' ∧ c ≠ 'E')

theorem mayReplace_shortened {after rest : List Char} (short : rest <+: after) :
    MayReplace after rest := by
  intro c first
  obtain ⟨more, rfl⟩ := short
  cases rest with
  | nil => cases first
  | cons d rest => exact .inl first

theorem mayReplace_append {after rest : List Char} (closes : after = [] → Closes rest) :
    MayReplace after (after ++ rest) := by
  intro c first
  cases after with
  | nil => exact .inr (closes rfl c first)
  | cons d after => exact .inl first

theorem MayReplace.behind {after rest : List Char} (may : MayReplace after rest)
    (front : List Char) : MayReplace (front ++ after) (front ++ rest) := by
  cases front with
  | nil => exact may
  | cons d front => exact fun c first => .inl first

/-! ### Readings of a front -/

/-- What is read from a text is read from a front of it, whatever may follow in the place of the
rest. -/
def Local {α : Type} (read : List Char → Option (α × List Char)) : Prop :=
  ∀ ⦃cs x after⦄, read cs = some (x, after) →
    ∃ front, cs = front ++ after ∧
      ∀ rest, MayReplace after rest → read (front ++ rest) = some (x, rest)

section
variable {α β : Type} {read : List Char → Option (α × List Char)}

theorem local_none : Local fun _ => (none : Option (α × List Char)) := nofun

theorem local_pure (x : α) : Local fun cs => some (x, cs) := by
  rintro cs _ _ ⟨⟩
  exact ⟨[], rfl, fun _ _ => rfl⟩

theorem Local.map (isLocal : Local read) (f : α → β) :
    Local fun cs => (read cs).map fun (x, after) => (f x, after) := by
  intro cs y after found
  obtain ⟨⟨x, rest⟩, inner, same⟩ := Option.map_eq_some_iff.mp found
  cases same
  obtain ⟨front, split, again⟩ := isLocal inner
  refine ⟨front, split, fun rest may => ?_⟩
  dsimp only
  rw [again rest may]
  rfl

theorem Local.bind (first : Local read) {next : α → List Char → Option (β × List Char)}
    (second : ∀ x, Local (next x)) :
    Local fun cs => (read cs).bind fun (x, after) => next x after := by
  intro cs y after found
  obtain ⟨⟨x, between⟩, inner, outer⟩ := Option.bind_eq_some_iff.mp found
  obtain ⟨front, rfl, again⟩ := first inner
  obtain ⟨middle, rfl, later⟩ := second x outer
  refine ⟨front ++ middle, (List.append_assoc ..).symm, fun rest may => ?_⟩
  dsimp only
  rw [List.append_assoc, again _ (may.behind middle)]
  exact later rest may

theorem Local.cons {c : Char} (isLocal : Local fun cs => read (c :: cs)) {cs after : List Char}
    {x : α} (found : read (c :: cs) = some (x, after)) :
    ∃ front, c :: cs = front ++ after ∧
      ∀ rest, MayReplace after rest → read (front ++ rest) = some (x, rest) := by
  obtain ⟨front, rfl, again⟩ := isLocal found
  exact ⟨c :: front, rfl, again⟩

end

/-! ### Numbers -/

theorem local_digits : Local fun cs => some (digits cs) := by
  intro cs ds after found
  cases found
  refine ⟨cs.takeWhile Char.isDigit, List.takeWhile_append_dropWhile.symm, fun rest may => ?_⟩
  -- What may follow is empty or does not begin with a digit, as what did follow.
  have ended : rest.takeWhile Char.isDigit = [] ∧ rest.dropWhile Char.isDigit = rest := by
    cases rest with
    | nil => exact ⟨rfl, rfl⟩
    | cons c rest =>
      have other : c.isDigit = false := by
        rcases may c rfl with alike | ⟨apart, -⟩
        · have stopped := List.head?_dropWhile_not Char.isDigit cs
          rwa [alike] at stopped
        · exact apart
      exact ⟨List.takeWhile_cons_of_neg (by simp [other]),
        List.dropWhile_cons_of_neg (by simp [other])⟩
  have all : ∀ c ∈ cs.takeWhile Char.isDigit, c.isDigit = true := fun c => List.mem_takeWhile_imp
  simp [digits, List.takeWhile_append_of_pos all, List.dropWhile_append_of_pos all, ended]

theorem local_some_digits {α : Type} (f : List Nat → α) : Local fun cs =>
    match digits cs with
    | ([], _) => none
    | (ds, after) => some (f ds, after) := by
  have behind : ∀ ds : List Nat, Local fun after =>
      if ds = [] then none else some (f ds, after) := by
    intro ds
    split
    · exact local_none
    · exact local_pure _
  convert local_digits.bind behind using 2 with cs
  cases digits cs with
  | mk ds after => cases ds <;> rfl

theorem local_exponentDigits? : Local exponentDigits? := local_some_digits ofDigits

theorem fraction?_of_ne {cs : List Char} (other : ∀ c ∈ cs.head?, c ≠ '.') :
    fraction? cs = some ([], cs) := by
  cases cs with
  | nil => rfl
  | cons c cs =>
    rw [fraction?]
    exact fun _ same => other c rfl (List.cons.inj same).1

theorem local_fraction? : Local fraction? := by
  intro cs ds after found
  by_cases point : ∃ behind, cs = '.' :: behind
  · obtain ⟨behind, rfl⟩ := point
    refine Local.cons ?_ found
    convert local_some_digits id using 2 with cs
    rw [fraction?]
    cases digits cs with
    | mk ds after => cases ds <;> rfl
  · have other : ∀ c ∈ cs.head?, c ≠ '.' := by
      rintro c first rfl
      exact point (List.head?_eq_some_iff.mp first)
    rw [fraction?_of_ne other] at found
    cases found
    refine ⟨[], rfl, fun rest may => fraction?_of_ne fun c first => ?_⟩
    rcases may c first with alike | ⟨-, apart, -⟩
    · exact other c alike
    · exact apart

theorem local_power : Local fun cs =>
    match cs with
    | '-' :: rest => (exponentDigits? rest).map fun (n, after) => (some (-(n : Int)), after)
    | '+' :: rest => (exponentDigits? rest).map fun (n, after) => (some (n : Int), after)
    | rest => (exponentDigits? rest).map fun (n, after) => (some (n : Int), after) := by
  have unsigned := local_exponentDigits?.map fun n => some (n : Int)
  have negative := local_exponentDigits?.map fun n => some (-(n : Int))
  intro cs power after found
  dsimp only at found ⊢
  -- With a sign, or without: then what follows cannot bring one in front.
  split at found
  · obtain ⟨front, rfl, again⟩ := negative found
    exact ⟨'-' :: front, rfl, again⟩
  · obtain ⟨front, rfl, again⟩ := unsigned found
    exact ⟨'+' :: front, rfl, again⟩
  · next minus plus =>
    obtain ⟨front, same, again⟩ := unsigned found
    cases front with
    | nil => cases again [] nofun
    | cons c front =>
      refine ⟨c :: front, same, fun rest may => ?_⟩
      have later := again rest may
      rw [List.cons_append] at same later ⊢
      split
      · next signed =>
        cases (List.cons.inj signed).1
        exact absurd same (minus _)
      · next signed =>
        cases (List.cons.inj signed).1
        exact absurd same (plus _)
      · exact later

theorem exponent?_of_ne {cs : List Char} (other : ∀ c ∈ cs.head?, c ≠ 'e' ∧ c ≠ 'E') :
    exponent? cs = some (none, cs) := by
  cases cs with
  | nil => rfl
  | cons c cs => exact if_neg (not_or.mpr (other c rfl))

theorem local_exponent? : Local exponent? := by
  intro cs power after found
  by_cases marked : ∃ c behind, cs = c :: behind ∧ (c = 'e' ∨ c = 'E')
  · obtain ⟨c, behind, rfl, mark⟩ := marked
    refine Local.cons ?_ found
    convert local_power using 2 with cs
    exact if_pos mark
  · have other : ∀ c ∈ cs.head?, c ≠ 'e' ∧ c ≠ 'E' := by
      intro c first
      obtain ⟨behind, rfl⟩ := List.head?_eq_some_iff.mp first
      exact not_or.mp fun mark => marked ⟨c, behind, rfl, mark⟩
    rw [exponent?_of_ne other] at found
    cases found
    refine ⟨[], rfl, fun rest may => exponent?_of_ne fun c first => ?_⟩
    rcases may c first with alike | ⟨-, -, apart⟩
    · exact other c alike
    · exact apart

theorem local_literal? (negative : Bool) : Local (literal? negative) := by
  intro cs literal after found
  unfold literal? at found
  split at found
  · cases found
  · cases found
  · next whole rest some_digit no_zero split =>
    obtain ⟨front, rfl, again⟩ := local_digits (congrArg some split)
    have parts := local_fraction?.bind fun fraction =>
      local_exponent?.bind fun exponent => local_pure (Literal.mk negative whole fraction exponent)
    obtain ⟨middle, rfl, later⟩ := parts found
    refine ⟨front ++ middle, (List.append_assoc ..).symm, fun rest may => ?_⟩
    have start : digits (front ++ (middle ++ rest)) = (whole, middle ++ rest) :=
      Option.some.inj (again _ (may.behind middle))
    rw [List.append_assoc, literal?, start]
    split
    · next same => exact (some_digit (Prod.mk.inj same).1).elim
    · next same => exact (no_zero _ _ (Prod.mk.inj same).1).elim
    · next same =>
      cases same
      exact later rest may

/-! ### Tokens -/

theorem local_isPrefixOf? (word : List Char) (token : Token) :
    Local fun cs => (word.isPrefixOf? cs).map fun after => (token, after) := by
  intro cs x after found
  obtain ⟨rest, inner, same⟩ := Option.map_eq_some_iff.mp found
  cases same
  refine ⟨word, (List.isPrefixOf?_eq_some_iff_append_eq.mp inner).symm, fun rest _ => ?_⟩
  dsimp only
  rw [List.isPrefixOf?_eq_some_iff_append_eq.mpr rfl]
  rfl

theorem local_spelling? : Local spelling? := by
  intro cs spelling after found
  -- By the steps of the reader: each takes a character or an escape, which then stands before the
  -- front.
  fun_induction spelling? cs generalizing spelling with
  | case1 tail =>
    cases found
    exact ⟨['"'], rfl, fun rest _ => by rw [List.singleton_append, spelling?]⟩
  | case2 a b c d tail ih =>
    simp only [Option.bind_eq_bind, Option.bind_eq_some_iff] at found
    obtain ⟨unit, named, ⟨_, _⟩, inner, same⟩ := found
    cases same
    obtain ⟨front, rfl, again⟩ := ih inner
    refine ⟨'\\' :: 'u' :: a :: b :: c :: d :: front, rfl, fun rest may => ?_⟩
    simp only [List.cons_append, spelling?, named, again rest may]
    rfl
  | case3 c tail _ ih =>
    simp only [Option.bind_eq_bind, Option.bind_eq_some_iff] at found
    obtain ⟨stands, escaped, ⟨_, _⟩, inner, same⟩ := found
    cases same
    obtain ⟨front, rfl, again⟩ := ih inner
    -- The escape of a code point is none of the one-letter ones, so it is not read instead of this.
    have letter : c ≠ 'u' := by
      rintro rfl
      cases escaped
    refine ⟨'\\' :: c :: front, rfl, fun rest may => ?_⟩
    simp only [List.cons_append]
    rw [spelling?]
    · simp only [escaped, again rest may]
      rfl
    · exact fun _ _ _ _ _ same => absurd same letter
  | case4 => cases found
  | case5 c tail quote _ escape large ih =>
    obtain ⟨⟨_, _⟩, inner, same⟩ := Option.map_eq_some_iff.mp found
    cases same
    -- A reverse slash can only begin an escape.
    have plain : c ≠ '\\' := by
      rintro rfl
      cases tail with
      | nil => cases inner
      | cons d tail => exact escape d tail rfl rfl
    obtain ⟨front, rfl, again⟩ := ih inner
    refine ⟨c :: front, rfl, fun rest may => ?_⟩
    simp only [List.cons_append]
    rw [spelling?]
    · rw [if_neg large, again rest may]
      rfl
    · exact quote
    · exact fun _ _ _ _ _ same => absurd same plain
    · exact fun _ _ same => absurd same plain
  | case6 => cases found

theorem local_first? (c : Char) : Local (first? c) := by
  intro cs token after found
  unfold first? at found
  split at found
  case h_7 => exact (local_spelling?.map Token.str) found
  case h_8 | h_9 | h_10 => exact local_isPrefixOf? _ _ found
  case h_11 => exact ((local_literal? true).map Token.num) found
  case h_12 =>
    obtain ⟨⟨literal, _⟩, inner, same⟩ := Option.map_eq_some_iff.mp found
    cases same
    -- The first digit belongs to the number, so it is not behind what is read.
    obtain ⟨front, split, again⟩ := local_literal? false inner
    cases front with
    | nil => cases again [] nofun
    | cons d front =>
      obtain ⟨rfl, rfl⟩ := List.cons.inj split
      refine ⟨front, rfl, fun rest may => ?_⟩
      rw [first?]
      · rw [← List.cons_append, again rest may]
        rfl
      all_goals assumption
  all_goals
    cases found
    exact ⟨[], rfl, fun _ _ => rfl⟩

theorem all?_cons {c : Char} {cs after : List Char} {token : Token}
    (space : isSpace c = false) (first : first? c cs = some (token, after)) :
    all? (c :: cs) = (all? after).map (token :: ·) := by
  rw [all?, if_neg (by simp [space])]
  split
  · next none =>
    rw [first] at none
    cases none
  · next same =>
    rw [first, Option.some.injEq, Prod.mk.injEq] at same
    obtain ⟨rfl, rfl⟩ := same
    rfl

theorem all?_append {cs rest : List Char} {tokens : List Token} (closes : Closes rest)
    (found : all? cs = some tokens) : all? (cs ++ rest) = (all? rest).map (tokens ++ ·) := by
  fun_induction all? cs generalizing tokens with
  | case1 =>
    cases found
    simp
  | case2 c cs space ih =>
    rw [List.cons_append, all?, if_pos space]
    exact ih found
  | case3 c cs space none => cases found
  | case4 c cs space token after first _ ih =>
    obtain ⟨later, inner, rfl⟩ := Option.map_eq_some_iff.mp found
    obtain ⟨front, rfl, again⟩ := local_first? c first
    -- What comes behind a token that is not the last begins as before.
    have start := again (after ++ rest) (mayReplace_append fun _ => closes)
    rw [List.cons_append, List.append_assoc, all?_cons (by simpa using space) start, ih inner,
      Option.map_map]
    rfl

theorem all?_mark {cs : List Char} {row : List Token} (read : all? cs = some row)
    (mark : Char) (token : Token)
    (apart : mark.isDigit = false ∧ mark ≠ '.' ∧ mark ≠ 'e' ∧ mark ≠ 'E')
    (space : isSpace mark = false) (first : ∀ rest, first? mark rest = some (token, rest))
    (rest : List Char) :
    all? (cs ++ mark :: rest) = (all? rest).map (row ++ token :: ·) := by
  rw [all?_append (closes_cons rest apart) read, all?_cons space (first rest), Option.map_map]
  rfl

theorem all?_comma {cs rest : List Char} {row later : List Token}
    (read : all? cs = some row) (behind : all? rest = some later) :
    all? (cs ++ [','] ++ rest) = some (row ++ [comma] ++ later) := by
  have together := all?_mark read ',' comma (by decide) rfl (fun _ => rfl) rest
  rw [behind] at together
  simpa using together

end Telemetry.Json.Token
