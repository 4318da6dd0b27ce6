import Mathlib.Data.List.TakeWhile
import Telemetry.Json.Printer
import Telemetry.Proofs.Json.Token

/-!
Strings and integers as they are written.

Each is written as one token, and the token stands for what was written: control characters
come back from their escapes, and the digits of an integer that fits from their row.
-/

set_option autoImplicit false

namespace Telemetry.Json

/-! Strings -/

def Piece.ofChar (c : Char) : Piece :=
  if c.toNat < 0x20 ∧ c ∉ ['\x08', '\x0c', '\n', '\r', '\t'] then .unit c.toNat else .char c

def Spelling.ofText (text : String) : Spelling := text.toList.map Piece.ofChar

theorem Spelling.chars?_unit {unit : Nat} (small : unit < 0xD800) (rest : Spelling) :
    chars? (.unit unit :: rest) = (chars? rest).map (Char.ofNat unit :: ·) := by
  have alone : charOfUnit? unit = some (Char.ofNat unit) := if_pos (.inl small)
  cases rest with
  | nil =>
    simp only [chars?, alone]
    rfl
  | cons piece rest =>
    cases piece with
    | unit trailing => simp only [chars?, alone]
    | char c =>
      simp only [chars?, alone]
      cases chars? rest <;> rfl

theorem Spelling.chars?_map_ofChar (cs : List Char) :
    chars? (cs.map Piece.ofChar) = some cs := by
  induction cs with
  | nil => rfl
  | cons c cs ih =>
    rw [List.map_cons, Piece.ofChar]
    split
    · next control =>
      rw [chars?_unit (by omega), ih, Char.ofNat_toNat]
      rfl
    · rw [chars?, ih]
      rfl

theorem Spelling.text?_ofText (text : String) : (ofText text).text? = some text := by
  rw [text?, ofText, chars?_map_ofChar]
  exact congrArg some String.ofList_toList

namespace Token

theorem unit?_control : ∀ n < 32,
    unit? '0' '0' (Nat.digitChar (n / 16)) (Nat.digitChar (n % 16)) = some n := by
  decide

theorem spelling?_escape (c : Char) (cs : List Char) :
    spelling? (escape c ++ cs) =
      (spelling? cs).map fun (spelling, after) => (Piece.ofChar c :: spelling, after) := by
  have letter : ∀ letter stands : Char, letter ≠ 'u' → escaped? letter = some stands →
      Piece.ofChar stands = .char stands →
      spelling? ('\\' :: letter :: cs) =
        (spelling? cs).map fun (spelling, after) => (Piece.ofChar stands :: spelling, after) := by
    intro letter stands other escaped plain
    rw [spelling?, escaped, plain]
    · cases spelling? cs <;> rfl
    · exact fun _ _ _ _ _ same => absurd same other
  -- Seven characters have a letter; of the others only the control characters are escaped.
  unfold escape
  split
  case h_8 quote slash back feed line ret tab =>
    split
    · next control =>
      have named : c ∉ ['\x08', '\x0c', '\n', '\r', '\t'] := by
        simp only [List.mem_cons, List.not_mem_nil, or_false, not_or]
        exact ⟨back, feed, line, ret, tab⟩
      have spelled : Piece.ofChar c = .unit c.toNat := if_pos ⟨control, named⟩
      simp only [List.cons_append, List.nil_append, spelling?, unit?_control c.toNat control,
        spelled]
      cases spelling? cs <;> rfl
    · next visible =>
      have spelled : Piece.ofChar c = .char c := if_neg fun control => visible control.1
      rw [List.singleton_append, spelling?, if_neg visible, spelled]
      · exact quote
      · exact fun _ _ _ _ _ same => absurd same slash
      · exact fun _ _ same => absurd same slash
  all_goals exact letter _ _ (by decide) rfl (by decide)

theorem spelling?_escapes (cs rest : List Char) :
    spelling? (cs.flatMap escape ++ '"' :: rest) = some (cs.map Piece.ofChar, rest) := by
  induction cs with
  | nil =>
    rw [List.flatMap_nil, List.nil_append, spelling?]
    rfl
  | cons c cs ih =>
    rw [List.flatMap_cons, List.append_assoc, spelling?_escape, ih]
    rfl

theorem all?_stringText (text : String) (rest : List Char) :
    all? (stringText text ++ rest) = (all? rest).map (.str (Spelling.ofText text) :: ·) := by
  have spelled : first? '"' (text.toList.flatMap escape ++ '"' :: rest) =
      some (.str (Spelling.ofText text), rest) := by
    rw [first?, spelling?_escapes]
    rfl
  have whole : stringText text ++ rest =
      '"' :: (text.toList.flatMap escape ++ '"' :: rest) := by
    simp [stringText]
  rw [whole, all?_cons rfl spelled]

end Token

/-! Integers -/

def digitsOf (n : Nat) : List Nat := (Nat.toDigits 10 n).map (·.toNat - 48)

theorem digitsOf_eq_if (n : Nat) :
    digitsOf n = if n < 10 then [n] else digitsOf (n / 10) ++ [n % 10] := by
  have digit : ∀ d < 10, (Nat.digitChar d).toNat - 48 = d := by decide
  rw [digitsOf, Nat.toDigits_eq_if (by decide)]
  split
  · next small => rw [List.map_singleton, digit n small]
  · rw [List.map_append, List.map_singleton, digit (n % 10) (by omega), digitsOf]

theorem ofDigits_digitsOf (n : Nat) : ofDigits (digitsOf n) = n := by
  induction n using Nat.strongRecOn with
  | ind n ih =>
    rw [digitsOf_eq_if]
    split
    · simp [ofDigits]
    · have front : ofDigits (digitsOf (n / 10)) = n / 10 := ih (n / 10) (by omega)
      rw [ofDigits] at front ⊢
      rw [List.foldl_append, front, List.foldl_cons, List.foldl_nil]
      omega

theorem digitsOf_ne_nil (n : Nat) : digitsOf n ≠ [] := by
  rw [digitsOf, Ne, List.map_eq_nil_iff]
  exact Nat.toDigits_ne_nil

theorem digitsOf_ne_zero_cons (n d : Nat) (ds : List Nat) : digitsOf n ≠ 0 :: d :: ds := by
  induction n using Nat.strongRecOn generalizing d ds with
  | ind n ih =>
    rw [digitsOf_eq_if]
    split
    · simp
    · next large =>
      cases front : digitsOf (n / 10) with
      | nil => exact absurd front (digitsOf_ne_nil _)
      | cons first more =>
        -- A zero in front could only be all that stands before the last digit.
        intro same
        obtain ⟨rfl, rest⟩ := List.cons.inj same
        cases more with
        | nil =>
          have value := ofDigits_digitsOf (n / 10)
          rw [front] at value
          change 0 = n / 10 at value
          omega
        | cons second more => exact ih (n / 10) (by omega) second more front

def Literal.ofInt (n : Int) : Literal where
  negative := n < 0
  whole := digitsOf n.natAbs
  fraction := []
  exponent := none

theorem Literal.number?_ofInt {n : Int} (low : -2 ^ 63 ≤ n) (high : n < 2 ^ 64) :
    (ofInt n).number? = some (.int n) := by
  unfold number? ofInt
  simp only [ofDigits_digitsOf, and_self, if_true]
  by_cases negative : n < 0
  · have same : -(n.natAbs : Int) = n := by omega
    rw [if_neg (by simp [negative]), if_pos (by simp [negative]; omega), same]
  · have same : (n.natAbs : Int) = n := by omega
    rw [if_pos (by simp [negative]; omega), same]

namespace Token

theorem literal?_toDigits (negative : Bool) (n : Nat) :
    literal? negative (Nat.toDigits 10 n) = some (⟨negative, digitsOf n, [], none⟩, []) := by
  have all_digits : ∀ c ∈ Nat.toDigits 10 n, c.isDigit = true := fun c member =>
    Nat.isDigit_of_mem_toDigits (by decide) (by decide) member
  have row : digits (Nat.toDigits 10 n) = (digitsOf n, []) := by
    unfold digits
    rw [List.takeWhile_eq_self_iff.mpr all_digits, List.dropWhile_eq_nil_iff.mpr all_digits]
    rfl
  unfold literal?
  rw [row]
  split
  · next same => exact absurd (Prod.mk.inj same).1 (digitsOf_ne_nil n)
  · next same => exact absurd (Prod.mk.inj same).1 (digitsOf_ne_zero_cons n _ _)
  · next same =>
    cases same
    rfl

theorem first?_digit {c : Char} (digit : c.isDigit = true) (rest : List Char) :
    first? c rest =
      (literal? false (c :: rest)).map fun (literal, after) => (num literal, after) := by
  unfold first?
  split
  case h_12 => rfl
  all_goals exact absurd digit (by decide)

theorem isSpace_digit {c : Char} (digit : c.isDigit = true) : isSpace c = false := by
  rw [Bool.eq_false_iff]
  intro space
  simp only [isSpace, Bool.or_eq_true, decide_eq_true_eq] at space
  rcases space with ((rfl | rfl) | rfl) | rfl <;> exact absurd digit (by decide)

theorem all?_int (n : Int) : all? (toString n).toList = some [.num (Literal.ofInt n)] := by
  rw [Int.toString_eq_repr, Int.repr_eq_if]
  split
  · next positive =>
    have sign : decide (n < 0) = false := by simpa using positive
    have same : n.toNat = n.natAbs := by omega
    rw [Nat.toList_repr, same]
    cases row : Nat.toDigits 10 n.natAbs with
    | nil => exact absurd row Nat.toDigits_ne_nil
    | cons c cs =>
      have digit : c.isDigit = true :=
        Nat.isDigit_of_mem_toDigits (by decide) (by decide) (row ▸ List.mem_cons_self)
      have read := literal?_toDigits false n.natAbs
      rw [row] at read
      have first : first? c cs = some (.num (Literal.ofInt n), []) := by
        rw [first?_digit digit, read, Literal.ofInt, sign]
        rfl
      rw [all?_cons (isSpace_digit digit) first, all?]
      rfl
  · next negative =>
    have sign : decide (n < 0) = true := by simpa using negative
    have same : (-n).toNat = n.natAbs := by omega
    have first : first? '-' (Nat.toDigits 10 n.natAbs) =
        some (.num (Literal.ofInt n), []) := by
      rw [first?, literal?_toDigits, Literal.ofInt, sign]
      rfl
    rw [String.toList_append, Nat.toList_repr, same]
    show all? ('-' :: Nat.toDigits 10 n.natAbs) = _
    rw [all?_cons rfl first, all?]
    rfl

end Token

end Telemetry.Json
