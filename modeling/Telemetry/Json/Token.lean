import Telemetry.Json.Literal
import Telemetry.Text.Hex

/-!
Tokens of JSON text.
-/

set_option autoImplicit false

namespace Telemetry.Json

inductive Token where
  | openArray
  | closeArray
  | openObject
  | closeObject
  | comma
  | colon
  | null
  | bool (value : Bool)
  | num (literal : Literal)
  | str (spelling : Spelling)
  deriving DecidableEq

namespace Token

def isSpace (c : Char) : Bool := c = ' ' || c = '\n' || c = '\t' || c = '\r'

def unit? (a b c d : Char) : Option Nat := do
  let a ← Text.hexValue? a
  let b ← Text.hexValue? b
  let c ← Text.hexValue? c
  let d ← Text.hexValue? d
  return ((a * 16 + b) * 16 + c) * 16 + d

def escaped? : Char → Option Char
  | '"' => some '"'
  | '\\' => some '\\'
  | '/' => some '/'
  | 'b' => some '\x08'
  | 'f' => some '\x0c'
  | 'n' => some '\n'
  | 'r' => some '\r'
  | 't' => some '\t'
  | _ => none

/-- The rest of a string behind its opening quote, and what follows the closing one. -/
def spelling? : List Char → Option (Spelling × List Char)
  | '"' :: rest => some ([], rest)
  | '\\' :: 'u' :: a :: b :: c :: d :: rest => do
    let unit ← unit? a b c d
    let (spelling, after) ← spelling? rest
    return (.unit unit :: spelling, after)
  | '\\' :: c :: rest => do
    let c ← escaped? c
    let (spelling, after) ← spelling? rest
    return (.char c :: spelling, after)
  | c :: rest =>
    if c.toNat < 0x20 then none
    else (spelling? rest).map fun (spelling, after) => (.char c :: spelling, after)
  | [] => none

def digits (cs : List Char) : List Nat × List Char :=
  ((cs.takeWhile Char.isDigit).map (·.toNat - 48), cs.dropWhile Char.isDigit)

def fraction? : List Char → Option (List Nat × List Char)
  | '.' :: rest =>
    match digits rest with
    | ([], _) => none
    | found => some found
  | cs => some ([], cs)

def exponentDigits? (cs : List Char) : Option (Nat × List Char) :=
  match digits cs with
  | ([], _) => none
  | (ds, rest) => some (ofDigits ds, rest)

def exponent? (cs : List Char) : Option (Option Int × List Char) :=
  match cs with
  | c :: rest =>
    if c = 'e' ∨ c = 'E' then
      match rest with
      | '-' :: rest => (exponentDigits? rest).map fun (n, after) => (some (-n), after)
      | '+' :: rest => (exponentDigits? rest).map fun (n, after) => (some n, after)
      | rest => (exponentDigits? rest).map fun (n, after) => (some n, after)
    else some (none, cs)
  | [] => some (none, [])

/-- A number whose sign has been read; no zero stands before another digit. -/
def literal? (negative : Bool) (cs : List Char) : Option (Literal × List Char) :=
  match digits cs with
  | ([], _) | (0 :: _ :: _, _) => none
  | (whole, rest) => do
    let (fraction, rest) ← fraction? rest
    let (exponent, rest) ← exponent? rest
    return (⟨negative, whole, fraction, exponent⟩, rest)

def first? (c : Char) (rest : List Char) : Option (Token × List Char) :=
  match c with
  | '[' => some (openArray, rest)
  | ']' => some (closeArray, rest)
  | '{' => some (openObject, rest)
  | '}' => some (closeObject, rest)
  | ',' => some (comma, rest)
  | ':' => some (colon, rest)
  | '"' => (spelling? rest).map fun (spelling, after) => (str spelling, after)
  | 'n' => (['u', 'l', 'l'].isPrefixOf? rest).map fun after => (null, after)
  | 't' => (['r', 'u', 'e'].isPrefixOf? rest).map fun after => (bool true, after)
  | 'f' => (['a', 'l', 's', 'e'].isPrefixOf? rest).map fun after => (bool false, after)
  | '-' => (literal? true rest).map fun (literal, after) => (num literal, after)
  | c => (literal? false (c :: rest)).map fun (literal, after) => (num literal, after)

theorem isPrefixOf?_length {α : Type} [BEq α] {front cs rest : List α}
    (found : front.isPrefixOf? cs = some rest) : rest.length ≤ cs.length := by
  induction front generalizing cs with
  | nil => exact Nat.le_of_eq (congrArg List.length (Option.some.inj found).symm)
  | cons c front ih =>
    cases cs with
    | nil => cases found
    | cons d cs =>
      change (if c == d then front.isPrefixOf? cs else none) = some rest at found
      split at found
      · exact Nat.le_succ_of_le (ih found)
      · cases found

theorem spelling?_length {cs : List Char} {spelling : Spelling} {rest : List Char}
    (found : spelling? cs = some (spelling, rest)) : rest.length < cs.length := by
  fun_induction spelling? cs generalizing spelling with
  | case1 => simp_all
  | case2 a b c d tail ih =>
    simp only [Option.bind_eq_bind, Option.bind_eq_some_iff] at found
    obtain ⟨_, _, ⟨_, _⟩, inner, same⟩ := found
    cases same
    have := ih inner
    simp only [List.length_cons] at this ⊢
    omega
  | case3 c tail _ ih =>
    simp only [Option.bind_eq_bind, Option.bind_eq_some_iff] at found
    obtain ⟨_, _, ⟨_, _⟩, inner, same⟩ := found
    cases same
    have := ih inner
    simp only [List.length_cons] at this ⊢
    omega
  | case4 => cases found
  | case5 c tail _ _ _ _ ih =>
    simp only [Option.map_eq_some_iff] at found
    obtain ⟨⟨_, _⟩, inner, same⟩ := found
    cases same
    have := ih inner
    simp only [List.length_cons] at this ⊢
    omega
  | case6 => cases found

theorem digits_length (cs : List Char) :
    (digits cs).1.length + (digits cs).2.length = cs.length := by
  simp only [digits, List.length_map]
  rw [← List.length_append, List.takeWhile_append_dropWhile]

theorem fraction?_length {cs rest : List Char} {ds : List Nat}
    (found : fraction? cs = some (ds, rest)) : rest.length ≤ cs.length := by
  unfold fraction? at found
  split at found
  · next tail =>
    have := digits_length tail
    split at found
    · cases found
    · simp only [Option.some.injEq] at found
      rw [found] at this
      simp only [List.length_cons] at *
      omega
  · cases found
    exact Nat.le_refl _

theorem exponentDigits?_length {cs rest : List Char} {n : Nat}
    (found : exponentDigits? cs = some (n, rest)) : rest.length ≤ cs.length := by
  have := digits_length cs
  unfold exponentDigits? at found
  split at found
  · cases found
  · next same =>
    cases found
    rw [same] at this
    simp only at this
    omega

theorem exponent?_length {cs rest : List Char} {n : Option Int}
    (found : exponent? cs = some (n, rest)) : rest.length ≤ cs.length := by
  unfold exponent? at found
  split at found
  · split at found
    · split at found <;>
      · simp only [Option.map_eq_some_iff] at found
        obtain ⟨⟨_, _⟩, inner, same⟩ := found
        cases same
        have := exponentDigits?_length inner
        simp only [List.length_cons] at *
        omega
    · cases found
      exact Nat.le_refl _
  · cases found
    exact Nat.le_refl _

theorem literal?_length {negative : Bool} {cs rest : List Char} {literal : Literal}
    (found : literal? negative cs = some (literal, rest)) : rest.length < cs.length := by
  have := digits_length cs
  unfold literal? at found
  split at found
  · cases found
  · cases found
  · next whole tail empty _ same =>
    simp only [Option.bind_eq_bind, Option.bind_eq_some_iff] at found
    obtain ⟨⟨_, _⟩, first, ⟨_, _⟩, second, same'⟩ := found
    cases same'
    have first := fraction?_length first
    have second := exponent?_length second
    rw [same] at this
    cases whole with
    | nil => exact absurd rfl empty
    | cons d ds =>
      simp only [List.length_cons] at *
      omega

theorem first?_length {c : Char} {cs rest : List Char} {token : Token}
    (found : first? c cs = some (token, rest)) : rest.length ≤ cs.length := by
  unfold first? at found
  split at found <;> first
    | (cases found; exact Nat.le_refl _)
    | (simp only [Option.map_eq_some_iff] at found
       obtain ⟨_, inner, same⟩ := found
       cases same
       first
         | exact isPrefixOf?_length inner
         | exact Nat.le_of_lt (spelling?_length inner)
         | exact Nat.le_of_lt (literal?_length inner)
         | exact Nat.le_of_lt_succ (literal?_length inner))

def all? (cs : List Char) : Option (List Token) :=
  match cs with
  | [] => some []
  | c :: rest =>
    if isSpace c then all? rest
    else
      match found : first? c rest with
      | none => none
      | some (token, after) =>
        have := first?_length found
        (all? after).map (token :: ·)
termination_by cs.length

end Token

end Telemetry.Json
