import Telemetry.Arithmetic

/-!
Blank characters and the cuts made at them.

A character is blank when Unicode gives it the property White_Space. Texts are lists of
characters here; trimming drops blanks from the ends, and the words of a text are its
longest runs without blanks.
-/

set_option autoImplicit false

namespace Telemetry.Text

/-- The characters with the property White_Space. -/
def isBlank (c : Char) : Bool :=
  let n := c.toNat
  (9 ≤ n && n ≤ 13) || n == 0x20 || n == 0x85 || n == 0xA0 || n == 0x1680 ||
    (0x2000 ≤ n && n ≤ 0x200A) || n == 0x2028 || n == 0x2029 || n == 0x202F ||
    n == 0x205F || n == 0x3000

def dropEndWhile {α : Type} (p : α → Bool) (cs : List α) : List α :=
  (cs.reverse.dropWhile p).reverse

def trimStart (cs : List Char) : List Char := cs.dropWhile isBlank

def trimEnd (cs : List Char) : List Char := dropEndWhile isBlank cs

def trim (cs : List Char) : List Char := trimEnd (trimStart cs)

def words (cs : List Char) : List (List Char) :=
  (cs.splitOnP isBlank).filter (fun piece => !piece.isEmpty)

theorem ne_nil_of_mem_words {word cs : List Char} (member : word ∈ words cs) : word ≠ [] := by
  have filled := (List.mem_filter.mp member).2
  rintro rfl
  cases filled

def unwords (pieces : List (List Char)) : List Char := [' '].intercalate pieces

theorem append_eq_of_isPrefixOf? {pattern text rest : List Char}
    (found : pattern.isPrefixOf? text = some rest) : pattern ++ rest = text := by
  induction pattern generalizing text with
  | nil => exact (Option.some.inj found).symm
  | cons c pattern ih =>
    cases text with
    | nil => cases found
    | cons d text =>
      change (if c == d then pattern.isPrefixOf? text else none) = some rest at found
      split at found
      · next same => rw [eq_of_beq same, List.cons_append, ih found]
      · cases found

def cutAt? (pattern : List Char) : List Char → Option (List Char × List Char)
  | [] => if pattern.isEmpty then some ([], []) else none
  | c :: rest =>
    match pattern.isPrefixOf? (c :: rest) with
    | some after => some ([], after)
    | none => (cutAt? pattern rest).map fun (before, after) => (c :: before, after)

def contains (pattern text : List Char) : Bool := (cutAt? pattern text).isSome

def lowerAscii (s : String) : String := s.map Char.toLower

def upperAscii (s : String) : String := s.map Char.toUpper

end Telemetry.Text
