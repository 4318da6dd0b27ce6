import Telemetry.Text.Hex

/-!
Strings of TOML: in one line or over several, with escapes or literal.
-/

set_option autoImplicit false

namespace Telemetry.Toml

def isPlain (c : Char) : Bool := c = '\t' || (0x20 ≤ c.toNat && c.toNat ≠ 0x7F)

def charOfHex? (digits : List Char) : Option Char :=
  let n := Text.numberIn 16 digits
  if digits.all Text.isHexDigit && n.isValidChar then some (Char.ofNat n) else none

def escaped? : Char → Option Char
  | 'b' => some '\x08'
  | 't' => some '\t'
  | 'n' => some '\n'
  | 'f' => some '\x0c'
  | 'r' => some '\r'
  | '"' => some '"'
  | '\\' => some '\\'
  | _ => none

def joined? (broken : Bool) : List Char → Option (List Char)
  | '\r' :: '\n' :: rest => joined? true rest
  | c :: rest =>
    if c = '\n' then joined? true rest
    else if c = ' ' || c = '\t' then joined? broken rest
    else if broken then some (c :: rest) else none
  | [] => if broken then some [] else none

theorem joined?_length {broken : Bool} {cs rest : List Char} (found : joined? broken cs = some rest) :
    rest.length ≤ cs.length := by
  fun_induction joined? broken cs <;> grind

def prepend (c : Char) : List Char × List Char → List Char × List Char
  | (text, after) => (c :: text, after)

def basic? : List Char → Option (List Char × List Char)
  | '"' :: rest => some ([], rest)
  | '\\' :: 'u' :: a :: b :: c :: d :: rest => do
    let c ← charOfHex? [a, b, c, d]
    return prepend c (← basic? rest)
  | '\\' :: 'U' :: a :: b :: c :: d :: e :: f :: g :: h :: rest => do
    let c ← charOfHex? [a, b, c, d, e, f, g, h]
    return prepend c (← basic? rest)
  | '\\' :: c :: rest => do
    let c ← escaped? c
    return prepend c (← basic? rest)
  | c :: rest => if isPlain c then (basic? rest).map (prepend c) else none
  | [] => none

def literal? : List Char → Option (List Char × List Char)
  | '\'' :: rest => some ([], rest)
  | c :: rest => if isPlain c then (literal? rest).map (prepend c) else none
  | [] => none

/-- The rest of a string over several lines. Up to two quotes may stand before the closing
three. -/
def longBasic? (cs : List Char) : Option (List Char × List Char) :=
  match cs with
  | '"' :: '"' :: '"' :: '"' :: '"' :: rest => some (['"', '"'], rest)
  | '"' :: '"' :: '"' :: '"' :: rest => some (['"'], rest)
  | '"' :: '"' :: '"' :: rest => some ([], rest)
  | '\\' :: 'u' :: a :: b :: c :: d :: rest => do
    let c ← charOfHex? [a, b, c, d]
    return prepend c (← longBasic? rest)
  | '\\' :: 'U' :: a :: b :: c :: d :: e :: f :: g :: h :: rest => do
    let c ← charOfHex? [a, b, c, d, e, f, g, h]
    return prepend c (← longBasic? rest)
  | '\\' :: c :: rest =>
    match found : joined? false (c :: rest) with
    | some after =>
      have := joined?_length found
      longBasic? after
    | none => do
      let c ← escaped? c
      return prepend c (← longBasic? rest)
  | '\r' :: '\n' :: rest => (longBasic? rest).map (prepend '\n')
  | c :: rest => if isPlain c || c = '\n' then (longBasic? rest).map (prepend c) else none
  | [] => none
termination_by cs.length
decreasing_by all_goals (simp only [List.length_cons] at *; omega)

def longLiteral? : List Char → Option (List Char × List Char)
  | '\'' :: '\'' :: '\'' :: '\'' :: '\'' :: rest => some (['\'', '\''], rest)
  | '\'' :: '\'' :: '\'' :: '\'' :: rest => some (['\''], rest)
  | '\'' :: '\'' :: '\'' :: rest => some ([], rest)
  | '\r' :: '\n' :: rest => (longLiteral? rest).map (prepend '\n')
  | c :: rest => if isPlain c || c = '\n' then (longLiteral? rest).map (prepend c) else none
  | [] => none

/-- A line break right behind the opening quotes does not count. -/
def withoutBreak : List Char → List Char
  | '\n' :: rest | '\r' :: '\n' :: rest => rest
  | cs => cs

def string? : List Char → Option (List Char × List Char)
  | '"' :: '"' :: '"' :: rest => longBasic? (withoutBreak rest)
  | '"' :: rest => basic? rest
  | '\'' :: '\'' :: '\'' :: rest => longLiteral? (withoutBreak rest)
  | '\'' :: rest => literal? rest
  | _ => none

end Telemetry.Toml
