import Telemetry.Text.Hex

/-!
Percent-encoding of bytes.
-/

set_option autoImplicit false

namespace Telemetry.Uri

def hexDigit (n : Nat) : Char :=
  let n := n % 16
  if n < 10 then Char.ofNat (48 + n) else Char.ofNat (55 + n)

def encodeByte (b : UInt8) : List Char := ['%', hexDigit (b.toNat / 16), hexDigit b.toNat]

/-- ASCII characters outside a set stand for themselves; every other character is written
byte by byte. -/
def encodeChar (set : Char → Bool) (c : Char) : List Char :=
  if c.toNat < 0x80 && !set c then [c] else (String.utf8EncodeChar c).flatMap encodeByte

def encode (set : Char → Bool) (cs : List Char) : List Char := cs.flatMap (encodeChar set)

theorem encode_eq_self {set : Char → Bool} {cs : List Char}
    (plain : ∀ c ∈ cs, c.toNat < 0x80 ∧ set c = false) : encode set cs = cs := by
  induction cs with
  | nil => rfl
  | cons c rest ih =>
    have here := plain c List.mem_cons_self
    have tail := ih fun d member => plain d (List.mem_cons_of_mem c member)
    simp only [encode, List.flatMap_cons] at tail ⊢
    simp [tail, encodeChar, here.1, here.2]

def isControl (c : Char) : Bool := c.toNat < 0x20 || c.toNat = 0x7F

def escapedInPath (c : Char) : Bool := isControl c || " \"#<>?`\x7b\x7d".toList.contains c

/-- The bytes a text stands for; a percent sign without two digits stands for itself. -/
def decodedBytes : List Char → List UInt8
  | '%' :: a :: b :: rest =>
    match Text.hexValue? a, Text.hexValue? b with
    | some high, some low => UInt8.ofNat (high * 16 + low) :: decodedBytes rest
    | _, _ => String.utf8EncodeChar '%' ++ decodedBytes (a :: b :: rest)
  | c :: rest => String.utf8EncodeChar c ++ decodedBytes rest
  | [] => []

def decode? (cs : List Char) : Option (List Char) :=
  if cs.contains '%' then
    (String.fromUTF8? ⟨(decodedBytes cs).toArray⟩).map String.toList
  else some cs

end Telemetry.Uri
