import Telemetry.Proofs.Json.Text

/-!
Fields of flat objects.

A codec says how the value of a member is read and written, and what stands for a missing one. It
is lawful if whatever it gives is written as a value from which it is read again. An object whose
members have different keys is then read field by field as it was written, and the numbers in it
can all be read.
-/

set_option autoImplicit false

namespace Telemetry.Json

def Value.Fits (value : Value) : Prop := ∀ n ∈ value.numbers, n.Fits

theorem Value.fits_string (s : String) : (string s).Fits := nofun

theorem Value.fits_int {n : Int} (low : -2 ^ 63 ≤ n) (high : n < 2 ^ 64) : (int n).Fits := by
  intro number inside
  cases List.mem_singleton.mp inside
  exact ⟨low, high⟩

structure Codec (α : Type) where
  read : Value → Option α
  default : α
  write : α → Value

namespace Codec

variable {α : Type}

/-- What is written for a content can be read, and gives the content again. -/
structure Restores (codec : Codec α) (content : α) : Prop where
  fits : (codec.write content).Fits
  back : codec.read (codec.write content) = some content

structure Lawful (codec : Codec α) : Prop where
  default : codec.Restores codec.default
  again {value : Value} {content : α} : value.Fits → codec.read value = some content →
    codec.Restores content
  depth (content : α) : (codec.write content).depth ≤ 1

def text : Codec String where
  read := Value.string?
  default := ""
  write := Value.string

theorem lawful_text : text.Lawful where
  default := ⟨Value.fits_string _, rfl⟩
  again := fun _ _ => ⟨Value.fits_string _, rfl⟩
  depth _ := Nat.zero_le _

def texts : Codec (List String) where
  read := Value.list? Value.string?
  default := []
  write := Value.list Value.string

theorem restores_texts (items : List String) : texts.Restores items := by
  constructor
  · show ∀ n ∈ itemsNumbers (items.map Value.string), n.Fits
    induction items with
    | nil => nofun
    | cons item items ih => exact ih
  · show (items.map Value.string).mapM Value.string? = some items
    induction items with
    | nil => rfl
    | cons item items ih =>
      rw [List.map_cons, List.mapM_cons, ih]
      rfl

theorem lawful_texts : texts.Lawful where
  default := restores_texts _
  again := fun _ _ => restores_texts _
  depth items := by
    show Tree.depthItems (items.map Value.string) + 1 ≤ 1
    induction items with
    | nil => exact Nat.le_refl _
    | cons item items ih => simpa [Tree.depthItems, Tree.depth, Value.string] using ih

def integer (low high : Int) : Codec Int where
  read := Value.intIn? low high
  default := 0
  write := Value.int

theorem bounds_intIn? {low high n : Int} {value : Value}
    (read : value.intIn? low high = some n) : low ≤ n ∧ n < high := by
  unfold Value.intIn? at read
  split at read
  · split at read
    · next within =>
      cases read
      exact within
    · cases read
  · cases read

theorem lawful_integer {low high : Int} (start : -2 ^ 63 ≤ low ∧ low ≤ 0)
    (stop : 0 < high ∧ high ≤ 2 ^ 64) : (integer low high).Lawful := by
  have restores : ∀ n, low ≤ n ∧ n < high → (integer low high).Restores n := by
    intro n within
    exact ⟨Value.fits_int (by omega) (by omega), if_pos within⟩
  constructor
  · exact restores 0 ⟨start.2, stop.1⟩
  · exact fun _ read => restores _ (bounds_intIn? read)
  · exact fun _ => Nat.zero_le _

def natural (bits : Nat) : Codec Nat where
  read := Value.natIn? bits
  default := 0
  write := Value.nat

theorem lawful_natural {bits : Nat} (small : bits ≤ 64) : (natural bits).Lawful := by
  have top : (2 : Int) ^ bits ≤ 2 ^ 64 := by
    exact_mod_cast Nat.pow_le_pow_right (by decide : 0 < 2) small
  have restores : ∀ n : Nat, (n : Int) < 2 ^ bits → (natural bits).Restores n := by
    intro n within
    refine ⟨Value.fits_int (by omega) (by omega), ?_⟩
    show (Value.intIn? 0 (2 ^ bits) (Value.int n)).map Int.toNat = some n
    rw [Value.int, Value.intIn?, if_pos ⟨by omega, within⟩]
    rfl
  constructor
  · exact restores 0 (Int.pow_pos (by decide))
  · intro value content _ read
    obtain ⟨n, found, rfl⟩ := Option.map_eq_some_iff.mp read
    obtain ⟨low, high⟩ := bounds_intIn? found
    exact restores n.toNat (by omega)
  · exact fun _ => Nat.zero_le _

def double : Codec Binary64 where
  read := Value.float?
  default := .zero
  write := Value.float

theorem restores_double {x : Binary64} (finite : x.isFinite = true) : double.Restores x := by
  refine ⟨?_, rfl⟩
  intro n inside
  cases List.mem_singleton.mp inside
  exact finite

theorem lawful_double : double.Lawful where
  default := restores_double (by decide)
  again := by
    intro value content fits read
    apply restores_double
    cases value with
    | num number => exact Value.isFinite_float? (fits number (List.mem_singleton_self _)) read
    | _ => cases read
  depth _ := Nat.zero_le _

/-- A content written by its name; of the spellings that are read some may be looser. -/
def named (read : Value → Option α) (default : α) (name : α → String) : Codec α where
  read := read
  default := default
  write content := Value.string (name content)

theorem lawful_named {read : Value → Option α} {default : α} {name : α → String}
    (names : ∀ content, read (.str (name content)) = some content) :
    (named read default name).Lawful where
  default := ⟨Value.fits_string _, names _⟩
  again := fun _ _ => ⟨Value.fits_string _, names _⟩
  depth _ := Nat.zero_le _

def optional (codec : Codec α) : Codec (Option α) where
  read := Value.nullable? codec.read
  default := none
  write := Value.optional codec.write

theorem optional_read_some (codec : Codec α) {value : Value} (other : value ≠ .null) :
    codec.optional.read value = (codec.read value).map some := by
  cases value with
  | null => exact absurd rfl other
  | _ => rfl

theorem lawful_optional {codec : Codec α} (lawful : codec.Lawful)
    (plain : ∀ content, codec.write content ≠ .null) : codec.optional.Lawful where
  default := ⟨nofun, rfl⟩
  again := by
    intro value content fits read
    cases content with
    | none => exact ⟨nofun, rfl⟩
    | some content =>
      -- A null stands for nothing, so it can be neither what was read nor what is written.
      have other : value ≠ .null := by
        rintro rfl
        cases read
      rw [optional_read_some codec other] at read
      obtain ⟨_, found, same⟩ := Option.map_eq_some_iff.mp read
      cases same
      obtain ⟨fits, back⟩ := lawful.again fits found
      refine ⟨fits, (optional_read_some codec (plain content)).trans ?_⟩
      rw [back]
      rfl
  depth
    | none => Nat.zero_le _
    | some content => lawful.depth content

/-! Doubles in what is written -/

section
variable {x : Binary64}

@[simp]
theorem float_mem_text (s : String) : Number.float x ∉ (text.write s).numbers := nofun

@[simp]
theorem float_mem_named (read : Value → Option α) (default : α) (name : α → String)
    (content : α) : Number.float x ∉ ((named read default name).write content).numbers := nofun

@[simp]
theorem float_mem_texts (items : List String) :
    Number.float x ∉ (texts.write items).numbers := by
  show Number.float x ∉ itemsNumbers (items.map Value.string)
  induction items with
  | nil => nofun
  | cons item items ih => exact ih

@[simp]
theorem float_mem_integer (low high n : Int) :
    Number.float x ∉ ((integer low high).write n).numbers := by
  intro inside
  cases List.mem_singleton.mp inside

@[simp]
theorem float_mem_natural (bits n : Nat) :
    Number.float x ∉ ((natural bits).write n).numbers := by
  intro inside
  cases List.mem_singleton.mp inside

@[simp]
theorem float_mem_double (y : Binary64) :
    Number.float x ∈ (double.write y).numbers ↔ x = y := by
  show Number.float x ∈ [Number.float y] ↔ x = y
  simp

@[simp]
theorem float_mem_optional (codec : Codec α) (content : Option α) :
    Number.float x ∈ (codec.optional.write content).numbers ↔
      ∃ c ∈ content, Number.float x ∈ (codec.write c).numbers := by
  cases content with
  | none => simp [optional, Value.optional, Tree.numbers]
  | some content => simp [optional, Value.optional]

end

end Codec

/-! Fields and objects -/

structure Field where
  Content : Type
  key : String
  codec : Codec Content
  content : Content

namespace Field

def member (field : Field) : String × Value := (field.key, field.codec.write field.content)

def ReadFrom (field : Field) (members : Members) : Prop :=
  field? members field.key field.codec.read field.codec.default = some field.content

end Field

theorem mem_of_member? {members : Members} {key : String} {value : Value}
    (found : member? members key = some (some value)) : (key, value) ∈ members := by
  unfold member? at found
  split at found
  · cases found
  · next only =>
    cases found
    have inside := List.mem_filter.mp (only ▸ List.mem_singleton_self _)
    have same := of_decide_eq_true inside.2
    exact same ▸ inside.1
  · cases found

theorem member?_of_mem {members : Members} (distinct : (members.map Prod.fst).Nodup)
    {key : String} {value : Value} (inside : (key, value) ∈ members) :
    member? members key = some (some value) := by
  have only : members.filter (·.1 = key) = [(key, value)] := by
    induction members with
    | nil => cases inside
    | cons first members ih =>
      obtain ⟨new, rest⟩ := List.nodup_cons.mp distinct
      cases inside with
      | head =>
        have others : members.filter (·.1 = key) = [] := by
          rw [List.filter_eq_nil_iff]
          intro member later same
          exact new (List.mem_map.mpr ⟨member, later, of_decide_eq_true same⟩)
        rw [List.filter_cons_of_pos (by simp), others]
      | tail _ later =>
        have other : first.1 ≠ key := fun same =>
          new (List.mem_map.mpr ⟨_, later, same.symm⟩)
        rw [List.filter_cons_of_neg (by simpa using other), ih rest later]
  rw [member?, only]

theorem fits_member? {members : Members} (fits : ∀ n ∈ membersNumbers members, n.Fits)
    {key : String} {value : Value} (found : member? members key = some (some value)) :
    value.Fits :=
  fun n inside => fits n (mem_membersNumbers.mpr ⟨_, mem_of_member? found, inside⟩)

namespace Field

variable {field : Field} {members : Members}

theorem restores (lawful : field.codec.Lawful) (fits : ∀ n ∈ membersNumbers members, n.Fits)
    (read : field.ReadFrom members) : field.codec.Restores field.content := by
  unfold ReadFrom field? at read
  split at read
  · cases read
  · rw [← Option.some.inj read]
    exact lawful.default
  · next found => exact lawful.again (fits_member? fits found) read

theorem readFrom_of_mem (distinct : (members.map Prod.fst).Nodup) (inside : field.member ∈ members)
    (restores : field.codec.Restores field.content) : field.ReadFrom members := by
  unfold ReadFrom field?
  rw [member?_of_mem distinct inside]
  exact restores.back

end Field

end Telemetry.Json
