import Telemetry.Arithmetic

/-!
Tables from keys to values that keep the order in which keys arrived.

Each key occurs once. Changing a value leaves its key in place, removing a key leaves the
order of the others.
-/

set_option autoImplicit false

namespace Telemetry

variable {κ ν ω : Type}

namespace Entries

def keys (entries : List (κ × ν)) : List κ := entries.map Prod.fst

theorem keys_map (f : κ → ν → ω) (entries : List (κ × ν)) :
    keys (entries.map fun (k, v) => (k, f k v)) = keys entries := by
  simp [keys, Function.comp_def]

def map? (change : ν → Option ω) : List (κ × ν) → Option (List (κ × ω))
  | [] => some []
  | (k, v) :: rest => do return (k, ← change v) :: (← map? change rest)

theorem keys_map? {change : ν → Option ω} {entries : List (κ × ν)} {changed : List (κ × ω)}
    (found : map? change entries = some changed) : keys changed = keys entries := by
  induction entries generalizing changed with
  | nil =>
    cases found
    rfl
  | cons entry rest ih =>
    simp only [map?, Option.bind_eq_bind, Option.bind_eq_some_iff] at found
    obtain ⟨_, -, others, inner, same⟩ := found
    cases same
    exact congrArg (entry.1 :: ·) (ih inner)

theorem map?_eq_some_iff {change : ν → Option ω} {given : ν → ω}
    (gives : ∀ value changed, change value = some changed → changed = given value)
    {entries : List (κ × ν)} {changed : List (κ × ω)} :
    map? change entries = some changed ↔
      (∀ entry ∈ entries, (change entry.2).isSome) ∧
        changed = entries.map fun (k, v) => (k, given v) := by
  induction entries generalizing changed with
  | nil =>
    rw [map?, List.map_nil, Option.some.injEq, eq_comm]
    exact (and_iff_right nofun).symm
  | cons entry rest ih =>
    simp only [map?, Option.bind_eq_bind, Option.bind_eq_some_iff, ih, List.forall_mem_cons,
      List.map_cons]
    constructor
    · rintro ⟨value, first, others, ⟨each, rfl⟩, same⟩
      cases same
      exact ⟨⟨Option.isSome_of_eq_some first, each⟩, by rw [gives _ _ first]⟩
    · rintro ⟨⟨some, each⟩, rfl⟩
      obtain ⟨value, first⟩ := Option.isSome_iff_exists.mp some
      exact ⟨value, first, _, ⟨each, rfl⟩, by rw [gives _ _ first]; rfl⟩

variable [DecidableEq κ]

def find? (key : κ) : List (κ × ν) → Option ν
  | [] => none
  | (k, v) :: rest => if k = key then some v else find? key rest

/-- Set the value of a key from the one it has; a new key goes to the end. -/
def put (key : κ) (value : Option ν → ν) : List (κ × ν) → List (κ × ν)
  | [] => [(key, value none)]
  | (k, v) :: rest => if k = key then (k, value (some v)) :: rest else (k, v) :: put key value rest

def remove (key : κ) (entries : List (κ × ν)) : List (κ × ν) :=
  entries.filter fun entry => entry.1 ≠ key

theorem keys_put (key : κ) (value : Option ν → ν) (entries : List (κ × ν)) :
    keys (put key value entries) =
      if key ∈ keys entries then keys entries else keys entries ++ [key] := by
  induction entries with
  | nil => simp [put, keys]
  | cons entry rest ih => grind [put, keys]

theorem find?_put (key other : κ) (value : Option ν → ν) (entries : List (κ × ν)) :
    find? other (put key value entries) =
      if other = key then some (value (find? key entries)) else find? other entries := by
  induction entries with
  | nil => grind [put, find?]
  | cons entry rest ih => grind [put, find?]

theorem mem_keys_iff (key : κ) (entries : List (κ × ν)) :
    key ∈ keys entries ↔ (find? key entries).isSome := by
  induction entries with
  | nil => simp [keys, find?]
  | cons entry rest ih => grind [keys, find?]

theorem find?_remove (key other : κ) (entries : List (κ × ν)) :
    find? other (remove key entries) = if other = key then none else find? other entries := by
  induction entries with
  | nil => simp [remove, find?]
  | cons entry rest ih =>
    simp only [remove, List.filter_cons] at ih ⊢
    grind [find?]

theorem nodup_put {key : κ} {value : Option ν → ν} {entries : List (κ × ν)}
    (distinct : (keys entries).Nodup) : (keys (put key value entries)).Nodup := by
  rw [keys_put]
  split
  · exact distinct
  · next new =>
    refine List.nodup_append.2 ⟨distinct, by simp, ?_⟩
    intro a member b single
    rw [List.mem_singleton.1 single]
    exact fun same => new (same ▸ member)

theorem nodup_remove {key : κ} {entries : List (κ × ν)} (distinct : (keys entries).Nodup) :
    (keys (remove key entries)).Nodup :=
  distinct.sublist (List.filter_sublist.map _)

end Entries

structure Table (κ ν : Type) [DecidableEq κ] where
  entries : List (κ × ν)
  distinct : (Entries.keys entries).Nodup

namespace Table

variable [DecidableEq κ]

def empty : Table κ ν := ⟨[], List.nodup_nil⟩

instance : EmptyCollection (Table κ ν) := ⟨empty⟩

instance : Inhabited (Table κ ν) := ⟨empty⟩

@[ext] theorem ext {a b : Table κ ν} (same : a.entries = b.entries) : a = b := by
  cases a
  cases b
  cases same
  rfl

instance [DecidableEq ν] : DecidableEq (Table κ ν) := fun a b =>
  decidable_of_iff (a.entries = b.entries) ⟨ext, congrArg entries⟩

def get? (table : Table κ ν) (key : κ) : Option ν := Entries.find? key table.entries

def contains (table : Table κ ν) (key : κ) : Bool := (table.get? key).isSome

def size (table : Table κ ν) : Nat := table.entries.length

def keys (table : Table κ ν) : List κ := Entries.keys table.entries

def values (table : Table κ ν) : List ν := table.entries.map Prod.snd

def alter (table : Table κ ν) (key : κ) (value : Option ν → ν) : Table κ ν :=
  ⟨Entries.put key value table.entries, Entries.nodup_put table.distinct⟩

def insert (table : Table κ ν) (key : κ) (value : ν) : Table κ ν := table.alter key fun _ => value

def update (table : Table κ ν) (key : κ) (new : ν) (change : ν → ν) : Table κ ν :=
  table.alter key fun value => change (value.getD new)

/-- Change the value of a key, first giving it one if it has none, and return what the
change returns beside it. -/
def visit {α : Type} (table : Table κ ν) (key : κ) (new : ν) (change : ν → α × ν) :
    α × Table κ ν :=
  let (result, value) := change ((table.get? key).getD new)
  (result, table.insert key value)

def modify (table : Table κ ν) (key : κ) (change : ν → ν) : Table κ ν where
  entries := table.entries.map fun (k, v) => (k, if k = key then change v else v)
  distinct := by
    rw [Entries.keys_map fun k v => if k = key then change v else v]
    exact table.distinct

def erase (table : Table κ ν) (key : κ) : Table κ ν :=
  ⟨Entries.remove key table.entries, Entries.nodup_remove table.distinct⟩

def map (table : Table κ ν) (change : ν → ω) : Table κ ω where
  entries := table.entries.map fun (k, v) => (k, change v)
  distinct := by
    rw [Entries.keys_map fun _ v => change v]
    exact table.distinct

def map? (table : Table κ ν) (change : ν → Option ω) : Option (Table κ ω) :=
  match found : Entries.map? change table.entries with
  | none => none
  | some entries => some ⟨entries, (Entries.keys_map? found).symm ▸ table.distinct⟩

def mapEntries (table : Table κ ν) (change : κ → ν → ω) : Table κ ω where
  entries := table.entries.map fun (k, v) => (k, change k v)
  distinct := by
    rw [Entries.keys_map change]
    exact table.distinct

@[simp] theorem get?_empty (key : κ) : (∅ : Table κ ν).get? key = none := rfl

theorem get?_alter (table : Table κ ν) (key other : κ) (value : Option ν → ν) :
    (table.alter key value).get? other =
      if other = key then some (value (table.get? key)) else table.get? other :=
  Entries.find?_put key other value table.entries

theorem get?_erase (table : Table κ ν) (key other : κ) :
    (table.erase key).get? other = if other = key then none else table.get? other :=
  Entries.find?_remove key other table.entries

theorem mem_keys_iff (table : Table κ ν) (key : κ) :
    key ∈ table.keys ↔ (table.get? key).isSome :=
  Entries.mem_keys_iff key table.entries

theorem keys_alter (table : Table κ ν) (key : κ) (value : Option ν → ν) :
    (table.alter key value).keys =
      if key ∈ table.keys then table.keys else table.keys ++ [key] :=
  Entries.keys_put key value table.entries

theorem keys_visit {α : Type} (table : Table κ ν) {key : κ} {new : ν} {change : ν → α × ν}
    (known : table.contains key = true) : (table.visit key new change).2.keys = table.keys :=
  (table.keys_alter key _).trans (if_pos ((table.mem_keys_iff key).mpr known))

end Table

end Telemetry
