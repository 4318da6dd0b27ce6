import Telemetry.Table.Capped

/-!
Lookups, sizes and sums over tables, before and after a change of one key.

What every value of a table keeps, and how a table may grow without losing a key, is said once
here for tables of anything, so also for tables of tables.
-/

set_option autoImplicit false

namespace Telemetry

variable {κ ν α : Type} [DecidableEq κ]

theorem Entries.sum_put (f : ν → Nat) (key : κ) (value : Option ν → ν) (entries : List (κ × ν)) :
    ((put key value entries).map (f ·.2)).sum + (find? key entries).elim 0 f =
      (entries.map (f ·.2)).sum + f (value (find? key entries)) := by
  induction entries with
  | nil => simp [put, find?]
  | cons entry rest ih =>
    by_cases same : entry.1 = key
    · simp [put, find?, same]
      omega
    · simp [put, find?, same]
      omega

theorem Entries.sum_remove (f : ν → Nat) (key : κ) {entries : List (κ × ν)}
    (distinct : (keys entries).Nodup) :
    ((remove key entries).map (f ·.2)).sum + (find? key entries).elim 0 f =
      (entries.map (f ·.2)).sum := by
  induction entries with
  | nil => rfl
  | cons entry rest ih =>
    obtain ⟨new, rest_distinct⟩ := List.nodup_cons.mp distinct
    have later := ih rest_distinct
    by_cases same : entry.1 = key
    · -- The key is not in the rest, which stays as it is.
      have absent : find? key rest = none :=
        Option.not_isSome_iff_eq_none.mp fun found =>
          new (same ▸ (mem_keys_iff key rest).mpr found)
      rw [absent] at later
      simp [remove, find?, same] at later ⊢
      omega
    · simp [remove, find?, same] at later ⊢
      omega

theorem Entries.put_self {key : κ} {value : ν} {entries : List (κ × ν)}
    (found : find? key entries = some value) : put key (fun _ => value) entries = entries := by
  induction entries with
  | nil => cases found
  | cons entry rest ih =>
    by_cases here : entry.1 = key
    · simp only [find?, here, if_true, Option.some.injEq] at found
      simp [put, ← here, ← found]
    · simp only [find?, here, if_false] at found
      simp [put, here, ih found]

theorem Entries.put_find? (key : κ) (value : Option ν → ν) (entries : List (κ × ν)) :
    put key value entries = put key (fun _ => value (find? key entries)) entries := by
  induction entries with
  | nil => rfl
  | cons entry rest ih =>
    by_cases here : entry.1 = key
    · simp [put, find?, here]
    · simpa [put, find?, here] using ih

namespace Table

theorem alter_eq_insert (table : Table κ ν) (key : κ) (value : Option ν → ν) :
    table.alter key value = table.insert key (value (table.get? key)) :=
  Table.ext (Entries.put_find? key value table.entries)

theorem get?_update (table : Table κ ν) (key other : κ) (new : ν) (change : ν → ν) :
    (table.update key new change).get? other =
      if other = key then some (change ((table.get? key).getD new)) else table.get? other :=
  get?_alter table key other _

theorem get?_visit (table : Table κ ν) (key other : κ) (new : ν) (change : ν → α × ν) :
    (table.visit key new change).2.get? other =
      if other = key then some (change ((table.get? key).getD new)).2 else table.get? other :=
  get?_alter table key other _

def total (f : ν → Nat) (table : Table κ ν) : Nat := (table.values.map f).sum

theorem total_alter (f : ν → Nat) (table : Table κ ν) (key : κ) (value : Option ν → ν) :
    (table.alter key value).total f + (table.get? key).elim 0 f =
      table.total f + f (value (table.get? key)) := by
  have put := Entries.sum_put f key value table.entries
  simpa [total, values, alter, get?, Function.comp_def] using put

theorem sum_count (table : Table κ Nat) (key : κ) :
    (table.update key 0 (· + 1)).values.sum = table.values.sum + 1 := by
  have counted := table.total_alter id key fun value => value.getD 0 + 1
  have old : (table.get? key).elim 0 id = (table.get? key).getD 0 := by
    cases table.get? key <;> rfl
  simp only [total, List.map_id, old, id] at counted
  change (table.alter key fun value => value.getD 0 + 1).values.sum = table.values.sum + 1
  omega

theorem total_insert_new (f : ν → Nat) {table : Table κ ν} {key : κ}
    (new : table.get? key = none) (value : ν) :
    (table.insert key value).total f = table.total f + f value := by
  have altered := table.total_alter f key fun _ => value
  rw [new] at altered
  exact altered

theorem total_erase (f : ν → Nat) {table : Table κ ν} {key : κ} {value : ν}
    (found : table.get? key = some value) :
    (table.erase key).total f + f value = table.total f := by
  have removed := Entries.sum_remove f key table.distinct
  rw [show Entries.find? key table.entries = some value from found] at removed
  simpa [total, values, erase, Function.comp_def] using removed

end Table

def Raises {σ : Type} (figure : σ → Nat) (raise : α → Nat) (change : σ → α × σ) : Prop :=
  ∀ before, figure (change before).2 = figure before + raise (change before).1

theorem Raises.visit {f : ν → Nat} {raise : α → Nat} {change : ν → α × ν}
    (raises : Raises f raise change) (new : ν) (zero : f new = 0) (key : κ) :
    Raises (Table.total f) raise (·.visit key new change) := by
  intro table
  let old := (table.get? key).getD new
  have altered := table.total_alter f key fun _ => (change old).2
  have counted : (table.get? key).elim 0 f = f old := by
    cases found : table.get? key with
    | none => simp [old, found, zero]
    | some value => simp [old, found]
  rw [counted, raises old] at altered
  have visited : (table.visit key new change).2.total f + f old =
      table.total f + (f old + raise (change old).1) := altered
  show (table.visit key new change).2.total f = table.total f + raise (change old).1
  omega

def Keeps {σ : Type} (property : σ → Prop) (change : σ → α × σ) : Prop :=
  ∀ before, property before → property (change before).2

def Moves {σ : Type} (relation : σ → σ → Prop) (change : σ → α × σ) : Prop :=
  ∀ before, relation before (change before).2

namespace Table

theorem size_alter (table : Table κ ν) (key : κ) (value : Option ν → ν) :
    (table.alter key value).size =
      if (table.get? key).isSome then table.size else table.size + 1 := by
  have sizes : ∀ table : Table κ ν, table.size = table.keys.length := fun table => by
    simp [size, keys, Entries.keys]
  rw [sizes, keys_alter, sizes]
  simp only [mem_keys_iff]
  split <;> simp

theorem size_map {ω : Type} (table : Table κ ν) (change : ν → ω) :
    (table.map change).size = table.size :=
  List.length_map _

theorem keys_map {ω : Type} (table : Table κ ν) (change : ν → ω) :
    (table.map change).keys = table.keys :=
  Entries.keys_map (fun _ value => change value) table.entries

theorem get?_map {ω : Type} (table : Table κ ν) (change : ν → ω) (key : κ) :
    (table.map change).get? key = (table.get? key).map change := by
  obtain ⟨entries, distinct⟩ := table
  simp only [get?, map]
  clear distinct
  induction entries with
  | nil => rfl
  | cons entry rest ih =>
    by_cases here : entry.1 = key
    · simp [Entries.find?, here]
    · simpa [Entries.find?, here] using ih

theorem map_map {ω υ : Type} (table : Table κ ν) (first : ν → ω) (second : ω → υ) :
    (table.map first).map second = table.map fun value => second (first value) :=
  Table.ext (by simp [map])

theorem map_insert {ω : Type} (table : Table κ ν) (change : ν → ω) (key : κ) (value : ν) :
    (table.insert key value).map change = (table.map change).insert key (change value) := by
  obtain ⟨entries, distinct⟩ := table
  apply Table.ext
  simp only [insert, alter, map]
  clear distinct
  induction entries with
  | nil => rfl
  | cons entry rest ih =>
    by_cases here : entry.1 = key
    · simp [Entries.put, here]
    · simpa [Entries.put, here] using ih

theorem insert_self {table : Table κ ν} {key : κ} {value : ν}
    (found : table.get? key = some value) : table.insert key value = table :=
  Table.ext (Entries.put_self found)

theorem mem_entries_iff (table : Table κ ν) (key : κ) (value : ν) :
    (key, value) ∈ table.entries ↔ table.get? key = some value := by
  obtain ⟨entries, distinct⟩ := table
  unfold get?
  induction entries with
  | nil => simp [Entries.find?]
  | cons entry rest ih =>
    obtain ⟨new, rest_distinct⟩ := List.nodup_cons.mp distinct
    rw [Entries.find?, List.mem_cons, ih rest_distinct]
    split
    · next here =>
      subst here
      have absent : Entries.find? entry.1 rest ≠ some value := by
        intro found
        exact new ((Entries.mem_keys_iff _ _).mpr (Option.isSome_of_eq_some found))
      simp [absent, Prod.ext_iff, eq_comm]
    · next elsewhere => simp [Prod.ext_iff, Ne.symm elsewhere]

theorem map?_eq_some_iff {ω : Type} {change : ν → Option ω} {given : ν → ω}
    (gives : ∀ value changed, change value = some changed → changed = given value)
    {table : Table κ ν} {changed : Table κ ω} :
    table.map? change = some changed ↔
      (∀ key value, table.get? key = some value → (change value).isSome) ∧
        changed = table.map given := by
  have entries : table.map? change = some changed ↔
      Entries.map? change table.entries = some changed.entries := by
    unfold map?
    split
    · next found => simp [found]
    · next found => simp [found, Table.ext_iff]
  have each : (∀ entry ∈ table.entries, (change entry.2).isSome) ↔
      ∀ key value, table.get? key = some value → (change value).isSome := by
    simp only [Prod.forall, mem_entries_iff]
  rw [entries, Entries.map?_eq_some_iff gives, each, Table.ext_iff]
  rfl

def EachAt (property : κ → ν → Prop) (table : Table κ ν) : Prop :=
  ∀ key value, table.get? key = some value → property key value

def Each (property : ν → Prop) (table : Table κ ν) : Prop :=
  ∀ key value, table.get? key = some value → property value

/-- Every key stays, with a value related to the one it had. -/
def Extends (relation : ν → ν → Prop) (table later : Table κ ν) : Prop :=
  ∀ key value, table.get? key = some value → ∃ next, later.get? key = some next ∧
    relation value next

section
variable {property : κ → ν → Prop} {table : Table κ ν}

@[simp] theorem eachAt_empty : (∅ : Table κ ν).EachAt property := nofun

theorem EachAt.getD (each : table.EachAt property) {key : κ} {new : ν}
    (fresh : property key new) : property key ((table.get? key).getD new) := by
  cases found : table.get? key with
  | none => exact fresh
  | some value => exact each key value found

theorem EachAt.insert (each : table.EachAt property) {key : κ} {value : ν}
    (holds : property key value) : (table.insert key value).EachAt property := by
  intro other found placed
  rw [Table.insert, get?_alter] at placed
  split at placed
  · next here =>
    cases placed
    exact here ▸ holds
  · exact each other found placed

theorem EachAt.update (each : table.EachAt property) {key : κ} {new : ν}
    (fresh : property key new) {change : ν → ν}
    (keeps : ∀ value, property key value → property key (change value)) :
    (table.update key new change).EachAt property := by
  intro other found placed
  rw [get?_update] at placed
  split at placed
  · next here =>
    cases placed
    exact here ▸ keeps _ (each.getD fresh)
  · exact each other found placed

theorem EachAt.map {ω : Type} {shown : κ → ω → Prop} (each : table.EachAt property)
    {change : ν → ω} (keeps : ∀ key value, property key value → shown key (change value)) :
    (table.map change).EachAt shown := by
  intro key value found
  rw [get?_map] at found
  obtain ⟨old, there, rfl⟩ := Option.map_eq_some_iff.mp found
  exact keeps key old (each key old there)

end

section
variable {property : ν → Prop} {relation : ν → ν → Prop} {table : Table κ ν}

@[simp] theorem each_empty : (∅ : Table κ ν).Each property := nofun

theorem Each.getD (each : table.Each property) {new : ν} (fresh : property new) (key : κ) :
    property ((table.get? key).getD new) :=
  EachAt.getD each fresh

theorem Each.insert (each : table.Each property) {value : ν} (holds : property value) (key : κ) :
    (table.insert key value).Each property :=
  EachAt.insert each holds

theorem Each.update (each : table.Each property) {new : ν} (fresh : property new)
    {change : ν → ν} (keeps : ∀ value, property value → property (change value)) (key : κ) :
    (table.update key new change).Each property :=
  EachAt.update each fresh keeps

theorem Extends.refl (reflexive : ∀ value, relation value value) (table : Table κ ν) :
    table.Extends relation table :=
  fun _ value found => ⟨value, found, reflexive value⟩

theorem Extends.trans {later last : Table κ ν}
    (transitive : ∀ {a b c}, relation a b → relation b c → relation a c)
    (first : table.Extends relation later) (second : later.Extends relation last) :
    table.Extends relation last := by
  intro key value found
  obtain ⟨next, there, step⟩ := first key value found
  obtain ⟨final, last, further⟩ := second key next there
  exact ⟨final, last, transitive step further⟩

theorem extends_alter (reflexive : ∀ value, relation value value) {key : κ}
    {value : Option ν → ν} (moved : ∀ old, table.get? key = some old → relation old (value old)) :
    table.Extends relation (table.alter key value) := by
  intro other old found
  rw [get?_alter]
  by_cases here : other = key
  · subst here
    rw [found]
    exact ⟨_, if_pos rfl, moved old found⟩
  · exact ⟨old, by rw [if_neg here, found], reflexive old⟩

theorem extends_insert (reflexive : ∀ value, relation value value) {key : κ} {value : ν}
    (moved : ∀ old, table.get? key = some old → relation old value) :
    table.Extends relation (table.insert key value) :=
  extends_alter reflexive moved

theorem extends_count (table : Table κ Nat) (key : κ) :
    table.Extends (· ≤ ·) (table.update key 0 (· + 1)) :=
  extends_alter Nat.le_refl fun old _ => Nat.le_succ old

theorem Extends.total_le {f : ν → Nat} (grows : ∀ {a b}, relation a b → f a ≤ f b)
    {later : Table κ ν} (extended : table.Extends relation later) : table.total f ≤ later.total f := by
  obtain ⟨entries, distinct⟩ := table
  -- By induction on the entries: each is found in the later table and taken out of it there.
  induction entries generalizing later with
  | nil => exact Nat.zero_le _
  | cons entry rest ih =>
    obtain ⟨key, value⟩ := entry
    obtain ⟨new, rest_distinct⟩ := List.nodup_cons.mp distinct
    obtain ⟨next, found, moved⟩ := extended key value (if_pos rfl)
    have remaining : (⟨rest, rest_distinct⟩ : Table κ ν).Extends relation (later.erase key) := by
      intro other old present
      have elsewhere : other ≠ key := by
        rintro rfl
        exact new ((Entries.mem_keys_iff other rest).mpr (Option.isSome_iff_exists.mpr ⟨old, present⟩))
      obtain ⟨after, there, step⟩ := extended other old
        ((if_neg (Ne.symm elsewhere)).trans present)
      exact ⟨after, by rw [get?_erase, if_neg elsewhere, there], step⟩
    have rested := ih rest_distinct remaining
    have erased := total_erase (f := f) found
    have first := grows moved
    have split : (⟨(key, value) :: rest, distinct⟩ : Table κ ν).total f =
        f value + (⟨rest, rest_distinct⟩ : Table κ ν).total f := by
      simp [total, values]
    omega

end

end Table

theorem Keeps.visit {property : ν → Prop} {change : ν → α × ν} (keeps : Keeps property change)
    (new : ν) (fresh : property new) (key : κ) :
    Keeps (Table.Each property) (·.visit key new change) :=
  fun _ each => each.insert (keeps _ (each.getD fresh key)) key

theorem Keeps.visitAt {property : κ → ν → Prop} {change : ν → α × ν} {key : κ}
    (keeps : Keeps (property key) change) {new : ν} (fresh : property key new) :
    Keeps (Table.EachAt property) (·.visit key new change) :=
  fun _ each => each.insert (keeps _ (each.getD fresh))

theorem Moves.visit {relation : ν → ν → Prop} {change : ν → α × ν}
    (moves : Moves relation change) (reflexive : ∀ value, relation value value) (new : ν) (key : κ) :
    Moves (Table.Extends relation) (·.visit key new change) := by
  intro table
  refine Table.extends_insert reflexive ?_
  intro old found
  have moved := moves old
  rw [found]
  exact moved

namespace CappedTable

@[simp] theorem get?_create (limit : Nat) (key : κ) :
    (create limit : CappedTable κ ν).get? key = none := rfl

@[simp] theorem get?_refuse (capped : CappedTable κ ν) (key : κ) :
    capped.refuse.get? key = capped.get? key := rfl

theorem admits_create (limit : Nat) (key : κ) :
    (create limit : CappedTable κ ν).admits key = decide (0 < limit) := by
  have none : (create limit : CappedTable κ ν).full = decide (limit ≤ 0) := rfl
  have absent : (create limit : CappedTable κ ν).contains key = false := rfl
  simp [admits, none, absent, Nat.pos_iff_ne_zero]

theorem insert_of_admits {capped : CappedTable κ ν} {key : κ} (admits : capped.admits key = true)
    (value : ν) :
    (capped.insert key value).2 = { capped with table := capped.table.insert key value } := by
  rw [insert, update, if_pos admits]
  rfl

theorem rejected_update (capped : CappedTable κ ν) (key : κ) (new : ν) (change : ν → ν) :
    (capped.update key new change).2.rejected =
      capped.rejected + if (capped.update key new change).1 then 0 else 1 := by
  unfold update
  split <;> rfl

structure Fits (limit : Nat) (capped : CappedTable κ ν) : Prop where
  kept : capped.limit = limit
  bound : capped.size ≤ limit

theorem fits_create (limit : Nat) : (create limit : CappedTable κ ν).Fits limit :=
  ⟨rfl, Nat.zero_le _⟩

theorem Fits.refuse {limit : Nat} {capped : CappedTable κ ν} (fits : capped.Fits limit) :
    capped.refuse.Fits limit :=
  ⟨fits.kept, fits.bound⟩

theorem Fits.alter {limit : Nat} {capped : CappedTable κ ν} (fits : capped.Fits limit) {key : κ}
    (admits : capped.admits key = true) (value : Option ν → ν) :
    Fits limit { capped with table := capped.table.alter key value } := by
  refine ⟨fits.kept, ?_⟩
  have room : capped.contains key = true ∨ capped.size < limit := by
    rw [← fits.kept]
    simpa [CappedTable.admits, full] using admits
  have size : (capped.table.alter key value).size =
      if capped.contains key then capped.size else capped.size + 1 :=
    capped.table.size_alter key value
  show (capped.table.alter key value).size ≤ limit
  rw [size]
  split
  · exact fits.bound
  · next new => exact room.resolve_left new

theorem Fits.update {limit : Nat} {capped : CappedTable κ ν} (fits : capped.Fits limit) (key : κ)
    (new : ν) (change : ν → ν) : (capped.update key new change).2.Fits limit := by
  unfold CappedTable.update
  split
  · next admits => exact fits.alter admits _
  · exact fits.refuse

end CappedTable

end Telemetry
