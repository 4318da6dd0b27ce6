import Mathlib.Data.List.DropRight
import Telemetry.Proofs.Table

/-!
A table with a limit is a list of its keys in the order in which they arrived.

Beside the table stands a plain list with room for so many entries: a new key goes to the end
while there is room, a known one keeps its place whatever becomes of its value. Main statement:
after any run of acts the table has the entries of the list; an insertion is refused exactly
where a new key finds the table full, and is counted and nothing else; and as long as no key is
taken out, the keys are the first ones offered.
-/

set_option autoImplicit false

namespace Telemetry

variable {κ ν : Type}

namespace CappedTable

/-- What can be done to a table with a limit. -/
inductive Act (κ ν : Type) where
  /-- Find a key or add it, and change its value. -/
  | update (key : κ) (new : ν) (change : ν → ν)
  | insert (key : κ) (value : ν)
  | modify (key : κ) (change : ν → ν)
  | erase (key : κ)
  | mapValues (change : ν → ν)
  | mapEntries (change : κ → ν → ν)
  | clear

def Act.offered? : Act κ ν → Option κ
  | .update key _ _ | .insert key _ => some key
  | _ => none

def Act.isClear : Act κ ν → Bool
  | .clear => true
  | _ => false

def Act.keepsKeys : Act κ ν → Bool
  | .erase _ | .clear => false
  | _ => true

end CappedTable

variable [DecidableEq κ]

/-! ### The plain list -/

namespace Entries

def revise (key : κ) (change : ν → ν) (entries : List (κ × ν)) : List (κ × ν) :=
  entries.map fun entry => if entry.1 = key then (key, change entry.2) else entry

/-- Offer a key to a list with room for `limit` entries, and change the value it then has. -/
def offer (limit : Nat) (key : κ) (new : ν) (change : ν → ν) (entries : List (κ × ν)) :
    List (κ × ν) :=
  if key ∈ keys entries then revise key change entries
  else if entries.length < limit then entries ++ [(key, change new)]
  else entries

theorem keys_revise (key : κ) (change : ν → ν) (entries : List (κ × ν)) :
    keys (revise key change entries) = keys entries := by
  unfold keys revise
  rw [List.map_map]
  refine List.map_congr_left fun entry _ => ?_
  by_cases here : entry.1 = key <;> simp [here]

theorem keys_offer (limit : Nat) (key : κ) (new : ν) (change : ν → ν) (entries : List (κ × ν)) :
    keys (offer limit key new change entries) =
      if key ∈ keys entries ∨ limit ≤ entries.length then keys entries
      else keys entries ++ [key] := by
  unfold offer
  split
  · next known => rw [keys_revise, if_pos (.inl known)]
  · next new =>
    split
    · next room =>
      have opens : ¬ (key ∈ keys entries ∨ limit ≤ entries.length) := by
        rintro (known | full)
        · exact new known
        · omega
      rw [if_neg opens]
      exact List.map_append
    · next full => rw [if_pos (.inr (Nat.not_lt.mp full))]

theorem revise_of_not_mem (change : ν → ν) {key : κ} {entries : List (κ × ν)}
    (absent : key ∉ keys entries) : revise key change entries = entries := by
  refine (List.map_congr_left fun entry member => ?_).trans (List.map_id' entries)
  refine if_neg ?_
  rintro rfl
  exact absent (List.mem_map_of_mem member)

theorem put_eq {key : κ} {value : Option ν → ν} {entries : List (κ × ν)}
    (distinct : (keys entries).Nodup) :
    put key value entries =
      if key ∈ keys entries then revise key (fun old => value (some old)) entries
      else entries ++ [(key, value none)] := by
  induction entries with
  | nil => simp [put, keys]
  | cons entry rest ih =>
    obtain ⟨new, rest_distinct⟩ := List.nodup_cons.mp distinct
    by_cases here : entry.1 = key
    · -- The key stands here, so it does not occur in the rest.
      have last := revise_of_not_mem (fun old => value (some old)) (here ▸ new)
      simp only [revise] at last
      simp [put, keys, revise, here, last]
    · have there : key ∈ keys (entry :: rest) ↔ key ∈ keys rest := by
        simp [keys, Ne.symm here]
      rw [put, if_neg here, ih rest_distinct]
      simp only [there]
      split <;> simp [revise, here]

theorem remove_eq {key : κ} {entries : List (κ × ν)} (distinct : (keys entries).Nodup) :
    remove key entries = entries.eraseP (·.1 = key) := by
  induction entries with
  | nil => rfl
  | cons entry rest ih =>
    obtain ⟨new, rest_distinct⟩ := List.nodup_cons.mp distinct
    by_cases here : entry.1 = key
    · have last : remove key rest = rest := by
        refine List.filter_eq_self.mpr fun other member => decide_eq_true ?_
        rintro same
        exact new (here ▸ same ▸ List.mem_map_of_mem member)
      simpa [remove, List.eraseP_cons, here] using last
    · have later := ih rest_distinct
      simpa [remove, List.eraseP_cons, here] using later

theorem find?_eq_lookup (key : κ) (entries : List (κ × ν)) :
    find? key entries = entries.lookup key := by
  induction entries with
  | nil => rfl
  | cons entry rest ih =>
    obtain ⟨first, value⟩ := entry
    by_cases here : first = key
    · simp [find?, here]
    · have other : (key == first) = false := beq_false_of_ne (Ne.symm here)
      simp [find?, List.lookup_cons, here, other, ih]

end Entries

namespace CappedTable

open Entries (revise offer)

def Act.enter (limit : Nat) (entries : List (κ × ν)) : Act κ ν → List (κ × ν)
  | .update key new change => offer limit key new change entries
  | .insert key value => offer limit key value (fun _ => value) entries
  | .modify key change => revise key change entries
  | .erase key => entries.eraseP (·.1 = key)
  | .mapValues change => entries.map fun (key, value) => (key, change value)
  | .mapEntries change => entries.map fun (key, value) => (key, change key value)
  | .clear => []

/-- The first distinct keys that were offered, as many as there is room for. -/
def firstKeys (limit : Nat) (offered : List κ) : List κ := offered.eraseDups.take limit

theorem firstKeys_concat (limit : Nat) (offered : List κ) (key : κ) :
    firstKeys limit (offered ++ [key]) =
      if key ∈ firstKeys limit offered ∨ limit ≤ (firstKeys limit offered).length then
        firstKeys limit offered
      else firstKeys limit offered ++ [key] := by
  have distinct : (offered ++ [key]).eraseDups =
      if key ∈ offered then offered.eraseDups else offered.eraseDups ++ [key] := by
    rw [List.eraseDups_append]
    by_cases known : key ∈ offered <;> simp [List.removeAll, List.eraseDups_cons, known]
  unfold firstKeys
  rw [distinct]
  rcases Nat.lt_or_ge offered.eraseDups.length limit with room | full
  · -- There is room for all that was offered so far.
    rw [List.take_of_length_le (Nat.le_of_lt room)]
    simp only [List.mem_eraseDups, Nat.not_le.mpr room, or_false]
    split
    · exact List.take_of_length_le (Nat.le_of_lt room)
    · exact List.take_of_length_le (List.length_append.trans_le room)
  · -- Those there is room for have all been offered already.
    have length : (offered.eraseDups.take limit).length = limit := by
      rw [List.length_take, Nat.min_eq_left full]
    refine Eq.trans ?_ (if_pos (.inr length.ge)).symm
    split
    · rfl
    · exact List.take_append_of_le_length full

/-! ### The table -/

def perform (capped : CappedTable κ ν) : Act κ ν → Bool × CappedTable κ ν
  | .update key new change => capped.update key new change
  | .insert key value => capped.insert key value
  | .modify key change => (true, capped.modify key change)
  | .erase key => (true, capped.erase key)
  | .mapValues change => (true, capped.mapValues change)
  | .mapEntries change => (true, capped.mapEntries change)
  | .clear => (true, capped.clear)

def performAll (capped : CappedTable κ ν) (acts : List (Act κ ν)) : CappedTable κ ν :=
  acts.foldl (fun capped act => (capped.perform act).2) capped

/-- The acts of a run, each with whether the table it comes to lets it through. -/
def trace (capped : CappedTable κ ν) : List (Act κ ν) → List (Act κ ν × Bool)
  | [] => []
  | act :: rest => (act, (capped.perform act).1) :: (capped.perform act).2.trace rest

theorem performAll_concat (capped : CappedTable κ ν) (acts : List (Act κ ν)) (act : Act κ ν) :
    capped.performAll (acts ++ [act]) = ((capped.performAll acts).perform act).2 :=
  List.foldl_append

theorem trace_concat (capped : CappedTable κ ν) (acts : List (Act κ ν)) (act : Act κ ν) :
    capped.trace (acts ++ [act]) =
      capped.trace acts ++ [(act, ((capped.performAll acts).perform act).1)] := by
  induction acts generalizing capped with
  | nil => rfl
  | cons first rest ih => exact congrArg _ (ih (capped.perform first).2)

section
variable {capped : CappedTable κ ν} {limit : Nat}

theorem size_eq (capped : CappedTable κ ν) : capped.size = capped.keys.length :=
  (List.length_map _).symm

theorem admits_eq_false_iff {key : κ} :
    capped.admits key = false ↔ key ∉ capped.keys ∧ capped.limit ≤ capped.size := by
  have known : capped.contains key = true ↔ key ∈ capped.keys :=
    (capped.table.mem_keys_iff key).symm
  rw [← known]
  simp [admits, full]

theorem entries_update (key : κ) (new : ν) (change : ν → ν) :
    (capped.update key new change).2.table.entries =
      offer capped.limit key new change capped.table.entries := by
  unfold update offer
  cases admitted : capped.admits key with
  | false =>
    obtain ⟨absent, full⟩ := admits_eq_false_iff.mp admitted
    have absent : key ∉ Entries.keys capped.table.entries := absent
    have full : ¬ capped.table.entries.length < capped.limit := Nat.not_lt.mpr full
    rw [if_neg Bool.false_ne_true, if_neg absent, if_neg full]
    rfl
  | true =>
    rw [if_pos rfl]
    refine (Entries.put_eq capped.table.distinct).trans ?_
    split
    · rfl
    · next absent =>
      -- A new key is admitted, so there is room for it.
      have room : capped.table.entries.length < capped.limit := by
        refine Nat.lt_of_not_le fun full => ?_
        rw [admits_eq_false_iff.mpr ⟨absent, full⟩] at admitted
        cases admitted
      rw [if_pos room]
      rfl

theorem entries_perform (act : Act κ ν) :
    (capped.perform act).2.table.entries = act.enter capped.limit capped.table.entries := by
  cases act with
  | update key new change => exact entries_update key new change
  | insert key value => exact entries_update key value fun _ => value
  | modify key change =>
    refine List.map_congr_left fun (first, value) _ => ?_
    by_cases here : first = key <;> simp [here]
  | erase key => exact Entries.remove_eq capped.table.distinct
  | mapValues change => rfl
  | mapEntries change => rfl
  | clear => rfl

theorem keys_perform {act : Act κ ν} (keeps : act.keepsKeys = true) :
    (capped.perform act).2.keys = act.offered?.elim capped.keys fun key =>
      if key ∈ capped.keys ∨ capped.limit ≤ capped.size then capped.keys
      else capped.keys ++ [key] := by
  unfold keys Table.keys
  rw [entries_perform]
  cases act with
  | update key new change => exact Entries.keys_offer capped.limit key new change _
  | insert key value => exact Entries.keys_offer capped.limit key value _ _
  | modify key change => exact Entries.keys_revise key change _
  | mapValues change => exact Entries.keys_map (fun _ => change) _
  | mapEntries change => exact Entries.keys_map change _
  | erase key => cases keeps
  | clear => cases keeps

theorem rejected_perform (act : Act κ ν) :
    (capped.perform act).2.rejected =
      if act.isClear then 0 else capped.rejected + if (capped.perform act).1 then 0 else 1 := by
  cases act with
  | update key new change => exact capped.rejected_update key new change
  | insert key value => exact capped.rejected_update key value fun _ => value
  | _ => rfl

theorem perform_offered {act : Act κ ν} {key : κ} (offered : act.offered? = some key) :
    (capped.perform act).1 = capped.admits key ∧
      (capped.admits key = false → (capped.perform act).2 = capped.refuse) := by
  have updated : ∀ new change, (capped.update key new change).1 = capped.admits key ∧
      (capped.admits key = false → (capped.update key new change).2 = capped.refuse) := by
    intro new change
    unfold update
    cases capped.admits key <;> simp
  cases act with
  | update other new change =>
    cases offered
    exact updated new change
  | insert other value =>
    cases offered
    exact updated value fun _ => value
  | _ => cases offered

theorem Fits.perform (fits : capped.Fits limit) (act : Act κ ν) :
    (capped.perform act).2.Fits limit := by
  cases act with
  | update key new change => exact fits.update key new change
  | insert key value => exact fits.update key value _
  | modify key change => exact ⟨fits.kept, (List.length_map _).trans_le fits.bound⟩
  | erase key =>
    exact ⟨fits.kept, Nat.le_trans (List.length_filter_le _ _) fits.bound⟩
  | mapValues change => exact ⟨fits.kept, (List.length_map _).trans_le fits.bound⟩
  | mapEntries change => exact ⟨fits.kept, (List.length_map _).trans_le fits.bound⟩
  | clear => exact ⟨fits.kept, Nat.zero_le _⟩

/-! ### Runs -/

theorem Fits.performAll (fits : capped.Fits limit) (acts : List (Act κ ν)) :
    (capped.performAll acts).Fits limit := by
  induction acts generalizing capped with
  | nil => exact fits
  | cons act rest ih => exact ih (fits.perform act)

theorem Fits.entries_performAll (fits : capped.Fits limit) (acts : List (Act κ ν)) :
    (capped.performAll acts).table.entries = acts.foldl (Act.enter limit) capped.table.entries := by
  induction acts generalizing capped with
  | nil => rfl
  | cons act rest ih =>
    have first := capped.entries_perform act
    rw [fits.kept] at first
    exact (ih (fits.perform act)).trans (by rw [first, List.foldl_cons])

theorem keys_performAll {acts : List (Act κ ν)} (keep : ∀ act ∈ acts, act.keepsKeys = true) :
    ((create limit : CappedTable κ ν).performAll acts).keys =
      firstKeys limit (acts.filterMap Act.offered?) := by
  induction acts using List.reverseRecOn with
  | nil => exact List.take_nil.symm
  | append_singleton acts act ih =>
    obtain ⟨before, here⟩ := List.forall_mem_append.mp keep
    have fits := (fits_create limit : (create limit : CappedTable κ ν).Fits limit).performAll acts
    rw [performAll_concat, keys_perform (here act (List.mem_singleton_self act)), size_eq,
      fits.kept, ih before, List.filterMap_append]
    cases offered : act.offered? with
    | none => simp [offered]
    | some key => simp [offered, firstKeys_concat]

theorem rejected_performAll (acts : List (Act κ ν)) :
    ((create limit : CappedTable κ ν).performAll acts).rejected =
      (((create limit).trace acts).rtakeWhile (!·.1.isClear)).countP (!·.2) := by
  induction acts using List.reverseRecOn with
  | nil => rfl
  | append_singleton acts act ih =>
    rw [performAll_concat, rejected_perform, trace_concat, List.rtakeWhile_concat, ih]
    cases act.isClear with
    | true => rfl
    | false =>
      cases (((create limit).performAll acts).perform act).1 <;> simp [List.countP_append]

end

/-- Whatever is done to a table, it has the entries of a list in which a new key goes to the end
while there is room, a known key keeps its place and a removal keeps the order of the others. The
limit holds; an insertion is refused exactly where its key is new and the table full, and then
nothing but the count of refusals changes; that count is of the insertions refused since the
table was last cleared; and where no key was taken out, the keys are the first ones offered. -/
theorem arrival_exact (limit : Nat) (acts : List (Act κ ν)) :
    let capped := (create limit : CappedTable κ ν).performAll acts
    capped.table.entries = acts.foldl (Act.enter limit) [] ∧
    (∀ key, capped.get? key = capped.table.entries.lookup key) ∧
    capped.keys.Nodup ∧ capped.limit = limit ∧ capped.size ≤ limit ∧
    (∀ act key, act.offered? = some key →
      ((capped.perform act).1 = false ↔ key ∉ capped.keys ∧ capped.size = limit) ∧
      ((capped.perform act).1 = false →
        (capped.perform act).2 = { capped with rejected := capped.rejected + 1 })) ∧
    capped.rejected = (((create limit).trace acts).rtakeWhile (!·.1.isClear)).countP (!·.2) ∧
    ((∀ act ∈ acts, act.keepsKeys = true) →
      capped.keys = (acts.filterMap Act.offered?).eraseDups.take limit) := by
  intro capped
  have fresh : (create limit : CappedTable κ ν).Fits limit := fits_create limit
  have fits : capped.Fits limit := fresh.performAll acts
  refine ⟨fresh.entries_performAll acts, fun key => Entries.find?_eq_lookup key _,
    capped.table.distinct, fits.kept, fits.bound, ?_, rejected_performAll acts, keys_performAll⟩
  intro act key offered
  obtain ⟨outcome, refused⟩ := capped.perform_offered offered
  rw [outcome]
  refine ⟨?_, refused⟩
  -- The size never exceeds the limit, so to be full is to have reached it.
  rw [admits_eq_false_iff, fits.kept]
  constructor
  · rintro ⟨absent, full⟩
    exact ⟨absent, Nat.le_antisymm fits.bound full⟩
  · rintro ⟨absent, full⟩
    exact ⟨absent, full.ge⟩

/-- Two keys have come before a third, which is turned away; the first is still counted. -/
theorem arrival_exact_full :
    let acts : List (Act String Nat) :=
      [.update "a" 0 (· + 1), .insert "b" 5, .insert "c" 7, .update "a" 0 (· + 41)]
    let capped := (create 2 : CappedTable String Nat).performAll acts
    (∀ act ∈ acts, act.keepsKeys = true) ∧ capped.table.entries = [("a", 42), ("b", 5)] ∧
      capped.rejected = 1 ∧ capped.keys = ["a", "b"] := by
  intro acts capped
  obtain ⟨entries, -, -, -, -, -, rejected, first⟩ := arrival_exact 2 acts
  have keep : ∀ act ∈ acts, act.keepsKeys = true := by decide
  refine ⟨keep, ?_, ?_, ?_⟩
  · exact entries.trans (by decide)
  · exact rejected.trans (by decide)
  · exact (first keep).trans (by decide)

end CappedTable

end Telemetry
