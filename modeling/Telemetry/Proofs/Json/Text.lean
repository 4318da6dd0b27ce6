import Telemetry.Proofs.Json.Number
import Telemetry.Proofs.Json.Reading
import Telemetry.Proofs.Json.Spelling

/-!
Values read back from their text.

A value whose brackets are not nested too deep is read back from its text on one line, strings of
every content included, as soon as each of its numbers is read back on its own. Every integer
within 64 bits is. The numbers of a value that was read are the ones a literal can stand for.
-/

set_option autoImplicit false

namespace Telemetry.Json

section
variable {Text Number : Type}

mutual

def Tree.numbers : Tree Text Number → List Number
  | .num value => [value]
  | .arr items => itemsNumbers items
  | .obj members => membersNumbers members
  | _ => []

def itemsNumbers : List (Tree Text Number) → List Number
  | [] => []
  | item :: items => item.numbers ++ itemsNumbers items

def membersNumbers : List (Text × Tree Text Number) → List Number
  | [] => []
  | (_, value) :: members => value.numbers ++ membersNumbers members

end

theorem mem_membersNumbers {members : List (Text × Tree Text Number)} {number : Number} :
    number ∈ membersNumbers members ↔ ∃ member ∈ members, number ∈ member.2.numbers := by
  induction members with
  | nil => simp [membersNumbers]
  | cons first members ih => simp [membersNumbers, ih]

theorem depthMembers_le {members : List (Text × Tree Text Number)} {limit : Nat}
    (each : ∀ member ∈ members, member.2.depth ≤ limit) : Tree.depthMembers members ≤ limit := by
  induction members with
  | nil => exact Nat.zero_le _
  | cons first members ih =>
    obtain ⟨here, later⟩ := List.forall_mem_cons.mp each
    exact Nat.max_le.mpr ⟨here, ih later⟩

end

/-! Numbers of what is read -/

mutual

theorem fits_elaborate? (raw : Raw) {value : Value}
    (read : raw.elaborate? Spelling.text? Literal.number? = some value) :
    ∀ n ∈ value.numbers, n.Fits := by
  match raw with
  | .null | .bool _ =>
    cases read
    nofun
  | .num literal =>
    obtain ⟨number, found, rfl⟩ := Option.map_eq_some_iff.mp read
    intro n inside
    cases List.mem_singleton.mp inside
    exact fits_number? found
  | .str spelling =>
    obtain ⟨text, found, rfl⟩ := Option.map_eq_some_iff.mp read
    nofun
  | .arr items =>
    obtain ⟨values, found, rfl⟩ := Option.map_eq_some_iff.mp read
    exact fits_elaborateItems? items found
  | .obj members =>
    obtain ⟨values, found, rfl⟩ := Option.map_eq_some_iff.mp read
    exact fits_elaborateMembers? members found

theorem fits_elaborateItems? (raws : List Raw) {values : List Value}
    (read : Tree.elaborateItems? Spelling.text? Literal.number? raws = some values) :
    ∀ n ∈ itemsNumbers values, n.Fits := by
  match raws with
  | [] =>
    cases read
    nofun
  | raw :: raws =>
    simp only [Tree.elaborateItems?, Option.bind_eq_bind, Option.bind_eq_some_iff] at read
    obtain ⟨value, first, others, rest, same⟩ := read
    cases same
    intro n inside
    rcases List.mem_append.mp inside with inside | inside
    · exact fits_elaborate? raw first n inside
    · exact fits_elaborateItems? raws rest n inside

theorem fits_elaborateMembers? (raws : List (Spelling × Raw)) {members : Members}
    (read : Tree.elaborateMembers? Spelling.text? Literal.number? raws = some members) :
    ∀ n ∈ membersNumbers members, n.Fits := by
  match raws with
  | [] =>
    cases read
    nofun
  | (_, raw) :: raws =>
    simp only [Tree.elaborateMembers?, Option.bind_eq_bind, Option.bind_eq_some_iff] at read
    obtain ⟨key, _, value, first, others, rest, same⟩ := read
    cases same
    intro n inside
    rcases List.mem_append.mp inside with inside | inside
    · exact fits_elaborate? raw first n inside
    · exact fits_elaborateMembers? raws rest n inside

end

theorem fits_value? {text : String} {value : Value} (read : value? text = some value) :
    ∀ n ∈ value.numbers, n.Fits := by
  obtain ⟨raw, _, elaborated⟩ := Option.bind_eq_some_iff.mp read
  split at elaborated
  · exact fits_elaborate? raw elaborated
  · cases elaborated

/-! Text that is read back -/

def Number.ReadsBack (number : Number) : Prop :=
  value? (Value.text (.num number)) = some (.num number)

structure Spells (raw : Raw) (value : Value) : Prop where
  row : Token.all? (Value.chars value) = some raw.tokens
  stands : raw.elaborate? Spelling.text? Literal.number? = some value
  depth : raw.depth = value.depth

structure SpellsItems (raws : List Raw) (values : List Value) : Prop where
  row : Token.all? (Value.itemsChars values) = some (itemsTokens raws)
  stands : Tree.elaborateItems? Spelling.text? Literal.number? raws = some values
  depth : Tree.depthItems raws = Tree.depthItems values

structure SpellsMembers (raws : List (Spelling × Raw)) (members : Members) : Prop where
  row : Token.all? (Value.membersChars members) = some (membersTokens raws)
  stands : Tree.elaborateMembers? Spelling.text? Literal.number? raws = some members
  depth : Tree.depthMembers raws = Tree.depthMembers members

theorem value?_text_of_spells {raw : Raw} {value : Value} (spells : Spells raw value)
    (shallow : value.depth ≤ depthLimit) : value? (Value.text value) = some value := by
  have read : raw? (Value.text value) = some raw := by
    rw [raw?, Value.text, String.toList_ofList, spells.row]
    exact ofTokens?_eq_some_iff.mpr rfl
  rw [value?, read]
  show (if raw.depth ≤ depthLimit then raw.value? else none) = some value
  rw [spells.depth, if_pos shallow]
  exact spells.stands

theorem Number.ReadsBack.spells {number : Number} (back : number.ReadsBack) :
    ∃ literal, Spells (.num literal) (.num number) := by
  -- Only the row of a lone literal is read as a tree that stands for a number.
  obtain ⟨raw, found, elaborated⟩ := Option.bind_eq_some_iff.mp back
  obtain ⟨row, read, tree⟩ := Option.bind_eq_some_iff.mp found
  rw [Value.text, String.toList_ofList] at read
  split at elaborated
  · cases raw with
    | num literal =>
      rw [ofTokens?_eq_some_iff.mp tree] at read
      exact ⟨literal, read, elaborated, rfl⟩
    | null | bool => cases elaborated
    | str | arr | obj =>
      obtain ⟨_, _, other⟩ := Option.map_eq_some_iff.mp elaborated
      cases other
  · cases elaborated

theorem Number.readsBack_of_literal {number : Number} {literal : Literal}
    (row : Token.all? number.text = some [.num literal])
    (stands : literal.number? = some number) : number.ReadsBack := by
  have spells : Spells (.num literal) (.num number) := {
    row := row
    stands := congrArg (Option.map Tree.num) stands
    depth := rfl }
  exact value?_text_of_spells spells (Nat.zero_le _)

theorem Number.readsBack_int {n : Int} (low : -2 ^ 63 ≤ n) (high : n < 2 ^ 64) :
    (Number.int n).ReadsBack :=
  readsBack_of_literal (Token.all?_int n) (Literal.number?_ofInt low high)

section
variable {raw : Raw} {raws : List Raw} {value : Value} {values : List Value}

theorem SpellsItems.singleton (spells : Spells raw value) : SpellsItems [raw] [value] where
  row := spells.row
  stands := by
    simp [Tree.elaborateItems?, spells.stands]
  depth := congrArg (max · 0) spells.depth

theorem SpellsItems.cons (first : Spells raw value) (later : SpellsItems raws values)
    (more : values ≠ []) : SpellsItems (raw :: raws) (value :: values) where
  row := by
    have more_raws : raws ≠ [] := by
      rintro rfl
      exact more (Option.some.inj later.stands).symm
    rw [Value.itemsChars, itemsTokens]
    · exact Token.all?_comma first.row later.row
    · exact more_raws
    · exact more
  stands := by
    simp [Tree.elaborateItems?, first.stands, later.stands]
  depth := by
    rw [Tree.depthItems, Tree.depthItems, first.depth, later.depth]

theorem SpellsItems.arr (spells : SpellsItems raws values) : Spells (.arr raws) (.arr values) where
  row := by
    have inside := Token.all?_mark spells.row ']' .closeArray (by decide) rfl (fun _ => rfl) []
    rw [Token.all?] at inside
    rw [Value.chars, List.append_assoc, List.singleton_append,
      Token.all?_cons rfl rfl, inside]
    rfl
  stands := by
    rw [Tree.elaborate?, spells.stands]
    rfl
  depth := congrArg (· + 1) spells.depth

end

section
variable {raw : Raw} {raws : List (Spelling × Raw)} {value : Value} {members : Members}

theorem all?_member (key : String) (spells : Spells raw value) :
    Token.all? (stringText key ++ [':'] ++ Value.chars value) =
      some ([.str (Spelling.ofText key), .colon] ++ raw.tokens) := by
  rw [List.append_assoc, List.singleton_append, Token.all?_stringText,
    Token.all?_cons rfl rfl, spells.row]
  rfl

theorem SpellsMembers.singleton (key : String) (spells : Spells raw value) :
    SpellsMembers [(Spelling.ofText key, raw)] [(key, value)] where
  row := all?_member key spells
  stands := by
    simp [Tree.elaborateMembers?, spells.stands, Spelling.text?_ofText]
  depth := congrArg (max · 0) spells.depth

theorem SpellsMembers.cons (key : String) (first : Spells raw value)
    (later : SpellsMembers raws members) (more : members ≠ []) :
    SpellsMembers ((Spelling.ofText key, raw) :: raws) ((key, value) :: members) where
  row := by
    have more_raws : raws ≠ [] := by
      rintro rfl
      exact more (Option.some.inj later.stands).symm
    rw [Value.membersChars, membersTokens]
    · exact Token.all?_comma (all?_member key first) later.row
    · exact more_raws
    · exact more
  stands := by
    simp [Tree.elaborateMembers?, first.stands, later.stands, Spelling.text?_ofText]
  depth := by
    rw [Tree.depthMembers, Tree.depthMembers, first.depth, later.depth]

theorem SpellsMembers.obj (spells : SpellsMembers raws members) :
    Spells (.obj raws) (.obj members) where
  row := by
    have inside := Token.all?_mark spells.row '\x7d' .closeObject (by decide) rfl (fun _ => rfl) []
    rw [Token.all?] at inside
    rw [Value.chars, List.append_assoc, List.singleton_append,
      Token.all?_cons rfl rfl, inside]
    rfl
  stands := by
    rw [Tree.elaborate?, spells.stands]
    rfl
  depth := congrArg (· + 1) spells.depth

end

mutual

theorem exists_spells (value : Value) (back : ∀ n ∈ value.numbers, n.ReadsBack) :
    ∃ raw, Spells raw value := by
  match value with
  | .null => exact ⟨.null, by decide +kernel, rfl, rfl⟩
  | .bool true => exact ⟨.bool true, by decide +kernel, rfl, rfl⟩
  | .bool false => exact ⟨.bool false, by decide +kernel, rfl, rfl⟩
  | .num number =>
    obtain ⟨literal, spells⟩ := (back number (List.mem_singleton_self _)).spells
    exact ⟨.num literal, spells⟩
  | .str text =>
    have row := Token.all?_stringText text []
    rw [List.append_nil, Token.all?] at row
    refine ⟨.str (Spelling.ofText text), row, ?_, rfl⟩
    rw [Tree.elaborate?, Spelling.text?_ofText]
    rfl
  | .arr items =>
    obtain ⟨raws, spells⟩ := exists_spellsItems items back
    exact ⟨.arr raws, spells.arr⟩
  | .obj members =>
    obtain ⟨raws, spells⟩ := exists_spellsMembers members back
    exact ⟨.obj raws, spells.obj⟩

theorem exists_spellsItems (items : List Value) (back : ∀ n ∈ itemsNumbers items, n.ReadsBack) :
    ∃ raws, SpellsItems raws items := by
  match items with
  | [] => exact ⟨[], by decide +kernel, rfl, rfl⟩
  | [item] =>
    obtain ⟨raw, first⟩ := exists_spells item fun n inside =>
      back n (List.mem_append.mpr (.inl inside))
    exact ⟨[raw], .singleton first⟩
  | item :: next :: rest =>
    obtain ⟨raw, first⟩ := exists_spells item fun n inside =>
      back n (List.mem_append.mpr (.inl inside))
    obtain ⟨raws, later⟩ := exists_spellsItems (next :: rest) fun n inside =>
      back n (List.mem_append.mpr (.inr inside))
    exact ⟨raw :: raws, .cons first later nofun⟩

theorem exists_spellsMembers (members : Members)
    (back : ∀ n ∈ membersNumbers members, n.ReadsBack) : ∃ raws, SpellsMembers raws members := by
  match members with
  | [] => exact ⟨[], by decide +kernel, rfl, rfl⟩
  | [(key, value)] =>
    obtain ⟨raw, first⟩ := exists_spells value fun n inside =>
      back n (List.mem_append.mpr (.inl inside))
    exact ⟨[(Spelling.ofText key, raw)], .singleton key first⟩
  | (key, value) :: next :: rest =>
    obtain ⟨raw, first⟩ := exists_spells value fun n inside =>
      back n (List.mem_append.mpr (.inl inside))
    obtain ⟨raws, later⟩ := exists_spellsMembers (next :: rest) fun n inside =>
      back n (List.mem_append.mpr (.inr inside))
    exact ⟨(Spelling.ofText key, raw) :: raws, .cons key first later nofun⟩

end

theorem value?_text {value : Value} (back : ∀ n ∈ value.numbers, n.ReadsBack)
    (shallow : value.depth ≤ depthLimit) : value? (Value.text value) = some value := by
  obtain ⟨raw, spells⟩ := exists_spells value back
  exact value?_text_of_spells spells shallow

end Telemetry.Json
