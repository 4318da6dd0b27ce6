import Mathlib.Data.List.Nodup
import Telemetry.Log

/-!
Payloads of crash lines, written and read back.

A payload lists keys and values in braces; here it is written from its entries, and what is read
from the written line is stated by the entries alone. Main statement: a line reports a crash
exactly if its reason and its index say so, and then with the application it names, that index and
the exit description it gives. Where the description stands behind those two, they are read the
same whatever it says.
-/

set_option autoImplicit false

namespace Telemetry

namespace Text

section
variable {pattern front rest : List Char} {c : Char}

def behind? (pattern text : List Char) : Option (List Char) :=
  (cutAt? pattern text).map fun (_, rest) => rest

theorem cutAt?_of_behind? {text : List Char} (found : behind? pattern text = some rest) :
    ∃ before, cutAt? pattern text = some (before, rest) := by
  obtain ⟨⟨before, _⟩, cut, rfl⟩ := Option.map_eq_some_iff.mp found
  exact ⟨before, cut⟩

theorem behind?_append_self (pattern rest : List Char) :
    behind? pattern (pattern ++ rest) = some rest := by
  have starts : pattern.isPrefixOf? (pattern ++ rest) = some rest :=
    List.isPrefixOf?_eq_some_iff_append_eq.mpr rfl
  generalize whole : pattern ++ rest = text at starts ⊢
  cases text with
  | nil =>
    obtain ⟨rfl, rfl⟩ := List.append_eq_nil_iff.mp whole
    rfl
  | cons c text => simp [behind?, cutAt?, starts]

theorem behind?_cons (apart : ¬ pattern <+: c :: rest) :
    behind? pattern (c :: rest) = behind? pattern rest := by
  have differs : pattern.isPrefixOf? (c :: rest) = none := by
    rw [Option.eq_none_iff_forall_ne_some]
    intro after found
    exact apart ⟨after, List.isPrefixOf?_eq_some_iff_append_eq.mp found⟩
  simp only [behind?, cutAt?, differs, Option.map_map]
  rfl

theorem behind?_append_of_not_mem (free : c ∉ front) :
    behind? (c :: pattern) (front ++ rest) = behind? (c :: pattern) rest := by
  induction front with
  | nil => rfl
  | cons d front ih =>
    have apart : c ≠ d := List.ne_of_not_mem_cons free
    rw [List.cons_append, behind?_cons fun starts => apart (List.cons_prefix_cons.mp starts).1,
      ih (List.not_mem_of_not_mem_cons free)]

theorem prefix_of_prefix_append_cons (apart : c ∉ pattern)
    (starts : pattern <+: front ++ c :: rest) : pattern <+: front := by
  induction pattern generalizing front with
  | nil => exact List.nil_prefix
  | cons d pattern ih =>
    cases front with
    | nil =>
      exact absurd (List.cons_prefix_cons.mp starts).1.symm (List.ne_of_not_mem_cons apart)
    | cons e front =>
      obtain ⟨same, starts⟩ := List.cons_prefix_cons.mp starts
      exact List.cons_prefix_cons.mpr ⟨same, ih (List.not_mem_of_not_mem_cons apart) starts⟩

theorem behind?_append_cons (absent : ¬ pattern <:+: front) (apart : c ∉ pattern) :
    behind? pattern (front ++ c :: rest) = behind? pattern rest := by
  induction front with
  | nil =>
    exact behind?_cons fun starts => absent (prefix_of_prefix_append_cons apart starts).isInfix
  | cons d front ih =>
    rw [List.infix_cons_iff, not_or] at absent
    have later : ¬ pattern <+: d :: (front ++ c :: rest) := fun starts =>
      absent.1 (prefix_of_prefix_append_cons apart starts)
    rw [List.cons_append, behind?_cons later, ih absent.2]

/-- Two names up to the same mark, with what has to follow the one and what follows the other. -/
theorem append_cons_prefix_iff {name other close : List Char} (free : c ∉ name)
    (free' : c ∉ other) :
    name ++ c :: close <+: other ++ c :: rest ↔ name = other ∧ close <+: rest := by
  induction name generalizing other with
  | nil =>
    cases other with
    | nil => simp [List.cons_prefix_cons]
    | cons d other =>
      have apart : c ≠ d := List.ne_of_not_mem_cons free'
      simp [List.cons_prefix_cons, apart]
  | cons d name ih =>
    cases other with
    | nil =>
      have apart : c ≠ d := List.ne_of_not_mem_cons free
      simp [List.cons_prefix_cons, apart.symm]
    | cons e other =>
      have ih := ih (List.not_mem_of_not_mem_cons free) (List.not_mem_of_not_mem_cons free')
      simp only [List.cons_append, List.cons_prefix_cons, ih, List.cons.injEq, and_assoc]

theorem head?_words {word : List Char} (filled : word ≠ [])
    (solid : ∀ d ∈ word, isBlank d = false) (blank : isBlank c = true) :
    (words (word ++ c :: rest)).head? = some word := by
  rw [words, List.splitOnP_append_cons_of_forall_mem solid c blank,
    List.filter_cons_of_pos (by simpa using filled), List.head?_cons]

theorem trimStart_cons (solid : isBlank c = false) : trimStart (c :: rest) = c :: rest :=
  List.dropWhile_cons_of_neg (by simp [solid])

end

end Text

namespace Log

/-! ### Payloads as they are written -/

structure Numeral where
  negative : Bool
  digits : List Char
  filled : digits ≠ []
  decimal : ∀ c ∈ digits, c.isDigit = true

namespace Numeral

def value (numeral : Numeral) : Int :=
  let magnitude : Int := Nat.ofDigitChars 10 numeral.digits 0
  if numeral.negative then -magnitude else magnitude

def render (numeral : Numeral) : List Char :=
  if numeral.negative then '-' :: numeral.digits else numeral.digits

end Numeral

inductive Value where
  | number (numeral : Numeral)
  | text (content : String)

namespace Value

def render : Value → List Char
  | number numeral => numeral.render
  | text content => '"' :: (content.toList ++ ['"'])

def Plain : Value → Prop
  | number _ => True
  | text content => '"' ∉ content.toList

instance : (value : Value) → Decidable value.Plain
  | number _ => inferInstanceAs (Decidable True)
  | text content => inferInstanceAs (Decidable ('"' ∉ content.toList))

def text? : Value → Option String
  | number _ => none
  | text content => some content

def integer? : Value → Option Int
  | number numeral =>
    if -2 ^ 63 ≤ numeral.value ∧ numeral.value < 2 ^ 63 then some numeral.value else none
  | text _ => none

end Value

structure Entry where
  key : String
  value : Value

def keyMark (key : String) : List Char := '"' :: (key.toList ++ ['"', '=', '>'])

namespace Entry

def render (entry : Entry) : List Char := keyMark entry.key ++ entry.value.render

def Plain (entry : Entry) : Prop := '"' ∉ entry.key.toList ∧ entry.value.Plain

instance (entry : Entry) : Decidable entry.Plain :=
  inferInstanceAs (Decidable (_ ∧ _))

end Entry

def renderEntries (entries : List Entry) : List Char :=
  '{' :: ([',', ' '].intercalate (entries.map Entry.render) ++ ['}'])

def crashLine (app : String) (payload : List Char) : String :=
  "App instance exited with guid " ++ app ++ " payload: " ++ String.ofList payload

/-- Entries of distinct keys, without quotes in their keys and texts. -/
structure Payload where
  entries : List Entry
  distinct : (entries.map Entry.key).Nodup
  plain : ∀ entry ∈ entries, entry.Plain

namespace Payload

def render (payload : Payload) : List Char := renderEntries payload.entries

def keys (payload : Payload) : List String := payload.entries.map Entry.key

def value? (payload : Payload) (key : String) : Option Value :=
  (payload.entries.find? (·.key = key)).map Entry.value

theorem value?_eq_some_iff {payload : Payload} {key : String} {value : Value} :
    payload.value? key = some value ↔ ⟨key, value⟩ ∈ payload.entries := by
  constructor
  · intro found
    obtain ⟨⟨name, _⟩, first, rfl⟩ := Option.map_eq_some_iff.mp found
    obtain rfl : name = key := by simpa using List.find?_some first
    exact List.mem_of_find?_eq_some first
  · intro member
    cases first : payload.entries.find? (·.key = key) with
    | none => simpa using List.find?_eq_none.mp first _ member
    | some entry =>
      have same : entry.key = key := by simpa using List.find?_some first
      have one := List.inj_on_of_nodup_map payload.distinct (List.mem_of_find?_eq_some first) member
        same
      rw [value?, first, one, Option.map_some]

/-- The payload tells of a crash, of the instance with this index. -/
def Crashed (payload : Payload) (index : Int) : Prop :=
  ⟨"reason", .text "CRASHED"⟩ ∈ payload.entries ∧
    ∃ numeral : Numeral, ⟨"index", .number numeral⟩ ∈ payload.entries ∧
      numeral.value = index ∧ -2 ^ 63 ≤ index ∧ index < 2 ^ 63

def exitDescription (payload : Payload) : String :=
  ((payload.value? "exit_description").bind Value.text?).getD ""

end Payload

/-! ### Values read off their text -/

def Ended (rest : List Char) : Prop := ∃ c tail, rest = c :: tail ∧ (c = ',' ∨ c = '}')

theorem ended_brace : Ended ['}'] := ⟨'}', [], rfl, .inr rfl⟩

theorem closes_of_ended {rest : List Char} (ended : Ended rest) : closes rest = true := by
  obtain ⟨c, tail, rfl, rfl | rfl⟩ := ended <;> rfl

theorem untilClosed?_append {content rest : List Char} (free : '"' ∉ content)
    (ended : Ended rest) : untilClosed? (content ++ '"' :: rest) = some content := by
  induction content with
  | nil => simp [untilClosed?, closes_of_ended ended]
  | cons c content ih =>
    have apart : '"' ≠ c := List.ne_of_not_mem_cons free
    simp [untilClosed?, apart.symm, ih (List.not_mem_of_not_mem_cons free)]

theorem takeWhile_digits {digits rest : List Char} (decimal : ∀ c ∈ digits, c.isDigit = true)
    (ended : Ended rest) : (digits ++ rest).takeWhile Char.isDigit = digits := by
  obtain ⟨c, tail, rfl, rfl | rfl⟩ := ended <;> simp [List.takeWhile_append_of_pos decimal]

section
variable {rest : List Char}

theorem bounds_of_isDigit {c : Char} (digit : c.isDigit = true) :
    48 ≤ c.toNat ∧ c.toNat ≤ 57 := by
  simpa [Char.isDigit, UInt32.le_iff_toNat_le] using digit

theorem isBlank_of_isDigit {c : Char} (digit : c.isDigit = true) : Text.isBlank c = false := by
  have bounds := bounds_of_isDigit digit
  simp [Text.isBlank]
  omega

theorem Numeral.render_eq_cons (numeral : Numeral) :
    ∃ c tail, numeral.render = c :: tail ∧ (c = '-' ∨ c.isDigit = true) := by
  obtain ⟨negative, digits, filled, decimal⟩ := numeral
  obtain ⟨digit, others, rfl⟩ := List.exists_cons_of_ne_nil filled
  cases negative with
  | true => exact ⟨_, _, rfl, .inl rfl⟩
  | false => exact ⟨_, _, rfl, .inr (decimal digit List.mem_cons_self)⟩

theorem quoted?_of_ne {c : Char} (apart : c ≠ '"') : quoted? (c :: rest) = none := by
  unfold quoted?
  split
  · next same => exact absurd (List.cons.inj same).1 apart
  · rfl

theorem foldl_digits {digits : List Char} (decimal : ∀ c ∈ digits, c.isDigit = true)
    (start : Nat) :
    digits.foldl (fun (n : Int) c => n * 10 + (c.toNat - 48)) start =
      Nat.ofDigitChars 10 digits start := by
  induction digits generalizing start with
  | nil => rfl
  | cons c digits ih =>
    obtain ⟨here, others⟩ := List.forall_mem_cons.mp decimal
    have least := (bounds_of_isDigit here).1
    have step : (start : Int) * 10 + (c.toNat - 48) = (10 * start + (c.toNat - 48) : Nat) := by
      omega
    rw [List.foldl_cons, step, ih others]
    rfl

theorem integer?_numeral (numeral : Numeral) (ended : Ended rest) :
    integer? (numeral.render ++ rest) = (Value.number numeral).integer? := by
  obtain ⟨negative, digits, filled, decimal⟩ := numeral
  obtain ⟨digit, others, rfl⟩ := List.exists_cons_of_ne_nil filled
  have positive : digit ≠ '-' := by
    rintro rfl
    exact absurd (decimal '-' List.mem_cons_self) (by decide)
  unfold integer?
  split
  next sign unsigned signed =>
    -- A digit in front is no sign, so the sign that is read is the one written.
    have parts : sign = negative ∧ unsigned = digit :: others ++ rest := by
      cases negative with
      | true =>
        cases signed
        exact ⟨rfl, rfl⟩
      | false =>
        simp only [Numeral.render] at signed
        split at signed
        · next same => exact absurd (List.cons.inj same).1 positive
        · cases signed
          exact ⟨rfl, rfl⟩
    obtain ⟨rfl, rfl⟩ := parts
    rw [takeWhile_digits decimal ended]
    simp only [foldl_digits decimal]
    rfl

theorem not_mem_render_numeral (numeral : Numeral) : '"' ∉ numeral.render := by
  obtain ⟨negative, digits, filled, decimal⟩ := numeral
  have free : '"' ∉ digits := fun member => absurd (decimal _ member) (by decide)
  cases negative with
  | true => simpa [Numeral.render] using free
  | false => exact free

theorem Value.render_eq_cons (value : Value) :
    ∃ c tail, value.render = c :: tail ∧ Text.isBlank c = false := by
  cases value with
  | text content => exact ⟨_, _, rfl, rfl⟩
  | number numeral =>
    obtain ⟨c, tail, rendered, rfl | digit⟩ := numeral.render_eq_cons
    · exact ⟨_, _, rendered, rfl⟩
    · exact ⟨_, _, rendered, isBlank_of_isDigit digit⟩

def Reads {α : Type} (read : List Char → Option α) (expected : Value → Option α) : Prop :=
  ∀ {value : Value} {rest : List Char}, value.Plain → Ended rest →
    read (value.render ++ rest) = expected value

theorem reads_quoted? : Reads quoted? fun value => value.text?.map String.toList := by
  intro value rest plain ended
  cases value with
  | text content =>
    show untilClosed? ((content.toList ++ ['"']) ++ rest) = some content.toList
    rw [List.append_assoc]
    exact untilClosed?_append plain ended
  | number numeral =>
    obtain ⟨c, tail, rendered, first⟩ := numeral.render_eq_cons
    have apart : c ≠ '"' := by
      rintro rfl
      exact absurd first (by decide)
    show quoted? (numeral.render ++ rest) = none
    rw [rendered]
    exact quoted?_of_ne apart

theorem reads_integer? : Reads integer? Value.integer? := by
  intro value rest _ ended
  cases value with
  | text content => rfl
  | number numeral => exact integer?_numeral numeral ended

end

/-! ### Keys found in a written payload -/

section
variable {key : String} {value : Value} {entry : Entry} {entries before : List Entry}
  {rest : List Char}

def behindKey? (key : String) (text : List Char) : Option (List Char) :=
  Text.behind? (keyMark key) text

theorem valueAfter?_eq_map (key : String) (payload : List Char) :
    valueAfter? key payload = (behindKey? key payload).map Text.trimStart := by
  rw [behindKey?, Text.behind?, Option.map_map]
  rfl

theorem behindKey?_keyMark : behindKey? key (keyMark key ++ rest) = some rest :=
  Text.behind?_append_self _ _

theorem behindKey?_cons {c : Char} (apart : ¬ keyMark key <+: c :: rest) :
    behindKey? key (c :: rest) = behindKey? key rest :=
  Text.behind?_cons apart

theorem behindKey?_append {front : List Char} (free : '"' ∉ front) :
    behindKey? key (front ++ rest) = behindKey? key rest :=
  Text.behind?_append_of_not_mem free

/-- A key that is found only where a key stands: it cannot begin behind a closing quote. -/
structure Findable (key : String) : Prop where
  free : '"' ∉ key.toList
  opens : ∃ c tail, key.toList = c :: tail ∧ c ∉ ['=', ',', '}']

theorem findable_reason : Findable "reason" := ⟨by decide, _, _, rfl, by decide⟩

theorem findable_index : Findable "index" := ⟨by decide, _, _, rfl, by decide⟩

theorem findable_exitDescription : Findable "exit_description" :=
  ⟨by decide, _, _, rfl, by decide⟩

theorem not_keyMark_prefix_closing (findable : Findable key) {c : Char}
    (closing : c ∈ ['=', ',', '}']) : ¬ keyMark key <+: '"' :: c :: rest := by
  obtain ⟨d, tail, spelled, apart⟩ := findable.opens
  intro starts
  rw [keyMark, spelled] at starts
  obtain ⟨rfl, -⟩ := List.cons_prefix_cons.mp (List.cons_prefix_cons.mp starts).2
  exact apart closing

theorem keyMark_prefix_iff (findable : Findable key) {name : List Char} (free : '"' ∉ name) :
    keyMark key <+: '"' :: (name ++ '"' :: rest) ↔ key.toList = name ∧ ['=', '>'] <+: rest := by
  rw [keyMark, List.cons_prefix_cons, Text.append_cons_prefix_iff findable.free free]
  simp

theorem behindKey?_quoted (findable : Findable key) {name tail : List Char} {c : Char}
    (free : '"' ∉ name) (closing : c ∈ ['=', ',', '}']) (apart : c = '=' → key.toList ≠ name) :
    behindKey? key ('"' :: (name ++ '"' :: c :: tail)) = behindKey? key (c :: tail) := by
  -- A key begins with a quote, so only the two quotes around the name could be taken for one.
  have opening : ¬ keyMark key <+: '"' :: (name ++ '"' :: c :: tail) := by
    rw [keyMark_prefix_iff findable free]
    rintro ⟨same, arrow⟩
    exact apart (List.cons_prefix_cons.mp arrow).1.symm same
  calc behindKey? key ('"' :: (name ++ '"' :: c :: tail))
    _ = behindKey? key (name ++ '"' :: c :: tail) := behindKey?_cons opening
    _ = behindKey? key ('"' :: c :: tail) := behindKey?_append free
    _ = behindKey? key (c :: tail) :=
      behindKey?_cons (not_keyMark_prefix_closing findable closing)

theorem behindKey?_value (findable : Findable key) (plain : value.Plain) (ended : Ended rest) :
    behindKey? key (value.render ++ rest) = behindKey? key rest := by
  cases value with
  | number numeral => exact behindKey?_append (not_mem_render_numeral numeral)
  | text content =>
    obtain ⟨c, tail, rfl, end?⟩ := ended
    have closing : c ∈ ['=', ',', '}'] := by
      rcases end? with rfl | rfl <;> decide
    have spelled : (Value.text content).render ++ c :: tail =
        '"' :: (content.toList ++ '"' :: c :: tail) := by
      simp [Value.render]
    rw [spelled]
    refine behindKey?_quoted findable plain closing fun arrow => ?_
    rw [arrow] at end?
    simp at end?

theorem behindKey?_entry_of_ne (findable : Findable key) (plain : entry.Plain)
    (other : entry.key ≠ key) (ended : Ended rest) :
    behindKey? key (entry.render ++ rest) = behindKey? key rest := by
  calc behindKey? key (entry.render ++ rest)
    _ = behindKey? key
        ('"' :: (entry.key.toList ++ '"' :: '=' :: '>' :: (entry.value.render ++ rest))) := by
      simp [Entry.render, keyMark]
    _ = behindKey? key (['=', '>'] ++ (entry.value.render ++ rest)) :=
      behindKey?_quoted findable plain.1 (by decide) fun _ same =>
        other (String.toList_inj.mp same.symm)
    _ = behindKey? key (entry.value.render ++ rest) :=
      behindKey?_append (by decide)
    _ = behindKey? key rest := behindKey?_value findable plain.2 ended

def listed (entries : List Entry) : List Char :=
  entries.flatMap fun entry => [',', ' '] ++ entry.render

theorem listed_cons : listed (entry :: entries) = [',', ' '] ++ entry.render ++ listed entries := by
  simp [listed]

theorem ended_listed (ended : Ended rest) : Ended (listed entries ++ rest) := by
  cases entries with
  | nil => exact ended
  | cons entry entries => exact ⟨_, _, rfl, .inl rfl⟩

theorem intercalate_cons_eq_flatMap {α : Type} (separator piece : List α)
    (pieces : List (List α)) :
    separator.intercalate (piece :: pieces) = piece ++ pieces.flatMap (separator ++ ·) := by
  induction pieces generalizing piece with
  | nil => simp
  | cons next pieces ih => simp [List.intercalate_cons_cons, ih]

theorem behindKey?_renderEntries (key : String) (entries : List Entry) :
    behindKey? key (' ' :: renderEntries entries) =
      behindKey? key (listed entries ++ ['}']) := by
  cases entries with
  | nil =>
    show behindKey? key ([' ', '{'] ++ ['}']) = behindKey? key ['}']
    exact behindKey?_append (by decide)
  | cons entry entries =>
    calc behindKey? key (' ' :: renderEntries (entry :: entries))
      _ = behindKey? key ([' ', '{'] ++ (entry.render ++ (listed entries ++ ['}']))) := by
        simp [renderEntries, intercalate_cons_eq_flatMap, listed, List.flatMap_map]
      _ = behindKey? key (entry.render ++ (listed entries ++ ['}'])) :=
        behindKey?_append (by decide)
      _ = behindKey? key ([',', ' '] ++ (entry.render ++ (listed entries ++ ['}']))) :=
        (behindKey?_append (by decide)).symm
      _ = behindKey? key (listed (entry :: entries) ++ ['}']) := by
        simp [listed_cons]

theorem behindKey?_listed (findable : Findable key) (plain : ∀ entry ∈ before, entry.Plain)
    (absent : key ∉ before.map Entry.key) (ended : Ended rest) :
    behindKey? key (listed before ++ rest) = behindKey? key rest := by
  induction before with
  | nil => rfl
  | cons entry before ih =>
    obtain ⟨here, others⟩ := List.forall_mem_cons.mp plain
    rw [List.map_cons, List.mem_cons, not_or] at absent
    calc behindKey? key (listed (entry :: before) ++ rest)
      _ = behindKey? key ([',', ' '] ++ (entry.render ++ (listed before ++ rest))) := by
        simp [listed_cons]
      _ = behindKey? key (entry.render ++ (listed before ++ rest)) :=
        behindKey?_append (by decide)
      _ = behindKey? key (listed before ++ rest) :=
        behindKey?_entry_of_ne findable here (Ne.symm absent.1) (ended_listed ended)
      _ = behindKey? key rest := ih others absent.2

/-- The value that stands first under its key, with plain entries alone before it. -/
def Leads (entries : List Entry) (key : String) (value : Value) : Prop :=
  ∃ before behind, entries = before ++ ⟨key, value⟩ :: behind ∧
    (∀ entry ∈ before, entry.Plain) ∧ key ∉ before.map Entry.key ∧ value.Plain

theorem Leads.append (leads : Leads entries key value) (more : List Entry) :
    Leads (entries ++ more) key value := by
  obtain ⟨before, behind, rfl, plain⟩ := leads
  exact ⟨before, behind ++ more, by simp, plain⟩

theorem Leads.valueAfter? (leads : Leads entries key value) (findable : Findable key) :
    ∃ rest, Ended rest ∧
      Log.valueAfter? key (' ' :: renderEntries entries) = some (value.render ++ rest) := by
  obtain ⟨before, behind, rfl, plain, absent, -⟩ := leads
  have ended : ∀ entries, Ended (listed entries ++ ['}']) := fun _ => ended_listed ended_brace
  have found : behindKey? key (' ' :: renderEntries (before ++ ⟨key, value⟩ :: behind)) =
      some (value.render ++ (listed behind ++ ['}'])) := by
    rw [behindKey?_renderEntries]
    -- The entries in front are passed over, then the mark of the key is the first there is.
    calc behindKey? key (listed (before ++ ⟨key, value⟩ :: behind) ++ ['}'])
      _ = behindKey? key (listed before ++ (listed (⟨key, value⟩ :: behind) ++ ['}'])) := by
        simp [listed]
      _ = behindKey? key (listed (⟨key, value⟩ :: behind) ++ ['}']) :=
        behindKey?_listed findable plain absent (ended _)
      _ = behindKey? key
          ([',', ' '] ++ (keyMark key ++ (value.render ++ (listed behind ++ ['}'])))) := by
        simp [listed_cons, Entry.render]
      _ = some (value.render ++ (listed behind ++ ['}'])) := by
        rw [behindKey?_append (by decide), behindKey?_keyMark]
  refine ⟨_, ended behind, ?_⟩
  obtain ⟨c, tail, rendered, solid⟩ := value.render_eq_cons
  rw [valueAfter?_eq_map, found, Option.map_some, rendered, List.cons_append,
    Text.trimStart_cons solid]

theorem valueAfter?_eq_none (findable : Findable key) (plain : ∀ entry ∈ entries, entry.Plain)
    (absent : key ∉ entries.map Entry.key) :
    valueAfter? key (' ' :: renderEntries entries) = none := by
  have nowhere : behindKey? key (['}'] ++ []) = none := behindKey?_append (by decide)
  rw [valueAfter?_eq_map, behindKey?_renderEntries,
    behindKey?_listed findable plain absent ended_brace]
  exact congrArg _ nowhere

variable {α : Type} {read : List Char → Option α} {expected : Value → Option α}

theorem Leads.bind_eq (leads : Leads entries key value) (findable : Findable key)
    (reads : Reads read expected) :
    (Log.valueAfter? key (' ' :: renderEntries entries)).bind read = expected value := by
  obtain ⟨rest, ended, found⟩ := leads.valueAfter? findable
  obtain ⟨_, _, _, _, _, plain⟩ := leads
  rw [found, Option.bind_some, reads plain ended]

end

/-! ### Reports -/

namespace Payload

section
variable {payload : Payload} {key : String} {value : Value} {α : Type}
  {read : List Char → Option α} {expected : Value → Option α}

theorem leads (found : payload.value? key = some value) : Leads payload.entries key value := by
  obtain ⟨before, behind, split⟩ := List.append_of_mem (value?_eq_some_iff.mp found)
  have plain := payload.plain
  have distinct := payload.distinct
  simp only [split, List.forall_mem_append, List.forall_mem_cons] at plain
  simp only [split, List.map_append, List.map_cons, List.nodup_append] at distinct
  refine ⟨before, behind, split, plain.1, fun member => ?_, plain.2.1.2⟩
  exact distinct.2.2 key member key List.mem_cons_self rfl

theorem value?_eq_none_iff : payload.value? key = none ↔ key ∉ payload.keys := by
  simp [value?, keys]

theorem valueAfter?_bind (findable : Findable key) (reads : Reads read expected) :
    (valueAfter? key (' ' :: payload.render)).bind read =
      (payload.value? key).bind expected := by
  cases found : payload.value? key with
  | some value => exact (leads found).bind_eq findable reads
  | none =>
    rw [render, valueAfter?_eq_none findable payload.plain (value?_eq_none_iff.mp found)]
    rfl

theorem valueAfter?_bind_append (known : key ∈ payload.keys) (findable : Findable key)
    (reads : Reads read expected) (more : List Entry) :
    (valueAfter? key (' ' :: renderEntries (payload.entries ++ more))).bind read =
      (payload.value? key).bind expected := by
  cases found : payload.value? key with
  | some value => exact ((leads found).append more).bind_eq findable reads
  | none => exact absurd known (value?_eq_none_iff.mp found)

theorem bind_toList : ((payload.value? key).bind fun value => value.text?.map String.toList) =
    ((payload.value? key).bind Value.text?).map String.toList :=
  Option.map_bind.symm

theorem bind_text?_eq_some_iff {content : String} :
    (payload.value? key).bind Value.text? = some content ↔
      ⟨key, .text content⟩ ∈ payload.entries := by
  rw [Option.bind_eq_some_iff, ← value?_eq_some_iff]
  constructor
  · rintro ⟨value, found, same⟩
    cases value with
    | number numeral => cases same
    | text content =>
      cases same
      exact found
  · exact fun found => ⟨_, found, rfl⟩

theorem bind_integer?_eq_some_iff {index : Int} :
    (payload.value? key).bind Value.integer? = some index ↔
      ∃ numeral : Numeral, ⟨key, .number numeral⟩ ∈ payload.entries ∧
        numeral.value = index ∧ -2 ^ 63 ≤ index ∧ index < 2 ^ 63 := by
  simp only [Option.bind_eq_some_iff, ← value?_eq_some_iff]
  constructor
  · rintro ⟨value, found, same⟩
    cases value with
    | text content => cases same
    | number numeral =>
      simp only [Value.integer?, Option.ite_none_right_eq_some, Option.some.injEq] at same
      obtain ⟨fits, rfl⟩ := same
      exact ⟨numeral, found, rfl, fits⟩
  · rintro ⟨numeral, found, rfl, fits⟩
    exact ⟨_, found, if_pos fits⟩

end

def crashIndex? (payload : Payload) : Option Int :=
  if (payload.value? "reason").bind Value.text? = some "CRASHED" then
    (payload.value? "index").bind Value.integer?
  else none

theorem crashIndex?_eq_some_iff {payload : Payload} {index : Int} :
    payload.crashIndex? = some index ↔ payload.Crashed index := by
  rw [crashIndex?, Option.ite_none_right_eq_some, bind_text?_eq_some_iff,
    bind_integer?_eq_some_iff, Crashed]

end Payload

/-- The name of an application that a line can carry. -/
structure Names (app : String) : Prop where
  filled : app ≠ ""
  solid : ∀ c ∈ app.toList, Text.isBlank c = false
  unmarked : ¬ payloadMarker <:+: app.toList

section
variable {app : String} {text : List Char}

theorem crashReport?_crashLine (names : Names app) (text : List Char) (time : Instant) :
    crashReport? (crashLine app text) time =
      ((valueAfter? "reason" (' ' :: text)).bind quoted?).bind fun reason =>
        if reason ≠ "CRASHED".toList then none else
          ((valueAfter? "index" (' ' :: text)).bind integer?).bind fun index =>
            let description :=
              ((valueAfter? "exit_description" (' ' :: text)).bind quoted?).getD []
            some ⟨app, ⟨index, time, String.ofList (cleanExit description)⟩⟩ := by
  -- The line is cut three times: behind the opening words, behind the name and behind the word
  -- before the payload.
  have spelled : (crashLine app text).toList =
      crashMarker ++ (app.toList ++ ' ' :: (payloadMarker ++ ' ' :: text)) := by
    have opening : "App instance exited with guid ".toList = crashMarker := rfl
    have between : " payload: ".toList = ' ' :: (payloadMarker ++ [' ']) := rfl
    show ("App instance exited with guid " ++ app ++ " payload: " ++ String.ofList text).toList = _
    simp only [String.toList_append, String.toList_ofList, opening, between, List.append_assoc,
      List.cons_append, List.nil_append]
  obtain ⟨_, line⟩ := Text.cutAt?_of_behind?
    (Text.behind?_append_self crashMarker (app.toList ++ ' ' :: (payloadMarker ++ ' ' :: text)))
  have named : (Text.words (app.toList ++ ' ' :: (payloadMarker ++ ' ' :: text))).head? =
      some app.toList := Text.head?_words (by simpa using names.filled) names.solid rfl
  have marked : Text.behind? payloadMarker (app.toList ++ ' ' :: (payloadMarker ++ ' ' :: text)) =
      some (' ' :: text) := by
    have apart : ' ' ∉ payloadMarker := by decide
    rw [Text.behind?_append_cons names.unmarked apart, Text.behind?_append_self]
  obtain ⟨_, payload⟩ := Text.cutAt?_of_behind? marked
  simp only [crashReport?, spelled, line, named, payload, Option.bind_eq_bind, Option.bind_some,
    String.ofList_toList]
  rfl

theorem crashReport?_eq_map (names : Names app) {payload : Payload} {time : Instant}
    (reason : (valueAfter? "reason" (' ' :: text)).bind quoted? =
      (payload.value? "reason").bind fun value => value.text?.map String.toList)
    (index : (valueAfter? "index" (' ' :: text)).bind integer? =
      (payload.value? "index").bind Value.integer?) :
    crashReport? (crashLine app text) time = payload.crashIndex?.map fun index =>
      let description := ((valueAfter? "exit_description" (' ' :: text)).bind quoted?).getD []
      ⟨app, ⟨index, time, String.ofList (cleanExit description)⟩⟩ := by
  rw [crashReport?_crashLine names, reason, index, Payload.crashIndex?, Payload.bind_toList]
  cases (payload.value? "reason").bind Value.text? with
  | none => rfl
  | some content =>
    by_cases crashed : content = "CRASHED"
    · subst crashed
      cases (payload.value? "index").bind Value.integer? <;> rfl
    · have other : content.toList ≠ "CRASHED".toList := fun same =>
        crashed (String.toList_inj.mp same)
      have unlike : some content ≠ some "CRASHED" := fun same => crashed (Option.some.inj same)
      rw [Option.map_some, Option.bind_some, if_pos other, if_neg unlike, Option.map_none]

/-- A line tells what its payload says. Where the exit description stands behind the reason and
the index, the application, the index and whether there is a report do not depend on it, whatever
text it is and whatever follows it. -/
theorem crash_read_back {app : String} (names : Names app) (time : Instant) :
    (∀ (payload : Payload) (report : CrashReport),
      crashReport? (crashLine app payload.render) time = some report ↔
        payload.Crashed report.crash.instanceIndex ∧ report.appId = app ∧
          report.crash.time = time ∧ report.crash.description =
            String.ofList (cleanExit payload.exitDescription.toList)) ∧
    ∀ (front : Payload) (behind : List Entry), "reason" ∈ front.keys → "index" ∈ front.keys →
      ∀ (said name : String) (index : Int),
        (crashReport? (crashLine app (renderEntries
            (front.entries ++ ⟨"exit_description", .text said⟩ :: behind))) time).map
              (fun report => (report.appId, report.crash.instanceIndex)) = some (name, index) ↔
          name = app ∧ front.Crashed index := by
  constructor
  · intro payload report
    have described :
        ((valueAfter? "exit_description" (' ' :: payload.render)).bind quoted?).getD [] =
          payload.exitDescription.toList := by
      rw [payload.valueAfter?_bind findable_exitDescription reads_quoted?, Payload.bind_toList,
        Payload.exitDescription]
      cases (payload.value? "exit_description").bind Value.text? <;> rfl
    rw [crashReport?_eq_map names (payload.valueAfter?_bind findable_reason reads_quoted?)
      (payload.valueAfter?_bind findable_index reads_integer?), described]
    simp only [Option.map_eq_some_iff, Payload.crashIndex?_eq_some_iff]
    constructor
    · rintro ⟨index, crashed, rfl⟩
      exact ⟨crashed, rfl, rfl, rfl⟩
    · obtain ⟨_, index, _, _⟩ := report
      rintro ⟨crashed, rfl, rfl, rfl⟩
      exact ⟨index, crashed, rfl⟩
  · intro front behind gives_reason gives_index said name index
    -- Reason and index are found in front, and what is behind them is never looked at for them.
    rw [crashReport?_eq_map names
      (front.valueAfter?_bind_append gives_reason findable_reason reads_quoted? _)
      (front.valueAfter?_bind_append gives_index findable_index reads_integer? _)]
    simp only [Option.map_map, Option.map_eq_some_iff, Payload.crashIndex?_eq_some_iff]
    constructor
    · rintro ⟨_, crashed, same⟩
      cases same
      exact ⟨rfl, crashed⟩
    · rintro ⟨rfl, crashed⟩
      exact ⟨index, crashed, rfl⟩

def thirdCrashed : Payload where
  entries :=
    [⟨"index", .number ⟨false, ['3'], by decide, List.forall_mem_singleton.mpr rfl⟩⟩,
      ⟨"reason", .text "CRASHED"⟩]
  distinct := by decide
  plain := by decide

/-- A description that ends its own quotes and goes on with another payload. -/
def forged : String := "\"\x7d payload: \x7b\"index\"=>9, \"reason\"=>\"STOPPED\", \"x\"=>\""

theorem thirdCrashed_crashed : thirdCrashed.Crashed 3 :=
  ⟨by simp [thirdCrashed], _, List.mem_cons_self, rfl, by decide, by decide⟩

theorem crash_read_back_forged :
    Names "4630f6ba" ∧ thirdCrashed.Crashed 3 ∧
      crashReport? (crashLine "4630f6ba" thirdCrashed.render) 0 =
        some ⟨"4630f6ba", ⟨3, 0, ""⟩⟩ ∧
      "reason" ∈ thirdCrashed.keys ∧ "index" ∈ thirdCrashed.keys ∧
      (crashReport? (crashLine "4630f6ba" (renderEntries (thirdCrashed.entries ++
          [⟨"exit_description", .text forged⟩]))) 0).map
            (fun report => (report.appId, report.crash.instanceIndex)) = some ("4630f6ba", 3) := by
  have marked : 'p' ∈ payloadMarker := by decide
  have solid : ("4630f6ba".toList.all fun c => Text.isBlank c = false) = true := by decide
  have names : Names "4630f6ba" :=
    ⟨by decide, fun c member => of_decide_eq_true (List.all_eq_true.mp solid c member),
      fun within => absurd (within.subset marked) (by decide)⟩
  have reason : "reason" ∈ thirdCrashed.keys := by decide
  have index : "index" ∈ thirdCrashed.keys := by decide
  have read := crash_read_back names 0
  refine ⟨names, thirdCrashed_crashed, ?_, reason, index, ?_⟩
  · have silent : thirdCrashed.exitDescription = "" := by decide
    have described : String.ofList (cleanExit thirdCrashed.exitDescription.toList) = "" := by
      rw [silent]
      decide
    exact (read.1 thirdCrashed ⟨"4630f6ba", ⟨3, 0, ""⟩⟩).mpr
      ⟨thirdCrashed_crashed, rfl, rfl, described.symm⟩
  · exact (read.2 thirdCrashed [] reason index forged "4630f6ba" 3).mpr
      ⟨rfl, thirdCrashed_crashed⟩

end

end Log

end Telemetry
