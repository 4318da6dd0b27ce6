import Telemetry.Uri

/-!
Domains of plain letters.

A name whose labels are made of ASCII letters is its own domain but for capitals: nothing in it
is mapped otherwise, composed, coded or forbidden, and it is no address.
-/

set_option autoImplicit false

namespace Telemetry

namespace Text

theorem ascii_cases {motive : Char → Prop} (all : ∀ n < 128, motive (Char.ofNat n)) {c : Char}
    (ascii : c.toNat < 128) : motive c := by
  have here := all c.toNat ascii
  rwa [Char.ofNat_toNat] at here

theorem ascii_of_le {c top : Char} (below : c.val ≤ top.val) (ascii : top.toNat < 128) :
    c.toNat < 128 :=
  Nat.lt_of_le_of_lt (UInt32.le_iff_toNat_le.mp below) ascii

theorem ascii_of_isAlpha {c : Char} (letter : c.isAlpha = true) : c.toNat < 128 := by
  rcases Bool.or_eq_true_iff.mp letter with upper | lower
  · have below : c.val ≤ 'Z'.val := (of_decide_eq_true upper).2
    exact ascii_of_le below (by decide)
  · have below : c.val ≤ 'z'.val := of_decide_eq_true (Bool.and_eq_true_iff.mp lower).2
    exact ascii_of_le below (by decide)

theorem ascii_of_isDigit {c : Char} (digit : c.isDigit = true) : c.toNat < 128 := by
  have below : c.val ≤ '9'.val := of_decide_eq_true (Bool.and_eq_true_iff.mp digit).2
  exact ascii_of_le below (by decide)

theorem isLower_toLower {c : Char} (letter : c.isAlpha = true) : c.toLower.isLower = true := by
  refine ascii_cases (motive := fun c => c.isAlpha = true → c.toLower.isLower = true) ?_
    (ascii_of_isAlpha letter) letter
  decide

theorem isAlpha_of_isLower {c : Char} (lower : c.isLower = true) : c.isAlpha = true :=
  Bool.or_eq_true_iff.mpr (.inr lower)

theorem toLower_eq_self {c : Char} (lower : c.isLower = true) : c.toLower = c := by
  refine ascii_cases (motive := fun c => c.isLower = true → c.toLower = c) ?_
    (ascii_of_isAlpha (isAlpha_of_isLower lower)) lower
  decide

theorem not_isDigit_of_isAlpha {c : Char} (letter : c.isAlpha = true) : c.isDigit = false := by
  refine ascii_cases (motive := fun c => c.isAlpha = true → c.isDigit = false) ?_
    (ascii_of_isAlpha letter) letter
  decide

theorem not_numeric_of_isAlpha {c : Char} (letter : c.isAlpha = true) :
    ¬ (c.isDigit = true ∨ c = '.') := by
  rintro (digit | rfl)
  · rw [not_isDigit_of_isAlpha letter] at digit
    cases digit
  · cases letter

theorem toLower_digit {c : Char} (digit : c.isDigit = true) : c.toLower = c := by
  refine ascii_cases (motive := fun c => c.isDigit = true → c.toLower = c) ?_
    (ascii_of_isDigit digit) digit
  decide

/-! ### Composing leaves ASCII alone -/

theorem combiningClass_eq_zero {c : Char} (ascii : c.toNat < 128) : combiningClass c = 0 :=
  if_pos (Nat.lt_trans ascii (by decide))

theorem partsOf_ascii {c : Char} (ascii : c.toNat < 128) : partsOf 4 c = [c] := by
  have below : c.toNat < 0xC0 := Nat.lt_trans ascii (by decide)
  delta partsOf
  exact if_pos below

theorem decompose_ascii {cs : List Char} (ascii : ∀ c ∈ cs, c.toNat < 128) :
    decompose cs = cs := by
  induction cs with
  | nil => rfl
  | cons c rest ih =>
    obtain ⟨here, others⟩ := List.forall_mem_cons.mp ascii
    have later := ih others
    rw [decompose] at later ⊢
    rw [List.flatMap_cons, partsOf_ascii here, later, List.singleton_append]

theorem orderMarks_ascii {cs : List Char} (ascii : ∀ c ∈ cs, c.toNat < 128) :
    orderMarks cs = cs := by
  induction cs with
  | nil => rfl
  | cons c rest ih =>
    have others := (List.forall_mem_cons.mp ascii).2
    have later := ih others
    rw [orderMarks] at later ⊢
    rw [List.foldr_cons, later]
    cases rest with
    | nil => rfl
    | cons d rest =>
      have base := combiningClass_eq_zero (others d List.mem_cons_self)
      simp [settle, base]

theorem joinTo_ascii (base : Char) {cs : List Char} (ascii : ∀ c ∈ cs, c.toNat < 128) :
    joinTo base [] cs = base :: cs := by
  induction cs generalizing base with
  | nil => rfl
  | cons c rest ih =>
    obtain ⟨here, others⟩ := List.forall_mem_cons.mp ascii
    have apart : pair? base c = none := if_pos (by omega)
    simp [joinTo, apart, combiningClass_eq_zero here, ih c others]

theorem compose_ascii {cs : List Char} (ascii : ∀ c ∈ cs, c.toNat < 128) : compose cs = cs := by
  rw [compose, decompose_ascii ascii, orderMarks_ascii ascii]
  cases cs with
  | nil => rfl
  | cons c rest =>
    obtain ⟨here, others⟩ := List.forall_mem_cons.mp ascii
    rw [join, if_pos (combiningClass_eq_zero here), joinTo_ascii c others]

end Text

namespace Uri

open Text

/-- Labels with dots between them, none of them empty and all of allowed characters. -/
def Labels (allowed : Char → Bool) (cs : List Char) : Prop :=
  ∀ label ∈ cs.splitOn '.', label ≠ [] ∧ ∀ c ∈ label, allowed c = true

theorem labels_iff (allowed : Char → Bool) (cs : List Char) :
    ((cs.splitOn '.').all fun label => !label.isEmpty && label.all allowed) = true ↔
      Labels allowed cs := by
  simp [Labels, List.all_eq_true]

instance (allowed : Char → Bool) (cs : List Char) : Decidable (Labels allowed cs) :=
  decidable_of_iff _ (labels_iff allowed cs)

theorem exists_mem_splitOn {c dot : Char} {cs : List Char} (member : c ∈ cs) (other : c ≠ dot) :
    ∃ piece ∈ cs.splitOn dot, c ∈ piece := by
  induction cs with
  | nil => cases member
  | cons first rest ih =>
    obtain ⟨head, tail, split⟩ := List.exists_cons_of_ne_nil (List.splitOn_ne_nil dot rest)
    rw [List.splitOn_cons_eq_if_modifyHead, split]
    rcases List.mem_cons.mp member with rfl | later
    · rw [if_neg (by simpa using other)]
      exact ⟨_, List.mem_cons_self, List.mem_cons_self⟩
    · obtain ⟨piece, listed, within⟩ := ih later
      rw [split] at listed
      split
      · exact ⟨piece, List.mem_cons_of_mem _ listed, within⟩
      · rcases List.mem_cons.mp listed with rfl | behind
        · exact ⟨_, List.mem_cons_self, List.mem_cons_of_mem _ within⟩
        · exact ⟨piece, List.mem_cons_of_mem _ behind, within⟩

theorem mem_of_mem_splitOnP {c : Char} {separates : Char → Bool} {cs piece : List Char}
    (listed : piece ∈ cs.splitOnP separates) (within : c ∈ piece) :
    c ∈ cs ∧ separates c = false := by
  -- By the characters of the text: each begins a piece or is the front of the first one.
  induction cs generalizing piece with
  | nil =>
    rw [List.mem_singleton.mp listed] at within
    cases within
  | cons first rest ih =>
    obtain ⟨head, tail, split⟩ := List.exists_cons_of_ne_nil (List.splitOnP_ne_nil separates rest)
    rw [List.splitOnP_cons_eq_if_modifyHead, split] at listed
    rw [split] at ih
    split at listed
    · rcases List.mem_cons.mp listed with rfl | behind
      · cases within
      · exact (ih behind within).imp_left (List.mem_cons_of_mem _)
    · next joins =>
      rcases List.mem_cons.mp listed with rfl | behind
      · rcases List.mem_cons.mp within with rfl | inner
        · exact ⟨List.mem_cons_self, Bool.eq_false_iff.mpr joins⟩
        · exact (ih List.mem_cons_self inner).imp_left (List.mem_cons_of_mem _)
      · exact (ih (List.mem_cons_of_mem _ behind) within).imp_left (List.mem_cons_of_mem _)

theorem mem_of_mem_splitOn {c dot : Char} {cs piece : List Char} (listed : piece ∈ cs.splitOn dot)
    (within : c ∈ piece) : c ∈ cs := by
  rw [List.splitOn_eq_splitOnP] at listed
  exact (mem_of_mem_splitOnP listed within).1

theorem map_intercalate {α β : Type} (f : α → β) (separator : List α)
    (pieces : List (List α)) :
    (separator.intercalate pieces).map f =
      (separator.map f).intercalate (pieces.map (·.map f)) := by
  induction pieces with
  | nil => rfl
  | cons piece rest ih =>
    cases rest with
    | nil => simp
    | cons next rest =>
      rw [List.intercalate_cons_cons, List.map_append, List.map_append, ih, List.map_cons,
        List.map_cons, List.map_cons, List.intercalate_cons_cons]

section
variable {allowed : Char → Bool} {cs : List Char}

theorem Labels.mem (labels : Labels allowed cs) {c : Char} (member : c ∈ cs) :
    allowed c = true ∨ c = '.' := by
  by_cases dot : c = '.'
  · exact .inr dot
  · obtain ⟨label, listed, within⟩ := exists_mem_splitOn member dot
    exact .inl ((labels label listed).2 c within)

theorem Labels.cons (labels : Labels allowed cs) :
    ∃ first rest, cs = first :: rest ∧ allowed first = true := by
  cases cs with
  | nil => exact absurd rfl (labels [] List.mem_cons_self).1
  | cons first rest =>
    refine ⟨first, rest, rfl, (labels.mem List.mem_cons_self).resolve_right ?_⟩
    rintro rfl
    have empty : [] ∈ ('.' :: rest).splitOn '.' := by
      rw [List.splitOn_cons_eq_if_modifyHead, if_pos (by rfl)]
      exact List.mem_cons_self
    exact (labels [] empty).1 rfl

theorem Labels.ne_nil (labels : Labels allowed cs) : cs ≠ [] := by
  obtain ⟨first, rest, rfl, -⟩ := labels.cons
  exact List.cons_ne_nil _ _

theorem Labels.mono {wider : Char → Bool} (labels : Labels allowed cs)
    (widens : ∀ c, allowed c = true → wider c = true) : Labels wider cs :=
  fun label listed => ⟨(labels label listed).1, fun c within =>
    widens c ((labels label listed).2 c within)⟩

theorem labels_of_letters (filled : cs ≠ []) (letters : ∀ c ∈ cs, c.isAlpha = true) :
    Labels Char.isAlpha cs := by
  have dotless : '.' ∉ cs := fun member => absurd (letters '.' member) (by decide)
  intro label listed
  rw [List.splitOn_eq_singleton dotless, List.mem_singleton] at listed
  exact listed ▸ ⟨filled, letters⟩

theorem Labels.lower (labels : Labels Char.isAlpha cs) :
    Labels Char.isLower (cs.map Char.toLower) := by
  have plain : ∀ label ∈ cs.splitOn '.', '.' ∉ label.map Char.toLower := by
    intro label listed member
    obtain ⟨c, within, lowered⟩ := List.mem_map.mp member
    have lower := isLower_toLower ((labels label listed).2 c within)
    rw [lowered] at lower
    cases lower
  -- To lower the letters and to split at the dots can be done in either order.
  have whole : cs.map Char.toLower =
      ['.'].intercalate ((cs.splitOn '.').map (·.map Char.toLower)) := by
    have joined := congrArg (List.map Char.toLower) (@List.intercalate_splitOn Char cs _ _ '.')
    rw [map_intercalate] at joined
    exact joined.symm
  intro label listed
  rw [whole, List.splitOn_intercalate '.' ?_ (by simp)] at listed
  · obtain ⟨before, member, rfl⟩ := List.mem_map.mp listed
    refine ⟨by simpa using (labels before member).1, ?_⟩
    intro c within
    obtain ⟨d, inside, rfl⟩ := List.mem_map.mp within
    exact isLower_toLower ((labels before member).2 d inside)
  · intro piece member
    obtain ⟨before, listed, rfl⟩ := List.mem_map.mp member
    exact plain before listed

theorem Labels.ascii (labels : Labels Char.isAlpha cs) : ∀ c ∈ cs, c.toNat < 128 := by
  intro c member
  rcases labels.mem member with letter | rfl
  · exact ascii_of_isAlpha letter
  · decide

end

/-! ### Letters as a domain -/

theorem mapped?_ascii {c : Char} (ascii : c.toNat < 128) : mapped? c = some [c.toLower] :=
  if_pos ascii

theorem mapM_mapped?_ascii {cs : List Char} (ascii : ∀ c ∈ cs, c.toNat < 128) :
    cs.mapM mapped? = some (cs.map fun c => [c.toLower]) := by
  induction cs with
  | nil => rfl
  | cons c rest ih =>
    obtain ⟨here, others⟩ := List.forall_mem_cons.mp ascii
    simp [List.mapM_cons, mapped?_ascii here, ih others]

theorem not_forbidden_of_isLower {c : Char} (lower : c.isLower = true) :
    forbiddenInDomain c = false := by
  refine ascii_cases (motive := fun c => c.isLower = true → forbiddenInDomain c = false) ?_
    (ascii_of_isAlpha (isAlpha_of_isLower lower)) lower
  decide +kernel

section
variable {label : List Char}

theorem labelText?_letters (lower : ∀ c ∈ label, c.isLower = true) :
    labelText? label = some label := by
  unfold labelText?
  cases found : punycodeMarker.isPrefixOf? label with
  | none => rfl
  | some coded =>
    -- The marker holds a hyphen, which is no letter.
    have joined := append_eq_of_isPrefixOf? found
    have hyphen : '-' ∈ label := by
      rw [← joined]
      exact List.mem_append_left _ (by decide)
    cases lower '-' hyphen

theorem joinersFit_letters (before : List Char) (lower : ∀ c ∈ label, c.isLower = true) :
    joinersFit before label = true := by
  induction label generalizing before with
  | nil => rfl
  | cons c rest ih =>
    obtain ⟨here, others⟩ := List.forall_mem_cons.mp lower
    have plain : c ≠ joiner ∧ c ≠ nonJoiner := by
      constructor <;> rintro rfl <;> cases here
    simp [joinersFit, plain, ih (c :: before) others]

theorem isLabel_letters (lower : ∀ c ∈ label, c.isLower = true) : isLabel label = true := by
  have ascii : ∀ c ∈ label, c.toNat < 128 := fun c within =>
    ascii_of_isAlpha (isAlpha_of_isLower (lower c within))
  have kept : (label.all fun c => mapped? c = some [c]) = true := by
    rw [List.all_eq_true]
    intro c within
    simp [mapped?_ascii (ascii c within), toLower_eq_self (lower c within)]
  have unmarked : label.head?.any isMark = false := by
    cases label with
    | nil => rfl
    | cons c rest =>
      have low := ascii c List.mem_cons_self
      simp [isMark]
      omega
  simp [isLabel, kept, compose_ascii ascii, unmarked, joinersFit_letters [] lower]

end

theorem directionsFit_letters {labels : List (List Char)}
    (lower : ∀ label ∈ labels, ∀ c ∈ label, c.isLower = true) : directionsFit labels = true := by
  have onward : ∀ label ∈ labels, ∀ c ∈ label, directionOf c = .leftToRight :=
    fun label listed c within => if_pos (isAlpha_of_isLower (lower label listed c within))
  simp only [directionsFit, Bool.or_eq_true]
  refine .inl ?_
  simp only [Bool.not_eq_true', List.any_eq_false, List.mem_map, Bool.not_eq_true]
  rintro _ ⟨label, listed, rfl⟩ _ member
  obtain ⟨c, within, rfl⟩ := List.mem_map.mp member
  simp [onward label listed c within]

theorem mapM_eq_self {α : Type} {f : α → Option α} {items : List α}
    (fixed : ∀ item ∈ items, f item = some item) : items.mapM f = some items := by
  induction items with
  | nil => rfl
  | cons item rest ih =>
    obtain ⟨here, others⟩ := List.forall_mem_cons.mp fixed
    simp [List.mapM_cons, here, ih others]

theorem asciiDomain?_letters {cs : List Char} (labels : Labels Char.isAlpha cs) :
    asciiDomain? cs = some (cs.map Char.toLower) := by
  have lower := labels.lower
  have flat : (cs.map fun c => [c.toLower]).flatten = cs.map Char.toLower := by
    rw [← List.flatMap_def, List.map_eq_flatMap]
  have plain : (cs.map Char.toLower).any forbiddenInDomain = false := by
    rw [List.any_eq_false]
    intro c member
    rcases lower.mem member with letter | rfl
    · rw [not_forbidden_of_isLower letter]
      exact Bool.false_ne_true
    · decide
  have texts := mapM_eq_self fun label listed => labelText?_letters (lower label listed).2
  have valid : ((cs.map Char.toLower).splitOn '.').all isLabel = true :=
    List.all_eq_true.mpr fun label listed => isLabel_letters (lower label listed).2
  have fit := directionsFit_letters fun label listed => (lower label listed).2
  have coded : ((cs.map Char.toLower).splitOn '.').mapM asciiLabel? =
      some ((cs.map Char.toLower).splitOn '.') := by
    refine mapM_eq_self fun label listed => if_pos (List.all_eq_true.mpr fun c within => ?_)
    exact decide_eq_true (ascii_of_isAlpha (isAlpha_of_isLower ((lower label listed).2 c within)))
  have composed : compose (cs.map Char.toLower) = cs.map Char.toLower :=
    compose_ascii (lower.mono fun _ => isAlpha_of_isLower).ascii
  -- Each step that turns a name into its ASCII form leaves the lowered name alone.
  simp only [asciiDomain?, mapM_mapped?_ascii labels.ascii, Option.bind_eq_bind, Option.bind_some,
    flat, composed, texts, plain, valid, fit, coded]
  simp

theorem not_endsInNumber_letters {cs : List Char} (labels : Labels Char.isAlpha cs) :
    endsInNumber cs = false := by
  have filled : (cs.splitOn '.').getLast? ≠ some [] := fun last =>
    (labels [] (List.mem_of_getLast? last)).1 rfl
  have last := List.getLast?_eq_some_getLast (List.splitOn_ne_nil '.' cs)
  unfold endsInNumber addressParts
  simp only [if_neg filled]
  rw [last]
  obtain ⟨nonempty, letters⟩ := labels _ (List.getLast_mem (List.splitOn_ne_nil '.' cs))
  generalize (cs.splitOn '.').getLast _ = label at nonempty letters
  cases label with
  | nil => exact absurd rfl nonempty
  | cons first rest =>
    have letter := letters first List.mem_cons_self
    have digit := not_isDigit_of_isAlpha letter
    have nonzero : first ≠ '0' := by
      rintro rfl
      cases letter
    have number : addressNumber? (first :: rest) = none := by
      unfold addressNumber?
      split <;> simp_all
    simp [number, digit]

theorem specialHost_letters {cs : List Char} (labels : Labels Char.isAlpha cs) :
    specialHost cs = .ok (cs.map Char.toLower) := by
  have absent : ∀ c : Char, c.isAlpha = false → c ≠ '.' → c ∉ cs := by
    intro c other dotless member
    rcases labels.mem member with letter | dot
    · rw [other] at letter
      cases letter
    · exact dotless dot
  have read : (decode? cs).bind asciiDomain? = some (cs.map Char.toLower) := by
    have plain : cs.contains '%' = false := by
      simpa using absent '%' (by decide) (by decide)
    rw [decode?, plain, if_neg Bool.false_ne_true, Option.bind_some, asciiDomain?_letters labels]
  have domain := not_endsInNumber_letters (labels.lower.mono fun _ => isAlpha_of_isLower)
  obtain ⟨first, rest, rfl, -⟩ := labels.cons
  unfold specialHost
  split
  · next bracketed =>
    cases bracketed
    exact absurd List.mem_cons_self (absent '[' (by decide) (by decide))
  · have filled : (first :: rest).map Char.toLower ≠ [] := by simp
    rw [read]
    -- All that is still asked of the name is that it is not empty and not a number.
    generalize (first :: rest).map Char.toLower = lowered at domain filled
    cases lowered with
    | nil => exact absurd rfl filled
    | cons c others => simp [domain]

/-! ### Digits as a host -/

theorem eq_of_asciiDomain? {cs domain : List Char} (ascii : ∀ c ∈ cs, c.toNat < 128)
    (found : asciiDomain? cs = some domain) : domain = cs.map Char.toLower := by
  have lower : ∀ c ∈ cs.map Char.toLower, c.toNat < 128 := by
    intro c member
    obtain ⟨d, within, rfl⟩ := List.mem_map.mp member
    refine ascii_cases (motive := fun c => c.toLower.toNat < 128) ?_ (ascii d within)
    decide
  have flat : (cs.map fun c => [c.toLower]).flatten = cs.map Char.toLower := by
    rw [← List.flatMap_def, List.map_eq_flatMap]
  have coded : ((cs.map Char.toLower).splitOn '.').mapM asciiLabel? =
      some ((cs.map Char.toLower).splitOn '.') := by
    refine mapM_eq_self fun label listed => if_pos (List.all_eq_true.mpr fun c within => ?_)
    exact decide_eq_true (lower c (mem_of_mem_splitOn listed within))
  simp only [asciiDomain?, mapM_mapped?_ascii ascii, Option.bind_eq_bind, Option.bind_some, flat,
    compose_ascii lower, coded] at found
  obtain ⟨texts, -, rest⟩ := Option.bind_eq_some_iff.mp found
  split at rest
  · cases rest
  · split at rest
    · simpa using rest.symm
    · cases rest

theorem mem_ipv4Text {c : Char} {address : Nat} (member : c ∈ ipv4Text address) :
    c.isDigit = true ∨ c = '.' := by
  have digit : ∀ n, c ∈ Nat.toDigits 10 n → c.isDigit = true := fun n within =>
    Nat.isDigit_of_mem_toDigits (by decide) (by decide) within
  simp only [ipv4Text, List.map_cons, List.map_nil, List.intercalate_cons_cons,
    List.intercalate_singleton, List.mem_append, List.mem_singleton] at member
  rcases member with (first | dot) | (second | dot) | (third | dot) | last
  · exact .inl (digit _ first)
  · exact .inr dot
  · exact .inl (digit _ second)
  · exact .inr dot
  · exact .inl (digit _ third)
  · exact .inr dot
  · exact .inl (digit _ last)

theorem specialHost_digits {digits host : List Char} (all : ∀ c ∈ digits, c.isDigit = true)
    (read : specialHost digits = .ok host) : ∀ c ∈ host, c.isDigit = true ∨ c = '.' := by
  have plain : digits.contains '%' = false := by
    rw [List.contains_eq_mem, decide_eq_false_iff_not]
    intro member
    cases all '%' member
  have kept : digits.map Char.toLower = digits :=
    (List.map_congr_left fun c member => toLower_digit (all c member)).trans digits.map_id
  unfold specialHost at read
  split at read
  · cases all '[' List.mem_cons_self
  · rw [decode?, plain, if_neg Bool.false_ne_true, Option.bind_some] at read
    split at read
    · cases read
    · cases read
    · next domain _ found =>
      -- Digits are mapped to themselves, so the domain is what was written or the address it
      -- spells.
      have whole := eq_of_asciiDomain? (fun c member => ascii_of_isDigit (all c member)) found
      rw [kept] at whole
      split at read
      · split at read
        · cases read
          exact fun c => mem_ipv4Text
        · cases read
      · cases read
        rw [whole]
        exact fun c member => .inl (all c member)

end Uri

end Telemetry
