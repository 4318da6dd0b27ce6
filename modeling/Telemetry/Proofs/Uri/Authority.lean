import Telemetry.Proofs.Uri.Domain

/-!
A name, a port and what follows them.

A locator of the web whose host is a name of letters, digits and hyphens is read as it stands:
the name is the host's text, the port a number behind it, and the path begins where they end.
-/

set_option autoImplicit false

namespace Telemetry.Uri

open Text

def isNameChar (c : Char) : Bool := c.isAlphanum || c = '-' || c = '.'

/-- A name, a port behind it or none, and then an end or something that is no host any more. -/
structure Addressed (name port rest : List Char) : Prop where
  named : name ≠ []
  name : ∀ c ∈ name, isNameChar c = true
  port : port = [] ∨ ∃ digits, port = ':' :: digits ∧ digits ≠ [] ∧ ∀ c ∈ digits, c.isDigit = true
  rest : ∀ c, rest.head? = some c → c ∈ ['/', '?', '#']

def portNumber? : List Char → Option Nat
  | ':' :: digits => some (numberIn 10 digits)
  | _ => none

theorem hexValue?_digit {c : Char} (digit : c.isDigit = true) :
    hexValue? c = some (c.toNat - '0'.toNat) := by
  refine ascii_cases (motive := fun c => c.isDigit = true →
    hexValue? c = some (c.toNat - '0'.toNat)) ?_ (ascii_of_isDigit digit) digit
  decide

theorem numberIn_toDigits (n : Nat) : numberIn 10 (Nat.toDigits 10 n) = n := by
  have digitwise : ∀ digits : List Char, (∀ c ∈ digits, c.isDigit = true) → ∀ start,
      digits.foldl (fun n c => n * 10 + (hexValue? c).getD 0) start =
        Nat.ofDigitChars 10 digits start := by
    intro digits all start
    induction digits generalizing start with
    | nil => rfl
    | cons c rest ih =>
      obtain ⟨here, others⟩ := List.forall_mem_cons.mp all
      rw [List.foldl_cons, ih others, hexValue?_digit here, Option.getD_some, Nat.mul_comm]
      rfl
  rw [numberIn, digitwise _ (fun c member =>
    Nat.isDigit_of_mem_toDigits (by decide) (by decide) member) 0, Nat.ofDigitChars_ten_toDigits]

theorem ascii_of_isNameChar {c : Char} (named : isNameChar c = true) : c.toNat < 128 := by
  simp only [isNameChar, Char.isAlphanum, Bool.or_eq_true, decide_eq_true_eq] at named
  rcases named with ((letter | digit) | rfl) | rfl
  · exact ascii_of_isAlpha letter
  · exact ascii_of_isDigit digit
  · decide
  · decide

theorem isNameChar_of_isDigit {c : Char} (digit : c.isDigit = true) : isNameChar c = true := by
  simp [isNameChar, Char.isAlphanum, digit]

theorem isNameChar_of_isAlpha {c : Char} (letter : c.isAlpha = true) : isNameChar c = true := by
  simp [isNameChar, Char.isAlphanum, letter]

theorem plain_of_isNameChar {c : Char} (named : isNameChar c = true) :
    0x20 < c.toNat ∧ endsAuthority true c = false ∧ c ∉ ['@', ':', '[', ']'] := by
  refine ascii_cases (motive := fun c => isNameChar c = true → 0x20 < c.toNat ∧
    endsAuthority true c = false ∧ c ∉ ['@', ':', '[', ']']) ?_ (ascii_of_isNameChar named) named
  decide +kernel

theorem not_isSlash {c : Char} (named : isNameChar c = true) : isSlash true c = false := by
  have within := (plain_of_isNameChar named).2.1
  simp only [endsAuthority, Bool.or_eq_false_iff] at within
  simp [isSlash, within]

/-! ### Blanks around a locator -/

def tidied (cs : List Char) : List Char :=
  (dropEndWhile (fun c => decide (c.toNat ≤ 0x20)) cs).filter
    fun c => c ≠ '\t' && c ≠ '\n' && c ≠ '\r'

theorem tidied_cons {c : Char} (plain : 0x20 < c.toNat) (rest : List Char) :
    tidied (c :: rest) = c :: tidied rest := by
  have inner : (c ≠ '\t' && c ≠ '\n' && c ≠ '\r') = true := by
    have apart : ∀ d : Char, d.toNat ≤ 0x20 → c ≠ d := by
      rintro d low rfl
      omega
    simp [apart '\t' (by decide), apart '\n' (by decide), apart '\r' (by decide)]
  have kept : dropEndWhile (fun c => decide (c.toNat ≤ 0x20)) (c :: rest) =
      c :: dropEndWhile (fun c => decide (c.toNat ≤ 0x20)) rest := by
    have outer : ¬ c.toNat ≤ 0x20 := by omega
    rw [dropEndWhile, List.reverse_cons, List.dropWhile_append]
    split
    · next blank =>
      rw [List.isEmpty_iff] at blank
      simp [dropEndWhile, blank, outer]
    · simp [dropEndWhile]
  rw [tidied, kept, List.filter_cons, if_pos inner, tidied]

theorem tidied_append {front : List Char} (plain : ∀ c ∈ front, 0x20 < c.toNat)
    (rest : List Char) : tidied (front ++ rest) = front ++ tidied rest := by
  induction front with
  | nil => rfl
  | cons c front ih =>
    obtain ⟨here, others⟩ := List.forall_mem_cons.mp plain
    rw [List.cons_append, tidied_cons here, ih others, List.cons_append]

theorem stripped_append {front : List Char} (plain : ∀ c ∈ front, 0x20 < c.toNat)
    (filled : front ≠ []) (rest : List Char) :
    stripped (String.ofList (front ++ rest)) = front ++ tidied rest := by
  obtain ⟨c, front, rfl⟩ := List.exists_cons_of_ne_nil filled
  have outer : ¬ c.toNat ≤ 0x20 := Nat.not_le.mpr (plain c List.mem_cons_self)
  have begins : (c :: front ++ rest).dropWhile (fun c => decide (c.toNat ≤ 0x20)) =
      c :: front ++ rest := by
    simp [outer]
  rw [← tidied_append plain, stripped, String.toList_ofList, begins]
  rfl

section
variable {name port rest : List Char}

namespace Addressed

variable (addressed : Addressed name port rest)
include addressed

theorem mem {c : Char} (member : c ∈ name ++ port) : isNameChar c = true ∨ c = ':' := by
  rcases List.mem_append.mp member with within | behind
  · exact .inl (addressed.name c within)
  · rcases addressed.port with bare | ⟨digits, numbered, -, all⟩
    · simp [bare] at behind
    · rw [numbered] at behind
      rcases List.mem_cons.mp behind with colon | digit
      · exact .inr colon
      · exact .inl (isNameChar_of_isDigit (all c digit))

theorem digits {digits : List Char} (numbered : port = ':' :: digits) :
    digits ≠ [] ∧ ∀ c ∈ digits, c.isDigit = true := by
  obtain ⟨digits', same, filled, all⟩ := addressed.port.resolve_left (by simp [numbered])
  obtain rfl : digits = digits' := (List.cons.inj (numbered.symm.trans same)).2
  exact ⟨filled, all⟩

theorem digits_cons {digits : List Char} (numbered : port = ':' :: digits) :
    ∃ first more, digits = first :: more ∧ isSlash true first = false := by
  obtain ⟨filled, all⟩ := addressed.digits numbered
  obtain ⟨first, more, rfl⟩ := List.exists_cons_of_ne_nil filled
  exact ⟨first, more, rfl, not_isSlash (isNameChar_of_isDigit (all first List.mem_cons_self))⟩

theorem plain : ∀ c ∈ name ++ port, 0x20 < c.toNat := by
  intro c member
  rcases addressed.mem member with named | rfl
  · exact (plain_of_isNameChar named).1
  · decide

theorem stripped : Uri.stripped (String.ofList (name ++ port ++ rest)) =
    name ++ port ++ tidied rest :=
  stripped_append addressed.plain (by simp [addressed.named]) rest

theorem onward {c : Char} (next : rest.head? = some c) :
    endsAuthority true c = true ∧ 0x20 < c.toNat ∧ isNameChar c = false ∧ c ≠ '+' := by
  have ends := addressed.rest c next
  simp only [List.mem_cons, List.not_mem_nil, or_false] at ends
  rcases ends with rfl | rfl | rfl <;> decide

theorem colonless : rest.head? ≠ some ':' := by
  intro next
  cases (addressed.onward next).1

theorem tidied : Addressed name port (tidied rest) := by
  refine ⟨addressed.named, addressed.name, addressed.port, ?_⟩
  cases rest with
  | nil => exact nofun
  | cons first rest =>
    rw [tidied_cons (addressed.onward rfl).2.1]
    rintro c ⟨⟩
    exact addressed.rest first rfl

theorem behind {c : Char} (next : (port ++ rest).head? = some c) :
    isNameChar c = false ∧ c ≠ '+' ∧ (c = ':' ∨ endsAuthority true c = true) := by
  rcases addressed.port with bare | ⟨digits, numbered, -⟩
  · rw [bare] at next
    obtain ⟨ends, -, unnamed, signless⟩ := addressed.onward next
    exact ⟨unnamed, signless, .inr ends⟩
  · rw [numbered] at next
    cases next
    decide

end Addressed

end

/-! ### What an authority is read as -/

theorem takeWhile_stops {α : Type} {p : α → Bool} {front rest : List α}
    (all : ∀ c ∈ front, p c = true) (stops : ∀ c, rest.head? = some c → p c = false) :
    (front ++ rest).takeWhile p = front := by
  rw [List.takeWhile_append_of_pos all]
  cases rest with
  | nil => simp
  | cons c rest => simp [stops c rfl]

theorem hostText_append {name rest : List Char} (named : ∀ c ∈ name, isNameChar c = true)
    (stops : ∀ c, rest.head? = some c → c = ':' ∨ endsAuthority true c = true) :
    hostText true false (name ++ rest) = name := by
  induction name with
  | nil =>
    cases rest with
    | nil => rfl
    | cons c rest =>
      rcases stops c rfl with rfl | ends
      · rfl
      · simp [hostText, ends]
  | cons c name ih =>
    obtain ⟨here, others⟩ := List.forall_mem_cons.mp named
    obtain ⟨-, onward, plain⟩ := plain_of_isNameChar here
    simp only [List.mem_cons, List.not_mem_nil, or_false, not_or] at plain
    simp [hostText, onward, plain, ih others]

theorem specialHost_ne_nil {cs host : List Char} (read : specialHost cs = .ok host) :
    host ≠ [] := by
  unfold specialHost at read
  -- An address has its brackets or its dots, and an empty name is refused.
  split at read
  · unfold bracketed at read
    split at read
    · split at read
      · cases read
        simp
      · cases read
    · cases read
  · split at read
    · cases read
    · cases read
    · next domain empty found =>
      split at read
      · split at read
        · cases read
          simp [ipv4Text, List.intercalate]
        · cases read
      · cases read
        rintro rfl
        exact empty rfl

section
variable {name port rest : List Char} {scheme : Scheme}

namespace Addressed

variable (addressed : Addressed name port rest)
include addressed

theorem withoutUser :
    Uri.withoutUser true (name ++ port ++ rest) = .ok (false, name ++ port ++ rest) := by
  have authority : (name ++ port ++ rest).takeWhile (fun c => !endsAuthority true c) =
      name ++ port := by
    refine takeWhile_stops (fun c member => ?_) (fun c next => ?_)
    · rcases addressed.mem member with named | rfl
      · rw [(plain_of_isNameChar named).2.1, Bool.not_false]
      · decide
    · rw [(addressed.onward next).1, Bool.not_true]
  have noUser : (name ++ port).contains '@' = false := by
    rw [List.contains_eq_mem, decide_eq_false_iff_not]
    intro member
    rcases addressed.mem member with named | colon
    · cases named
    · cases colon
  rw [Uri.withoutUser, authority, noUser, if_neg Bool.false_ne_true]

theorem readPort {digits : List Char} (numbered : port = ':' :: digits) :
    Uri.readPort scheme (digits ++ rest) =
      if 65536 ≤ numberIn 10 digits then .error .invalidPort
      else .ok (if scheme.defaultPort? = some (numberIn 10 digits) then none
        else some (numberIn 10 digits), rest) := by
  obtain ⟨filled, all⟩ := addressed.digits numbered
  have row : (digits ++ rest).takeWhile Char.isDigit = digits := by
    refine takeWhile_stops all fun c next => ?_
    rw [← Bool.not_eq_true]
    intro digit
    have named := isNameChar_of_isDigit digit
    rw [(addressed.onward next).2.2.1] at named
    cases named
  have ends : (rest.head?.any fun c => !endsAuthority true c) = false := by
    cases next : rest.head? with
    | none => rfl
    | some c => rw [Option.any_some, (addressed.onward next).1, Bool.not_true]
  have nonempty : digits.isEmpty = false := by simpa using filled
  simp only [Uri.readPort, row, List.drop_left, ends, nonempty, Bool.false_or, decide_eq_true_eq,
    Bool.false_eq_true, if_false]
  split
  · rfl
  · exact (apply_ite (fun port => Except.ok (port, rest)) _ _ _).symm

theorem ofAuthority (special : scheme.special = true) :
    Uri.ofAuthority scheme (name ++ port ++ rest) = (specialHost name).bind fun host =>
      if (portNumber? port).any (65536 ≤ ·) then .error .invalidPort
      else .ok ⟨String.ofList host, (portNumber? port).filter (scheme.defaultPort? ≠ some ·),
        String.ofList (pathOf true (beforeQuery rest))⟩ := by
  have text : hostText true false (name ++ (port ++ rest)) = name :=
    hostText_append addressed.name fun c next => (addressed.behind next).2.2
  have filled : name.isEmpty = false := by simpa using addressed.named
  have whole := addressed.withoutUser
  rw [List.append_assoc] at whole
  simp only [Uri.ofAuthority, special, List.append_assoc, whole, bind, Except.bind, pure,
    Except.pure, text, filled, List.drop_left, Bool.and_false, Bool.false_eq_true, if_false,
    if_true, Bool.false_or]
  cases read : specialHost name with
  | error error => rfl
  | ok host =>
    have nonempty : host.isEmpty = false := by simpa using specialHost_ne_nil read
    simp only [nonempty, Bool.false_and, Bool.false_eq_true, if_false]
    -- What follows a name without a port begins with no colon and is not taken for one.
    rcases addressed.port with bare | ⟨digits, numbered, -⟩
    · rw [bare, List.nil_append]
      cases rest with
      | nil => rfl
      | cons c rest =>
        split
        · next same => exact absurd (congrArg List.head? same) addressed.colonless
        · rfl
    · rw [numbered, List.cons_append]
      simp only [addressed.readPort numbered, portNumber?, Option.any_some, decide_eq_true_eq]
      by_cases large : 65536 ≤ numberIn 10 digits
      · rw [if_pos large, if_pos large]
      · rw [if_neg large, if_neg large]
        by_cases usual : scheme.defaultPort? = some (numberIn 10 digits)
        · simp [usual, Option.filter]
        · simp [usual, Option.filter]

/-! ### With a scheme in front and without one -/

theorem dropWhile_isSlash :
    (name ++ port ++ rest).dropWhile (isSlash true) = name ++ port ++ rest := by
  obtain ⟨first, more, rfl⟩ := List.exists_cons_of_ne_nil addressed.named
  have slashless := not_isSlash (addressed.name first List.mem_cons_self)
  rw [List.cons_append, List.cons_append, List.dropWhile_cons, slashless,
    if_neg Bool.false_ne_true]

theorem ofText_schemed : Uri.ofText ("http://" ++ String.ofList (name ++ port ++ rest)) =
    Uri.ofAuthority (.web 80) (name ++ port ++ Uri.tidied rest) := by
  have whole : "http://" ++ String.ofList (name ++ port ++ rest) =
      String.ofList (['h', 't', 't', 'p', ':', '/', '/'] ++ (name ++ port) ++ rest) := by
    rw [← String.toList_inj]
    simp
  have front : ∀ c ∈ ['h', 't', 't', 'p', ':', '/', '/'], 0x20 < c.toNat := by simp
  have plain : ∀ c ∈ ['h', 't', 't', 'p', ':', '/', '/'] ++ (name ++ port), 0x20 < c.toNat :=
    List.forall_mem_append.mpr ⟨front, addressed.plain⟩
  rw [Uri.ofText, whole, stripped_append plain (by simp), List.append_assoc]
  show Uri.ofAuthority (.web 80) ((name ++ port ++ Uri.tidied rest).dropWhile (isSlash true)) = _
  rw [addressed.tidied.dropWhile_isSlash]

theorem of_scheme? {scheme : Scheme} {following : List Char}
    (found : scheme? (name ++ port ++ rest) = some (scheme, following)) :
    ∃ digits, port = ':' :: digits ∧ following = digits ++ rest ∧
      scheme = .ofName (String.ofList (name.map Char.toLower)) := by
  have named : (name ++ (port ++ rest)).takeWhile
      (fun c => c.isAlphanum || c = '+' || c = '-' || c = '.') = name := by
    -- A scheme may hold more characters than a name, but none that can follow one.
    refine takeWhile_stops (fun c member => ?_) (fun c next => ?_)
    · have here := addressed.name c member
      simp only [isNameChar, Bool.or_eq_true] at here
      rcases here with (here | here) | here <;> simp [here]
    · obtain ⟨unnamed, signless, -⟩ := addressed.behind next
      simp only [isNameChar, Bool.or_eq_false_iff] at unnamed
      simp [unnamed, signless]
  rw [scheme?, List.append_assoc, named, List.drop_left] at found
  split at found
  · next first more digits _ behind =>
    split at found
    · cases found
      rcases addressed.port with bare | ⟨digits', numbered, -⟩
      · rw [bare, List.nil_append] at behind
        exact absurd (congrArg List.head? behind) addressed.colonless
      · rw [numbered] at behind
        exact ⟨digits', numbered, (List.cons.inj behind).2.symm, rfl⟩
    · cases found
  · cases found

theorem numeric_of_ofAuthority {usual : Nat} {digits : List Char} {parsed : Uri}
    (numbered : port = ':' :: digits)
    (read : Uri.ofAuthority (.web usual) ((digits ++ rest).dropWhile (isSlash true)) =
      .ok parsed) :
    ∀ c ∈ parsed.host.toList, c.isDigit = true ∨ c = '.' := by
  obtain ⟨filled, all⟩ := addressed.digits numbered
  -- The digits of the port stand where a name would, with no port behind them.
  have host : Addressed digits [] rest :=
    ⟨filled, fun c member => isNameChar_of_isDigit (all c member), .inl rfl, addressed.rest⟩
  have onward := host.dropWhile_isSlash
  have authority : Uri.ofAuthority (.web usual) (digits ++ [] ++ rest) = _ := host.ofAuthority rfl
  rw [List.append_nil] at onward authority
  rw [onward, authority] at read
  cases digital : specialHost digits with
  | error error =>
    rw [digital] at read
    cases read
  | ok text =>
    rw [digital] at read
    cases read
    rw [String.toList_ofList]
    exact specialHost_digits all digital

theorem numeric_of_ofText {parsed : Uri}
    (read : Uri.ofText (String.ofList (name ++ port ++ rest)) = .ok parsed) :
    port ≠ [] ∧ (∃ usual, Scheme.ofName (String.ofList (name.map Char.toLower)) = .web usual) ∧
      ∀ c ∈ parsed.host.toList, c.isDigit = true ∨ c = '.' := by
  rw [Uri.ofText, addressed.stripped] at read
  split at read
  · cases read
  · next following found =>
    -- A locator of a file goes on with a slash, not with a digit.
    obtain ⟨digits, numbered, rfl, -⟩ := addressed.tidied.of_scheme? found
    obtain ⟨first, more, rfl, slashless⟩ := addressed.digits_cons numbered
    unfold ofFile at read
    split at read
    · next same =>
      obtain ⟨rfl, -⟩ := List.cons.inj same
      simp [slashless] at read
    · cases read
  · next usual following found =>
    obtain ⟨digits, numbered, rfl, web⟩ := addressed.tidied.of_scheme? found
    exact ⟨by simp [numbered], ⟨usual, web.symm⟩,
      addressed.tidied.numeric_of_ofAuthority numbered read⟩
  · next following found =>
    obtain ⟨digits, numbered, same, -⟩ := addressed.tidied.of_scheme? found
    obtain ⟨first, more, rfl, slashless⟩ := addressed.digits_cons numbered
    obtain ⟨rfl, -⟩ := List.cons.inj same
    cases slashless
  · cases read

theorem ofText_letters (labels : Labels Char.isAlpha name) :
    Uri.ofText ("http://" ++ String.ofList (name ++ port ++ rest)) =
      if (portNumber? port).any (65536 ≤ ·) then .error .invalidPort
      else .ok ⟨String.ofList (name.map Char.toLower), (portNumber? port).filter (· ≠ 80),
        String.ofList (pathOf true (beforeQuery (Uri.tidied rest)))⟩ := by
  have usual : ∀ n : Nat, ((Scheme.web 80).defaultPort? ≠ some n) = (n ≠ 80) := by
    intro n
    simp [Scheme.defaultPort?, eq_comm]
  rw [addressed.ofText_schemed, addressed.tidied.ofAuthority rfl, specialHost_letters labels]
  simp only [usual]
  rfl

theorem labels_of_web {usual : Nat}
    (web : Scheme.ofName (String.ofList (name.map Char.toLower)) = .web usual) :
    Labels Char.isAlpha name := by
  have listed : String.ofList (name.map Char.toLower) ∈ ["http", "ws", "https", "wss", "ftp"] := by
    unfold Scheme.ofName at web
    split at web <;> simp_all
  have lower : ∀ text ∈ ["http", "ws", "https", "wss", "ftp"], ∀ c ∈ text.toList,
      c.isLower = true := by
    simp
  refine labels_of_letters addressed.named fun c member => ?_
  have lowered := lower _ listed c.toLower (by simpa using ⟨c, member, rfl⟩)
  refine ascii_cases (motive := fun c => isNameChar c = true → c.toLower.isLower = true →
    c.isAlpha = true) ?_ (ascii_of_isNameChar (addressed.name c member)) (addressed.name c member)
    lowered
  decide

end Addressed

end

end Telemetry.Uri
