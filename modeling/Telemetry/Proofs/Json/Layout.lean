import Mathlib.Data.List.Forall2
import Mathlib.Data.List.Perm.Basic
import Telemetry.Json.Decode
import Telemetry.Proofs.Json.Reading
import Telemetry.Proofs.Json.Token

/-!
The text of an object, member by member.

Where a row of tokens is cut the text can be, so a text that spells an object is the texts of its
members between commas, with what opens the object before them and what closes it behind them.
Any members that are put in their place spell the object with these members; it has a value as
soon as each member has one, and the values keep the order of the members.
-/

set_option autoImplicit false

namespace Telemetry.Json

namespace Token

theorem first?_of_all? {c : Char} {cs : List Char} {token : Token} {later : List Token}
    (space : isSpace c = false) (read : all? (c :: cs) = some (token :: later)) :
    ∃ after, first? c cs = some (token, after) ∧ all? after = some later := by
  cases first : first? c cs with
  | none =>
    rw [all?, if_neg (by simp [space])] at read
    split at read
    · cases read
    · next same =>
      rw [first] at same
      cases same
  | some found =>
    obtain ⟨other, after⟩ := found
    rw [all?_cons space first] at read
    obtain ⟨_, inner, same⟩ := Option.map_eq_some_iff.mp read
    cases same
    exact ⟨after, rfl, inner⟩

theorem all?_cut {cs : List Char} {row later : List Token}
    (read : all? cs = some (row ++ later)) :
    ∃ front back, cs = front ++ back ∧ all? front = some row ∧ all? back = some later ∧
      ∀ c ∈ back.head?, isSpace c = false := by
  -- Along the text, token by token; the cut is here once no token is left to stand before it.
  fun_induction all? cs generalizing row with
  | case1 =>
    obtain ⟨rfl, rfl⟩ := List.append_eq_nil_iff.mp (Option.some.inj read).symm
    exact ⟨[], [], rfl, by rw [all?], by rw [all?], fun _ inside => by cases inside⟩
  | case2 c cs space ih =>
    obtain ⟨front, back, rfl, before, behind, begins⟩ := ih read
    exact ⟨c :: front, back, rfl, by rwa [all?, if_pos space], behind, begins⟩
  | case3 c cs space none => cases read
  | case4 c cs space token after first _ ih =>
    have visible : isSpace c = false := by simpa using space
    obtain ⟨others, inner, same⟩ := Option.map_eq_some_iff.mp read
    cases row with
    | nil =>
      refine ⟨[], c :: cs, rfl, by rw [all?], ?_, ?_⟩
      · rw [all?_cons visible first, inner]
        exact congrArg some same
      · rintro d member
        cases Option.mem_some.mp member
        exact visible
    | cons head row =>
      obtain ⟨rfl, rfl⟩ := List.cons.inj same
      obtain ⟨front, back, rfl, before, behind, begins⟩ := ih inner
      -- The token is the same where the text behind the cut is missing.
      obtain ⟨piece, rfl, again⟩ := local_first? c first
      have start := again front (mayReplace_shortened (List.prefix_append front back))
      refine ⟨c :: (piece ++ front), back, by simp, ?_, behind, begins⟩
      rw [all?_cons visible start, before]
      rfl

theorem eq_of_first?_comma {c : Char} {cs after : List Char}
    (found : first? c cs = some (comma, after)) : c = ',' ∧ after = cs := by
  unfold first? at found
  split at found
  case h_5 =>
    cases found
    exact ⟨rfl, rfl⟩
  case h_7 | h_8 | h_9 | h_10 | h_11 | h_12 =>
    obtain ⟨_, _, same⟩ := Option.map_eq_some_iff.mp found
    cases same
  all_goals cases found

theorem all?_cut_comma {cs : List Char} {row later : List Token}
    (read : all? cs = some (row ++ comma :: later)) :
    ∃ front back, cs = front ++ ',' :: back ∧ all? front = some row ∧ all? back = some later := by
  obtain ⟨front, back, rfl, before, behind, begins⟩ := all?_cut read
  cases back with
  | nil =>
    rw [all?] at behind
    cases behind
  | cons c back =>
    obtain ⟨after, first, rest⟩ := first?_of_all? (begins c rfl) behind
    obtain ⟨rfl, rfl⟩ := eq_of_first?_comma first
    exact ⟨front, after, rfl, before, rest⟩

theorem closes_of_all? {cs : List Char} {token : Token} {later : List Token}
    (read : all? cs = some (token :: later)) (other : ∀ literal, token ≠ num literal) :
    Closes cs := by
  cases cs with
  | nil => nofun
  | cons c cs =>
    refine closes_cons cs ?_
    -- A blank goes on with no number; else the character is the first of the token.
    cases space : isSpace c with
    | true =>
      simp only [isSpace, Bool.or_eq_true, decide_eq_true_eq] at space
      rcases space with ((rfl | rfl) | rfl) | rfl <;> decide
    | false =>
      obtain ⟨after, first, -⟩ := first?_of_all? space read
      unfold first? at first
      split at first
      case h_11 | h_12 =>
        obtain ⟨_, _, same⟩ := Option.map_eq_some_iff.mp first
        cases same
        exact absurd rfl (other _)
      all_goals decide

end Token

structure MemberText where
  chars : List Char
  key : Spelling
  value : Raw
  row : Token.all? chars = some ([.str key, .colon] ++ value.tokens)

/-- The text of an object: a brace, the members, and a brace, with blanks anywhere. -/
structure ObjectText where
  opening : List Char
  members : List MemberText
  closing : List Char
  opens : Token.all? opening = some [.openObject]
  closes : Token.all? closing = some [.closeObject]

namespace MemberText

def spelled (member : MemberText) : Spelling × Raw := (member.key, member.value)

def alone (member : MemberText) : ObjectText where
  opening := ['\x7b']
  members := [member]
  closing := ['\x7d']
  opens := by decide +kernel
  closes := by decide +kernel

end MemberText

namespace ObjectText

def inside (members : List MemberText) : List Char :=
  [','].intercalate (members.map MemberText.chars)

def text (object : ObjectText) : String :=
  String.ofList (object.opening ++ inside object.members ++ object.closing)

theorem inside_cons (member : MemberText) {members : List MemberText} (more : members ≠ []) :
    inside (member :: members) = member.chars ++ [','] ++ inside members := by
  unfold inside
  rw [List.map_cons, List.intercalate_cons_of_ne_nil (by simpa using more), List.append_assoc]

theorem membersTokens_spelled (member : MemberText) {members : List MemberText}
    (more : members ≠ []) : membersTokens ((member :: members).map MemberText.spelled) =
      [.str member.key, .colon] ++ member.value.tokens ++ [.comma] ++
        membersTokens (members.map MemberText.spelled) := by
  rw [List.map_cons, MemberText.spelled, membersTokens]
  simpa using more

theorem membersTokens_first (member : MemberText) (members : List MemberText) :
    ∃ later, membersTokens ((member :: members).map MemberText.spelled) =
      .str member.key :: later := by
  match members with
  | [] | _ :: _ => exact ⟨_, rfl⟩

theorem all?_inside (members : List MemberText) :
    Token.all? (inside members) = some (membersTokens (members.map MemberText.spelled)) := by
  induction members with
  | nil => decide +kernel
  | cons member members ih =>
    by_cases last : members = []
    · subst last
      rw [inside, List.map_singleton, List.intercalate_singleton]
      exact member.row
    · rw [inside_cons member last, membersTokens_spelled member last]
      exact Token.all?_comma member.row ih

theorem raw?_text (object : ObjectText) :
    raw? object.text = some (.obj (object.members.map MemberText.spelled)) := by
  have closing : Token.Closes object.closing := Token.closes_of_all? object.closes nofun
  have ended : Token.all? (inside object.members ++ object.closing) =
      some (membersTokens (object.members.map MemberText.spelled) ++ [.closeObject]) := by
    rw [Token.all?_append closing (all?_inside object.members), object.closes]
    rfl
  -- Behind the opening brace stands a key or the closing brace.
  have begun : Token.Closes (inside object.members ++ object.closing) := by
    cases members : object.members with
    | nil => exact closing
    | cons member others =>
      obtain ⟨later, first⟩ := membersTokens_first member others
      rw [members, first] at ended
      exact Token.closes_of_all? ended nofun
  rw [raw?, text, String.toList_ofList, List.append_assoc,
    Token.all?_append begun object.opens, ended]
  exact ofTokens?_eq_some_iff.mpr rfl

theorem exists_inside {raws : List (Spelling × Raw)} (filled : raws ≠ []) {cs : List Char}
    (read : Token.all? cs = some (membersTokens raws)) :
    ∃ members : List MemberText, members.map MemberText.spelled = raws ∧ inside members = cs := by
  induction raws generalizing cs with
  | nil => exact absurd rfl filled
  | cons raw raws ih =>
    obtain ⟨key, value⟩ := raw
    by_cases last : raws = []
    · subst last
      exact ⟨[⟨cs, key, value, read⟩], rfl, List.intercalate_singleton⟩
    · -- The text is cut at the comma behind its first member.
      rw [membersTokens, List.append_assoc _ [Token.comma]] at read
      · obtain ⟨front, back, rfl, here, behind⟩ := Token.all?_cut_comma read
        obtain ⟨members, rfl, rfl⟩ := ih last behind
        have more : members ≠ [] := by
          rintro rfl
          exact last rfl
        refine ⟨⟨front, key, value, here⟩ :: members, rfl, ?_⟩
        rw [inside_cons _ more, List.append_assoc]
        rfl
      · exact last

theorem exists_text {line : String} {raws : List (Spelling × Raw)}
    (read : raw? line = some (.obj raws)) :
    ∃ object : ObjectText, object.text = line ∧
      object.members.map MemberText.spelled = raws := by
  obtain ⟨row, tokens, tree⟩ := Option.bind_eq_some_iff.mp read
  have spelled : row = [.openObject] ++ (membersTokens raws ++ [.closeObject]) :=
    (ofTokens?_eq_some_iff.mp tree).trans (List.append_assoc ..)
  rw [spelled] at tokens
  -- Blanks between the braces of an empty object go with the first of them.
  by_cases empty : raws = []
  · subst empty
    obtain ⟨opening, closing, whole, opens, closes, -⟩ := Token.all?_cut tokens
    refine ⟨⟨opening, [], closing, opens, closes⟩, ?_, rfl⟩
    rw [text, inside, List.map_nil, List.intercalate_nil, List.append_nil, ← whole,
      String.ofList_toList]
  · obtain ⟨opening, behind, whole, opens, ended, -⟩ := Token.all?_cut tokens
    obtain ⟨between, closing, rfl, inner, closes, -⟩ := Token.all?_cut ended
    obtain ⟨members, rfl, rfl⟩ := exists_inside empty inner
    refine ⟨⟨opening, members, closing, opens, closes⟩, ?_, rfl⟩
    rw [text, List.append_assoc, ← whole, String.ofList_toList]

end ObjectText

/-! ### Values of members -/

theorem elaborateMembers?_eq_some_iff {raws : List (Spelling × Raw)} {contents : Members} :
    Tree.elaborateMembers? Spelling.text? Literal.number? raws = some contents ↔
      List.Forall₂ (fun raw content => raw.1.text? = some content.1 ∧
        raw.2.value? = some content.2) raws contents := by
  induction raws generalizing contents with
  | nil =>
    rw [List.forall₂_nil_left_iff, Tree.elaborateMembers?, Option.some.injEq, eq_comm]
  | cons raw raws ih =>
    simp only [Tree.elaborateMembers?, Option.bind_eq_bind, Option.bind_eq_some_iff,
      List.forall₂_cons_left_iff, ih]
    constructor
    · rintro ⟨key, named, value, stands, others, each, same⟩
      cases same
      exact ⟨(key, value), _, ⟨named, stands⟩, each, rfl⟩
    · rintro ⟨content, others, ⟨named, stands⟩, each, rfl⟩
      exact ⟨_, named, _, stands, _, each, rfl⟩

theorem depthMembers_lt_iff {raws : List (Spelling × Raw)} {limit : Nat} (positive : 0 < limit) :
    Tree.depthMembers raws < limit ↔ ∀ raw ∈ raws, raw.2.depth < limit := by
  induction raws with
  | nil => simpa [Tree.depthMembers] using positive
  | cons raw raws ih => rw [Tree.depthMembers, Nat.max_lt, ih, List.forall_mem_cons]

structure MemberText.ReadAs (member : MemberText) (content : String × Value) : Prop where
  shallow : member.value.depth < depthLimit
  key : member.key.text? = some content.1
  value : member.value.value? = some content.2

namespace ObjectText

theorem value?_text_eq_some_iff {object : ObjectText} {value : Value} :
    value? object.text = some value ↔
      ∃ contents, List.Forall₂ MemberText.ReadAs object.members contents ∧
        value = .obj contents := by
  have shallow : (Tree.obj (object.members.map MemberText.spelled)).depth ≤ depthLimit ↔
      ∀ member ∈ object.members, member.value.depth < depthLimit := by
    rw [Tree.depth, Nat.succ_le_iff, depthMembers_lt_iff (by decide), List.forall_mem_map]
    rfl
  -- Reading the members one by one also asks each of them to be nested less deep than the object.
  have each : ∀ contents, List.Forall₂ MemberText.ReadAs object.members contents ↔
      (∀ member ∈ object.members, member.value.depth < depthLimit) ∧
        Tree.elaborateMembers? Spelling.text? Literal.number?
          (object.members.map MemberText.spelled) = some contents := by
    intro contents
    rw [elaborateMembers?_eq_some_iff, List.forall₂_map_left_iff, ← List.forall₂_and_left]
    constructor
    · exact List.Forall₂.imp fun _ _ read => ⟨read.shallow, read.key, read.value⟩
    · exact List.Forall₂.imp fun _ _ ⟨shallow, key, value⟩ => ⟨shallow, key, value⟩
  simp only [each]
  rw [value?, object.raw?_text]
  show (if _ then _ else none) = some value ↔ _
  rw [Option.ite_none_right_eq_some, shallow]
  show _ ∧ (Tree.elaborateMembers? _ _ _).map Tree.obj = some value ↔ _
  rw [Option.map_eq_some_iff]
  constructor
  · rintro ⟨shallow, contents, found, rfl⟩
    exact ⟨contents, ⟨shallow, found⟩, rfl⟩
  · rintro ⟨contents, ⟨shallow, found⟩, rfl⟩
    exact ⟨shallow, contents, found, rfl⟩

end ObjectText

end Telemetry.Json
