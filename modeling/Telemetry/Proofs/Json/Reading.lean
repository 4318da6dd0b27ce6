import Telemetry.Json.Reader

/-!
The token rows that spell a tree.

Reading goes over the tokens once and keeps the containers that are open. It accepts exactly the
rows that spell trees: what a reading holds spells the tokens it has taken in, one by one, and
the row of a tree leads from a reading that wants a value to one that holds the tree.
-/

set_option autoImplicit false

namespace Telemetry.Json

mutual

def Tree.tokens : Raw → List Token
  | .null => [.null]
  | .bool value => [.bool value]
  | .num literal => [.num literal]
  | .str spelling => [.str spelling]
  | .arr items => [.openArray] ++ itemsTokens items ++ [.closeArray]
  | .obj members => [.openObject] ++ membersTokens members ++ [.closeObject]

def itemsTokens : List Raw → List Token
  | [] => []
  | [item] => item.tokens
  | item :: rest => item.tokens ++ [.comma] ++ itemsTokens rest

def membersTokens : List (Spelling × Raw) → List Token
  | [] => []
  | [(key, value)] => [.str key, .colon] ++ value.tokens
  | (key, value) :: rest =>
    [.str key, .colon] ++ value.tokens ++ [.comma] ++ membersTokens rest

end

/-! What has been taken in -/

def itemsBefore (items : List Raw) : List Token := items.flatMap fun item => item.tokens ++ [.comma]

def membersBefore (members : List (Spelling × Raw)) : List Token :=
  members.flatMap fun (key, value) => [.str key, .colon] ++ value.tokens ++ [.comma]

theorem itemsTokens_append (items : List Raw) (last : Raw) :
    itemsTokens (items ++ [last]) = itemsBefore items ++ last.tokens := by
  induction items with
  | nil => rfl
  | cons item items ih =>
    rw [List.cons_append, itemsTokens, ih]
    · simp [itemsBefore]
    · simp

theorem membersTokens_append (members : List (Spelling × Raw)) (key : Spelling) (last : Raw) :
    membersTokens (members ++ [(key, last)]) =
      membersBefore members ++ ([.str key, .colon] ++ last.tokens) := by
  induction members with
  | nil => rfl
  | cons member members ih =>
    rw [List.cons_append, membersTokens, ih]
    · simp [membersBefore]
    · simp

namespace Frame

def tokens : Frame → List Token
  | array items => [.openArray] ++ itemsBefore items.reverse
  | object members key => [.openObject] ++ membersBefore members.reverse ++ [.str key, .colon]

/-- The tokens of open containers, of which the innermost comes first. -/
def allTokens (frames : List Frame) : List Token := frames.reverse.flatMap tokens

theorem allTokens_cons (frame : Frame) (frames : List Frame) :
    allTokens (frame :: frames) = allTokens frames ++ frame.tokens := by
  simp [allTokens]

end Frame

namespace Reading

def tokens : Reading → List Token
  | wantsValue frames => Frame.allTokens frames
  | emptyArray frames => Frame.allTokens frames ++ [.openArray]
  | emptyObject frames => Frame.allTokens frames ++ [.openObject]
  | wantsKey frames members =>
    Frame.allTokens frames ++ ([.openObject] ++ membersBefore members.reverse)
  | wantsColon frames members key =>
    Frame.allTokens frames ++ ([.openObject] ++ membersBefore members.reverse ++ [.str key])
  | complete frames tree => Frame.allTokens frames ++ tree.tokens

theorem tokens_begin? {frames : List Frame} {token : Token} {next : Reading}
    (begun : begin? frames token = some next) :
    next.tokens = Frame.allTokens frames ++ [token] := by
  cases token <;> cases begun <;> rfl

theorem tokens_resume? {tree : Raw} {frames : List Frame} {token : Token} {next : Reading}
    (resumed : resume? tree frames token = some next) :
    next.tokens = Frame.allTokens frames ++ tree.tokens ++ [token] := by
  unfold resume? at resumed
  split at resumed
  · cases resumed
    simp [tokens, Frame.allTokens_cons, Frame.tokens, itemsBefore]
  · cases resumed
    simp [tokens, Frame.allTokens_cons, Frame.tokens, Tree.tokens, itemsTokens_append]
  · cases resumed
    simp [tokens, Frame.allTokens_cons, Frame.tokens, membersBefore]
  · cases resumed
    simp [tokens, Frame.allTokens_cons, Frame.tokens, Tree.tokens, membersTokens_append]
  · cases resumed

theorem tokens_step? {reading next : Reading} {token : Token}
    (stepped : reading.step? token = some next) : next.tokens = reading.tokens ++ [token] := by
  unfold step? at stepped
  split at stepped
  case h_1 => exact tokens_begin? stepped
  case h_3 =>
    rw [tokens_begin? stepped, Frame.allTokens_cons]
    rfl
  case h_11 => exact tokens_resume? stepped
  all_goals cases stepped
  all_goals
    simp [tokens, Frame.allTokens_cons, Frame.tokens, Tree.tokens, itemsTokens, membersTokens,
      membersBefore]

theorem tokens_foldlM_step? {row : List Token} {reading last : Reading}
    (run : row.foldlM step? reading = some last) : last.tokens = reading.tokens ++ row := by
  induction row generalizing reading with
  | nil =>
    cases run
    exact (List.append_nil _).symm
  | cons token row ih =>
    rw [List.foldlM_cons] at run
    obtain ⟨next, stepped, rest⟩ := Option.bind_eq_some_iff.mp run
    rw [ih rest, tokens_step? stepped, List.append_assoc]
    rfl

/-! What a row of tokens leads to -/

theorem foldlM_emptyArray {items : List Raw} (some : items ≠ []) (frames : List Frame)
    (more : List Token) :
    (itemsTokens items ++ more).foldlM step? (emptyArray frames) =
      (itemsTokens items ++ more).foldlM step? (wantsValue (.array [] :: frames)) := by
  match items with
  | [] => exact absurd rfl some
  | [item] | item :: _ :: _ => cases item <;> rfl

theorem foldlM_emptyObject {members : List (Spelling × Raw)} (some : members ≠ [])
    (frames : List Frame) (more : List Token) :
    (membersTokens members ++ more).foldlM step? (emptyObject frames) =
      (membersTokens members ++ more).foldlM step? (wantsKey frames []) := by
  match members with
  | [] => exact absurd rfl some
  | [_] | _ :: _ :: _ => rfl

mutual

theorem foldlM_tokens (raw : Raw) (frames : List Frame) (more : List Token) :
    (raw.tokens ++ more).foldlM step? (wantsValue frames) =
      more.foldlM step? (complete frames raw) := by
  match raw with
  | .null | .bool _ | .num _ | .str _ => rfl
  | .arr items =>
    -- Behind the opening bracket an item is read as any value is, since none begins by closing.
    by_cases empty : items = []
    · subst empty
      rfl
    · have inside := foldlM_itemsTokens items empty [] frames more
      rw [← foldlM_emptyArray empty] at inside
      rw [Tree.tokens, List.append_assoc, List.append_assoc]
      exact inside
  | .obj members =>
    by_cases empty : members = []
    · subst empty
      rfl
    · have inside := foldlM_membersTokens members empty [] frames more
      rw [← foldlM_emptyObject empty] at inside
      rw [Tree.tokens, List.append_assoc, List.append_assoc]
      exact inside

-- The items before are kept newest first, and turned around when the array is closed.
theorem foldlM_itemsTokens (items : List Raw) (some : items ≠ []) (before : List Raw)
    (frames : List Frame) (more : List Token) :
    (itemsTokens items ++ ([Token.closeArray] ++ more)).foldlM step?
        (wantsValue (.array before :: frames)) =
      more.foldlM step? (complete frames (.arr (before.reverse ++ items))) := by
  match items with
  | [] => exact absurd rfl some
  | [item] =>
    rw [itemsTokens, foldlM_tokens item, ← List.reverse_cons]
    rfl
  | item :: next :: rest =>
    have behind := foldlM_itemsTokens (next :: rest) nofun (item :: before) frames more
    rw [List.reverse_cons, List.append_assoc] at behind
    rw [itemsTokens, List.append_assoc, List.append_assoc, foldlM_tokens item]
    · exact behind
    · simp

theorem foldlM_membersTokens (members : List (Spelling × Raw)) (some : members ≠ [])
    (before : List (Spelling × Raw)) (frames : List Frame) (more : List Token) :
    (membersTokens members ++ ([Token.closeObject] ++ more)).foldlM step?
        (wantsKey frames before) =
      more.foldlM step? (complete frames (.obj (before.reverse ++ members))) := by
  match members with
  | [] => exact absurd rfl some
  | [(key, value)] =>
    have inside := foldlM_tokens value (.object before key :: frames) ([Token.closeObject] ++ more)
    rw [membersTokens, List.append_assoc, ← List.reverse_cons]
    exact inside
  | (key, value) :: next :: rest =>
    have behind := foldlM_membersTokens (next :: rest) nofun ((key, value) :: before) frames more
    have inside := foldlM_tokens value (.object before key :: frames)
      ([Token.comma] ++ (membersTokens (next :: rest) ++ ([Token.closeObject] ++ more)))
    rw [List.reverse_cons, List.append_assoc] at behind
    rw [membersTokens, List.append_assoc, List.append_assoc, List.append_assoc]
    · exact inside.trans behind
    · simp

end

end Reading

theorem ofTokens?_eq_some_iff {row : List Token} {raw : Raw} :
    ofTokens? row = some raw ↔ row = raw.tokens := by
  constructor
  · intro found
    obtain ⟨last, run, result⟩ := Option.bind_eq_some_iff.mp found
    have taken := Reading.tokens_foldlM_step? run
    unfold Reading.result? at result
    split at result
    · cases result
      exact taken.symm
    · cases result
  · rintro rfl
    have run := Reading.foldlM_tokens raw [] []
    rw [List.append_nil] at run
    rw [ofTokens?, run]
    rfl

end Telemetry.Json
