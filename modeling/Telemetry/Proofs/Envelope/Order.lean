import Telemetry.Proofs.Envelope.RoundTrip
import Telemetry.Proofs.Json.Layout

/-!
Envelopes whose members come in another order, with members that are not known among them.

An envelope is read from an object by looking up keys, and what a look-up finds depends neither
on the order of the members nor on members with other keys. The text of an object is read member
by member.

Main statement: every line that spells an object is put together from the texts of its members;
where these are put into another order, with members among them that JSON allows and whose keys
mean nothing to the envelope and to an event of its kind, the line is read as before, and refused
if it was refused before.
-/

set_option autoImplicit false

namespace Telemetry

namespace Json

/-! ### Looking up a key -/

section
variable {key : String}

theorem member?_perm {first second : Members} (same : first.Perm second) :
    member? first key = member? second key := by
  have found := same.filter fun member => member.1 = key
  unfold member?
  generalize first.filter (fun member => member.1 = key) = these at found ⊢
  generalize second.filter (fun member => member.1 = key) = those at found ⊢
  -- At most one entry is the same entry; more than one stay more than one.
  match these with
  | [] => rw [List.nil_perm.mp found]
  | [member] => rw [List.singleton_perm.mp found]
  | _ :: _ :: _ =>
    match those with
    | [] | [_] => simpa using found.length_eq
    | _ :: _ :: _ => rfl

theorem member?_append_of_notMem {members others : Members}
    (absent : key ∉ others.map Prod.fst) :
    member? (members ++ others) key = member? members key := by
  have none : others.filter (·.1 = key) = [] := by
    rw [List.filter_eq_nil_iff]
    intro member inside here
    exact absent (List.mem_map.mpr ⟨member, inside, of_decide_eq_true here⟩)
  rw [member?, List.filter_append, none, List.append_nil]
  rfl

end

/-! ### Members read in another order -/

section
variable {members others changed : List MemberText} {contents extra read : Members}

theorem readAs_apart (same : changed.Perm (members ++ others))
    (each : List.Forall₂ MemberText.ReadAs changed read) :
    ∃ contents extra, List.Forall₂ MemberText.ReadAs members contents ∧
      List.Forall₂ MemberText.ReadAs others extra ∧ read.Perm (contents ++ extra) := by
  obtain ⟨sorted, apart, moved⟩ := List.perm_comp_forall₂ same.symm each
  have front := List.forall₂_take members.length apart
  have back := List.forall₂_drop members.length apart
  rw [List.take_left] at front
  rw [List.drop_left] at back
  refine ⟨_, _, front, back, ?_⟩
  rw [List.take_append_drop]
  exact moved.symm

theorem readAs_together (same : changed.Perm (members ++ others))
    (first : List.Forall₂ MemberText.ReadAs members contents)
    (second : List.Forall₂ MemberText.ReadAs others extra) :
    ∃ read, List.Forall₂ MemberText.ReadAs changed read ∧ read.Perm (contents ++ extra) :=
  List.perm_comp_forall₂ same (List.rel_append first second)

end

/-- JSON allows a member where it allows the object that has no other: the key and all strings
stand for texts, the numbers are within range and the brackets not nested too deep. -/
def MemberText.Allowed (member : MemberText) : Prop :=
  ∃ value, value? member.alone.text = some value

theorem MemberText.allowed_iff {member : MemberText} :
    member.Allowed ↔ ∃ content, member.ReadAs content := by
  simp only [Allowed, ObjectText.value?_text_eq_some_iff, alone, List.forall₂_cons_left_iff,
    List.forall₂_nil_left_iff]
  constructor
  · rintro ⟨_, _, ⟨content, _, read, -, -⟩, -⟩
    exact ⟨content, read⟩
  · rintro ⟨content, read⟩
    exact ⟨_, _, ⟨content, [], read, rfl, rfl⟩, rfl⟩

theorem exists_related {α β : Type} {related : α → β → Prop} {first : List α} {second : List β}
    (each : List.Forall₂ related first second) : ∀ x ∈ first, ∃ y ∈ second, related x y := by
  induction each with
  | nil => nofun
  | cons here _ ih =>
    rw [List.forall_mem_cons]
    refine ⟨⟨_, List.mem_cons_self, here⟩, fun x inside => ?_⟩
    obtain ⟨y, there, relates⟩ := ih x inside
    exact ⟨y, List.mem_cons_of_mem _ there, relates⟩

theorem exists_readAs {members : List MemberText} (allowed : ∀ member ∈ members, member.Allowed) :
    ∃ contents, List.Forall₂ MemberText.ReadAs members contents := by
  induction members with
  | nil => exact ⟨[], .nil⟩
  | cons member members ih =>
    obtain ⟨here, others⟩ := List.forall_mem_cons.mp allowed
    obtain ⟨content, read⟩ := MemberText.allowed_iff.mp here
    obtain ⟨contents, each⟩ := ih others
    exact ⟨content :: contents, .cons read each⟩

end Json

namespace Envelope

open Json

def ownKeys : List String := ["origin", "deployment", "job", "index", "ip", "timestamp"]

def kindOf? (members : Members) : Option EventKind := (member? members kindKey).join >>= kind?

/-- A key that means nothing to an envelope, nor to an event of a kind if there is one. -/
structure Foreign (kind : Option EventKind) (key : String) : Prop where
  own : key ∉ ownKeys
  tag : key ≠ kindKey
  event : ∀ k ∈ kind, key ∉ eventKeys k

theorem keys_fields (envelope : Envelope) :
    (fields envelope).map Field.key = ownKeys ++ eventKeys envelope.event.kind := by
  obtain ⟨origin, deployment, job, index, ip, timestamp, event⟩ := envelope
  cases event <;> rfl

theorem decodeMembers?_congr {first second : Members} {envelope : Envelope}
    (tag : kindOf? first = kindOf? second)
    (alike : ∀ key ∈ ownKeys ++ eventKeys envelope.event.kind,
      member? first key = member? second key) :
    decodeMembers? first = some envelope ↔ decodeMembers? second = some envelope := by
  have each : ∀ field ∈ fields envelope, field.ReadFrom first ↔ field.ReadFrom second := by
    intro field inside
    have same : member? first field.key = member? second field.key := by
      apply alike
      rw [← keys_fields]
      exact List.mem_map_of_mem inside
    rw [Field.ReadFrom, Field.ReadFrom, field?, field?, same]
  rw [decodeMembers?_eq_some_iff, decodeMembers?_eq_some_iff]
  exact and_congr (Eq.congr_left tag) (forall₂_congr each)

theorem decodeMembers?_rearranged {contents extra read : Members}
    (same : read.Perm (contents ++ extra))
    (foreign : ∀ content ∈ extra, Foreign (kindOf? contents) content.1) :
    decodeMembers? read = decodeMembers? contents := by
  -- A key that none of the new members has finds what it found.
  have found : ∀ key, key ∉ extra.map Prod.fst → member? read key = member? contents key :=
    fun key absent => (member?_perm same).trans (member?_append_of_notMem absent)
  have tag : kindOf? read = kindOf? contents := by
    rw [kindOf?, kindOf?, found kindKey]
    intro here
    obtain ⟨content, inside, is⟩ := List.mem_map.mp here
    exact (foreign content inside).tag is
  ext envelope
  by_cases kind : kindOf? contents = some envelope.event.kind
  · refine decodeMembers?_congr tag fun key known => found key fun here => ?_
    obtain ⟨content, inside, rfl⟩ := List.mem_map.mp here
    rcases List.mem_append.mp known with own | event
    · exact (foreign content inside).own own
    · exact (foreign content inside).event _ kind event
  · -- An envelope of another kind is read from neither.
    have other : ∀ members, kindOf? members = kindOf? contents →
        decodeMembers? members ≠ some envelope := by
      intro members alike decoded
      exact kind (alike.symm.trans (decodeMembers?_eq_some_iff.mp decoded).1)
    exact iff_of_false (other read tag) (other contents rfl)

/-! ### Lines -/

theorem ofLine?_text_eq_some_iff {object : ObjectText} {envelope : Envelope} :
    ofLine? object.text = some envelope ↔
      ∃ contents, List.Forall₂ MemberText.ReadAs object.members contents ∧
        decodeMembers? contents = some envelope := by
  simp only [ofLine?, Option.bind_eq_some_iff, ObjectText.value?_text_eq_some_iff]
  constructor
  · rintro ⟨_, ⟨contents, each, rfl⟩, decoded⟩
    exact ⟨contents, each, decoded⟩
  · rintro ⟨contents, each, decoded⟩
    exact ⟨_, ⟨contents, each, rfl⟩, decoded⟩

def lineKind? (line : String) : Option EventKind :=
  (Json.value? line).bind fun
    | .obj members => kindOf? members
    | _ => none

theorem lineKind?_text {object : ObjectText} {contents : Members}
    (each : List.Forall₂ MemberText.ReadAs object.members contents) :
    lineKind? object.text = kindOf? contents := by
  rw [lineKind?, ObjectText.value?_text_eq_some_iff.mpr ⟨contents, each, rfl⟩]
  rfl

def ForeignMember (kind : Option EventKind) (member : MemberText) : Prop :=
  ∀ key, member.key.text? = some key → Foreign kind key

section
variable {object changed : ObjectText} {others : List MemberText}

theorem foreign_of_readAs {contents extra : Members}
    (foreign : ∀ member ∈ others, ForeignMember (lineKind? object.text) member)
    (each : List.Forall₂ MemberText.ReadAs object.members contents)
    (more : List.Forall₂ MemberText.ReadAs others extra) :
    ∀ content ∈ extra, Foreign (kindOf? contents) content.1 := by
  intro content inside
  obtain ⟨member, there, read⟩ := exists_related more.flip content inside
  rw [← lineKind?_text each]
  exact foreign member there content.1 read.key

theorem ofLine?_rearranged (same : changed.members.Perm (object.members ++ others))
    (allowed : ∀ member ∈ others, member.Allowed)
    (foreign : ∀ member ∈ others, ForeignMember (lineKind? object.text) member) :
    ofLine? changed.text = ofLine? object.text := by
  ext envelope
  show ofLine? changed.text = some envelope ↔ ofLine? object.text = some envelope
  rw [ofLine?_text_eq_some_iff, ofLine?_text_eq_some_iff]
  constructor
  · rintro ⟨read, each, decoded⟩
    obtain ⟨contents, extra, first, second, moved⟩ := readAs_apart same each
    refine ⟨contents, first, ?_⟩
    rwa [← decodeMembers?_rearranged moved (foreign_of_readAs foreign first second)]
  · rintro ⟨contents, first, decoded⟩
    obtain ⟨extra, second⟩ := exists_readAs allowed
    obtain ⟨read, each, moved⟩ := readAs_together same first second
    refine ⟨read, each, ?_⟩
    rwa [decodeMembers?_rearranged moved (foreign_of_readAs foreign first second)]

theorem ofLine?_disallowed (same : changed.members.Perm (object.members ++ others))
    {member : MemberText} (inside : member ∈ others) (disallowed : ¬ member.Allowed) :
    ofLine? changed.text = none := by
  rw [Option.eq_none_iff_forall_ne_some]
  intro envelope read
  obtain ⟨contents, each, -⟩ := ofLine?_text_eq_some_iff.mp read
  have among : member ∈ changed.members := same.mem_iff.mpr (List.mem_append_right _ inside)
  obtain ⟨content, -, read⟩ := exists_related each member among
  exact disallowed (MemberText.allowed_iff.mpr ⟨content, read⟩)

end

/-- Every line that spells an object is put together from the texts of its members. Where these
are in another order and others among them, which JSON allows and whose keys mean nothing to the
envelope and to an event of the kind the line names, the same envelope is read, or none if none
was; where JSON does not allow one of the others, none is. -/
theorem order_exact :
    (∀ line raws, raw? line = some (.obj raws) →
      ∃ object : ObjectText, object.text = line ∧
        object.members.map MemberText.spelled = raws) ∧
    ∀ (object changed : ObjectText) (others : List MemberText),
      changed.members.Perm (object.members ++ others) →
      ((∀ member ∈ others, member.Allowed ∧ ForeignMember (lineKind? object.text) member) →
        ofLine? changed.text = ofLine? object.text) ∧
      ((∃ member ∈ others, ¬ member.Allowed) → ofLine? changed.text = none) := by
  refine ⟨fun line raws => ObjectText.exists_text, fun object changed others same => ⟨?_, ?_⟩⟩
  · intro each
    exact ofLine?_rearranged same (fun member inside => (each member inside).1)
      fun member inside => (each member inside).2
  · rintro ⟨member, inside, disallowed⟩
    exact ofLine?_disallowed same inside disallowed

/-- The kind comes last, behind the fields it governs and two members it does not know; a half of
a pair of units on its own spoils the line wherever it stands. -/
theorem order_exact_gauge :
    let tag : MemberText := ⟨"\"event_type\" : 3".toList, .ofText "event_type",
      .num ⟨false, [3], [], none⟩, by decide +kernel⟩
    let value : MemberText := ⟨"\"value\":2".toList, .ofText "value",
      .num ⟨false, [2], [], none⟩, by decide +kernel⟩
    let nested : MemberText := ⟨"\"x\":[\x7b\"name\":1\x7d] ".toList, .ofText "x",
      .arr [.obj [(.ofText "name", .num ⟨false, [1], [], none⟩)]], by decide +kernel⟩
    let uri : MemberText := ⟨" \"uri\":null".toList, .ofText "uri", .null, by decide +kernel⟩
    let half : MemberText := ⟨"\"x\":\"\\ud800\"".toList, .ofText "x", .str [.unit 0xD800],
      by decide +kernel⟩
    let object : ObjectText := { tag.alone with members := [tag, value] }
    let changed : ObjectText := { object with members := [nested, value, uri, tag] }
    let spoiled : ObjectText := { object with members := [half, tag, value] }
    changed.text = "\x7b\"x\":[\x7b\"name\":1\x7d] ,\"value\":2, \"uri\":null," ++
        "\"event_type\" : 3\x7d" ∧
      (∃ laid : ObjectText, laid.text = changed.text ∧
        laid.members.map MemberText.spelled = changed.members.map MemberText.spelled) ∧
      changed.members.Perm (object.members ++ [nested, uri]) ∧
      (∀ member ∈ [nested, uri],
        member.Allowed ∧ ForeignMember (lineKind? object.text) member) ∧
      ofLine? changed.text = ofLine? object.text ∧ (ofLine? object.text).isSome = true ∧
      ¬ half.Allowed ∧ ofLine? spoiled.text = none := by
  intro tag value nested uri half object changed spoiled
  have moved : changed.members.Perm (object.members ++ [nested, uri]) :=
    (@List.perm_middle _ tag [nested, value, uri] []).trans (.cons tag (.swap value nested [uri]))
  have kind : lineKind? object.text = some .valueMetric := by decide +kernel
  have foreign : ∀ member ∈ [nested, uri],
      member.Allowed ∧ ForeignMember (lineKind? object.text) member := by
    have unknown : ∀ key ∈ ["x", "uri"], key ∉ ownKeys ∧ key ≠ kindKey ∧
        key ∉ eventKeys .valueMetric := by decide +kernel
    have each : ∀ (member : MemberText) (content : String × Value), member.ReadAs content →
        content.1 ∈ ["x", "uri"] →
        member.Allowed ∧ ForeignMember (lineKind? object.text) member := by
      intro member content read inside
      obtain ⟨own, tag, event⟩ := unknown content.1 inside
      refine ⟨MemberText.allowed_iff.mpr ⟨content, read⟩, fun key named => ?_⟩
      cases read.key.symm.trans named
      exact ⟨own, tag, by rw [kind]; rintro _ ⟨⟩; exact event⟩
    rw [List.forall_mem_cons, List.forall_mem_singleton]
    exact ⟨each nested ("x", .arr [.obj [("name", .num (.int 1))]])
        ⟨by decide, by decide +kernel, rfl⟩ (by decide),
      each uri ("uri", .null) ⟨by decide, by decide +kernel, rfl⟩ (by decide)⟩
  have refused : ¬ half.Allowed := by
    rw [MemberText.allowed_iff]
    rintro ⟨content, -, -, stands⟩
    cases stands
  refine ⟨by decide +kernel, order_exact.1 _ _ changed.raw?_text, moved, foreign,
    (order_exact.2 object changed _ moved).1 foreign, by decide +kernel, refused,
    (order_exact.2 object spoiled [half] ?_).2 ⟨half, List.mem_singleton_self half, refused⟩⟩
  exact (@List.perm_append_comm _ [half] [tag, value])

end Envelope

end Telemetry
