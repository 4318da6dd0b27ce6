import Telemetry.Envelope.Format
import Telemetry.Proofs.Json.Codec

/-!
Envelopes read back from the lines they are written as.

The flat form is a list of fields, the envelope's own and those of its event, and the name of the
event's kind. An envelope is read exactly where each of its fields is, and is written with a
member for each; all their codecs are lawful and their keys differ. So an envelope that was read
from any line is read again from its own line, unless its timestamp is the one that cannot be
written. Doubles are the only content for which that rests on how numbers are printed.
-/

set_option autoImplicit false

namespace Telemetry

open Json

namespace Envelope

/-! Fields of events and envelopes -/

def timestampCodec : Codec Int := .integer (-2 ^ 63) (2 ^ 63)

def instanceCodec : Codec (Option Int) := .optional (.integer (-2 ^ 31) (2 ^ 31))

def peerCodec : Codec (Option Peer) :=
  .optional (.named (fun value => value.name?.bind Peer.ofName?) .client Peer.name)

def methodCodec : Codec Method :=
  .named (fun value => value.string?.map Method.ofName) .other Method.name

def streamCodec : Codec LogStream :=
  .named (fun value => value.name?.bind LogStream.ofName?) .out LogStream.name

theorem lawful_timestampCodec : timestampCodec.Lawful :=
  Codec.lawful_integer (by decide) (by decide)

theorem lawful_optionalText : (Codec.optional Codec.text).Lawful :=
  Codec.lawful_optional Codec.lawful_text fun _ => nofun

theorem lawful_instanceCodec : instanceCodec.Lawful :=
  Codec.lawful_optional (Codec.lawful_integer (by decide) (by decide)) fun _ => nofun

theorem lawful_peerCodec : peerCodec.Lawful :=
  Codec.lawful_optional (Codec.lawful_named (by rintro (_ | _) <;> rfl)) fun _ => nofun

theorem lawful_methodCodec : methodCodec.Lawful :=
  Codec.lawful_named fun method => congrArg some (Method.ofName_name method)

theorem lawful_streamCodec : streamCodec.Lawful :=
  Codec.lawful_named (by rintro (_ | _) <;> rfl)

def eventFields : Event → List Field
  | .http e =>
    [⟨_, "start_timestamp", timestampCodec, e.startTimestamp⟩,
      ⟨_, "stop_timestamp", timestampCodec, e.stopTimestamp⟩,
      ⟨_, "request_id", .optional .text, e.requestId⟩, ⟨_, "peer_type", peerCodec, e.peer⟩,
      ⟨_, "method", methodCodec, e.method⟩, ⟨_, "uri", .text, e.uri⟩,
      ⟨_, "remote_address", .optional .text, e.remoteAddress⟩,
      ⟨_, "user_agent", .optional .text, e.userAgent⟩,
      ⟨_, "status_code", .natural 16, e.status⟩,
      ⟨_, "content_length", .natural 64, e.contentLength⟩,
      ⟨_, "request_bytes", .optional (.natural 64), e.requestBytes⟩,
      ⟨_, "application_id", .optional .text, e.applicationId⟩,
      ⟨_, "instance_index", instanceCodec, e.instanceIndex⟩,
      ⟨_, "instance_id", .optional .text, e.instanceId⟩, ⟨_, "forwarded", .texts, e.forwarded⟩]
  | .metric e =>
    [⟨_, "application_id", .optional .text, e.applicationId⟩,
      ⟨_, "instance_index", instanceCodec, e.instanceIndex⟩,
      ⟨_, "cpu_percentage", .double, e.cpuPercentage⟩,
      ⟨_, "memory_bytes", .natural 64, e.memoryBytes⟩,
      ⟨_, "disk_bytes", .natural 64, e.diskBytes⟩,
      ⟨_, "memory_bytes_quota", .natural 64, e.memoryQuota⟩,
      ⟨_, "disk_bytes_quota", .natural 64, e.diskQuota⟩]
  | .log e =>
    [⟨_, "message", .text, e.message⟩, ⟨_, "message_type", streamCodec, e.stream⟩,
      ⟨_, "app_id", .optional .text, e.appId⟩, ⟨_, "source_type", .text, e.sourceType⟩,
      ⟨_, "source_instance", .optional .text, e.sourceInstance⟩]
  | .gauge e =>
    [⟨_, "name", .text, e.name⟩, ⟨_, "value", .double, e.value⟩, ⟨_, "unit", .text, e.unit⟩]
  | .counter e =>
    [⟨_, "name", .text, e.name⟩, ⟨_, "delta", .natural 64, e.delta⟩,
      ⟨_, "total", .natural 64, e.total⟩]
  | .unknown => []

theorem eventMembers_eq (event : Event) :
    eventMembers event = (eventFields event).map Field.member := by
  cases event <;> rfl

def ownFields (envelope : Envelope) : List Field :=
  [⟨_, "origin", .text, envelope.origin⟩, ⟨_, "deployment", .text, envelope.deployment⟩,
    ⟨_, "job", .text, envelope.job⟩, ⟨_, "index", .text, envelope.index⟩,
    ⟨_, "ip", .text, envelope.ip⟩,
    ⟨_, "timestamp", .optional timestampCodec, envelope.timestamp⟩]

def fields (envelope : Envelope) : List Field := ownFields envelope ++ eventFields envelope.event

/-! Reading goes by fields -/

/-- The first of the readings in a row; rewriting with it goes from the outside in. -/
theorem bind_eq_some_iff {α β : Type} {read : Option α} {next : α → Option β} {result : β} :
    (read >>= next) = some result ↔ ∃ x, read = some x ∧ next x = some result :=
  Option.bind_eq_some_iff

section
variable {members : Members}

theorem decodeHttp?_eq_some_iff {e : HttpEvent} : decodeHttp? members = some e ↔
    ∀ field ∈ eventFields (.http e), field.ReadFrom members := by
  simp only [decodeHttp?, ↓bind_eq_some_iff, eventFields, List.forall_mem_cons]
  constructor
  · rintro ⟨_, start, _, stop, _, id, _, peer, _, method, _, uri, _, remote, _, agent, _, status, _,
      length, _, bytes, _, app, _, index, _, ident, _, forwarded, same⟩
    cases same
    exact ⟨start, stop, id, peer, method, uri, remote, agent, status, length, bytes, app, index,
      ident, forwarded, nofun⟩
  · rintro ⟨start, stop, id, peer, method, uri, remote, agent, status, length, bytes, app, index,
      ident, forwarded, -⟩
    exact ⟨_, start, _, stop, _, id, _, peer, _, method, _, uri, _, remote, _, agent, _, status, _,
      length, _, bytes, _, app, _, index, _, ident, _, forwarded, rfl⟩

theorem decodeMetric?_eq_some_iff {e : MetricEvent} : decodeMetric? members = some e ↔
    ∀ field ∈ eventFields (.metric e), field.ReadFrom members := by
  simp only [decodeMetric?, ↓bind_eq_some_iff, eventFields, List.forall_mem_cons]
  constructor
  · rintro ⟨_, app, _, index, _, cpu, _, memory, _, disk, _, quota, _, space, same⟩
    cases same
    exact ⟨app, index, cpu, memory, disk, quota, space, nofun⟩
  · rintro ⟨app, index, cpu, memory, disk, quota, space, -⟩
    exact ⟨_, app, _, index, _, cpu, _, memory, _, disk, _, quota, _, space, rfl⟩

theorem decodeLog?_eq_some_iff {e : LogEvent} : decodeLog? members = some e ↔
    ∀ field ∈ eventFields (.log e), field.ReadFrom members := by
  simp only [decodeLog?, ↓bind_eq_some_iff, eventFields, List.forall_mem_cons]
  constructor
  · rintro ⟨_, message, _, stream, _, app, _, source, _, ident, same⟩
    cases same
    exact ⟨message, stream, app, source, ident, nofun⟩
  · rintro ⟨message, stream, app, source, ident, -⟩
    exact ⟨_, message, _, stream, _, app, _, source, _, ident, rfl⟩

theorem decodeGauge?_eq_some_iff {e : GaugeEvent} : decodeGauge? members = some e ↔
    ∀ field ∈ eventFields (.gauge e), field.ReadFrom members := by
  simp only [decodeGauge?, ↓bind_eq_some_iff, eventFields, List.forall_mem_cons]
  constructor
  · rintro ⟨_, name, _, value, _, unit, same⟩
    cases same
    exact ⟨name, value, unit, nofun⟩
  · rintro ⟨name, value, unit, -⟩
    exact ⟨_, name, _, value, _, unit, rfl⟩

theorem decodeCounter?_eq_some_iff {e : CounterEvent} : decodeCounter? members = some e ↔
    ∀ field ∈ eventFields (.counter e), field.ReadFrom members := by
  simp only [decodeCounter?, ↓bind_eq_some_iff, eventFields, List.forall_mem_cons]
  constructor
  · rintro ⟨_, name, _, delta, _, total, same⟩
    cases same
    exact ⟨name, delta, total, nofun⟩
  · rintro ⟨name, delta, total, -⟩
    exact ⟨_, name, _, delta, _, total, rfl⟩

theorem decodeEvent?_eq_some_iff {kind : EventKind} {event : Event} :
    decodeEvent? members kind = some event ↔
      kind = event.kind ∧ ∀ field ∈ eventFields event, field.ReadFrom members := by
  constructor
  · intro read
    -- The kind decides which fields are read.
    cases kind with
    | httpStartStop =>
      obtain ⟨_, found, rfl⟩ := Option.map_eq_some_iff.mp read
      exact ⟨rfl, decodeHttp?_eq_some_iff.mp found⟩
    | containerMetric =>
      obtain ⟨_, found, rfl⟩ := Option.map_eq_some_iff.mp read
      exact ⟨rfl, decodeMetric?_eq_some_iff.mp found⟩
    | logMessage =>
      obtain ⟨_, found, rfl⟩ := Option.map_eq_some_iff.mp read
      exact ⟨rfl, decodeLog?_eq_some_iff.mp found⟩
    | valueMetric =>
      obtain ⟨_, found, rfl⟩ := Option.map_eq_some_iff.mp read
      exact ⟨rfl, decodeGauge?_eq_some_iff.mp found⟩
    | counterEvent =>
      obtain ⟨_, found, rfl⟩ := Option.map_eq_some_iff.mp read
      exact ⟨rfl, decodeCounter?_eq_some_iff.mp found⟩
    | other =>
      cases read
      exact ⟨rfl, nofun⟩
  · rintro ⟨rfl, fields⟩
    cases event with
    | http => exact congrArg (Option.map Event.http) (decodeHttp?_eq_some_iff.mpr fields)
    | metric => exact congrArg (Option.map Event.metric) (decodeMetric?_eq_some_iff.mpr fields)
    | log => exact congrArg (Option.map Event.log) (decodeLog?_eq_some_iff.mpr fields)
    | gauge => exact congrArg (Option.map Event.gauge) (decodeGauge?_eq_some_iff.mpr fields)
    | counter => exact congrArg (Option.map Event.counter) (decodeCounter?_eq_some_iff.mpr fields)
    | unknown => rfl

theorem decodeMembers?_eq_some_iff {envelope : Envelope} :
    decodeMembers? members = some envelope ↔
      ((member? members kindKey).join >>= kind?) = some envelope.event.kind ∧
      ∀ field ∈ fields envelope, field.ReadFrom members := by
  simp only [decodeMembers?, ↓bind_eq_some_iff, fields, ownFields, List.forall_mem_append, List.forall_mem_cons, decodeEvent?_eq_some_iff]
  constructor
  · rintro ⟨_, tag, _, kind, _, origin, _, deployment, _, job, _, index, _, ip, _, time, _,
      ⟨rfl, fields⟩, same⟩
    cases same
    exact ⟨⟨_, tag, kind⟩, ⟨origin, deployment, job, index, ip, time, nofun⟩, fields⟩
  · rintro ⟨⟨_, tag, kind⟩, ⟨origin, deployment, job, index, ip, time, -⟩, fields⟩
    exact ⟨_, tag, _, kind, _, origin, _, deployment, _, job, _, index, _, ip, _, time, _,
      ⟨rfl, fields⟩, rfl⟩

end

/-! Every field can be restored -/

theorem lawful_eventFields (event : Event) :
    ∀ field ∈ eventFields event, field.codec.Lawful := by
  have count : (Codec.natural 64).Lawful := Codec.lawful_natural (Nat.le_refl _)
  cases event with
  | http e =>
    simp only [eventFields, List.forall_mem_cons]
    exact ⟨lawful_timestampCodec, lawful_timestampCodec, lawful_optionalText, lawful_peerCodec,
      lawful_methodCodec, Codec.lawful_text, lawful_optionalText, lawful_optionalText,
      Codec.lawful_natural (by decide), count, Codec.lawful_optional count fun _ => nofun,
      lawful_optionalText, lawful_instanceCodec, lawful_optionalText, Codec.lawful_texts, nofun⟩
  | metric e =>
    simp only [eventFields, List.forall_mem_cons]
    exact ⟨lawful_optionalText, lawful_instanceCodec, Codec.lawful_double, count, count, count,
      count, nofun⟩
  | log e =>
    simp only [eventFields, List.forall_mem_cons]
    exact ⟨Codec.lawful_text, lawful_streamCodec, lawful_optionalText, Codec.lawful_text,
      lawful_optionalText, nofun⟩
  | gauge e =>
    simp only [eventFields, List.forall_mem_cons]
    exact ⟨Codec.lawful_text, Codec.lawful_double, Codec.lawful_text, nofun⟩
  | counter e =>
    simp only [eventFields, List.forall_mem_cons]
    exact ⟨Codec.lawful_text, count, count, nofun⟩
  | unknown => nofun

theorem lawful_fields (envelope : Envelope) :
    ∀ field ∈ fields envelope, field.codec.Lawful := by
  simp only [fields, ownFields, List.forall_mem_append, List.forall_mem_cons]
  exact ⟨⟨Codec.lawful_text, Codec.lawful_text, Codec.lawful_text, Codec.lawful_text,
    Codec.lawful_text, Codec.lawful_optional lawful_timestampCodec fun _ => nofun, nofun⟩,
    lawful_eventFields envelope.event⟩

theorem kind?_kindName (kind : EventKind) : kind? (.str (kindName kind)) = some kind := by
  cases kind <;> decide +kernel

def members (envelope : Envelope) : Members :=
  (ownFields envelope).map Field.member ++ [(kindKey, .str (kindName envelope.event.kind))] ++
    (eventFields envelope.event).map Field.member

def eventKeys : EventKind → List String
  | .httpStartStop => (eventFields (Event.http {})).map Field.key
  | .containerMetric => (eventFields (Event.metric {})).map Field.key
  | .logMessage => (eventFields (Event.log {})).map Field.key
  | .valueMetric => (eventFields (Event.gauge {})).map Field.key
  | .counterEvent => (eventFields (Event.counter {})).map Field.key
  | .other => []

theorem distinct_keys (envelope : Envelope) : ((members envelope).map Prod.fst).Nodup := by
  obtain ⟨origin, deployment, job, index, ip, timestamp, event⟩ := envelope
  -- The keys depend on the kind of the event alone.
  have keys : (members ⟨origin, deployment, job, index, ip, timestamp, event⟩).map Prod.fst =
      ["origin", "deployment", "job", "index", "ip", "timestamp", kindKey] ++
        eventKeys event.kind := by
    cases event <;> rfl
  rw [keys]
  cases event.kind <;> decide +kernel

theorem encode?_eq {envelope : Envelope} (writable : envelope.timestamp ≠ some (-2 ^ 63)) :
    encode? envelope = some (.obj (members envelope)) := by
  rw [encode?, if_neg writable, eventMembers_eq]
  rfl

/-! Reading what is written -/

section
variable {envelope : Envelope}

theorem mem_members {member : String × Value} : member ∈ members envelope ↔
    member = (kindKey, .str (kindName envelope.event.kind)) ∨
      ∃ field ∈ fields envelope, field.member = member := by
  simp only [members, fields, List.mem_append, List.mem_map, List.mem_singleton]
  grind

def Restored (envelope : Envelope) : Prop :=
  ∀ field ∈ fields envelope, field.codec.Restores field.content

theorem restored_of_decodeMembers? {source : Members}
    (fits : ∀ n ∈ membersNumbers source, n.Fits)
    (read : decodeMembers? source = some envelope) : Restored envelope := by
  intro field inside
  have found := (decodeMembers?_eq_some_iff.mp read).2 field inside
  exact field.restores (lawful_fields envelope field inside) fits found

theorem decodeMembers?_members (restored : Restored envelope) :
    decodeMembers? (members envelope) = some envelope := by
  have distinct := distinct_keys envelope
  refine decodeMembers?_eq_some_iff.mpr ⟨?_, ?_⟩
  · rw [member?_of_mem distinct (mem_members.mpr (.inl rfl))]
    exact kind?_kindName _
  · intro field inside
    have written : field.member ∈ members envelope := mem_members.mpr (.inr ⟨field, inside, rfl⟩)
    exact field.readFrom_of_mem distinct written (restored field inside)

theorem fits_members (restored : Restored envelope) :
    ∀ n ∈ membersNumbers (members envelope), n.Fits := by
  intro n inside
  obtain ⟨member, written, number⟩ := mem_membersNumbers.mp inside
  rcases mem_members.mp written with rfl | ⟨field, inside, rfl⟩
  · cases number
  · exact (restored field inside).fits n number

theorem depth_members (envelope : Envelope) : Tree.depthMembers (members envelope) ≤ 1 := by
  apply depthMembers_le
  intro member written
  rcases mem_members.mp written with rfl | ⟨field, inside, rfl⟩
  · exact Nat.zero_le _
  · exact (lawful_fields envelope field inside).depth _

end

end Envelope

def Event.floats : Event → List Binary64
  | metric e => [e.cpuPercentage]
  | gauge e => [e.value]
  | _ => []

namespace Envelope

theorem float_mem_members {envelope : Envelope} {x : Binary64}
    (inside : .float x ∈ membersNumbers (members envelope)) : x ∈ envelope.event.floats := by
  have each : ∀ field ∈ fields envelope,
      .float x ∈ (field.codec.write field.content).numbers → x ∈ envelope.event.floats := by
    obtain ⟨origin, deployment, job, index, ip, timestamp, event⟩ := envelope
    cases event <;>
      simp [fields, ownFields, eventFields, timestampCodec, instanceCodec, peerCodec, methodCodec,
        streamCodec, Event.floats]
  obtain ⟨member, written, number⟩ := mem_membersNumbers.mp inside
  rcases mem_members.mp written with rfl | ⟨field, inside, rfl⟩
  · cases number
  · exact each field inside number

/-- What was read from a line can be written and is read again from its own line, as long as the
doubles in it are read back from how they are printed. -/
theorem line_restores {line : String} {envelope : Envelope} (read : ofLine? line = some envelope)
    (writable : envelope.timestamp ≠ some (-2 ^ 63))
    (doubles : ∀ x ∈ envelope.event.floats, x.isFinite = true → (Number.float x).ReadsBack) :
    ∃ text, envelope.line? = some text ∧ ofLine? text = some envelope := by
  obtain ⟨value, parsed, decoded⟩ := Option.bind_eq_some_iff.mp read
  cases value with
  | obj source =>
    have restored := restored_of_decodeMembers? (fits_value? parsed) decoded
    -- Integers are read back because they were in range when they were read, doubles by assumption.
    have back : ∀ n ∈ membersNumbers (members envelope), n.ReadsBack := by
      intro n inside
      have fits := fits_members restored n inside
      cases n with
      | int => exact Number.readsBack_int fits.1 fits.2
      | float x => exact doubles x (float_mem_members inside) fits
    have shallow : Tree.depthMembers (members envelope) + 1 ≤ depthLimit :=
      Nat.succ_le_succ (Nat.le_trans (depth_members envelope) (by decide))
    have again := @value?_text (.obj (members envelope)) back shallow
    refine ⟨Value.text (.obj (members envelope)), ?_, ?_⟩
    · rw [line?, encode?_eq writable]
      rfl
    · rw [ofLine?, again]
      exact decodeMembers?_members restored
  | _ => cases decoded

theorem line_restores_metric : ∃ envelope,
    ofLine? ("\x7b\"event_type\":1,\"origin\":\"r\\u0065p\",\"job\":\"\\u0007\"," ++
      "\"timestamp\":null,\"cpu_percentage\":12.5\x7d") = some envelope ∧
    envelope.timestamp ≠ some (-2 ^ 63) ∧
    (∀ x ∈ envelope.event.floats, x.isFinite = true → (Number.float x).ReadsBack) ∧
    ∃ text, envelope.line? = some text ∧ ofLine? text = some envelope := by
  refine ⟨⟨"rep", "", "\x07", "", "", none, .metric { cpuPercentage := ⟨0x4029000000000000⟩ }⟩,
    ?read, ?writable, ?doubles, line_restores ?read ?writable ?doubles⟩
  case read => decide +kernel
  case writable => decide
  case doubles =>
    intro x inside _
    cases List.mem_singleton.mp inside
    exact @Number.readsBack_of_literal _ ⟨false, [1, 2], [5], none⟩ (by decide +kernel)
      (by decide +kernel)

end Envelope

end Telemetry
