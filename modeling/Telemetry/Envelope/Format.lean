import Telemetry.Event
import Telemetry.Json.Decode
import Telemetry.Json.Printer
import Telemetry.Json.Reader

/-!
Envelopes as lines of JSON.

An envelope is one flat object: the members of the envelope, the kind of its event, and the
members of the event. The order of members does not matter and members that are not known
are passed over; members of the envelope and of the event's kind must not repeat. A missing
member has its default.
-/

set_option autoImplicit false

namespace Telemetry

open Json Json.Value

def Peer.name : Peer → String
  | client => "Client"
  | server => "Server"

def Peer.ofName? : String → Option Peer
  | "Client" => some client
  | "Server" => some server
  | _ => none

def LogStream.name : LogStream → String
  | out => "OUT"
  | err => "ERR"

def LogStream.ofName? : String → Option LogStream
  | "OUT" => some out
  | "ERR" => some err
  | _ => none

namespace Envelope

def kindKey : String := "event_type"

/-- Kinds by number; every number beyond the known kinds names an unknown one. -/
def kindOfNumber (n : Nat) : EventKind := (EventKind.all[n]?).getD .other

def kind? : Value → Option EventKind
  | .str name => some ((EventKind.ofName? name).getD .other)
  | .num (.int n) => if 0 ≤ n then some (kindOfNumber n.toNat) else none
  | _ => none

def timestamp? (value : Value) : Option Int := value.intIn? (-2 ^ 63) (2 ^ 63)

def text? (members : Members) (key : String) : Option String := field? members key string? ""

def optionalText? (members : Members) (key : String) : Option (Option String) :=
  field? members key (nullable? string?) none

def count? (members : Members) (key : String) : Option Nat := field? members key (natIn? 64) 0

def instance? (members : Members) : Option (Option Int) :=
  field? members "instance_index" (nullable? (intIn? (-2 ^ 31) (2 ^ 31))) none

def decodeHttp? (members : Members) : Option HttpEvent := do
  return {
    startTimestamp := ← field? members "start_timestamp" timestamp? 0
    stopTimestamp := ← field? members "stop_timestamp" timestamp? 0
    requestId := ← optionalText? members "request_id"
    peer := ← field? members "peer_type"
      (nullable? fun value => value.name?.bind Peer.ofName?) none
    method := ← field? members "method" (fun value => value.string?.map Method.ofName) .other
    uri := ← text? members "uri"
    remoteAddress := ← optionalText? members "remote_address"
    userAgent := ← optionalText? members "user_agent"
    status := ← field? members "status_code" (natIn? 16) 0
    contentLength := ← count? members "content_length"
    requestBytes := ← field? members "request_bytes" (nullable? (natIn? 64)) none
    applicationId := ← optionalText? members "application_id"
    instanceIndex := ← instance? members
    instanceId := ← optionalText? members "instance_id"
    forwarded := ← field? members "forwarded" (list? string?) [] }

def decodeMetric? (members : Members) : Option MetricEvent := do
  return {
    applicationId := ← optionalText? members "application_id"
    instanceIndex := ← instance? members
    cpuPercentage := ← field? members "cpu_percentage" float? .zero
    memoryBytes := ← count? members "memory_bytes"
    diskBytes := ← count? members "disk_bytes"
    memoryQuota := ← count? members "memory_bytes_quota"
    diskQuota := ← count? members "disk_bytes_quota" }

def decodeLog? (members : Members) : Option LogEvent := do
  return {
    message := ← text? members "message"
    stream := ← field? members "message_type"
      (fun value => value.name?.bind LogStream.ofName?) .out
    appId := ← optionalText? members "app_id"
    sourceType := ← text? members "source_type"
    sourceInstance := ← optionalText? members "source_instance" }

def decodeGauge? (members : Members) : Option GaugeEvent := do
  return {
    name := ← text? members "name"
    value := ← field? members "value" float? .zero
    unit := ← text? members "unit" }

def decodeCounter? (members : Members) : Option CounterEvent := do
  return {
    name := ← text? members "name"
    delta := ← count? members "delta"
    total := ← count? members "total" }

def decodeEvent? (members : Members) : EventKind → Option Event
  | .httpStartStop => (decodeHttp? members).map .http
  | .containerMetric => (decodeMetric? members).map .metric
  | .logMessage => (decodeLog? members).map .log
  | .valueMetric => (decodeGauge? members).map .gauge
  | .counterEvent => (decodeCounter? members).map .counter
  | .other => some .unknown

def decodeMembers? (members : Members) : Option Envelope := do
  let tag ← (member? members kindKey).join
  let kind ← kind? tag
  return {
    origin := ← text? members "origin"
    deployment := ← text? members "deployment"
    job := ← text? members "job"
    index := ← text? members "index"
    ip := ← text? members "ip"
    timestamp := ← field? members "timestamp" (nullable? timestamp?) none
    event := ← decodeEvent? members kind }

def decode? : Value → Option Envelope
  | .obj members => decodeMembers? members
  | _ => none

def ofLine? (line : String) : Option Envelope := (Json.value? line).bind decode?

def eventMembers : Event → Members
  | .http e =>
    [("start_timestamp", int e.startTimestamp), ("stop_timestamp", int e.stopTimestamp),
      ("request_id", optional string e.requestId),
      ("peer_type", optional (fun p => string p.name) e.peer), ("method", string e.method.name),
      ("uri", string e.uri), ("remote_address", optional string e.remoteAddress),
      ("user_agent", optional string e.userAgent), ("status_code", nat e.status),
      ("content_length", nat e.contentLength), ("request_bytes", optional nat e.requestBytes),
      ("application_id", optional string e.applicationId),
      ("instance_index", optional int e.instanceIndex),
      ("instance_id", optional string e.instanceId), ("forwarded", list string e.forwarded)]
  | .metric e =>
    [("application_id", optional string e.applicationId),
      ("instance_index", optional int e.instanceIndex),
      ("cpu_percentage", float e.cpuPercentage), ("memory_bytes", nat e.memoryBytes),
      ("disk_bytes", nat e.diskBytes), ("memory_bytes_quota", nat e.memoryQuota),
      ("disk_bytes_quota", nat e.diskQuota)]
  | .log e =>
    [("message", string e.message), ("message_type", string e.stream.name),
      ("app_id", optional string e.appId), ("source_type", string e.sourceType),
      ("source_instance", optional string e.sourceInstance)]
  | .gauge e => [("name", string e.name), ("value", float e.value), ("unit", string e.unit)]
  | .counter e => [("name", string e.name), ("delta", nat e.delta), ("total", nat e.total)]
  | .unknown => []

def kindName : EventKind → String
  | .other => "Unknown"
  | kind => kind.name

/-- The earliest timestamp a signed 64-bit number holds cannot be written. -/
def encode? (envelope : Envelope) : Option Value :=
  if envelope.timestamp = some (-2 ^ 63) then none
  else some (.obj ([("origin", string envelope.origin),
    ("deployment", string envelope.deployment), ("job", string envelope.job),
    ("index", string envelope.index), ("ip", string envelope.ip),
    ("timestamp", optional int envelope.timestamp),
    (kindKey, string (kindName envelope.event.kind))] ++ eventMembers envelope.event))

def line? (envelope : Envelope) : Option String := envelope.encode?.map Value.text

def unwritableMessage : String :=
  "The Duration of Timestamp is outside the supported range."

end Envelope

end Telemetry
