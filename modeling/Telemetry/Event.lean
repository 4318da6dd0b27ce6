import Telemetry.Binary64
import Telemetry.Text.Blank
import Telemetry.Text.Quoted
import Telemetry.Time

/-!
Events of the platform's telemetry stream.

An envelope says where an event was emitted and when, and holds the event. The readings an
event gives of its application and instance can fail, and say why.
-/

set_option autoImplicit false

namespace Telemetry

inductive EventKind where
  | httpStartStop
  | containerMetric
  | logMessage
  | valueMetric
  | counterEvent
  | other
  deriving DecidableEq

namespace EventKind

def all : List EventKind :=
  [httpStartStop, containerMetric, logMessage, valueMetric, counterEvent, other]

def name : EventKind → String
  | httpStartStop => "HttpStartStop"
  | containerMetric => "ContainerMetric"
  | logMessage => "LogMessage"
  | valueMetric => "ValueMetric"
  | counterEvent => "CounterEvent"
  | other => "Other"

def index (kind : EventKind) : Nat := all.idxOf kind

def ofName? (name : String) : Option EventKind := all.find? (·.name = name)

end EventKind

inductive EventError where
  | missingField (field : String)
  | invalidField (field value : String)
  deriving DecidableEq

def EventError.message : EventError → String
  | missingField field => "missing required field `" ++ field ++ "`"
  | invalidField field value =>
    "invalid value " ++ Text.quoted value ++ " for field `" ++ field ++ "`"

inductive Peer where
  | client
  | server
  deriving DecidableEq

inductive Method where
  | get
  | post
  | put
  | delete
  | head
  | options
  | patch
  | connect
  | trace
  | other
  deriving DecidableEq, Repr

namespace Method

def all : List Method := [get, post, put, delete, head, options, patch, connect, trace, other]

def name : Method → String
  | get => "GET"
  | post => "POST"
  | put => "PUT"
  | delete => "DELETE"
  | head => "HEAD"
  | options => "OPTIONS"
  | patch => "PATCH"
  | connect => "CONNECT"
  | trace => "TRACE"
  | other => "OTHER"

/-- Names are read without regard to the case of ASCII letters. -/
def ofName (name : String) : Method :=
  (all.find? (·.name = Text.upperAscii name)).getD other

theorem ofName_name (method : Method) : ofName method.name = method := by
  cases method <;> decide +kernel

end Method

structure HttpEvent where
  startTimestamp : Int := 0
  stopTimestamp : Int := 0
  requestId : Option String := none
  peer : Option Peer := none
  method : Method := .other
  uri : String := ""
  remoteAddress : Option String := none
  userAgent : Option String := none
  status : Nat := 0
  contentLength : Nat := 0
  requestBytes : Option Nat := none
  applicationId : Option String := none
  instanceIndex : Option Int := none
  instanceId : Option String := none
  forwarded : List String := []
  deriving DecidableEq

structure MetricEvent where
  applicationId : Option String := none
  instanceIndex : Option Int := none
  cpuPercentage : Binary64 := .zero
  memoryBytes : Nat := 0
  diskBytes : Nat := 0
  memoryQuota : Nat := 0
  diskQuota : Nat := 0
  deriving DecidableEq

inductive LogStream where
  | out
  | err
  deriving DecidableEq

structure LogEvent where
  message : String := ""
  stream : LogStream := .out
  appId : Option String := none
  sourceType : String := ""
  sourceInstance : Option String := none
  deriving DecidableEq

structure GaugeEvent where
  name : String := ""
  value : Binary64 := .zero
  unit : String := ""
  deriving DecidableEq

structure CounterEvent where
  name : String := ""
  delta : Nat := 0
  total : Nat := 0
  deriving DecidableEq

inductive Event where
  | http (event : HttpEvent)
  | metric (event : MetricEvent)
  | log (event : LogEvent)
  | gauge (event : GaugeEvent)
  | counter (event : CounterEvent)
  | unknown
  deriving DecidableEq

def Event.kind : Event → EventKind
  | http _ => .httpStartStop
  | metric _ => .containerMetric
  | log _ => .logMessage
  | gauge _ => .valueMetric
  | counter _ => .counterEvent
  | unknown => .other

structure Envelope where
  origin : String := ""
  deployment : String := ""
  job : String := ""
  index : String := ""
  ip : String := ""
  timestamp : Option Instant := none
  event : Event
  deriving DecidableEq

def nonEmpty (field : String) : Option String → Except EventError String
  | some value => if value = "" then .error (.missingField field) else .ok value
  | none => .error (.missingField field)

def instanceOf (field : String) : Option Int → Except EventError Nat
  | none => .error (.missingField field)
  | some index =>
    if 0 ≤ index then .ok index.toNat else .error (.invalidField field (toString index))

/-- A natural number below `2 ^ 64` in decimal, after an optional plus. -/
def decimalCount? (cs : List Char) : Option Nat :=
  let ds := match cs with
    | '+' :: rest => rest
    | _ => cs
  if ds.isEmpty || !ds.all Char.isDigit then none
  else
    let n := ds.foldl (fun n c => n * 10 + (c.toNat - 48)) 0
    if n < 2 ^ 64 then some n else none

namespace HttpEvent

/-- Only the client's side of a request counts; the server reports it once more. -/
def clientObserved (event : HttpEvent) : Bool := event.peer = some .client

/-- Nanoseconds from start to stop, zero where the clocks disagree. -/
def latency (event : HttpEvent) : Nat :=
  min (event.stopTimestamp - event.startTimestamp).toNat (2 ^ 63 - 1)

def requiredApp (event : HttpEvent) : Except EventError String :=
  nonEmpty "application_id" event.applicationId

def requiredInstance (event : HttpEvent) : Except EventError Nat :=
  instanceOf "instance_index" event.instanceIndex

end HttpEvent

namespace MetricEvent

def requiredApp (event : MetricEvent) : Except EventError String :=
  nonEmpty "application_id" event.applicationId

def requiredInstance (event : MetricEvent) : Except EventError Nat :=
  instanceOf "instance_index" event.instanceIndex

end MetricEvent

namespace LogEvent

def requiredApp (event : LogEvent) : Except EventError String := nonEmpty "app_id" event.appId

/-- The instance a container's line comes from; most other sources name none. -/
def requiredInstance (event : LogEvent) : Except EventError Nat :=
  match event.sourceInstance with
  | none => .error (.missingField "source_instance")
  | some text =>
    match decimalCount? (Text.trim text.toList) with
    | some index => .ok index
    | none => .error (.invalidField "source_instance" text)

end LogEvent

end Telemetry
