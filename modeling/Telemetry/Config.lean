import Telemetry.History
import Telemetry.Route.Tree
import Telemetry.Toml.Reader

/-!
What can be set about a session.

Settings are read from a TOML document; those it leaves out keep their defaults, and names
it adds are passed over. A record of limits may also be given as an array in order.
-/

set_option autoImplicit false

namespace Telemetry

structure Config where
  /-- Containers silent for longer are left out of views. -/
  staleAfter : Span := .ofSeconds 80
  snapshotInterval : Span := .ofSeconds 1
  historyTick : Span := .ofSeconds 1
  routeTracking : Bool := true
  maxCrashes : Nat := 25
  /-- Events of instances beyond this index are malformed. -/
  maxInstanceIndex : Nat := 10000
  streamQueueSize : Nat := 1024
  history : HistoryLimits := {}
  routes : Route.Limits := {}
  deriving DecidableEq

namespace Config

inductive Requirement where
  | positive
  | twoRecords
  deriving DecidableEq

inductive Error where
  | unreadable
  | notToml
  | invalid (setting : String) (requirement : Requirement)
  deriving DecidableEq

def Requirement.message : Requirement → String
  | positive => "must be positive"
  | twoRecords => "needs room for at least 2 records"

def Error.message : Error → String
  | unreadable => "Error reading config file"
  | notToml => "Error parsing config TOML"
  | invalid setting requirement =>
    "Invalid value for `" ++ setting ++ "`: " ++ requirement.message

def Requirement.holds : Requirement → Nat → Bool
  | positive, n => 0 < n
  | twoRecords, n => 2 ≤ n

def requirements (config : Config) : List (String × Requirement × Nat) :=
  [("stale_container_threshold", .positive, config.staleAfter),
    ("snapshot_interval", .positive, config.snapshotInterval),
    ("history_tick", .positive, config.historyTick),
    ("stream_queue_size", .positive, config.streamQueueSize),
    ("history.second", .twoRecords, config.history.second),
    ("history.minute", .twoRecords, config.history.minute),
    ("history.ten_minute", .twoRecords, config.history.tenMinute),
    ("history.hour", .twoRecords, config.history.hour)]

def check (config : Config) : Except Error Config :=
  match config.requirements.find? fun (_, requirement, n) => !requirement.holds n with
  | some (setting, requirement, _) => .error (.invalid setting requirement)
  | none => .ok config

/-- The longest span that is compared with the age of containers; any longer one counts as
a year of 52 weeks. -/
def longestAge : Span := .ofMillis (2 ^ 63 - 1)

def staleThreshold (config : Config) : Span :=
  if config.staleAfter ≤ longestAge then config.staleAfter else .ofSeconds (52 * 7 * 86400)

/-! Reading -/

open Toml (Value Entries)

def valueOr {α : Type} (read : Value → Option α) (default : α) : Option Value → Option α
  | none => some default
  | some value => read value

def nat? : Value → Option Nat
  | .int n => if 0 ≤ n then some n.toNat else none
  | _ => none

def bool? : Value → Option Bool
  | .bool value => some value
  | _ => none

/-- The fields of a record. A date is a record without any known field. -/
def fields? (keys : List String) : Value → Option (List (Option Value))
  | .inline entries | .table _ entries => some (keys.map (Entries.get? entries))
  | .array items => some ((List.range keys.length).map (items[·]?))
  | .tables rows => some ((List.range keys.length).map fun i => rows[i]?.map (.table .defined))
  | .moment _ => some (keys.map fun _ => none)
  | _ => none

def history? (value : Value) : Option HistoryLimits := do
  let [second, minute, tenMinute, hour] ←
    fields? ["second", "minute", "ten_minute", "hour"] value | none
  let usual : HistoryLimits := {}
  return {
    second := ← valueOr nat? usual.second second
    minute := ← valueOr nat? usual.minute minute
    tenMinute := ← valueOr nat? usual.tenMinute tenMinute
    hour := ← valueOr nat? usual.hour hour }

def routes? (value : Value) : Option Route.Limits := do
  let [domains, hosts, agents, forwarders] ←
    fields? ["max_domains", "max_hosts_per_domain", "max_user_agents", "max_forwarders"] value
    | none
  let usual : Route.Limits := {}
  return {
    domains := ← valueOr nat? usual.domains domains
    hostsPerDomain := ← valueOr nat? usual.hostsPerDomain hosts
    userAgents := ← valueOr nat? usual.userAgents agents
    forwarders := ← valueOr nat? usual.forwarders forwarders }

def ofEntries? (entries : Entries) : Option Config := do
  let usual : Config := {}
  let seconds (value : Value) : Option Span := (nat? value).map .ofSeconds
  let millis (value : Value) : Option Span := (nat? value).map .ofMillis
  return {
    staleAfter := ← valueOr seconds usual.staleAfter (entries.get? "stale_container_threshold")
    snapshotInterval := ← valueOr millis usual.snapshotInterval (entries.get? "snapshot_interval")
    historyTick := ← valueOr seconds usual.historyTick (entries.get? "history_tick")
    routeTracking := ← valueOr bool? usual.routeTracking (entries.get? "route_tracking_enabled")
    maxCrashes := ← valueOr nat? usual.maxCrashes (entries.get? "max_crash_records")
    maxInstanceIndex := ← valueOr nat? usual.maxInstanceIndex (entries.get? "max_instance_index")
    streamQueueSize := ← valueOr nat? usual.streamQueueSize (entries.get? "stream_queue_size")
    history := ← valueOr history? usual.history (entries.get? "history")
    routes := ← valueOr routes? usual.routes (entries.get? "route_limits") }

def ofToml (text : String) : Except Error Config :=
  match (Toml.ofText? text).bind ofEntries? with
  | some config => config.check
  | none => .error .notToml

end Config

end Telemetry
