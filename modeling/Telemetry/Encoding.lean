import Telemetry.App
import Telemetry.Cell
import Telemetry.Config
import Telemetry.History
import Telemetry.Json
import Telemetry.Metadata
import Telemetry.Route.Tree
import Telemetry.Session
import Telemetry.Table.Capped
import Telemetry.Time.Civil
import Telemetry.Window.Tracker

/-!
JSON forms of figures, settings, names and replays.

Members keep the order of the records they stand for. Tables are objects, with their keys in the
order in which they arrived or sorted.
-/

set_option autoImplicit false

namespace Telemetry.Encoding

open Json Json.Value

def instant (t : Instant) : Value := string (Civil.compact t)

def span (d : Span) : Value :=
  .obj [("secs", nat (d / 1000000000)), ("nanos", nat (d % 1000000000))]

def table {κ ν : Type} [DecidableEq κ] (key : κ → String) (value : ν → Value)
    (t : Table κ ν) : Value :=
  .obj (t.entries.map fun (k, v) => (key k, value v))

def sortedTable {κ ν : Type} [DecidableEq κ] (le : κ → κ → Bool) (key : κ → String)
    (value : ν → Value) (t : Table κ ν) : Value :=
  .obj ((t.entries.mergeSort fun a b => le a.1 b.1).map fun (k, v) => (key k, value v))

def capped {ν : Type} (value : ν → Value) (t : CappedTable String ν) : Value :=
  table id value t.table

/-! ### Sliding windows -/

section
open Window

def totals (t : Totals) : Value :=
  .obj [("sum", nat t.sum), ("max", nat t.max), ("num_entries", nat t.count)]

def bucket (b : Bucket) : Value :=
  .obj [("epoch", nat b.epoch), ("sum", nat b.totals.sum), ("max", nat b.totals.max),
    ("num_entries", nat b.totals.count),
    ("samples", list (fun s : Sample => .arr [nat s.offset, nat s.value]) b.samples.reverse)]

def series (s : Series) : Value :=
  .obj [("created_time", instant s.created), ("bucket_time_window", span s.width),
    ("num_buckets", nat s.count), ("buckets", list bucket s.buckets.toList),
    ("last_us", nat s.newest)]

def tracker (t : Tracker) : Value :=
  .obj [("window", span t.window), ("series", series t.series)]

def levels (l : Levels) : Value :=
  .obj [("windows", list tracker l.trackers), ("all_time", totals l.allTime)]

end

/-! ### Rates -/

def rateRange (r : RateRange) : Value := .obj [("high", nat r.high), ("low", nat r.low)]

/-- Only the kinds a record has seen are written. -/
def rateRecord (r : RateRecord) : Value :=
  .obj [("begin", instant r.start), ("end", instant r.stop), ("total", rateRange r.total),
    ("per_type", .obj (EventKind.all.filterMap fun kind =>
      (r.perKind.get kind).map fun range => (kind.name, rateRange range)))]

/-! ### Applications and cells; the windows behind traffic figures are not written -/

def traffic (t : Traffic) : Value :=
  .obj [("http_all_count", nat t.requests), ("http_2xx_count", nat t.classes.success),
    ("http_3xx_count", nat t.classes.redirect), ("http_4xx_count", nat t.classes.clientError),
    ("http_5xx_count", nat t.classes.serverError),
    ("avg_response_l1_time", float t.lastSecond.mean),
    ("avg_response_l10_time", float t.lastTen.mean),
    ("avg_response_l60_time", float t.lastMinute.mean),
    ("event_l1_rate", nat t.lastSecond.rate), ("event_l10_rate", nat t.lastTen.rate),
    ("event_l60_rate", nat t.lastMinute.rate), ("last_access", optional instant t.lastAccess)]

def sample (s : ResourceSample) : Value :=
  .obj [("cpu_percentage", float s.cpuPercentage), ("memory_bytes", nat s.memoryBytes),
    ("disk_bytes", nat s.diskBytes), ("memory_bytes_quota", nat s.memoryQuota),
    ("disk_bytes_quota", nat s.diskQuota)]

def container (c : Container) : Value :=
  .obj [("instance_index", nat c.instanceIndex), ("metric", optional sample c.sample),
    ("last_update", instant c.lastUpdate), ("cell_ip", optional string c.cellIp),
    ("out_count", nat c.lines.out), ("err_count", nat c.lines.err)]

def crash (c : Crash) : Value :=
  .obj [("instance_index", int c.instanceIndex), ("crash_time", instant c.time),
    ("exit_description", string c.description)]

def app (a : App) : Value :=
  .obj [("app_id", string a.id), ("containers", list (optional container) a.containers),
    ("container_traffic", list (optional traffic) a.traffic),
    ("total_traffic", traffic a.totalTraffic),
    ("non_container_out_count", nat a.platformLines.out),
    ("non_container_err_count", nat a.platformLines.err), ("crashes", list crash a.crashes),
    ("crash_count", nat a.crashCount), ("total_cpu_percentage", float a.rollup.cpuPercentage),
    ("total_memory_bytes", nat a.rollup.memoryBytes),
    ("total_disk_bytes", nat a.rollup.diskBytes),
    ("reporting_containers", nat a.rollup.reporting), ("total_log_count", nat a.rollup.lines)]

def cell (c : Cell) : Value :=
  .obj [("ip", string c.ip), ("deployment", string c.deployment), ("job", string c.job),
    ("index", string c.index), ("num_cpus", nat c.numCpus),
    ("capacity_total_memory", nat c.totalMemory),
    ("capacity_remaining_memory", nat c.remainingMemory),
    ("capacity_total_disk", nat c.totalDisk),
    ("capacity_remaining_disk", nat c.remainingDisk),
    ("capacity_total_containers", nat c.totalContainers),
    ("capacity_remaining_containers", nat c.remainingContainers),
    ("container_count", nat c.containerCount), ("last_update", optional instant c.lastUpdate)]

/-! ### Routes -/

section
open Route

/-- The members of a method's traffic, with a form for its capped tables. -/
def methodMembers (keys : CappedTable String Nat → Value) (m : MethodTraffic) :
    List (String × Value) :=
  [("request_count", nat m.requests),
    ("status_codes", sortedTable (· ≤ ·) toString nat m.statuses),
    ("http_other_count", nat m.otherStatuses), ("request_bytes", nat m.requestBytes),
    ("response_bytes", nat m.responseBytes), ("last_access", optional instant m.lastAccess),
    ("user_agents", keys m.userAgents), ("forwarders", keys m.forwarders)]

def methodTraffic (m : MethodTraffic) : Value := .obj (methodMembers (capped nat) m)

def methodRank (m : Method) : Nat := Method.all.idxOf m

def appTraffic (a : AppTraffic) : Value :=
  .obj [("app_id", string a.appId),
    ("methods", sortedTable (methodRank · ≤ methodRank ·) Method.name methodTraffic a.methods)]

def route (r : Route) : Value :=
  .obj [("route_id", optional string r.id),
    ("apps", sortedTable (· ≤ ·) id appTraffic r.apps)]

def host (h : Host) : Value :=
  .obj [("host", string h.name), ("routes", sortedTable (· ≤ ·) id route h.routes),
    ("tcp_routes", sortedTable (· ≤ ·) toString route h.tcpRoutes)]

def domain (d : Domain) : Value :=
  .obj [("domain", string d.name), ("hosts", capped host d.hosts)]

def routes (t : Route.Tree) : Value := .obj [("domains", capped domain t.domains)]

def routeSummary (s : Summary) : Value :=
  .obj [("domain", string s.domain), ("host", string s.host), ("route", string s.route),
    ("route_id", optional string s.id), ("request_count", nat s.requests)]

def limits (l : Limits) : Value :=
  .obj [("max_domains", nat l.domains), ("max_hosts_per_domain", nat l.hostsPerDomain),
    ("max_user_agents", nat l.userAgents), ("max_forwarders", nat l.forwarders)]

end

/-! ### Names -/

section
open Metadata

def appName (a : AppName) : Value :=
  .obj [("guid", string a.guid), ("name", string a.name), ("space_guid", string a.spaceGuid),
    ("instances", nat a.instances), ("desired_instances", nat a.desiredInstances)]

def spaceName (s : SpaceName) : Value :=
  .obj [("guid", string s.guid), ("name", string s.name), ("org_guid", string s.orgGuid)]

def orgName (o : OrgName) : Value :=
  .obj [("guid", string o.guid), ("name", string o.name)]

end

/-! ### Settings, with spans as whole seconds or milliseconds -/

def historyLimits (l : HistoryLimits) : Value :=
  .obj [("second", nat l.second), ("minute", nat l.minute), ("ten_minute", nat l.tenMinute),
    ("hour", nat l.hour)]

def config (c : Config) : Value :=
  .obj [("stale_container_threshold", nat c.staleAfter.inSeconds),
    ("snapshot_interval", nat c.snapshotInterval.inMillis),
    ("history_tick", nat c.historyTick.inSeconds),
    ("route_tracking_enabled", .bool c.routeTracking), ("max_crash_records", nat c.maxCrashes),
    ("max_instance_index", nat c.maxInstanceIndex),
    ("stream_queue_size", nat c.streamQueueSize), ("history", historyLimits c.history),
    ("route_limits", limits c.routes)]

/-! ### Figures and snapshots -/

def ingest (i : Ingest) : Value :=
  .obj [("processed_by_stream", sortedTable (· ≤ ·) toString nat i.byStream),
    ("malformed_events", nat i.malformed), ("unknown_events", nat i.unknown),
    ("server_leg_http_skipped", nat i.serverLeg),
    ("http_status_out_of_range", nat i.statusOutOfRange),
    ("route_domain_rejected", nat i.domainRejected),
    ("route_host_rejected", nat i.hostRejected),
    ("route_parse_failures", nat i.uriFailures), ("route_keys_rejected", nat i.keysRejected),
    ("ignored_log_lines", nat i.ignoredLines), ("unknown_gauges", nat i.unknownGauges),
    ("ignored_counters", nat i.ignoredCounters), ("dropped_messages", nat i.dropped)]

def figures (f : Figures) : Value :=
  .obj [("apps", table id app f.apps), ("cells", table id cell f.cells),
    ("routes", routes f.routes), ("ingest", ingest f.ingest)]

def snapshot (s : Snapshot) : Value :=
  .obj [("generation", nat s.generation), ("taken_at", instant s.takenAt),
    ("total_processed", nat s.processed), ("stats", figures s.figures)]

/-! ### Replays -/

def replay (s : Snapshot) (summaries : List Route.Summary) (history : List RateRecord) : Value :=
  .obj [("snapshot", snapshot s), ("routes", list routeSummary summaries),
    ("history", list rateRecord history)]

end Telemetry.Encoding
