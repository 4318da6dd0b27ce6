import Telemetry.Event
import Telemetry.Table.Capped
import Telemetry.Text.Blank

/-!
Routes of one host, and the requests counted on them.

A route is a path or a port. A path in normal form begins with a slash and does not end with one;
the root is empty. On a route requests are counted for each application and method, with the user
agents and the addresses they were forwarded for, as far as the limits allow.
-/

set_option autoImplicit false

namespace Telemetry.Route

/-! ### Paths -/

def trimPath (cs : List Char) : List Char := Text.dropEndWhile (· = '/') (Text.trim cs)

def normalChars (cs : List Char) : List Char :=
  match trimPath cs with
  | [] => []
  | '/' :: rest => '/' :: rest
  | trimmed => '/' :: trimmed

def normalizePath (path : String) : String := String.ofList (normalChars path.toList)

/-- Whether a path is another or goes on behind it at a slash. -/
def extends? (path registered : List Char) : Bool :=
  match registered.isPrefixOf? path with
  | some [] => true
  | some ('/' :: _) => true
  | _ => false

def longestFirst (texts : List String) : List String :=
  texts.mergeSort fun a b =>
    b.utf8ByteSize < a.utf8ByteSize || (a.utf8ByteSize = b.utf8ByteSize && a ≤ b)

/-! ### Requests on routes -/

structure MethodTraffic where
  requests : Nat := 0
  /-- Requests by status, for statuses that have a class. -/
  statuses : Table Nat Nat := ∅
  otherStatuses : Nat := 0
  /-- Bytes of request bodies, where their size was reported. -/
  requestBytes : Nat := 0
  responseBytes : Nat := 0
  lastAccess : Option Instant := none
  userAgents : CappedTable String Nat
  forwarders : CappedTable String Nat

structure Request where
  status : Nat
  requestBytes : Option Nat := none
  responseBytes : Nat
  userAgent : Option String := none
  forwarded : List String := []

def Request.ofEvent (event : HttpEvent) : Request where
  status := event.status
  requestBytes := event.requestBytes
  responseBytes := event.contentLength
  userAgent := event.userAgent
  forwarded := event.forwarded

structure KeyLimits where
  userAgents : Nat
  forwarders : Nat

/-- Count one more use of each key that is not empty; the number refused is returned. -/
def countKeys (table : CappedTable String Nat) (keys : List String) :
    Nat × CappedTable String Nat :=
  (keys.filter (· ≠ "")).foldl
    (fun (refused, table) key =>
      let (admitted, table) := table.update key 0 (· + 1)
      (if admitted then refused else refused + 1, table))
    (0, table)

def addBytes (a b : Nat) : Nat := min (a + b) (2 ^ 64 - 1)

namespace MethodTraffic

def create (limits : KeyLimits) : MethodTraffic where
  userAgents := .create limits.userAgents
  forwarders := .create limits.forwarders

/-- Count a request. It counts in any case; returned is how many of its keys were refused. -/
def record (traffic : MethodTraffic) (request : Request) (now : Instant) :
    Nat × MethodTraffic :=
  let classed := 200 ≤ request.status ∧ request.status ≤ 599
  let (refusedAgents, userAgents) := countKeys traffic.userAgents request.userAgent.toList
  let (refusedForwarders, forwarders) := countKeys traffic.forwarders request.forwarded
  (refusedAgents + refusedForwarders,
    { requests := traffic.requests + 1
      statuses :=
        if classed then traffic.statuses.update request.status 0 (· + 1) else traffic.statuses
      otherStatuses := if classed then traffic.otherStatuses else traffic.otherStatuses + 1
      requestBytes := addBytes traffic.requestBytes (request.requestBytes.getD 0)
      responseBytes := addBytes traffic.responseBytes request.responseBytes
      lastAccess := some (latest traffic.lastAccess now)
      userAgents
      forwarders })

end MethodTraffic

structure AppTraffic where
  appId : String
  methods : Table Method MethodTraffic := ∅

namespace AppTraffic

def requests (traffic : AppTraffic) : Nat := (traffic.methods.values.map (·.requests)).sum

def record (traffic : AppTraffic) (method : Method) (limits : KeyLimits) (request : Request)
    (now : Instant) : Nat × AppTraffic :=
  let (refused, methods) :=
    traffic.methods.visit method (.create limits) (·.record request now)
  (refused, { traffic with methods })

end AppTraffic

end Route

/-- A path or port, with the identity it was registered with. -/
structure Route where
  id : Option String := none
  apps : Table String Route.AppTraffic := ∅

namespace Route

def requests (route : Route) : Nat := (route.apps.values.map (·.requests)).sum

/-- The first identity stays. -/
def identify (route : Route) (id : Option String) : Route := { route with id := route.id.or id }

def visitApp {α : Type} (route : Route) (appId : String)
    (change : AppTraffic → α × AppTraffic) : α × Route :=
  let (result, apps) := route.apps.visit appId { appId } change
  (result, { route with apps })

inductive Target where
  | path (text : String)
  | port (number : Nat)
  deriving DecidableEq

end Route

structure Host where
  name : String
  routes : Table String Route := ∅
  tcpRoutes : Table Nat Route := ∅
  /-- The paths that have a route, longest first. -/
  index : List String := []
  indexed : index = Route.longestFirst routes.keys

namespace Host

open Route

def create (name : String) : Host where
  name
  indexed := List.mergeSort_nil.symm

/-- The longest path with a route that a path is or extends; the root if there is none. -/
def findPath (host : Host) (path : String) : String :=
  (host.index.find? fun registered => extends? path.toList registered.toList).getD ""

def requests (host : Host) : Nat :=
  (host.routes.values.map (·.requests)).sum + (host.tcpRoutes.values.map (·.requests)).sum

/-- A port with a route takes the request, otherwise the path decides. -/
def target (host : Host) (path : String) (port : Option Nat) : Target :=
  match port.filter host.tcpRoutes.contains with
  | some port => .port port
  | none => .path (host.findPath path)

/-- Change the route of a target, which is added if need be. The index is made anew for a path
that had no route. -/
def visit {α : Type} (host : Host) (target : Target) (change : Route → α × Route) : α × Host :=
  match target with
  | .path text =>
    let visited := host.routes.visit text {} change
    (visited.1,
      { host with
        routes := visited.2
        index := if host.routes.contains text then host.index else longestFirst visited.2.keys
        indexed := by
          split
          · next known => rw [host.routes.keys_visit known, host.indexed]
          · rfl })
  | .port number =>
    let (result, tcpRoutes) := host.tcpRoutes.visit number {} change
    (result, { host with tcpRoutes })

def register (host : Host) (target : Target) (id : Option String) : Host :=
  (host.visit target fun route => ((), route.identify id)).2

end Host

end Telemetry
