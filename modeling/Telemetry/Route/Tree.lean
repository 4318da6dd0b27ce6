import Telemetry.Route.Host
import Telemetry.Uri

/-!
The tree of routes: domains, their hosts, and the routes of each host.

Domains and hosts are added as requests name them, up to the limits. A host name is split
at the longest registered domain it ends with, or behind its first label where it ends with
none.
-/

set_option autoImplicit false

namespace Telemetry.Route

structure Limits where
  domains : Nat := 500
  hostsPerDomain : Nat := 2000
  userAgents : Nat := 100
  forwarders : Nat := 100
  deriving DecidableEq

def Limits.keys (limits : Limits) : KeyLimits := ⟨limits.userAgents, limits.forwarders⟩

inductive Error where
  | domainLimit (domain : String) (limit : Nat)
  | hostLimit (domain host : String) (limit : Nat)
  | uri (uri : String) (reason : Uri.Error)
  deriving DecidableEq

def Error.message : Error → String
  | domainLimit domain limit =>
    "Domain limit of " ++ toString limit ++ " reached, not tracking " ++ domain
  | hostLimit domain host limit =>
    "Host limit of " ++ toString limit ++ " reached for domain " ++ domain ++
      ", not tracking " ++ host
  | uri text reason => "Could not parse URI " ++ Text.quoted text ++ ": " ++ reason.message

structure Domain where
  name : String
  hosts : CappedTable String Host

structure Location where
  host : String
  domain : String
  path : String
  port : Option Nat
  deriving DecidableEq

structure Summary where
  domain : String
  host : String
  /-- The path, or a colon and the port. -/
  route : String
  id : Option String
  requests : Nat
  deriving DecidableEq

/-- The label of a host name before a domain it ends with: nothing where the name is the
domain. -/
def labelBefore? (name domain : List Char) : Option (List Char) :=
  if name = domain then some []
  else
    match domain.reverse.isPrefixOf? name.reverse with
    | some ('.' :: label) => some label.reverse
    | _ => none

def splitAtDomain? (name : String) : List String → Option (String × String)
  | [] => none
  | domain :: rest =>
    match labelBefore? name.toList domain.toList with
    | some label => some (String.ofList label, domain)
    | none => splitAtDomain? name rest

def splitAtLabel (name : String) : String × String :=
  let label := name.toList.takeWhile (· ≠ '.')
  (String.ofList label, String.ofList (name.toList.drop (label.length + 1)))

structure Tree where
  limits : Limits := {}
  domains : CappedTable String Domain := .create limits.domains
  /-- Registered domains, longest first. -/
  knownDomains : List String := []

namespace Tree

def create (limits : Limits) : Tree := { limits }

/-- Drop everything, registrations included. -/
def clear (tree : Tree) : Tree := create tree.limits

def host? (tree : Tree) (domain host : String) : Option Host :=
  (tree.domains.get? domain).bind (·.hosts.get? host)

def learnDomain (tree : Tree) (domain : String) : Tree :=
  if domain ∈ tree.knownDomains then tree
  else { tree with knownDomains := longestFirst (tree.knownDomains ++ [domain]) }

def splitName (tree : Tree) (name : String) : String × String :=
  (splitAtDomain? name tree.knownDomains).getD (splitAtLabel name)

/-- Locators come with and without a scheme. -/
def locate (tree : Tree) (uri : String) : Except Error Location :=
  -- The mark is looked for in the whole text, also behind the host.
  let full := if Text.contains "://".toList uri.toList then uri else "http://" ++ uri
  match Uri.ofText full with
  | .error reason => .error (.uri uri reason)
  | .ok parsed =>
    let (host, domain) := tree.splitName (Text.lowerAscii parsed.host)
    .ok ⟨host, domain, normalizePath parsed.path, parsed.port⟩

/-- Change a host, which is added with its domain if need be and the limits allow. -/
def visitHost {α : Type} (tree : Tree) (domain host : String) (change : Host → α × Host) :
    Except Error α × Tree :=
  if !tree.domains.admits domain then
    (.error (.domainLimit domain tree.domains.limit),
      { tree with domains := tree.domains.refuse })
  else
    let entry := (tree.domains.get? domain).getD ⟨domain, .create tree.limits.hostsPerDomain⟩
    if !entry.hosts.admits host then
      -- A domain that is new stays even though its host is refused.
      let entry := { entry with hosts := entry.hosts.refuse }
      (.error (.hostLimit domain host entry.hosts.limit),
        { tree with domains := (tree.domains.insert domain entry).2 })
    else
      let (result, value) := change ((entry.hosts.get? host).getD (.create host))
      let entry := { entry with hosts := (entry.hosts.insert host value).2 }
      (.ok result, { tree with domains := (tree.domains.insert domain entry).2 })

/-- Register a target ahead of any request for it. The domain is learnt in any case. -/
def register (tree : Tree) (domain host : String) (target : Target) (id : String) :
    Except Error Unit × Tree :=
  let domain := Text.lowerAscii domain
  (tree.learnDomain domain).visitHost domain (Text.lowerAscii host) fun entry =>
    ((), entry.register target (some id))

def registerPath (tree : Tree) (domain host path id : String) : Except Error Unit × Tree :=
  tree.register domain host (.path (normalizePath path)) id

/-- A port belongs to the domain itself. -/
def registerPort (tree : Tree) (domain : String) (port : Nat) (id : String) :
    Except Error Unit × Tree :=
  tree.register domain "" (.port port) id

def visit {α : Type} (tree : Tree) (uri appId : String)
    (change : AppTraffic → α × AppTraffic) : Except Error α × Tree :=
  match tree.locate uri with
  | .error e => (.error e, tree)
  | .ok location =>
    tree.visitHost location.domain location.host fun host =>
      host.visit (host.target location.path location.port) (·.visitApp appId change)

def resolve (tree : Tree) (uri appId : String) : Except Error AppTraffic × Tree :=
  tree.visit uri appId fun traffic => (traffic, traffic)

/-- Count a request on its route; returned is how many of its keys were refused. -/
def track (tree : Tree) (event : HttpEvent) (appId : String) (now : Instant) :
    Except Error Nat × Tree :=
  tree.visit event.uri appId fun traffic =>
    traffic.record event.method tree.limits.keys (.ofEvent event) now

def hostSummaries (domain : String) (host : Host) : List Summary :=
  host.routes.entries.map (fun (path, route) =>
      ⟨domain, host.name, path, route.id, route.requests⟩) ++
    host.tcpRoutes.entries.map fun (port, route) =>
      ⟨domain, host.name, ":" ++ toString port, route.id, route.requests⟩

/-- Busiest first, then by domain, host and route. -/
def compareSummaries (a b : Summary) : Ordering :=
  (compare b.requests a.requests).then <|
    (compare a.domain b.domain).then <|
      (compare a.host b.host).then (compare a.route b.route)

def summaries (tree : Tree) : List Summary :=
  let all := tree.domains.values.flatMap fun domain =>
    domain.hosts.values.flatMap (hostSummaries domain.name)
  all.mergeSort fun a b => (compareSummaries a b).isLE

end Tree

end Telemetry.Route
