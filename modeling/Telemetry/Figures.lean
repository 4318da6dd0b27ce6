import Telemetry.App
import Telemetry.Cell
import Telemetry.Route.Tree

/-!
The figures of a session: applications, cells, routes, and what became of the events seen.

Live figures only ever grow until they are cleared. A view is a copy of them that has been
finalized at an instant.
-/

set_option autoImplicit false

namespace Telemetry

/-- What became of the events seen, as far as the other figures do not show it. -/
structure Ingest where
  byStream : Table Nat Nat := ∅
  /-- Events without a usable identity. -/
  malformed : Nat := 0
  unknown : Nat := 0
  /-- Requests as the server saw them. -/
  serverLeg : Nat := 0
  /-- Requests whose status has no class. -/
  statusOutOfRange : Nat := 0
  domainRejected : Nat := 0
  hostRejected : Nat := 0
  uriFailures : Nat := 0
  /-- User agents and forwarding addresses beyond their limits. -/
  keysRejected : Nat := 0
  ignoredLines : Nat := 0
  unknownGauges : Nat := 0
  ignoredCounters : Nat := 0
  /-- Messages the platform says it has lost. -/
  dropped : Nat := 0
  deriving DecidableEq

structure Figures where
  apps : Table String App := ∅
  cells : Table String Cell := ∅
  routes : Route.Tree
  ingest : Ingest := {}

namespace Ingest

def processed (ingest : Ingest) : Nat := ingest.byStream.values.sum

end Ingest

namespace Figures

def create (limits : Route.Limits) : Figures where
  routes := .create limits

def clear (figures : Figures) : Figures := create figures.routes.limits

def updateApp (figures : Figures) (id : String) (now : Instant) (change : App → App) : Figures :=
  { figures with apps := figures.apps.update id (.create id now) change }

def updateCell (figures : Figures) (ip : String) (change : Cell → Cell) : Figures :=
  { figures with cells := figures.cells.update ip (.create ip) change }

/-- Draw rates and means at an instant, leave out stale containers, and roll up what is
left. -/
def finalizeApp (now : Instant) (threshold : Int) (app : App) : App :=
  ((app.finalizeTraffic now).evictStale now threshold).recomputeRollup

def finalizeApp? (now : Instant) (threshold : Int) (app : App) : Option App :=
  ((app.finalizeTraffic now).evictStale now threshold).recomputeRollup?

def finalize (figures : Figures) (now : Instant) (threshold : Int) : Figures :=
  { figures with apps := figures.apps.map (finalizeApp now threshold) }

/-- There is no view if one roll-up ends the program. -/
def finalize? (figures : Figures) (now : Instant) (threshold : Int) : Option Figures :=
  (figures.apps.map? (finalizeApp? now threshold)).map fun apps => { figures with apps }

end Figures

end Telemetry
