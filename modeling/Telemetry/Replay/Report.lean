import Telemetry.Column
import Telemetry.Metadata
import Telemetry.Session
import Telemetry.Time.Civil

/-!
What a replay prints: tables of applications, cells, routes and the history.

A cell narrower than its column is filled up with blanks; a wider one is never cut.
-/

set_option autoImplicit false

namespace Telemetry.Replay

inductive Column where
  | left (width : Nat)
  | right (width : Nat)

def Column.fill : Column → String → String
  | left width, text => text ++ "".pushn ' ' (width - text.length)
  | right width, text => "".pushn ' ' (width - text.length) ++ text

def row (columns : List Column) (cells : List String) : String :=
  " ".intercalate (List.zipWith Column.fill columns cells)

def bytes (n : Nat) : String := Quantity.display (some (.ofNat n)) "B"

def headline (snapshot : Snapshot) : String :=
  let ingest := snapshot.figures.ingest
  "Generation " ++ toString snapshot.generation ++ ": " ++ toString snapshot.processed ++
    " events processed, " ++ toString ingest.malformed ++ " malformed, " ++
    toString ingest.unknown ++ " unknown, " ++ toString ingest.dropped ++
    " dropped by the platform"

def appColumns : List Column :=
  [.left 28, .left 24, .right 5, .right 7, .right 10, .right 6, .right 6, .right 6, .right 8,
    .right 6, .right 6, .right 6, .right 6, .right 10, .right 7, .right 7]

def appHeading : String :=
  row appColumns ["APP", "SPACE/ORG", "CNTRS", "CPU%", "MEM", "REQ/1", "REQ/10", "REQ/60",
    "TOTAL", "2XX", "3XX", "4XX", "5XX", "RESP/60", "LOGS", "CRASH"]

def meanLatency (figures : WindowFigures) : String :=
  if 0 < figures.rate || !figures.mean.atMost .zero && !figures.mean.isNaN then
    Quantity.display (some (figures.mean.div (.ofNat 1000000000))) "s"
  else "-"

def appRow (metadata : Metadata) (app : App) : String :=
  let (space, org) := metadata.spaceAndOrg app.id
  let traffic := app.totalTraffic
  row appColumns
    [metadata.displayName app.id, space ++ "/" ++ org, toString app.rollup.reporting,
      Decimal.display 2 app.rollup.cpuPercentage, bytes app.rollup.memoryBytes,
      toString traffic.lastSecond.rate, toString traffic.lastTen.rate,
      toString traffic.lastMinute.rate, toString traffic.requests,
      toString traffic.classes.success, toString traffic.classes.redirect,
      toString traffic.classes.clientError, toString traffic.classes.serverError,
      meanLatency traffic.lastMinute, toString app.rollup.lines, toString app.crashCount]

def crashLine (crash : Crash) : String :=
  "    crash: instance " ++ toString crash.instanceIndex ++ " at " ++
    Civil.readable crash.time ++ ": " ++ crash.description

/-- The row of an application, and below it its last three crashes, newest first. -/
def appLines (metadata : Metadata) (app : App) : List String :=
  appRow metadata app :: (app.crashes.reverse.take 3).map crashLine

def appTable (snapshot : Snapshot) (metadata : Metadata) (column : AppColumn)
    (direction : Direction) (top : Nat) : List String :=
  appHeading :: ((sortApps column direction snapshot.figures.apps.values).take top).flatMap
    (appLines metadata)

def cellColumns : List Column :=
  [.left 16, .left 16, .right 5, .right 10, .right 10, .right 10, .right 10, .right 6]

def cellHeading : String :=
  row cellColumns ["CELL", "JOB/INDEX", "CPUS", "MEM TOTAL", "MEM USED", "DISK TOTAL",
    "DISK USED", "CNTRS"]

def cellRow (cell : Cell) : String :=
  row cellColumns
    [cell.ip, cell.job ++ "/" ++ cell.index, toString cell.numCpus, bytes cell.totalMemory,
      bytes cell.usedMemory, bytes cell.totalDisk, bytes cell.usedDisk,
      toString cell.containerCount]

/-- Cells with the most memory in use come first. -/
def cellTable (snapshot : Snapshot) (top : Nat) : List String :=
  let sorted := sortCells .usedMemory .descending snapshot.figures.cells.values
  cellHeading :: (sorted.take top).map cellRow

def routeColumns : List Column := [.left 40, .left 24, .left 16, .right 8]

def routeHeading : String := row routeColumns ["HOST", "ROUTE", "ROUTE ID", "REQS"]

def routeRow (summary : Route.Summary) : String :=
  row routeColumns
    [".".intercalate ([summary.host, summary.domain].filter (· ≠ "")),
      if summary.route = "" then "/" else summary.route, summary.id.getD "-",
      toString summary.requests]

def routeTable (summaries : List Route.Summary) (top : Nat) : List String :=
  routeHeading :: (summaries.take top).map routeRow

def historyColumns : List Column := [.left 32, .left 32, .right 10, .right 10]

def historyHeading : String :=
  row historyColumns ["BEGIN", "END", "HIGH", "LOW"] ++ "  PER TYPE (high)"

def kindRates (record : RateRecord) : String :=
  " ".intercalate (EventKind.all.filterMap fun kind =>
    let high := (record.kindRate kind).high
    if high = 0 then none else some (kind.name ++ "=" ++ toString high))

def historyRow (record : RateRecord) : String :=
  row historyColumns
    [Civil.withOffset record.start, Civil.withOffset record.stop, toString record.total.high,
      toString record.total.low] ++ "  " ++ kindRates record

def historyTable (records : List RateRecord) : List String :=
  historyHeading :: records.map historyRow

def unlines (lines : List String) : String := String.join (lines.map (· ++ "\n"))

end Telemetry.Replay
