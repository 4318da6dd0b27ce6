import Telemetry.App
import Telemetry.Cell

/-!
Columns by which rows of applications and cells are put in order.

Rows that agree in a column are ordered by their identity, so that distinct rows never
count as equal; going down is comparing the other way round.
-/

set_option autoImplicit false

namespace Telemetry

inductive Direction where
  | ascending
  | descending
  deriving DecidableEq

structure UnknownColumn where
  name : String
  deriving DecidableEq

def UnknownColumn.message (e : UnknownColumn) : String :=
  "Unknown sort column " ++ Text.quoted e.name

inductive AppColumn where
  | appId
  | reportingContainers
  | cpu
  | memory
  | disk
  | req1
  | req10
  | req60
  | totalRequests
  | http2xx
  | http3xx
  | http4xx
  | http5xx
  | resp1
  | resp10
  | resp60
  | logs
  | crashes
  deriving DecidableEq, Repr

namespace AppColumn

def all : List AppColumn :=
  [appId, reportingContainers, cpu, memory, disk, req1, req10, req60, totalRequests, http2xx,
    http3xx, http4xx, http5xx, resp1, resp10, resp60, logs, crashes]

def name : AppColumn → String
  | appId => "app-id"
  | reportingContainers => "containers"
  | cpu => "cpu"
  | memory => "memory"
  | disk => "disk"
  | req1 => "req1"
  | req10 => "req10"
  | req60 => "req60"
  | totalRequests => "total-req"
  | http2xx => "2xx"
  | http3xx => "3xx"
  | http4xx => "4xx"
  | http5xx => "5xx"
  | resp1 => "resp1"
  | resp10 => "resp10"
  | resp60 => "resp60"
  | logs => "logs"
  | crashes => "crashes"

/-- Names are read without regard to the case of ASCII letters. -/
def ofName (text : String) : Except UnknownColumn AppColumn :=
  match all.find? (·.name = Text.lowerAscii text) with
  | some column => .ok column
  | none => .error ⟨text⟩

/-- What a column shows of a row, as a number; applications themselves show nothing. -/
def key (column : AppColumn) (row : App) : Int :=
  match column with
  | appId => 0
  | reportingContainers => row.rollup.reporting
  | cpu => row.rollup.cpuPercentage.rank
  | memory => row.rollup.memoryBytes
  | disk => row.rollup.diskBytes
  | req1 => row.totalTraffic.lastSecond.rate
  | req10 => row.totalTraffic.lastTen.rate
  | req60 => row.totalTraffic.lastMinute.rate
  | totalRequests => row.totalTraffic.requests
  | http2xx => row.totalTraffic.classes.success
  | http3xx => row.totalTraffic.classes.redirect
  | http4xx => row.totalTraffic.classes.clientError
  | http5xx => row.totalTraffic.classes.serverError
  | resp1 => row.totalTraffic.lastSecond.mean.rank
  | resp10 => row.totalTraffic.lastTen.mean.rank
  | resp60 => row.totalTraffic.lastMinute.mean.rank
  | logs => row.rollup.lines
  | crashes => row.crashCount

def compare (column : AppColumn) (a b : App) : Ordering :=
  (Ord.compare (column.key a) (column.key b)).then (Ord.compare a.id b.id)

end AppColumn

inductive CellColumn where
  | ip
  | cpus
  | totalMemory
  | usedMemory
  | remainingMemory
  | totalDisk
  | remainingDisk
  | remainingContainers
  | containerCount
  deriving DecidableEq, Repr

namespace CellColumn

def all : List CellColumn :=
  [ip, cpus, totalMemory, usedMemory, remainingMemory, totalDisk, remainingDisk,
    remainingContainers, containerCount]

def name : CellColumn → String
  | ip => "ip"
  | cpus => "cpus"
  | totalMemory => "total-memory"
  | usedMemory => "used-memory"
  | remainingMemory => "remaining-memory"
  | totalDisk => "total-disk"
  | remainingDisk => "remaining-disk"
  | remainingContainers => "remaining-containers"
  | containerCount => "containers"

def ofName (text : String) : Except UnknownColumn CellColumn :=
  match all.find? (·.name = Text.lowerAscii text) with
  | some column => .ok column
  | none => .error ⟨text⟩

def key (column : CellColumn) (row : Cell) : Int :=
  match column with
  | ip => 0
  | cpus => row.numCpus
  | totalMemory => row.totalMemory
  | usedMemory => row.usedMemory
  | remainingMemory => row.remainingMemory
  | totalDisk => row.totalDisk
  | remainingDisk => row.remainingDisk
  | remainingContainers => row.remainingContainers
  | containerCount => row.containerCount

def compare (column : CellColumn) (a b : Cell) : Ordering :=
  (Ord.compare (column.key a) (column.key b)).then (Ord.compare a.ip b.ip)

end CellColumn

def Direction.apply {α : Type} (direction : Direction) (compare : α → α → Ordering) :
    α → α → Ordering :=
  match direction with
  | .ascending => compare
  | .descending => fun a b => compare b a

/-- Rows in the order of a comparison; equal rows stay as they were. -/
def sortRows {α : Type} (compare : α → α → Ordering) (rows : List α) : List α :=
  rows.mergeSort fun a b => (compare a b).isLE

def sortApps (column : AppColumn) (direction : Direction) (rows : List App) : List App :=
  sortRows (direction.apply column.compare) rows

def sortCells (column : CellColumn) (direction : Direction) (rows : List Cell) : List Cell :=
  sortRows (direction.apply column.compare) rows

end Telemetry
