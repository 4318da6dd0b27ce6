import Telemetry.Quantity
import Telemetry.Time

/-!
Infrastructure cells: machines that run containers, with the capacity they report.
-/

set_option autoImplicit false

namespace Telemetry

inductive Gauge where
  | numCpus
  | totalMemory
  | remainingMemory
  | totalDisk
  | remainingDisk
  | totalContainers
  | remainingContainers
  | containerCount
  deriving DecidableEq, Repr

def Gauge.ofMetric? : String → Option Gauge
  | "numCPUS" => some numCpus
  | "CapacityTotalMemory" => some totalMemory
  | "CapacityRemainingMemory" => some remainingMemory
  | "CapacityTotalDisk" => some totalDisk
  | "CapacityRemainingDisk" => some remainingDisk
  | "CapacityTotalContainers" => some totalContainers
  | "CapacityRemainingContainers" => some remainingContainers
  | "ContainerCount" => some containerCount
  | _ => none

/-- A cell, known by its address. Memory and disk are in bytes. -/
structure Cell where
  ip : String := ""
  deployment : String := ""
  job : String := ""
  index : String := ""
  numCpus : Nat := 0
  totalMemory : Nat := 0
  remainingMemory : Nat := 0
  totalDisk : Nat := 0
  remainingDisk : Nat := 0
  totalContainers : Nat := 0
  remainingContainers : Nat := 0
  containerCount : Nat := 0
  lastUpdate : Option Instant := none
  deriving DecidableEq

namespace Cell

def create (ip : String) : Cell := { ip }

def identify (cell : Cell) (deployment job index : String) : Cell :=
  { cell with deployment, job, index }

def set (cell : Cell) (value : Nat) : Gauge → Cell
  | .numCpus => { cell with numCpus := value }
  | .totalMemory => { cell with totalMemory := value }
  | .remainingMemory => { cell with remainingMemory := value }
  | .totalDisk => { cell with totalDisk := value }
  | .remainingDisk => { cell with remainingDisk := value }
  | .totalContainers => { cell with totalContainers := value }
  | .remainingContainers => { cell with remainingContainers := value }
  | .containerCount => { cell with containerCount := value }

/-- Overwrite one gauge with a reading, in whole base units. -/
def observe (cell : Cell) (gauge : Gauge) (value : Binary64) (unit : String) (now : Instant) :
    Cell :=
  { cell.set (Quantity.inBaseUnit value unit).toCount gauge with lastUpdate := some now }

def usedMemory (cell : Cell) : Nat := cell.totalMemory - cell.remainingMemory

def usedDisk (cell : Cell) : Nat := cell.totalDisk - cell.remainingDisk

end Cell

end Telemetry
