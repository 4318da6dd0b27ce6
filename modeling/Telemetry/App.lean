import Telemetry.Event
import Telemetry.Traffic

/-!
Applications and their containers.

Containers and their traffic stand at the place of their instance index; a place nothing
was heard of is empty. Places are added up to the highest index seen and never taken away.
The roll-up of an application holds only in a view.
-/

set_option autoImplicit false

namespace Telemetry

abbrev Slots (α : Type) := List (Option α)

namespace Slots

variable {α : Type}

def get? (slots : Slots α) (i : Nat) : Option α := (slots[i]?).join

/-- Change what stands at a place, which is added and filled first if need be. -/
def update (slots : Slots α) (i : Nat) (new : α) (change : α → α) : Slots α :=
  match slots, i with
  | [], 0 => [some (change new)]
  | [], i + 1 => none :: update [] i new change
  | slot :: rest, 0 => some (change (slot.getD new)) :: rest
  | slot :: rest, i + 1 => slot :: update rest i new change

def present (slots : Slots α) : List α := slots.filterMap id

theorem get?_update (slots : Slots α) (i j : Nat) (new : α) (change : α → α) :
    get? (update slots i new change) j =
      if i = j then some (change ((get? slots i).getD new)) else get? slots j := by
  induction i generalizing slots j with
  | zero => cases slots <;> cases j <;> simp [update, get?]
  | succ i ih =>
    cases slots with
    | nil =>
      cases j with
      | zero => simp [update, get?]
      | succ j => simpa [update, get?] using ih [] j
    | cons slot rest =>
      cases j with
      | zero => simp [update, get?]
      | succ j => simpa [update, get?] using ih rest j

theorem length_update (slots : Slots α) (i : Nat) (new : α) (change : α → α) :
    (update slots i new change).length = max slots.length (i + 1) := by
  induction i generalizing slots with
  | zero => cases slots <;> simp only [update, List.length_cons, List.length_nil] <;> omega
  | succ i ih => cases slots <;> simp only [update, ih, List.length_cons, List.length_nil] <;> omega

end Slots

/-- The resources a container reported last. -/
structure ResourceSample where
  cpuPercentage : Binary64 := .zero
  memoryBytes : Nat := 0
  diskBytes : Nat := 0
  memoryQuota : Nat := 0
  diskQuota : Nat := 0
  deriving DecidableEq

structure LineCounts where
  out : Nat := 0
  err : Nat := 0
  deriving DecidableEq

namespace LineCounts

def bump (counts : LineCounts) : LogStream → LineCounts
  | .out => { counts with out := counts.out + 1 }
  | .err => { counts with err := counts.err + 1 }

def total (counts : LineCounts) : Nat := counts.out + counts.err

end LineCounts

structure Container where
  instanceIndex : Nat
  /-- None while only log lines were seen. -/
  sample : Option ResourceSample := none
  /-- When the last sample came, or when the container was first heard of. -/
  lastUpdate : Instant
  cellIp : Option String := none
  lines : LineCounts := {}
  deriving DecidableEq

namespace Container

def create (instanceIndex : Nat) (now : Instant) : Container where
  instanceIndex
  lastUpdate := now

/-- Take a sample; the cell stays known where the sample names none. -/
def observe (container : Container) (sample : ResourceSample) (cellIp : Option String)
    (now : Instant) : Container :=
  { container with
    sample := some sample
    cellIp := cellIp.or container.cellIp
    lastUpdate := max container.lastUpdate now }

def recordLine (container : Container) (stream : LogStream) : Container :=
  { container with lines := container.lines.bump stream }

def stale (container : Container) (now : Instant) (threshold : Int) : Bool :=
  threshold < now - container.lastUpdate

end Container

/-- An exit reported by the platform. -/
structure Crash where
  instanceIndex : Int
  time : Instant
  description : String
  deriving DecidableEq

structure Rollup where
  cpuPercentage : Binary64 := .zero
  memoryBytes : Nat := 0
  diskBytes : Nat := 0
  /-- Containers that have reported a sample. -/
  reporting : Nat := 0
  /-- Lines of containers and of the platform. -/
  lines : Nat := 0
  deriving DecidableEq

structure App where
  id : String
  containers : Slots Container := []
  traffic : Slots Traffic := []
  totalTraffic : Traffic
  /-- Lines from staging and other parts of the platform. -/
  platformLines : LineCounts := {}
  /-- The last crashes, oldest first. -/
  crashes : List Crash := []
  crashCount : Nat := 0
  rollup : Rollup := {}
  deriving DecidableEq

namespace App

def create (id : String) (now : Instant) : App where
  id
  totalTraffic := .create now

def container? (app : App) (i : Nat) : Option Container := app.containers.get? i

def traffic? (app : App) (i : Nat) : Option Traffic := app.traffic.get? i

def updateContainer (app : App) (i : Nat) (now : Instant) (change : Container → Container) : App :=
  { app with containers := app.containers.update i (.create i now) change }

/-- Count a request at an instance. The place is filled even if the status has no class;
whether it has is returned as well. -/
def recordRequest (app : App) (i latency status : Nat) (now : Instant) : Bool × App :=
  let before := (app.traffic? i).getD (.create now)
  let after := before.record? latency status now
  (after.isSome,
    { app with traffic := app.traffic.update i (.create now) fun t => after.getD t })

def recordPlatformLine (app : App) (stream : LogStream) : App :=
  { app with platformLines := app.platformLines.bump stream }

/-- Remember a crash; beyond the limit the oldest is forgotten. -/
def addCrash (app : App) (crash : Crash) (limit : Nat) : App :=
  { app with
    crashCount := app.crashCount + 1
    crashes := if limit = 0 then app.crashes
      else app.crashes.drop (app.crashes.length + 1 - limit) ++ [crash] }

def finalizeTraffic (app : App) (now : Instant) : App :=
  let traffic : Slots Traffic := app.traffic.map fun slot => slot.map (·.finalize now)
  { app with traffic, totalTraffic := .rollup (Slots.present traffic) now }

def evictStale (app : App) (now : Instant) (threshold : Int) : App :=
  { app with containers := app.containers.map (·.filter fun c => !c.stale now threshold) }

def staleCount (app : App) (now : Instant) (threshold : Int) : Nat :=
  (Slots.present app.containers).countP (·.stale now threshold)

def samples (app : App) : List ResourceSample :=
  (Slots.present app.containers).filterMap (·.sample)

def rollupOf (app : App) : Rollup where
  cpuPercentage := (app.samples.map (·.cpuPercentage)).foldl .add .zero
  memoryBytes := (app.samples.map (·.memoryBytes)).sum
  diskBytes := (app.samples.map (·.diskBytes)).sum
  reporting := app.samples.length
  lines := app.platformLines.total + ((Slots.present app.containers).map (·.lines.total)).sum

/-- Bytes are added one by one in 64 bits; an addition that leaves them ends the program. -/
def rollup? (app : App) : Option Rollup := do
  let memoryBytes ← sum64? (app.samples.map (·.memoryBytes))
  let diskBytes ← sum64? (app.samples.map (·.diskBytes))
  return { app.rollupOf with memoryBytes, diskBytes }

def recomputeRollup (app : App) : App := { app with rollup := app.rollupOf }

def recomputeRollup? (app : App) : Option App := app.rollup?.map fun rollup => { app with rollup }

end App

end Telemetry
