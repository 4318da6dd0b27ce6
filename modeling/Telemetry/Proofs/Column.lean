import Telemetry.Proofs.Binary64
import Telemetry.Proofs.Snapshot.View
import Telemetry.Proofs.Sorting

/-!
Columns put rows in one order.

A column compares what it shows of two rows and then their identities. Main statement: whatever the
figures, not-a-number and both zeros included, that is a strict total order on rows of distinct
identities; so the rows come out in one order however they came in, and going down is going up
turned around. What a column shows of an application in a view is told from the live figures, and
what it shows of a cell from the gauges heard of it.
-/

set_option autoImplicit false

namespace Telemetry

open Std (TransCmp OrientedCmp)

section
variable {α : Type} {compare : α → α → Ordering}

/-- A comparison of rows as a strict total order, in which rows of one identity only count as
equal. -/
structure Orders (id : α → String) (compare : α → α → Ordering) : Prop where
  swap : ∀ a b, compare b a = (compare a b).swap
  trans : ∀ a b c, compare a b = .lt → compare b c = .lt → compare a c = .lt
  apart : ∀ a b, compare a b = .eq → id a = id b

/-- Rows of distinct identities come out in one order. -/
structure Settles (id : α → String) (compare : α → α → Ordering)
    (sort : Direction → List α → List α) : Prop where
  orders : ∀ direction : Direction, Orders id (direction.apply compare)
  perm : ∀ direction rows, (sort direction rows).Perm rows
  strict : ∀ (direction : Direction) rows, (rows.map id).Nodup →
    (sort direction rows).IsChain fun a b => direction.apply compare a b = .lt
  unmoved : ∀ direction rows others, (rows.map id).Nodup → others.Perm rows →
    sort direction others = sort direction rows
  turned : ∀ rows, (rows.map id).Nodup → sort .descending rows = (sort .ascending rows).reverse

instance [TransCmp compare] (direction : Direction) : TransCmp (direction.apply compare) := by
  cases direction
  · exact inferInstanceAs (TransCmp compare)
  · exact inferInstanceAs (TransCmp fun a b => compare b a)

theorem orders_apply [TransCmp compare] {id : α → String}
    (apart : ∀ a b, compare a b = .eq → id a = id b) (direction : Direction) :
    Orders id (direction.apply compare) where
  swap _ _ := OrientedCmp.eq_swap
  trans _ _ _ := TransCmp.lt_trans
  apart a b same := by
    cases direction with
    | ascending => exact apart a b same
    | descending => exact (apart b a same).symm

theorem settles_sortRows [TransCmp compare] {id : α → String}
    (apart : ∀ a b, compare a b = .eq → id a = id b) :
    Settles id compare fun direction => sortRows (direction.apply compare) := by
  have orders := orders_apply apart
  have told := fun (direction : Direction) {rows : List α} (distinct : (rows.map id).Nodup) =>
    toldApart_of_id distinct (orders direction).apart
  constructor
  case orders => exact orders
  case perm => exact fun direction => sortRows_perm _
  case strict =>
    intro direction rows distinct
    exact (ascending_sortRows (told direction distinct)).isChain
  case unmoved =>
    intro direction rows others distinct same
    exact sortRows_congr (told direction distinct) same
  case turned => exact fun rows distinct => sortRows_turned (told .ascending distinct)

end

namespace AppColumn

instance (column : AppColumn) : TransCmp column.compare :=
  inferInstanceAs (TransCmp (compareLex (compareOn column.key) (compareOn App.id)))

end AppColumn

namespace CellColumn

instance (column : CellColumn) : TransCmp column.compare :=
  inferInstanceAs (TransCmp (compareLex (compareOn column.key) (compareOn Cell.ip)))

end CellColumn

/-- Every column of applications and every column of cells puts rows of distinct identities in one
order, in either direction. -/
theorem columns_settle :
    (∀ column : AppColumn, Settles App.id column.compare (sortApps column)) ∧
    ∀ column : CellColumn, Settles Cell.ip column.compare (sortCells column) := by
  constructor
  · intro column
    refine settles_sortRows fun a b same => ?_
    exact Std.LawfulEqCmp.eq_of_compare (Ordering.then_eq_eq.mp same).2
  · intro column
    refine settles_sortRows fun a b same => ?_
    exact Std.LawfulEqCmp.eq_of_compare (Ordering.then_eq_eq.mp same).2

/-! ### Figures behind the columns -/

namespace App

def latencies (app : App) (level : Nat) (now : Instant) : Window.Totals :=
  .mergeAll ((Slots.present app.traffic).map (·.windowTotals level now))

def requestsIn (app : App) (statusClass : StatusClass) : Nat :=
  ((Slots.present app.traffic).map (·.classes.get statusClass)).sum

end App

namespace AppColumn

/-- What a view at an instant compares of a live application. -/
def figure (column : AppColumn) (app : App) (now : Instant) (threshold : Int) : Int :=
  match column with
  | appId => 0
  | reportingContainers => (app.keptSamples now threshold).length
  | cpu => Binary64.rank (((app.keptSamples now threshold).map (·.cpuPercentage)).foldl .add .zero)
  | memory => (((app.keptSamples now threshold).map (·.memoryBytes)).sum : Nat)
  | disk => (((app.keptSamples now threshold).map (·.diskBytes)).sum : Nat)
  | req1 => Window.perSecond (app.latencies 0 now).count (.ofSeconds 1)
  | req10 => Window.perSecond (app.latencies 1 now).count (.ofSeconds 10)
  | req60 => Window.perSecond (app.latencies 2 now).count (.ofSeconds 60)
  | totalRequests => (((Slots.present app.traffic).map (·.requests)).sum : Nat)
  | http2xx => app.requestsIn .success
  | http3xx => app.requestsIn .redirect
  | http4xx => app.requestsIn .clientError
  | http5xx => app.requestsIn .serverError
  | resp1 => (app.latencies 0 now).mean.rank
  | resp10 => (app.latencies 1 now).mean.rank
  | resp60 => (app.latencies 2 now).mean.rank
  | logs =>
    (app.platformLines.total + ((app.kept now threshold).map (·.lines.total)).sum : Nat)
  | crashes => app.crashCount

section
variable (column : AppColumn) (app : App) (now : Instant) (threshold : Int)

theorem compare_eq_lt (other : App) : column.compare app other = .lt ↔
    column.key app < column.key other ∨
      column.key app = column.key other ∧ app.id < other.id := by
  have named : Ord.compare app.id other.id = .lt ↔ app.id < other.id := compareOfLessAndEq_eq_lt
  rw [compare, Ordering.then_eq_lt, Int.compare_eq_lt, Int.compare_eq_eq, named]

theorem key_finalizeApp :
    column.key (Figures.finalizeApp now threshold app) = column.figure app now threshold := by
  have total : (Figures.finalizeApp now threshold app).totalTraffic =
      .rollup (Slots.present app.traffic) now := app.totalTraffic_finalizeTraffic now
  have kept := (app.finalizeTraffic now).present_evictStale now threshold
  have samples := (app.finalizeTraffic now).samples_evictStale now threshold
  have rollup : (Figures.finalizeApp now threshold app).rollup =
      ((app.finalizeTraffic now).evictStale now threshold).rollupOf := rfl
  have classes : ∀ statusClass,
      (Figures.finalizeApp now threshold app).totalTraffic.classes.get statusClass =
        app.requestsIn statusClass := by
    intro statusClass
    rw [total, Traffic.classes_rollup, App.requestsIn]
  cases column with
  | appId | crashes => rfl
  -- Resources and lines are those of the containers that stay.
  | reportingContainers | cpu | memory | disk | logs =>
    simp only [key, figure, rollup, App.rollupOf, samples, kept]
    rfl
  | totalRequests => simp only [key, figure, total, Traffic.requests_rollup]
  | http2xx => exact congrArg Nat.cast (classes .success)
  | http3xx => exact congrArg Nat.cast (classes .redirect)
  | http4xx => exact congrArg Nat.cast (classes .clientError)
  | http5xx => exact congrArg Nat.cast (classes .serverError)
  | req1 | req10 | req60 | resp1 | resp10 | resp60 =>
    simp only [key, figure, total]
    rfl

theorem compare_finalizeApp (other : App) :
    column.compare (Figures.finalizeApp now threshold app)
        (Figures.finalizeApp now threshold other) = .lt ↔
      column.figure app now threshold < column.figure other now threshold ∨
        column.figure app now threshold = column.figure other now threshold ∧
          app.id < other.id := by
  rw [compare_eq_lt, key_finalizeApp, key_finalizeApp]
  rfl

end

/-- Rows by values in double precision come in the order of the values, not-a-number outermost,
and by identity only where the values have the same bits. -/
theorem compare_double {column : AppColumn} {value : App → Binary64}
    (shows : ∀ row, column.key row = (value row).rank) (a b : App) :
    (column.compare a b = .lt ↔
      (value a).rank < (value b).rank ∨ value a = value b ∧ a.id < b.id) ∧
    ((value a).place < (value b).place ∨ (value a).Below (value b) →
      column.compare a b = .lt) := by
  obtain ⟨apart, outer, inner, -⟩ := Binary64.rank_order (value a) (value b)
  have ranked : column.compare a b = .lt ↔
      (value a).rank < (value b).rank ∨ value a = value b ∧ a.id < b.id := by
    rw [compare_eq_lt, shows, shows, apart]
  exact ⟨ranked, fun before => ranked.mpr (.inl (before.elim outer inner))⟩

/-- Not-a-number, infinity and zero of either sign, by their bits. -/
example :
    let row (bits : UInt64) : App :=
      { App.create "app" 0 with rollup := { cpuPercentage := ⟨bits⟩ } }
    [row 0xFFF8000000000000, row 0xFFF0000000000000, row 0x8000000000000000, row 0,
      row 0x7FF0000000000000, row 0x7FF8000000000000].Pairwise
        fun a b => AppColumn.cpu.compare a b = .lt := by
  decide +kernel

end AppColumn

def Cell.reading (cell : Cell) : Gauge → Nat
  | .numCpus => cell.numCpus
  | .totalMemory => cell.totalMemory
  | .remainingMemory => cell.remainingMemory
  | .totalDisk => cell.totalDisk
  | .remainingDisk => cell.remainingDisk
  | .totalContainers => cell.totalContainers
  | .remainingContainers => cell.remainingContainers
  | .containerCount => cell.containerCount

theorem Cell.reading_observe (cell : Cell) (gauge : Gauge) (value : Binary64) (unit : String)
    (now : Instant) : (cell.observe gauge value unit now).reading =
      Function.update cell.reading gauge (Quantity.inBaseUnit value unit).toCount := by
  funext other
  cases gauge <;> cases other <;> rfl

namespace CellColumn

def figure (column : CellColumn) (reading : Gauge → Nat) : Nat :=
  match column with
  | ip => 0
  | cpus => reading .numCpus
  | totalMemory => reading .totalMemory
  | usedMemory => reading .totalMemory - reading .remainingMemory
  | remainingMemory => reading .remainingMemory
  | totalDisk => reading .totalDisk
  | remainingDisk => reading .remainingDisk
  | remainingContainers => reading .remainingContainers
  | containerCount => reading .containerCount

/-- A gauge heard of a cell changes the figures it enters, to what they are with it. -/
theorem key_observe (column : CellColumn) (cell : Cell) (gauge : Gauge) (value : Binary64)
    (unit : String) (now : Instant) :
    column.key (cell.observe gauge value unit now) = column.figure
      (Function.update cell.reading gauge (Quantity.inBaseUnit value unit).toCount) := by
  have shows : ∀ cell, column.key cell = column.figure cell.reading := by
    intro cell
    cases column <;> rfl
  rw [shows, Cell.reading_observe]

end CellColumn

end Telemetry
