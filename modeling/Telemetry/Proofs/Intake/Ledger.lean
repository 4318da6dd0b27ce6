import Mathlib.Data.List.DropRight
import Telemetry.Proofs.Intake.Fate

/-!
What the live figures count, against the fates of the events taken in.

The counts of an application and the tallies kept beside the applications are read off the
figures. An event changes them as its fate says and in no other way.
-/

set_option autoImplicit false

namespace Telemetry

namespace LineCounts

def get (counts : LineCounts) : LogStream → Nat
  | .out => counts.out
  | .err => counts.err

@[simp] theorem get_empty (stream : LogStream) : ({} : LineCounts).get stream = 0 := by
  cases stream <;> rfl

theorem get_bump (counts : LineCounts) (a b : LogStream) :
    (counts.bump a).get b = counts.get b + if a = b then 1 else 0 := by
  cases a <;> cases b <;> rfl

end LineCounts

@[simp] theorem ClassCounts.get_empty (statusClass : StatusClass) :
    ({} : ClassCounts).get statusClass = 0 := by
  cases statusClass <;> rfl

namespace Fate

def isRequest (app : String) (index : Nat) : Fate → Bool
  | request name i _ => name = app && i = index
  | _ => false

def isOddStatus : Fate → Bool
  | oddStatus _ _ => true
  | _ => false

def isPlatformLine (app : String) (stream : LogStream) : Fate → Bool
  | platformLine name written _ => name = app && written = stream
  | _ => false

def crashOf? (app : String) : Fate → Option Crash
  | platformLine name _ crash => if name = app then crash else none
  | _ => none

end Fate

/-- What an application counts, by instance where it has any. -/
@[ext] structure AppCounts where
  requests : Nat → Nat := fun _ => 0
  classes : Nat → StatusClass → Nat := fun _ _ => 0
  lines : Nat → LogStream → Nat := fun _ _ => 0
  platformLines : LogStream → Nat := fun _ => 0
  crashCount : Nat := 0
  crashes : List Crash := []

@[ext] structure Tallies where
  serverLeg : Nat := 0
  statusOutOfRange : Nat := 0
  malformed : Nat := 0
  unknown : Nat := 0
  ignoredLines : Nat := 0
  unknownGauges : Nat := 0
  ignoredCounters : Nat := 0

def remember (limit : Nat) (crashes : List Crash) : Option Crash → List Crash
  | some crash => if limit = 0 then crashes else (crashes ++ [crash]).rtake limit
  | none => crashes

namespace AppCounts

def settle (limit : Nat) (app : String) (counts : AppCounts) (fate : Fate) : AppCounts where
  requests i := counts.requests i + if fate.isRequest app i then 1 else 0
  classes i statusClass :=
    counts.classes i statusClass + if fate = .request app i statusClass then 1 else 0
  lines i stream := counts.lines i stream + if fate = .containerLine app i stream then 1 else 0
  platformLines stream :=
    counts.platformLines stream + if fate.isPlatformLine app stream then 1 else 0
  crashCount := counts.crashCount + if (fate.crashOf? app).isSome then 1 else 0
  crashes := remember limit counts.crashes (fate.crashOf? app)

def ofFates (limit : Nat) (app : String) (fates : List Fate) : AppCounts where
  requests i := fates.countP (·.isRequest app i)
  classes i statusClass := fates.count (.request app i statusClass)
  lines i stream := fates.count (.containerLine app i stream)
  platformLines stream := fates.countP (·.isPlatformLine app stream)
  crashCount := (fates.filterMap (·.crashOf? app)).length
  crashes := (fates.filterMap (·.crashOf? app)).rtake limit

end AppCounts

namespace Tallies

def settle (tallies : Tallies) (fate : Fate) : Tallies where
  serverLeg := tallies.serverLeg + if fate = .serverLeg then 1 else 0
  statusOutOfRange := tallies.statusOutOfRange + if fate.isOddStatus then 1 else 0
  malformed := tallies.malformed + if fate = .malformed then 1 else 0
  unknown := tallies.unknown + if fate = .unknown then 1 else 0
  ignoredLines := tallies.ignoredLines + if fate = .ignoredLine then 1 else 0
  unknownGauges := tallies.unknownGauges + if fate = .unknownGauge then 1 else 0
  ignoredCounters := tallies.ignoredCounters + if fate = .ignoredCounter then 1 else 0

def ofFates (fates : List Fate) : Tallies where
  serverLeg := fates.count .serverLeg
  statusOutOfRange := fates.countP (·.isOddStatus)
  malformed := fates.count .malformed
  unknown := fates.count .unknown
  ignoredLines := fates.count .ignoredLine
  unknownGauges := fates.count .unknownGauge
  ignoredCounters := fates.count .ignoredCounter

theorem ofFates_concat (fates : List Fate) (fate : Fate) :
    ofFates (fates ++ [fate]) = (ofFates fates).settle fate := by
  ext <;> simp [ofFates, settle, List.count_append, List.countP_append, List.count_singleton,
    List.countP_singleton]

end Tallies

theorem remember_rtake (limit : Nat) (crashes : List Crash) (crash : Option Crash) :
    remember limit (crashes.rtake limit) crash = (crashes ++ crash.toList).rtake limit := by
  -- What is forgotten already has no part in what is remembered next.
  cases crash with
  | none => simp [remember]
  | some crash =>
    cases limit with
    | zero => simp [remember]
    | succ rest =>
      have kept : (crashes.rtake (rest + 1)).rtake rest = crashes.rtake rest := by
        simp [List.rtake_eq_reverse_take_reverse, List.take_take]
      simp only [remember, Nat.succ_ne_zero, if_false, Option.toList_some,
        List.rtake_concat_succ, kept]

namespace AppCounts

theorem ofFates_nil (limit : Nat) (app : String) : ofFates limit app [] = {} := by
  simp [ofFates]

theorem ofFates_concat (limit : Nat) (app : String) (fates : List Fate) (fate : Fate) :
    ofFates limit app (fates ++ [fate]) = (ofFates limit app fates).settle limit app fate := by
  ext
  case requests => simp [ofFates, settle, List.countP_append, List.countP_singleton]
  case classes => simp [ofFates, settle, List.count_append, List.count_singleton]
  case lines => simp [ofFates, settle, List.count_append, List.count_singleton]
  case platformLines => simp [ofFates, settle, List.countP_append, List.countP_singleton]
  case crashCount => cases crash : fate.crashOf? app <;> simp [ofFates, settle, crash]
  case crashes =>
    rw [settle, ofFates, ofFates, remember_rtake, List.filterMap_append]
    cases crash : fate.crashOf? app <;> simp [crash]

end AppCounts

/-- What the figures count, by stream, by application and beside the applications. -/
@[ext] structure Ledger where
  byStream : Table Nat Nat
  counts : String → AppCounts
  tallies : Tallies

/-- Streams are counted before an event is applied, and not again. -/
def Ledger.settle (limit : Nat) (ledger : Ledger) (fate : Fate) : Ledger where
  byStream := ledger.byStream
  counts app := (ledger.counts app).settle limit app fate
  tallies := ledger.tallies.settle fate

end Telemetry
