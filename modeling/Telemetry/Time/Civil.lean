import Telemetry.Decimal
import Telemetry.Time

/-!
Calendar dates of the proleptic Gregorian calendar, and the texts of instants.

Days are counted from 1970-01-01. The year used inside the conversion starts in March, so
that the leap day is its last day.
-/

set_option autoImplicit false

namespace Telemetry.Civil

structure Date where
  year : Int
  month : Nat
  day : Nat
  deriving DecidableEq

structure Clock where
  date : Date
  hour : Nat
  minute : Nat
  second : Nat
  nanosecond : Nat
  deriving DecidableEq

def dateOfDay (days : Int) : Date :=
  let shifted := days + 719468
  let era := shifted.fdiv 146097
  let dayOfEra := (shifted.fmod 146097).toNat
  let yearOfEra := (dayOfEra - dayOfEra / 1460 + dayOfEra / 36524 - dayOfEra / 146096) / 365
  let dayOfYear := dayOfEra - (365 * yearOfEra + yearOfEra / 4 - yearOfEra / 100)
  let marchMonth := (5 * dayOfYear + 2) / 153
  let day := dayOfYear - (153 * marchMonth + 2) / 5 + 1
  let month := if marchMonth < 10 then marchMonth + 3 else marchMonth - 9
  ⟨era * 400 + yearOfEra + (if month ≤ 2 then 1 else 0), month, day⟩

def clockOf (t : Instant) : Clock :=
  let day := t.fdiv 86400000000000
  let nanos := (t.fmod 86400000000000).toNat
  let seconds := nanos / 1000000000
  ⟨dateOfDay day, seconds / 3600, seconds / 60 % 60, seconds % 60, nanos % 1000000000⟩

/-- Years outside 0 to 9999 carry a sign. -/
def yearText (year : Int) : List Char :=
  if 0 ≤ year ∧ year ≤ 9999 then Decimal.digits 4 year.toNat
  else (if year < 0 then '-' else '+') :: Decimal.digits 4 year.natAbs

/-- The fewest of three, six or nine digits that lose nothing, after a point; nothing for a
whole second. -/
def fractionText (nanos : Nat) : List Char :=
  if nanos = 0 then []
  else if nanos % 1000000 = 0 then '.' :: Decimal.digits 3 (nanos / 1000000)
  else if nanos % 1000 = 0 then '.' :: Decimal.digits 6 (nanos / 1000)
  else '.' :: Decimal.digits 9 nanos

def text (between zone : String) (t : Instant) : String :=
  let clock := clockOf t
  String.ofList (yearText clock.date.year ++ ['-'] ++ Decimal.digits 2 clock.date.month ++ ['-'] ++
    Decimal.digits 2 clock.date.day ++ between.toList ++ Decimal.digits 2 clock.hour ++ [':'] ++
    Decimal.digits 2 clock.minute ++ [':'] ++ Decimal.digits 2 clock.second ++
    fractionText clock.nanosecond ++ zone.toList)

/-- The form used in data, such as `2023-11-14T22:13:20.120Z`. -/
def compact : Instant → String := text "T" "Z"

def withOffset : Instant → String := text "T" "+00:00"

/-- The form used in tables, such as `2023-11-14 22:13:20.120 UTC`. -/
def readable : Instant → String := text " " " UTC"

end Telemetry.Civil
