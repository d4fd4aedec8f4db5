import Mathlib.Data.Int.Basic

/-!
# UTC calendar arithmetic

An instant is an integer number of milliseconds since the Unix epoch and a date
is an integer number of days since it.  For ISO strings in UTC with four-digit
years, comparing the first ten characters is comparing these day numbers, so
the dates of the sources are kept as day numbers throughout.

The proleptic Gregorian conversions follow the usual era computation, with the
year starting in March.
-/

namespace Shamarx
namespace Foundation

def msPerMinute : Int := 60000
def msPerHour : Int := 3600000
def msPerDay : Int := 86400000

/-- The UTC day of an instant: the first ten characters of its ISO form. -/
def dayOf (t : Int) : Int :=
  t / msPerDay

def dayStart (d : Int) : Int :=
  d * msPerDay

def hourOf (t : Int) : Int :=
  t / msPerHour % 24

/-- `getUTCDay`: 0 is Sunday, and day 0 was a Thursday. -/
def weekdayOf (d : Int) : Int :=
  (d + 4) % 7

def IsWeekend (d : Int) : Prop :=
  weekdayOf d = 0 ∨ weekdayOf d = 6

instance (d : Int) : Decidable (IsWeekend d) :=
  inferInstanceAs (Decidable (weekdayOf d = 0 ∨ weekdayOf d = 6))

/-- Day number of a civil date; months count from 1. -/
def daysFromCivil (year month day : Int) : Int :=
  let y := if month ≤ 2 then year - 1 else year
  let era := y / 400
  let yoe := y - era * 400
  let mp := if 2 < month then month - 3 else month + 9
  let doy := (153 * mp + 2) / 5 + day - 1
  let doe := yoe * 365 + yoe / 4 - yoe / 100 + doy
  era * 146097 + doe - 719468

def yearOf (d : Int) : Int :=
  let z := d + 719468
  let era := z / 146097
  let doe := z - era * 146097
  let yoe := (doe - doe / 1460 + doe / 36524 - doe / 146096) / 365
  let doy := doe - (365 * yoe + yoe / 4 - yoe / 100)
  let mp := (5 * doy + 2) / 153
  let y := yoe + era * 400
  if mp < 10 then y else y + 1

def yearStart (year : Int) : Int :=
  daysFromCivil year 1 1

def monthOf (d : Int) : Nat :=
  ((List.range 12).filter fun m : Nat => daysFromCivil (yearOf d) (m + 1) 1 ≤ d).length

def dayOfMonth (d : Int) : Int :=
  d - daysFromCivil (yearOf d) (monthOf d) 1 + 1

example : daysFromCivil 2026 7 9 = 20643 ∧ weekdayOf 20643 = 4 := by decide

example : monthOf 20643 = 7 ∧ dayOfMonth 20643 = 9 := by decide

example : yearOf 20643 = 2026 ∧ yearOf (yearStart 2026 - 1) = 2025 := by decide

end Foundation
end Shamarx
