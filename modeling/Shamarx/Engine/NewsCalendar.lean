import Shamarx.Foundation.Calendar
import Mathlib.Data.List.Sort

/-!
# News blackout calendar

Two hand-kept meeting lists and two monthly patterns, merged in time order, and
the blackout test that searches them.
-/

namespace Shamarx
namespace Engine

open Foundation

def utc (year month day hour minute : Int) : Int :=
  dayStart (daysFromCivil year month day) + hour * msPerHour + minute * msPerMinute

def fomcDatesUtc : List Int :=
  [utc 2023 2 1 19 0, utc 2023 3 22 18 0, utc 2023 5 3 18 0, utc 2023 6 14 18 0,
   utc 2023 7 26 18 0, utc 2023 9 20 18 0, utc 2023 11 1 18 0, utc 2023 12 13 19 0,
   utc 2024 1 31 19 0, utc 2024 3 20 18 0, utc 2024 5 1 18 0, utc 2024 6 12 18 0,
   utc 2024 7 31 18 0, utc 2024 9 18 18 0, utc 2024 11 7 19 0, utc 2024 12 18 19 0,
   utc 2025 1 29 19 0, utc 2025 3 19 18 0, utc 2025 5 7 18 0, utc 2025 6 18 18 0,
   utc 2025 7 30 18 0, utc 2025 9 17 18 0, utc 2025 10 29 18 0, utc 2025 12 10 19 0,
   utc 2026 1 28 19 0, utc 2026 3 18 18 0, utc 2026 4 29 18 0, utc 2026 6 17 18 0,
   utc 2026 7 29 18 0, utc 2026 9 16 18 0, utc 2026 11 4 19 0, utc 2026 12 16 19 0]

def ecbDatesUtc : List Int :=
  [utc 2023 2 2 13 15, utc 2023 3 16 13 15, utc 2023 5 4 12 15, utc 2023 6 15 12 15,
   utc 2023 7 27 12 15, utc 2023 9 14 12 15, utc 2023 10 26 12 15,
   utc 2023 12 14 13 15, utc 2024 1 25 13 15, utc 2024 3 7 13 15, utc 2024 4 11 12 15,
   utc 2024 6 6 12 15, utc 2024 7 18 12 15, utc 2024 9 12 12 15, utc 2024 10 17 12 15,
   utc 2024 12 12 13 15, utc 2025 1 30 13 15, utc 2025 3 6 13 15, utc 2025 4 17 12 15,
   utc 2025 6 5 12 15, utc 2025 7 24 12 15, utc 2025 9 11 12 15, utc 2025 10 30 13 15,
   utc 2025 12 18 13 15, utc 2026 1 29 13 15, utc 2026 3 12 13 15, utc 2026 4 23 12 15,
   utc 2026 6 11 12 15, utc 2026 7 23 12 15, utc 2026 9 10 12 15, utc 2026 10 29 13 15,
   utc 2026 12 17 13 15]

def firstFridayOfMonth (year month : Int) : Int :=
  let first := daysFromCivil year month 1
  first + (5 - weekdayOf first + 7) % 7

/-- Payrolls on the first Friday and inflation on the 12th, both at 12:30. -/
def monthEvents (year month : Int) : List Int :=
  [dayStart (firstFridayOfMonth year month) + 12 * msPerHour + 30 * msPerMinute,
   utc year month 12 12 30]

def generatePatternEvents (years : List Int) : List Int :=
  years.flatMap fun y => [1, 2, 3, 4, 5, 6, 7, 8, 9, 10, 11, 12].flatMap (monthEvents y)

def eventTimes : List Int :=
  (generatePatternEvents [2023, 2024, 2025, 2026] ++ fomcDatesUtc ++
    ecbDatesUtc).insertionSort fun a b => a ≤ b

/-- The search loop, with an exclusive upper end one above the source's. -/
def blackoutLoop (times : List Int) (t window : Int) : Nat -> Nat -> Nat -> Bool
  | 0, _, _ => false
  | fuel + 1, lo, hi =>
      if lo < hi then
        let mid := (lo + hi - 1) / 2
        let et := times.getD mid 0
        if ((et - t).natAbs : Int) ≤ window then true
        else if et < t then blackoutLoop times t window fuel (mid + 1) hi
        else blackoutLoop times t window fuel lo mid
      else false

def isInBlackout (utcTime windowMinutes : Int) : Bool :=
  blackoutLoop eventTimes utcTime (windowMinutes * msPerMinute) eventTimes.length 0
    eventTimes.length

end Engine
end Shamarx
