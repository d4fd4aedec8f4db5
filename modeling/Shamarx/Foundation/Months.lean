import Mathlib.Algebra.Order.Group.Int
import Mathlib.Tactic.IntervalCases
import Shamarx.Foundation.Calendar

/-!
# Months

Dates by year, month and day as the sources build them, and what the calendar says of the
first days of years and months.
-/

namespace Shamarx
namespace Foundation

/-- `Date.UTC`: months count from 0 and may run over, and a year below 100 is one of the
last century. -/
def utcDate (year monthIndex day : Int) : Int :=
  let fullYear := if 0 ≤ year ∧ year ≤ 99 then 1900 + year else year
  daysFromCivil (fullYear + monthIndex / 12) (monthIndex % 12 + 1) 1 + (day - 1)

/-!
# Years from March to February
-/

def marchStart (year : Int) : Int :=
  year / 400 * 146097 + (year % 400 * 365 + year % 400 / 4 - year % 400 / 100) - 719468

theorem daysFromCivil_one (year month : Int) :
    daysFromCivil year month 1 =
      if month ≤ 2 then marchStart (year - 1) + (153 * (month + 9) + 2) / 5
      else marchStart year + (153 * (month - 3) + 2) / 5 := by
  unfold daysFromCivil marchStart
  dsimp only
  split_ifs <;> omega

theorem marchStart_succ (year : Int) :
    marchStart year + 365 ≤ marchStart (year + 1) ∧
      marchStart (year + 1) ≤ marchStart year + 366 := by
  unfold marchStart
  omega

/-- The year of a day of a cycle of 400 years: century, cycle of four years, year and day
within it. -/
theorem yearOfEra_eq {c q r n doe : Int} (hc : 0 ≤ c ∧ c ≤ 3) (hq : 0 ≤ q ∧ q ≤ 24)
    (hr : 0 ≤ r ∧ r ≤ 3) (hn : 0 ≤ n)
    (hend : n ≤ 364 ∨ (n = 365 ∧ r = 3 ∧ (q ≤ 23 ∨ c = 3)))
    (hdoe : doe = 36524 * c + 1461 * q + 365 * r + n) :
    (doe - doe / 1460 + doe / 36524 - doe / 146096) / 365 = 100 * c + 4 * q + r := by
  have hleap : doe / 1460 = 25 * c + q + (24 * c + q + 365 * r + n) / 1460 := by omega
  have hcentury : doe / 36524 - doe / 146096 = c := by
    by_cases hlast : doe = 146096
    · rw [hlast]
      omega
    · have hwithin : doe / 36524 = c := by
        rw [Int.ediv_eq_iff_of_pos (by decide)]
        omega
      have hfirst : doe / 146096 = 0 := Int.ediv_eq_zero_of_lt (by omega) (by omega)
      omega
  have hdays : doe - doe / 1460 + doe / 36524 - doe / 146096 =
      365 * (100 * c + 4 * q + r) + (n - (24 * c + q + 365 * r + n) / 1460) := by omega
  rw [hdays]
  omega

theorem yearOf_march {year n : Int} (hn : 0 ≤ n)
    (hlt : marchStart year + n < marchStart (year + 1)) :
    yearOf (marchStart year + n) = if n < 306 then year else year + 1 := by
  have hend : n ≤ 364 ∨ (n = 365 ∧ year % 400 % 100 % 4 = 3 ∧
      (year % 400 % 100 / 4 ≤ 23 ∨ year % 400 / 100 = 3)) := by
    unfold marchStart at hlt
    omega
  have hdoe : year % 400 * 365 + year % 400 / 4 - year % 400 / 100 + n =
      36524 * (year % 400 / 100) + 1461 * (year % 400 % 100 / 4) +
        365 * (year % 400 % 100 % 4) + n := by omega
  have hyoe := yearOfEra_eq (by omega) (by omega) (by omega) hn hend hdoe
  have hyear : 100 * (year % 400 / 100) + 4 * (year % 400 % 100 / 4) + year % 400 % 100 % 4 =
      year % 400 := by omega
  generalize hera : year % 400 * 365 + year % 400 / 4 - year % 400 / 100 + n = doe at hyoe
  have hz : marchStart year + n + 719468 = year / 400 * 146097 + doe := by
    unfold marchStart
    omega
  have hzdiv : (year / 400 * 146097 + doe) / 146097 = year / 400 := by omega
  have hdoy : doe - (365 * (year % 400) + year % 400 / 4 - year % 400 / 100) = n := by omega
  unfold yearOf
  dsimp only
  rw [hz, hzdiv, add_sub_cancel_left, hyoe, hyear, hdoy]
  split_ifs <;> omega

/-!
# Years and their months
-/

/-- The first of month `i`, the months counted from 0 and the twelfth the next year's. -/
def monthFirst (year : Int) (i : Nat) : Int :=
  daysFromCivil (year + i / 12) (i % 12 + 1) 1

theorem monthFirst_eq {year : Int} {i : Nat} (hi : i < 12) :
    monthFirst year i = daysFromCivil year (i + 1) 1 := by
  have hyears : (i : Int) / 12 = 0 := by omega
  have hmonth : (i : Int) % 12 = i := by omega
  unfold monthFirst
  rw [hyears, hmonth, add_zero]

theorem monthFirst_lt_succ (year : Int) {i : Nat} (hi : i < 12) :
    monthFirst year i < monthFirst year (i + 1) := by
  have hmarch := marchStart_succ (year - 1)
  rw [sub_add_cancel] at hmarch
  unfold monthFirst
  rw [daysFromCivil_one, daysFromCivil_one]
  interval_cases i <;> norm_num
  omega

theorem monthFirst_mono (year : Int) {i j : Nat} (hij : i ≤ j) (hj : j ≤ 12) :
    monthFirst year i ≤ monthFirst year j := by
  induction j, hij using Nat.le_induction with
  | base =>
      exact le_rfl
  | succ j _ ih =>
      exact le_trans (ih (by omega)) (le_of_lt (monthFirst_lt_succ year (by omega)))

theorem yearOf_eq {year d : Int} (hlow : monthFirst year 0 ≤ d) (hhigh : d < monthFirst year 12) :
    yearOf d = year := by
  have hzero : monthFirst year 0 = marchStart (year - 1) + 306 := by
    unfold monthFirst
    rw [daysFromCivil_one]
    norm_num
  have htwelve : monthFirst year 12 = marchStart year + 306 := by
    unfold monthFirst
    rw [daysFromCivil_one]
    norm_num
  rcases lt_or_ge d (marchStart year) with hbefore | hafter
  · have hyear := @yearOf_march (year - 1) (d - marchStart (year - 1)) (by omega)
      (by rw [sub_add_cancel]; omega)
    rw [add_sub_cancel, if_neg (by omega), sub_add_cancel] at hyear
    exact hyear
  · have hmarch := marchStart_succ year
    have hyear := @yearOf_march year (d - marchStart year) (by omega) (by omega)
    rw [add_sub_cancel, if_pos (by omega)] at hyear
    exact hyear

theorem monthOf_eq {year d : Int} {i : Nat} (hi : i < 12) (hlow : monthFirst year i ≤ d)
    (hhigh : d < monthFirst year (i + 1)) : monthOf d = i + 1 := by
  have hyear : yearOf d = year :=
    yearOf_eq (le_trans (monthFirst_mono year (Nat.zero_le i) (by omega)) hlow)
      (lt_of_lt_of_le hhigh (monthFirst_mono year (by omega) le_rfl))
  have hbegun : forall m, m ∈ List.range 12 ->
      decide (daysFromCivil (yearOf d) (m + 1) 1 ≤ d) = decide (m ≤ i) := by
    intro m hm
    rw [hyear, <- monthFirst_eq (List.mem_range.mp hm), decide_eq_decide]
    constructor
    · intro hle
      by_contra hlate
      have hnext : i + 1 ≤ m := Nat.lt_of_not_le hlate
      have hmono := monthFirst_mono year hnext (le_of_lt (List.mem_range.mp hm))
      omega
    · intro hle
      exact le_trans (monthFirst_mono year hle (by omega)) hlow
  unfold monthOf
  rw [List.filter_congr hbegun]
  interval_cases i <;> rfl

theorem dayOfMonth_eq {year d : Int} {i : Nat} (hi : i < 12) (hlow : monthFirst year i ≤ d)
    (hhigh : d < monthFirst year (i + 1)) : dayOfMonth d = d - monthFirst year i + 1 := by
  have hyear : yearOf d = year :=
    yearOf_eq (le_trans (monthFirst_mono year (Nat.zero_le i) (by omega)) hlow)
      (lt_of_lt_of_le hhigh (monthFirst_mono year (by omega) le_rfl))
  unfold dayOfMonth
  rw [hyear, monthOf_eq hi hlow hhigh, monthFirst_eq hi]
  push_cast
  rfl

/-!
# Months that run over
-/

theorem utcDate_one (year i : Int) :
    exists y j, j < 12 ∧ utcDate year i 1 = monthFirst y j ∧
      utcDate year (i + 1) 1 = monthFirst y (j + 1) := by
  have hj : ((i % 12).toNat : Int) = i % 12 := Int.toNat_of_nonneg (by omega)
  have hyears : (i + 1) / 12 = i / 12 + (i % 12 + 1) / 12 := by omega
  have hmonth : (i + 1) % 12 = (i % 12 + 1) % 12 := by omega
  refine ⟨(if 0 ≤ year ∧ year ≤ 99 then 1900 + year else year) + i / 12, (i % 12).toNat,
    by omega, ?_, ?_⟩
  · rw [monthFirst_eq (by omega), hj]
    unfold utcDate
    rw [sub_self, add_zero]
  · unfold utcDate monthFirst
    dsimp only
    push_cast
    rw [hj, hyears, hmonth, add_zero, add_assoc]

theorem dayOfMonth_utcDate_zero (year i : Int) :
    dayOfMonth (utcDate year (i + 1) 0) = utcDate year (i + 1) 1 - utcDate year i 1 ∧
      utcDate year i 1 < utcDate year (i + 1) 1 := by
  have hzero : utcDate year (i + 1) 0 = utcDate year (i + 1) 1 - 1 := by
    unfold utcDate
    dsimp only
    omega
  rcases utcDate_one year i with ⟨y, j, hj, hfirst, hnext⟩
  have hlt := monthFirst_lt_succ y hj
  have hlast : dayOfMonth (monthFirst y (j + 1) - 1) =
      monthFirst y (j + 1) - 1 - monthFirst y j + 1 :=
    dayOfMonth_eq hj (by omega) (by omega)
  rw [hzero, hnext, hfirst, hlast]
  omega

end Foundation
end Shamarx
