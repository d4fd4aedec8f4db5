import Shamarx.Engine.Deadlines

/-!
# Trading days

What the deadlines of the pauses rest on: the arithmetic of `addTradingDays`.
-/

namespace Shamarx
namespace Engine

open Foundation

namespace RiskManager

/-- The result is a weekday and the first day with n weekdays up to it, later starts and
longer counts end later, two counts add up, and the loop needs three rounds a weekday at
most. -/
theorem addTradingDays_arithmetic (d : Int) {n : Nat} (hn : 0 < n) :
    ¬ IsWeekend (addTradingDays d n) ∧
      IsLeast { e | d < e ∧ (weekdaysIn d e).length = n } (addTradingDays d n) ∧
      (forall e, d ≤ e -> addTradingDays d n ≤ addTradingDays e n) ∧
      (forall m, m < n -> addTradingDays d m < addTradingDays d n) ∧
      (forall m, addTradingDays d (m + n) = addTradingDays (addTradingDays d m) n) ∧
      forall fuel, 3 * n ≤ fuel -> addTradingDaysLoop fuel d n = addTradingDays d n := by
  simp only [addTradingDays_eq]
  refine ⟨nthWeekday_not_weekend d hn, ?_, ?_, ?_, ?_, ?_⟩
  · constructor
    · exact ⟨lt_nthWeekday d hn, length_weekdaysIn_nthWeekday d n⟩
    · intro e he
      exact nthWeekday_le (le_of_lt he.1) (le_of_eq he.2.symm)
  · intro e hle
    exact nthWeekday_mono hle (le_refl n)
  · intro m hm
    exact nthWeekday_strictMono d hm
  · intro m
    exact nthWeekday_add d m n
  · intro fuel hfuel
    exact addTradingDaysLoop_eq d n fuel hfuel

/-- Two trading days after Thursday 9 July 2026 is Monday the 13th. -/
theorem addTradingDays_over_weekend :
    IsLeast { e | 20643 < e ∧ (weekdaysIn 20643 e).length = 2 } 20647 :=
  (addTradingDays_arithmetic 20643 Nat.two_pos).2.1

end RiskManager

end Engine
end Shamarx
