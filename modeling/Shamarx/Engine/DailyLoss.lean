import Mathlib.Data.List.DropRight
import Shamarx.Engine.PausesLengthen
import Shamarx.Engine.Resets

/-!
# The result of a day

A call dated on another day ends the day that was counted, and the trades counted so far
are not counted again when a later call goes back to their day.
-/

namespace Shamarx
namespace Engine

open Foundation

namespace RiskManager

def tradePnl (day : Int) : RiskOp -> ℚ
  | .canTrade .. => 0
  | .recordTrade pnl date _ => if dayOf date = day then pnl else 0
  | .calculateLotSize .. => 0
  | .snapshotRestore => 0

def dayPnl (day : Int) (ops : List RiskOp) : ℚ :=
  (ops.map (tradePnl day)).sum

/-- The calls up to the last one that is dated on another day. -/
def beforeOtherDay (day : Int) (ops : List RiskOp) : List RiskOp :=
  ops.rdropWhile fun op => decide (OnDay day op)

theorem dayPnl_snoc (day : Int) (ops : List RiskOp) (op : RiskOp) :
    dayPnl day (ops ++ [op]) = dayPnl day ops + tradePnl day op := by
  simp [dayPnl]

/-- Before the first trade no result is counted. -/
def NothingCounted (rm : RiskManager) : Prop :=
  rm.lastTradeDate = none -> rm.dailyPnl = 0

theorem NothingCounted.countedPnl_eq {rm : RiskManager} (h : NothingCounted rm)
    (hlast : rm.lastTradeDate = none) (day : Int) : rm.countedPnl day = 0 := by
  unfold countedPnl
  rw [hlast]
  exact h hlast

theorem countedPnl_of_some {rm : RiskManager} {last : Int} (h : rm.lastTradeDate = some last)
    (day : Int) : rm.countedPnl day = if day = dayOf last then rm.dailyPnl else 0 := by
  unfold countedPnl
  rw [h]
  exact ite_not _ _ _

/-!
# One call
-/

theorem countedPnl_canTrade {rm : RiskManager} (h : NothingCounted rm)
    (halive : rm.hardKilled = false) (date : Int) (n : Nat) (day : Int) :
    (rm.canTrade date n).1.countedPnl day =
      if dayOf date = day then rm.countedPnl day else 0 := by
  have hcounters := canTrade_counters halive date n
  have hlast : (rm.canTrade date n).1.lastTradeDate = rm.lastTradeDate :=
    congrArg Counters.lastTradeDate hcounters
  have hdaily : (rm.canTrade date n).1.dailyPnl = rm.countedPnl (dayOf date) :=
    congrArg Counters.dailyPnl hcounters
  cases htraded : rm.lastTradeDate with
  | none =>
      rw [h.countedPnl_eq htraded, ite_self]
      apply NothingCounted.countedPnl_eq ?_ (hlast.trans htraded)
      intro _
      rw [hdaily, h.countedPnl_eq htraded]
  | some last =>
      rw [countedPnl_of_some (hlast.trans htraded), hdaily, countedPnl_of_some htraded,
        countedPnl_of_some htraded]
      by_cases hday : dayOf date = day
      · rw [if_pos hday, hday]
        split_ifs <;> rfl
      · rw [if_neg hday]
        split_ifs with hlastDay hdateDay
        · exact absurd (hdateDay.trans hlastDay.symm) hday
        · rfl
        · rfl

theorem countedPnl_recordTrade (rm : RiskManager) (pnl : ℚ) (date : Int)
    (reason : Option ExitReason) (day : Int) :
    (rm.recordTrade pnl date reason).countedPnl day =
      if dayOf date = day then rm.countedPnl day + pnl else 0 := by
  have hcounters := recordTrade_counters rm pnl date reason
  have hlast : (rm.recordTrade pnl date reason).lastTradeDate = some date :=
    congrArg Counters.lastTradeDate hcounters
  have hdaily : (rm.recordTrade pnl date reason).dailyPnl = rm.countedPnl (dayOf date) + pnl :=
    congrArg Counters.dailyPnl hcounters
  rw [countedPnl_of_some hlast, hdaily]
  by_cases hday : dayOf date = day
  · rw [if_pos hday.symm, if_pos hday, hday]
  · rw [if_neg (Ne.symm hday), if_neg hday]

/-!
# Whole runs
-/

theorem nothingCounted_riskStep {rm : RiskManager} (h : NothingCounted rm) (op : RiskOp) :
    NothingCounted (riskStep rm op) := by
  cases op with
  | canTrade date n =>
      intro hlast
      cases hkilled : rm.hardKilled with
      | true =>
          rw [riskStep, canTrade_eq_of_hardKilled hkilled] at hlast ⊢
          exact h hlast
      | false =>
          have hcounters := canTrade_counters hkilled date n
          have htraded : rm.lastTradeDate = none :=
            (congrArg Counters.lastTradeDate hcounters).symm.trans hlast
          exact (congrArg Counters.dailyPnl hcounters).trans (h.countedPnl_eq htraded _)
  | recordTrade pnl date reason =>
      intro hlast
      cases hlast
  | calculateLotSize slPoints quality regime confidence price =>
      exact h
  | snapshotRestore =>
      exact h

theorem countedPnl_riskStep {rm : RiskManager} (h : NothingCounted rm)
    (halive : rm.hardKilled = false) (op : RiskOp) (day : Int) :
    (riskStep rm op).countedPnl day =
      if OnDay day op then rm.countedPnl day + tradePnl day op else 0 := by
  cases op with
  | canTrade date n =>
      rw [riskStep, countedPnl_canTrade h halive, tradePnl, add_zero]
      simp [OnDay, RiskOp.date]
  | recordTrade pnl date reason =>
      rw [riskStep, countedPnl_recordTrade, tradePnl]
      simp only [OnDay, RiskOp.date, Option.some.injEq, forall_eq']
      split_ifs <;> rfl
  | calculateLotSize slPoints quality regime confidence price =>
      rw [tradePnl, add_zero, if_pos (by intro _ hdate; cases hdate)]
      rfl
  | snapshotRestore =>
      rw [tradePnl, add_zero, if_pos (by intro _ hdate; cases hdate)]
      rfl

theorem alive_of_riskRun_append {config : EngineConfig} {front back : List RiskOp}
    (h : (riskRun config (front ++ back)).hardKilled = false) :
    (riskRun config front).hardKilled = false := by
  by_contra hkilled
  have hlater := runFrom_inv (fun rm : RiskManager => rm.hardKilled = true)
    (fun _ op h => hardKilled_step h op) (Bool.not_eq_false _ ▸ hkilled) back
  rw [riskRun, <- runFrom_append] at hlater
  exact Bool.false_ne_true (h.symm.trans hlater)

/-- What is counted of a day and what was counted before the last call of another day are
the whole day. -/
theorem countedPnl_riskRun (config : EngineConfig) (ops : List RiskOp)
    (halive : (riskRun config ops).hardKilled = false) (day : Int) :
    (riskRun config ops).countedPnl day + dayPnl day (beforeOtherDay day ops) =
      dayPnl day ops := by
  induction ops using List.reverseRecOn with
  | nil =>
      exact add_zero _
  | append_singleton ops op ih =>
      have hbefore := alive_of_riskRun_append halive
      have hcounted : NothingCounted (riskRun config ops) :=
        runFrom_inv NothingCounted (fun _ op h => nothingCounted_riskStep h op) (fun _ => rfl) ops
      rw [riskRun_snoc, countedPnl_riskStep hcounted hbefore, dayPnl_snoc, <- ih hbefore,
        beforeOtherDay, List.rdropWhile_concat]
      split_ifs with hday hday' hday'
      · exact add_right_comm _ _ _
      · exact absurd (decide_eq_true hday) hday'
      · exact absurd (of_decide_eq_true hday') hday
      · rw [zero_add, dayPnl_snoc, ih hbefore]

/-- After a call of the gate the daily result is the one of the day exactly if the trades
that were counted before the last call of another day sum to zero. -/
theorem dailyPnl_eq_dayPnl_iff (config : EngineConfig) (ops : List RiskOp)
    (halive : (riskRun config ops).hardKilled = false) (date : Int) (n : Nat) :
    (riskRun config (ops ++ [.canTrade date n])).dailyPnl = dayPnl (dayOf date) ops ↔
      dayPnl (dayOf date) (beforeOtherDay (dayOf date) ops) = 0 := by
  have hcounted := countedPnl_riskRun config ops halive (dayOf date)
  have hdaily : ((riskRun config ops).canTrade date n).1.dailyPnl =
      (riskRun config ops).countedPnl (dayOf date) :=
    congrArg Counters.dailyPnl (canTrade_counters halive date n)
  rw [riskRun_snoc, riskStep, hdaily, <- hcounted]
  exact left_eq_add

def reportedInTime : List RiskOp :=
  [.recordTrade (-100) (dayStart 20642) (some .sl),
    .recordTrade (-200) (dayStart 20643) (some .sl)]

theorem reportedInTime_dailyPnl :
    (riskRun ⟨.XAUUSD, 10000, 3 / 2, 4, 5, 4⟩
      (reportedInTime ++ [.canTrade (dayStart 20643) 0])).dailyPnl =
      dayPnl (dayOf (dayStart 20643)) reportedInTime :=
  (dailyPnl_eq_dayPnl_iff ⟨.XAUUSD, 10000, 3 / 2, 4, 5, 4⟩ reportedInTime (by decide +kernel)
    (dayStart 20643) 0).mpr (by decide +kernel)

/-- A loss beyond the limit of its day, then a close of the day before. -/
def reportedLate : List RiskOp :=
  [.recordTrade (-450) (dayStart 20643) (some .sl),
    .recordTrade (-100) (dayStart 20642) (some .sl)]

/-- The late report drops the loss of the day, and the gate opens. -/
theorem reportedLate_drops_loss :
    (riskRun ⟨.XAUUSD, 10000, 3 / 2, 4, 5, 4⟩ reportedLate).hardKilled = false ∧
      dayPnl 20643 reportedLate = -450 ∧
      (riskRun ⟨.XAUUSD, 10000, 3 / 2, 4, 5, 4⟩
        (reportedLate ++ [.canTrade (dayStart 20643) 0])).dailyPnl = 0 ∧
      ((riskRun ⟨.XAUUSD, 10000, 3 / 2, 4, 5, 4⟩ reportedLate).canTrade
        (dayStart 20643) 0).2 = true := by
  decide +kernel

end RiskManager
end Engine
end Shamarx
