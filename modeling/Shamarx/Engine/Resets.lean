import Shamarx.Engine.HardKill

/-!
# Daily and weekly counters

What the two resets of a manager move: the result of a day, which the date of the last
trade ends, and the peak of a week, which the week number ends.
-/

namespace Shamarx
namespace Engine

open Foundation

namespace RiskManager

structure Counters where
  dailyPnl : ℚ
  lastTradeDate : Option Int
  weeklyPeakEquity : ℚ
  currentWeekNumber : Int

def counters (rm : RiskManager) : Counters :=
  { dailyPnl := rm.dailyPnl
    lastTradeDate := rm.lastTradeDate
    weeklyPeakEquity := rm.weeklyPeakEquity
    currentWeekNumber := rm.currentWeekNumber }

def countedPnl (rm : RiskManager) (day : Int) : ℚ :=
  match rm.lastTradeDate with
  | some last => if day ≠ dayOf last then 0 else rm.dailyPnl
  | none => rm.dailyPnl

def countedPeak (rm : RiskManager) (date : Int) : ℚ :=
  if getISOWeek date ≠ rm.currentWeekNumber then rm.equity else rm.weeklyPeakEquity

theorem maybeResetDaily_counters (rm : RiskManager) (date : Int) :
    (rm.maybeResetDaily date).counters =
      { rm.counters with dailyPnl := rm.countedPnl (dayOf date) } := by
  cases hlast : rm.lastTradeDate with
  | none =>
      simp only [maybeResetDaily, countedPnl, hlast]
      rfl
  | some last =>
      by_cases hday : dayOf date ≠ dayOf last
      · simp only [maybeResetDaily, countedPnl, hlast, if_pos hday, counters]
      · simp only [maybeResetDaily, countedPnl, hlast, if_neg hday]
        rfl

theorem maybeResetWeekly_counters (rm : RiskManager) (date : Int) :
    (rm.maybeResetWeekly date).counters =
      { rm.counters with
        weeklyPeakEquity := rm.countedPeak date
        currentWeekNumber := getISOWeek date } := by
  unfold maybeResetWeekly countedPeak
  dsimp only
  split_ifs with hweek
  · rfl
  · rw [not_not.mp hweek]
    rfl

theorem resets_counters (rm : RiskManager) (date : Int) :
    ((rm.maybeResetDaily date).maybeResetWeekly date).counters =
      { dailyPnl := rm.countedPnl (dayOf date)
        lastTradeDate := rm.lastTradeDate
        weeklyPeakEquity := rm.countedPeak date
        currentWeekNumber := getISOWeek date } := by
  have hdaily := maybeResetDaily_counters rm date
  have hequity : (rm.maybeResetDaily date).equity = rm.equity :=
    congrArg Ledger.equity (maybeResetDaily_ledger rm date)
  have hpeak : (rm.maybeResetDaily date).countedPeak date = rm.countedPeak date := by
    unfold countedPeak
    rw [hequity, show (rm.maybeResetDaily date).currentWeekNumber = _ from
      congrArg Counters.currentWeekNumber hdaily,
      show (rm.maybeResetDaily date).weeklyPeakEquity = _ from
        congrArg Counters.weeklyPeakEquity hdaily]
    rfl
  rw [maybeResetWeekly_counters, hpeak, hdaily]
  rfl

/-!
# The trade gate
-/

theorem canTradeLimits_counters (rm : RiskManager) (day : Int) (n : Nat) :
    (rm.canTradeLimits day n).1.counters = rm.counters := by
  unfold canTradeLimits
  split_ifs <;> rfl

theorem canTradeStreak_counters (rm : RiskManager) (day : Int) (n : Nat) :
    (rm.canTradeStreak day n).1.counters = rm.counters := by
  unfold canTradeStreak
  split_ifs
  · rfl
  · rw [canTradeLimits_counters]
    rfl
  · exact canTradeLimits_counters rm day n

theorem canTradePauses_counters (rm : RiskManager) (day : Int) (n : Nat) :
    (rm.canTradePauses day n).1.counters = rm.counters := by
  unfold canTradePauses canTradeRolling
  split_ifs
  · rfl
  · rfl
  · rfl
  · rfl
  · rw [canTradeStreak_counters]
    rfl

theorem canTrade_counters {rm : RiskManager} (halive : rm.hardKilled = false) (date : Int)
    (n : Nat) :
    (rm.canTrade date n).1.counters =
      { dailyPnl := rm.countedPnl (dayOf date)
        lastTradeDate := rm.lastTradeDate
        weeklyPeakEquity := rm.countedPeak date
        currentWeekNumber := getISOWeek date } := by
  rw [canTrade, halive, if_neg Bool.false_ne_true, canTradePauses_counters, resets_counters]

/-!
# Recording a trade
-/

theorem bookTrade_counters (rm : RiskManager) (pnl : ℚ) (date : Int)
    (reason : Option ExitReason) :
    (rm.bookTrade pnl date reason).counters =
      { dailyPnl := rm.countedPnl (dayOf date) + pnl
        lastTradeDate := rm.lastTradeDate
        weeklyPeakEquity := rm.countedPeak date
        currentWeekNumber := getISOWeek date } := by
  have hresets := resets_counters rm date
  have hbooked : (rm.bookTrade pnl date reason).counters =
      { ((rm.maybeResetDaily date).maybeResetWeekly date).counters with
        dailyPnl := ((rm.maybeResetDaily date).maybeResetWeekly date).counters.dailyPnl + pnl } :=
    rfl
  rw [hbooked, hresets]

theorem recordStreak_counters (rm : RiskManager) (pnl : ℚ) (reason : Option ExitReason) :
    (rm.recordStreak pnl reason).counters = rm.counters := by
  unfold recordStreak
  split_ifs <;> rfl

theorem raisePeaks_counters (rm : RiskManager) :
    rm.raisePeaks.counters =
      { rm.counters with weeklyPeakEquity := max rm.weeklyPeakEquity rm.equity } := by
  unfold raisePeaks
  dsimp only
  split_ifs with hweek
  · rw [max_eq_right (le_of_lt hweek)]
    rfl
  · rw [max_eq_right (le_of_lt hweek)]
    rfl
  · rw [max_eq_left (not_lt.mp hweek)]
    rfl
  · rw [max_eq_left (not_lt.mp hweek)]
    rfl

theorem drawdownBrakes_counters (rm : RiskManager) (day : Int) :
    (rm.drawdownBrakes day).counters = rm.counters := by
  unfold drawdownBrakes
  dsimp only
  split_ifs <;> rfl

theorem weeklyBrake_counters (rm : RiskManager) (day : Int) :
    (rm.weeklyBrake day).counters = rm.counters := by
  unfold weeklyBrake
  split_ifs <;> rfl

theorem raiseTrade_counters (rm : RiskManager) (pnl : ℚ) (date : Int)
    (reason : Option ExitReason) :
    (rm.raiseTrade pnl date reason).counters =
      { dailyPnl := rm.countedPnl (dayOf date) + pnl
        lastTradeDate := rm.lastTradeDate
        weeklyPeakEquity := max (rm.countedPeak date) (rm.balance + pnl)
        currentWeekNumber := getISOWeek date } := by
  have hbooked : ((rm.bookTrade pnl date reason).recordStreak pnl reason).counters = _ :=
    (recordStreak_counters _ pnl reason).trans (bookTrade_counters rm pnl date reason)
  have hledger : ((rm.bookTrade pnl date reason).recordStreak pnl reason).ledger = _ :=
    (recordStreak_ledger _ pnl reason).trans (bookTrade_ledger rm pnl date reason)
  rw [raiseTrade, raisePeaks_counters, hbooked,
    show ((rm.bookTrade pnl date reason).recordStreak pnl reason).weeklyPeakEquity = _ from
      congrArg Counters.weeklyPeakEquity hbooked,
    show ((rm.bookTrade pnl date reason).recordStreak pnl reason).equity = _ from
      congrArg Ledger.equity hledger]
  rfl

theorem recordTrade_counters (rm : RiskManager) (pnl : ℚ) (date : Int)
    (reason : Option ExitReason) :
    (rm.recordTrade pnl date reason).counters =
      { dailyPnl := rm.countedPnl (dayOf date) + pnl
        lastTradeDate := some date
        weeklyPeakEquity := max (rm.countedPeak date) (rm.balance + pnl)
        currentWeekNumber := getISOWeek date } := by
  have hraised := raiseTrade_counters rm pnl date reason
  rw [<- drawdownBrakes_counters _ (dayOf date), <- weeklyBrake_counters _ (dayOf date)] at hraised
  exact congrArg (fun c : Counters => { c with lastTradeDate := some date }) hraised

end RiskManager
end Engine
end Shamarx
