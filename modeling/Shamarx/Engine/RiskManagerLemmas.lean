import Shamarx.Engine.RiskManager

/-!
# Frame facts of the risk manager

The ledger of a manager is what only a recorded trade changes.  The trade gate
moves pauses, the daily counter and the weekly peak, and leaves the ledger
alone; recording a trade moves the ledger by its profit.
-/

namespace Shamarx
namespace Engine

open Foundation

namespace RiskManager

structure Ledger where
  config : EngineConfig
  balance : ℚ
  equity : ℚ
  overallPeakEquity : ℚ
  tradeLog : List TradeLogEntry
  hardKilled : Bool

def ledger (rm : RiskManager) : Ledger :=
  { config := rm.config
    balance := rm.balance
    equity := rm.equity
    overallPeakEquity := rm.overallPeakEquity
    tradeLog := rm.tradeLog
    hardKilled := rm.hardKilled }

def Ledger.ddPercent (l : Ledger) : ℚ :=
  if 0 < l.overallPeakEquity then
    (l.overallPeakEquity - l.equity) / l.overallPeakEquity * 100
  else 0

def Ledger.book (l : Ledger) (entry : TradeLogEntry) : Ledger :=
  { l with
    balance := l.balance + entry.pnl
    equity := l.balance + entry.pnl
    tradeLog := l.tradeLog ++ [entry] }

def Ledger.raise (l : Ledger) : Ledger :=
  { l with overallPeakEquity := max l.overallPeakEquity l.equity }

def Ledger.brake (l : Ledger) : Ledger :=
  { l with hardKilled := l.hardKilled || decide (hardKillDdPercent ≤ l.ddPercent) }

/-- A recorded trade: book the profit, raise the peak, check the kill switch. -/
def Ledger.record (l : Ledger) (entry : TradeLogEntry) : Ledger :=
  (l.book entry).raise.brake

/-!
# The trade gate keeps the ledger
-/

@[simp] theorem maybeResetDaily_ledger (rm : RiskManager) (date : Int) :
    (rm.maybeResetDaily date).ledger = rm.ledger := by
  unfold maybeResetDaily
  split
  · split_ifs <;> rfl
  · rfl

@[simp] theorem maybeResetWeekly_ledger (rm : RiskManager) (date : Int) :
    (rm.maybeResetWeekly date).ledger = rm.ledger := by
  unfold maybeResetWeekly
  dsimp only
  split_ifs <;> rfl

theorem resets_ledger (rm : RiskManager) (date : Int) :
    ((rm.maybeResetDaily date).maybeResetWeekly date).ledger = rm.ledger := by
  rw [maybeResetWeekly_ledger, maybeResetDaily_ledger]

theorem canTradeLimits_ledger (rm : RiskManager) (day : Int) (n : Nat) :
    (rm.canTradeLimits day n).1.ledger = rm.ledger := by
  unfold canTradeLimits
  split_ifs <;> rfl

theorem canTradeStreak_ledger (rm : RiskManager) (day : Int) (n : Nat) :
    (rm.canTradeStreak day n).1.ledger = rm.ledger := by
  unfold canTradeStreak
  split_ifs
  · rfl
  · rw [canTradeLimits_ledger]
    rfl
  · exact canTradeLimits_ledger rm day n

theorem canTradeRolling_ledger (rm : RiskManager) (day : Int) (n : Nat) :
    (rm.canTradeRolling day n).1.ledger = rm.ledger := by
  unfold canTradeRolling
  split_ifs
  · rfl
  · rfl
  · exact canTradeStreak_ledger rm day n

theorem canTradePauses_ledger (rm : RiskManager) (day : Int) (n : Nat) :
    (rm.canTradePauses day n).1.ledger = rm.ledger := by
  unfold canTradePauses
  split_ifs
  · rfl
  · rfl
  · rw [canTradeRolling_ledger]
    rfl

theorem canTrade_ledger (rm : RiskManager) (date : Int) (n : Nat) :
    (rm.canTrade date n).1.ledger = rm.ledger := by
  unfold canTrade
  split_ifs
  · rfl
  · rw [canTradePauses_ledger, resets_ledger]

/-!
A manager lets a trade pass only below the cap.  The cap is the last check, and the
earlier ones leave the configuration alone.
-/

theorem canTradeLimits_lt_cap {rm : RiskManager} {day : Int} {n : Nat}
    (h : (rm.canTradeLimits day n).2 = true) : n < rm.config.maxOpenPositions := by
  unfold canTradeLimits at h
  split_ifs at h with hloss hstreak hcap
  exact Nat.lt_of_not_le hcap

theorem canTradeStreak_lt_cap {rm : RiskManager} {day : Int} {n : Nat}
    (h : (rm.canTradeStreak day n).2 = true) : n < rm.config.maxOpenPositions := by
  unfold canTradeStreak at h
  split_ifs at h
  · have hlimits := canTradeLimits_lt_cap h
    exact hlimits
  · exact canTradeLimits_lt_cap h

theorem canTradeRolling_lt_cap {rm : RiskManager} {day : Int} {n : Nat}
    (h : (rm.canTradeRolling day n).2 = true) : n < rm.config.maxOpenPositions := by
  unfold canTradeRolling at h
  split_ifs at h
  exact canTradeStreak_lt_cap h

theorem canTrade_lt_cap {rm : RiskManager} {date : Int} {n : Nat}
    (h : (rm.canTrade date n).2 = true) : n < rm.config.maxOpenPositions := by
  have hreset : ((rm.maybeResetDaily date).maybeResetWeekly date).config = rm.config :=
    congrArg Ledger.config (resets_ledger rm date)
  unfold canTrade canTradePauses at h
  split_ifs at h
  rw [← hreset]
  have hrolling := canTradeRolling_lt_cap h
  exact hrolling

theorem canTrade_eq_of_hardKilled {rm : RiskManager} (h : rm.hardKilled = true)
    (date : Int) (n : Nat) : rm.canTrade date n = (rm, false) := by
  rw [canTrade, if_pos h]

theorem canTrade_of_hardKilled {rm : RiskManager} (h : rm.hardKilled = true)
    (date : Int) (n : Nat) : (rm.canTrade date n).2 = false := by
  rw [canTrade_eq_of_hardKilled h]

/-!
# Recording a trade moves the ledger
-/

theorem recordStreak_ledger (rm : RiskManager) (pnl : ℚ)
    (reason : Option ExitReason) : (rm.recordStreak pnl reason).ledger = rm.ledger := by
  unfold recordStreak
  split_ifs <;> rfl

theorem weeklyBrake_ledger (rm : RiskManager) (day : Int) :
    (rm.weeklyBrake day).ledger = rm.ledger := by
  unfold weeklyBrake
  split_ifs <;> rfl

theorem raisePeaks_ledger (rm : RiskManager) :
    rm.raisePeaks.ledger = rm.ledger.raise := by
  by_cases hpeak : rm.overallPeakEquity < rm.equity
  · have hmax : max rm.overallPeakEquity rm.equity = rm.equity :=
      max_eq_right (le_of_lt hpeak)
    by_cases hweek : rm.weeklyPeakEquity < rm.equity <;>
      simp [raisePeaks, ledger, Ledger.raise, hweek, hpeak, hmax]
  · have hmax : max rm.overallPeakEquity rm.equity = rm.overallPeakEquity :=
      max_eq_left (not_lt.mp hpeak)
    by_cases hweek : rm.weeklyPeakEquity < rm.equity <;>
      simp [raisePeaks, ledger, Ledger.raise, hweek, hpeak, hmax]

theorem drawdownBrakes_ledger (rm : RiskManager) (day : Int) :
    (rm.drawdownBrakes day).ledger = rm.ledger.brake := by
  by_cases hkill : hardKillDdPercent ≤ rm.getEquityDdPercent
  · have hbrake : rm.ledger.brake = { rm.ledger with hardKilled := true } := by
      have hkill' : hardKillDdPercent ≤ rm.ledger.ddPercent := hkill
      simp [Ledger.brake, hkill']
    rw [hbrake]
    simp only [drawdownBrakes, hkill, if_true]
    split_ifs <;> rfl
  · have hbrake : rm.ledger.brake = rm.ledger := by
      have hkill' : ¬ hardKillDdPercent ≤ rm.ledger.ddPercent := hkill
      simp [Ledger.brake, hkill']
    rw [hbrake]
    simp only [drawdownBrakes, hkill, if_false]
    split_ifs <;> rfl

def logEntry (pnl : ℚ) (date : Int) (reason : Option ExitReason) : TradeLogEntry :=
  { date := dayOf date, pnl := pnl,
    isLoss := decide (pnl < 0 ∧ reason ≠ some .breakeven) }

def bookTrade (rm : RiskManager) (pnl : ℚ) (date : Int) (reason : Option ExitReason) :
    RiskManager :=
  let rm := (rm.maybeResetDaily date).maybeResetWeekly date
  { rm with
    awaitingPostPauseTrade := false
    balance := rm.balance + pnl
    equity := rm.balance + pnl
    dailyPnl := rm.dailyPnl + pnl
    tradeLog := rm.tradeLog ++ [logEntry pnl date reason] }

def raiseTrade (rm : RiskManager) (pnl : ℚ) (date : Int) (reason : Option ExitReason) :
    RiskManager :=
  ((rm.bookTrade pnl date reason).recordStreak pnl reason).raisePeaks

theorem recordTrade_eq (rm : RiskManager) (pnl : ℚ) (date : Int) (reason : Option ExitReason) :
    rm.recordTrade pnl date reason =
      { ((rm.raiseTrade pnl date reason).drawdownBrakes (dayOf date)).weeklyBrake (dayOf date) with
        lastTradeDate := some date } := rfl

theorem bookTrade_ledger (rm : RiskManager) (pnl : ℚ) (date : Int)
    (reason : Option ExitReason) :
    (rm.bookTrade pnl date reason).ledger = rm.ledger.book (logEntry pnl date reason) := by
  rw [← resets_ledger rm date]
  rfl

theorem raiseTrade_ledger (rm : RiskManager) (pnl : ℚ) (date : Int)
    (reason : Option ExitReason) :
    (rm.raiseTrade pnl date reason).ledger =
      (rm.ledger.book (logEntry pnl date reason)).raise := by
  rw [raiseTrade, raisePeaks_ledger, recordStreak_ledger, bookTrade_ledger]

theorem recordTrade_ledger (rm : RiskManager) (pnl : ℚ) (date : Int)
    (reason : Option ExitReason) :
    (rm.recordTrade pnl date reason).ledger =
      rm.ledger.record (logEntry pnl date reason) := by
  rw [recordTrade_eq]
  change (((rm.raiseTrade pnl date reason).drawdownBrakes (dayOf date)).weeklyBrake
    (dayOf date)).ledger = _
  rw [weeklyBrake_ledger, drawdownBrakes_ledger, raiseTrade_ledger]
  rfl

end RiskManager
end Engine
end Shamarx
