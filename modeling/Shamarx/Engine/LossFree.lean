import Shamarx.Engine.RiskManager
import Mathlib.Tactic.Linarith

/-!
# A manager that has seen no loss

As long as no recorded trade loses, every brake stays open: the trade gate then
answers by the position cap alone, whatever was won.
-/

namespace Shamarx
namespace Engine

open Foundation

namespace RiskManager

structure LossFree (rm : RiskManager) : Prop where
  balance_pos : 0 < rm.balance
  equity_eq : rm.equity = rm.balance
  dailyPnl_nonneg : 0 ≤ rm.dailyPnl
  no_streak : rm.consecutiveLosses = 0
  no_loss : forall t, t ∈ rm.tradeLog -> t.isLoss = false
  peak_le : rm.overallPeakEquity ≤ rm.balance
  weekly_pos : 0 < rm.weeklyPeakEquity
  weekly_le : rm.weeklyPeakEquity ≤ rm.balance
  no_pause : rm.pauseUntilDate = none
  no_ddPause : rm.equityDdPauseUntil = none
  no_streakPause : rm.consecutiveLossPauseUntil = none
  no_rollingPause : rm.rolling7DayPauseUntil = none
  not_killed : rm.hardKilled = false

theorem lossFree_create {config : EngineConfig} (h : 0 < config.initialBalance) :
    LossFree (create config) := by
  constructor <;> simp [create, h]

theorem LossFree.maybeResetDaily {rm : RiskManager} (h : LossFree rm) (date : Int) :
    LossFree (rm.maybeResetDaily date) := by
  unfold RiskManager.maybeResetDaily
  split
  · split_ifs
    · exact { h with dailyPnl_nonneg := le_refl 0 }
    · exact h
  · exact h

theorem LossFree.maybeResetWeekly {rm : RiskManager} (h : LossFree rm) (date : Int) :
    LossFree (rm.maybeResetWeekly date) := by
  unfold RiskManager.maybeResetWeekly
  dsimp only
  split_ifs
  · refine { h with weekly_pos := ?_, weekly_le := ?_ }
    · change 0 < rm.equity
      rw [h.equity_eq]
      exact h.balance_pos
    · exact le_of_eq h.equity_eq
  · exact h

theorem LossFree.rolling_eq_zero {rm : RiskManager} (h : LossFree rm) (day : Option Int) :
    rm.getRolling7DayLosses day = 0 := by
  cases day with
  | none =>
      rfl
  | some d =>
      simp only [getRolling7DayLosses, List.length_eq_zero_iff, List.filter_eq_nil_iff]
      intro t ht
      simp [h.no_loss t ht]

theorem LossFree.ddPercent_le {rm : RiskManager} (h : LossFree rm) :
    rm.getEquityDdPercent ≤ 0 := by
  unfold getEquityDdPercent
  split_ifs with hpeak
  · have hdiff : rm.overallPeakEquity - rm.equity ≤ 0 := by
      rw [h.equity_eq]
      linarith [h.peak_le]
    have hdiv := div_nonpos_of_nonpos_of_nonneg hdiff (le_of_lt hpeak)
    linarith
  · exact le_refl 0

@[simp] theorem maybeResetDaily_config (rm : RiskManager) (date : Int) :
    (rm.maybeResetDaily date).config = rm.config := by
  unfold RiskManager.maybeResetDaily
  split
  · split_ifs <;> rfl
  · rfl

@[simp] theorem maybeResetWeekly_config (rm : RiskManager) (date : Int) :
    (rm.maybeResetWeekly date).config = rm.config := by
  unfold RiskManager.maybeResetWeekly
  dsimp only
  split_ifs <;> rfl

/-!
# The trade gate
-/

theorem LossFree.canTradeLimits {rm : RiskManager} (h : LossFree rm)
    (hloss : 0 < rm.config.maxDailyLossPercent) (hstreak : 0 < rm.config.maxConsecutiveLosses)
    (day : Int) (n : Nat) :
    rm.canTradeLimits day n = (rm, decide (n < rm.config.maxOpenPositions)) := by
  have hdaily : ¬ PercentAtMost rm.dailyPnl rm.balance (-rm.config.maxDailyLossPercent) := by
    have hdiv := div_nonneg h.dailyPnl_nonneg (le_of_lt h.balance_pos)
    rw [PercentAtMost, if_neg (ne_of_gt h.balance_pos)]
    linarith
  have hno : ¬ (rm.awaitingPostPauseTrade = false ∧
      rm.config.maxConsecutiveLosses ≤ rm.consecutiveLosses) := by
    rw [h.no_streak]
    omega
  unfold RiskManager.canTradeLimits
  rw [if_neg hdaily, if_neg hno]
  by_cases hcap : rm.config.maxOpenPositions ≤ n
  · rw [if_pos hcap, decide_eq_false (not_lt.mpr hcap)]
  · rw [if_neg hcap, decide_eq_true (not_le.mp hcap)]

theorem LossFree.canTradeStreak {rm : RiskManager} (h : LossFree rm) (day : Int) (n : Nat) :
    rm.canTradeStreak day n = rm.canTradeLimits day n := by
  have hpaused : ¬ Paused day rm.consecutiveLossPauseUntil := by
    rw [h.no_streakPause]
    exact id
  have hsome : ¬ rm.consecutiveLossPauseUntil.isSome = true := by
    rw [h.no_streakPause]
    exact Bool.false_ne_true
  unfold RiskManager.canTradeStreak
  rw [if_neg hpaused, if_neg hsome]

theorem LossFree.canTradeRolling {rm : RiskManager} (h : LossFree rm) (day : Int) (n : Nat) :
    rm.canTradeRolling day n = rm.canTradeStreak day n := by
  have hpaused : ¬ Paused day rm.rolling7DayPauseUntil := by
    rw [h.no_rollingPause]
    exact id
  have hfour : ¬ 4 ≤ rm.getRolling7DayLosses (some day) := by
    rw [h.rolling_eq_zero]
    omega
  unfold RiskManager.canTradeRolling
  rw [if_neg hpaused, if_neg hfour]

theorem LossFree.canTradePauses {rm : RiskManager} (h : LossFree rm) (day : Int) (n : Nat) :
    rm.canTradePauses day n = rm.canTradeRolling day n := by
  have hpaused : ¬ Paused day rm.pauseUntilDate := by
    rw [h.no_pause]
    exact id
  have hdd : ¬ Paused day rm.equityDdPauseUntil := by
    rw [h.no_ddPause]
    exact id
  have hsame : { rm with equityDdPauseUntil := none } = rm := by
    rw [← h.no_ddPause]
  unfold RiskManager.canTradePauses
  rw [if_neg hpaused, if_neg hdd, hsame]

theorem LossFree.canTrade {rm : RiskManager} (h : LossFree rm)
    (hloss : 0 < rm.config.maxDailyLossPercent) (hstreak : 0 < rm.config.maxConsecutiveLosses)
    (date : Int) (n : Nat) :
    LossFree (rm.canTrade date n).1 ∧ (rm.canTrade date n).1.config = rm.config ∧
      (rm.canTrade date n).2 = decide (n < rm.config.maxOpenPositions) := by
  have hreset := (h.maybeResetDaily date).maybeResetWeekly date
  have hconfig : ((rm.maybeResetDaily date).maybeResetWeekly date).config = rm.config := by
    simp
  have hkilled : ¬ rm.hardKilled = true := by
    rw [h.not_killed]
    exact Bool.false_ne_true
  unfold RiskManager.canTrade
  rw [if_neg hkilled, hreset.canTradePauses, hreset.canTradeRolling, hreset.canTradeStreak,
    hreset.canTradeLimits (hconfig ▸ hloss) (hconfig ▸ hstreak), hconfig]
  exact ⟨hreset, rfl, rfl⟩

/-!
# Recording a trade that does not lose
-/

theorem LossFree.recordStreak {rm : RiskManager} (h : LossFree rm) {pnl : ℚ} (hpnl : 0 ≤ pnl)
    (reason : Option ExitReason) : LossFree (rm.recordStreak pnl reason) := by
  unfold RiskManager.recordStreak
  split_ifs with hbe htp hloss
  · exact { h with no_streak := rfl }
  · exact { h with no_streak := rfl }
  · exact absurd hloss (not_lt.mpr hpnl)
  · exact h

theorem LossFree.raisePeaks {rm : RiskManager} (h : LossFree rm) : LossFree rm.raisePeaks := by
  have hpos : 0 < rm.equity := by
    rw [h.equity_eq]
    exact h.balance_pos
  have hle : rm.equity ≤ rm.balance := le_of_eq h.equity_eq
  unfold RiskManager.raisePeaks
  dsimp only
  split_ifs
  · exact { h with peak_le := hle, weekly_pos := hpos, weekly_le := hle }
  · exact { h with weekly_pos := hpos, weekly_le := hle }
  · exact { h with peak_le := hle }
  · exact h

theorem LossFree.drawdownBrakes {rm : RiskManager} (h : LossFree rm) (day : Int) :
    rm.drawdownBrakes day = rm := by
  have hdd := h.ddPercent_le
  have hkill : ¬ hardKillDdPercent ≤ rm.getEquityDdPercent := by
    rw [hardKillDdPercent]
    linarith
  have h35 : ¬ ((35 : ℚ) ≤ rm.getEquityDdPercent ∧ rm.lastDdTierTriggered < 35) := by
    rintro ⟨hge, -⟩
    linarith
  have h25 : ¬ ((25 : ℚ) ≤ rm.getEquityDdPercent ∧ rm.lastDdTierTriggered < 25) := by
    rintro ⟨hge, -⟩
    linarith
  have h15 : ¬ ((15 : ℚ) ≤ rm.getEquityDdPercent ∧ rm.lastDdTierTriggered < 15) := by
    rintro ⟨hge, -⟩
    linarith
  unfold RiskManager.drawdownBrakes
  dsimp only
  rw [if_neg hkill, if_neg h35, if_neg h25, if_neg h15]

theorem LossFree.weeklyBrake {rm : RiskManager} (h : LossFree rm) (day : Int) :
    rm.weeklyBrake day = rm := by
  have hno : ¬ PercentAtLeast (rm.weeklyPeakEquity - rm.equity) rm.weeklyPeakEquity
      weeklyDdThreshold := by
    have hdiff : rm.weeklyPeakEquity - rm.equity ≤ 0 := by
      rw [h.equity_eq]
      linarith [h.weekly_le]
    have hdiv := div_nonpos_of_nonpos_of_nonneg hdiff (le_of_lt h.weekly_pos)
    rw [PercentAtLeast, if_neg (ne_of_gt h.weekly_pos), weeklyDdThreshold]
    linarith
  unfold RiskManager.weeklyBrake
  rw [if_neg hno]

@[simp] theorem recordStreak_config (rm : RiskManager) (pnl : ℚ)
    (reason : Option ExitReason) : (rm.recordStreak pnl reason).config = rm.config := by
  unfold RiskManager.recordStreak
  split_ifs <;> rfl

@[simp] theorem raisePeaks_config (rm : RiskManager) : rm.raisePeaks.config = rm.config := by
  unfold RiskManager.raisePeaks
  dsimp only
  split_ifs <;> rfl

theorem LossFree.book {rm : RiskManager} (h : LossFree rm) {pnl : ℚ} (hpnl : 0 ≤ pnl)
    (day : Int) (reason : Option ExitReason) :
    LossFree
      { rm with
        awaitingPostPauseTrade := false
        balance := rm.balance + pnl
        equity := rm.balance + pnl
        dailyPnl := rm.dailyPnl + pnl
        tradeLog := rm.tradeLog ++
          [{ date := day, pnl := pnl,
             isLoss := decide (pnl < 0 ∧ reason ≠ some .breakeven) }] } where
  balance_pos := by linarith [h.balance_pos]
  equity_eq := rfl
  dailyPnl_nonneg := add_nonneg h.dailyPnl_nonneg hpnl
  no_streak := h.no_streak
  no_loss := by
    intro t ht
    rcases List.mem_append.mp ht with hold | hnew
    · exact h.no_loss t hold
    · rw [List.mem_singleton.mp hnew]
      exact decide_eq_false fun hloss => absurd hloss.1 (not_lt.mpr hpnl)
  peak_le := by linarith [h.peak_le]
  weekly_pos := h.weekly_pos
  weekly_le := by linarith [h.weekly_le]
  no_pause := h.no_pause
  no_ddPause := h.no_ddPause
  no_streakPause := h.no_streakPause
  no_rollingPause := h.no_rollingPause
  not_killed := h.not_killed

theorem LossFree.recordTrade {rm : RiskManager} (h : LossFree rm) {pnl : ℚ} (hpnl : 0 ≤ pnl)
    (date : Int) (reason : Option ExitReason) :
    LossFree (rm.recordTrade pnl date reason) ∧
      (rm.recordTrade pnl date reason).config = rm.config := by
  have hreset := (h.maybeResetDaily date).maybeResetWeekly date
  have hfull := ((hreset.book hpnl (dayOf date) reason).recordStreak hpnl reason).raisePeaks
  unfold RiskManager.recordTrade
  dsimp only
  rw [hfull.drawdownBrakes, hfull.weeklyBrake]
  exact ⟨{ hfull with }, by simp⟩

end RiskManager
end Engine
end Shamarx
