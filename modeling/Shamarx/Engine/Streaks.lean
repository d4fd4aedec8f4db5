import Shamarx.Engine.KeptLog
import Shamarx.Foundation.DayBook

/-!
# Streaks of a manager

A recorded trade moves the two streak counters by its exit reason first and by its profit
last, so a counter can outgrow the trades it is about.
-/

namespace Shamarx
namespace Engine

open Foundation

namespace RiskManager

structure Streaks where
  losses : Nat
  wins : Nat

def streaks (rm : RiskManager) : Streaks :=
  { losses := rm.consecutiveLosses, wins := rm.consecutiveWins }

def Streaks.next (s : Streaks) (pnl : ℚ) (reason : Option ExitReason) : Streaks :=
  if reason = some .breakeven then { s with losses := 0 }
  else if reason = some .tp then { losses := 0, wins := s.wins + 1 }
  else if pnl < 0 then { losses := s.losses + 1, wins := 0 }
  else s

theorem maybeResetDaily_streaks (rm : RiskManager) (date : Int) :
    (rm.maybeResetDaily date).streaks = rm.streaks := by
  unfold maybeResetDaily
  split
  · split_ifs <;> rfl
  · rfl

theorem maybeResetWeekly_streaks (rm : RiskManager) (date : Int) :
    (rm.maybeResetWeekly date).streaks = rm.streaks := by
  unfold maybeResetWeekly
  dsimp only
  split_ifs <;> rfl

theorem bookTrade_streaks (rm : RiskManager) (pnl : ℚ) (date : Int)
    (reason : Option ExitReason) : (rm.bookTrade pnl date reason).streaks = rm.streaks := by
  have hresets : ((rm.maybeResetDaily date).maybeResetWeekly date).streaks = rm.streaks := by
    rw [maybeResetWeekly_streaks, maybeResetDaily_streaks]
  rw [<- hresets]
  rfl

theorem recordStreak_streaks (rm : RiskManager) (pnl : ℚ) (reason : Option ExitReason) :
    (rm.recordStreak pnl reason).streaks = rm.streaks.next pnl reason := by
  unfold recordStreak Streaks.next
  split_ifs <;> rfl

theorem raisePeaks_streaks (rm : RiskManager) : rm.raisePeaks.streaks = rm.streaks := by
  unfold raisePeaks
  dsimp only
  split_ifs <;> rfl

theorem drawdownBrakes_streaks (rm : RiskManager) (day : Int) :
    (rm.drawdownBrakes day).streaks = rm.streaks := by
  unfold drawdownBrakes
  dsimp only
  split_ifs <;> rfl

theorem weeklyBrake_streaks (rm : RiskManager) (day : Int) :
    (rm.weeklyBrake day).streaks = rm.streaks := by
  unfold weeklyBrake
  split_ifs <;> rfl

theorem recordTrade_streaks (rm : RiskManager) (pnl : ℚ) (date : Int)
    (reason : Option ExitReason) :
    (rm.recordTrade pnl date reason).streaks = rm.streaks.next pnl reason := by
  rw [recordTrade_eq]
  change (((rm.raiseTrade pnl date reason).drawdownBrakes (dayOf date)).weeklyBrake
    (dayOf date)).streaks = _
  rw [weeklyBrake_streaks, drawdownBrakes_streaks, raiseTrade, raisePeaks_streaks,
    recordStreak_streaks, bookTrade_streaks]

/-!
# Streaks in the log
-/

/-- Trades recorded since the last one with a positive profit. -/
def tradesSinceGain (log : List TradeLogEntry) : Nat :=
  DayBook.trailingRun (fun t => decide (t.pnl ≤ 0)) log

/-- Trades recorded since the last one with a negative profit. -/
def tradesSinceLoss (log : List TradeLogEntry) : Nat :=
  DayBook.trailingRun (fun t => decide (0 ≤ t.pnl)) log

structure StreaksBounded (rm : RiskManager) : Prop where
  losses : rm.consecutiveLosses ≤ tradesSinceGain rm.tradeLog
  wins : rm.consecutiveWins ≤ tradesSinceLoss rm.tradeLog

theorem tradesSinceGain_snoc (log : List TradeLogEntry) (entry : TradeLogEntry) :
    tradesSinceGain (log ++ [entry]) =
      if entry.pnl ≤ 0 then tradesSinceGain log + 1 else 0 := by
  rw [tradesSinceGain, DayBook.trailingRun_append_singleton]
  simp only [decide_eq_true_eq]
  rfl

theorem tradesSinceLoss_snoc (log : List TradeLogEntry) (entry : TradeLogEntry) :
    tradesSinceLoss (log ++ [entry]) =
      if 0 ≤ entry.pnl then tradesSinceLoss log + 1 else 0 := by
  rw [tradesSinceLoss, DayBook.trailingRun_append_singleton]
  simp only [decide_eq_true_eq]
  rfl

theorem streaksBounded_create (config : EngineConfig) : StreaksBounded (create config) where
  losses := Nat.zero_le _
  wins := Nat.zero_le _

theorem streaksBounded_recordTrade {rm : RiskManager} (pnl : ℚ) (date : Int)
    (reason : Option ExitReason) :
    StreaksBounded (rm.recordTrade pnl date reason) ↔
      (rm.streaks.next pnl reason).losses ≤
          (if pnl ≤ 0 then tradesSinceGain rm.tradeLog + 1 else 0) ∧
        (rm.streaks.next pnl reason).wins ≤
          (if 0 ≤ pnl then tradesSinceLoss rm.tradeLog + 1 else 0) := by
  have hlosses : (rm.recordTrade pnl date reason).consecutiveLosses =
      (rm.streaks.next pnl reason).losses :=
    congrArg Streaks.losses (recordTrade_streaks rm pnl date reason)
  have hwins : (rm.recordTrade pnl date reason).consecutiveWins =
      (rm.streaks.next pnl reason).wins :=
    congrArg Streaks.wins (recordTrade_streaks rm pnl date reason)
  have hgain : tradesSinceGain (rm.recordTrade pnl date reason).tradeLog =
      if pnl ≤ 0 then tradesSinceGain rm.tradeLog + 1 else 0 := by
    rw [recordTrade_tradeLog, tradesSinceGain_snoc]
    rfl
  have hloss : tradesSinceLoss (rm.recordTrade pnl date reason).tradeLog =
      if 0 ≤ pnl then tradesSinceLoss rm.tradeLog + 1 else 0 := by
    rw [recordTrade_tradeLog, tradesSinceLoss_snoc]
    rfl
  rw [<- hlosses, <- hwins, <- hgain, <- hloss]
  exact ⟨fun h => ⟨h.losses, h.wins⟩, fun h => ⟨h.1, h.2⟩⟩

theorem streaksBounded_target_iff {rm : RiskManager} (h : StreaksBounded rm) (pnl : ℚ)
    (date : Int) : StreaksBounded (rm.recordTrade pnl date (some .tp)) ↔ 0 ≤ pnl := by
  rw [streaksBounded_recordTrade, Streaks.next, if_neg (by decide), if_pos rfl]
  dsimp only
  constructor
  · intro hbounds
    by_contra hneg
    have hwins := hbounds.2
    rw [if_neg hneg] at hwins
    exact absurd hwins (Nat.not_succ_le_zero _)
  · intro hnonneg
    rw [if_pos hnonneg]
    exact ⟨Nat.zero_le _, Nat.succ_le_succ h.wins⟩

theorem streaksBounded_other_iff {rm : RiskManager} (h : StreaksBounded rm) (pnl : ℚ)
    (date : Int) {reason : ExitReason} (hbreakeven : reason ≠ .breakeven) (htp : reason ≠ .tp) :
    StreaksBounded (rm.recordTrade pnl date (some reason)) ↔
      (0 < pnl -> rm.consecutiveLosses = 0) := by
  have hl := h.losses
  have hw := h.wins
  rw [streaksBounded_recordTrade, Streaks.next,
    if_neg fun hsome => hbreakeven (Option.some.inj hsome),
    if_neg fun hsome => htp (Option.some.inj hsome)]
  rcases lt_trichotomy pnl 0 with hneg | hzero | hpos
  · rw [if_pos hneg, if_pos (le_of_lt hneg)]
    exact iff_of_true ⟨Nat.succ_le_succ hl, Nat.zero_le _⟩
      fun hpos => absurd hpos (lt_asymm hneg)
  · rw [hzero, if_neg (lt_irrefl _), if_pos (le_refl _), if_pos (le_refl _)]
    exact iff_of_true ⟨Nat.le_succ_of_le hl, Nat.le_succ_of_le hw⟩
      fun hpos => absurd hpos (lt_irrefl _)
  · rw [if_neg (lt_asymm hpos), if_neg (not_le.mpr hpos), if_pos (le_of_lt hpos)]
    constructor
    · intro hbounds _
      exact Nat.le_zero.mp hbounds.1
    · intro hnone
      exact ⟨le_of_eq (hnone hpos), Nat.le_succ_of_le hw⟩

/-- A trade keeps the counters in bounds exactly if a gain that is no target finds no loss
counted, and no target is a loss. -/
theorem streaksBounded_recordTrade_iff {rm : RiskManager} (h : StreaksBounded rm) (pnl : ℚ)
    (date : Int) {reason : ExitReason} (hreason : reason ≠ .breakeven) :
    StreaksBounded (rm.recordTrade pnl date (some reason)) ↔
      (0 < pnl -> reason ≠ .tp -> rm.consecutiveLosses = 0) ∧ (pnl < 0 -> reason ≠ .tp) := by
  by_cases htp : reason = .tp
  · rw [htp, streaksBounded_target_iff h, <- not_lt]
    constructor
    · intro hnonneg
      exact ⟨fun _ hne => absurd rfl hne, fun hneg => absurd hneg hnonneg⟩
    · intro hboth hneg
      exact hboth.2 hneg rfl
  · rw [streaksBounded_other_iff h pnl date hreason htp]
    constructor
    · intro hnone
      exact ⟨fun hpos _ => hnone hpos, fun _ => htp⟩
    · intro hboth hpos
      exact hboth.1 hpos htp

end RiskManager
end Engine
end Shamarx
