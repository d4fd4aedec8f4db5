import Shamarx.Engine.HardKill
import Shamarx.Foundation.Weekdays

/-!
# Deadlines of a manager

The four pauses and the drawdown tier are what `canTrade` and `recordTrade` move in
time.  Each operation has one statement here of what it can do to them.
-/

namespace Shamarx
namespace Engine

open Foundation

namespace RiskManager

/-!
# Trading days are weekdays
-/

theorem addTradingDaysLoop_eq (d : Int) (n fuel : Nat) (hfuel : 3 * n ≤ fuel) :
    addTradingDaysLoop fuel d n = nthWeekday d n := by
  induction n generalizing d fuel with
  | zero =>
      cases fuel <;> rfl
  | succ n ih =>
      rcases Nat.exists_eq_add_of_le hfuel with ⟨spare, rfl⟩
      have hrounds : 3 * (n + 1) + spare = (3 * n + spare) + 1 + 1 + 1 := by omega
      have htwice : d + 1 + 1 = d + 2 := by omega
      have hthrice : d + 2 + 1 = d + 3 := by omega
      rw [hrounds, nthWeekday_succ, addTradingDaysLoop]
      unfold nextWeekday
      split_ifs with hone htwo
      · have hthree : ¬ IsWeekend (d + 3) := by
          unfold IsWeekend weekdayOf at *
          omega
        rw [addTradingDaysLoop, htwice, if_pos htwo, addTradingDaysLoop, hthrice, if_neg hthree]
        exact ih _ _ (by omega)
      · rw [addTradingDaysLoop, htwice, if_neg htwo]
        exact ih _ _ (by omega)
      · exact ih _ _ (by omega)

theorem addTradingDays_eq (d : Int) (n : Nat) : addTradingDays d n = nthWeekday d n :=
  addTradingDaysLoop_eq d n (3 * n) (le_refl _)

/-!
# The deadlines
-/

structure Deadlines where
  weekly : Option Int
  drawdown : Option Int
  rolling : Option Int
  streak : Option Int
  tier : Nat

def deadlines (rm : RiskManager) : Deadlines :=
  { weekly := rm.pauseUntilDate
    drawdown := rm.equityDdPauseUntil
    rolling := rm.rolling7DayPauseUntil
    streak := rm.consecutiveLossPauseUntil
    tier := rm.lastDdTierTriggered }

@[simp] theorem maybeResetDaily_deadlines (rm : RiskManager) (date : Int) :
    (rm.maybeResetDaily date).deadlines = rm.deadlines := by
  unfold maybeResetDaily
  split
  · split_ifs <;> rfl
  · rfl

@[simp] theorem maybeResetWeekly_deadlines (rm : RiskManager) (date : Int) :
    (rm.maybeResetWeekly date).deadlines = rm.deadlines := by
  unfold maybeResetWeekly
  dsimp only
  split_ifs <;> rfl

theorem resets_deadlines (rm : RiskManager) (date : Int) :
    ((rm.maybeResetDaily date).maybeResetWeekly date).deadlines = rm.deadlines := by
  rw [maybeResetWeekly_deadlines, maybeResetDaily_deadlines]

theorem Paused.mono {early late : Int} {pause : Option Int} (h : Paused late pause)
    (hle : early ≤ late) : Paused early pause := by
  cases pause with
  | none =>
      exact h
  | some pauseEnd =>
      exact lt_of_le_of_lt hle h

/-!
# The trade gate
-/

/-- What `canTrade` can do on a day: nothing, or drop a drawdown pause that is over, and
then start the rolling pause or replace the streak pause, each only when it is over. -/
inductive GateMove (day : Int) (d : Deadlines) : Deadlines -> Prop where
  | stayed : GateMove day d d
  | cleared (hdrawdown : ¬ Paused day d.drawdown) : GateMove day d { d with drawdown := none }
  | rolling (hdrawdown : ¬ Paused day d.drawdown) (hrolling : ¬ Paused day d.rolling) :
      GateMove day d
        { d with drawdown := none, rolling := some (addTradingDays day 5) }
  | streak (hdrawdown : ¬ Paused day d.drawdown) (hstreak : ¬ Paused day d.streak)
      (pause : Option Int) : GateMove day d { d with drawdown := none, streak := pause }

theorem GateMove.weekly {day : Int} {d d' : Deadlines} (h : GateMove day d d') :
    d'.weekly = d.weekly := by
  cases h <;> rfl

theorem canTradeLimits_deadlines (rm : RiskManager) (day : Int) (n : Nat) :
    exists pause,
      (rm.canTradeLimits day n).1.deadlines = { rm.deadlines with streak := pause } := by
  unfold canTradeLimits
  split_ifs
  · exact ⟨rm.consecutiveLossPauseUntil, rfl⟩
  · exact ⟨_, rfl⟩
  · exact ⟨rm.consecutiveLossPauseUntil, rfl⟩
  · exact ⟨rm.consecutiveLossPauseUntil, rfl⟩

theorem canTradeStreak_deadlines (rm : RiskManager) (day : Int) (n : Nat) :
    (rm.canTradeStreak day n).1.deadlines = rm.deadlines ∨
      ¬ Paused day rm.consecutiveLossPauseUntil ∧
        exists pause,
          (rm.canTradeStreak day n).1.deadlines = { rm.deadlines with streak := pause } := by
  unfold canTradeStreak
  split_ifs with hpaused
  · exact Or.inl rfl
  · exact Or.inr ⟨hpaused, canTradeLimits_deadlines
      { rm with consecutiveLossPauseUntil := none, awaitingPostPauseTrade := true } day n⟩
  · exact Or.inr ⟨hpaused, canTradeLimits_deadlines rm day n⟩

theorem canTradePauses_gateMove (rm : RiskManager) (day : Int) (n : Nat) :
    GateMove day rm.deadlines (rm.canTradePauses day n).1.deadlines := by
  unfold canTradePauses canTradeRolling
  split_ifs with hweekly hdrawdown hrolling hlosses
  · exact .stayed
  · exact .stayed
  · exact .cleared hdrawdown
  · exact .rolling hdrawdown hrolling
  · rcases canTradeStreak_deadlines { rm with equityDdPauseUntil := none } day n with
      hsame | ⟨hstreak, pause, hpause⟩
    · rw [hsame]
      exact .cleared hdrawdown
    · rw [hpause]
      exact .streak hdrawdown hstreak pause

theorem canTrade_gateMove (rm : RiskManager) (date : Int) (n : Nat) :
    GateMove (dayOf date) rm.deadlines (rm.canTrade date n).1.deadlines := by
  unfold canTrade
  split_ifs
  · exact .stayed
  · have hmove := canTradePauses_gateMove
      ((rm.maybeResetDaily date).maybeResetWeekly date) (dayOf date) n
    rw [resets_deadlines] at hmove
    exact hmove

/-!
# Recording a trade
-/

def tierPause (tier : Nat) : Nat :=
  if 35 ≤ tier then 30 else if 25 ≤ tier then 7 else if 15 ≤ tier then 3 else 0

theorem tierPause_mono : Monotone tierPause := by
  intro a b hab
  unfold tierPause
  split_ifs <;> omega

/-- What `recordTrade` can do on a day, from the tier that a new peak leaves: nothing to
the pauses of the gate, and on a higher tier its pause. -/
structure RecordMove (day : Int) (tier : Nat) (d d' : Deadlines) : Prop where
  rolling : d'.rolling = d.rolling
  streak : d'.streak = d.streak
  weekly : d'.weekly = d.weekly ∨ d'.weekly = some (addTradingDays day weeklyDdPauseDays)
  drawdown : (d'.tier = tier ∧ d'.drawdown = d.drawdown) ∨
    (tier < d'.tier ∧ d'.drawdown = some (addTradingDays day (tierPause d'.tier)))

@[simp] theorem recordStreak_deadlines (rm : RiskManager) (pnl : ℚ) (reason : Option ExitReason) :
    (rm.recordStreak pnl reason).deadlines = rm.deadlines := by
  unfold recordStreak
  split_ifs <;> rfl

theorem raisePeaks_deadlines (rm : RiskManager) :
    rm.raisePeaks.deadlines =
      { rm.deadlines with
        tier := if rm.overallPeakEquity < rm.equity then 0 else rm.lastDdTierTriggered } := by
  unfold raisePeaks
  dsimp only
  split_ifs <;> rfl

theorem drawdownBrakes_recordMove (rm : RiskManager) (day : Int) :
    RecordMove day rm.lastDdTierTriggered rm.deadlines (rm.drawdownBrakes day).deadlines := by
  unfold drawdownBrakes
  dsimp only
  generalize hkilled : (if hardKillDdPercent ≤ rm.getEquityDdPercent then
    { rm with hardKilled := true } else rm) = rm'
  have hsame : rm'.deadlines = rm.deadlines := by
    rw [<- hkilled]
    split_ifs <;> rfl
  have htier : rm'.lastDdTierTriggered = rm.lastDdTierTriggered := congrArg Deadlines.tier hsame
  rw [<- hsame, <- htier]
  split_ifs with h35 h25 h15
  · exact ⟨rfl, rfl, Or.inl rfl, Or.inr ⟨h35.2, rfl⟩⟩
  · exact ⟨rfl, rfl, Or.inl rfl, Or.inr ⟨h25.2, rfl⟩⟩
  · exact ⟨rfl, rfl, Or.inl rfl, Or.inr ⟨h15.2, rfl⟩⟩
  · exact ⟨rfl, rfl, Or.inl rfl, Or.inl ⟨rfl, rfl⟩⟩

theorem weeklyBrake_deadlines (rm : RiskManager) (day : Int) :
    (rm.weeklyBrake day).deadlines =
      { rm.deadlines with
        weekly :=
          if PercentAtLeast (rm.weeklyPeakEquity - rm.equity) rm.weeklyPeakEquity
              weeklyDdThreshold then
            some (addTradingDays day weeklyDdPauseDays)
          else rm.pauseUntilDate } := by
  unfold weeklyBrake
  split_ifs <;> rfl

@[simp] theorem bookTrade_deadlines (rm : RiskManager) (pnl : ℚ) (date : Int)
    (reason : Option ExitReason) : (rm.bookTrade pnl date reason).deadlines = rm.deadlines := by
  rw [<- resets_deadlines rm date]
  rfl

theorem raiseTrade_deadlines (rm : RiskManager) (pnl : ℚ) (date : Int)
    (reason : Option ExitReason) :
    (rm.raiseTrade pnl date reason).deadlines =
      { rm.deadlines with
        tier :=
          if rm.overallPeakEquity < rm.balance + pnl then 0 else rm.lastDdTierTriggered } := by
  have hkept : ((rm.bookTrade pnl date reason).recordStreak pnl reason).deadlines =
      rm.deadlines := by
    rw [recordStreak_deadlines, bookTrade_deadlines]
  have hbooked : ((rm.bookTrade pnl date reason).recordStreak pnl reason).ledger =
      rm.ledger.book (logEntry pnl date reason) := by
    rw [recordStreak_ledger, bookTrade_ledger]
  have hequity : ((rm.bookTrade pnl date reason).recordStreak pnl reason).equity =
      rm.balance + pnl := congrArg Ledger.equity hbooked
  have hpeak : ((rm.bookTrade pnl date reason).recordStreak pnl reason).overallPeakEquity =
      rm.overallPeakEquity := congrArg Ledger.overallPeakEquity hbooked
  have htier : ((rm.bookTrade pnl date reason).recordStreak pnl reason).lastDdTierTriggered =
      rm.lastDdTierTriggered := congrArg Deadlines.tier hkept
  rw [raiseTrade, raisePeaks_deadlines, hkept, hequity, hpeak, htier]

theorem recordTrade_recordMove (rm : RiskManager) (pnl : ℚ) (date : Int)
    (reason : Option ExitReason) :
    RecordMove (dayOf date)
      (if rm.overallPeakEquity < rm.balance + pnl then 0 else rm.lastDdTierTriggered)
      rm.deadlines (rm.recordTrade pnl date reason).deadlines := by
  have hraised := raiseTrade_deadlines rm pnl date reason
  have htier := congrArg Deadlines.tier hraised
  have hmove := drawdownBrakes_recordMove (rm.raiseTrade pnl date reason) (dayOf date)
  rw [show (rm.raiseTrade pnl date reason).lastDdTierTriggered = _ from htier, hraised] at hmove
  have hweekly := weeklyBrake_deadlines
    ((rm.raiseTrade pnl date reason).drawdownBrakes (dayOf date)) (dayOf date)
  change RecordMove _ _ _
    (((rm.raiseTrade pnl date reason).drawdownBrakes (dayOf date)).weeklyBrake
      (dayOf date)).deadlines
  rw [hweekly]
  refine ⟨hmove.rolling, hmove.streak, ?_, hmove.drawdown⟩
  dsimp only
  split_ifs
  · exact Or.inr rfl
  · exact hmove.weekly

end RiskManager
end Engine
end Shamarx
