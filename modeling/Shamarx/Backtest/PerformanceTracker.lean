import Shamarx.Backtest.PositionExit

/-!
# Performance tracker

The rolling windows of closed trades, one for each engine, and the trade counts of the
weeks, whose local-time calls are read in a UTC environment.  The windows over all engines
together are read by nothing in the backtest.
-/

namespace Shamarx
namespace Backtest

open Foundation
open Engine

structure TrackedTrade where
  rMultiple : ℚ
  won : Bool

/-- The engines that have a window.  No closed trade is booked under `BB_REVERSAL`. -/
inductive EngineWindow where
  | of (engineType : EngineType)
  | bbReversal
  deriving DecidableEq

abbrev WeekKey := Int × Int

structure PerformanceTracker where
  engineWindows : EngineWindow -> List TrackedTrade
  weeklyTradeCounts : WeekKey -> Nat

namespace PerformanceTracker

def engineWindowSize : Nat := 30
def minTradesForConfidence : Nat := 10

def create : PerformanceTracker :=
  { engineWindows := fun _ => []
    weeklyTradeCounts := fun _ => 0 }

/-- The Thursday of the week decides the year.  It keeps the time of day, which the
ceiling then counts. -/
def getISOWeekKey (t : Int) : WeekKey :=
  let day := if weekdayOf (dayOf t) = 0 then 7 else weekdayOf (dayOf t)
  let thursday := t + (4 - day) * msPerDay
  let year := yearOf (dayOf thursday)
  let sinceNewYear := thursday - dayStart (yearStart year)
  (year, -(-(sinceNewYear + msPerDay) / (7 * msPerDay)))

def recordTrade (tracker : PerformanceTracker) (trade : ClosedTrade) : PerformanceTracker :=
  let tracked : TrackedTrade :=
    { rMultiple := trade.rMultiple
      won := decide (0 < trade.pnl ∧ trade.exitReason ≠ .breakeven) }
  let window := tracker.engineWindows (.of trade.engineType) ++ [tracked]
  let weekKey := getISOWeekKey trade.exitTime
  { engineWindows := fun w =>
      if w = .of trade.engineType then window.drop (window.length - engineWindowSize)
      else tracker.engineWindows w
    weeklyTradeCounts := fun k =>
      if k = weekKey then tracker.weeklyTradeCounts weekKey + 1
      else tracker.weeklyTradeCounts k }

def winRate (trades : List TrackedTrade) : ℚ :=
  ((trades.filter TrackedTrade.won).length : ℚ) / trades.length * 100

def averageR (trades : List TrackedTrade) : ℚ :=
  if trades.length = 0 then 0 else (trades.map TrackedTrade.rMultiple).sum / trades.length

def expectancy (trades : List TrackedTrade) : ℚ :=
  let wins := trades.filter TrackedTrade.won
  let losses := trades.filter fun trade => !trade.won
  (averageR wins * wins.length - |averageR losses| * losses.length) / trades.length

def hotStreak (trades : List TrackedTrade) : Nat :=
  (trades.reverse.takeWhile TrackedTrade.won).length

/-- The score from 0 to 100, neutral until the window has enough trades. -/
def getEngineConfidence (tracker : PerformanceTracker) (w : EngineWindow) : ℚ :=
  let trades := tracker.engineWindows w
  if trades.length < minTradesForConfidence then 50
  else
    let wrScore := min 50 (winRate trades * (1 / 2))
    let expScore := min 30 (max 0 (expectancy trades * 30))
    let streakScore := min 20 ((hotStreak trades : ℚ) * 4)
    roundHalfUp (min 100 (max 0 (wrScore + expScore + streakScore)))

def getWeeklyTradeDeficit (tracker : PerformanceTracker) (currentTime : Int) : Nat :=
  3 - tracker.weeklyTradeCounts (getISOWeekKey currentTime)

end PerformanceTracker

end Backtest
end Shamarx
