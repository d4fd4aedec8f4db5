import Shamarx.Backtest.PositionExit
import Shamarx.Foundation.Records

/-!
# Backtest metrics

The report on the closed trades of a run.  The loop over the balance keeps the greatest
fall from the peak, and the percentage it was at that point.
-/

namespace Shamarx
namespace Backtest

open Foundation
open Engine

/-- An infinite profit factor is none. -/
structure BacktestMetrics where
  totalTrades : Nat
  winCount : Nat
  lossCount : Nat
  breakevenCount : Nat
  winRate : ℚ
  totalPnl : ℚ
  profitFactor : Option ℚ
  maxDrawdown : ℚ
  maxDrawdownPercent : ℚ
  avgWin : ℚ
  avgLoss : ℚ
  avgRR : ℚ
  largestWin : ℚ
  largestLoss : ℚ
  maxConsecutiveWins : Nat
  maxConsecutiveLosses : Nat
  totalCommission : ℚ
  finalBalance : ℚ
  returnPercent : ℚ
  deriving DecidableEq

/-!
# Drawdown
-/

structure DrawdownState where
  peak : ℚ
  maxDD : ℚ
  maxDDPercent : ℚ
  runningBalance : ℚ

def DrawdownState.start (initialBalance : ℚ) : DrawdownState :=
  { peak := initialBalance, maxDD := 0, maxDDPercent := 0, runningBalance := initialBalance }

def drawdownStep (s : DrawdownState) (trade : ClosedTrade) : DrawdownState :=
  let runningBalance := s.runningBalance + trade.pnl
  let peak := if s.peak < runningBalance then runningBalance else s.peak
  let dd := peak - runningBalance
  if s.maxDD < dd then
    { peak := peak, maxDD := dd, maxDDPercent := dd / peak * 100
      runningBalance := runningBalance }
  else { s with peak := peak, runningBalance := runningBalance }

def drawdownOf (trades : List ClosedTrade) (initialBalance : ℚ) : DrawdownState :=
  trades.foldl drawdownStep (.start initialBalance)

/-!
# Streaks
-/

structure StreakState where
  maxConsWins : Nat
  maxConsLosses : Nat
  curConsWins : Nat
  curConsLosses : Nat

/-- The body of the streak loop: a trade closed at break-even is skipped. -/
def streakStep (s : StreakState) (trade : ClosedTrade) : StreakState :=
  if trade.exitReason = .breakeven then s
  else if 0 < trade.pnl then
    { s with
      curConsWins := s.curConsWins + 1
      curConsLosses := 0
      maxConsWins := max s.maxConsWins (s.curConsWins + 1) }
  else
    { s with
      curConsLosses := s.curConsLosses + 1
      curConsWins := 0
      maxConsLosses := max s.maxConsLosses (s.curConsLosses + 1) }

def streaksOf (trades : List ClosedTrade) : StreakState :=
  trades.foldl streakStep
    { maxConsWins := 0, maxConsLosses := 0, curConsWins := 0, curConsLosses := 0 }

/-!
# The report
-/

def pnlSum (trades : List ClosedTrade) : ℚ :=
  (trades.map ClosedTrade.pnl).sum

def emptyMetrics (initialBalance : ℚ) : BacktestMetrics :=
  { totalTrades := 0, winCount := 0, lossCount := 0, breakevenCount := 0, winRate := 0
    totalPnl := 0, profitFactor := some 0, maxDrawdown := 0, maxDrawdownPercent := 0
    avgWin := 0, avgLoss := 0, avgRR := 0, largestWin := 0, largestLoss := 0
    maxConsecutiveWins := 0, maxConsecutiveLosses := 0, totalCommission := 0
    finalBalance := initialBalance, returnPercent := 0 }

/-- A quotient over no wins is 0 in `avgRR`, as the `NaN` of the source is. -/
def calculateMetrics (trades : List ClosedTrade) (initialBalance : ℚ) : BacktestMetrics :=
  if trades = [] then emptyMetrics initialBalance
  else
    let wins := trades.filter fun t => decide (0 < t.pnl)
    let losses := trades.filter fun t => decide (t.pnl ≤ 0)
    let totalPnl := pnlSum trades
    let grossProfit := pnlSum wins
    let grossLoss := |pnlSum losses|
    let drawdown := drawdownOf trades initialBalance
    let streaks := streaksOf trades
    let finalBalance := initialBalance + totalPnl
    { totalTrades := trades.length
      winCount := wins.length
      lossCount := losses.length
      breakevenCount := (trades.filter fun t => decide (t.exitReason = .breakeven)).length
      winRate := roundTo 100 (wins.length / trades.length * 100)
      totalPnl := roundTo 100 totalPnl
      profitFactor :=
        if 0 < grossLoss then some (roundTo 100 (grossProfit / grossLoss))
        else if 0 < grossProfit then none
        else some 0
      maxDrawdown := roundTo 100 drawdown.maxDD
      maxDrawdownPercent := roundTo 100 drawdown.maxDDPercent
      avgWin := if 0 < wins.length then roundTo 100 (grossProfit / wins.length) else 0
      avgLoss := if 0 < losses.length then roundTo 100 (grossLoss / losses.length) else 0
      avgRR :=
        if 0 < losses.length ∧ 0 < grossLoss then
          roundTo 100 (grossProfit / wins.length / (grossLoss / losses.length))
        else 0
      largestWin := roundTo 100 ((wins.map ClosedTrade.pnl).max?.getD 0)
      largestLoss := roundTo 100 ((losses.map ClosedTrade.pnl).min?.getD 0)
      maxConsecutiveWins := streaks.maxConsWins
      maxConsecutiveLosses := streaks.maxConsLosses
      totalCommission := roundTo 100 (trades.map ClosedTrade.commission).sum
      finalBalance := roundTo 100 finalBalance
      returnPercent := roundTo 100 ((finalBalance - initialBalance) / initialBalance * 100) }

/-!
# What the drawdown figures stand for
-/

section Drawdown

variable {initialBalance : ℚ} {trades p : List ClosedTrade} {s : DrawdownState}

def balanceAfter (initialBalance : ℚ) (trades : List ClosedTrade) : ℚ :=
  initialBalance + pnlSum trades

def drawdownAfter (initialBalance : ℚ) (trades : List ClosedTrade) : ℚ :=
  peak (balanceAfter initialBalance) trades - balanceAfter initialBalance trades

def drawdownPercentAfter (initialBalance : ℚ) (trades : List ClosedTrade) : ℚ :=
  drawdownAfter initialBalance trades / peak (balanceAfter initialBalance) trades * 100

/-- The loop has seen the trades, and holds the first of their deepest falls. -/
structure Tracks (initialBalance : ℚ) (trades : List ClosedTrade) (s : DrawdownState) :
    Prop where
  running : s.runningBalance = balanceAfter initialBalance trades
  top : s.peak = peak (balanceAfter initialBalance) trades
  record : exists p, FirstRecord (drawdownAfter initialBalance) trades p ∧
    s.maxDD = drawdownAfter initialBalance p ∧
    s.maxDDPercent = drawdownPercentAfter initialBalance p

theorem balanceAfter_concat (initialBalance : ℚ) (trades : List ClosedTrade)
    (trade : ClosedTrade) :
    balanceAfter initialBalance (trades ++ [trade]) =
      balanceAfter initialBalance trades + trade.pnl := by
  simp [balanceAfter, pnlSum, add_assoc]

theorem drawdownAfter_nil (initialBalance : ℚ) : drawdownAfter initialBalance [] = 0 := by
  unfold drawdownAfter
  rw [peak_nil, sub_self]

theorem tracks_start (initialBalance : ℚ) : Tracks initialBalance [] (.start initialBalance) where
  running := by
    simp [DrawdownState.start, balanceAfter, pnlSum]
  top := by
    simp [DrawdownState.start, balanceAfter, pnlSum]
  record := by
    refine ⟨[], firstRecord_nil _, (drawdownAfter_nil initialBalance).symm, ?_⟩
    unfold drawdownPercentAfter
    rw [drawdownAfter_nil, zero_div, zero_mul]
    rfl

theorem Tracks.step (h : Tracks initialBalance trades s) (trade : ClosedTrade) :
    Tracks initialBalance (trades ++ [trade]) (drawdownStep s trade) := by
  have hrunning : s.runningBalance + trade.pnl =
      balanceAfter initialBalance (trades ++ [trade]) := by
    rw [h.running, balanceAfter_concat]
  have hpeak : (if s.peak < s.runningBalance + trade.pnl then s.runningBalance + trade.pnl
      else s.peak) = peak (balanceAfter initialBalance) (trades ++ [trade]) := by
    rw [hrunning, h.top, peak_concat, max_def_lt]
  rcases h.record with ⟨p, hp, hdd, hpercent⟩
  have hfall : peak (balanceAfter initialBalance) (trades ++ [trade]) -
      balanceAfter initialBalance (trades ++ [trade]) =
        drawdownAfter initialBalance (trades ++ [trade]) := rfl
  unfold drawdownStep
  dsimp only
  rw [hpeak, hrunning, hfall]
  by_cases hdeeper : s.maxDD < drawdownAfter initialBalance (trades ++ [trade])
  · rw [if_pos hdeeper]
    rw [hdd] at hdeeper
    exact
      { running := rfl
        top := rfl
        record := ⟨trades ++ [trade], hp.replace hdeeper, rfl, rfl⟩ }
  · rw [if_neg hdeeper]
    rw [hdd] at hdeeper
    exact
      { running := rfl
        top := rfl
        record := ⟨p, hp.keep (not_lt.mp hdeeper), hdd, hpercent⟩ }

theorem tracks_drawdownOf (initialBalance : ℚ) (trades : List ClosedTrade) :
    Tracks initialBalance trades (drawdownOf trades initialBalance) := by
  induction trades using List.reverseRecOn with
  | nil =>
      exact tracks_start initialBalance
  | append_singleton trades trade ih =>
      unfold drawdownOf
      rw [List.foldl_append]
      exact ih.step trade

theorem reported_drawdown (trades : List ClosedTrade) (initialBalance : ℚ) :
    exists p, FirstRecord (drawdownAfter initialBalance) trades p ∧
      (calculateMetrics trades initialBalance).maxDrawdown =
        roundTo 100 (drawdownAfter initialBalance p) ∧
      (calculateMetrics trades initialBalance).maxDrawdownPercent =
        roundTo 100 (drawdownPercentAfter initialBalance p) := by
  rcases (tracks_drawdownOf initialBalance trades).record with ⟨p, hp, hdd, hpercent⟩
  refine ⟨p, hp, ?_⟩
  rw [<- hdd, <- hpercent]
  unfold calculateMetrics
  split_ifs with hnone
  · have hzero : roundTo 100 0 = 0 := by
      decide +kernel
    rw [hnone]
    exact ⟨hzero.symm, hzero.symm⟩
  · exact ⟨rfl, rfl⟩

/-- The first of the deepest falls is also the greatest in percent, to two decimals. -/
def DeepestIsSteepest (initialBalance : ℚ) (trades : List ClosedTrade) : Prop :=
  forall p, FirstRecord (drawdownAfter initialBalance) trades p ->
    forall q, q <+: trades ->
      roundTo 100 (drawdownPercentAfter initialBalance q) ≤
        roundTo 100 (drawdownPercentAfter initialBalance p)

def ReportsMaxima (initialBalance : ℚ) (trades : List ClosedTrade) : Prop :=
  (calculateMetrics trades initialBalance).maxDrawdownPercent =
      roundTo 100 (peak (drawdownPercentAfter initialBalance) trades) ∧
    (calculateMetrics trades initialBalance).maxDrawdown =
      roundTo 100 (peak (drawdownAfter initialBalance) trades)

/-- The report gives both maxima if and only if one point has both. -/
theorem reportsMaxima_iff (initialBalance : ℚ) (trades : List ClosedTrade) :
    ReportsMaxima initialBalance trades <-> DeepestIsSteepest initialBalance trades := by
  have hmono : Monotone (roundTo 100) := roundTo_mono (by norm_num)
  rcases reported_drawdown trades initialBalance with ⟨p, hp, hdd, hpercent⟩
  unfold ReportsMaxima
  rw [hdd, hpercent, hp.greatest, and_iff_left rfl]
  constructor
  · intro h p' hp' q hq
    rw [hp'.unique hp, h]
    exact hmono (le_peak hq)
  · intro h
    rcases (isGreatest_peak (drawdownPercentAfter initialBalance) trades).1 with ⟨q, hq, hmax⟩
    apply le_antisymm
    · exact hmono (le_peak hp.within)
    · rw [<- hmax]
      exact h p hp q hq

/-!
# An early loss of half
-/

def tradeOf (pnl : ℚ) : ClosedTrade :=
  { side := .buy, entryPrice := 100, exitPrice := 100 + pnl, slPrice := 50, tpPrice := none
    lotSize := 1, pnl := pnl, commission := 0, setupTags := [], entryTime := 0, exitTime := 0
    exitReason := if 0 < pnl then .tp else .sl, h1Bias := .bullish, rsiAtEntry := none
    atrAtEntry := 1, rMultiple := pnl / 50, regimeAtEntry := .ranging
    engineType := .trendPullback }

/-- Half of 100 is lost, and later 100 of 1000: the report has the 10 percent. -/
theorem not_reportsMaxima_early_loss :
    ¬ ReportsMaxima 100 [tradeOf (-50), tradeOf 950, tradeOf (-100)] := by
  intro h
  have hreported :
      (calculateMetrics [tradeOf (-50), tradeOf 950, tradeOf (-100)] 100).maxDrawdownPercent =
        10 := by
    decide +kernel
  have hgreatest : roundTo 100 (peak (drawdownPercentAfter 100)
      [tradeOf (-50), tradeOf 950, tradeOf (-100)]) = 50 := by
    decide +kernel
  rw [ReportsMaxima, hreported, hgreatest] at h
  exact absurd h.1 (by norm_num)

end Drawdown

end Backtest
end Shamarx
