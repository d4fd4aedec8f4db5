import Shamarx.Backtest.PositionExit
import Shamarx.Replay.FillModel

/-!
# Exits of the replay and of the backtest

Both engines check a managed position against the stop and the target.  On a bar that
reaches both, the replay stops out; the backtest does so until break-even and takes the
target from then on.
-/

namespace Shamarx
namespace Replay

open Foundation
open Engine

/-- The two engines hold the same position, in lots that are finite. -/
structure SamePosition (p : SimulatedPosition) (q : Backtest.SimulatedPosition) : Prop where
  managed : q.toManagedPosition = p.toManagedPosition
  lotSize : p.lotSize = .finite q.lotSize

def exitDecision (candle : BacktestCandle) (p : SimulatedPosition) : Option (ℚ × Number) :=
  (SimulatedBroker.closesOn candle p).map fun c => (c.closePrice, c.pnl)

def backtestDecision (symbol : Instrument) (candle : BacktestCandle)
    (q : Backtest.SimulatedPosition) : Option (ℚ × Number) :=
  (Backtest.checkPositionExit symbol q candle 0 0).map fun t => (t.exitPrice, .finite t.pnl)

theorem processCandle_decisions (setup : BrokerSetup) (b : SimulatedBroker)
    (symbol : Instrument) (candle : BacktestCandle) :
    (SimulatedBroker.processCandle setup b symbol candle).2.map
        (fun c => (c.closePrice, c.pnl)) =
      (SimulatedBroker.judged setup b symbol candle).filterMap fun p =>
        exitDecision candle (SimulatedBroker.managedOn symbol candle p) := by
  rw [SimulatedBroker.processCandle_exits, List.map_filterMap]
  rfl

/-- Past break-even the bar reaches the stop and a target at another price. -/
def AmbiguousPastBreakeven (candle : BacktestCandle) (p : SimulatedPosition) : Prop :=
  p.breakevenActivated = true ∧ SimulatedBroker.SlHit candle p ∧
    exists tp, SimulatedBroker.tpHit candle p = some tp ∧ tp ≠ p.slPrice

section Parity

variable {candle : BacktestCandle} {p : SimulatedPosition} {q : Backtest.SimulatedPosition}

theorem SamePosition.slHit_iff (h : SamePosition p q) :
    Backtest.SlHit q candle 0 <-> SimulatedBroker.SlHit candle p := by
  have hside : q.side = p.side := congrArg ManagedPosition.side h.managed
  have hstop : q.slPrice = p.slPrice := congrArg ManagedPosition.slPrice h.managed
  cases hp : p.side <;>
    simp only [Backtest.SlHit, SimulatedBroker.SlHit, hside, hstop, hp, sub_zero, add_zero]

theorem SamePosition.tpHit_eq (h : SamePosition p q) (hlater : p.entryTime < candle.openTime) :
    Backtest.tpHit q candle 0 = SimulatedBroker.tpHit candle p := by
  have hside : q.side = p.side := congrArg ManagedPosition.side h.managed
  have htarget : q.tpPrice = p.tpPrice := congrArg ManagedPosition.tpPrice h.managed
  have hbar : p.entryTime ≠ candle.openTime := ne_of_lt hlater
  cases hp : p.side <;>
    simp only [Backtest.tpHit, SimulatedBroker.tpHit, if_neg hbar, hside, htarget, hp, sub_zero,
      add_zero]

theorem SamePosition.calculatePnl_eq (h : SamePosition p q) (price : ℚ) :
    .finite (Backtest.calculatePnl p.symbol q.side q.entryPrice price q.lotSize 0) =
      SimulatedBroker.calcPnl p price := by
  have hside : q.side = p.side := congrArg ManagedPosition.side h.managed
  have hentry : q.entryPrice = p.entryPrice := congrArg ManagedPosition.entryPrice h.managed
  have hraw : forall direction : ℚ,
      q.lotSize * ((price - p.entryPrice) * direction) * (getInstrumentConfig p.symbol).lotSizeUnits =
        (price - p.entryPrice) * direction * q.lotSize *
          (getInstrumentConfig p.symbol).lotSizeUnits := by
    intro direction
    rw [mul_comm q.lotSize]
  cases hp : p.side <;>
    by_cases hyen : p.symbol.isJpyPair = true <;>
      simp only [Backtest.calculatePnl, SimulatedBroker.calcPnl, hside, hentry, h.lotSize, hp,
        hyen, if_true, if_false, sub_zero, Number.finite_mul, Number.finite_div,
        Number.finite_roundTo, hraw, Bool.false_eq_true]

theorem SamePosition.backtestDecision_eq (h : SamePosition p q)
    (hlater : p.entryTime < candle.openTime) :
    backtestDecision p.symbol candle q =
      (match SimulatedBroker.tpHit candle p with
      | some tp =>
          if SimulatedBroker.SlHit candle p ∧ p.breakevenActivated = false then some p.slPrice
          else some tp
      | none => if SimulatedBroker.SlHit candle p then some p.slPrice else none).map
        fun price => (price, SimulatedBroker.calcPnl p price) := by
  have hstop : q.slPrice = p.slPrice := congrArg ManagedPosition.slPrice h.managed
  have hbe : q.breakevenActivated = p.breakevenActivated :=
    congrArg ManagedPosition.breakevenActivated h.managed
  have hpnl := h.calculatePnl_eq
  unfold backtestDecision Backtest.checkPositionExit Backtest.exitOf
  rw [zero_div, h.tpHit_eq hlater, hstop, hbe]
  simp only [h.slHit_iff]
  cases SimulatedBroker.tpHit candle p with
  | none =>
      dsimp only
      split_ifs <;> simp [Backtest.closeAt, hpnl]
  | some tp =>
      dsimp only
      split_ifs <;> simp [Backtest.closeAt, hpnl]

theorem exitDecision_eq (candle : BacktestCandle) (p : SimulatedPosition) :
    exitDecision candle p =
      (if SimulatedBroker.SlHit candle p then some p.slPrice
      else SimulatedBroker.tpHit candle p).map
        fun price => (price, SimulatedBroker.calcPnl p price) := by
  unfold exitDecision SimulatedBroker.closesOn
  split_ifs
  · rfl
  · rw [Option.map_map]
    rfl

end Parity

/-- On a bar after the one of the fill both engines decide alike exactly if the bar is not
ambiguous past break-even. -/
theorem exits_agree_iff (candle : BacktestCandle) (p : SimulatedPosition)
    (q : Backtest.SimulatedPosition) (hsame : SamePosition p q)
    (hlater : p.entryTime < candle.openTime) :
    exitDecision candle p = backtestDecision p.symbol candle q <->
      ¬ AmbiguousPastBreakeven candle p := by
  rw [hsame.backtestDecision_eq hlater, exitDecision_eq]
  unfold AmbiguousPastBreakeven
  by_cases hstop : SimulatedBroker.SlHit candle p
  · cases htp : SimulatedBroker.tpHit candle p with
    | none =>
        simp [hstop]
    | some tp =>
        cases hbe : p.breakevenActivated with
        | false =>
            simp [hstop]
        | true =>
            dsimp only
            rw [if_pos hstop, if_neg (fun h => Bool.false_ne_true h.2.symm)]
            constructor
            · intro hagree hambiguous
              rcases hambiguous with ⟨-, -, tp', htp', hne⟩
              cases htp'
              have hprice := congrArg (Option.map Prod.fst) hagree
              exact hne (Option.some.inj hprice).symm
            · intro hclear
              have hprice : tp = p.slPrice := by
                by_contra hne
                exact hclear ⟨rfl, hstop, tp, rfl, hne⟩
              rw [hprice]
  · cases htp : SimulatedBroker.tpHit candle p with
    | none =>
        simp [hstop]
    | some tp =>
        simp [hstop]

/-- A gold buy past break-even, its stop a dollar above the entry. -/
def goldBuyProtected : SimulatedPosition :=
  { SimulatedBroker.goldBuy with
    slPrice := 2001
    breakevenActivated := true
    peakFavorablePrice := 2015 }

def goldBuyInBacktest : Backtest.SimulatedPosition :=
  { toManagedPosition := goldBuyProtected.toManagedPosition
    lotSize := 1 / 100
    entryTime := goldBuyProtected.entryTime
    entryIndex := 0
    setupTags := goldBuyProtected.setupTags
    h1Bias := .bullish
    rsiAtEntry := some 50
    atrAtEntry := 0
    regimeAtEntry := .weakTrend }

/-- On a bar that reaches the target only, both take it. -/
theorem goldBuy_exits_agree :
    exitDecision (SimulatedBroker.laterBar 2045 2010) goldBuyProtected =
      backtestDecision .XAUUSD (SimulatedBroker.laterBar 2045 2010) goldBuyInBacktest := by
  apply (exits_agree_iff (SimulatedBroker.laterBar 2045 2010) goldBuyProtected goldBuyInBacktest
    ⟨rfl, by decide +kernel⟩ (by decide +kernel)).mpr
  intro hambiguous
  exact absurd hambiguous.2.1 (by decide +kernel)

/-- On a bar that reaches both, the replay stops out and the backtest takes the target. -/
theorem goldBuy_exits_differ :
    SamePosition goldBuyProtected goldBuyInBacktest ∧
      goldBuyProtected.entryTime < (SimulatedBroker.laterBar 2045 2000).openTime ∧
      exitDecision (SimulatedBroker.laterBar 2045 2000) goldBuyProtected ≠
        backtestDecision .XAUUSD (SimulatedBroker.laterBar 2045 2000) goldBuyInBacktest := by
  exact ⟨⟨rfl, by decide +kernel⟩, by decide +kernel, by decide +kernel⟩

end Replay
end Shamarx
