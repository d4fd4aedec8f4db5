import Shamarx.Engine.PositionSimulator
import Shamarx.Engine.RiskManager
import Shamarx.Orchestrator.Evaluate

/-!
# Exits of backtest positions

A candle closes a position at its stop or its target, half the spread against it, and
the end of the data closes what is left.
-/

namespace Shamarx
namespace Backtest

open Foundation
open Engine
open Orchestrator (SetupTag)

/-- The bias label of a position is the one of its side. -/
structure SimulatedPosition extends ManagedPosition where
  lotSize : ℚ
  entryTime : Int
  entryIndex : Nat
  setupTags : List SetupTag
  h1Bias : D1Bias
  rsiAtEntry : Option ℚ
  atrAtEntry : ℚ
  regimeAtEntry : DetailedRegime
  deriving DecidableEq

inductive EngineType where
  | trendPullback
  | rangeEngine
  | fvgFill
  deriving DecidableEq, Repr

structure ClosedTrade where
  side : Side
  entryPrice : ℚ
  exitPrice : ℚ
  slPrice : ℚ
  tpPrice : Option ℚ
  lotSize : ℚ
  pnl : ℚ
  commission : ℚ
  setupTags : List SetupTag
  entryTime : Int
  exitTime : Int
  exitReason : ExitReason
  h1Bias : D1Bias
  rsiAtEntry : Option ℚ
  atrAtEntry : ℚ
  rMultiple : ℚ
  regimeAtEntry : DetailedRegime
  engineType : EngineType
  deriving DecidableEq

def calculatePnl (symbol : Instrument) (side : Side) (entryPrice exitPrice lotSize commission : ℚ) :
    ℚ :=
  let direction : ℚ := match side with
    | .buy => 1
    | .sell => -1
  let rawPnl := (exitPrice - entryPrice) * direction * lotSize *
    (getInstrumentConfig symbol).lotSizeUnits
  let rawPnl := if symbol.isJpyPair then rawPnl / exitPrice else rawPnl
  roundTo 100 (rawPnl - commission)

def rMultipleOf (symbol : Instrument) (p : SimulatedPosition) (pnl commission : ℚ) : ℚ :=
  let perLot := |p.entryPrice - p.originalSlPrice| * (getInstrumentConfig symbol).lotSizeUnits
  let usdRiskPerLot :=
    if symbol.isJpyPair = true ∧ 0 < p.entryPrice then perLot / p.entryPrice else perLot
  roundTo 100
    (if 0 < usdRiskPerLot then (pnl + commission) / (usdRiskPerLot * p.lotSize) else 0)

def engineTypeOf (p : SimulatedPosition) : EngineType :=
  if p.rangeEngine then .rangeEngine
  else if p.fvgFill then .fvgFill
  else .trendPullback

def closeAt (symbol : Instrument) (p : SimulatedPosition) (exitPrice commission : ℚ)
    (exitTime : Int) (exitReason : ExitReason) : ClosedTrade :=
  let pnl := calculatePnl symbol p.side p.entryPrice exitPrice p.lotSize commission
  { side := p.side
    entryPrice := p.entryPrice
    exitPrice := exitPrice
    slPrice := p.slPrice
    tpPrice := p.tpPrice
    lotSize := p.lotSize
    pnl := pnl
    commission := commission
    setupTags := p.setupTags
    entryTime := p.entryTime
    exitTime := exitTime
    exitReason := exitReason
    h1Bias := p.h1Bias
    rsiAtEntry := p.rsiAtEntry
    atrAtEntry := p.atrAtEntry
    rMultiple := rMultipleOf symbol p pnl commission
    regimeAtEntry := p.regimeAtEntry
    engineType := engineTypeOf p }

def SlHit (p : SimulatedPosition) (candle : BacktestCandle) (halfSpread : ℚ) : Prop :=
  match p.side with
  | .buy => candle.low - halfSpread ≤ p.slPrice
  | .sell => p.slPrice ≤ candle.high + halfSpread

instance (p : SimulatedPosition) (candle : BacktestCandle) (halfSpread : ℚ) :
    Decidable (SlHit p candle halfSpread) := by
  unfold SlHit
  split <;> infer_instance

def tpHit (p : SimulatedPosition) (candle : BacktestCandle) (halfSpread : ℚ) : Option ℚ :=
  p.tpPrice.filter fun tp =>
    match p.side with
    | .buy => decide (tp ≤ candle.high - halfSpread)
    | .sell => decide (candle.low + halfSpread ≤ tp)

/-- Price and reason of the exit: on a candle that reaches both, the stop counts until
break-even and the target from then on. -/
def exitOf (p : SimulatedPosition) (candle : BacktestCandle) (halfSpread : ℚ) :
    Option (ℚ × ExitReason) :=
  match tpHit p candle halfSpread with
  | some tp =>
      if SlHit p candle halfSpread ∧ p.breakevenActivated = false then some (p.slPrice, .sl)
      else some (tp, .tp)
  | none =>
      if SlHit p candle halfSpread then
        some (p.slPrice, if p.breakevenActivated then .breakeven else .sl)
      else none

def checkPositionExit (symbol : Instrument) (p : SimulatedPosition) (candle : BacktestCandle)
    (spread commission : ℚ) : Option ClosedTrade :=
  (exitOf p candle (spread / 2)).map fun (exitPrice, exitReason) =>
    closeAt symbol p exitPrice commission candle.openTime exitReason

def forceClosePosition (symbol : Instrument) (p : SimulatedPosition) (closePrice : ℚ)
    (closeTime : Int) (commission : ℚ) : ClosedTrade :=
  closeAt symbol p closePrice commission closeTime .forcedClose

end Backtest
end Shamarx
