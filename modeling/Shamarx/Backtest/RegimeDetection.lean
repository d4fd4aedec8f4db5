import Shamarx.Backtest.PerformanceTracker
import Shamarx.Engine.Sweep

/-!
# Market regimes

The regime of the last H1 bar with its hysteresis, the trade parameters of each regime,
the H1 bias and the session filter.  A value is none where the source has `NaN`, and a
comparison with `NaN` is false.
-/

namespace Shamarx
namespace Backtest

open Foundation
open Engine

/-- The missing H1 bar of the source's index -1 is none. -/
structure RegimeState where
  regime : DetailedRegime
  direction : D1Bias
  durationBars : Nat
  adx : ℚ
  adxSlope : ℚ
  diSeparation : ℚ
  atrRatio : ℚ
  emaStackAligned : Bool
  h1Idx : Option Nat

def RegimeState.unknown : RegimeState :=
  { regime := .ranging
    direction := .neutral
    durationBars := 0
    adx := 0
    adxSlope := 0
    diSeparation := 0
    atrRatio := 1
    emaStackAligned := false
    h1Idx := none }

/-!
# Readings of one H1 bar
-/

def emaBias : Option ℚ -> Option ℚ -> D1Bias
  | some ema20, some ema50 =>
      if ema50 < ema20 then .bullish else if ema20 < ema50 then .bearish else .neutral
  | _, _ => .neutral

def getH1Bias (h1Candles : List BacktestCandle) (h1Indicators : IndicatorState)
    (currentTime : Int) : D1Bias :=
  match d1IdxAt h1Candles currentTime with
  | none => .neutral
  | some idx => emaBias (valueAt h1Indicators.ema20 idx) (valueAt h1Indicators.ema50 idx)

structure H1Regime where
  bias : D1Bias
  h1Adx : ℚ

def getH1Regime (h1Candles : List BacktestCandle) (h1Indicators : IndicatorState)
    (currentTime : Int) : H1Regime :=
  { bias := getH1Bias h1Candles h1Indicators currentTime
    h1Adx := match d1IdxAt h1Candles currentTime with
      | none => 0
      | some idx => (valueAt h1Indicators.adx14 idx).getD 0 }

/-- The regime of the stability count; neutral stands for `RANGING`. -/
def getMarketRegimeSimple (h1Indicators : IndicatorState) (h1Idx : Nat) : D1Bias :=
  match valueAt h1Indicators.adx14 h1Idx, valueAt h1Indicators.plusDI14 h1Idx,
      valueAt h1Indicators.minusDI14 h1Idx with
  | some adx, some plusDI, some minusDI =>
      if adx < 20 then .neutral
      else if |plusDI - minusDI| < 3 then .neutral
      else if minusDI < plusDI then .bullish
      else .bearish
  | _, _, _ => .neutral

/-- How many of the last five bars in a row had the regime of the current one. -/
def getH1RegimeStabilityCount (h1Candles : List BacktestCandle) (h1Indicators : IndicatorState)
    (currentTime : Int) : Nat :=
  match d1IdxAt h1Candles currentTime with
  | none => 0
  | some idx =>
      ((List.range' 1 (min 5 idx)).takeWhile fun k =>
        decide (getMarketRegimeSimple h1Indicators (idx - k) =
          getMarketRegimeSimple h1Indicators idx)).length

def diSeparationAt (h1Indicators : IndicatorState) (idx : Nat) : ℚ :=
  match valueAt h1Indicators.plusDI14 idx, valueAt h1Indicators.minusDI14 idx with
  | some plusDI, some minusDI => |plusDI - minusDI|
  | _, _ => 0

def adxSlopeAt (h1Indicators : IndicatorState) (idx : Nat) : ℚ :=
  match (if 3 ≤ idx then valueAt h1Indicators.adx14 (idx - 3) else none),
      valueAt h1Indicators.adx14 idx with
  | some adxPrev, some adx => adx - adxPrev
  | _, _ => 0

def atrRatioAt (ind : IndicatorState) (idx : Nat) : ℚ :=
  match valueAt ind.atr14 idx, valueAt ind.atrBaseline idx with
  | some atr, some atrBaseline => if 0 < atrBaseline then atr / atrBaseline else 1
  | _, _ => 1

def emaStackAlignedAt (h1Indicators : IndicatorState) (idx : Nat) : Bool :=
  match valueAt h1Indicators.ema20 idx, valueAt h1Indicators.ema50 idx,
      valueAt h1Indicators.ema200 idx with
  | some ema20, some ema50, some ema200 =>
      decide (ema50 < ema20 ∧ ema200 < ema50 ∨ ema20 < ema50 ∧ ema50 < ema200)
  | _, _, _ => false

/-- The direction of the directional indices, neutral where the averages disagree. -/
def directionAt (h1Indicators : IndicatorState) (idx : Nat) : D1Bias :=
  let direction : D1Bias :=
    match valueAt h1Indicators.plusDI14 idx, valueAt h1Indicators.minusDI14 idx with
    | some plusDI, some minusDI =>
        if 3 ≤ |plusDI - minusDI| then if minusDI < plusDI then .bullish else .bearish
        else .neutral
    | _, _ => .neutral
  let bias := emaBias (valueAt h1Indicators.ema20 idx) (valueAt h1Indicators.ema50 idx)
  if direction ≠ .neutral ∧ bias ≠ .neutral ∧ bias ≠ direction then .neutral else direction

/-!
# The regime with its hysteresis
-/

def rawRegime (safeAdx diSep atrRatio : ℚ) : DetailedRegime :=
  if 18 / 10 ≤ atrRatio then .volatile
  else if 25 ≤ safeAdx ∧ 5 ≤ diSep then .strongTrend
  else if 15 ≤ safeAdx ∧ 3 ≤ diSep then .weakTrend
  else if safeAdx < 15 ∨ diSep < 3 then .ranging
  else .transitioning

def ShouldSwitch (prevRegime : DetailedRegime) (safeAdx diSep atrRatio : ℚ)
    (durationBars : Nat) : Prop :=
  match prevRegime with
  | .strongTrend => safeAdx < 23 ∨ diSep < 3 ∨ 18 / 10 ≤ atrRatio
  | .weakTrend => safeAdx < 13 ∨ diSep < 2 ∨ 25 ≤ safeAdx ∨ 18 / 10 ≤ atrRatio
  | .ranging => (15 ≤ safeAdx ∧ 3 ≤ diSep) ∨ 18 / 10 ≤ atrRatio
  | .volatile => atrRatio < 15 / 10
  | .transitioning => 2 ≤ durationBars

instance (prevRegime : DetailedRegime) (safeAdx diSep atrRatio : ℚ) (durationBars : Nat) :
    Decidable (ShouldSwitch prevRegime safeAdx diSep atrRatio durationBars) := by
  unfold ShouldSwitch
  split <;> infer_instance

/-- Regime and duration.  On the H1 bar of the state before, the raw regime is taken as
it is and the duration starts again. -/
def withHysteresis (prevState : Option RegimeState) (bestIdx : Nat)
    (safeAdx diSep atrRatio : ℚ) : DetailedRegime × Nat :=
  let raw := rawRegime safeAdx diSep atrRatio
  match prevState with
  | none => (raw, 1)
  | some prev =>
      if prev.h1Idx = some bestIdx then (raw, 1)
      else if prev.regime = raw then (raw, prev.durationBars + 1)
      else if ShouldSwitch prev.regime safeAdx diSep atrRatio (prev.durationBars + 1) then
        (raw, 1)
      else (prev.regime, prev.durationBars + 1)

def detectRegime (h1Candles : List BacktestCandle) (h1Indicators : IndicatorState)
    (currentTime : Int) (prevState : Option RegimeState) (tracker : PerformanceTracker) :
    RegimeState :=
  match d1IdxAt h1Candles currentTime with
  | none => .unknown
  | some idx =>
      let safeAdx := (valueAt h1Indicators.adx14 idx).getD 0
      let diSep := diSeparationAt h1Indicators idx
      let atrRatio := atrRatioAt h1Indicators idx
      let settled := withHysteresis prevState idx safeAdx diSep atrRatio
      -- a losing trend engine turns a weak trend into a range
      let final :=
        if settled.1 = .weakTrend ∧ tracker.getEngineConfidence (.of .trendPullback) < 30 then
          (.ranging, 1)
        else settled
      { regime := final.1
        direction := directionAt h1Indicators idx
        durationBars := final.2
        adx := safeAdx
        adxSlope := adxSlopeAt h1Indicators idx
        diSeparation := diSep
        atrRatio := atrRatio
        emaStackAligned := emaStackAlignedAt h1Indicators idx
        h1Idx := some idx }

/-!
# Trade parameters
-/

/-- The parameters of a regime: those of management and the two target multiples. -/
structure RegimeParams extends RegimeTradeParams where
  trendTpR : ℚ
  fvgTpR : ℚ

def getRegimeParams : DetailedRegime -> RegimeParams
  | .strongTrend =>
      { trendTpR := 25 / 10, fvgTpR := 15 / 10, beThresholdR := 1, tpRemovalR := 2,
        slClampMaxAtr := 3 }
  | .weakTrend =>
      { trendTpR := 15 / 10, fvgTpR := 1, beThresholdR := 8 / 10, tpRemovalR := 15 / 10,
        slClampMaxAtr := 25 / 10 }
  | .ranging =>
      { trendTpR := 1, fvgTpR := 1, beThresholdR := 6 / 10, tpRemovalR := 0,
        slClampMaxAtr := 2 }
  | .volatile =>
      { trendTpR := 1, fvgTpR := 8 / 10, beThresholdR := 5 / 10, tpRemovalR := 0,
        slClampMaxAtr := 15 / 10 }
  | .transitioning =>
      { trendTpR := 15 / 10, fvgTpR := 1, beThresholdR := 8 / 10, tpRemovalR := 15 / 10,
        slClampMaxAtr := 2 }

/-!
# Sessions
-/

inductive TradingCity where
  | london
  | newYork
  deriving DecidableEq

/-- `getLocalHour`: the time zone data of the runtime. -/
abbrev LocalHours := TradingCity -> Int -> Int

def isActiveTradingSession (getLocalHour : LocalHours) (openTime : Int) : Bool :=
  decide ((8 ≤ getLocalHour .london openTime ∧ getLocalHour .london openTime < 17) ∨
    (8 ≤ getLocalHour .newYork openTime ∧ getLocalHour .newYork openTime < 14))

end Backtest
end Shamarx
