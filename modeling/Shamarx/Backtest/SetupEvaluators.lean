import Shamarx.Backtest.RegimeDetection

/-!
# Setup evaluators

The trend pullback, the range reversion, and the quality score of a setup that comes
without one.  Each reads one M15 bar of the whole arrays and returns at most one setup.
-/

namespace Shamarx
namespace Backtest

open Foundation
open Engine

inductive EngineTag where
  | pullbackEma20
  | pullbackEma50
  | v60
  | regime (regime : DetailedRegime)
  | engulfing
  | strongClose
  | pinBar
  | adxBull
  | adxBear
  | fvgFill
  | rangeEngine
  | meanReversion
  | rsiOversold
  | rsiOverbought
  | bbReversal
  | longBB
  | shortBB
  | rsi (value : Int)
  | h1Agree
  | emaCross
  | buyRetest
  | sellRetest
  | momentumCont
  | buyMom
  | sellMom
  | counterD1
  | withD1
  | quality (score : ℚ)
  | mode (tradingMode : RiskManager.TradingMode)
  | pyramid
  | runner
  | locker
  | scaledIn
  deriving DecidableEq

/-- A setup.  The newer engines leave the score and the parameters to the caller. -/
structure SetupSignal where
  side : Side
  entryPrice : ℚ
  slPrice : ℚ
  tpPrice : ℚ
  setupTags : List EngineTag
  h1Bias : D1Bias
  rsiAtEntry : Option ℚ
  atrAtEntry : ℚ
  qualityScore : Option ℚ := none
  regimeTradeParams : Option RegimeParams := none

structure EvaluatorArgs where
  m15Candles : List BacktestCandle
  m15Indicators : IndicatorState
  h1Candles : List BacktestCandle
  h1Indicators : IndicatorState
  idx : Nat
  spread : ℚ
  minAtr : ℚ
  pricePrecision : Nat
  regimeState : RegimeState
  minQuality : ℚ
  getLocalHour : LocalHours

namespace EvaluatorArgs

def round (args : EvaluatorArgs) (x : ℚ) : ℚ :=
  roundTo (10 ^ args.pricePrecision) x

/-- Half the spread above the close for a buy, below it for a sell. -/
def entryAt (args : EvaluatorArgs) (side : Side) (candle : BacktestCandle) : ℚ :=
  side.ahead candle.close (args.spread / 2)

def ExtremeVolatility (args : EvaluatorArgs) (atr : ℚ) : Prop :=
  match valueAt args.m15Indicators.atrBaseline args.idx with
  | some atrBaseline => 0 < atrBaseline ∧ 2 ≤ atr / atrBaseline
  | none => False

instance (args : EvaluatorArgs) (atr : ℚ) : Decidable (args.ExtremeVolatility atr) := by
  unfold ExtremeVolatility
  split <;> infer_instance

/-- The ATR of the bar, unless it is missing, zero, too small or extreme. -/
def usableAtr (args : EvaluatorArgs) : Option ℚ :=
  (valueAt args.m15Indicators.atr14 args.idx).filter fun atr =>
    decide (atr ≠ 0 ∧ args.minAtr ≤ atr ∧ ¬ args.ExtremeVolatility atr)

end EvaluatorArgs

/-!
# Patterns
-/

def ClosesFor (side : Side) (candle : BacktestCandle) : Prop :=
  side.Beyond candle.close candle.open_

instance (side : Side) (candle : BacktestCandle) : Decidable (ClosesFor side candle) :=
  inferInstanceAs (Decidable (side.Beyond _ _))

def detectEngulfing (candles : List BacktestCandle) (idx : Nat) : Bool :=
  if idx < 1 then false
  else
    match candles[idx - 1]?, candles[idx]? with
    | some prev, some curr =>
        decide
          (prev.close < prev.open_ ∧ curr.open_ < curr.close ∧ curr.open_ ≤ prev.close ∧
              prev.open_ ≤ curr.close ∨
            prev.open_ < prev.close ∧ curr.close < curr.open_ ∧ prev.close ≤ curr.open_ ∧
              curr.close ≤ prev.open_)
    | _, _ => false

def detectStrongClose (curr : BacktestCandle) : Bool :=
  let range := curr.high - curr.low
  if range = 0 then false
  else if |curr.close - curr.open_| / range < 1 / 2 then false
  else if curr.open_ < curr.close then decide (65 / 100 ≤ (curr.close - curr.low) / range)
  else decide (65 / 100 ≤ (curr.high - curr.close) / range)

def detectPinBar (curr : BacktestCandle) (side : Side) : Bool :=
  let range := curr.high - curr.low
  if range = 0 then false
  else if 4 / 10 < |curr.close - curr.open_| / range then false
  else
    let upperWick := curr.high - max curr.open_ curr.close
    let lowerWick := min curr.open_ curr.close - curr.low
    match side with
    | .buy => decide (6 / 10 ≤ lowerWick / range ∧ upperWick / range ≤ 25 / 100)
    | .sell => decide (6 / 10 ≤ upperWick / range ∧ lowerWick / range ≤ 25 / 100)

def adverse (side : Side) (candle : BacktestCandle) : ℚ :=
  match side with
  | .buy => candle.low
  | .sell => candle.high

def farther : Side -> ℚ -> ℚ -> ℚ
  | .buy => min
  | .sell => max

/-- The swing against the side at bar `i`: two bars before and two after stay short
of it. -/
def swingAt (candles : List BacktestCandle) (side : Side) (i : Nat) : Option ℚ :=
  (candles[i]?.map (adverse side)).filter fun price =>
    [1, 2].all fun j =>
      [candles[i - j]?, candles[i + j]?].all fun c =>
        c.elim false fun c => decide (side.Beyond (adverse side c) price)

def swingPrices (candles : List BacktestCandle) (side : Side) (startIdx endIdx : Nat) :
    List ℚ :=
  let first := max startIdx 2
  (List.range' first (endIdx - 1 - first)).filterMap (swingAt candles side)

/-!
# Quality of a trend setup
-/

def trendAdxQuality (adx : ℚ) : ℚ :=
  if 30 ≤ adx then 10 else if 25 ≤ adx then 0 else if 20 ≤ adx then -10 else -20

def adxSlopeQuality (adxSlope : ℚ) : ℚ :=
  if 2 < adxSlope then 5 else if 0 < adxSlope then 0 else if -2 < adxSlope then -8 else -15

def stabilityQuality (stabilityBars : Nat) : ℚ :=
  if 3 ≤ stabilityBars then 5 else if 2 ≤ stabilityBars then 0 else -10

def atrQuality (atrRatio : ℚ) : ℚ :=
  if 16 / 10 ≤ atrRatio then -15
  else if 13 / 10 ≤ atrRatio then -5
  else if 8 / 10 ≤ atrRatio then 5
  else 0

def trendRsiQuality (side : Side) (rsi : ℚ) : ℚ :=
  if 40 ≤ rsi ∧ rsi ≤ 60 then 5
  else
    match side with
    | .buy => if 60 < rsi ∧ rsi ≤ 65 then -5 else -8
    | .sell => if 35 ≤ rsi ∧ rsi < 40 then -5 else -8

def diQuality (diSeparation : ℚ) : ℚ :=
  if 10 ≤ diSeparation then 5 else if diSeparation < 5 then -5 else 0

def trendRegimeQuality : DetailedRegime -> ℚ
  | .strongTrend => 10
  | .weakTrend => -5
  | .transitioning => -10
  | _ => 0

/-- What the H1 bias takes off; none where it opposes the trade. -/
def h1BiasQuality (regime : DetailedRegime) (side : Side) (h1Bias : D1Bias) : Option ℚ :=
  if regime = .ranging ∨ regime = .volatile then some 0
  else
    match h1Bias, side with
    | .neutral, _ => some (-10)
    | .bullish, .buy => some 0
    | .bearish, .sell => some 0
    | _, _ => none

/-- The penalty of an EMA20 that has not moved in favour of the side for four bars. -/
def emaSlopeQuality (ind : IndicatorState) (idx : Nat) (side : Side) (ema20 : ℚ) : ℚ :=
  if idx < 4 then 0
  else
    match valueAt ind.ema20 (idx - 4) with
    | some ema20Prev => if side.AtLeast ema20Prev ema20 then -10 else 0
    | none => 0

def trendSessionQuality (getLocalHour : LocalHours) (t : Int) : ℚ :=
  let londonHour := getLocalHour .london t
  let nyHour := getLocalHour .newYork t
  if 13 ≤ londonHour ∧ londonHour < 17 ∧ 8 ≤ nyHour ∧ nyHour < 12 then 7
  else if 8 ≤ londonHour ∧ londonHour < 13 then 3
  else 0

def trendQuality (args : EvaluatorArgs) (side : Side) (openTime : Int) (rsi atr h1Quality : ℚ) :
    ℚ :=
  let atrRatio := match valueAt args.m15Indicators.atrBaseline args.idx with
    | some atrBaseline => if 0 < atrBaseline then atr / atrBaseline else 1
    | none => 1
  60 + trendAdxQuality args.regimeState.adx + adxSlopeQuality args.regimeState.adxSlope +
    stabilityQuality (getH1RegimeStabilityCount args.h1Candles args.h1Indicators openTime) +
    atrQuality atrRatio + trendRsiQuality side rsi + diQuality args.regimeState.diSeparation +
    (if args.regimeState.emaStackAligned then 5 else 0) +
    trendRegimeQuality args.regimeState.regime + h1Quality

/-!
# The trend engine
-/

structure PullbackTarget where
  isEma50 : Bool
  ema : ℚ
  tolerance : ℚ

def Touches (candle : BacktestCandle) (ema tolerance : ℚ) : Prop :=
  candle.low ≤ ema + tolerance ∧ ema - tolerance ≤ candle.high

instance (candle : BacktestCandle) (ema tolerance : ℚ) :
    Decidable (Touches candle ema tolerance) :=
  inferInstanceAs (Decidable (_ ∧ _))

def pullbackTarget (candle : BacktestCandle) (adx atr ema20 ema50 : ℚ) :
    Option PullbackTarget :=
  if Touches candle ema20 (atr * (6 / 10)) then some ⟨false, ema20, atr * (6 / 10)⟩
  else if 20 ≤ adx ∧ Touches candle ema50 (atr * (75 / 100)) ∧
      atr * (1 / 2) ≤ |ema20 - ema50| then
    some ⟨true, ema50, atr * (75 / 100)⟩
  else none

/-- The bar comes back to the average and closes beyond it in the direction. -/
def Commits (side : Side) (candle : BacktestCandle) (target : PullbackTarget) (ema50 : ℚ) :
    Prop :=
  side.AtLeast (side.ahead target.ema (target.tolerance * (1 / 2))) (adverse side candle) ∧
    side.Beyond candle.close target.ema ∧ ClosesFor side candle ∧
    (target.isEma50 = true -> side.Beyond candle.close ema50)

instance (side : Side) (candle : BacktestCandle) (target : PullbackTarget) (ema50 : ℚ) :
    Decidable (Commits side candle target ema50) :=
  inferInstanceAs (Decidable (_ ∧ _ ∧ _ ∧ _))

/-- The stop behind the last three swings and the average, before its clamp. -/
def trendStop (args : EvaluatorArgs) (side : Side) (target : PullbackTarget)
    (entryPrice atr ema50 : ℚ) : ℚ :=
  let swings := swingPrices args.m15Candles side (args.idx - 50) args.idx
  let swingSL := match swings.drop (swings.length - 3) with
    | [] => side.ahead entryPrice (-(atr * 2))
    | price :: rest => rest.foldl (farther side) price
  let emaBound := side.ahead (if target.isEma50 then ema50 else entryPrice) (-atr)
  side.ahead (farther side swingSL emaBound) (-(atr * (3 / 10)))

/-- A stop no nearer than `least` and no farther than `most`; `most` is looked at
last. -/
def clampStop (side : Side) (entryPrice slPrice least most : ℚ) : ℚ :=
  if most < |entryPrice - slPrice| then side.ahead entryPrice (-most)
  else if |entryPrice - slPrice| < least then side.ahead entryPrice (-least)
  else slPrice

def TrendRsi (side : Side) (rsi : ℚ) : Prop :=
  match side with
  | .buy => 35 ≤ rsi ∧ rsi ≤ 70
  | .sell => 30 ≤ rsi ∧ rsi ≤ 65

instance (side : Side) (rsi : ℚ) : Decidable (TrendRsi side rsi) := by
  unfold TrendRsi
  split <;> infer_instance

def sideOf : D1Bias -> Option Side
  | .bullish => some .buy
  | .bearish => some .sell
  | .neutral => none

def evaluateSetup (args : EvaluatorArgs) : Option SetupSignal := do
  guard (50 ≤ args.idx)
  let candle <- args.m15Candles[args.idx]?
  let ema20 <- valueAt args.m15Indicators.ema20 args.idx
  let ema50 <- valueAt args.m15Indicators.ema50 args.idx
  let rsi <- valueAt args.m15Indicators.rsi14 args.idx
  let atr <- args.usableAtr
  guard (isActiveTradingSession args.getLocalHour candle.openTime = true)
  guard (12 ≤ args.regimeState.adx)
  let side <- sideOf args.regimeState.direction
  guard (TrendRsi side rsi)
  let h1Quality <- h1BiasQuality args.regimeState.regime side
    (getH1Bias args.h1Candles args.h1Indicators candle.openTime)
  let quality := trendQuality args side candle.openTime rsi atr h1Quality
  guard (args.minQuality ≤ quality)
  let quality := quality + emaSlopeQuality args.m15Indicators args.idx side ema20
  guard (args.minQuality ≤ quality)
  let target <- pullbackTarget candle args.regimeState.adx atr ema20 ema50
  guard (Commits side candle target ema50)
  let hasEngulfing := detectEngulfing args.m15Candles args.idx
  let hasStrongClose := detectStrongClose candle
  guard (hasEngulfing = true ∨ hasStrongClose = true)
  let quality := quality + (if hasEngulfing then 5 else 0) + (if hasStrongClose then 3 else 0) +
    trendSessionQuality args.getLocalHour candle.openTime
  let params := getRegimeParams args.regimeState.regime
  let entryPrice := args.entryAt side candle
  let slPrice := clampStop side entryPrice (trendStop args side target entryPrice atr ema50) atr
    (atr * params.slClampMaxAtr)
  let tpPrice := side.ahead entryPrice (|entryPrice - slPrice| * params.trendTpR)
  some
    { side := side
      entryPrice := args.round entryPrice
      slPrice := args.round slPrice
      tpPrice := args.round tpPrice
      setupTags :=
        [if target.isEma50 then .pullbackEma50 else .pullbackEma20, .v60,
          .regime args.regimeState.regime] ++
        (if hasEngulfing then [.engulfing] else []) ++
        (if hasStrongClose then [.strongClose] else []) ++
        [match side with
          | .buy => .adxBull
          | .sell => .adxBear]
      h1Bias := args.regimeState.direction
      rsiAtEntry := some (roundTo 100 rsi)
      atrAtEntry := roundTo 100000 atr
      qualityScore := some quality
      regimeTradeParams := some params }

/-!
# The range engine
-/

def rangeSide (candle : BacktestCandle) (rsi lowerBand upperBand : ℚ) : Option Side :=
  if candle.low ≤ lowerBand ∧ rsi < 30 ∧ ClosesFor .buy candle then some .buy
  else if upperBand ≤ candle.high ∧ 70 < rsi ∧ ClosesFor .sell candle then some .sell
  else none

def evaluateRangeSetup (args : EvaluatorArgs) : Option SetupSignal := do
  guard (50 ≤ args.idx)
  let candle <- args.m15Candles[args.idx]?
  let ema50 <- valueAt args.m15Indicators.ema50 args.idx
  let rsi <- valueAt args.m15Indicators.rsi14 args.idx
  let atr <- args.usableAtr
  guard (isActiveTradingSession args.getLocalHour candle.openTime = true)
  guard (args.regimeState.regime = .ranging ∨ args.regimeState.regime = .transitioning)
  guard (args.regimeState.adx < 20)
  let side <- rangeSide candle rsi (ema50 - atr * (15 / 10)) (ema50 + atr * (15 / 10))
  let hasEngulfing := detectEngulfing args.m15Candles args.idx
  let hasStrongClose := detectStrongClose candle
  let hasPinBar := detectPinBar candle side
  guard (hasEngulfing = true ∨ hasStrongClose = true ∨ hasPinBar = true)
  let quality : ℚ := 50 + (if hasEngulfing then 5 else 0) + (if hasStrongClose then 3 else 0) +
    (if hasPinBar then 5 else 0) + (if rsi < 25 ∨ 75 < rsi then 5 else 0) +
    (if 3 ≤ args.regimeState.durationBars then 5 else 0)
  guard (args.minQuality ≤ quality)
  let entryPrice := args.entryAt side candle
  let band := side.ahead ema50 (-(atr * (15 / 10)))
  let slPrice := clampStop side entryPrice (side.ahead band (-(atr * (1 / 2)))) (atr * (1 / 2))
    (atr * 2)
  let tpPrice := ema50
  let risk := |entryPrice - slPrice|
  guard (risk ≠ 0 ∧ 8 / 10 ≤ |tpPrice - entryPrice| / risk)
  some
    { side := side
      entryPrice := args.round entryPrice
      slPrice := args.round slPrice
      tpPrice := args.round tpPrice
      setupTags :=
        [.rangeEngine, .meanReversion, .v60] ++ (if hasEngulfing then [.engulfing] else []) ++
        (if hasStrongClose then [.strongClose] else []) ++
        (if hasPinBar then [.pinBar] else []) ++
        [match side with
          | .buy => .rsiOversold
          | .sell => .rsiOverbought]
      h1Bias := .neutral
      rsiAtEntry := some (roundTo 100 rsi)
      atrAtEntry := roundTo 100000 atr
      qualityScore := some quality
      regimeTradeParams := some (getRegimeParams .ranging) }

/-!
# The score of a setup without one
-/

def h1AdxScore (h1Adx : ℚ) : ℚ :=
  if 30 ≤ h1Adx then 20 else if 25 ≤ h1Adx then 10 else if 20 ≤ h1Adx then 5 else 0

def patternScore (tags : List EngineTag) : ℚ :=
  if EngineTag.engulfing ∈ tags then 10
  else if EngineTag.strongClose ∈ tags ∨ EngineTag.pinBar ∈ tags then 8
  else 0

def stabilityScore (stability : Nat) : ℚ :=
  if 3 ≤ stability then 10 else if 2 ≤ stability then 5 else 0

/-- The three M15 averages are stacked in favour of the side. -/
def stackScore (ind : IndicatorState) (idx : Nat) (side : Side) : ℚ :=
  match valueAt ind.ema20 idx, valueAt ind.ema50 idx, valueAt ind.ema200 idx with
  | some ema20, some ema50, some ema200 =>
      if side.Beyond ema20 ema50 ∧ side.Beyond ema50 ema200 then 10 else 0
  | _, _, _ => 0

def sessionScore (getLocalHour : LocalHours) (t : Int) : ℚ :=
  let londonHour := getLocalHour .london t
  let nyHour := getLocalHour .newYork t
  if 13 ≤ londonHour ∧ londonHour < 17 ∧ 8 ≤ nyHour ∧ nyHour < 12 then 7
  else if 8 ≤ londonHour ∧ londonHour < 17 then 5
  else if 8 ≤ nyHour ∧ nyHour < 14 then 3
  else 0

def atrScore (ind : IndicatorState) (idx : Nat) : ℚ :=
  match valueAt ind.atr14 idx, valueAt ind.atrBaseline idx with
  | some atr, some atrBaseline =>
      if 0 < atrBaseline ∧ 8 / 10 ≤ atr / atrBaseline ∧ atr / atrBaseline ≤ 13 / 10 then 10
      else 0
  | _, _ => 0

def calculateQualityScore (args : EvaluatorArgs) (openTime : Int) (signal : SetupSignal) : ℚ :=
  let h1 := getH1Regime args.h1Candles args.h1Indicators openTime
  let rsiScore : ℚ := match valueAt args.m15Indicators.rsi14 args.idx with
    | some rsi => if 40 ≤ rsi ∧ rsi ≤ 60 then 10 else 0
    | none => 0
  h1AdxScore h1.h1Adx + rsiScore + (if sideOf h1.bias = some signal.side then 15 else 0) +
    patternScore signal.setupTags +
    stabilityScore (getH1RegimeStabilityCount args.h1Candles args.h1Indicators openTime) +
    stackScore args.m15Indicators args.idx signal.side +
    sessionScore args.getLocalHour openTime + atrScore args.m15Indicators args.idx

end Backtest
end Shamarx
