import Shamarx.Backtest.SetupEvaluators
import Shamarx.Foundation.FirstMatch

/-!
# Fair value gaps of the older engines

Detection on each M15 bar, the queue of the gaps that can still fill, and the fill entry,
which takes the first gap of the queue that passes its tests.
-/

namespace Shamarx
namespace Backtest

open Foundation
open Engine

structure FairValueGap where
  direction : Side
  zoneHigh : ℚ
  zoneLow : ℚ
  createdAtIndex : Nat
  expiryCandles : Nat
  traded : Bool
  deriving DecidableEq

/-!
# Detection
-/

def newGap (direction : Side) (zoneLow zoneHigh : ℚ) (idx : Nat) : FairValueGap :=
  { direction := direction
    zoneHigh := zoneHigh
    zoneLow := zoneLow
    createdAtIndex := idx
    expiryCandles := 96
    traded := false }

def StrongMiddle (prev : BacktestCandle) (atr : ℚ) : Prop :=
  prev.high - prev.low ≠ 0 ∧
    4 / 10 ≤ |prev.close - prev.open_| / (prev.high - prev.low) ∧
    atr * (1 / 2) ≤ prev.high - prev.low

instance (prev : BacktestCandle) (atr : ℚ) : Decidable (StrongMiddle prev atr) :=
  inferInstanceAs (Decidable (_ ∧ _ ∧ _))

/-- The gaps between the two outer bars, at most one in each direction. -/
def gapsBetween (prev2 curr : BacktestCandle) (idx : Nat) : List FairValueGap :=
  (if prev2.high < curr.low then [newGap .buy prev2.high curr.low idx] else []) ++
    if curr.high < prev2.low then [newGap .sell curr.high prev2.low idx] else []

def detectFVGs (candles : List BacktestCandle) (indicators : IndicatorState) (idx : Nat) :
    List FairValueGap :=
  if idx < 2 then []
  else
    match valueAt indicators.atr14 idx, candles[idx]?, candles[idx - 1]?, candles[idx - 2]? with
    | some atr, some curr, some prev, some prev2 =>
        if atr = 0 then []
        else if StrongMiddle prev atr then gapsBetween prev2 curr idx
        else []
    | _, _, _, _ => []

/-!
# The queue
-/

namespace FairValueGap

def Expired (gap : FairValueGap) (i : Nat) : Prop :=
  gap.expiryCandles < i - gap.createdAtIndex

instance (gap : FairValueGap) (i : Nat) : Decidable (gap.Expired i) :=
  inferInstanceAs (Decidable (_ < _))

/-- No two gaps of a run agree on bar and direction, so the two stand for the object. -/
def key (gap : FairValueGap) : Nat × Side :=
  (gap.createdAtIndex, gap.direction)

end FairValueGap

/-- The gaps of bar `i` join the queue, and traded and expired ones leave it. -/
def maintainGaps (candles : List BacktestCandle) (indicators : IndicatorState) (i : Nat)
    (activeFVGs : List FairValueGap) : List FairValueGap :=
  (activeFVGs ++ detectFVGs candles indicators i).filter fun gap =>
    decide (gap.traded = false ∧ ¬ gap.Expired i)

/-- The gap that the engine retires after a signal: of all the tests of the evaluator it
repeats the flag, the side and the expiry. -/
def Retirable (side : Side) (i : Nat) (gap : FairValueGap) : Prop :=
  gap.traded = false ∧ gap.direction = side ∧ ¬ gap.Expired i

instance (side : Side) (i : Nat) (gap : FairValueGap) : Decidable (Retirable side i gap) :=
  inferInstanceAs (Decidable (_ ∧ _ ∧ _))

def retireGap (side : Side) (i : Nat) (activeFVGs : List FairValueGap) : List FairValueGap :=
  markFirst (Retirable side i) (fun gap => { gap with traded := true }) activeFVGs

/-!
# The fill entry
-/

structure FillBar where
  candle : BacktestCandle
  atr : ℚ
  rsi : ℚ
  bias : D1Bias

def fillBarOf (args : EvaluatorArgs) : Option FillBar := do
  guard (50 ≤ args.idx)
  let candle <- args.m15Candles[args.idx]?
  let rsi <- valueAt args.m15Indicators.rsi14 args.idx
  let atr <- args.usableAtr
  guard (isActiveTradingSession args.getLocalHour candle.openTime = true)
  guard (10 ≤ args.regimeState.adx)
  some
    { candle := candle
      atr := atr
      rsi := rsi
      bias := (getH1Regime args.h1Candles args.h1Indicators candle.openTime).bias }

/-- Under a neutral bias the M15 averages must not be against the side. -/
def EmasAgainst (ind : IndicatorState) (idx : Nat) (side : Side) : Prop :=
  match valueAt ind.ema20 idx, valueAt ind.ema50 idx with
  | some ema20, some ema50 => side.Beyond ema50 ema20
  | _, _ => False

instance (ind : IndicatorState) (idx : Nat) (side : Side) :
    Decidable (EmasAgainst ind idx side) := by
  unfold EmasAgainst
  split <;> infer_instance

def DirectionAdmitted (args : EvaluatorArgs) (bar : FillBar) (direction : Side) : Prop :=
  ¬ (direction = .buy ∧ bar.bias = .bearish) ∧ ¬ (direction = .sell ∧ bar.bias = .bullish) ∧
    20 ≤ bar.rsi ∧ bar.rsi ≤ 80 ∧
    ¬ (bar.bias = .neutral ∧ EmasAgainst args.m15Indicators args.idx direction)

instance (args : EvaluatorArgs) (bar : FillBar) (direction : Side) :
    Decidable (DirectionAdmitted args bar direction) :=
  inferInstanceAs (Decidable (_ ∧ _ ∧ _ ∧ _ ∧ _))

def EntersZone (gap : FairValueGap) (candle : BacktestCandle) : Prop :=
  candle.low ≤ gap.zoneHigh ∧ gap.zoneLow ≤ candle.high ∧ ClosesFor gap.direction candle

instance (gap : FairValueGap) (candle : BacktestCandle) : Decidable (EntersZone gap candle) :=
  inferInstanceAs (Decidable (_ ∧ _ ∧ _))

def fvgStop (gap : FairValueGap) (atr : ℚ) : ℚ :=
  match gap.direction with
  | .buy => gap.zoneLow - atr * (3 / 10)
  | .sell => gap.zoneHigh + atr * (3 / 10)

def fvgAdxQuality (adx : ℚ) : ℚ :=
  if 25 ≤ adx then 10 else if 20 ≤ adx then 5 else if 15 ≤ adx then 0 else -10

def fvgStopQuality (slDistance atr : ℚ) : ℚ :=
  if atr * 2 < slDistance then -10 else if atr * (15 / 10) < slDistance then -5 else 0

def fvgRegimeQuality (regime : DetailedRegime) (bias : D1Bias) : ℚ :=
  match regime with
  | .strongTrend => if bias = .neutral then 0 else 10
  | .volatile => -10
  | _ => 0

def fvgQuality (args : EvaluatorArgs) (bar : FillBar) (slDistance : ℚ) : ℚ :=
  55 + fvgAdxQuality args.regimeState.adx + fvgStopQuality slDistance bar.atr +
    fvgRegimeQuality args.regimeState.regime bar.bias +
    (if 40 ≤ bar.rsi ∧ bar.rsi ≤ 60 then 5 else 0)

/-- One round of the loop: the setup of a gap, or none where the source continues. -/
def fillSignal (args : EvaluatorArgs) (bar : FillBar) (gap : FairValueGap) :
    Option SetupSignal := do
  guard (gap.traded = false)
  guard (¬ gap.Expired args.idx)
  guard (gap.createdAtIndex < args.idx)
  guard (DirectionAdmitted args bar gap.direction)
  guard (EntersZone gap bar.candle)
  let side := gap.direction
  let params := getRegimeParams args.regimeState.regime
  let entryPrice := args.entryAt side bar.candle
  guard (|entryPrice - fvgStop gap bar.atr| ≤ bar.atr * 3)
  let slPrice := clampStop side entryPrice (fvgStop gap bar.atr) (bar.atr * (6 / 10))
    (bar.atr * params.slClampMaxAtr)
  let risk := |entryPrice - slPrice|
  let quality := fvgQuality args bar risk
  guard (args.minQuality ≤ quality)
  some
    { side := side
      entryPrice := args.round entryPrice
      slPrice := args.round slPrice
      tpPrice := args.round (side.ahead entryPrice (risk * params.fvgTpR))
      setupTags :=
        [.fvgFill, .v60, .regime args.regimeState.regime,
          match side with
            | .buy => .adxBull
            | .sell => .adxBear]
      h1Bias := bar.bias
      rsiAtEntry := some (roundTo 100 bar.rsi)
      atrAtEntry := roundTo 100000 bar.atr
      qualityScore := some quality
      regimeTradeParams := some params }

def Fills (args : EvaluatorArgs) (gap : FairValueGap) : Prop :=
  ((fillBarOf args).bind fun bar => fillSignal args bar gap).isSome = true

instance (args : EvaluatorArgs) (gap : FairValueGap) : Decidable (Fills args gap) :=
  inferInstanceAs (Decidable (_ = true))

def evaluateFVGEntry (args : EvaluatorArgs) (activeFVGs : List FairValueGap) :
    Option SetupSignal := do
  let bar <- fillBarOf args
  activeFVGs.findSome? (fillSignal args bar)

end Backtest
end Shamarx
