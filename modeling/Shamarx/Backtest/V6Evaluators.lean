import Shamarx.Backtest.SetupEvaluators

/-!
# Evaluators of the V6 strategy

The Bollinger reversal, the EMA cross with its retest, and the momentum continuation.
The source writes each for a buy and once more, mirrored, for a sell.
-/

namespace Shamarx
namespace Backtest

open Foundation
open Engine

def agreeTags (side : Side) (h1Bias : D1Bias) : List EngineTag :=
  if sideOf h1Bias = some side then [.h1Agree] else []

def plainSignal (args : EvaluatorArgs) (side : Side) (entryPrice slPrice tpPrice : ℚ)
    (tags : List EngineTag) (h1Bias : D1Bias) (rsiAtEntry : Option ℚ) (atr : ℚ) : SetupSignal :=
  { side := side
    entryPrice := args.round entryPrice
    slPrice := args.round slPrice
    tpPrice := args.round tpPrice
    setupTags := tags ++ agreeTags side h1Bias
    h1Bias := h1Bias
    rsiAtEntry := rsiAtEntry
    atrAtEntry := atr }

/-- The ATR of the bar, unless it is missing or too small. -/
def EvaluatorArgs.plainAtr (args : EvaluatorArgs) : Option ℚ :=
  (valueAt args.m15Indicators.atr14 args.idx).filter fun atr => decide (args.minAtr ≤ atr)

def EvaluatorArgs.rsiOr50 (args : EvaluatorArgs) : Option ℚ :=
  args.m15Indicators.rsi14[args.idx]?.getD (some 50)

/-!
# Bollinger reversal
-/

structure Bands where
  upper : ℚ
  middle : ℚ
  lower : ℚ

/-- `computeBB`: the bands of the package, padded to the candles.  Its cache is shared by
all runs and keyed by the number and the end times of the candles. -/
abbrev ComputeBB := List BacktestCandle -> List (Option Bands)

/-- The bar goes beyond the one before against the side and closes back past its close. -/
def Reversal (side : Side) (p c : BacktestCandle) : Prop :=
  side.Beyond (adverse side p) (adverse side c) ∧ side.Beyond c.close p.close ∧ ClosesFor side c

instance (side : Side) (p c : BacktestCandle) : Decidable (Reversal side p c) :=
  inferInstanceAs (Decidable (_ ∧ _ ∧ _))

def Bands.outer (bands : Bands) : Side -> ℚ
  | .buy => bands.lower
  | .sell => bands.upper

def RsiExtreme : Side -> ℚ -> Prop
  | .buy, rsi => rsi ≤ 32
  | .sell, rsi => 68 ≤ rsi

instance (side : Side) (rsi : ℚ) : Decidable (RsiExtreme side rsi) := by
  unfold RsiExtreme
  split <;> infer_instance

def TagsBand (side : Side) (bands : Bands) (rsi : ℚ) (p c : BacktestCandle) : Prop :=
  side.AtLeast (bands.outer side) (adverse side c) ∧ RsiExtreme side rsi ∧ Reversal side p c

instance (side : Side) (bands : Bands) (rsi : ℚ) (p c : BacktestCandle) :
    Decidable (TagsBand side bands rsi p c) :=
  inferInstanceAs (Decidable (_ ∧ _ ∧ _))

def bbSignal (args : EvaluatorArgs) (side : Side) (bands : Bands) (candle : BacktestCandle)
    (rsi atr : ℚ) : Option SetupSignal := do
  let h1Bias := getH1Bias args.h1Candles args.h1Indicators candle.openTime
  let entryPrice := args.entryAt side candle
  let slPrice := side.ahead (farther side (adverse side candle) (bands.outer side))
    (-(atr * (3 / 10)))
  let slPoints := |entryPrice - slPrice|
  guard (0 < slPoints)
  some (plainSignal args side entryPrice slPrice
    (farther side bands.middle (side.ahead entryPrice (slPoints * 1)))
    [.bbReversal,
      match side with
        | .buy => .longBB
        | .sell => .shortBB,
      .rsi (roundHalfUp rsi)]
    h1Bias (some rsi) atr)

def TooNarrow (bands : Bands) : Option ℚ -> Prop
  | some atrBaseline => 0 < atrBaseline ∧ (bands.upper - bands.lower) / atrBaseline < 6 / 10
  | none => False

instance (bands : Bands) : (atrBaseline : Option ℚ) -> Decidable (TooNarrow bands atrBaseline)
  | some _ => inferInstanceAs (Decidable (_ ∧ _))
  | none => inferInstanceAs (Decidable False)

def evaluateBBReversal (computeBB : ComputeBB) (args : EvaluatorArgs) : Option SetupSignal := do
  guard (21 ≤ args.idx)
  let candle <- args.m15Candles[args.idx]?
  let prev <- args.m15Candles[args.idx - 1]?
  guard (args.regimeState.regime = .ranging ∨ args.regimeState.regime = .transitioning)
  guard (isActiveTradingSession args.getLocalHour candle.openTime = true)
  let atr <- args.plainAtr
  let rsi <- valueAt args.m15Indicators.rsi14 args.idx
  let bands <- (computeBB args.m15Candles)[args.idx]?.join
  guard (¬ TooNarrow bands (valueAt args.m15Indicators.atrBaseline args.idx))
  if TagsBand .buy bands rsi prev candle then bbSignal args .buy bands candle rsi atr
  else if TagsBand .sell bands rsi prev candle then bbSignal args .sell bands candle rsi atr
  else none

/-!
# EMA cross and retest
-/

def emaAbove (ema20 ema50 : List (Option ℚ)) (k : Nat) : Bool :=
  match valueAt ema20 k, valueAt ema50 k with
  | some fast, some slow => decide (slow < fast)
  | _, _ => false

/-- The direction of the last cross within 20 bars before bar `i`. -/
def detectRecentCross (ema20 ema50 : List (Option ℚ)) (i : Nat) : Option Side :=
  (List.range' (max 1 (i - 20)) (i - max 1 (i - 20))).reverse.findSome? fun k =>
    if emaAbove ema20 ema50 k ≠ emaAbove ema20 ema50 (k - 1) ∧
        (valueAt ema20 k).isSome = true ∧ (valueAt ema50 k).isSome = true then
      some (if emaAbove ema20 ema50 k then .buy else .sell)
    else none

/-- The bar comes back to the EMA20, by at most twice the tolerance past it, and closes
beyond it. -/
def Retests (side : Side) (candle : BacktestCandle) (ema20 tolerance : ℚ) : Prop :=
  side.AtLeast (side.ahead ema20 tolerance) (adverse side candle) ∧
    side.AtLeast (adverse side candle) (side.ahead ema20 (-(tolerance * 2))) ∧
    side.Beyond candle.close ema20 ∧ ClosesFor side candle

instance (side : Side) (candle : BacktestCandle) (ema20 tolerance : ℚ) :
    Decidable (Retests side candle ema20 tolerance) :=
  inferInstanceAs (Decidable (_ ∧ _ ∧ _ ∧ _))

def evaluateEmaCross (args : EvaluatorArgs) : Option SetupSignal := do
  guard (22 ≤ args.idx)
  let candle <- args.m15Candles[args.idx]?
  guard (args.regimeState.regime ≠ .volatile)
  guard (isActiveTradingSession args.getLocalHour candle.openTime = true)
  let atr <- args.plainAtr
  let ema20 <- valueAt args.m15Indicators.ema20 args.idx
  let ema50 <- valueAt args.m15Indicators.ema50 args.idx
  let side <- detectRecentCross args.m15Indicators.ema20 args.m15Indicators.ema50 args.idx
  guard (atr * 1 ≤ |ema20 - ema50|)
  guard (Retests side candle ema20 (atr * (1 / 2)))
  let entryPrice := args.entryAt side candle
  let slPrice := side.ahead (farther side (adverse side candle) ema50) (-(atr * (4 / 10)))
  let slPoints := |entryPrice - slPrice|
  guard (0 < slPoints)
  some (plainSignal args side entryPrice slPrice (side.ahead entryPrice (slPoints * (15 / 10)))
    [.emaCross,
      match side with
        | .buy => .buyRetest
        | .sell => .sellRetest]
    (getH1Bias args.h1Candles args.h1Indicators candle.openTime) args.rsiOr50 atr)

/-!
# Momentum continuation
-/

/-- Three of the last four bars close in the direction. -/
def consecutiveDirection (candles : List BacktestCandle) (i : Nat) (direction : Side) : Bool :=
  decide (4 ≤ i ∧
    3 ≤ (((candles.drop (i - 3)).take 4).filter fun c => decide (ClosesFor direction c)).length)

def Opposes (h1Bias : D1Bias) (side : Side) : Prop :=
  match h1Bias, side with
  | .bearish, .buy => True
  | .bullish, .sell => True
  | _, _ => False

instance (h1Bias : D1Bias) (side : Side) : Decidable (Opposes h1Bias side) := by
  unfold Opposes
  split <;> infer_instance

def evaluateMomentumContinuation (args : EvaluatorArgs) : Option SetupSignal := do
  guard (4 ≤ args.idx)
  let candle <- args.m15Candles[args.idx]?
  guard (args.regimeState.regime ≠ .volatile)
  guard (isActiveTradingSession args.getLocalHour candle.openTime = true)
  let atr <- args.plainAtr
  let ema20 <- valueAt args.m15Indicators.ema20 args.idx
  let range := candle.high - candle.low
  guard (range ≠ 0)
  guard (55 / 100 ≤ |candle.close - candle.open_| / range)
  let h1Bias := getH1Bias args.h1Candles args.h1Indicators candle.openTime
  let side : Side := if ClosesFor .buy candle then .buy else .sell
  guard (side.Beyond candle.close ema20)
  guard (¬ Opposes h1Bias side)
  guard (consecutiveDirection args.m15Candles args.idx side = true)
  let entryPrice := args.entryAt side candle
  let slPrice := farther side (adverse side candle) (side.ahead ema20 (-(atr * (1 / 2))))
  let slPoints := |entryPrice - slPrice|
  guard (0 < slPoints ∧ slPoints ≤ atr * 3)
  some (plainSignal args side entryPrice slPrice (side.ahead entryPrice (slPoints * (12 / 10)))
    [.momentumCont,
      match side with
        | .buy => .buyMom
        | .sell => .sellMom]
    h1Bias args.rsiOr50 atr)

end Backtest
end Shamarx
