import Shamarx.Engine.Anchors
import Shamarx.Foundation.Scan
import Mathlib.Algebra.Order.Field.Rat

/-!
# Sweep detection

The H1 swing and anchor sweeps and the D1 lookups they rest on.  Every caller of
`detectSweep` passes the D1 candles and the current time, so these arguments are
not optional here.
-/

namespace Shamarx
namespace Engine

open Foundation

inductive EngineError where
  | typeError
  | noPairConfig
  deriving DecidableEq, Repr

/-!
# Swings
-/

def swingHighAt (candles : List BacktestCandle) (k : Nat) : Option ℚ := do
  let before <- candles[k - 1]?
  let c <- candles[k]?
  let after <- candles[k + 1]?
  if before.high < c.high ∧ after.high < c.high then some c.high else none

def swingLowAt (candles : List BacktestCandle) (k : Nat) : Option ℚ := do
  let before <- candles[k - 1]?
  let c <- candles[k]?
  let after <- candles[k + 1]?
  if c.low < before.low ∧ c.low < after.low then some c.low else none

def findRecentSwingHigh (h1Candles : List BacktestCandle) (h1Idx lookback : Nat) :
    Option ℚ :=
  scanDown (max 1 (h1Idx - lookback)) h1Idx (swingHighAt h1Candles)

def findRecentSwingLow (h1Candles : List BacktestCandle) (h1Idx lookback : Nat) :
    Option ℚ :=
  scanDown (max 1 (h1Idx - lookback)) h1Idx (swingLowAt h1Candles)

/-- One probe of `findSweptSwingIdx`; a probe past the array throws. -/
def sweptSwingProbe (h1Candles : List BacktestCandle) (side : Side) (sweepLevel : ℚ)
    (k : Nat) : Option (Except EngineError Nat) :=
  match h1Candles[k]? with
  | none => some (.error .typeError)
  | some c =>
      let level := match side with
        | .buy => c.low
        | .sell => c.high
      if level = sweepLevel then some (.ok k) else none

def findSweptSwingIdx (h1Candles : List BacktestCandle) (sweepCandleIdx : Nat)
    (side : Side) (sweepLevel : ℚ) (searchBack : Nat) : Except EngineError (Option Nat) :=
  match scanDown (max 1 (sweepCandleIdx - searchBack)) sweepCandleIdx
      (sweptSwingProbe h1Candles side sweepLevel) with
  | none => .ok none
  | some (.ok k) => .ok (some k)
  | some (.error e) => .error e

/-!
# D1 lookups

Both lookups search the whole array for the last bar opened at or before the
given time.  The loop keeps an exclusive upper end, one above the source's.
-/

def d1SearchLoop (times : List Int) (t : Int) : Nat -> Nat -> Nat -> Option Nat -> Option Nat
  | 0, _, _, idx => idx
  | fuel + 1, lo, hi, idx =>
      if lo < hi then
        let m := (lo + hi - 1) / 2
        if times.getD m 0 ≤ t then d1SearchLoop times t fuel (m + 1) hi (some m)
        else d1SearchLoop times t fuel lo m idx
      else idx

/-- Last index opened at or before `t`; each round shrinks the interval. -/
def d1IdxAt (d1Candles : List BacktestCandle) (t : Int) : Option Nat :=
  d1SearchLoop (d1Candles.map BacktestCandle.openTime) t d1Candles.length 0
    d1Candles.length none

/-- Bias from the slope of the EMA50 over five bars and the side of the close. -/
def d1BiasOf (ema50 ema50Prev close : ℚ) : D1Bias :=
  let slope := ema50 - ema50Prev
  if |slope| / max 1 close < 3 / 1000 then .neutral
  else if 0 < slope ∧ ema50 < close then .bullish
  else if slope < 0 ∧ close ≤ ema50 then .bearish
  else .neutral

def getD1Bias (d1Candles : List BacktestCandle) (d1Indicators : IndicatorState)
    (currentTime : Int) : D1Bias :=
  match d1IdxAt d1Candles currentTime with
  | none => .neutral
  | some idx =>
      if idx < 5 then .neutral
      else
        match valueAt d1Indicators.ema50 idx, valueAt d1Indicators.ema50 (idx - 5),
            d1Candles[idx]? with
        | some ema50, some ema50Prev, some c => d1BiasOf ema50 ema50Prev c.close
        | _, _, _ => .neutral

def ContinuationHealthy (adxNow adxPrev ema20 ema50 close : ℚ) (d1Bias : D1Bias) : Prop :=
  adxPrev < adxNow ∧ adxNow ≤ 50 ∧
    (d1Bias = .bullish -> ema50 < ema20) ∧ (d1Bias = .bearish -> ema20 < ema50) ∧
    0 < close ∧ |close - ema50| / close ≤ 6 / 100

instance (adxNow adxPrev ema20 ema50 close : ℚ) (d1Bias : D1Bias) :
    Decidable (ContinuationHealthy adxNow adxPrev ema20 ema50 close d1Bias) :=
  inferInstanceAs (Decidable (_ ∧ _ ∧ _ ∧ _ ∧ _ ∧ _))

def isContinuationSafe (d1Candles : List BacktestCandle)
    (d1Indicators : Option IndicatorState) (currentTime : Int) (d1Bias : D1Bias) : Bool :=
  match d1Indicators with
  | none => true
  | some ind =>
      if d1Candles.length = 0 then true
      else
        match d1IdxAt d1Candles currentTime with
        | none => false
        | some idx =>
            if idx < 50 then false
            else
              match valueAt ind.adx14 idx, valueAt ind.adx14 (idx - 3),
                  valueAt ind.ema20 idx, valueAt ind.ema50 idx, d1Candles[idx]? with
              | some adxNow, some adxPrev, some ema20, some ema50, some c =>
                  decide (ContinuationHealthy adxNow adxPrev ema20 ema50 c.close d1Bias)
              | _, _, _, _, _ => false

/-!
# Detection
-/

/-- The sweep bar and its ATR, after the range, `NaN` and spike checks shared by
both detectors. -/
def sweepBar (h1Candles : List BacktestCandle) (h1Indicators : IndicatorState)
    (h1Idx : Nat) (cfg : SmcPairConfig) : Option (BacktestCandle × ℚ) := do
  if h1Idx < 5 then none
  else
    let bar <- h1Candles[h1Idx]?
    let atr <- valueAt h1Indicators.atr14 h1Idx
    if atr ≤ 0 then none
    else
      match valueAt h1Indicators.atrBaseline h1Idx with
      | some baseline =>
          if 0 < baseline ∧ cfg.atrSpikeLimit < atr / baseline then none
          else some (bar, atr)
      | none => some (bar, atr)

def sweepMode (d1Adx : ℚ) (cfg : SmcPairConfig) : SmcMode :=
  if cfg.trendingD1Adx ≤ d1Adx then .continuation else .reversal

def ModeRejected (d1Candles : List BacktestCandle) (d1Indicators : Option IndicatorState)
    (currentTime : Int) (d1Bias : D1Bias) (d1Adx : ℚ) (cfg : SmcPairConfig) : Prop :=
  cfg.autoModeFilter ≠ some false ∧ sweepMode d1Adx cfg = .continuation ∧
    isContinuationSafe d1Candles d1Indicators currentTime d1Bias = false

instance (d1Candles : List BacktestCandle) (d1Indicators : Option IndicatorState)
    (currentTime : Int) (d1Bias : D1Bias) (d1Adx : ℚ) (cfg : SmcPairConfig) :
    Decidable (ModeRejected d1Candles d1Indicators currentTime d1Bias d1Adx cfg) :=
  inferInstanceAs (Decidable (_ ∧ _ ∧ _))

def makeSetup (bar : BacktestCandle) (atr : ℚ) (h1Idx : Nat) (mode : SmcMode)
    (cfg : SmcPairConfig) (direction : Side) (level wick : ℚ)
    (anchorType : Option AnchorType) : PendingSetup :=
  { direction := direction
    sweepLevel := level
    sweepWick := wick
    sweepMid := (bar.high + bar.low) / 2
    sweepCandleAtr := atr
    sweepCandleHigh := bar.high
    sweepCandleLow := bar.low
    detectedAtH1Idx := h1Idx
    expiresAtH1Idx := h1Idx + cfg.setupExpiryH1Bars
    mode := mode
    sweepTime := bar.openTime
    anchorType := anchorType }

def SweepsHigh (bar : BacktestCandle) (level buffer : ℚ) : Prop :=
  level + buffer < bar.high ∧ bar.close < level

def SweepsLow (bar : BacktestCandle) (level buffer : ℚ) : Prop :=
  bar.low < level - buffer ∧ level < bar.close

instance (bar : BacktestCandle) (level buffer : ℚ) : Decidable (SweepsHigh bar level buffer) :=
  inferInstanceAs (Decidable (_ ∧ _))

instance (bar : BacktestCandle) (level buffer : ℚ) : Decidable (SweepsLow bar level buffer) :=
  inferInstanceAs (Decidable (_ ∧ _))

/-- The swing sweeps of a bar: a trending day allows one direction only. -/
def swingSweep (h1Candles : List BacktestCandle) (bar : BacktestCandle) (atr : ℚ)
    (h1Idx : Nat) (d1Bias : D1Bias) (mode : SmcMode) (cfg : SmcPairConfig) :
    Option PendingSetup :=
  let buffer := atr * cfg.sweepBufferAtr
  let sellSide := do
    let swingHigh <- findRecentSwingHigh h1Candles h1Idx cfg.recentSwingLookbackH1
    if SweepsHigh bar swingHigh buffer then
      some (makeSetup bar atr h1Idx mode cfg .sell swingHigh bar.high none)
    else none
  let buySide := do
    let swingLow <- findRecentSwingLow h1Candles h1Idx cfg.recentSwingLookbackH1
    if SweepsLow bar swingLow buffer then
      some (makeSetup bar atr h1Idx mode cfg .buy swingLow bar.low none)
    else none
  match mode, d1Bias with
  | .continuation, .bullish => buySide
  | .continuation, .bearish => sellSide
  | .continuation, .neutral => none
  | .reversal, _ => sellSide.or buySide

/-- Displacement of the next bar; no next bar fails an enabled check. -/
def PassesDisplacement (nextBar : Option BacktestCandle) (dispAtr atr : ℚ) (direction : Side) :
    Prop :=
  dispAtr ≤ 0 ∨
    match nextBar with
    | none => False
    | some bar =>
        dispAtr * atr ≤ match direction with
          | .buy => bar.close - bar.open_
          | .sell => bar.open_ - bar.close

instance (nextBar : Option BacktestCandle) (dispAtr atr : ℚ) (direction : Side) :
    Decidable (PassesDisplacement nextBar dispAtr atr direction) :=
  match nextBar with
  | none => inferInstanceAs (Decidable (dispAtr ≤ 0 ∨ False))
  | some _ => inferInstanceAs (Decidable (dispAtr ≤ 0 ∨ _ ≤ _))

/-- The anchor sweeps of a bar: upper anchors first, first hit wins. -/
def anchorSweep (anchors : AnchorLevels) (nextBar : Option BacktestCandle)
    (bar : BacktestCandle) (atr : ℚ) (h1Idx : Nat) (d1Bias : D1Bias) (mode : SmcMode)
    (cfg : SmcPairConfig) : Option PendingSetup :=
  let buffer := atr * cfg.sweepBufferAtr
  let dispAtr := cfg.anchorDisplacementAtr.getD 0
  let sellAt := fun (anchor : Option Range × AnchorType) => do
    let range <- anchor.1
    if SweepsHigh bar range.high buffer ∧ PassesDisplacement nextBar dispAtr atr .sell ∧
        (mode = .reversal ∨ d1Bias = .bearish) then
      some (makeSetup bar atr h1Idx mode cfg .sell range.high bar.high (some anchor.2))
    else none
  let buyAt := fun (anchor : Option Range × AnchorType) => do
    let range <- anchor.1
    if SweepsLow bar range.low buffer ∧ PassesDisplacement nextBar dispAtr atr .buy ∧
        (mode = .reversal ∨ d1Bias = .bullish) then
      some (makeSetup bar atr h1Idx mode cfg .buy range.low bar.low (some anchor.2))
    else none
  let highs := [(anchors.previousDay, AnchorType.pdh), (anchors.asian, .asianH),
    (anchors.weekly, .weeklyH)]
  let lows := [(anchors.previousDay, AnchorType.pdl), (anchors.asian, .asianL),
    (anchors.weekly, .weeklyL)]
  (highs.findSome? sellAt).or (lows.findSome? buyAt)

def detectSweep (h1Candles : List BacktestCandle) (h1Indicators : IndicatorState)
    (h1Idx : Nat) (d1Bias : D1Bias) (d1Adx : ℚ) (cfg : SmcPairConfig)
    (d1Candles : List BacktestCandle) (d1Indicators : Option IndicatorState)
    (currentTime : Int) : Option PendingSetup :=
  match sweepBar h1Candles h1Indicators h1Idx cfg with
  | none => none
  | some (bar, atr) =>
      let mode := sweepMode d1Adx cfg
      if ModeRejected d1Candles d1Indicators currentTime d1Bias d1Adx cfg then none
      else if cfg.useAnchorSweeps then
        anchorSweep (getAnchorLevels h1Candles bar.openTime) h1Candles[h1Idx + 1]? bar atr
          h1Idx d1Bias mode cfg
      else swingSweep h1Candles bar atr h1Idx d1Bias mode cfg

end Engine
end Shamarx
