import Mathlib.Data.Rat.Defs

/-!
# Data types of the strategy engine

## Numbers

Prices, money and indicator values are exact rationals.  The source pads
indicator arrays with `NaN`; an indicator array is a list of optional
rationals, and looking an index up gives a further option for `undefined`.
Times are instants in milliseconds: the sources use canonical UTC ISO strings,
which are equal exactly when their instants are.
-/

namespace Shamarx
namespace Engine

inductive Side where
  | buy
  | sell
  deriving DecidableEq, Repr

structure BacktestCandle where
  openTime : Int
  open_ : ℚ
  high : ℚ
  low : ℚ
  close : ℚ
  deriving DecidableEq

structure IndicatorState where
  ema20 : List (Option ℚ)
  ema50 : List (Option ℚ)
  ema200 : List (Option ℚ)
  rsi14 : List (Option ℚ)
  atr14 : List (Option ℚ)
  adx14 : List (Option ℚ)
  plusDI14 : List (Option ℚ)
  minusDI14 : List (Option ℚ)
  atrBaseline : List (Option ℚ)
  deriving DecidableEq

/-- Reading an indicator where the source tests `isNaN` first: `undefined` and
`NaN` are both rejected by that test. -/
def valueAt (xs : List (Option ℚ)) (i : Nat) : Option ℚ :=
  xs[i]?.join

inductive D1Bias where
  | bullish
  | bearish
  | neutral
  deriving DecidableEq, Repr

inductive DetailedRegime where
  | strongTrend
  | weakTrend
  | ranging
  | volatile
  | transitioning
  deriving DecidableEq, Repr

/-!
# Sweep setups
-/

inductive SmcMode where
  | reversal
  | continuation
  deriving DecidableEq, Repr

inductive AnchorType where
  | pdh
  | pdl
  | asianH
  | asianL
  | weeklyH
  | weeklyL
  deriving DecidableEq, Repr

structure PendingSetup where
  direction : Side
  sweepLevel : ℚ
  sweepWick : ℚ
  sweepMid : ℚ
  sweepCandleAtr : ℚ
  sweepCandleHigh : ℚ
  sweepCandleLow : ℚ
  detectedAtH1Idx : Nat
  expiresAtH1Idx : Nat
  mode : SmcMode
  sweepTime : Int
  anchorType : Option AnchorType
  deriving DecidableEq

/-!
# Pair configuration

An optional field of the source interface is an option here; its default is
applied where the source applies it.
-/

structure ConvictionSizing where
  tightRatio : ℚ
  tightMult : ℚ
  looseMult : ℚ

structure SmcPairConfig where
  sweepBufferAtr : ℚ
  slBufferAtrM15 : ℚ
  setupExpiryH1Bars : Nat
  atrSpikeLimit : ℚ
  trendingD1Adx : ℚ
  d1AdxFloor : ℚ
  recentSwingLookbackH1 : Nat
  slCooldownBars : Nat
  killzones : List (Int × Int)
  disableContinuation : Bool := false
  skipEntryDows : List Int := []
  maxSlSweepRatio : Option ℚ := none
  convictionSizing : Option ConvictionSizing := none
  tp1PartialFraction : ℚ
  tp1R : ℚ
  tp2R : ℚ
  disabledModes : List SmcMode := []
  autoModeFilter : Option Bool := none
  useAnchorSweeps : Bool := false
  anchorDisplacementAtr : Option ℚ := none
  newsBlackoutMinutes : Option Int := none
  maxSlAtrM15 : Option ℚ := none
  useFvgGate : Bool := false
  fvgGateMaxDistanceAtr : Option ℚ := none
  useObGate : Bool := false
  obGateMaxDistanceAtr : Option ℚ := none
  useBosGate : Bool := false
  bosGateSwingLookback : Option Nat := none
  useObOriginGate : Bool := false
  obOriginLookback : Option Nat := none
  obOriginDisplacementAtr : Option ℚ := none
  useImpulseFvgGate : Bool := false
  impulseFvgLookback : Option Nat := none
  useBosOriginGate : Bool := false
  bosOriginLookback : Option Nat := none

end Engine
end Shamarx
