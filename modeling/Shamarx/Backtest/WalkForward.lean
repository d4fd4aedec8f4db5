import Shamarx.Backtest.FairValueGaps
import Shamarx.Backtest.SmcEngine
import Shamarx.Backtest.V6Evaluators

/-!
# The walk-forward backtest of V5 and V6

One pass over the M15 bars of a pair: regime, fair value gaps, trade management, exits,
scale-ins, the entry gates, and then the engines in their order until one has a setup.

The closed trades, the metrics and the breaks of structure are written here and read by
nothing in the loop.
-/

namespace Shamarx
namespace Backtest
namespace WalkForward

open Foundation
open Engine

inductive StrategyVersion where
  | v55b
  | v6
  deriving DecidableEq

structure PairProfile where
  rangeReversion : Bool
  bbReversal : Bool
  d1ConfluenceRequired : Bool
  newsBlackoutEnabled : Bool
  newsBlackoutMinutes : Int
  qualityFloor : ℚ

def getPairProfile : Instrument -> Option PairProfile
  | .XAUUSD => some ⟨true, true, true, true, 5, 30⟩
  | .EURUSD => some ⟨true, true, true, true, 5, 30⟩
  | _ => none

structure EngineLibs where
  indicators : TechnicalIndicators
  computeBB : ComputeBB
  getLocalHour : LocalHours

structure Walk where
  libs : EngineLibs
  config : EngineConfig
  version : StrategyVersion
  m15Candles : List BacktestCandle
  h1Candles : List BacktestCandle
  d1Candles : List BacktestCandle

namespace Walk

def m15Indicators (w : Walk) : IndicatorState :=
  computeIndicators w.libs.indicators w.m15Candles

def h1Indicators (w : Walk) : IndicatorState :=
  computeIndicators w.libs.indicators w.h1Candles

def d1Indicators (w : Walk) : Option IndicatorState :=
  if 0 < w.d1Candles.length then some (computeIndicators w.libs.indicators w.d1Candles) else none

def instrument (w : Walk) : InstrumentConfig :=
  getInstrumentConfig w.config.symbol

/-- The profile of the pair; V5.5b reads none. -/
def profile (w : Walk) : Option PairProfile :=
  if w.version = .v6 then getPairProfile w.config.symbol else none

def d1Bias (w : Walk) (t : Int) : D1Bias :=
  if w.profile.isSome then d1BiasAt w.d1Candles w.d1Indicators t else .neutral

def inNewsBlackout (w : Walk) (t : Int) : Bool :=
  match w.profile with
  | some p => p.newsBlackoutEnabled && isInBlackout t p.newsBlackoutMinutes
  | none => false

def spread (w : Walk) (t : Int) : ℚ :=
  getSpread w.config.symbol t

end Walk

/-- A position of these engines.  Its tags are their own: the inherited list is the one of
the SMC engine. -/
structure EnginePosition extends SimulatedPosition where
  engineTags : List EngineTag
  isScaleIn : Bool := false
  hasScaleIn : Bool := false

/-- A signal of the fill engine: its bar, the gap whose zone triggered it, and the gap that
was marked as traded. -/
structure GapFill where
  bar : Nat
  zone : Option FairValueGap
  marked : Option FairValueGap

/-- The locals of the loop.  The last field is history. -/
structure EngineRun where
  riskManager : RiskManager
  performanceTracker : PerformanceTracker
  openPositions : List EnginePosition
  cooldownUntil : Int
  slCooldownUntil : Int
  regimeState : Option RegimeState
  activeFVGs : List FairValueGap
  dailySlCount : Side -> Nat
  lastDate : Option Int
  fills : List GapFill

def EngineRun.start (config : EngineConfig) : EngineRun :=
  { riskManager := .create config
    performanceTracker := .create
    openPositions := []
    cooldownUntil := -1
    slCooldownUntil := -1
    regimeState := none
    activeFVGs := []
    dailySlCount := fun _ => 0
    lastDate := none
    fills := [] }

/-!
# Before the exits
-/

def dateStep (s : EngineRun) (t : Int) : EngineRun :=
  if s.lastDate = some (dayOf t) then s
  else { s with dailySlCount := fun _ => 0, lastDate := some (dayOf t) }

def regimeOf (w : Walk) (s : EngineRun) (t : Int) : RegimeState :=
  detectRegime w.h1Candles w.h1Indicators t s.regimeState s.performanceTracker

def gapStep (w : Walk) (s : EngineRun) (i : Nat) : EngineRun :=
  { s with activeFVGs := maintainGaps w.m15Candles w.m15Indicators i s.activeFVGs }

def manage (candle : BacktestCandle) (spread : ℚ) (p : EnginePosition) : EnginePosition :=
  { p with toSimulatedPosition := managePosition candle spread p.toSimulatedPosition }

def manageStep (w : Walk) (s : EngineRun) (candle : BacktestCandle) : EngineRun :=
  { s with openPositions := s.openPositions.map (manage candle (w.spread candle.openTime)) }

/-!
# Exits
-/

def v6MaxBars : Nat := 48

def commissionOf (w : Walk) (p : EnginePosition) : ℚ :=
  p.lotSize * w.instrument.commissionPerLot

/-- The risk manager and the tracker learn of a closed trade. -/
def book (s : EngineRun) (trade : ClosedTrade) : EngineRun :=
  { s with
    riskManager := s.riskManager.recordTrade trade.pnl trade.exitTime (some trade.exitReason)
    performanceTracker := s.performanceTracker.recordTrade trade }

def keep (s : EngineRun) (p : EnginePosition) : EngineRun :=
  { s with openPositions := p :: s.openPositions }

/-- V6 closes a position that has not reached break-even in 48 bars. -/
def maxBarsSettle (w : Walk) (bar : BacktestCandle × Nat) (p : EnginePosition) (s : EngineRun) :
    EngineRun :=
  if w.version = .v6 ∧ v6MaxBars ≤ bar.2 - p.entryIndex ∧ p.breakevenActivated = false then
    { book s (forceClosePosition w.config.symbol p.toSimulatedPosition bar.1.close bar.1.openTime
        (commissionOf w p)) with
      cooldownUntil := bar.2 + 1 }
  else keep s p

/-- The bars that an exit takes off, with and without a loss. -/
def cooldownBars (version : StrategyVersion) (exitReason : ExitReason) : Nat :=
  match version, exitReason with
  | .v6, .sl => 1
  | .v55b, .sl => 2
  | .v6, _ => 0
  | .v55b, _ => 1

def afterExit (w : Walk) (i : Nat) (side : Side) (exitReason : ExitReason) (s : EngineRun) :
    EngineRun :=
  let s := { s with cooldownUntil := i + cooldownBars w.version exitReason }
  if exitReason = .sl then
    { s with
      slCooldownUntil := i + cooldownBars w.version exitReason
      dailySlCount := fun d =>
        if d = side then s.dailySlCount side + 1 else s.dailySlCount d }
  else s

def exitSettle (w : Walk) (bar : BacktestCandle × Nat) (p : EnginePosition) (s : EngineRun) :
    EngineRun :=
  match checkPositionExit w.config.symbol p.toSimulatedPosition bar.1 (w.spread bar.1.openTime)
      (commissionOf w p) with
  | none => keep s p
  | some trade => afterExit w bar.2 p.side trade.exitReason (book s trade)

def settleAll (settle : EnginePosition -> EngineRun -> EngineRun) (s : EngineRun) : EngineRun :=
  s.openPositions.foldr settle { s with openPositions := [] }

/-!
# Scale-ins
-/

def InTrend (regime : DetailedRegime) : Prop :=
  regime = .strongTrend ∨ regime = .weakTrend

instance (regime : DetailedRegime) : Decidable (InTrend regime) :=
  inferInstanceAs (Decidable (_ ∨ _))

def positionRisk (w : Walk) (p : EnginePosition) : ℚ :=
  |p.entryPrice - p.slPrice| * p.lotSize * w.instrument.lotSizeUnits

def totalRisk (w : Walk) (positions : List EnginePosition) : ℚ :=
  (positions.map (positionRisk w)).sum

def maxEventRisk (s : EngineRun) : ℚ :=
  s.riskManager.balance * (20 / 100)

def closingPrice (w : Walk) (side : Side) (candle : BacktestCandle) : ℚ :=
  side.ahead candle.close (-(w.spread candle.openTime / 2))

def scaleInLot (p : EnginePosition) : ℚ :=
  roundTo 100 (p.lotSize * (1 / 2))

/-- A position that can be scaled into: at break-even, in the direction of the regime,
between 1 and 1.5 units of risk ahead. -/
def ScalesIn (w : Walk) (s : EngineRun) (rs : RegimeState) (candle : BacktestCandle)
    (p : EnginePosition) : Prop :=
  let risk := |p.entryPrice - p.originalSlPrice|
  let price := closingPrice w p.side candle
  let rMultiple := p.side.gain price p.entryPrice / risk
  p.isScaleIn = false ∧ p.hasScaleIn = false ∧ p.breakevenActivated = true ∧
    EngineTag.rangeEngine ∉ p.engineTags ∧ EngineTag.scaledIn ∉ p.engineTags ∧
    EngineTag.locker ∉ p.engineTags ∧ sideOf rs.direction = some p.side ∧ risk ≠ 0 ∧
    1 ≤ rMultiple ∧ rMultiple ≤ 15 / 10 ∧ 1 / 100 ≤ scaleInLot p ∧
    totalRisk w s.openPositions +
      |price - p.entryPrice| * scaleInLot p * w.instrument.lotSizeUnits ≤ maxEventRisk s

instance (w : Walk) (s : EngineRun) (rs : RegimeState) (candle : BacktestCandle)
    (p : EnginePosition) : Decidable (ScalesIn w s rs candle p) :=
  inferInstanceAs (Decidable (_ ∧ _ ∧ _ ∧ _ ∧ _ ∧ _ ∧ _ ∧ _ ∧ _ ∧ _ ∧ _ ∧ _))

/-- A scale-in does not inherit the tags of its parent's score and legs. -/
def inheritedTags (tags : List EngineTag) : List EngineTag :=
  tags.filter fun tag =>
    match tag with
    | .quality _ => false
    | .runner => false
    | .locker => false
    | _ => true

/-- The stop is the entry of the parent, and there is no target. -/
def scaleInOf (w : Walk) (rs : RegimeState) (bar : BacktestCandle × Nat) (p : EnginePosition) :
    EnginePosition :=
  let entryPrice := p.side.ahead bar.1.close (w.spread bar.1.openTime / 2)
  { p with
    entryPrice := roundTo (10 ^ w.instrument.pricePrecision) entryPrice
    slPrice := p.entryPrice
    tpPrice := none
    originalSlPrice := p.entryPrice
    breakevenActivated := false
    peakFavorablePrice := entryPrice
    lotSize := scaleInLot p
    entryTime := bar.1.openTime
    entryIndex := bar.2
    engineTags := inheritedTags p.engineTags ++ [.scaledIn]
    atrAtEntry := (valueAt w.m15Indicators.atr14 bar.2).getD p.atrAtEntry
    regimeAtEntry := rs.regime
    isScaleIn := true
    hasScaleIn := false }

/-- The first position that qualifies is marked, and its scale-in is added at the end. -/
def addScaleIn (qualifies : EnginePosition -> Bool) (scaleIn : EnginePosition -> EnginePosition) :
    List EnginePosition -> List EnginePosition
  | [] => []
  | p :: rest =>
      if qualifies p then { p with hasScaleIn := true } :: rest ++ [scaleIn p]
      else p :: addScaleIn qualifies scaleIn rest

def checkScaleIns (w : Walk) (rs : RegimeState) (bar : BacktestCandle × Nat) (s : EngineRun) :
    EngineRun :=
  if s.riskManager.getTradingMode = .defensive then s
  else if w.config.maxOpenPositions ≤ s.openPositions.length then s
  else if s.performanceTracker.getEngineConfidence (.of .trendPullback) ≤ 50 then s
  else
    { s with
      openPositions :=
        addScaleIn (fun p => decide (ScalesIn w s rs bar.1 p)) (scaleInOf w rs bar)
          s.openPositions }

def scaleInStep (w : Walk) (rs : RegimeState) (bar : BacktestCandle × Nat) (s : EngineRun) :
    EngineRun :=
  if InTrend rs.regime then checkScaleIns w rs bar s else s

/-- The first part of the loop body: all that happens before the search for setups. -/
def tradeStep (w : Walk) (s : EngineRun) (bar : BacktestCandle × Nat) : EngineRun :=
  let s := dateStep s bar.1.openTime
  let rs := regimeOf w s bar.1.openTime
  let s := gapStep w { s with regimeState := some rs } bar.2
  let s := manageStep w s bar.1
  let s := settleAll (maxBarsSettle w bar) s
  let s := settleAll (exitSettle w bar) s
  scaleInStep w rs bar s

/-!
# Setups
-/

/-- The quality floor of a setup, lower on Thursday and Friday when the week is short of
trades. -/
def getAdjustedMinQuality (currentTime : Int) (tracker : PerformanceTracker) : ℚ :=
  let deficit := tracker.getWeeklyTradeDeficit currentTime
  let dayOfWeek := weekdayOf (dayOf currentTime)
  if deficit = 0 then 35
  else if dayOfWeek = 5 then if 3 ≤ deficit then 22 else if 2 ≤ deficit then 28 else 30
  else if dayOfWeek = 4 then if 2 ≤ deficit then 28 else 30
  else 35

def evaluatorArgs (w : Walk) (rs : RegimeState) (s : EngineRun) (bar : BacktestCandle × Nat) :
    EvaluatorArgs :=
  { m15Candles := w.m15Candles
    m15Indicators := w.m15Indicators
    h1Candles := w.h1Candles
    h1Indicators := w.h1Indicators
    idx := bar.2
    spread := w.spread bar.1.openTime
    minAtr := w.instrument.minAtr
    pricePrecision := w.instrument.pricePrecision
    regimeState := rs
    minQuality := getAdjustedMinQuality bar.1.openTime s.performanceTracker
    getLocalHour := w.libs.getLocalHour }

def trendSignal (args : EvaluatorArgs) : Option SetupSignal :=
  if InTrend args.regimeState.regime ∨ args.regimeState.regime = .transitioning then
    evaluateSetup args
  else none

def fillStep (args : EvaluatorArgs) (s : EngineRun) : EngineRun × Option SetupSignal :=
  match evaluateFVGEntry args s.activeFVGs with
  | none => (s, none)
  | some signal =>
      ({ s with
          activeFVGs := retireGap signal.side args.idx s.activeFVGs
          fills := s.fills ++
            [{ bar := args.idx
               zone := s.activeFVGs.find? fun gap => decide (Fills args gap)
               marked := s.activeFVGs.find? fun gap =>
                 decide (Retirable signal.side args.idx gap) }] },
        some signal)

def rangeSignal (w : Walk) (args : EvaluatorArgs) (tradingMode : RiskManager.TradingMode) :
    Option SetupSignal :=
  if args.regimeState.regime = .ranging ∧ tradingMode ≠ .defensive then
    let useBB := w.profile.elim false PairProfile.bbReversal
    let useRange := w.profile.elim true PairProfile.rangeReversion
    (if useBB then evaluateBBReversal w.libs.computeBB args else none) <|>
      if useRange then evaluateRangeSetup args else none
  else none

def v6Signal (w : Walk) (args : EvaluatorArgs) (tradingMode : RiskManager.TradingMode) :
    Option SetupSignal :=
  if w.version = .v6 ∧ tradingMode ≠ .defensive then
    evaluateEmaCross args <|> evaluateMomentumContinuation args
  else none

def signalStep (w : Walk) (args : EvaluatorArgs) (tradingMode : RiskManager.TradingMode)
    (s : EngineRun) : EngineRun × Option SetupSignal :=
  match trendSignal args with
  | some signal => (s, some signal)
  | none =>
      let filled := fillStep args s
      (filled.1, filled.2 <|> rangeSignal w args tradingMode <|> v6Signal w args tradingMode)

/-!
# Entry
-/

def scored (w : Walk) (args : EvaluatorArgs) (t : Int) (signal : SetupSignal) :
    ℚ × List EngineTag :=
  let score := signal.qualityScore.getD (calculateQualityScore args t signal)
  if (w.profile.elim false PairProfile.d1ConfluenceRequired) = true ∧ w.d1Bias t ≠ .neutral then
    if sideOf (w.d1Bias t) = some signal.side then
      (min 100 (score + 5), signal.setupTags ++ [.withD1])
    else (max 0 (score - 10), signal.setupTags ++ [.counterD1])
  else (score, signal.setupTags)

def BelowFloor (w : Walk) (quality : ℚ) : Prop :=
  w.version = .v6 ∧ quality < w.profile.elim 35 PairProfile.qualityFloor

instance (w : Walk) (quality : ℚ) : Decidable (BelowFloor w quality) :=
  inferInstanceAs (Decidable (_ ∧ _))

def windowOf (tags : List EngineTag) : EngineWindow :=
  if EngineTag.bbReversal ∈ tags then .bbReversal
  else if EngineTag.rangeEngine ∈ tags then .of .rangeEngine
  else if EngineTag.fvgFill ∈ tags then .of .fvgFill
  else .of .trendPullback

def lotSizeOf (s : EngineRun) (rs : RegimeState) (signal : SetupSignal) (quality : ℚ)
    (tags : List EngineTag) : ℚ :=
  s.riskManager.calculateLotSize |signal.entryPrice - signal.slPrice| (some quality)
    (some rs.regime) (some (s.performanceTracker.getEngineConfidence (windowOf tags)))
    (some signal.entryPrice)

/-- The ATR is at least 1.3 times its baseline; over a baseline of zero the quotient of the
source is infinite. -/
def ElevatedVolatility (ind : IndicatorState) (i : Nat) : Prop :=
  match valueAt ind.atr14 i, valueAt ind.atrBaseline i with
  | some atr, some atrBaseline =>
      if atrBaseline = 0 then 0 < atr else 13 / 10 ≤ atr / atrBaseline
  | _, _ => False

instance (ind : IndicatorState) (i : Nat) : Decidable (ElevatedVolatility ind i) := by
  unfold ElevatedVolatility
  split
  · split <;> infer_instance
  · infer_instance

/-- A second position in a direction, next to one at break-even in a strong trend. -/
def MayStack (w : Walk) (s : EngineRun) (rs : RegimeState)
    (tradingMode : RiskManager.TradingMode) (i : Nat) (same : List EnginePosition)
    (newRisk : ℚ) : Prop :=
  same = [] ∨
    same.length < 2 ∧ (forall p, p ∈ same -> p.breakevenActivated = true) ∧
      rs.regime = .strongTrend ∧ tradingMode ≠ .defensive ∧
      ¬ ElevatedVolatility w.m15Indicators i ∧ totalRisk w same + newRisk ≤ maxEventRisk s

instance (w : Walk) (s : EngineRun) (rs : RegimeState) (tradingMode : RiskManager.TradingMode)
    (i : Nat) (same : List EnginePosition) (newRisk : ℚ) :
    Decidable (MayStack w s rs tradingMode i same newRisk) :=
  have : Decidable (same = []) := decidable_of_iff (same.isEmpty = true) List.isEmpty_iff
  inferInstanceAs (Decidable (_ ∨ _ ∧ _ ∧ _ ∧ _ ∧ _ ∧ _))

def basePosition (rs : RegimeState) (bar : BacktestCandle × Nat) (signal : SetupSignal)
    (tags : List EngineTag) (lotSize : ℚ) : EnginePosition :=
  { side := signal.side
    entryPrice := signal.entryPrice
    slPrice := signal.slPrice
    tpPrice := some signal.tpPrice
    originalSlPrice := signal.slPrice
    breakevenActivated := false
    peakFavorablePrice := signal.entryPrice
    rangeEngine := decide (EngineTag.rangeEngine ∈ tags)
    fvgFill := decide (EngineTag.fvgFill ∈ tags)
    trailConfig :=
      some (signal.regimeTradeParams.getD (getRegimeParams rs.regime)).toRegimeTradeParams
    lotSize := lotSize
    entryTime := bar.1.openTime
    entryIndex := bar.2
    setupTags := []
    h1Bias := signal.h1Bias
    rsiAtEntry := signal.rsiAtEntry
    atrAtEntry := signal.atrAtEntry
    regimeAtEntry := rs.regime
    engineTags := tags }

def openedPositions (w : Walk) (rs : RegimeState) (bar : BacktestCandle × Nat)
    (signal : SetupSignal) (quality : ℚ) (tags : List EngineTag) (lotSize : ℚ) :
    List EnginePosition :=
  let position := basePosition rs bar signal tags lotSize
  if (rs.regime = .strongTrend ∨ 65 ≤ quality) ∧ EngineTag.pyramid ∉ tags ∧
      2 / 100 ≤ lotSize then
    let risk := |signal.entryPrice - signal.slPrice|
    let lockerTp := signal.side.ahead signal.entryPrice (risk * 1)
    let lockerLot := roundTo 100 (lotSize * (3 / 10))
    { position with engineTags := tags ++ [.runner] } ::
      if 1 / 100 ≤ lockerLot then
        [{ position with
            lotSize := lockerLot
            tpPrice := some (roundTo (10 ^ w.instrument.pricePrecision) lockerTp)
            engineTags := tags ++ [.locker] }]
      else []
  else [position]

/-- From the setup to the positions it opens, through floor, loss limit, lot and stacking
guards. -/
def enterStep (w : Walk) (rs : RegimeState) (args : EvaluatorArgs)
    (tradingMode : RiskManager.TradingMode) (bar : BacktestCandle × Nat) (signal : SetupSignal)
    (s : EngineRun) : EngineRun :=
  let quality := (scored w args bar.1.openTime signal).1
  let tags := (scored w args bar.1.openTime signal).2 ++ [.quality quality]
  let lotSize := lotSizeOf s rs signal quality tags
  let same := s.openPositions.filter fun p => decide (p.side = signal.side)
  let newRisk := |signal.entryPrice - signal.slPrice| * lotSize * w.instrument.lotSizeUnits
  if BelowFloor w quality then s
  else if 3 ≤ s.dailySlCount signal.side then s
  else if lotSize ≤ 0 then s
  else if MayStack w s rs tradingMode bar.2 same newRisk then
    { s with
      openPositions := s.openPositions ++
        openedPositions w rs bar signal quality (tags ++ [.mode tradingMode]) lotSize
      cooldownUntil := bar.2 + 1 }
  else s

def setupStep (w : Walk) (rs : RegimeState) (bar : BacktestCandle × Nat) (s : EngineRun) :
    EngineRun :=
  let tradingMode := s.riskManager.getTradingMode
  let args := evaluatorArgs w rs s bar
  let searched := signalStep w args tradingMode s
  match searched.2 with
  | none => searched.1
  | some signal => enterStep w rs args tradingMode bar signal searched.1

/-- Cooldowns, news and risk manager, in this order. -/
def gateStep (w : Walk) (rs : RegimeState) (bar : BacktestCandle × Nat) (s : EngineRun) :
    EngineRun :=
  if (bar.2 : Int) ≤ s.cooldownUntil ∨ (bar.2 : Int) ≤ s.slCooldownUntil then s
  else if w.inNewsBlackout bar.1.openTime = true then s
  else
    let gate := s.riskManager.canTrade (dayStart (dayOf bar.1.openTime)) s.openPositions.length
    let s := { s with riskManager := gate.1 }
    if gate.2 = false then s else setupStep w rs bar s

def barStep (w : Walk) (s : EngineRun) (bar : BacktestCandle × Nat) : EngineRun :=
  let rs := regimeOf w s bar.1.openTime
  gateStep w rs bar (tradeStep w s bar)

def Walk.bars (w : Walk) : List (BacktestCandle × Nat) :=
  w.m15Candles.zipIdx

def run (w : Walk) (bars : Nat) : EngineRun :=
  runFrom (barStep w) (.start w.config) (w.bars.take bars)

end WalkForward
end Backtest
end Shamarx
