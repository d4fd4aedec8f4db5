import Shamarx.Orchestrator.State
import Shamarx.Engine.NewsCalendar

/-!
# Evaluation of an M15 close

`evaluate` in the order of the source: sweep detection on the newly closed H1
bars, expiry, the trade gates, and the newest-first pass over the queue.
-/

namespace Shamarx
namespace Orchestrator

open Foundation
open Engine

/-!
# Inputs
-/

structure CandleBundle where
  m15 : List BacktestCandle
  h1 : List BacktestCandle
  d1 : List BacktestCandle

structure PrecomputedIndicators where
  m15 : IndicatorState
  h1 : IndicatorState
  d1 : Option IndicatorState

structure Cursor (b : CandleBundle) where
  m15 : Nat
  h1 : Nat
  d1 : Nat
  m15_le : m15 ≤ b.m15.length
  h1_le : h1 ≤ b.h1.length
  d1_le : d1 ≤ b.d1.length

/-- Without a cursor the arrays count as they are. -/
def Cursor.full (b : CandleBundle) : Cursor b :=
  { m15 := b.m15.length
    h1 := b.h1.length
    d1 := b.d1.length
    m15_le := le_refl _
    h1_le := le_refl _
    d1_le := le_refl _ }

structure LiveContext where
  accountEquity : ℚ
  openDirections : List Side
  totalOpenPositions : Nat
  riskPercent : Option ℚ
  maxOpenPositions : Option Nat

/-!
# Signals
-/

inductive Session where
  | london
  | ny
  deriving DecidableEq, Repr

inductive SetupTag where
  | smc
  | sweep
  | session (s : Session)
  | mode (m : SmcMode)
  | tp1
  | runner
  deriving DecidableEq, Repr

structure SmcLiveSignalLeg where
  lotSize : ℚ
  tpPrice : ℚ
  setupTags : List SetupTag
  deriving DecidableEq

/-- The arguments the reason text is formatted from; the ADX has one decimal. -/
structure SignalReason where
  mode : SmcMode
  direction : Side
  symbol : Instrument
  d1Adx : ℚ
  d1Bias : D1Bias
  session : Session
  ladder : Bool
  deriving DecidableEq

structure GateZones where
  fvg : Option Zone
  ob : Option Zone
  bos : Option BrokenLevel
  obOrigin : Option Zone
  impulseFvg : Option Zone
  bosOrigin : Option BrokenLevel
  deriving DecidableEq

structure SmcContext where
  anchorType : Option AnchorType
  sweptLevel : ℚ
  sweptHigh : ℚ
  sweptLow : ℚ
  sweepCandleTime : Int
  d1Bias : D1Bias
  gates : GateZones
  deriving DecidableEq

structure SmcLiveSignal where
  symbol : Instrument
  side : Side
  entryPrice : ℚ
  slPrice : ℚ
  tpPrice : ℚ
  totalLot : ℚ
  legs : List SmcLiveSignalLeg
  mode : SmcMode
  h1SweepTime : Int
  reason : SignalReason
  smcContext : Option SmcContext
  deriving DecidableEq

/-!
# The frame of one call
-/

structure Frame where
  candles : CandleBundle
  m15Len : Nat
  h1Len : Nat
  lastM15 : BacktestCandle
  m15Indicators : IndicatorState
  h1Indicators : IndicatorState
  d1Indicators : Option IndicatorState
  liveD1Bias : D1Bias
  liveD1Adx : ℚ

/-- Indicators of a call: the precomputed ones, or fresh ones.  Fresh D1
indicators need more than 30 bars. -/
def callIndicators (env : EngineEnv) (b : CandleBundle) :
    Option PrecomputedIndicators -> PrecomputedIndicators
  | some pre => pre
  | none =>
      { m15 := computeIndicators env.indicators b.m15
        h1 := computeIndicators env.indicators b.h1
        d1 :=
          if 30 < b.d1.length then some (computeIndicators env.indicators b.d1) else none }

def adxBefore (d1Indicators : Option IndicatorState) (d1Len : Nat) : ℚ :=
  match d1Indicators, d1Len with
  | some ind, n + 1 => (valueAt ind.adx14 n).getD 0
  | _, _ => 0

def makeFrame (b : CandleBundle) (ind : PrecomputedIndicators) (cursor : Cursor b)
    (lastM15 : BacktestCandle) : Frame :=
  { candles := b
    m15Len := cursor.m15
    h1Len := cursor.h1
    lastM15 := lastM15
    m15Indicators := ind.m15
    h1Indicators := ind.h1
    d1Indicators := ind.d1
    liveD1Bias :=
      match ind.d1 with
      | some d1 => getD1Bias b.d1 d1 lastM15.openTime
      | none => .neutral
    liveD1Adx := adxBefore ind.d1 cursor.d1 }

/-!
# Detection and expiry
-/

def findH1IdxAfter (h1Candles : List BacktestCandle) (after : Int) (maxIdx : Nat) : Nat :=
  (scanUp 0 (maxIdx + 1) fun i => do
    let c <- h1Candles[i]?
    if after < c.openTime then some i else none).getD maxIdx

def admittedSetup (cfg : SmcPairConfig) (f : Frame) (actionedSweeps : List Int)
    (idx : Nat) : Option PendingSetup := do
  if f.liveD1Adx < cfg.d1AdxFloor then none
  else
    let setup <- detectSweep f.candles.h1 f.h1Indicators idx f.liveD1Bias f.liveD1Adx cfg
      f.candles.d1 f.d1Indicators f.lastM15.openTime
    if setup.mode ∈ cfg.disabledModes ∨ setup.sweepTime ∈ actionedSweeps ∨
        (setup.mode = .continuation ∧ cfg.disableContinuation = true) then none
    else some setup

/-- Sweep detection on every H1 bar closed since the last call, one bar behind
the latest. -/
def detectStep (cfg : SmcPairConfig) (f : Frame) (s : OrchestratorState) :
    OrchestratorState :=
  let lastUsableH1Idx := f.h1Len - 2
  match f.candles.h1[lastUsableH1Idx]? with
  | none => s
  | some lastUsableH1 =>
      if s.lastProcessedH1Time = some lastUsableH1.openTime then s
      else
        let firstUnprocessedIdx :=
          match s.lastProcessedH1Time with
          | some after => findH1IdxAfter f.candles.h1 after lastUsableH1Idx
          | none => lastUsableH1Idx
        let found :=
          (List.range' firstUnprocessedIdx (lastUsableH1Idx + 1 - firstUnprocessedIdx)).filterMap
            (admittedSetup cfg f s.actionedSweeps)
        { s with
          pending := s.pending ++ found
          lastProcessedH1Time := some lastUsableH1.openTime }

def expireStep (f : Frame) (s : OrchestratorState) : OrchestratorState :=
  { s with pending := s.pending.filter fun p => decide (f.h1Len - 1 ≤ p.expiresAtH1Idx) }

/-!
# Entry geometry
-/

structure EntryPlan where
  entryPrice : ℚ
  slPrice : ℚ

def EntryPlan.slPoints (p : EntryPlan) : ℚ :=
  |p.entryPrice - p.slPrice|

def m15AtrOf (f : Frame) : Option ℚ :=
  valueAt f.m15Indicators.atr14 (f.m15Len - 1)

/-- Stop buffer: the M15 ATR when it is there and positive, else the ATR of the
sweep candle. -/
def slBufferOf (cfg : SmcPairConfig) (f : Frame) (setup : PendingSetup) : ℚ :=
  match m15AtrOf f with
  | some atr =>
      if 0 < atr then atr * cfg.slBufferAtrM15 else setup.sweepCandleAtr * cfg.slBufferAtrM15
  | none => setup.sweepCandleAtr * cfg.slBufferAtrM15

def planEntry (symbol : Instrument) (cfg : SmcPairConfig) (f : Frame)
    (setup : PendingSetup) : EntryPlan :=
  let halfSpread := getSpread symbol f.lastM15.openTime / 2
  let slBuffer := slBufferOf cfg f setup
  match setup.direction, setup.mode with
  | .buy, .continuation =>
      ⟨f.lastM15.close + halfSpread, setup.sweepCandleLow - slBuffer⟩
  | .buy, .reversal => ⟨f.lastM15.close + halfSpread, setup.sweepWick - slBuffer⟩
  | .sell, .continuation =>
      ⟨f.lastM15.close - halfSpread, setup.sweepCandleHigh + slBuffer⟩
  | .sell, .reversal => ⟨f.lastM15.close - halfSpread, setup.sweepWick + slBuffer⟩

def LooseStop (cfg : SmcPairConfig) (setup : PendingSetup) (p : EntryPlan) : Prop :=
  0 < cfg.maxSlSweepRatio.getD 0 ∧ 0 < setup.sweepCandleHigh - setup.sweepCandleLow ∧
    cfg.maxSlSweepRatio.getD 0 <
      p.slPoints / (setup.sweepCandleHigh - setup.sweepCandleLow)

def SlProtective (setup : PendingSetup) (p : EntryPlan) : Prop :=
  match setup.direction with
  | .buy => p.slPrice < p.entryPrice
  | .sell => p.entryPrice < p.slPrice

def WideStop (cfg : SmcPairConfig) (m15Atr : Option ℚ) (p : EntryPlan) : Prop :=
  match m15Atr with
  | some atr =>
      0 < cfg.maxSlAtrM15.getD 0 ∧ 0 < atr ∧ cfg.maxSlAtrM15.getD 0 < p.slPoints / atr
  | none => False

instance (cfg : SmcPairConfig) (setup : PendingSetup) (p : EntryPlan) :
    Decidable (LooseStop cfg setup p) :=
  inferInstanceAs (Decidable (_ ∧ _ ∧ _))

instance (setup : PendingSetup) (p : EntryPlan) : Decidable (SlProtective setup p) := by
  unfold SlProtective
  split <;> infer_instance

instance (cfg : SmcPairConfig) (m15Atr : Option ℚ) (p : EntryPlan) :
    Decidable (WideStop cfg m15Atr p) :=
  match m15Atr with
  | some _ => inferInstanceAs (Decidable (_ ∧ _ ∧ _))
  | none => inferInstanceAs (Decidable False)

/-!
# Structure gates

A gate that is off passes with no zone; a gate that is on passes with the zone
it found.  A none for the whole is a failed gate.
-/

def runGate (enabled : Bool) (gate : Option zone) : Option (Option zone) :=
  if enabled then gate.map some else some none

def Bos.mark (b : Bos) : BrokenLevel :=
  { level := b.level, brokenAtTime := b.brokenAtTime }

def needsSweptIdx (cfg : SmcPairConfig) : Bool :=
  cfg.useObOriginGate || cfg.useImpulseFvgGate || cfg.useBosOriginGate

def originGates (cfg : SmcPairConfig) (f : Frame) (setup : PendingSetup)
    (sweptSwingIdx : Nat) : Option (Option Zone × Option Zone × Option BrokenLevel) := do
  let obOrigin <- runGate cfg.useObOriginGate
    (hasFreshObAtSweptLevel f.candles.h1 sweptSwingIdx setup.direction
      (cfg.obOriginLookback.getD 12) f.h1Indicators.atr14
      (cfg.obOriginDisplacementAtr.getD (12 / 10)))
  let impulseFvg <- runGate cfg.useImpulseFvgGate
    (sweptMoveLeftFvg f.candles.h1 sweptSwingIdx setup.direction
      (cfg.impulseFvgLookback.getD 5) f.h1Indicators.atr14)
  let bosOrigin <- runGate cfg.useBosOriginGate
    (sweptLevelWasItselfABos f.candles.h1 sweptSwingIdx setup.direction
      (cfg.bosOriginLookback.getD 24))
  some (obOrigin.map OrderBlock.zone, impulseFvg.map Fvg.zone, bosOrigin)

def entryGates (cfg : SmcPairConfig) (f : Frame) (setup : PendingSetup) (entryPrice : ℚ) :
    Option (Option Zone × Option Zone × Option BrokenLevel) := do
  let fvg <- runGate cfg.useFvgGate
    (hasSupportingFvg f.candles.m15 setup.direction entryPrice
      (cfg.fvgGateMaxDistanceAtr.getD (15 / 10)) f.m15Indicators.atr14 (f.m15Len - 1))
  let ob <- runGate cfg.useObGate
    (hasSupportingOb f.candles.h1 setup.direction entryPrice
      (cfg.obGateMaxDistanceAtr.getD 2) f.h1Indicators.atr14 (f.h1Len - 1))
  let bos <- runGate cfg.useBosGate
    (hasBosAfter f.candles.h1 setup.direction setup.detectedAtH1Idx (f.h1Len - 1)
      (cfg.bosGateSwingLookback.getD cfg.recentSwingLookbackH1))
  some (fvg.map Fvg.zone, ob.map OrderBlock.zone, bos.map Bos.mark)

def sweptIdxOf (cfg : SmcPairConfig) (f : Frame) (setup : PendingSetup) :
    Except EngineError (Option Nat) :=
  findSweptSwingIdx f.candles.h1 setup.detectedAtH1Idx setup.direction setup.sweepLevel
    cfg.recentSwingLookbackH1

def structureGates (cfg : SmcPairConfig) (f : Frame) (setup : PendingSetup)
    (entryPrice : ℚ) : Except EngineError (Option GateZones) :=
  match entryGates cfg f setup entryPrice with
  | none => .ok none
  | some (fvg, ob, bos) =>
      if needsSweptIdx cfg then
        match sweptIdxOf cfg f setup with
        | .error e => .error e
        | .ok none => .ok none
        | .ok (some sweptSwingIdx) =>
            .ok ((originGates cfg f setup sweptSwingIdx).map fun (obOrigin, impulseFvg, bosOrigin) =>
              ⟨fvg, ob, bos, obOrigin, impulseFvg, bosOrigin⟩)
      else .ok (some ⟨fvg, ob, bos, none, none, none⟩)

/-!
# Sizing and the signal
-/

/-- The risk configuration a call sizes with: a new manager on the account
equity, not the manager that gates the symbol. -/
def sizingConfig (env : EngineEnv) (symbol : Instrument) (ctx : LiveContext) :
    EngineConfig :=
  { symbol := symbol
    initialBalance := ctx.accountEquity
    riskPercent := ctx.riskPercent.getD env.riskPercent
    maxDailyLossPercent := 4
    maxConsecutiveLosses := 5
    maxOpenPositions := ctx.maxOpenPositions.getD 4 }

def baseLot (env : EngineEnv) (symbol : Instrument) (ctx : LiveContext) (p : EntryPlan) :
    ℚ :=
  (RiskManager.create (sizingConfig env symbol ctx)).calculateLotSize p.slPoints (some 60)
    (some .weakTrend) (some 50) (some p.entryPrice)

def convictionLot (cfg : SmcPairConfig) (setup : PendingSetup) (p : EntryPlan) (lot : ℚ) :
    ℚ :=
  match cfg.convictionSizing with
  | none => lot
  | some cs =>
      let csRange := setup.sweepCandleHigh - setup.sweepCandleLow
      if 0 < csRange then
        let mult := if p.slPoints / csRange < cs.tightRatio then cs.tightMult else cs.looseMult
        roundTo 100 (lot * mult)
      else lot

def totalLotOf (env : EngineEnv) (symbol : Instrument) (cfg : SmcPairConfig)
    (ctx : LiveContext) (setup : PendingSetup) (p : EntryPlan) : ℚ :=
  convictionLot cfg setup p (baseLot env symbol ctx p)

def usesLadder (cfg : SmcPairConfig) : Bool :=
  decide (0 < cfg.tp1PartialFraction)

def sessionOf (t : Int) : Session :=
  if hourOf t < 12 then .london else .ny

def targetPrice (setup : PendingSetup) (p : EntryPlan) (r : ℚ) : ℚ :=
  match setup.direction with
  | .buy => p.entryPrice + p.slPoints * r
  | .sell => p.entryPrice - p.slPoints * r

def smcContextOf (f : Frame) (setup : PendingSetup) (gates : GateZones) :
    Option SmcContext :=
  f.candles.h1[setup.detectedAtH1Idx]?.map fun sweepCandle =>
    { anchorType := setup.anchorType
      sweptLevel := setup.sweepLevel
      sweptHigh := setup.sweepCandleHigh
      sweptLow := setup.sweepCandleLow
      sweepCandleTime := sweepCandle.openTime
      d1Bias := f.liveD1Bias
      gates := gates }

def tp1LotOf (cfg : SmcPairConfig) (totalLot : ℚ) : ℚ :=
  max (1 / 100) (roundTo 100 (totalLot * cfg.tp1PartialFraction))

/-- Both legs have at least the minimal lot, so the source's last check on them
never skips a setup. -/
def runnerLotOf (cfg : SmcPairConfig) (totalLot : ℚ) : ℚ :=
  max (1 / 100) (roundTo 100 (totalLot - tp1LotOf cfg totalLot))

def buildSignal (symbol : Instrument) (cfg : SmcPairConfig) (f : Frame)
    (setup : PendingSetup) (p : EntryPlan) (gates : GateZones) (totalLot : ℚ) :
    SmcLiveSignal :=
  let round := roundTo (10 ^ (getInstrumentConfig symbol).pricePrecision)
  let session := sessionOf f.lastM15.openTime
  let baseTags := [SetupTag.smc, .sweep, .session session, .mode setup.mode]
  let tp1Price := targetPrice setup p cfg.tp1R
  let tp2Price := targetPrice setup p cfg.tp2R
  let ladder := usesLadder cfg
  { symbol := symbol
    side := setup.direction
    entryPrice := round p.entryPrice
    slPrice := round p.slPrice
    tpPrice := if ladder then round tp1Price else round tp2Price
    totalLot := totalLot
    legs :=
      if ladder then
        [{ lotSize := tp1LotOf cfg totalLot, tpPrice := round tp1Price,
           setupTags := baseTags ++ [.tp1] },
         { lotSize := runnerLotOf cfg totalLot, tpPrice := round tp2Price,
           setupTags := baseTags ++ [.runner] }]
      else
        [{ lotSize := totalLot, tpPrice := round tp2Price,
           setupTags := baseTags ++ [.runner] }]
    mode := setup.mode
    h1SweepTime := setup.sweepTime
    reason :=
      { mode := setup.mode
        direction := setup.direction
        symbol := symbol
        d1Adx := roundTo 10 f.liveD1Adx
        d1Bias := f.liveD1Bias
        session := session
        ladder := ladder }
    smcContext := smcContextOf f setup gates }

/-- Too small to place; the ladder needs two minimal legs. -/
def LotTooSmall (cfg : SmcPairConfig) (totalLot : ℚ) : Prop :=
  if usesLadder cfg then totalLot < 2 / 100 else totalLot < 1 / 100

instance (cfg : SmcPairConfig) (totalLot : ℚ) : Decidable (LotTooSmall cfg totalLot) :=
  inferInstanceAs
    (Decidable (if usesLadder cfg then totalLot < 2 / 100 else totalLot < 1 / 100))

/-!
# The pass over the queue
-/

inductive Verdict where
  | keep
  | drop
  | fire (signal : SmcLiveSignal)
  | throw (error : EngineError)

/-- Gates, sizing and signal of a setup with an acceptable stop. -/
def sizeAndFire (env : EngineEnv) (symbol : Instrument) (cfg : SmcPairConfig) (f : Frame)
    (ctx : LiveContext) (setup : PendingSetup) (p : EntryPlan) : Verdict :=
  match structureGates cfg f setup p.entryPrice with
  | .error e => .throw e
  | .ok none => .keep
  | .ok (some gates) =>
      let totalLot := totalLotOf env symbol cfg ctx setup p
      if LotTooSmall cfg totalLot then .keep
      else .fire (buildSignal symbol cfg f setup p gates totalLot)

def judge (env : EngineEnv) (symbol : Instrument) (cfg : SmcPairConfig) (f : Frame)
    (ctx : LiveContext) (actionedSweeps : List Int) (setup : PendingSetup) : Verdict :=
  let p := planEntry symbol cfg f setup
  if setup.direction ∈ ctx.openDirections then .keep
  else if setup.sweepTime ∈ actionedSweeps then .drop
  else if p.slPoints ≤ 0 then .drop
  else if LooseStop cfg setup p then .keep
  else if ¬ SlProtective setup p then .drop
  else if WideStop cfg (m15AtrOf f) p then .drop
  else sizeAndFire env symbol cfg f ctx setup p

/-- The pass, newest setup first: what stays queued and what is returned. -/
def fireLoop (judgeOf : PendingSetup -> Verdict) :
    List PendingSetup -> List PendingSetup × Except EngineError (Option SmcLiveSignal)
  | [] => ([], .ok none)
  | setup :: older =>
      match judgeOf setup with
      | .keep => (setup :: (fireLoop judgeOf older).1, (fireLoop judgeOf older).2)
      | .drop => fireLoop judgeOf older
      | .fire signal => (setup :: older, .ok (some signal))
      | .throw e => (setup :: older, .error e)

def fireStep (env : EngineEnv) (symbol : Instrument) (cfg : SmcPairConfig) (f : Frame)
    (ctx : LiveContext) (s : OrchestratorState) :
    OrchestratorState × Except EngineError (Option SmcLiveSignal) :=
  let out := fireLoop (judge env symbol cfg f ctx s.actionedSweeps) s.pending.reverse
  ({ s with pending := out.1.reverse }, out.2)

/-!
# Trade gates
-/

def EntryClosed (cfg : SmcPairConfig) (t : Int) : Prop :=
  (0 < cfg.newsBlackoutMinutes.getD 0 ∧
      isInBlackout t (cfg.newsBlackoutMinutes.getD 0) = true) ∨
    (cfg.killzones.any fun (s, e) => decide (s ≤ hourOf t ∧ hourOf t < e)) = false ∨
    weekdayOf (dayOf t) ∈ cfg.skipEntryDows

instance (cfg : SmcPairConfig) (t : Int) : Decidable (EntryClosed cfg t) :=
  inferInstanceAs (Decidable (_ ∨ _ ∨ _))

def gateStep (env : EngineEnv) (symbol : Instrument) (cfg : SmcPairConfig) (f : Frame)
    (ctx : LiveContext) (s : OrchestratorState) :
    OrchestratorState × Except EngineError (Option SmcLiveSignal) :=
  if 0 < s.cooldownBarsRemaining then
    ({ s with cooldownBarsRemaining := s.cooldownBarsRemaining - 1 }, .ok none)
  else if EntryClosed cfg f.lastM15.openTime then (s, .ok none)
  else
    let gate := s.riskManager.canTrade f.lastM15.openTime ctx.totalOpenPositions
    let s := { s with riskManager := gate.1 }
    if gate.2 then fireStep env symbol cfg f ctx s else (s, .ok none)

def evaluateState (env : EngineEnv) (symbol : Instrument) (cfg : SmcPairConfig) (f : Frame)
    (ctx : LiveContext) (s : OrchestratorState) :
    OrchestratorState × Except EngineError (Option SmcLiveSignal) :=
  gateStep env symbol cfg f ctx (expireStep f (detectStep cfg f s))

def evaluateAt (env : EngineEnv) (o : LiveSmcOrchestrator) (symbol : Instrument)
    (b : CandleBundle) (ctx : LiveContext) (precomputed : Option PrecomputedIndicators)
    (cursor : Cursor b) :
    LiveSmcOrchestrator × Except EngineError (Option SmcLiveSignal) :=
  if cursor.m15 < 30 ∨ cursor.h1 < 30 then (o, .ok none)
  else
    match getSmcPairConfig env.overrides symbol with
    | none => (o, .error .noPairConfig)
    | some cfg =>
        let state := o.getOrCreateState symbol
        match b.m15[cursor.m15 - 1]? with
        | none => (o.setState symbol state, .error .typeError)
        | some lastM15 =>
            let frame := makeFrame b (callIndicators env b precomputed) cursor lastM15
            let out := evaluateState env symbol cfg frame ctx state
            (o.setState symbol out.1, out.2)

def evaluate (env : EngineEnv) (o : LiveSmcOrchestrator) (symbol : Instrument)
    (b : CandleBundle) (ctx : LiveContext) (precomputed : Option PrecomputedIndicators)
    (cursor : Option (Cursor b)) :
    LiveSmcOrchestrator × Except EngineError (Option SmcLiveSignal) :=
  evaluateAt env o symbol b ctx precomputed (cursor.getD (Cursor.full b))

/-!
# A gold market

Concrete inputs for runs: flat H1 bars with one wick above the previous day's
high, and D1 bars that alternate so that their ADX stays between the floor and
the trending threshold of the pair.
-/

def documentedEnv : EngineEnv :=
  { indicators := documentedIndicators, overrides := noOverrides, riskPercent := 15 / 10 }

def goldStart : Int :=
  dayStart 20500 + 20 * msPerHour

def goldBar (sweepAt i : Nat) : BacktestCandle :=
  { openTime := goldStart + i * msPerHour
    open_ := 2000
    high := if i = sweepAt then 2010 else 2005
    low := 1995
    close := 2000 }

def goldD1Bar (i : Nat) : BacktestCandle :=
  let mid : ℚ := 2000 + 3 * ((i + 1) / 2 : Nat) - 2 * (i / 2 : Nat)
  { openTime := dayStart (20480 + i)
    open_ := mid
    high := mid + 10
    low := mid - 10
    close := mid }

def goldD1 : List BacktestCandle :=
  (List.range 31).map goldD1Bar

def flatM15 (close halfRange : ℚ) (t : Int) : List BacktestCandle :=
  (List.range 30).map fun i =>
    { openTime := t - (29 - i) * (15 * msPerMinute)
      open_ := close
      high := close + halfRange
      low := close - halfRange
      close := close }

def goldContext : LiveContext :=
  { accountEquity := 10000
    openDirections := []
    totalOpenPositions := 0
    riskPercent := none
    maxOpenPositions := none }

def twoWickBar (i : Nat) : BacktestCandle :=
  { goldBar 58 i with high := if i = 58 ∨ i = 62 then 2010 else 2005 }

def twoWickWindow (bars quarter : Nat) : CandleBundle :=
  { m15 := flatM15 2004 2 (goldStart + bars * msPerHour + quarter * (15 * msPerMinute))
    h1 := (List.range bars).map twoWickBar
    d1 := goldD1 }

def goldSetup : PendingSetup :=
  { direction := .sell
    sweepLevel := 2005
    sweepWick := 2010
    sweepMid := 4005 / 2
    sweepCandleAtr := 145 / 14
    sweepCandleHigh := 2010
    sweepCandleLow := 1995
    detectedAtH1Idx := 58
    expiresAtH1Idx := 66
    mode := .reversal
    sweepTime := goldStart + 58 * msPerHour
    anchorType := some .pdh }

end Orchestrator
end Shamarx
