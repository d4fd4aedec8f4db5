import Shamarx.Backtest.PositionExit
import Shamarx.Engine.Locality
import Shamarx.Engine.NewsCalendar
import Shamarx.Foundation.Runs

/-!
# The SMC backtest

One pass over the M15 bars of a pair: exits, sweep detection on each new H1 bar, expiry
of stale setups, the trade gates and at most one entry a bar.
-/

namespace Shamarx
namespace Backtest

open Foundation
open Engine
open Orchestrator (EngineEnv PrecomputedIndicators SetupTag sessionOf)

/-- The candle arrays of a run in the order of their times, as the store returns them. -/
structure BacktestInput where
  m15 : List BacktestCandle
  h1 : List BacktestCandle
  d1 : List BacktestCandle
  m15_ordered : InTimeOrder m15
  h1_ordered : InTimeOrder h1
  d1_ordered : InTimeOrder d1

def inputIndicators (lib : TechnicalIndicators) (inp : BacktestInput) : PrecomputedIndicators :=
  { m15 := computeIndicators lib inp.m15
    h1 := computeIndicators lib inp.h1
    d1 := if 0 < inp.d1.length then some (computeIndicators lib inp.d1) else none }

/-- The locals of the loop.  The last field is history: every position that was opened. -/
structure SmcRun where
  riskManager : RiskManager
  openPositions : List SimulatedPosition
  closed : List ClosedTrade
  pending : List PendingSetup
  lastProcessedH1 : Int
  cooldownUntil : Int
  opened : List SimulatedPosition

def SmcRun.start (config : EngineConfig) : SmcRun :=
  { riskManager := .create config
    openPositions := []
    closed := []
    pending := []
    lastProcessedH1 := -1
    cooldownUntil := -1
    opened := [] }

/-!
# Lookups by time
-/

def indexForTime (candles : List BacktestCandle) (t : Int) : Int :=
  match d1IdxAt candles t with
  | some idx => idx
  | none => -1

/-- D1 ADX at the given time, or 0 if unavailable. -/
def d1AdxAt (d1Candles : List BacktestCandle) (d1Indicators : Option IndicatorState)
    (t : Int) : ℚ :=
  match d1Indicators, d1IdxAt d1Candles t with
  | some ind, some idx => (valueAt ind.adx14 idx).getD 0
  | _, _ => 0

def d1BiasAt (d1Candles : List BacktestCandle) (d1Indicators : Option IndicatorState)
    (t : Int) : D1Bias :=
  match d1Indicators with
  | some ind => getD1Bias d1Candles ind t
  | none => .neutral

/-!
# Exits
-/

def managePosition (candle : BacktestCandle) (spread : ℚ) (p : SimulatedPosition) :
    SimulatedPosition :=
  { p with toManagedPosition := updatePositionManagement p.toManagedPosition candle spread }

def cooldownAfter (cfg : SmcPairConfig) : ExitReason -> Nat
  | .tp => 2
  | .sl => cfg.slCooldownBars
  | _ => 1

def settle (symbol : Instrument) (cfg : SmcPairConfig) (bar : BacktestCandle × Nat)
    (p : SimulatedPosition) (s : SmcRun) : SmcRun :=
  match checkPositionExit symbol p bar.1 (getSpread symbol bar.1.openTime)
      (p.lotSize * (getInstrumentConfig symbol).commissionPerLot) with
  | none => { s with openPositions := p :: s.openPositions }
  | some trade =>
      { s with
        riskManager := s.riskManager.recordTrade trade.pnl bar.1.openTime (some trade.exitReason)
        closed := s.closed ++ [trade]
        cooldownUntil := bar.2 + cooldownAfter cfg trade.exitReason }

def exitStep (symbol : Instrument) (cfg : SmcPairConfig) (s : SmcRun)
    (bar : BacktestCandle × Nat) : SmcRun :=
  let managed := s.openPositions.map
    (managePosition bar.1 (getSpread symbol bar.1.openTime))
  managed.foldr (settle symbol cfg bar) { s with openPositions := [] }

/-!
# Detection and expiry
-/

/-- The setup of a closed H1 bar at this time, unless the ADX is below its floor or the
mode is disabled. -/
def detectedSetup (cfg : SmcPairConfig) (inp : BacktestInput) (ind : PrecomputedIndicators)
    (t : Int) (closedH1Idx : Nat) : Option PendingSetup :=
  let d1Bias := d1BiasAt inp.d1 ind.d1 t
  let d1Adx := d1AdxAt inp.d1 ind.d1 t
  if d1Adx < cfg.d1AdxFloor then none
  else
    (detectSweep inp.h1 ind.h1 closedH1Idx d1Bias d1Adx cfg inp.d1 ind.d1 t).filter
      fun setup => decide (setup.mode ∉ cfg.disabledModes)

/-- The bar before the one of index `h1Idx` has closed since the last detection. -/
def NewH1 (s : SmcRun) (h1Idx : Int) : Prop :=
  s.lastProcessedH1 < h1Idx ∧ 1 ≤ h1Idx ∧ s.lastProcessedH1 < h1Idx - 1

instance (s : SmcRun) (h1Idx : Int) : Decidable (NewH1 s h1Idx) :=
  inferInstanceAs (Decidable (_ ∧ _ ∧ _))

def detectStep (cfg : SmcPairConfig) (inp : BacktestInput) (ind : PrecomputedIndicators)
    (s : SmcRun) (bar : BacktestCandle × Nat) : SmcRun :=
  let h1Idx := indexForTime inp.h1 bar.1.openTime
  if NewH1 s h1Idx then
    { s with
      pending := s.pending ++
        (detectedSetup cfg inp ind bar.1.openTime (h1Idx - 1).toNat).toList
      lastProcessedH1 := h1Idx - 1 }
  else s

def expireStep (inp : BacktestInput) (s : SmcRun) (bar : BacktestCandle × Nat) : SmcRun :=
  { s with
    pending := s.pending.filter fun setup =>
      decide (indexForTime inp.h1 bar.1.openTime ≤ setup.expiresAtH1Idx) }

/-!
# Entry
-/

/-- What an entry reads of its bar: the candle, its index, and the M15 ATR and RSI. -/
structure EntryBar where
  candle : BacktestCandle
  index : Nat
  m15Atr : Option ℚ
  rsi : Option ℚ

def entryBarOf (ind : PrecomputedIndicators) (bar : BacktestCandle × Nat) : EntryBar :=
  { candle := bar.1
    index := bar.2
    m15Atr := valueAt ind.m15.atr14 bar.2
    rsi := ind.m15.rsi14[bar.2]?.getD (some 50) }

structure EntryPlan where
  entryPrice : ℚ
  slPrice : ℚ

def EntryPlan.slPoints (plan : EntryPlan) : ℚ :=
  |plan.entryPrice - plan.slPrice|

def planEntry (symbol : Instrument) (cfg : SmcPairConfig) (bar : EntryBar)
    (setup : PendingSetup) : EntryPlan :=
  let slBuffer := bar.m15Atr.getD setup.sweepCandleAtr * cfg.slBufferAtrM15
  let halfSpread := getSpread symbol bar.candle.openTime / 2
  { entryPrice := match setup.direction with
      | .buy => bar.candle.close + halfSpread
      | .sell => bar.candle.close - halfSpread
    slPrice := match setup.mode, setup.direction with
      | .continuation, .buy => setup.sweepCandleLow - slBuffer
      | .continuation, .sell => setup.sweepCandleHigh + slBuffer
      | .reversal, .buy => setup.sweepWick - slBuffer
      | .reversal, .sell => setup.sweepWick + slBuffer }

def WideStop (cfg : SmcPairConfig) (m15Atr : Option ℚ) (slPoints : ℚ) : Prop :=
  match m15Atr with
  | none => False
  | some atr => 0 < cfg.maxSlAtrM15.getD 0 ∧ 0 < atr ∧ cfg.maxSlAtrM15.getD 0 < slPoints / atr

instance (cfg : SmcPairConfig) (m15Atr : Option ℚ) (slPoints : ℚ) :
    Decidable (WideStop cfg m15Atr slPoints) := by
  unfold WideStop
  split <;> infer_instance

def UsesLadder (cfg : SmcPairConfig) : Prop :=
  0 < cfg.tp1PartialFraction

instance (cfg : SmcPairConfig) : Decidable (UsesLadder cfg) :=
  inferInstanceAs (Decidable (_ < _))

def targetPrice (plan : EntryPlan) (direction : Side) (r : ℚ) : ℚ :=
  match direction with
  | .buy => plan.entryPrice + plan.slPoints * r
  | .sell => plan.entryPrice - plan.slPoints * r

def openLeg (symbol : Instrument) (bar : EntryBar) (setup : PendingSetup) (plan : EntryPlan)
    (lot r : ℚ) (tag : SetupTag) (trail : RegimeTradeParams) : SimulatedPosition :=
  let round := roundTo (10 ^ (getInstrumentConfig symbol).pricePrecision)
  { side := setup.direction
    entryPrice := round plan.entryPrice
    slPrice := round plan.slPrice
    originalSlPrice := round plan.slPrice
    tpPrice := some (round (targetPrice plan setup.direction r))
    breakevenActivated := false
    peakFavorablePrice := plan.entryPrice
    rangeEngine := false
    fvgFill := false
    trailConfig := some trail
    lotSize := lot
    entryTime := bar.candle.openTime
    entryIndex := bar.index
    setupTags :=
      [SetupTag.smc, .sweep, .session (sessionOf bar.candle.openTime), .mode setup.mode, tag]
    h1Bias := match setup.direction with
      | .buy => .bullish
      | .sell => .bearish
    rsiAtEntry := bar.rsi
    atrAtEntry := bar.m15Atr.getD setup.sweepCandleAtr
    regimeAtEntry := .weakTrend }

/-- The positions of an entry.  Both legs of a ladder have at least the minimal lot, so
the source's last check on them never skips one. -/
def openLegs (symbol : Instrument) (cfg : SmcPairConfig) (bar : EntryBar) (setup : PendingSetup)
    (plan : EntryPlan) (totalLot : ℚ) : List SimulatedPosition :=
  if UsesLadder cfg then
    let tp1Lot := max (1 / 100) (roundTo 100 (totalLot * cfg.tp1PartialFraction))
    let runnerLot := max (1 / 100) (roundTo 100 (totalLot - tp1Lot))
    [openLeg symbol bar setup plan tp1Lot cfg.tp1R .tp1 smcTp1Trail,
      openLeg symbol bar setup plan runnerLot cfg.tp2R .runner smcRunnerTrail]
  else [openLeg symbol bar setup plan totalLot cfg.tp2R .runner smcRunnerTrail]

inductive Verdict where
  | keep
  | drop
  | enter (legs : List SimulatedPosition)

def judge (symbol : Instrument) (cfg : SmcPairConfig) (s : SmcRun) (bar : EntryBar)
    (setup : PendingSetup) : Verdict :=
  let plan := planEntry symbol cfg bar setup
  let totalLot := s.riskManager.calculateLotSize plan.slPoints (some 60) (some .weakTrend)
    (some 50) (some plan.entryPrice)
  if setup.direction ∈ s.openPositions.map (fun p => p.side) then .keep
  else if plan.slPoints ≤ 0 then .drop
  else if WideStop cfg bar.m15Atr plan.slPoints then .drop
  else if totalLot < (if UsesLadder cfg then 2 / 100 else 1 / 100) then .keep
  else .enter (openLegs symbol cfg bar setup plan totalLot)

/-- The pass over the queue, newest setup first: what stays queued and what is opened. -/
def entryLoop (judgeOf : PendingSetup -> Verdict) :
    List PendingSetup -> List PendingSetup × List SimulatedPosition
  | [] => ([], [])
  | setup :: older =>
      match judgeOf setup with
      | .keep => (setup :: (entryLoop judgeOf older).1, (entryLoop judgeOf older).2)
      | .drop => entryLoop judgeOf older
      | .enter legs => (older, legs)

def enterStep (symbol : Instrument) (cfg : SmcPairConfig) (s : SmcRun) (bar : EntryBar) :
    SmcRun :=
  let out := entryLoop (judge symbol cfg s bar) s.pending.reverse
  { s with
    pending := out.1.reverse
    openPositions := s.openPositions ++ out.2
    opened := s.opened ++ out.2
    cooldownUntil := if out.2 = [] then s.cooldownUntil else bar.index + 1 }

def gateStep (symbol : Instrument) (cfg : SmcPairConfig) (s : SmcRun) (bar : EntryBar) :
    SmcRun :=
  let t := bar.candle.openTime
  if (bar.index : Int) ≤ s.cooldownUntil then s
  else if 0 < cfg.newsBlackoutMinutes.getD 0 ∧
      isInBlackout t (cfg.newsBlackoutMinutes.getD 0) = true then s
  else
    let gate := s.riskManager.canTrade t s.openPositions.length
    let s := { s with riskManager := gate.1 }
    if gate.2 = false then s
    else if (cfg.killzones.any fun (s, e) => decide (s ≤ hourOf t ∧ hourOf t < e)) = false then s
    else enterStep symbol cfg s bar

/-!
# The run
-/

def smcStep (symbol : Instrument) (cfg : SmcPairConfig) (inp : BacktestInput)
    (ind : PrecomputedIndicators) (s : SmcRun) (bar : BacktestCandle × Nat) : SmcRun :=
  let s := exitStep symbol cfg s bar
  let s := expireStep inp (detectStep cfg inp ind s bar) bar
  gateStep symbol cfg s (entryBarOf ind bar)

def smcRun (env : EngineEnv) (config : EngineConfig) (cfg : SmcPairConfig) (inp : BacktestInput)
    (bars : Nat) : SmcRun :=
  runFrom (smcStep config.symbol cfg inp (inputIndicators env.indicators inp)) (.start config)
    (inp.m15.zipIdx.take bars)

def forcedTrades (symbol : Instrument) (inp : BacktestInput) (s : SmcRun) : List ClosedTrade :=
  match inp.m15.getLast? with
  | none => []
  | some last =>
      s.openPositions.map fun p =>
        forceClosePosition symbol p last.close last.openTime
          (p.lotSize * (getInstrumentConfig symbol).commissionPerLot)

def runSmcBacktest (env : EngineEnv) (config : EngineConfig) (inp : BacktestInput) :
    Except EngineError (List ClosedTrade) :=
  match getSmcPairConfig env.overrides config.symbol with
  | none => .error .noPairConfig
  | some cfg =>
      if inp.h1.length < 30 then .ok []
      else
        let s := smcRun env config cfg inp inp.m15.length
        .ok (s.closed ++ forcedTrades config.symbol inp s)

def openedOn (env : EngineEnv) (config : EngineConfig) (inp : BacktestInput) (bars : Nat) :
    Except EngineError (List SimulatedPosition) :=
  match getSmcPairConfig env.overrides config.symbol with
  | none => .error .noPairConfig
  | some cfg =>
      if inp.h1.length < 30 then .ok []
      else .ok (smcRun env config cfg inp bars).opened

/-!
# Every position becomes one trade
-/

structure EntryRecord where
  side : Side
  entryPrice : ℚ
  lotSize : ℚ
  entryTime : Int
  setupTags : List SetupTag

def SimulatedPosition.entry (p : SimulatedPosition) : EntryRecord :=
  { side := p.side
    entryPrice := p.entryPrice
    lotSize := p.lotSize
    entryTime := p.entryTime
    setupTags := p.setupTags }

def ClosedTrade.entry (t : ClosedTrade) : EntryRecord :=
  { side := t.side
    entryPrice := t.entryPrice
    lotSize := t.lotSize
    entryTime := t.entryTime
    setupTags := t.setupTags }

/-- The entries of all positions so far, closed or still open. -/
def SmcRun.entries (s : SmcRun) : List EntryRecord :=
  s.closed.map ClosedTrade.entry ++ s.openPositions.map SimulatedPosition.entry

def Accounted (s : SmcRun) : Prop :=
  s.entries.Perm (s.opened.map SimulatedPosition.entry)

theorem managePosition_entry (candle : BacktestCandle) (spread : ℚ) (p : SimulatedPosition) :
    (managePosition candle spread p).entry = p.entry := by
  unfold managePosition updatePositionManagement
  dsimp only
  split_ifs <;> rfl

theorem checkPositionExit_entry {symbol : Instrument} {p : SimulatedPosition}
    {candle : BacktestCandle} {spread commission : ℚ} {trade : ClosedTrade}
    (h : checkPositionExit symbol p candle spread commission = some trade) :
    trade.entry = p.entry := by
  rcases Option.map_eq_some_iff.mp h with ⟨_, -, rfl⟩
  rfl

theorem settle_entries (symbol : Instrument) (cfg : SmcPairConfig) (bar : BacktestCandle × Nat)
    (p : SimulatedPosition) (s : SmcRun) :
    (settle symbol cfg bar p s).entries.Perm (p.entry :: s.entries) := by
  unfold settle
  split
  · exact List.perm_middle
  · next trade htrade =>
      unfold SmcRun.entries
      dsimp only
      rw [List.map_append, List.append_assoc, List.map_singleton, checkPositionExit_entry htrade]
      exact List.perm_middle

theorem settle_opened (symbol : Instrument) (cfg : SmcPairConfig) (bar : BacktestCandle × Nat)
    (p : SimulatedPosition) (s : SmcRun) : (settle symbol cfg bar p s).opened = s.opened := by
  unfold settle
  split <;> rfl

theorem foldr_settle (symbol : Instrument) (cfg : SmcPairConfig) (bar : BacktestCandle × Nat)
    (positions : List SimulatedPosition) (s : SmcRun) :
    (positions.foldr (settle symbol cfg bar) s).entries.Perm
        (positions.map SimulatedPosition.entry ++ s.entries) ∧
      (positions.foldr (settle symbol cfg bar) s).opened = s.opened := by
  induction positions with
  | nil =>
      exact ⟨List.Perm.refl _, rfl⟩
  | cons p rest ih =>
      constructor
      · exact (settle_entries symbol cfg bar p _).trans (ih.1.cons p.entry)
      · exact (settle_opened symbol cfg bar p _).trans ih.2

theorem Accounted.exitStep {s : SmcRun} (h : Accounted s) (symbol : Instrument)
    (cfg : SmcPairConfig) (bar : BacktestCandle × Nat) :
    Accounted (exitStep symbol cfg s bar) := by
  unfold Backtest.exitStep
  rcases foldr_settle symbol cfg bar
    (s.openPositions.map (managePosition bar.1 (getSpread symbol bar.1.openTime)))
    { s with openPositions := [] } with ⟨hentries, hopened⟩
  have hmanaged : (s.openPositions.map
      (managePosition bar.1 (getSpread symbol bar.1.openTime))).map SimulatedPosition.entry =
        s.openPositions.map SimulatedPosition.entry := by
    rw [List.map_map]
    exact List.map_congr_left fun p _ => managePosition_entry bar.1 _ p
  unfold Accounted
  rw [hopened]
  rw [hmanaged] at hentries
  refine (hentries.trans ?_).trans h
  unfold SmcRun.entries
  rw [List.map_nil, List.append_nil]
  exact List.perm_append_comm

theorem Accounted.enterStep {s : SmcRun} (h : Accounted s) (symbol : Instrument)
    (cfg : SmcPairConfig) (bar : EntryBar) : Accounted (enterStep symbol cfg s bar) := by
  unfold Accounted SmcRun.entries Backtest.enterStep
  dsimp only
  rw [List.map_append, List.map_append, <- List.append_assoc]
  exact List.Perm.append_right _ h

theorem Accounted.gateStep {s : SmcRun} (h : Accounted s) (symbol : Instrument)
    (cfg : SmcPairConfig) (bar : EntryBar) : Accounted (gateStep symbol cfg s bar) := by
  unfold Backtest.gateStep
  dsimp only
  split_ifs
  · exact h
  · exact h
  · exact h
  · exact h
  · apply Accounted.enterStep
    exact h

theorem Accounted.smcStep {s : SmcRun} (h : Accounted s) (symbol : Instrument)
    (cfg : SmcPairConfig) (inp : BacktestInput) (ind : PrecomputedIndicators)
    (bar : BacktestCandle × Nat) : Accounted (smcStep symbol cfg inp ind s bar) := by
  unfold Backtest.smcStep
  apply Accounted.gateStep
  change Accounted (detectStep cfg inp ind (Backtest.exitStep symbol cfg s bar) bar)
  unfold detectStep
  dsimp only
  split_ifs
  · exact h.exitStep symbol cfg bar
  · exact h.exitStep symbol cfg bar

theorem smcRun_accounted (env : EngineEnv) (config : EngineConfig) (cfg : SmcPairConfig)
    (inp : BacktestInput) (bars : Nat) : Accounted (smcRun env config cfg inp bars) := by
  unfold smcRun
  apply runFrom_inv Accounted
  · intro s bar h
    exact h.smcStep config.symbol cfg inp (inputIndicators env.indicators inp) bar
  · exact List.Perm.refl []

theorem forcedTrades_entries {inp : BacktestInput} {s : SmcRun}
    (h : inp.m15 = [] -> s.openPositions = []) (symbol : Instrument) :
    (forcedTrades symbol inp s).map ClosedTrade.entry =
      s.openPositions.map SimulatedPosition.entry := by
  unfold forcedTrades
  cases hlast : inp.m15.getLast? with
  | none =>
      rw [h (List.getLast?_eq_none_iff.mp hlast)]
      rfl
  | some last =>
      rw [List.map_map]
      rfl

theorem runSmcBacktest_entries {env : EngineEnv} {config : EngineConfig} {inp : BacktestInput}
    {trades : List ClosedTrade} (h : runSmcBacktest env config inp = .ok trades) :
    exists opened, openedOn env config inp inp.m15.length = .ok opened ∧
      (trades.map ClosedTrade.entry).Perm (opened.map SimulatedPosition.entry) := by
  unfold runSmcBacktest at h
  unfold openedOn
  cases hcfg : getSmcPairConfig env.overrides config.symbol with
  | none =>
      rw [hcfg] at h
      cases h
  | some cfg =>
      rw [hcfg] at h
      dsimp only at h ⊢
      split_ifs at h ⊢
      · cases h
        exact ⟨[], rfl, List.Perm.refl _⟩
      · cases h
        refine ⟨_, rfl, ?_⟩
        rw [List.map_append, forcedTrades_entries]
        · exact smcRun_accounted env config cfg inp inp.m15.length
        · intro hempty
          unfold smcRun
          rw [hempty]
          rfl

end Backtest
end Shamarx
