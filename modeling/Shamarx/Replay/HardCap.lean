import Shamarx.Replay.Conservation

/-!
# The cap on open positions

The cap is checked once, by the manager that lets a signal pass.  The signal then
opens one position a leg, and a parked limit fills without any check, so the cap
holds exactly as long as the legs that are added fit under it.
-/

namespace Shamarx
namespace Replay

open Foundation
open Engine
open Orchestrator

/-!
# Moments of the broker
-/

namespace SimulatedBroker

variable {b : SimulatedBroker} {cap : Nat}

def Under (cap : Nat) (b : SimulatedBroker) : Prop :=
  forall m, m ∈ b.moments -> m ≤ cap

instance (cap : Nat) (b : SimulatedBroker) : Decidable (b.Under cap) :=
  inferInstanceAs (Decidable (forall m, m ∈ b.moments -> m ≤ cap))

def Current (b : SimulatedBroker) : Prop :=
  b.totalOpenCount ∈ b.moments

theorem Under.open_le (h : b.Under cap) (hcur : b.Current) : b.totalOpenCount ≤ cap :=
  h _ hcur

theorem current_setPositions (b : SimulatedBroker)
    (positions : Buckets Instrument SimulatedPosition) : (b.setPositions positions).Current :=
  List.mem_append_right _ (List.mem_singleton_self _)

theorem current_fillAt (setup : BrokerSetup) (b : SimulatedBroker) (signal : SmcLiveSignal)
    (entryPrice : ℚ) (openTime : Int) (lotScale : Number) :
    (fillAt setup b signal entryPrice openTime lotScale).1.Current :=
  current_setPositions b _

theorem under_setPositions {positions : Buckets Instrument SimulatedPosition} :
    (b.setPositions positions).Under cap ↔ b.Under cap ∧ positions.count ≤ cap := by
  unfold Under setPositions
  simp only [List.mem_append, List.mem_singleton, or_imp, forall_and, forall_eq]

theorem under_fillAt (setup : BrokerSetup) (b : SimulatedBroker) (signal : SmcLiveSignal)
    (entryPrice : ℚ) (openTime : Int) (lotScale : Number) :
    (fillAt setup b signal entryPrice openTime lotScale).1.Under cap ↔
      b.Under cap ∧ b.totalOpenCount + signal.legs.length ≤ cap := by
  rw [← fillAt_totalOpenCount setup b signal entryPrice openTime lotScale]
  exact under_setPositions

def legsOf (limits : List PendingLimit) : Nat :=
  (limits.map fun l => l.signal.legs.length).sum

theorem current_fillLimits (hcur : b.Current) (setup : BrokerSetup) (candle : BacktestCandle)
    (touched : List PendingLimit) : (touched.foldl (fillLimit setup candle) b).Current := by
  induction touched generalizing b with
  | nil =>
      exact hcur
  | cons p rest ih =>
      exact ih (current_fillAt setup b p.signal p.limitPrice candle.openTime p.scale)

theorem under_fillLimits (hcur : b.Current) (setup : BrokerSetup) (candle : BacktestCandle)
    (touched : List PendingLimit) :
    (touched.foldl (fillLimit setup candle) b).Under cap ↔
      b.Under cap ∧ b.totalOpenCount + legsOf touched ≤ cap := by
  induction touched generalizing b with
  | nil =>
      constructor
      · intro h
        exact ⟨h, Under.open_le h hcur⟩
      · exact fun h => h.1
  | cons p rest ih =>
      have hcurrent : (fillLimit setup candle b p).Current :=
        current_fillAt setup b p.signal p.limitPrice candle.openTime p.scale
      have hunder : (fillLimit setup candle b p).Under cap ↔ _ :=
        under_fillAt setup b p.signal p.limitPrice candle.openTime p.scale
      have hcount : (fillLimit setup candle b p).totalOpenCount = _ :=
        fillAt_totalOpenCount setup b p.signal p.limitPrice candle.openTime p.scale
      have hlegs : legsOf (p :: rest) = p.signal.legs.length + legsOf rest := rfl
      rw [List.foldl_cons, ih hcurrent, hunder, hcount, hlegs]
      constructor
      · rintro ⟨⟨hb, -⟩, hfit⟩
        exact ⟨hb, by omega⟩
      · rintro ⟨hb, hfit⟩
        exact ⟨⟨hb, by omega⟩, by omega⟩

def touchedLimits (b : SimulatedBroker) (symbol : Instrument) (candle : BacktestCandle) :
    List PendingLimit :=
  (b.pendingLimits.get symbol).filter fun p => decide (Touched candle p)

theorem current_processCandle (hcur : b.Current) (setup : BrokerSetup) (symbol : Instrument)
    (candle : BacktestCandle) : (processCandle setup b symbol candle).1.Current := by
  have hlimits : (processPendingLimits setup b symbol candle).Current :=
    current_fillLimits hcur setup candle (b.touchedLimits symbol candle)
  unfold processCandle
  rcases (processPendingLimits setup b symbol candle).processPositions_cases symbol candle with
    hsame | ⟨rest, closing, hclose, -⟩
  · rw [hsame]
    exact hlimits
  · rw [hclose]
    exact current_setPositions _ rest

theorem under_processCandle (hcur : b.Current) (setup : BrokerSetup) (symbol : Instrument)
    (candle : BacktestCandle) :
    (processCandle setup b symbol candle).1.Under cap ↔
      b.Under cap ∧ b.totalOpenCount + legsOf (b.touchedLimits symbol candle) ≤ cap := by
  have hcurrent : (processPendingLimits setup b symbol candle).Current :=
    current_fillLimits hcur setup candle (b.touchedLimits symbol candle)
  have hlimits : (processPendingLimits setup b symbol candle).Under cap ↔ _ :=
    under_fillLimits hcur setup candle (b.touchedLimits symbol candle)
  unfold processCandle
  rcases (processPendingLimits setup b symbol candle).processPositions_cases symbol candle with
    hsame | ⟨rest, closing, hclose, hrest⟩
  · rw [hsame]
    exact hlimits
  · rw [hclose, ← hlimits, under_setPositions]
    constructor
    · exact fun h => h.1
    · intro h
      exact ⟨h, Nat.le_trans (count_le_of_split hrest) (Under.open_le h hcurrent)⟩

theorem under_closeAllForSymbol (hcur : b.Current) (symbol : Instrument) (closePrice : ℚ)
    (closeTime : Int) :
    (b.closeAllForSymbol symbol closePrice closeTime).1.Under cap ↔ b.Under cap := by
  have hsplit := count_le_of_split (b.closeAllForSymbol_split symbol closePrice closeTime)
  unfold closeAllForSymbol
  dsimp only
  rw [under_setPositions]
  constructor
  · exact fun h => h.1
  · intro h
    exact ⟨h, Nat.le_trans hsplit (Under.open_le h hcur)⟩

end SimulatedBroker

variable {env : EngineEnv} {cfg : ReplayConfig} {candles : ReplayCandles} {run : ReplayRun}
  {ev : ReplayEvent}

/-!
# Managers with the cap of the replay
-/

def CapSet (cfg : ReplayConfig) (o : LiveSmcOrchestrator) : Prop :=
  forall symbol, (o.getOrCreateState symbol).riskManager.config.maxOpenPositions = cfg.openCap

theorem CapSet.step {o : LiveSmcOrchestrator} (h : CapSet cfg o) (env : EngineEnv)
    (op : OrchestratorOp) (hop : op ≠ .restart) : CapSet cfg (orchestratorStep env o op) := by
  intro symbol
  rw [(orchestratorStep_move env o op symbol).riskManager_config hop]
  exact h symbol

theorem CapSet.noteExits {symbol : Instrument} (exits : List ClosedPosition) (run : ReplayRun)
    (h : CapSet cfg run.orchestrator) (env : EngineEnv) :
    CapSet cfg (exits.foldl (noteExit env symbol) run).orchestrator := by
  induction exits generalizing run with
  | nil =>
      exact h
  | cons exit rest ih =>
      refine ih _ ?_
      unfold noteExit
      split_ifs
      · exact h
      · exact h.step env (.recordExit symbol (exitKindOf exit.exitReason) exit.closedAt
          (some exit.pnl.orZero)) (fun hop => nomatch hop)

theorem CapSet.evaluateEvent (h : CapSet cfg run.orchestrator) (env : EngineEnv)
    (bundle : CandleBundle) (ev : ReplayEvent) :
    CapSet cfg (evaluateEvent env cfg bundle run ev).1 :=
  h.step env (.evaluate ev.symbol bundle _ _ _) (fun hop => nomatch hop)

theorem CapSet.orderStep (run : ReplayRun) (h : CapSet cfg run.orchestrator) (ev : ReplayEvent)
    (signal : SmcLiveSignal) (env : EngineEnv) :
    CapSet cfg (orderStep cfg run ev signal).orchestrator := by
  unfold Replay.orderStep
  dsimp only
  split_ifs
  · exact h.step env (.recordEntry ev.symbol signal.h1SweepTime) (fun hop => nomatch hop)
  · exact h

theorem CapSet.entryStep (h : CapSet cfg run.orchestrator) (env : EngineEnv)
    (bundle : CandleBundle) (ev : ReplayEvent) :
    CapSet cfg (entryStep env cfg bundle run ev).orchestrator := by
  have hevaluated := h.evaluateEvent env bundle ev
  unfold Replay.entryStep
  dsimp only
  split_ifs
  · exact h
  · split
    · exact hevaluated
    · exact hevaluated
    · next signal hsignal =>
        exact CapSet.orderStep
          { run with orchestrator := (Replay.evaluateEvent env cfg bundle run ev).1 }
          hevaluated ev signal env

/-!
# One event
-/

/-- What holds at every point of a run: the managers have the cap and the present
open count is on record. -/
structure CapKept (cfg : ReplayConfig) (run : ReplayRun) : Prop where
  managers : CapSet cfg run.orchestrator
  current : run.broker.Current

theorem CapKept.start (cfg : ReplayConfig) : CapKept cfg (.start cfg) where
  managers := fun _ => rfl
  current := List.mem_singleton_self 0

/-- No two-leg signal fires at market with one slot left. -/
def SignalFits (env : EngineEnv) (cfg : ReplayConfig) (bundle : CandleBundle) (run : ReplayRun)
    (ev : ReplayEvent) : Prop :=
  run.error = none -> cfg.retraceEntry = none -> forall signal,
    (evaluateEvent env cfg bundle run ev).2 = .ok (some signal) ->
      signal.legs.length = 2 -> run.broker.totalOpenCount + 1 ≠ cfg.openCap

/-- The event adds no more legs than the cap has room for: the limits that its bar
touches fit, and so does the signal at market after the exits. -/
def FitsUnderCap (env : EngineEnv) (cfg : ReplayConfig) (candles : ReplayCandles)
    (run : ReplayRun) (ev : ReplayEvent) : Prop :=
  forall bundle, run.error = none -> candles.entries.get ev.symbol = some bundle ->
    ev.symbol ∈ cfg.pairs ->
      run.broker.totalOpenCount +
          SimulatedBroker.legsOf (run.broker.touchedLimits ev.symbol ev.candle) ≤ cfg.openCap ∧
        SignalFits env cfg bundle (exitStep env cfg run ev) ev

theorem CapKept.exitStep (h : CapKept cfg run) (env : EngineEnv) (ev : ReplayEvent) :
    CapKept cfg (exitStep env cfg run ev) where
  managers := by
    unfold Replay.exitStep
    apply CapSet.noteExits
    exact h.managers
  current := by
    rw [exitStep_broker]
    exact SimulatedBroker.current_processCandle h.current cfg.brokerSetup ev.symbol ev.candle

theorem brokerSetup_retraceEntry (cfg : ReplayConfig) :
    cfg.brokerSetup.retraceEntry = cfg.retraceEntry := rfl

theorem orderStep_broker (run : ReplayRun) (h : run.broker.Current) (ev : ReplayEvent)
    (signal : SmcLiveSignal) (cap : Nat) :
    (orderStep cfg run ev signal).broker.Current ∧
      ((orderStep cfg run ev signal).broker.Under cap ↔ run.broker.Under cap ∧
        (cfg.retraceEntry = none -> run.broker.totalOpenCount + signal.legs.length ≤ cap)) := by
  unfold orderStep SimulatedBroker.placeOrder
  rw [brokerSetup_retraceEntry]
  cases hretrace : cfg.retraceEntry with
  | none =>
      refine ⟨SimulatedBroker.current_fillAt cfg.brokerSetup run.broker signal _ _ _, ?_⟩
      rw [forall_prop_of_true rfl]
      exact SimulatedBroker.under_fillAt cfg.brokerSetup run.broker signal _ _ _
  | some retrace =>
      refine ⟨h, ?_⟩
      constructor
      · exact fun hunder => ⟨hunder, fun hnone => nomatch hnone⟩
      · exact fun hunder => hunder.1

theorem CapKept.entryStep (h : CapKept cfg run) (env : EngineEnv) (bundle : CandleBundle)
    (ev : ReplayEvent) : CapKept cfg (entryStep env cfg bundle run ev) where
  managers := h.managers.entryStep env bundle ev
  current := by
    have hmove := entryStep_move env cfg bundle run ev
    generalize Replay.entryStep env cfg bundle run ev = next at hmove ⊢
    cases hmove with
    | waited =>
        exact h.current
    | evaluated orchestrator error hrun =>
        exact h.current
    | ordered orchestrator signal hrun hsignal =>
        exact (orderStep_broker _ h.current ev signal 0).1

theorem CapKept.replayStep (h : CapKept cfg run) (env : EngineEnv) (candles : ReplayCandles)
    (ev : ReplayEvent) : CapKept cfg (replayStep env cfg candles run ev) := by
  unfold Replay.replayStep
  split
  · exact h
  · split
    · exact h
    · split
      · exact (h.exitStep env ev).entryStep env _ ev
      · exact ⟨h.managers, h.current⟩

theorem evaluateEvent_of_short {bundle : CandleBundle}
    (h : (run.cursor ev.symbol bundle).m15 < 30 ∨ (run.cursor ev.symbol bundle).h1 < 30) :
    (evaluateEvent env cfg bundle run ev).2 = .ok none := by
  unfold evaluateEvent evaluate evaluateAt
  rw [Option.getD_some, if_pos h]

theorem under_entryStep (h : CapKept cfg run) (env : EngineEnv) (bundle : CandleBundle)
    (ev : ReplayEvent) :
    (entryStep env cfg bundle run ev).broker.Under cfg.openCap ↔
      run.broker.Under cfg.openCap ∧ SignalFits env cfg bundle run ev := by
  unfold entryStep
  dsimp only
  split_ifs with hguard
  · refine (and_iff_left ?_).symm
    intro herror _ signal hsignal
    rw [herror] at hguard
    rw [evaluateEvent_of_short (hguard.resolve_left (fun hsome => nomatch hsome))] at hsignal
    cases hsignal
  · rw [not_or, Option.not_isSome_iff_eq_none] at hguard
    split
    · next e he =>
        refine (and_iff_left ?_).symm
        intro _ _ signal hsignal
        rw [he] at hsignal
        cases hsignal
    · next he =>
        refine (and_iff_left ?_).symm
        intro _ _ signal hsignal
        rw [he] at hsignal
        cases hsignal
    · next signal he =>
        have hslot := evaluate_fired_lt_cap he
        rw [h.managers] at hslot
        change run.broker.totalOpenCount < cfg.openCap at hslot
        have hlegs := (evaluate_signal_shape he).2
        refine (orderStep_broker { run with
          orchestrator := (evaluateEvent env cfg bundle run ev).1 } h.current ev signal
            cfg.openCap).2.trans (and_congr_right fun _ => ?_)
        change (cfg.retraceEntry = none ->
          run.broker.totalOpenCount + signal.legs.length ≤ cfg.openCap) ↔ _
        constructor
        · intro hfit _ hmarket fired hfired htwo
          rw [he, Except.ok.injEq, Option.some.injEq] at hfired
          subst hfired
          have hle := hfit hmarket
          omega
        · intro hfit hmarket
          have hfits := hfit hguard.1 hmarket signal he
          rcases hlegs with hone | htwo
          · omega
          · have hroom := hfits htwo
            omega

theorem under_replayStep (h : CapKept cfg run) (hunder : run.broker.Under cfg.openCap)
    (env : EngineEnv) (candles : ReplayCandles) (ev : ReplayEvent) :
    (replayStep env cfg candles run ev).broker.Under cfg.openCap ↔
      FitsUnderCap env cfg candles run ev := by
  unfold FitsUnderCap
  rw [replayStep]
  by_cases herror : run.error.isSome
  · rw [if_pos herror]
    refine iff_of_true hunder ?_
    intro bundle hnone
    rw [hnone] at herror
    cases herror
  · rw [if_neg herror]
    rw [Option.not_isSome_iff_eq_none] at herror
    cases hget : candles.entries.get ev.symbol with
    | none =>
        exact iff_of_true hunder (fun _ _ hsome => absurd hsome (Option.some_ne_none _).symm)
    | some bundle =>
        dsimp only
        split_ifs with hpair
        · rw [under_entryStep (h.exitStep env ev), exitStep_broker,
            SimulatedBroker.under_processCandle h.current]
          constructor
          · rintro ⟨⟨-, hlimits⟩, hsignal⟩ found _ hfound _
            cases hfound
            exact ⟨hlimits, hsignal⟩
          · intro hfits
            rcases hfits bundle herror rfl hpair with ⟨hlimits, hsignal⟩
            exact ⟨⟨hunder, hlimits⟩, hsignal⟩
        · exact iff_of_true hunder (fun _ _ _ hin => absurd hin hpair)

/-!
# Whole runs
-/

theorem under_of_replayStep (h : CapKept cfg run) (env : EngineEnv) (candles : ReplayCandles)
    (ev : ReplayEvent)
    (hunder : (replayStep env cfg candles run ev).broker.Under cfg.openCap) :
    run.broker.Under cfg.openCap := by
  unfold replayStep at hunder
  split at hunder
  · exact hunder
  · split at hunder
    · exact hunder
    · split at hunder
      · rw [under_entryStep (h.exitStep env ev), exitStep_broker] at hunder
        exact ((SimulatedBroker.under_processCandle h.current _ _ _).mp hunder.1).1
      · exact hunder

theorem flush_under {cap : Nat} (candles : ReplayCandles) (symbols : List Instrument)
    (hcur : run.broker.Current) :
    (runFrom (flushStep candles) run symbols).broker.Under cap ↔ run.broker.Under cap := by
  induction symbols generalizing run with
  | nil =>
      exact Iff.rfl
  | cons symbol rest ih =>
      rw [runFrom_cons]
      unfold flushStep
      split
      · exact ih hcur
      · next last hlast =>
          refine (ih ?_).trans
            (SimulatedBroker.under_closeAllForSymbol hcur symbol last.close last.openTime)
          exact SimulatedBroker.current_setPositions _ _

/-- The open count of a replay stays within the cap at every point of the run, the
flush included, exactly when the legs that each event adds fit under it. -/
theorem open_count_capped_iff_legs_fit (env : EngineEnv) (cfg : ReplayConfig)
    (candles : ReplayCandles) :
    (replayFlushed env cfg candles).broker.Under cfg.openCap ↔
      EveryStep (replayStep env cfg candles) (FitsUnderCap env cfg candles) (.start cfg)
        (buildTimeline candles cfg.startMs cfg.endMs) := by
  have hkept : CapKept cfg (replayLoop env cfg candles) :=
    runFrom_inv (CapKept cfg) (fun _ ev h => h.replayStep env candles ev) (CapKept.start cfg) _
  have hstart : (ReplayRun.start cfg).broker.Under cfg.openCap := by
    intro m hm
    rw [List.mem_singleton.mp hm]
    exact Nat.zero_le _
  rw [replayFlushed, flush_under candles cfg.pairs hkept.current]
  exact runFrom_iff_everyStep (CapKept cfg) (fun run => run.broker.Under cfg.openCap)
    (fun _ ev h => h.replayStep env candles ev)
    (fun _ ev h hunder => under_replayStep h hunder env candles ev)
    (fun _ ev h hunder => under_of_replayStep h env candles ev hunder)
    (CapKept.start cfg) hstart _

set_option maxRecDepth 20000 in
/-- Under a cap of one the first signal of the gold replay opens two positions. -/
theorem two_legs_over_a_cap_of_one :
    ¬ (replayFlushed documentedEnv (goldReplayCfg (some 1)) (goldCandles (some 1))).broker.Under
      (goldReplayCfg (some 1)).openCap := by
  decide +kernel

end Replay
end Shamarx
