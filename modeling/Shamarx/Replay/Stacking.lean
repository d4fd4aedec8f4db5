import Shamarx.Replay.OneSource

/-!
# Positions of one symbol and side

The guard of the orchestrator looks at the open positions.  In market mode these are
all there is, and no two signals are ever open on a side.  A retrace order parks a
limit, which the guard does not see.
-/

namespace Shamarx
namespace Replay

open Foundation
open Engine
open Orchestrator

open TracedBroker (act Checked Unparked Labelled)

/-!
# The guard
-/

theorem judge_fire_side {env : EngineEnv} {symbol : Instrument} {cfg : SmcPairConfig}
    {f : Frame} {ctx : LiveContext} {actioned : List Int} {setup : PendingSetup}
    {signal : SmcLiveSignal} (h : judge env symbol cfg f ctx actioned setup = .fire signal) :
    signal.side ∉ ctx.openDirections := by
  have hfired := judge_fired h
  rcases hfired.built with ⟨gates, rfl⟩
  exact hfired.side_free

theorem evaluateEvent_signal {env : EngineEnv} {cfg : ReplayConfig} {bundle : CandleBundle}
    {run : ReplayRun} {ev : ReplayEvent} {signal : SmcLiveSignal}
    (h : (evaluateEvent env cfg bundle run ev).2 = .ok (some signal)) :
    signal.symbol = ev.symbol ∧ signal.side ∉ run.broker.getOpenDirections ev.symbol := by
  refine ⟨(evaluate_signal_shape h).1, ?_⟩
  rcases evaluate_fired h with ⟨p, pair, lastM15, setup, -, -, hfire, -⟩
  exact judge_fire_side hfire

/-!
# The changes of one event
-/

variable {env : EngineEnv} {cfg : ReplayConfig} {candles : ReplayCandles} {run : ReplayRun}
  {t : TracedBroker}

/-- The touched limits fill one after the other, the rest wait, and then come the exits. -/
def barActs (t : TracedBroker) (symbol : Instrument) (candle : BacktestCandle) :
    List BrokerAct :=
  (((t.parked symbol).filter fun entry => decide (SimulatedBroker.Touched candle entry.1)).map
    fun entry => .fill candle entry.1 entry.2) ++ [.wait symbol candle, .exits symbol candle]

def orderOf (env : EngineEnv) (cfg : ReplayConfig) (bundle : CandleBundle) (run : ReplayRun)
    (ev : ReplayEvent) : Option SmcLiveSignal :=
  let cur := run.cursor ev.symbol bundle
  if run.error.isSome ∨ cur.m15 < 30 ∨ cur.h1 < 30 then none
  else
    match (evaluateEvent env cfg bundle run ev).2 with
    | .error _ => none
    | .ok signal => signal

def eventActs (env : EngineEnv) (cfg : ReplayConfig) (candles : ReplayCandles) (run : ReplayRun)
    (t : TracedBroker) (ev : ReplayEvent) : List BrokerAct :=
  if run.error.isSome then []
  else
    match candles.entries.get ev.symbol with
    | none => []
    | some bundle =>
        if ev.symbol ∈ cfg.pairs then
          barActs t ev.symbol ev.candle ++
            ((orderOf env cfg bundle (exitStep env cfg run ev) ev).map fun signal =>
              BrokerAct.place signal ev.candle.openTime).toList
        else []

def flushActs (cfg : ReplayConfig) (candles : ReplayCandles) : List BrokerAct :=
  cfg.pairs.filterMap fun symbol =>
    (candles.lastM15 symbol).map fun last => .flush symbol last.close last.openTime

/-- All changes of a run of the engine; an exception leaves out the flush. -/
def replayActs (env : EngineEnv) (cfg : ReplayConfig) (candles : ReplayCandles) :
    ReplayRun -> TracedBroker -> List ReplayEvent -> List BrokerAct
  | run, _, [] => if run.error.isSome then [] else flushActs cfg candles
  | run, t, ev :: rest =>
      let acts := eventActs env cfg candles run t ev
      acts ++ replayActs env cfg candles (replayStep env cfg candles run ev)
        (runFrom (act cfg.brokerSetup) t acts) rest

/-!
# The traced broker is the broker of the engine
-/

theorem runFrom_fills (setup : BrokerSetup) (t : TracedBroker) (candle : BacktestCandle)
    (entries : List (PendingLimit × Nat)) :
    let filled := runFrom (act setup) t
      (entries.map fun entry => .fill candle entry.1 entry.2)
    filled.parked = t.parked ∧
      filled.broker = (entries.map Prod.fst).foldl (SimulatedBroker.fillLimit setup candle)
        t.broker := by
  induction entries generalizing t with
  | nil =>
      exact ⟨rfl, rfl⟩
  | cons entry rest ih =>
      exact ih (t.act setup (.fill candle entry.1 entry.2))

theorem runFrom_barActs (setup : BrokerSetup) (h : t.Labelled) (symbol : Instrument)
    (candle : BacktestCandle) :
    (runFrom (act setup) t (barActs t symbol candle)).broker =
      (SimulatedBroker.processCandle setup t.broker symbol candle).1 := by
  rw [barActs, runFrom_append, SimulatedBroker.processCandle,
    SimulatedBroker.processPendingLimits_eq, ← h.limits symbol, List.filter_map]
  have hfilled := (runFrom_fills setup t candle ((t.parked symbol).filter fun entry =>
    decide (SimulatedBroker.Touched candle entry.1))).2
  rw [runFrom_cons, runFrom_cons]
  change ((SimulatedBroker.waitLimits _ symbol candle).processPositions symbol candle).1 = _
  rw [hfilled]
  rfl

theorem entryStep_broker (env : EngineEnv) (cfg : ReplayConfig) (bundle : CandleBundle)
    (run : ReplayRun) (ev : ReplayEvent) (t : TracedBroker) (h : t.broker = run.broker) :
    (runFrom (act cfg.brokerSetup) t ((orderOf env cfg bundle run ev).map fun signal =>
      BrokerAct.place signal ev.candle.openTime).toList).broker =
        (entryStep env cfg bundle run ev).broker := by
  rw [orderOf, entryStep]
  dsimp only
  split_ifs with hguard
  · exact h
  · cases hout : (evaluateEvent env cfg bundle run ev).2 with
    | error e =>
        exact h
    | ok signal =>
        cases signal with
        | none =>
            exact h
        | some signal =>
            have hplaced : (t.act cfg.brokerSetup (.place signal ev.candle.openTime)).broker =
                (t.broker.placeOrder cfg.brokerSetup signal ev.candle.openTime).1 := by
              rw [act]
              split <;> rfl
            rw [h] at hplaced
            exact hplaced

theorem eventActs_broker (h : t.Labelled) (hbroker : t.broker = run.broker)
    (ev : ReplayEvent) :
    (runFrom (act cfg.brokerSetup) t (eventActs env cfg candles run t ev)).broker =
      (replayStep env cfg candles run ev).broker := by
  rw [eventActs, replayStep]
  split_ifs with herror hpair
  · exact hbroker
  · cases candles.entries.get ev.symbol with
    | none =>
        exact hbroker
    | some bundle =>
        dsimp only
        rw [runFrom_append]
        refine entryStep_broker env cfg bundle (exitStep env cfg run ev) ev _ ?_
        rw [runFrom_barActs _ h, exitStep_broker, hbroker]
  · cases candles.entries.get ev.symbol with
    | none =>
        exact hbroker
    | some bundle =>
        exact hbroker

theorem runFrom_labelled (setup : BrokerSetup) (h : t.Labelled) (acts : List BrokerAct) :
    (runFrom (act setup) t acts).Labelled :=
  runFrom_inv Labelled (fun _ a h => h.act setup a) h acts

theorem runFrom_flushes (setup : BrokerSetup) (candles : ReplayCandles)
    (symbols : List Instrument) (hbroker : t.broker = run.broker) :
    (runFrom (act setup) t (symbols.filterMap fun symbol =>
      (candles.lastM15 symbol).map fun last => .flush symbol last.close last.openTime)).broker =
        (runFrom (flushStep candles) run symbols).broker := by
  induction symbols generalizing t run with
  | nil =>
      exact hbroker
  | cons symbol rest ih =>
      rw [runFrom_cons, flushStep]
      cases hlast : candles.lastM15 symbol with
      | none =>
          rw [List.filterMap_cons_none (by rw [hlast]; rfl)]
          exact ih hbroker
      | some last =>
          rw [List.filterMap_cons_some (by rw [hlast]; rfl), runFrom_cons]
          apply ih
          rw [act, hbroker]

theorem replayActs_broker (h : t.Labelled) (hbroker : t.broker = run.broker)
    (events : List ReplayEvent) :
    let loop := runFrom (replayStep env cfg candles) run events
    (runFrom (act cfg.brokerSetup) t (replayActs env cfg candles run t events)).broker =
      if loop.error.isSome then loop.broker
      else (runFrom (flushStep candles) loop cfg.pairs).broker := by
  induction events generalizing run t with
  | nil =>
      change (runFrom _ t (if run.error.isSome then [] else flushActs cfg candles)).broker =
        if run.error.isSome then run.broker
        else (runFrom (flushStep candles) run cfg.pairs).broker
      split_ifs with herror
      · exact hbroker
      · exact runFrom_flushes cfg.brokerSetup candles cfg.pairs hbroker
  | cons ev rest ih =>
      rw [replayActs, runFrom_append]
      exact ih (runFrom_labelled _ h _) (eventActs_broker h hbroker ev)

/-!
# Every change is checked
-/

theorem fills_checked (setup : BrokerSetup) (candle : BacktestCandle)
    {entries : List (PendingLimit × Nat)}
    (h : forall entry, entry ∈ entries -> entry ∈ t.parked entry.1.signal.symbol) :
    EveryStep (act setup) Checked t
      (entries.map fun entry => .fill candle entry.1 entry.2) := by
  induction entries generalizing t with
  | nil =>
      exact trivial
  | cons entry rest ih =>
      exact ⟨h entry List.mem_cons_self,
        ih fun other hother => h other (List.mem_cons_of_mem entry hother)⟩

theorem barActs_checked (setup : BrokerSetup) (h : t.Labelled) (symbol : Instrument)
    (candle : BacktestCandle) :
    EveryStep (act setup) Checked t (barActs t symbol candle) := by
  rw [barActs, everyStep_append]
  refine ⟨fills_checked setup candle ?_, trivial, trivial, trivial⟩
  intro entry hentry
  have hparked := (List.mem_filter.mp hentry).1
  rw [h.filed symbol entry hparked]
  exact hparked

theorem orderOf_checked {bundle : CandleBundle} {ev : ReplayEvent} (setup : BrokerSetup)
    (hbroker : t.broker = run.broker) :
    EveryStep (act setup) Checked t ((orderOf env cfg bundle run ev).map fun signal =>
      BrokerAct.place signal ev.candle.openTime).toList := by
  cases horder : orderOf env cfg bundle run ev with
  | none =>
      exact trivial
  | some signal =>
      have hsignal : (evaluateEvent env cfg bundle run ev).2 = .ok (some signal) := by
        rw [orderOf] at horder
        split_ifs at horder
        split at horder
        · cases horder
        · next hout =>
            rw [hout, horder]
      rcases evaluateEvent_signal hsignal with ⟨hsymbol, hside⟩
      refine ⟨?_, trivial⟩
      rw [Checked, hbroker, hsymbol]
      exact hside

theorem eventActs_checked (h : t.Labelled) (hbroker : t.broker = run.broker)
    (ev : ReplayEvent) :
    EveryStep (act cfg.brokerSetup) Checked t (eventActs env cfg candles run t ev) := by
  rw [eventActs]
  split_ifs with herror hpair
  · exact trivial
  · cases candles.entries.get ev.symbol with
    | none =>
        exact trivial
    | some bundle =>
        rw [everyStep_append]
        refine ⟨barActs_checked _ h _ _, orderOf_checked _ ?_⟩
        rw [runFrom_barActs _ h, exitStep_broker, hbroker]
  · cases candles.entries.get ev.symbol with
    | none =>
        exact trivial
    | some bundle =>
        exact trivial

theorem flushes_checked (setup : BrokerSetup) (candles : ReplayCandles)
    (symbols : List Instrument) :
    EveryStep (act setup) Checked t (symbols.filterMap fun symbol =>
      (candles.lastM15 symbol).map fun last => .flush symbol last.close last.openTime) := by
  induction symbols generalizing t with
  | nil =>
      exact trivial
  | cons symbol rest ih =>
      cases hlast : candles.lastM15 symbol with
      | none =>
          rw [List.filterMap_cons_none (by rw [hlast]; rfl)]
          exact ih
      | some last =>
          rw [List.filterMap_cons_some (by rw [hlast]; rfl)]
          exact ⟨trivial, ih⟩

theorem replayActs_checked (h : t.Labelled) (hbroker : t.broker = run.broker)
    (events : List ReplayEvent) :
    EveryStep (act cfg.brokerSetup) Checked t (replayActs env cfg candles run t events) := by
  induction events generalizing run t with
  | nil =>
      rw [replayActs]
      split_ifs with herror
      · exact trivial
      · exact flushes_checked cfg.brokerSetup candles cfg.pairs
  | cons ev rest ih =>
      rw [replayActs, everyStep_append]
      exact ⟨eventActs_checked h hbroker ev,
        ih (runFrom_labelled _ h _) (eventActs_broker h hbroker ev)⟩

/-!
# Whole runs
-/

/-- The changes of `ReplayEngine.run`, from its first event to its flush. -/
def runActs (env : EngineEnv) (cfg : ReplayConfig) (candles : ReplayCandles) :
    List BrokerAct :=
  replayActs env cfg candles (.start cfg) (.create cfg.initialBalance)
    (buildTimeline candles cfg.startMs cfg.endMs)

/-- After each change of the run the open positions of a side are from one signal. -/
def NoStacking (env : EngineEnv) (cfg : ReplayConfig) (candles : ReplayCandles) : Prop :=
  forall moment, moment <+: runActs env cfg candles ->
    (runFrom (act cfg.brokerSetup) (.create cfg.initialBalance) moment).OneSignalPerSide

/-- No order of the run finds a limit of its symbol and side parked. -/
def OrdersUnparked (env : EngineEnv) (cfg : ReplayConfig) (candles : ReplayCandles) : Prop :=
  EveryStep (act cfg.brokerSetup) Unparked (.create cfg.initialBalance)
    (runActs env cfg candles)

instance (env : EngineEnv) (cfg : ReplayConfig) (candles : ReplayCandles) :
    Decidable (OrdersUnparked env cfg candles) :=
  inferInstanceAs (Decidable (EveryStep _ _ _ _))

theorem no_stacking (h : OrdersUnparked env cfg candles) : NoStacking env cfg candles := by
  intro moment hmoment
  have hlabelled := TracedBroker.create_labelled cfg.initialBalance
  exact TracedBroker.oneSignalPerSide_of_run hlabelled
    (TracedBroker.create_oneSource cfg.initialBalance)
    (replayActs_checked hlabelled rfl _) h hmoment

/-!
# Market mode
-/

def NothingParked (t : TracedBroker) : Prop :=
  forall k, t.broker.pendingLimits.get k = []

theorem NothingParked.act (h : NothingParked t) {setup : BrokerSetup}
    (hsetup : setup.retraceEntry = none) (a : BrokerAct) : NothingParked (t.act setup a) := by
  intro k
  cases a with
  | fill candle limit order =>
      exact h k
  | wait symbol candle =>
      rw [TracedBroker.act, SimulatedBroker.waitLimits_get, h symbol, h k]
      exact ite_self []
  | exits symbol candle =>
      rw [TracedBroker.act, SimulatedBroker.processPositions_pendingLimits]
      exact h k
  | place signal openTime =>
      rw [TracedBroker.act, hsetup, SimulatedBroker.placeOrder, hsetup]
      exact h k
  | flush symbol closePrice closeTime =>
      exact h k

theorem ordersUnparked_of_market (hcfg : cfg.retraceEntry = none) :
    OrdersUnparked env cfg candles := by
  refine everyStep_of_inv NothingParked (C := fun _ _ => True)
    (fun t a h _ => h.act hcfg a) ?_ (fun _ => rfl) (everyStep_of_forall (fun _ _ => trivial) _ _)
  intro t a h _
  cases a with
  | place signal openTime =>
      intro limit hlimit
      rw [h signal.symbol] at hlimit
      cases hlimit
  | fill | wait | exits | flush =>
      exact trivial

/-!
# Gold with retrace entries
-/

def goldRetraceCfg : ReplayConfig :=
  { goldReplayCfg none with retraceEntry := some { frac := 1 / 2, expiryBars := 12 } }

def twoSweepHours (i : Nat) : BacktestCandle :=
  { goldBar 58 i with high := if i = 58 ∨ i = 59 then 2010 else 2005 }

/-- A signal at eight and one at a quarter past nine; the last quarter reaches both limits. -/
def twoSweepStored : StoredCandles :=
  let nine := dayStart 20503 + 9 * msPerHour
  { goldStored [goldQuarter nine 2006 2004, goldQuarter (nine + 15 * msPerMinute) 2006 2004,
      goldQuarter (nine + 30 * msPerMinute) 2009 2004] with
    h1 := (List.range 61).map twoSweepHours }

def twoSweepCandles : ReplayCandles :=
  loadCandles goldRetraceCfg fun _ => twoSweepStored

def oneSweepCandles : ReplayCandles :=
  loadCandles goldRetraceCfg fun _ =>
    goldStored [goldQuarter (dayStart 20503 + 9 * msPerHour) 2009 2004]

theorem one_sweep_no_stacking : NoStacking documentedEnv goldRetraceCfg oneSweepCandles :=
  no_stacking (by decide +kernel)

/-- Right after the last quarter has filled both limits. -/
def twoSweepMoment : List BrokerAct :=
  (runActs documentedEnv goldRetraceCfg twoSweepCandles).take 11

theorem two_sweeps_stack : ¬ NoStacking documentedEnv goldRetraceCfg twoSweepCandles := by
  intro h
  have hmoment := h twoSweepMoment (List.take_prefix _ _)
  generalize ht : runFrom (act goldRetraceCfg.brokerSetup) (.create goldRetraceCfg.initialBalance)
    twoSweepMoment = t at hmoment
  have hopen : exists p, p ∈ t.broker.positions.get .XAUUSD ∧
      exists q, q ∈ t.broker.positions.get .XAUUSD ∧ p.side = q.side ∧
        t.originOf p ≠ t.originOf q := by
    rw [← ht]
    decide +kernel
  rcases hopen with ⟨p, hp, q, hq, hside, hdiffer⟩
  rcases hmoment .XAUUSD p q hp hq hside with ⟨order, horder, hother⟩
  exact hdiffer (horder.trans hother.symm)

end Replay
end Shamarx
