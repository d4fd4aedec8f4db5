import Shamarx.Foundation.Runs
import Shamarx.Orchestrator.ReplayCursor
import Shamarx.Replay.SimulatedBroker

/-!
# The replay engine

One pass over the M15 bars of all pairs in the order of their times: exits of the
bar's symbol, one evaluation, an order for the signal.  After the last bar of the
window the open positions are flushed at the last bar of the bundle.
-/

namespace Shamarx
namespace Replay

open Foundation
open Engine
open Orchestrator

/-!
# Configuration and candles
-/

structure RunnerTrailOverride where
  beThresholdR : Option ℚ := none
  tpRemovalR : Option ℚ := none
  slClampMaxAtr : Option ℚ := none
  trailWidthMult : Option ℚ := none

structure ReplayConfig where
  startDate : Int
  endDate : Int
  initialBalance : ℚ
  riskPercent : ℚ
  pairs : List Instrument
  maxOpenPositions : Option Nat := none
  runnerTrail : RunnerTrailOverride := {}
  retraceEntry : Option RetraceEntryCfg := none

namespace ReplayConfig

def startMs (cfg : ReplayConfig) : Int :=
  dayStart cfg.startDate

/-- Midnight at the start of the last day. -/
def endMs (cfg : ReplayConfig) : Int :=
  dayStart cfg.endDate

def openCap (cfg : ReplayConfig) : Nat :=
  cfg.maxOpenPositions.getD 4

def brokerSetup (cfg : ReplayConfig) : BrokerSetup :=
  { runnerTrail :=
      { beThresholdR := cfg.runnerTrail.beThresholdR.getD smcRunnerTrail.beThresholdR
        tpRemovalR := cfg.runnerTrail.tpRemovalR.getD smcRunnerTrail.tpRemovalR
        slClampMaxAtr := cfg.runnerTrail.slClampMaxAtr.getD smcRunnerTrail.slClampMaxAtr
        trailWidthMult := cfg.runnerTrail.trailWidthMult.or smcRunnerTrail.trailWidthMult }
    retraceEntry := cfg.retraceEntry }

def riskCfg (cfg : ReplayConfig) : DefaultRiskCfg :=
  { initialBalance := cfg.initialBalance
    riskPercent := cfg.riskPercent
    maxOpenPositions := cfg.openCap }

end ReplayConfig

structure ReplayCandles where
  entries : InsertionMap Instrument CandleBundle
  nodup : (entries.map Prod.fst).Nodup

/-- The last M15 bar of the symbol, at whose close the flush sells. -/
def ReplayCandles.lastM15 (candles : ReplayCandles) (symbol : Instrument) :
    Option BacktestCandle :=
  (candles.entries.get symbol).bind fun bundle => bundle.m15.getLast?

/-!
# Loading
-/

def htfWarmupDays : Int := 220

structure StoredCandles where
  m15 : List BacktestCandle
  h1 : List BacktestCandle
  d1 : List BacktestCandle

def fetchTimeframe (rows : List BacktestCandle) (start end_ : Int) : List BacktestCandle :=
  (rows.filter fun c => decide (start ≤ c.openTime ∧ c.openTime ≤ end_)).insertionSort
    fun a b => a.openTime ≤ b.openTime

/-- Every timeframe is read from the warmup on to the last millisecond of the last
day. -/
def loadBundle (cfg : ReplayConfig) (stored : StoredCandles) : CandleBundle :=
  let htfStart := dayStart (cfg.startDate - htfWarmupDays)
  let end_ := dayStart (cfg.endDate + 1) - 1
  { m15 := fetchTimeframe stored.m15 htfStart end_
    h1 := fetchTimeframe stored.h1 htfStart end_
    d1 := fetchTimeframe stored.d1 htfStart end_ }

def ReplayCandles.empty : ReplayCandles :=
  { entries := [], nodup := List.nodup_nil }

def ReplayCandles.add (candles : ReplayCandles) (symbol : Instrument) (bundle : CandleBundle) :
    ReplayCandles :=
  { entries := candles.entries.set symbol bundle
    nodup := InsertionMap.nodup_set candles.nodup symbol bundle }

def loadCandles (cfg : ReplayConfig) (store : Instrument -> StoredCandles) : ReplayCandles :=
  runFrom (fun candles symbol => candles.add symbol (loadBundle cfg (store symbol))) .empty cfg.pairs

/-!
# The timeline
-/

structure ReplayEvent where
  symbol : Instrument
  candle : BacktestCandle
  deriving DecidableEq

def windowEvents (startMs endMs : Int) (entry : Instrument × CandleBundle) : List ReplayEvent :=
  (entry.2.m15.filter fun c => decide (startMs ≤ c.openTime ∧ c.openTime ≤ endMs)).map
    fun c => { symbol := entry.1, candle := c }

/-- The sort of the source is stable, and so is this one. -/
def buildTimeline (candles : ReplayCandles) (startMs endMs : Int) : List ReplayEvent :=
  (candles.entries.flatMap (windowEvents startMs endMs)).insertionSort
    fun a b => a.candle.openTime ≤ b.candle.openTime

theorem mem_buildTimeline {candles : ReplayCandles} {startMs endMs : Int} {ev : ReplayEvent} :
    ev ∈ buildTimeline candles startMs endMs ↔
      (startMs ≤ ev.candle.openTime ∧ ev.candle.openTime ≤ endMs) ∧
        exists bundle, candles.entries.get ev.symbol = some bundle ∧ ev.candle ∈ bundle.m15 := by
  rw [buildTimeline, List.mem_insertionSort, List.mem_flatMap]
  constructor
  · rintro ⟨entry, hentry, hev⟩
    rcases List.mem_map.mp hev with ⟨c, hc, rfl⟩
    rw [List.mem_filter, decide_eq_true_eq] at hc
    exact ⟨hc.2, entry.2, InsertionMap.get_of_mem candles.nodup hentry, hc.1⟩
  · rintro ⟨hwindow, bundle, hget, hbar⟩
    refine ⟨(ev.symbol, bundle), InsertionMap.mem_of_get hget, List.mem_map.mpr ⟨ev.candle, ?_, rfl⟩⟩
    rw [List.mem_filter, decide_eq_true_eq]
    exact ⟨hbar, hwindow⟩

/-!
# One event
-/

/-- The locals of `run`.  A cursor is a function of the events of its symbol so far;
an error is the exception that ends the run. -/
structure ReplayRun where
  orchestrator : LiveSmcOrchestrator
  broker : SimulatedBroker
  processed : List ReplayEvent
  opened : List SimulatedPosition
  closed : List ClosedPosition
  error : Option EngineError

namespace ReplayRun

def start (cfg : ReplayConfig) : ReplayRun :=
  { orchestrator := .create cfg.riskCfg
    broker := .create cfg.initialBalance
    processed := []
    opened := []
    closed := []
    error := none }

def cursor (run : ReplayRun) (symbol : Instrument) (bundle : CandleBundle) : Cursor bundle :=
  replayCursor bundle
    ((run.processed.filter fun ev => decide (ev.symbol = symbol)).map fun ev => ev.candle.openTime)

end ReplayRun

def exitKindOf : CloseReason -> ExitKind
  | .sl => .sl
  | .tp => .tp
  | .forcedClose => .other

/-- The exit is kept, then the orchestrator hears of it, which may throw.  A result that is
no finite number is heard of as zero. -/
def noteExit (env : EngineEnv) (symbol : Instrument) (run : ReplayRun) (exit : ClosedPosition) :
    ReplayRun :=
  if run.error.isSome then run
  else
    let out := LiveSmcOrchestrator.recordExit env run.orchestrator symbol
      (exitKindOf exit.exitReason) exit.closedAt (some exit.pnl.orZero)
    { run with
      closed := run.closed ++ [exit]
      orchestrator := out.1
      error := match out.2 with
        | .ok () => none
        | .error e => some e }

def exitStep (env : EngineEnv) (cfg : ReplayConfig) (run : ReplayRun) (ev : ReplayEvent) :
    ReplayRun :=
  let out := SimulatedBroker.processCandle cfg.brokerSetup run.broker ev.symbol ev.candle
  out.2.foldl (noteExit env ev.symbol)
    { run with broker := out.1, processed := run.processed ++ [ev] }

def liveContext (cfg : ReplayConfig) (broker : SimulatedBroker) (symbol : Instrument) :
    LiveContext :=
  { accountEquity := broker.getEquity.orZero
    openDirections := broker.getOpenDirections symbol
    totalOpenPositions := broker.totalOpenCount
    riskPercent := some cfg.riskPercent
    maxOpenPositions := some cfg.openCap }

def evaluateEvent (env : EngineEnv) (cfg : ReplayConfig) (bundle : CandleBundle) (run : ReplayRun)
    (ev : ReplayEvent) : LiveSmcOrchestrator × Except EngineError (Option SmcLiveSignal) :=
  evaluate env run.orchestrator ev.symbol bundle (liveContext cfg run.broker ev.symbol)
    (some (callIndicators env bundle none)) (some (run.cursor ev.symbol bundle))

/-- A parked limit consumes the setup as a filled order does. -/
def orderStep (cfg : ReplayConfig) (run : ReplayRun) (ev : ReplayEvent) (signal : SmcLiveSignal) :
    ReplayRun :=
  let placed := SimulatedBroker.placeOrder cfg.brokerSetup run.broker signal ev.candle.openTime
  { run with
    broker := placed.1
    opened := run.opened ++ placed.2
    orchestrator :=
      if placed.2 ≠ [] ∨ run.broker.pendingCount < placed.1.pendingCount then
        run.orchestrator.recordEntry ev.symbol signal.h1SweepTime
      else run.orchestrator }

def entryStep (env : EngineEnv) (cfg : ReplayConfig) (bundle : CandleBundle) (run : ReplayRun)
    (ev : ReplayEvent) : ReplayRun :=
  let cur := run.cursor ev.symbol bundle
  if run.error.isSome ∨ cur.m15 < 30 ∨ cur.h1 < 30 then run
  else
    let out := evaluateEvent env cfg bundle run ev
    let run := { run with orchestrator := out.1 }
    match out.2 with
    | .error e => { run with error := some e }
    | .ok none => run
    | .ok (some signal) => orderStep cfg run ev signal

/-- A loaded symbol that is not among the pairs has no cursor. -/
def replayStep (env : EngineEnv) (cfg : ReplayConfig) (candles : ReplayCandles) (run : ReplayRun)
    (ev : ReplayEvent) : ReplayRun :=
  if run.error.isSome then run
  else
    match candles.entries.get ev.symbol with
    | none => run
    | some bundle =>
        if ev.symbol ∈ cfg.pairs then entryStep env cfg bundle (exitStep env cfg run ev) ev
        else { run with error := some .typeError }

/-!
# Flush and result
-/

def flushStep (candles : ReplayCandles) (run : ReplayRun) (symbol : Instrument) : ReplayRun :=
  match candles.lastM15 symbol with
  | none => run
  | some last =>
      let out := run.broker.closeAllForSymbol symbol last.close last.openTime
      { run with broker := out.1, closed := run.closed ++ out.2 }

structure ReplayMetrics where
  tradesCount : Nat
  winsCount : Nat
  lossesCount : Nat
  realizedPnl : Number
  netReturnPct : Number
  deriving DecidableEq

structure ReplayResult where
  opened : List SimulatedPosition
  closed : List ClosedPosition
  finalBalance : Number
  maxConcurrent : Nat
  metrics : ReplayMetrics
  deriving DecidableEq

def replayMetrics (cfg : ReplayConfig) (closedAll : List ClosedPosition) : ReplayMetrics :=
  let realizedPnl := (closedAll.map ClosedPosition.pnl).sum
  { tradesCount := closedAll.length
    winsCount := (closedAll.filter fun t => decide (0 < t.pnl)).length
    lossesCount := (closedAll.filter fun t => decide (t.pnl ≤ 0)).length
    realizedPnl := realizedPnl.roundTo 100
    netReturnPct :=
      if 0 < cfg.initialBalance then ((realizedPnl.div cfg.initialBalance).mul 100).roundTo 100
      else 0 }

def replayLoop (env : EngineEnv) (cfg : ReplayConfig) (candles : ReplayCandles) : ReplayRun :=
  runFrom (replayStep env cfg candles) (.start cfg)
    (buildTimeline candles cfg.startMs cfg.endMs)

def replayFlushed (env : EngineEnv) (cfg : ReplayConfig) (candles : ReplayCandles) : ReplayRun :=
  runFrom (flushStep candles) (replayLoop env cfg candles) cfg.pairs

def ReplayRun.result (cfg : ReplayConfig) (run : ReplayRun) : ReplayResult :=
  { opened := run.opened
    closed := run.closed
    finalBalance := run.broker.balance
    maxConcurrent := run.broker.maxConcurrent
    metrics := replayMetrics cfg run.broker.closed }

@[simp] theorem ReplayRun.result_closed (cfg : ReplayConfig) (run : ReplayRun) :
    (run.result cfg).closed = run.closed := rfl

def replay (env : EngineEnv) (cfg : ReplayConfig) (candles : ReplayCandles) :
    Except EngineError ReplayResult :=
  match (replayLoop env cfg candles).error with
  | some e => .error e
  | none => .ok ((replayFlushed env cfg candles).result cfg)

/-!
# A gold replay

The gold market of the orchestrator over two days: a signal on the first morning,
and the bars given for the time after it.
-/

def goldQuarter (t : Int) (high close : ℚ) : BacktestCandle :=
  { openTime := t, open_ := 2004, high := high, low := 2002, close := close }

def goldM15 : List BacktestCandle :=
  ((List.range 199).map fun (i : Nat) =>
    goldQuarter (dayStart 20503 - (199 - i) * (15 * msPerMinute)) 2006 2004) ++
      [goldQuarter (dayStart 20503 + 8 * msPerHour) 2006 2004]

def goldStored (after : List BacktestCandle) : StoredCandles :=
  { m15 := goldM15 ++ after
    h1 := (List.range 60).map (goldBar 58)
    d1 := (List.range 31).map fun i => { goldD1Bar i with openTime := dayStart (20472 + i) } }

def goldReplayCfg (maxOpenPositions : Option Nat) : ReplayConfig :=
  { startDate := 20503
    endDate := 20504
    initialBalance := 10000
    riskPercent := 15 / 10
    pairs := [.XAUUSD]
    maxOpenPositions := maxOpenPositions }

/-- A quarter of an hour into the last day the price runs through the stop. -/
def goldStopBar : BacktestCandle :=
  goldQuarter (dayStart 20504 + 15 * msPerMinute) 2100 2050

def goldCandles (maxOpenPositions : Option Nat) : ReplayCandles :=
  loadCandles (goldReplayCfg maxOpenPositions) fun _ => goldStored [goldStopBar]

end Replay
end Shamarx
