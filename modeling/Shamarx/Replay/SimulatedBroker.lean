import Shamarx.Engine.PositionSimulator
import Shamarx.Foundation.Buckets
import Shamarx.Foundation.Numbers
import Shamarx.Orchestrator.Evaluate

/-!
# The simulated broker

One account in memory for all pairs of a replay.  A signal opens one position a
leg, at once or when a parked limit is touched; each M15 bar manages the open
positions of its symbol and closes those it stops out or takes profit on.
-/

namespace Shamarx
namespace Replay

open Foundation
open Engine
open Orchestrator

structure SimulatedPosition extends ManagedPosition where
  id : Nat
  symbol : Instrument
  lotSize : Number
  entryTime : Int
  setupTags : List SetupTag
  mode : SmcMode
  reason : SignalReason
  smcContext : Option SmcContext
  deriving DecidableEq

inductive CloseReason where
  | sl
  | tp
  | forcedClose
  deriving DecidableEq, Repr

structure ClosedPosition extends SimulatedPosition where
  closePrice : ℚ
  closedAt : Int
  pnl : Number
  exitReason : CloseReason
  deriving DecidableEq

/-- The limit waits `frac` of the way from the entry back to the stop. -/
structure RetraceEntryCfg where
  frac : ℚ
  expiryBars : ℚ

def RetraceEntryCfg.scale (retrace : RetraceEntryCfg) : Number :=
  .ofDiv 1 (1 - retrace.frac)

structure PendingLimit where
  signal : SmcLiveSignal
  limitPrice : ℚ
  scale : Number
  barsLeft : ℚ

/-- What the constructor fixes: the trail of runner legs and the entry experiment. -/
structure BrokerSetup where
  runnerTrail : RegimeTradeParams
  retraceEntry : Option RetraceEntryCfg

/-- The last two fields are history: every position that was created, under the
number of its creation as its unique id, and the open count at the start and after
each change of the position lists. -/
structure SimulatedBroker where
  balance : Number
  positions : Buckets Instrument SimulatedPosition
  closed : List ClosedPosition
  maxConcurrent : Nat
  pendingLimits : Buckets Instrument PendingLimit
  created : List SimulatedPosition
  moments : List Nat

namespace SimulatedBroker

def create (initialBalance : ℚ) : SimulatedBroker :=
  { balance := .finite initialBalance
    positions := .empty
    closed := []
    maxConcurrent := 0
    pendingLimits := .empty
    created := []
    moments := [0] }

def pendingCount (b : SimulatedBroker) : Nat :=
  b.pendingLimits.count

def totalOpenCount (b : SimulatedBroker) : Nat :=
  b.positions.count

def getEquity (b : SimulatedBroker) : Number :=
  b.balance

def getOpenDirections (b : SimulatedBroker) (symbol : Instrument) : List Side :=
  ((b.positions.get symbol).map fun p => p.side).dedup

def setPositions (b : SimulatedBroker) (positions : Buckets Instrument SimulatedPosition) :
    SimulatedBroker :=
  { b with positions := positions, moments := b.moments ++ [positions.count] }

/-!
# Fills
-/

def legPosition (setup : BrokerSetup) (signal : SmcLiveSignal) (entryPrice : ℚ) (openTime : Int)
    (lotScale : Number) (id : Nat) (leg : SmcLiveSignalLeg) : SimulatedPosition :=
  { id := id
    symbol := signal.symbol
    side := signal.side
    lotSize := (lotScale.mul leg.lotSize).roundTo 100
    entryPrice := entryPrice
    slPrice := signal.slPrice
    originalSlPrice := signal.slPrice
    tpPrice := some leg.tpPrice
    entryTime := openTime
    setupTags := leg.setupTags
    breakevenActivated := false
    peakFavorablePrice := entryPrice
    -- no leg of a signal carries the tags of the older engines
    rangeEngine := false
    fvgFill := false
    trailConfig := some (if SetupTag.tp1 ∈ leg.setupTags then smcTp1Trail else setup.runnerTrail)
    mode := signal.mode
    reason := signal.reason
    smcContext := signal.smcContext }

def legPositions (setup : BrokerSetup) (signal : SmcLiveSignal) (entryPrice : ℚ) (openTime : Int)
    (lotScale : Number) (firstId : Nat) : List SimulatedPosition :=
  (signal.legs.zipIdx firstId).map fun (leg, id) =>
    legPosition setup signal entryPrice openTime lotScale id leg

def fillAt (setup : BrokerSetup) (b : SimulatedBroker) (signal : SmcLiveSignal) (entryPrice : ℚ)
    (openTime : Int) (lotScale : Number) : SimulatedBroker × List SimulatedPosition :=
  let opened := legPositions setup signal entryPrice openTime lotScale b.created.length
  let filled := b.setPositions
    (b.positions.set signal.symbol (b.positions.get signal.symbol ++ opened))
  ({ filled with
      created := b.created ++ opened
      maxConcurrent := max b.maxConcurrent filled.totalOpenCount }, opened)

def limitPriceOf (signal : SmcLiveSignal) (frac : ℚ) : ℚ :=
  let dist := |signal.entryPrice - signal.slPrice|
  match signal.side with
  | .buy => signal.entryPrice - dist * frac
  | .sell => signal.entryPrice + dist * frac

def placeOrder (setup : BrokerSetup) (b : SimulatedBroker) (signal : SmcLiveSignal)
    (openTime : Int) : SimulatedBroker × List SimulatedPosition :=
  match setup.retraceEntry with
  | some retrace =>
      let limit : PendingLimit :=
        { signal := signal
          limitPrice := limitPriceOf signal retrace.frac
          scale := retrace.scale
          barsLeft := retrace.expiryBars }
      ({ b with
          pendingLimits := b.pendingLimits.set signal.symbol
            (b.pendingLimits.get signal.symbol ++ [limit]) }, [])
  | none => fillAt setup b signal signal.entryPrice openTime (.finite 1)

/-!
# Closes
-/

/-- The price at which a position of a yen pair is closed is not zero. -/
def calcPnl (pos : SimulatedPosition) (closePrice : ℚ) : Number :=
  let direction : ℚ := match pos.side with
    | .buy => 1
    | .sell => -1
  let raw := (pos.lotSize.mul ((closePrice - pos.entryPrice) * direction)).mul
    (getInstrumentConfig pos.symbol).lotSizeUnits
  (if pos.symbol.isJpyPair then raw.div closePrice else raw).roundTo 100

def closePosition (pos : SimulatedPosition) (closePrice : ℚ) (closeTime : Int)
    (exitReason : CloseReason) : ClosedPosition :=
  { toSimulatedPosition := pos
    closePrice := closePrice
    closedAt := closeTime
    pnl := calcPnl pos closePrice
    exitReason := exitReason }

def close (b : SimulatedBroker) (closing : List ClosedPosition) : SimulatedBroker :=
  { b with
    balance := b.balance + (closing.map ClosedPosition.pnl).sum
    closed := b.closed ++ closing }

/-!
# One bar
-/

def Touched (candle : BacktestCandle) (p : PendingLimit) : Prop :=
  match p.signal.side with
  | .buy => candle.low ≤ p.limitPrice
  | .sell => p.limitPrice ≤ candle.high

instance (candle : BacktestCandle) (p : PendingLimit) : Decidable (Touched candle p) := by
  unfold Touched
  split <;> infer_instance

/-- A limit that the bar does not touch has one bar less, if any is left. -/
def waitBar (p : PendingLimit) : Option PendingLimit :=
  if 0 < p.barsLeft - 1 then some { p with barsLeft := p.barsLeft - 1 } else none

def fillLimit (setup : BrokerSetup) (candle : BacktestCandle) (b : SimulatedBroker)
    (p : PendingLimit) : SimulatedBroker :=
  (fillAt setup b p.signal p.limitPrice candle.openTime p.scale).1

/-- The touched limits fill in order, before any stop is checked. -/
def processPendingLimits (setup : BrokerSetup) (b : SimulatedBroker) (symbol : Instrument)
    (candle : BacktestCandle) : SimulatedBroker :=
  let list := b.pendingLimits.get symbol
  let touched := list.filter fun p => decide (Touched candle p)
  let remaining := (list.filter fun p => decide (¬ Touched candle p)).filterMap waitBar
  let b := touched.foldl (fillLimit setup candle) b
  { b with
    pendingLimits :=
      if remaining = [] then b.pendingLimits.delete symbol
      else b.pendingLimits.set symbol remaining }

/-- Positions filled on this very bar are not managed with it. -/
def managePosition (candle : BacktestCandle) (spread : ℚ) (p : SimulatedPosition) :
    SimulatedPosition :=
  if p.entryTime = candle.openTime then p
  else { p with toManagedPosition := updatePositionManagement p.toManagedPosition candle spread }

def SlHit (candle : BacktestCandle) (p : SimulatedPosition) : Prop :=
  match p.side with
  | .buy => candle.low ≤ p.slPrice
  | .sell => p.slPrice ≤ candle.high

instance (candle : BacktestCandle) (p : SimulatedPosition) : Decidable (SlHit candle p) := by
  unfold SlHit
  split <;> infer_instance

/-- The target that the bar reaches, on a bar after the one of the fill. -/
def tpHit (candle : BacktestCandle) (p : SimulatedPosition) : Option ℚ :=
  if p.entryTime = candle.openTime then none
  else
    p.tpPrice.filter fun tp =>
      match p.side with
      | .buy => decide (tp ≤ candle.high)
      | .sell => decide (candle.low ≤ tp)

/-- How the bar closes the position; the stop comes first. -/
def closesOn (candle : BacktestCandle) (p : SimulatedPosition) : Option ClosedPosition :=
  if SlHit candle p then some (closePosition p p.slPrice candle.openTime .sl)
  else (tpHit candle p).map fun tp => closePosition p tp candle.openTime .tp

def processPositions (b : SimulatedBroker) (symbol : Instrument) (candle : BacktestCandle) :
    SimulatedBroker × List ClosedPosition :=
  let spread := getSpread symbol candle.openTime
  let managed := (b.positions.get symbol).map (managePosition candle spread)
  let justClosed := managed.filterMap (closesOn candle)
  let stillOpen := managed.filter fun p => (closesOn candle p).isNone
  if managed = [] then (b, [])
  else
    ((b.close justClosed).setPositions
      (if stillOpen = [] then b.positions.delete symbol else b.positions.set symbol stillOpen),
      justClosed)

def processCandle (setup : BrokerSetup) (b : SimulatedBroker) (symbol : Instrument)
    (candle : BacktestCandle) : SimulatedBroker × List ClosedPosition :=
  (processPendingLimits setup b symbol candle).processPositions symbol candle

def closeAllForSymbol (b : SimulatedBroker) (symbol : Instrument) (closePrice : ℚ)
    (closeTime : Int) : SimulatedBroker × List ClosedPosition :=
  let result := (b.positions.get symbol).map fun pos =>
    closePosition pos closePrice closeTime .forcedClose
  ((b.close result).setPositions (b.positions.delete symbol), result)

end SimulatedBroker

/-!
# Runs
-/

inductive BrokerOp where
  | place (signal : SmcLiveSignal) (openTime : Int)
  | candle (symbol : Instrument) (candle : BacktestCandle)
  | closeAll (symbol : Instrument) (closePrice : ℚ) (closeTime : Int)

def brokerStep (setup : BrokerSetup) (b : SimulatedBroker) : BrokerOp -> SimulatedBroker
  | .place signal openTime => (b.placeOrder setup signal openTime).1
  | .candle symbol candle => (b.processCandle setup symbol candle).1
  | .closeAll symbol closePrice closeTime =>
      (b.closeAllForSymbol symbol closePrice closeTime).1

end Replay
end Shamarx
