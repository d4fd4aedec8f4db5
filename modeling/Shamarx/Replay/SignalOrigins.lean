import Mathlib.Logic.Function.Basic
import Shamarx.Replay.FillModel
import Shamarx.Replay.RetraceParity

/-!
# The signal behind a position

The broker does not keep which signal a parked limit or a position came from.  Here
every order gets a number, which its limit and its positions carry.  Without the
numbers the broker is the one of the engine.
-/

namespace Shamarx
namespace Replay

open Foundation
open Engine
open Orchestrator

namespace SimulatedBroker

def waitLimits (b : SimulatedBroker) (symbol : Instrument) (candle : BacktestCandle) :
    SimulatedBroker :=
  let remaining := (b.pendingLimits.get symbol).filterMap (limitStep candle)
  { b with
    pendingLimits :=
      if remaining = [] then b.pendingLimits.delete symbol
      else b.pendingLimits.set symbol remaining }

theorem processPendingLimits_eq (setup : BrokerSetup) (b : SimulatedBroker) (symbol : Instrument)
    (candle : BacktestCandle) :
    processPendingLimits setup b symbol candle =
      (((b.pendingLimits.get symbol).filter fun p => decide (Touched candle p)).foldl
        (fillLimit setup candle) b).waitLimits symbol candle := by
  rw [processPendingLimits, waitLimits, fillLimits_pendingLimits, filterMap_limitStep]

theorem waitLimits_get (b : SimulatedBroker) (symbol k : Instrument) (candle : BacktestCandle) :
    (b.waitLimits symbol candle).pendingLimits.get k =
      if k = symbol then (b.pendingLimits.get symbol).filterMap (limitStep candle)
      else b.pendingLimits.get k := by
  unfold waitLimits
  dsimp only
  split_ifs with hnone hk hk
  · rw [hk, Buckets.get_delete_self, hnone]
  · exact Buckets.get_delete_of_ne hk
  · rw [hk, Buckets.get_set_self]
  · exact Buckets.get_set_of_ne _ hk

theorem kept_of_processPositions {b : SimulatedBroker} {symbol k : Instrument}
    {candle : BacktestCandle} {p : SimulatedPosition}
    (h : p ∈ (b.processPositions symbol candle).1.positions.get k) :
    exists old, old ∈ b.positions.get k ∧ old.id = p.id ∧ old.side = p.side := by
  rcases mem_processPositions h with ⟨-, hother⟩ | ⟨rfl, -, old, hold, rfl⟩
  · exact ⟨p, hother, rfl, rfl⟩
  · have hopening := managePosition_opening candle (getSpread k candle.openTime) old
    exact ⟨old, hold, (congrArg SimulatedPosition.id hopening).symm,
      (congrArg (fun q => q.side) hopening).symm⟩

end SimulatedBroker

/-!
# Numbered orders
-/

/-- The broker, with the number of orders so far, the order of each parked limit, and
the order of each position that was created, under its id. -/
structure TracedBroker where
  broker : SimulatedBroker
  orders : Nat
  parked : Instrument -> List (PendingLimit × Nat)
  origins : List Nat

inductive BrokerAct where
  | fill (candle : BacktestCandle) (limit : PendingLimit) (order : Nat)
  | wait (symbol : Instrument) (candle : BacktestCandle)
  | exits (symbol : Instrument) (candle : BacktestCandle)
  | place (signal : SmcLiveSignal) (openTime : Int)
  | flush (symbol : Instrument) (closePrice : ℚ) (closeTime : Int)

namespace TracedBroker

def create (initialBalance : ℚ) : TracedBroker :=
  { broker := .create initialBalance
    orders := 0
    parked := fun _ => []
    origins := [] }

/-- The number of a limit stays with what a bar leaves of it. -/
def numberedStep (candle : BacktestCandle) (entry : PendingLimit × Nat) :
    Option (PendingLimit × Nat) :=
  (limitStep candle entry.1).map fun p => (p, entry.2)

def act (setup : BrokerSetup) (t : TracedBroker) : BrokerAct -> TracedBroker
  | .fill candle limit order =>
      { t with
        broker := t.broker.fillLimit setup candle limit
        origins := t.origins ++ List.replicate limit.signal.legs.length order }
  | .wait symbol candle =>
      { t with
        broker := t.broker.waitLimits symbol candle
        parked := Function.update t.parked symbol
          ((t.parked symbol).filterMap (numberedStep candle)) }
  | .exits symbol candle => { t with broker := (t.broker.processPositions symbol candle).1 }
  | .place signal openTime =>
      let placed := { t with
        broker := (t.broker.placeOrder setup signal openTime).1
        orders := t.orders + 1 }
      match setup.retraceEntry with
      | none =>
          { placed with
            origins := t.origins ++ List.replicate signal.legs.length t.orders }
      | some retrace =>
          { placed with
            parked := Function.update t.parked signal.symbol
              (t.parked signal.symbol ++ [(parkedLimit retrace signal, t.orders)]) }
  | .flush symbol closePrice closeTime =>
      { t with broker := (t.broker.closeAllForSymbol symbol closePrice closeTime).1 }

def originOf (t : TracedBroker) (p : SimulatedPosition) : Option Nat :=
  t.origins[p.id]?

/-- The open positions of one symbol and side are from one order. -/
def OneSignalPerSide (t : TracedBroker) : Prop :=
  forall symbol p q, p ∈ t.broker.positions.get symbol -> q ∈ t.broker.positions.get symbol ->
    p.side = q.side -> exists order, t.originOf p = some order ∧ t.originOf q = some order

/-!
# The numbers belong to the broker
-/

structure Labelled (t : TracedBroker) : Prop where
  limits : forall k, (t.parked k).map Prod.fst = t.broker.pendingLimits.get k
  filed : forall k entry, entry ∈ t.parked k -> entry.1.signal.symbol = k
  origins : t.origins.length = t.broker.created.length

variable {setup : BrokerSetup} {t : TracedBroker}

theorem create_labelled (initialBalance : ℚ) : (create initialBalance).Labelled where
  limits := fun _ => rfl
  filed := by
    intro k entry hentry
    cases hentry
  origins := rfl

theorem fillAt_created (setup : BrokerSetup) (b : SimulatedBroker) (signal : SmcLiveSignal)
    (entryPrice : ℚ) (openTime : Int) (lotScale : Number) :
    (SimulatedBroker.fillAt setup b signal entryPrice openTime lotScale).1.created.length =
      b.created.length + signal.legs.length := by
  rw [SimulatedBroker.fillAt, List.length_append, SimulatedBroker.legPositions_length]

theorem processPositions_created (b : SimulatedBroker) (symbol : Instrument)
    (candle : BacktestCandle) : (b.processPositions symbol candle).1.created = b.created := by
  rcases b.processPositions_cases symbol candle with hsame | ⟨rest, closing, hsplit, -⟩
  · rw [hsame]
  · rw [hsplit]
    rfl

theorem mem_numberedStep {candle : BacktestCandle} {entries : List (PendingLimit × Nat)}
    {entry : PendingLimit × Nat} (h : entry ∈ entries.filterMap (numberedStep candle)) :
    exists old, old ∈ entries ∧ old.1.signal = entry.1.signal ∧ old.2 = entry.2 := by
  rcases List.mem_filterMap.mp h with ⟨old, hold, hstep⟩
  rcases Option.map_eq_some_iff.mp hstep with ⟨p, hp, rfl⟩
  refine ⟨old, hold, ?_, rfl⟩
  unfold limitStep at hp
  split_ifs at hp
  rw [SimulatedBroker.waitBar_eq hp]

theorem filterMap_numberedStep (candle : BacktestCandle) (entries : List (PendingLimit × Nat)) :
    (entries.filterMap (numberedStep candle)).map Prod.fst =
      (entries.map Prod.fst).filterMap (limitStep candle) := by
  rw [List.map_filterMap, List.filterMap_map]
  apply List.filterMap_congr
  intro entry _
  rw [numberedStep, Option.map_map]
  exact Option.map_id'

theorem Labelled.act (h : t.Labelled) (setup : BrokerSetup) (a : BrokerAct) :
    (t.act setup a).Labelled := by
  cases a with
  | fill candle limit order =>
      refine ⟨h.limits, h.filed, ?_⟩
      rw [TracedBroker.act, List.length_append, List.length_replicate, h.origins]
      exact (fillAt_created setup t.broker limit.signal _ _ _).symm
  | wait symbol candle =>
      refine ⟨?_, ?_, h.origins⟩
      · intro k
        rw [TracedBroker.act, SimulatedBroker.waitLimits_get]
        dsimp only
        by_cases hk : k = symbol
        · subst hk
          rw [Function.update_self, if_pos rfl, filterMap_numberedStep, h.limits]
        · rw [Function.update_of_ne hk, if_neg hk, h.limits]
      · intro k entry hentry
        rw [TracedBroker.act] at hentry
        dsimp only at hentry
        by_cases hk : k = symbol
        · subst hk
          rw [Function.update_self] at hentry
          rcases mem_numberedStep hentry with ⟨old, hold, hsignal, -⟩
          rw [← hsignal]
          exact h.filed k old hold
        · rw [Function.update_of_ne hk] at hentry
          exact h.filed k entry hentry
  | exits symbol candle =>
      refine ⟨?_, h.filed, ?_⟩
      · intro k
        rw [TracedBroker.act, SimulatedBroker.processPositions_pendingLimits]
        exact h.limits k
      · rw [TracedBroker.act, processPositions_created]
        exact h.origins
  | place signal openTime =>
      rw [TracedBroker.act]
      cases hretrace : setup.retraceEntry with
      | none =>
          refine ⟨?_, h.filed, ?_⟩
          · intro k
            rw [SimulatedBroker.placeOrder, hretrace]
            exact h.limits k
          · rw [SimulatedBroker.placeOrder, hretrace]
            dsimp only
            rw [List.length_append, List.length_replicate, h.origins, fillAt_created]
      | some retrace =>
          refine ⟨?_, ?_, ?_⟩
          · intro k
            rw [SimulatedBroker.placeOrder, hretrace]
            dsimp only
            by_cases hk : k = signal.symbol
            · subst hk
              rw [Function.update_self, Buckets.get_set_self, List.map_append, h.limits]
              rfl
            · rw [Function.update_of_ne hk, Buckets.get_set_of_ne _ hk, h.limits]
          · intro k entry hentry
            dsimp only at hentry
            by_cases hk : k = signal.symbol
            · subst hk
              rw [Function.update_self] at hentry
              rcases List.mem_append.mp hentry with hold | hnew
              · exact h.filed _ entry hold
              · rw [List.mem_singleton.mp hnew]
                rfl
            · rw [Function.update_of_ne hk] at hentry
              exact h.filed k entry hentry
          · rw [SimulatedBroker.placeOrder, hretrace]
            exact h.origins
  | flush symbol closePrice closeTime =>
      exact ⟨h.limits, h.filed, h.origins⟩

end TracedBroker
end Replay
end Shamarx
