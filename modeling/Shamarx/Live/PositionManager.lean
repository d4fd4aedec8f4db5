import Shamarx.Broker.ModifyPosition
import Shamarx.Engine.Instruments
import Shamarx.Engine.PositionSimulator

/-!
# The position manager

At each M15 close the manager rebuilds the position of an open trade from its row
and from the broker, lets `updatePositionManagement` move it, sends the new levels
to the broker if they differ enough, and writes the row.
-/

namespace Shamarx
namespace Live

open Engine
open Broker

inductive TrailKey where
  | tp1
  | runner
  deriving DecidableEq, Repr

structure ManagementState where
  breakevenActivated : Bool
  peakFavorablePrice : ℚ
  originalSlPrice : ℚ
  trailKey : TrailKey
  deriving DecidableEq

/-- The state as the row stores it; any field may be missing. -/
structure StoredState where
  breakevenActivated : Option Bool
  peakFavorablePrice : Option ℚ
  originalSlPrice : Option ℚ
  trailKey : Option TrailKey
  deriving DecidableEq

def ManagementState.stored (state : ManagementState) : StoredState :=
  { breakevenActivated := some state.breakevenActivated
    peakFavorablePrice := some state.peakFavorablePrice
    originalSlPrice := some state.originalSlPrice
    trailKey := some state.trailKey }

/-- The row of an open trade, as far as the manager reads and writes it. -/
structure ManagedTrade where
  side : Side
  entryPrice : ℚ
  slPrice : ℚ
  tpPrice : ℚ
  state : StoredState
  deriving DecidableEq

structure BrokerPosition where
  entryPrice : ℚ
  sl : ℚ
  tp : ℚ
  deriving DecidableEq

/-- A row carries no setup tags, so a state without a trail key is a runner's. -/
def parseState (trade : ManagedTrade) (broker : BrokerPosition) : ManagementState :=
  { breakevenActivated := trade.state.breakevenActivated.getD false
    peakFavorablePrice := trade.state.peakFavorablePrice.getD broker.entryPrice
    originalSlPrice := trade.state.originalSlPrice.getD trade.slPrice
    trailKey := trade.state.trailKey.getD .runner }

def trailConfigOf : TrailKey -> RegimeTradeParams
  | .tp1 => smcTp1Trail
  | .runner => smcRunnerTrail

/-- Of the two stops the broker's counts, and so does its target. -/
def managedPosition (trade : ManagedTrade) (broker : BrokerPosition) : ManagedPosition :=
  let state := parseState trade broker
  { side := trade.side
    entryPrice := trade.entryPrice
    slPrice := if 0 < broker.sl then broker.sl else trade.slPrice
    originalSlPrice := state.originalSlPrice
    tpPrice := some (if 0 < broker.tp then broker.tp else trade.tpPrice)
    breakevenActivated := state.breakevenActivated
    peakFavorablePrice := state.peakFavorablePrice
    rangeEngine := false
    fvgFill := false
    trailConfig := some (trailConfigOf state.trailKey) }

def minSlChangeAbs : Instrument -> ℚ
  | .XAUUSD => 5 / 100
  | .EURUSD => 1 / 10000
  | .GBPUSD => 1 / 10000
  | .USDJPY => 1 / 100
  | _ => 1 / 10000

theorem minSlChangeAbs_pos (symbol : Instrument) : 0 < minSlChangeAbs symbol := by
  cases symbol <;> norm_num [minSlChangeAbs]

def SlChanged (symbol : Instrument) (pos updated : ManagedPosition) : Prop :=
  minSlChangeAbs symbol ≤ |updated.slPrice - pos.slPrice|

def TpRemoved (pos updated : ManagedPosition) : Prop :=
  pos.tpPrice.isSome ∧ updated.tpPrice = none

def TpChanged (symbol : Instrument) (pos updated : ManagedPosition) : Prop :=
  match updated.tpPrice, pos.tpPrice with
  | some new, some old => minSlChangeAbs symbol ≤ |new - old|
  | _, _ => False

def NeedsModify (symbol : Instrument) (pos updated : ManagedPosition) : Prop :=
  SlChanged symbol pos updated ∨ TpRemoved pos updated ∨ TpChanged symbol pos updated

instance (symbol : Instrument) (pos updated : ManagedPosition) :
    Decidable (SlChanged symbol pos updated) :=
  inferInstanceAs (Decidable (_ ≤ _))

instance (pos updated : ManagedPosition) : Decidable (TpRemoved pos updated) :=
  inferInstanceAs (Decidable (_ ∧ _))

instance (symbol : Instrument) (pos updated : ManagedPosition) :
    Decidable (TpChanged symbol pos updated) := by
  unfold TpChanged
  split <;> infer_instance

instance (symbol : Instrument) (pos updated : ManagedPosition) :
    Decidable (NeedsModify symbol pos updated) :=
  inferInstanceAs (Decidable (_ ∨ _ ∨ _))

def newState (trade : ManagedTrade) (broker : BrokerPosition) (updated : ManagedPosition) :
    ManagementState :=
  let state := parseState trade broker
  { breakevenActivated := updated.breakevenActivated
    peakFavorablePrice := updated.peakFavorablePrice
    originalSlPrice := state.originalSlPrice
    trailKey := state.trailKey }

/-- The row after its update; a removed target is never written. -/
def writtenTrade (trade : ManagedTrade) (broker : BrokerPosition) (updated : ManagedPosition) :
    ManagedTrade :=
  { trade with
    slPrice := updated.slPrice
    tpPrice := updated.tpPrice.getD trade.tpPrice
    state := (newState trade broker updated).stored }

def updatedPosition (symbol : Instrument) (trade : ManagedTrade) (broker : BrokerPosition)
    (candle : BacktestCandle) : ManagedPosition :=
  updatePositionManagement (managedPosition trade broker) candle
    (getSpread symbol candle.openTime)

/-- The request of a pass; a removed target is sent as zero. -/
def modifyRequest (ticket : Nat) (updated : ManagedPosition) : ModifyRequest :=
  { ticket := ticket
    slPrice := updated.slPrice
    tpPrice := updated.tpPrice.getD 0 }

/-- The body of `manageSymbolForAccount` for one trade that the broker lists, with what
becomes of its request. -/
def manageTrade (symbol : Instrument) (ticket : Nat) (trade : ManagedTrade)
    (broker : BrokerPosition) (candle : BacktestCandle) (outcome : ModifyOutcome) :
    ManagedTrade :=
  let pos := managedPosition trade broker
  let updated := updatedPosition symbol trade broker candle
  if updated = pos then trade
  else if NeedsModify symbol pos updated then
    if modifyThrows (modifyRequest ticket updated) outcome then trade
    else writtenTrade trade broker updated
  else writtenTrade trade broker updated

/-!
# The row and the broker after a modification
-/

def CarriesStop (trade : ManagedTrade) (slPrice : ℚ) (state : ManagementState) : Prop :=
  trade.slPrice = slPrice ∧ trade.state = state.stored

/-- After an accepted modification the row carries the stop and its state; otherwise it
is as before. -/
def StopAgrees (before after : ManagedTrade) (slPrice : ℚ) (state : ManagementState)
    (accepted : Bool) : Prop :=
  (accepted = true -> CarriesStop after slPrice state) ∧ (accepted = false -> after = before)

instance (trade : ManagedTrade) (slPrice : ℚ) (state : ManagementState) :
    Decidable (CarriesStop trade slPrice state) :=
  inferInstanceAs (Decidable (_ ∧ _))

instance (before after : ManagedTrade) (slPrice : ℚ) (state : ManagementState)
    (accepted : Bool) : Decidable (StopAgrees before after slPrice state accepted) :=
  inferInstanceAs (Decidable ((_ -> _) ∧ (_ -> _)))

/-- What makes row and broker agree: the request never gets to an adapter, MetaApi's
broker accepts or the cTrader broker does not, or the row has the values already. -/
def AdapterTellsTruth (trade : ManagedTrade) (broker : BrokerPosition)
    (updated : ManagedPosition) : ModifyOutcome -> Prop
  | .unreached _ => True
  | .metaApi m => m.accepts = true ∨ writtenTrade trade broker updated = trade
  | .ctrader m =>
      m.accepts = false ∨ CarriesStop trade updated.slPrice (newState trade broker updated)

theorem manageTrade_of_slChanged {symbol : Instrument} {trade : ManagedTrade}
    {broker : BrokerPosition} {candle : BacktestCandle}
    (h : SlChanged symbol (managedPosition trade broker)
      (updatedPosition symbol trade broker candle))
    (ticket : Nat) (outcome : ModifyOutcome) :
    manageTrade symbol ticket trade broker candle outcome =
      if modifyThrows (modifyRequest ticket (updatedPosition symbol trade broker candle)) outcome
      then trade else writtenTrade trade broker (updatedPosition symbol trade broker candle) := by
  have hne : updatedPosition symbol trade broker candle ≠ managedPosition trade broker := by
    intro hsame
    rw [SlChanged, hsame, sub_self, abs_zero] at h
    exact absurd (minSlChangeAbs_pos symbol) (not_lt.mpr h)
  have hneeds : NeedsModify symbol (managedPosition trade broker)
      (updatedPosition symbol trade broker candle) := Or.inl h
  unfold manageTrade
  dsimp only
  rw [if_neg hne, if_pos hneeds]

/-- A modification that changes the stop enough to be sent leaves row and broker in
agreement exactly when the adapter's answer tells what the broker did. -/
theorem stored_stop_agrees_iff {symbol : Instrument} {trade : ManagedTrade}
    {broker : BrokerPosition} {candle : BacktestCandle}
    (hchange : SlChanged symbol (managedPosition trade broker)
      (updatedPosition symbol trade broker candle))
    (ticket : Nat) (outcome : ModifyOutcome) :
    StopAgrees trade (manageTrade symbol ticket trade broker candle outcome)
        (updatedPosition symbol trade broker candle).slPrice
        (newState trade broker (updatedPosition symbol trade broker candle)) outcome.accepted ↔
      AdapterTellsTruth trade broker (updatedPosition symbol trade broker candle) outcome := by
  rw [manageTrade_of_slChanged hchange]
  generalize updatedPosition symbol trade broker candle = updated
  have hwritten : CarriesStop (writtenTrade trade broker updated) updated.slPrice
      (newState trade broker updated) := ⟨rfl, rfl⟩
  cases outcome with
  | unreached status =>
      exact iff_of_true ⟨fun haccepted => (nomatch haccepted), fun _ => rfl⟩ trivial
  | metaApi m =>
      rw [metaApi_modify_answers, if_neg Bool.false_ne_true]
      simp only [StopAgrees, AdapterTellsTruth, ModifyOutcome.accepted]
      by_cases haccepts : m.accepts = true
      · simp [haccepts, hwritten]
      · simp [haccepts]
  | ctrader m =>
      rw [ctrader_modify_throws, if_pos rfl]
      simp only [StopAgrees, AdapterTellsTruth, ModifyOutcome.accepted]
      by_cases haccepts : m.accepts = true
      · simp [haccepts]
      · simp [haccepts]

/-!
# A gold trade
-/

/-- A buy with a risk of ten dollars that no candle has moved yet. -/
def managedGold (trailKey : TrailKey) : ManagedTrade :=
  { side := .buy
    entryPrice := 2000
    slPrice := 1990
    tpPrice := 2030
    state :=
      { breakevenActivated := some false
        peakFavorablePrice := some 2000
        originalSlPrice := some 1990
        trailKey := some trailKey } }

def goldPosition : BrokerPosition :=
  { entryPrice := 2000, sl := 1990, tp := 2030 }

def goldRally : BacktestCandle :=
  { openTime := 0, open_ := 2000, high := 2018, low := 1999, close := 2017 }

/-- The rally moves the stop of the runner, and MetaApi's broker accepts. -/
theorem accepted_stop_is_stored :
    SlChanged .XAUUSD (managedPosition (managedGold .runner) goldPosition)
        (updatedPosition .XAUUSD (managedGold .runner) goldPosition goldRally) ∧
      StopAgrees (managedGold .runner)
        (manageTrade .XAUUSD 1 (managedGold .runner) goldPosition goldRally
          (.metaApi ⟨true, .accepted, false, .accepted⟩))
        (updatedPosition .XAUUSD (managedGold .runner) goldPosition goldRally).slPrice
        (newState (managedGold .runner) goldPosition
          (updatedPosition .XAUUSD (managedGold .runner) goldPosition goldRally)) true := by
  have hchange : SlChanged .XAUUSD (managedPosition (managedGold .runner) goldPosition)
      (updatedPosition .XAUUSD (managedGold .runner) goldPosition goldRally) := by
    decide +kernel
  exact ⟨hchange, (stored_stop_agrees_iff hchange 1
    (.metaApi ⟨true, .accepted, false, .accepted⟩)).mpr (Or.inl rfl)⟩

/-- The cTrader broker replaces the stop and the row does not hear of it; MetaApi's
broker refuses and the row is written all the same. -/
theorem stored_stop_disagrees :
    ¬ StopAgrees (managedGold .runner)
        (manageTrade .XAUUSD 1 (managedGold .runner) goldPosition goldRally
          (.ctrader ⟨true, [.event .replaced true]⟩))
        (updatedPosition .XAUUSD (managedGold .runner) goldPosition goldRally).slPrice
        (newState (managedGold .runner) goldPosition
          (updatedPosition .XAUUSD (managedGold .runner) goldPosition goldRally)) true ∧
      ¬ StopAgrees (managedGold .runner)
        (manageTrade .XAUUSD 1 (managedGold .runner) goldPosition goldRally
          (.metaApi ⟨true, .raised false, false, .accepted⟩))
        (updatedPosition .XAUUSD (managedGold .runner) goldPosition goldRally).slPrice
        (newState (managedGold .runner) goldPosition
          (updatedPosition .XAUUSD (managedGold .runner) goldPosition goldRally)) false := by
  decide +kernel

end Live
end Shamarx
