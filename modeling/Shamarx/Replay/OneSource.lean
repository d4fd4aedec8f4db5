import Shamarx.Replay.SignalOrigins

/-!
# One order for each side

An order that finds its side free of positions and of parked limits is the only one of
its side until the side is free again.
-/

namespace Shamarx
namespace Replay

open Foundation
open Engine
open Orchestrator

namespace TracedBroker

variable {setup : BrokerSetup} {t next : TracedBroker} {k : Instrument} {side : Side}
  {order : Nat}

def Checked (t : TracedBroker) : BrokerAct -> Prop
  | .fill _ limit order => (limit, order) ∈ t.parked limit.signal.symbol
  | .place signal _ => signal.side ∉ t.broker.getOpenDirections signal.symbol
  | _ => True

def Unparked (t : TracedBroker) : BrokerAct -> Prop
  | .place signal _ => forall limit, limit ∈ t.broker.pendingLimits.get signal.symbol ->
      limit.signal.side ≠ signal.side
  | _ => True

instance (t : TracedBroker) (a : BrokerAct) : Decidable (Unparked t a) := by
  cases a <;> unfold Unparked <;> infer_instance

/-!
# The order of one side
-/

/-- What is parked and open on a side of a symbol is from this order. -/
structure OneFrom (t : TracedBroker) (k : Instrument) (side : Side) (order : Nat) : Prop where
  parked : forall entry, entry ∈ t.parked k -> entry.1.signal.side = side -> entry.2 = order
  opened : forall p, p ∈ t.broker.positions.get k -> p.side = side ->
    t.originOf p = some order

theorem OneFrom.mono (h : OneFrom t k side order)
    (hparked : forall entry, entry ∈ next.parked k -> exists old, old ∈ t.parked k ∧
      old.1.signal = entry.1.signal ∧ old.2 = entry.2)
    (hopened : forall p, p ∈ next.broker.positions.get k -> exists old,
      old ∈ t.broker.positions.get k ∧ old.id = p.id ∧ old.side = p.side)
    (horigins : next.origins = t.origins) : OneFrom next k side order where
  parked := by
    intro entry hentry hside
    rcases hparked entry hentry with ⟨old, hold, hsignal, horder⟩
    rw [← horder]
    exact h.parked old hold (by rw [hsignal]; exact hside)
  opened := by
    intro p hp hside
    rcases hopened p hp with ⟨old, hold, hid, hsame⟩
    have horigin := h.opened old hold (hsame.trans hside)
    rw [originOf, horigins, ← hid]
    exact horigin

theorem mem_legPositions_id {signal : SmcLiveSignal} {entryPrice : ℚ} {openTime : Int}
    {lotScale : Number} {firstId : Nat} {p : SimulatedPosition}
    (h : p ∈ SimulatedBroker.legPositions setup signal entryPrice openTime lotScale firstId) :
    p.side = signal.side ∧ firstId ≤ p.id ∧ p.id < firstId + signal.legs.length := by
  have hid := List.mem_map_of_mem (f := SimulatedPosition.id) h
  rw [SimulatedBroker.legPositions_id, List.mem_range'_1] at hid
  rcases List.mem_map.mp h with ⟨entry, -, rfl⟩
  exact ⟨rfl, hid⟩

theorem OneFrom.fillAt (h : OneFrom t k side order) (hlabelled : t.Labelled)
    (setup : BrokerSetup) (signal : SmcLiveSignal) (entryPrice : ℚ) (openTime : Int) (lotScale : Number)
    (number : Nat)
    (hnumber : signal.symbol = k -> signal.side = side -> number = order) :
    OneFrom { t with
      broker := (SimulatedBroker.fillAt setup t.broker signal entryPrice openTime lotScale).1
      origins := t.origins ++ List.replicate signal.legs.length number } k side order where
  parked := h.parked
  opened := by
    have hold : forall p, p ∈ t.broker.positions.get k -> p.side = side ->
        (t.origins ++ List.replicate signal.legs.length number)[p.id]? = some order := by
      intro p hp hside
      have horigin := h.opened p hp hside
      rw [List.getElem?_append_left (List.getElem?_eq_some_iff.mp horigin).1]
      exact horigin
    intro p hp hside
    rw [originOf]
    by_cases hk : k = signal.symbol
    · have hposition : p ∈ t.broker.positions.get k ++ SimulatedBroker.legPositions setup signal
          entryPrice openTime lotScale t.broker.created.length := by
        subst hk
        have hget := Buckets.get_set_self t.broker.positions signal.symbol
          (t.broker.positions.get signal.symbol ++ SimulatedBroker.legPositions setup signal
            entryPrice openTime lotScale t.broker.created.length)
        rw [← hget]
        exact hp
      rcases List.mem_append.mp hposition with hin | hleg
      · exact hold p hin hside
      · rcases mem_legPositions_id hleg with ⟨hleg_side, hfrom, huntil⟩
        rw [← hlabelled.origins] at hfrom huntil
        dsimp only
        rw [List.getElem?_append_right hfrom,
          List.getElem?_replicate_of_lt (Nat.sub_lt_left_of_lt_add hfrom huntil),
          hnumber hk.symm (hleg_side.symm.trans hside)]
    · have hget := Buckets.get_set_of_ne (b := t.broker.positions)
        (t.broker.positions.get signal.symbol ++ SimulatedBroker.legPositions setup signal
          entryPrice openTime lotScale t.broker.created.length) hk
      have hin : p ∈ t.broker.positions.get k := by
        rw [← hget]
        exact hp
      exact hold p hin hside

/-- Every side of every symbol is from one order. -/
def OneSource (t : TracedBroker) : Prop :=
  forall k side, exists order, OneFrom t k side order

theorem create_oneSource (initialBalance : ℚ) : (create initialBalance).OneSource := by
  intro k side
  exists 0
  constructor
  · intro entry hentry
    cases hentry
  · intro p hp
    cases hp

theorem OneSource.oneSignalPerSide (h : t.OneSource) : t.OneSignalPerSide := by
  intro symbol p q hp hq hside
  rcases h symbol q.side with ⟨order, hone⟩
  exact ⟨order, hone.opened p hp hside, hone.opened q hq rfl⟩

/-!
# One change
-/

theorem wait_oneFrom (h : OneFrom t k side order) (symbol : Instrument)
    (candle : BacktestCandle) : OneFrom (t.act setup (.wait symbol candle)) k side order := by
  refine h.mono ?_ (fun p hp => ⟨p, hp, rfl, rfl⟩) rfl
  intro entry hentry
  rw [act] at hentry
  dsimp only at hentry
  by_cases hk : k = symbol
  · subst hk
    rw [Function.update_self] at hentry
    exact mem_numberedStep hentry
  · rw [Function.update_of_ne hk] at hentry
    exact ⟨entry, hentry, rfl, rfl⟩

theorem flush_oneFrom (h : OneFrom t k side order) (symbol : Instrument) (closePrice : ℚ)
    (closeTime : Int) :
    OneFrom (t.act setup (.flush symbol closePrice closeTime)) k side order := by
  refine h.mono (fun entry hentry => ⟨entry, hentry, rfl, rfl⟩) ?_ rfl
  intro p hp
  have hget : p ∈ (t.broker.positions.delete symbol).get k := hp
  by_cases hk : k = symbol
  · subst hk
    rw [Buckets.get_delete_self] at hget
    cases hget
  · rw [Buckets.get_delete_of_ne hk] at hget
    exact ⟨p, hget, rfl, rfl⟩

theorem oneFrom_of_free {signal : SmcLiveSignal} {openTime : Int} (hlabelled : t.Labelled)
    (hchecked : t.Checked (.place signal openTime))
    (hunparked : t.Unparked (.place signal openTime)) :
    OneFrom t signal.symbol signal.side order := by
  constructor
  · intro entry hentry hside
    have hlimit := List.mem_map_of_mem (f := Prod.fst) hentry
    rw [hlabelled.limits] at hlimit
    exact absurd hside (hunparked entry.1 hlimit)
  · intro p hp hside
    refine absurd ?_ hchecked
    rw [SimulatedBroker.getOpenDirections, List.mem_dedup, List.mem_map]
    exact ⟨p, hp, hside⟩

theorem place_oneSource (h : t.OneSource) (hlabelled : t.Labelled) {signal : SmcLiveSignal}
    {openTime : Int} (hchecked : t.Checked (.place signal openTime))
    (hunparked : t.Unparked (.place signal openTime)) :
    (t.act setup (.place signal openTime)).OneSource := by
  intro k side
  -- the order of the side once this one is placed
  have hnext : exists order, OneFrom t k side order ∧
      (signal.symbol = k -> signal.side = side -> t.orders = order) := by
    by_cases hown : signal.symbol = k ∧ signal.side = side
    · rcases hown with ⟨rfl, rfl⟩
      exact ⟨t.orders, oneFrom_of_free hlabelled hchecked hunparked, fun _ _ => rfl⟩
    · rcases h k side with ⟨order, hone⟩
      exact ⟨order, hone, fun hk hside => absurd ⟨hk, hside⟩ hown⟩
  rcases hnext with ⟨order, hone, hnumber⟩
  exists order
  rw [act]
  cases hretrace : setup.retraceEntry with
  | none =>
      have hfill := hone.fillAt hlabelled setup signal signal.entryPrice openTime (.finite 1)
        t.orders hnumber
      rw [SimulatedBroker.placeOrder, hretrace]
      exact ⟨hfill.parked, hfill.opened⟩
  | some retrace =>
      rw [SimulatedBroker.placeOrder, hretrace]
      refine ⟨?_, hone.opened⟩
      intro entry hentry hside
      dsimp only at hentry
      by_cases hk : k = signal.symbol
      · subst hk
        rw [Function.update_self] at hentry
        rcases List.mem_append.mp hentry with hold | hnew
        · exact hone.parked entry hold hside
        · rw [List.mem_singleton] at hnew
          subst hnew
          exact hnumber rfl hside
      · rw [Function.update_of_ne hk] at hentry
        exact hone.parked entry hentry hside

theorem OneSource.act (h : t.OneSource) (hlabelled : t.Labelled) {a : BrokerAct}
    (hchecked : t.Checked a) (hunparked : t.Unparked a) : (t.act setup a).OneSource := by
  cases a with
  | fill candle limit order =>
      intro k side
      rcases h k side with ⟨shared, hone⟩
      refine ⟨shared, hone.fillAt hlabelled setup limit.signal limit.limitPrice
        candle.openTime limit.scale order ?_⟩
      intro hk hside
      subst hk
      exact hone.parked (limit, order) hchecked hside
  | wait symbol candle =>
      intro k side
      rcases h k side with ⟨order, hone⟩
      exact ⟨order, wait_oneFrom hone symbol candle⟩
  | exits symbol candle =>
      intro k side
      rcases h k side with ⟨order, hone⟩
      exact ⟨order, hone.mono (fun entry hentry => ⟨entry, hentry, rfl, rfl⟩)
        (fun p hp => SimulatedBroker.kept_of_processPositions hp) rfl⟩
  | place signal openTime =>
      exact place_oneSource h hlabelled hchecked hunparked
  | flush symbol closePrice closeTime =>
      intro k side
      rcases h k side with ⟨order, hone⟩
      exact ⟨order, flush_oneFrom hone symbol closePrice closeTime⟩

/-- Every moment of a run whose changes are checked and whose orders find no limit of
their side. -/
theorem oneSignalPerSide_of_run (hlabelled : t.Labelled) (hone : t.OneSource)
    {acts : List BrokerAct} (hchecked : EveryStep (act setup) Checked t acts)
    (hunparked : EveryStep (act setup) Unparked t acts) {moment : List BrokerAct}
    (hmoment : moment <+: acts) : (runFrom (act setup) t moment).OneSignalPerSide := by
  rcases hmoment with ⟨rest, rfl⟩
  have hsteps := (everyStep_append.mp (hchecked.and hunparked)).1
  have hrun : (runFrom (act setup) t moment).Labelled ∧
      (runFrom (act setup) t moment).OneSource :=
    hsteps.run_inv (fun t => t.Labelled ∧ t.OneSource)
      (fun t a h hstep => ⟨h.1.act setup a, h.2.act h.1 hstep.1 hstep.2⟩) ⟨hlabelled, hone⟩
  exact hrun.2.oneSignalPerSide

end TracedBroker
end Replay
end Shamarx
