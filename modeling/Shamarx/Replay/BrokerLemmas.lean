import Mathlib.Order.Bounds.Basic
import Shamarx.Replay.SimulatedBroker

/-!
# What the broker keeps

Two invariants of the simulated broker.  The books: every position that was
created is open or closed, once, the balance is the initial one and the closed
results, and the recorded maximum is the largest open count so far.  The places:
every open position is filed under its symbol and was opened within the window.
-/

namespace Shamarx
namespace Replay

open Foundation
open Engine
open Orchestrator

def SimulatedPosition.opening (p : SimulatedPosition) : SimulatedPosition :=
  { p with
    slPrice := p.originalSlPrice
    tpPrice := none
    breakevenActivated := false
    peakFavorablePrice := p.entryPrice }

def ClosedPosition.opening (c : ClosedPosition) : SimulatedPosition :=
  c.toSimulatedPosition.opening

namespace SimulatedBroker

variable {setup : BrokerSetup} {b : SimulatedBroker} {initial : ℚ}

theorem managePosition_opening (candle : BacktestCandle) (spread : ℚ) (p : SimulatedPosition) :
    (managePosition candle spread p).opening = p.opening := by
  unfold managePosition updatePositionManagement
  dsimp only
  split_ifs <;> rfl

theorem closesOn_eq_some {candle : BacktestCandle} {p : SimulatedPosition} {c : ClosedPosition}
    (h : closesOn candle p = some c) :
    c.toSimulatedPosition = p ∧ c.exitReason ≠ .forcedClose := by
  unfold closesOn at h
  split_ifs at h with hsl
  · cases h
    exact ⟨rfl, fun hreason => nomatch hreason⟩
  · rcases Option.map_eq_some_iff.mp h with ⟨tp, -, rfl⟩
    exact ⟨rfl, fun hreason => nomatch hreason⟩

/-!
# The books
-/

structure Accounted (initial : ℚ) (b : SimulatedBroker) : Prop where
  money : b.balance = .finite initial + (b.closed.map ClosedPosition.pnl).sum
  positions :
    (b.positions.items.map SimulatedPosition.opening ++ b.closed.map ClosedPosition.opening).Perm
      (b.created.map SimulatedPosition.opening)
  numbered : b.created.map SimulatedPosition.id = List.range b.created.length
  open_le : b.totalOpenCount ≤ b.maxConcurrent
  peak : IsGreatest {m | m ∈ b.moments} b.maxConcurrent

theorem create_accounted (initial : ℚ) : (create initial).Accounted initial where
  money := by
    simp [create]
  positions := List.Perm.refl _
  numbered := rfl
  open_le := Nat.le_refl _
  peak := by
    constructor
    · exact List.mem_singleton_self 0
    · intro m hm
      exact Nat.le_of_eq (List.mem_singleton.mp hm)

theorem legPositions_id (setup : BrokerSetup) (signal : SmcLiveSignal) (entryPrice : ℚ)
    (openTime : Int) (lotScale : Number) (firstId : Nat) :
    (legPositions setup signal entryPrice openTime lotScale firstId).map SimulatedPosition.id =
      List.range' firstId signal.legs.length := by
  rw [legPositions, List.map_map, ← List.zipIdx_map_snd firstId signal.legs]
  rfl

theorem legPositions_length (setup : BrokerSetup) (signal : SmcLiveSignal) (entryPrice : ℚ)
    (openTime : Int) (lotScale : Number) (firstId : Nat) :
    (legPositions setup signal entryPrice openTime lotScale firstId).length =
      signal.legs.length := by
  rw [legPositions, List.length_map, List.length_zipIdx]

theorem fillAt_items (setup : BrokerSetup) (b : SimulatedBroker) (signal : SmcLiveSignal)
    (entryPrice : ℚ) (openTime : Int) (lotScale : Number) :
    (fillAt setup b signal entryPrice openTime lotScale).1.positions.items.Perm
      (b.positions.items ++ (fillAt setup b signal entryPrice openTime lotScale).2) := by
  have hnew := b.positions.items_set signal.symbol
    (b.positions.get signal.symbol ++ (fillAt setup b signal entryPrice openTime lotScale).2)
  have hold := b.positions.items_perm signal.symbol
  refine hnew.trans ?_
  rw [List.append_assoc]
  refine (List.perm_append_comm.append_left _).trans ?_
  rw [← List.append_assoc]
  exact hold.symm.append_right _

theorem fillAt_totalOpenCount (setup : BrokerSetup) (b : SimulatedBroker) (signal : SmcLiveSignal)
    (entryPrice : ℚ) (openTime : Int) (lotScale : Number) :
    (fillAt setup b signal entryPrice openTime lotScale).1.totalOpenCount =
      b.totalOpenCount + signal.legs.length := by
  rw [totalOpenCount, totalOpenCount, Buckets.count_eq, Buckets.count_eq,
    (fillAt_items setup b signal entryPrice openTime lotScale).length_eq, List.length_append]
  exact congrArg _ (legPositions_length setup signal entryPrice openTime lotScale _)

theorem Accounted.fillAt (h : b.Accounted initial) (setup : BrokerSetup) (signal : SmcLiveSignal)
    (entryPrice : ℚ) (openTime : Int) (lotScale : Number) :
    (fillAt setup b signal entryPrice openTime lotScale).1.Accounted initial where
  money := h.money
  positions := by
    have hitems := (fillAt_items setup b signal entryPrice openTime lotScale).map
      SimulatedPosition.opening
    rw [List.map_append] at hitems
    refine (hitems.append_right _).trans ?_
    rw [List.append_assoc]
    refine (List.perm_append_comm.append_left _).trans ?_
    rw [← List.append_assoc]
    refine (h.positions.append_right _).trans ?_
    rw [← List.map_append]
    exact List.Perm.refl _
  numbered := by
    change (b.created ++ _).map _ = List.range (b.created ++ _).length
    rw [List.map_append, h.numbered, legPositions_id, List.length_append, legPositions_length,
      List.range_eq_range', List.range_eq_range', ← List.range'_append_1, Nat.zero_add]
  open_le := Nat.le_max_right _ _
  peak := by
    constructor
    · rcases Nat.le_total b.maxConcurrent
        (SimulatedBroker.fillAt setup b signal entryPrice openTime lotScale).1.totalOpenCount
          with hle | hle
      · exact List.mem_append_right _ (List.mem_singleton.mpr (Nat.max_eq_right hle))
      · refine List.mem_append_left _ ?_
        rw [show (SimulatedBroker.fillAt setup b signal entryPrice openTime
          lotScale).1.maxConcurrent = b.maxConcurrent from Nat.max_eq_left hle]
        exact h.peak.1
    · intro m hm
      rcases List.mem_append.mp hm with hm | hm
      · exact Nat.le_trans (h.peak.2 hm) (Nat.le_max_left _ _)
      · rw [List.mem_singleton.mp hm]
        exact Nat.le_max_right _ _

theorem count_le_of_split {rest positions : Buckets Instrument SimulatedPosition}
    {closing : List ClosedPosition}
    (h : (rest.items.map SimulatedPosition.opening ++ closing.map ClosedPosition.opening).Perm
      (positions.items.map SimulatedPosition.opening)) : rest.count ≤ positions.count := by
  have hlen := h.length_eq
  simp only [List.length_append, List.length_map] at hlen
  rw [Buckets.count_eq, Buckets.count_eq]
  omega

theorem Accounted.settle (h : b.Accounted initial) {closing : List ClosedPosition}
    {rest : Buckets Instrument SimulatedPosition}
    (hrest : (rest.items.map SimulatedPosition.opening ++
      closing.map ClosedPosition.opening).Perm
        (b.positions.items.map SimulatedPosition.opening)) :
    ((b.close closing).setPositions rest).Accounted initial := by
  have hle : rest.count ≤ b.maxConcurrent := Nat.le_trans (count_le_of_split hrest) h.open_le
  constructor
  · change b.balance + _ = .finite initial + ((b.closed ++ closing).map _).sum
    rw [h.money, List.map_append, List.sum_append, add_assoc]
  · change (_ ++ (b.closed ++ closing).map _).Perm _
    rw [List.map_append]
    refine (List.perm_append_comm.append_left _).trans ?_
    rw [← List.append_assoc]
    exact (hrest.append_right _).trans h.positions
  · exact h.numbered
  · exact hle
  · constructor
    · exact List.mem_append_left _ h.peak.1
    · intro m hm
      rcases List.mem_append.mp hm with hm | hm
      · exact h.peak.2 hm
      · rw [List.mem_singleton.mp hm]
        exact hle

theorem split_by_closesOn (candle : BacktestCandle) (managed : List SimulatedPosition) :
    ((managed.filter fun p => (closesOn candle p).isNone).map SimulatedPosition.opening ++
      (managed.filterMap (closesOn candle)).map ClosedPosition.opening).Perm
        (managed.map SimulatedPosition.opening) := by
  induction managed with
  | nil =>
      exact List.Perm.refl _
  | cons p rest ih =>
      cases hp : closesOn candle p with
      | none =>
          rw [List.filter_cons_of_pos (by rw [hp]; rfl), List.filterMap_cons_none hp]
          exact ih.cons _
      | some c =>
          rw [List.filter_cons_of_neg (by rw [hp]; exact Bool.false_ne_true),
            List.filterMap_cons_some hp, List.map_cons, List.map_cons,
            ← (closesOn_eq_some hp).1]
          exact List.perm_middle.trans (ih.cons _)

theorem processPositions_cases (b : SimulatedBroker) (symbol : Instrument)
    (candle : BacktestCandle) :
    b.processPositions symbol candle = (b, []) ∨
      exists rest closing,
        b.processPositions symbol candle = ((b.close closing).setPositions rest, closing) ∧
        (rest.items.map SimulatedPosition.opening ++ closing.map ClosedPosition.opening).Perm
          (b.positions.items.map SimulatedPosition.opening) := by
  have hsplit := split_by_closesOn candle
    ((b.positions.get symbol).map (managePosition candle (getSpread symbol candle.openTime)))
  have hopenings : ((b.positions.get symbol).map
      (managePosition candle (getSpread symbol candle.openTime))).map SimulatedPosition.opening =
        (b.positions.get symbol).map SimulatedPosition.opening := by
    rw [List.map_map]
    exact List.map_congr_left fun p _ => managePosition_opening candle _ p
  rw [hopenings] at hsplit
  unfold processPositions
  dsimp only
  split_ifs with hnone hall
  · exact Or.inl rfl
  · refine Or.inr ⟨_, _, rfl, ?_⟩
    rw [hall, List.map_nil, List.nil_append] at hsplit
    refine (hsplit.append_left _).trans ?_
    rw [← List.map_append]
    exact (List.perm_append_comm.trans (b.positions.items_perm symbol).symm).map _
  · refine Or.inr ⟨_, _, rfl, ?_⟩
    refine (((b.positions.items_set symbol _).map _).append_right _).trans ?_
    rw [List.map_append, List.append_assoc]
    refine (List.perm_append_comm.append_left _).trans ?_
    rw [← List.append_assoc]
    refine (hsplit.append_right _).trans ?_
    rw [← List.map_append]
    exact (b.positions.items_perm symbol).symm.map _

theorem processPositions_pendingLimits (b : SimulatedBroker) (symbol : Instrument)
    (candle : BacktestCandle) :
    (b.processPositions symbol candle).1.pendingLimits = b.pendingLimits := by
  rcases b.processPositions_cases symbol candle with hsame | ⟨rest, closing, hsplit, -⟩
  · rw [hsame]
  · rw [hsplit]
    rfl

theorem closeAllForSymbol_split (b : SimulatedBroker) (symbol : Instrument) (closePrice : ℚ)
    (closeTime : Int) :
    ((b.positions.delete symbol).items.map SimulatedPosition.opening ++
      (b.closeAllForSymbol symbol closePrice closeTime).2.map ClosedPosition.opening).Perm
        (b.positions.items.map SimulatedPosition.opening) := by
  unfold closeAllForSymbol
  rw [List.map_map]
  change (_ ++ (b.positions.get symbol).map SimulatedPosition.opening).Perm _
  rw [← List.map_append]
  exact (List.perm_append_comm.trans (b.positions.items_perm symbol).symm).map _

theorem Accounted.processPositions (h : b.Accounted initial) (symbol : Instrument)
    (candle : BacktestCandle) : (b.processPositions symbol candle).1.Accounted initial := by
  rcases b.processPositions_cases symbol candle with hsame | ⟨rest, closing, hclose, hrest⟩
  · rw [hsame]
    exact h
  · rw [hclose]
    exact h.settle hrest

theorem Accounted.closeAllForSymbol (h : b.Accounted initial) (symbol : Instrument)
    (closePrice : ℚ) (closeTime : Int) :
    (b.closeAllForSymbol symbol closePrice closeTime).1.Accounted initial :=
  h.settle (b.closeAllForSymbol_split symbol closePrice closeTime)

theorem Accounted.setLimits (h : b.Accounted initial) (limits : Buckets Instrument PendingLimit) :
    Accounted initial { b with pendingLimits := limits } :=
  ⟨h.money, h.positions, h.numbered, h.open_le, h.peak⟩

theorem Accounted.placeOrder (h : b.Accounted initial) (setup : BrokerSetup)
    (signal : SmcLiveSignal) (openTime : Int) :
    (placeOrder setup b signal openTime).1.Accounted initial := by
  unfold SimulatedBroker.placeOrder
  cases setup.retraceEntry with
  | none =>
      exact h.fillAt setup signal signal.entryPrice openTime (.finite 1)
  | some retrace =>
      exact h.setLimits _

theorem Accounted.fillLimits (h : b.Accounted initial) (setup : BrokerSetup)
    (candle : BacktestCandle) (touched : List PendingLimit) :
    (touched.foldl (fillLimit setup candle) b).Accounted initial := by
  induction touched generalizing b with
  | nil =>
      exact h
  | cons p rest ih =>
      exact ih (h.fillAt setup p.signal p.limitPrice candle.openTime p.scale)

theorem Accounted.processCandle (h : b.Accounted initial) (setup : BrokerSetup)
    (symbol : Instrument) (candle : BacktestCandle) :
    (processCandle setup b symbol candle).1.Accounted initial :=
  ((h.fillLimits setup candle _).setLimits _).processPositions symbol candle

/-!
# The places
-/

/-- Open positions are under their symbol, which satisfies `ok`, and were opened in
the window; parked limits are for such symbols. -/
structure Housed (ok : Instrument -> Prop) (window : Int -> Prop) (b : SimulatedBroker) : Prop where
  filed : forall k p, p ∈ b.positions.get k -> p.symbol = k ∧ ok k ∧ window p.entryTime
  limits : forall k l, l ∈ b.pendingLimits.get k -> ok l.signal.symbol

variable {ok : Instrument -> Prop} {window : Int -> Prop}

theorem create_housed (initial : ℚ) : (create initial).Housed ok window where
  filed := by
    intro k p hp
    cases hp
  limits := by
    intro k l hl
    cases hl

theorem Housed.setPositions (h : b.Housed ok window) (symbol : Instrument)
    (new : List SimulatedPosition)
    (hnew : forall p, p ∈ new -> p.symbol = symbol ∧ ok symbol ∧ window p.entryTime) :
    (b.setPositions (b.positions.set symbol new)).Housed ok window where
  filed := by
    intro k p hp
    by_cases hk : k = symbol
    · subst hk
      rw [SimulatedBroker.setPositions, Buckets.get_set_self] at hp
      exact hnew p hp
    · rw [SimulatedBroker.setPositions, Buckets.get_set_of_ne new hk] at hp
      exact h.filed k p hp
  limits := h.limits

theorem Housed.deletePositions (h : b.Housed ok window) (symbol : Instrument) :
    (b.setPositions (b.positions.delete symbol)).Housed ok window where
  filed := by
    intro k p hp
    by_cases hk : k = symbol
    · subst hk
      rw [SimulatedBroker.setPositions, Buckets.get_delete_self] at hp
      cases hp
    · rw [SimulatedBroker.setPositions, Buckets.get_delete_of_ne hk] at hp
      exact h.filed k p hp
  limits := h.limits

theorem Housed.of_close (h : b.Housed ok window) {closing : List ClosedPosition}
    {rest : Buckets Instrument SimulatedPosition} (hrest : (b.setPositions rest).Housed ok window) :
    ((b.close closing).setPositions rest).Housed ok window :=
  ⟨hrest.filed, h.limits⟩

theorem mem_legPositions {signal : SmcLiveSignal} {entryPrice : ℚ} {openTime : Int}
    {lotScale : Number} {firstId : Nat} {p : SimulatedPosition}
    (h : p ∈ legPositions setup signal entryPrice openTime lotScale firstId) :
    p.symbol = signal.symbol ∧ p.entryTime = openTime := by
  rcases List.mem_map.mp h with ⟨entry, -, rfl⟩
  exact ⟨rfl, rfl⟩

theorem Housed.fillAt (h : b.Housed ok window) {signal : SmcLiveSignal} {openTime : Int}
    (hok : ok signal.symbol) (htime : window openTime) (setup : BrokerSetup)
    (entryPrice : ℚ) (lotScale : Number) :
    (fillAt setup b signal entryPrice openTime lotScale).1.Housed ok window := by
  have hnew : forall p, p ∈ b.positions.get signal.symbol ++
      legPositions setup signal entryPrice openTime lotScale b.created.length ->
        p.symbol = signal.symbol ∧ ok signal.symbol ∧ window p.entryTime := by
    intro p hp
    rcases List.mem_append.mp hp with hold | hleg
    · exact h.filed _ p hold
    · rcases mem_legPositions hleg with ⟨hsymbol, hentry⟩
      rw [hentry]
      exact ⟨hsymbol, hok, htime⟩
  exact ⟨(h.setPositions _ _ hnew).filed, h.limits⟩

theorem Housed.processPositions (h : b.Housed ok window) (symbol : Instrument)
    (candle : BacktestCandle) : (b.processPositions symbol candle).1.Housed ok window := by
  unfold SimulatedBroker.processPositions
  dsimp only
  split_ifs with hnone hall
  · exact h
  · exact h.of_close (h.deletePositions symbol)
  · refine h.of_close (h.setPositions _ _ ?_)
    intro p hp
    rcases List.mem_map.mp (List.mem_filter.mp hp).1 with ⟨q, hq, rfl⟩
    have hfiled := h.filed symbol q hq
    unfold managePosition
    split_ifs
    · exact hfiled
    · exact hfiled

theorem Housed.setLimits (h : b.Housed ok window) {limits : Buckets Instrument PendingLimit}
    (hlimits : forall k l, l ∈ limits.get k -> ok l.signal.symbol) :
    Housed ok window { b with pendingLimits := limits } :=
  ⟨h.filed, hlimits⟩

theorem Housed.placeOrder (h : b.Housed ok window) {signal : SmcLiveSignal} {openTime : Int}
    (hok : ok signal.symbol) (htime : window openTime) (setup : BrokerSetup) :
    (placeOrder setup b signal openTime).1.Housed ok window := by
  unfold SimulatedBroker.placeOrder
  cases setup.retraceEntry with
  | none =>
      exact h.fillAt hok htime setup signal.entryPrice (.finite 1)
  | some retrace =>
      refine h.setLimits ?_
      intro k l hl
      by_cases hk : k = signal.symbol
      · subst hk
        rw [Buckets.get_set_self] at hl
        rcases List.mem_append.mp hl with hold | hnew
        · exact h.limits _ l hold
        · rw [List.mem_singleton.mp hnew]
          exact hok
      · rw [Buckets.get_set_of_ne _ hk] at hl
        exact h.limits k l hl

theorem Housed.fillLimits (h : b.Housed ok window) {candle : BacktestCandle}
    (htime : window candle.openTime) (setup : BrokerSetup) (touched : List PendingLimit)
    (hok : forall l, l ∈ touched -> ok l.signal.symbol) :
    (touched.foldl (fillLimit setup candle) b).Housed ok window := by
  induction touched generalizing b with
  | nil =>
      exact h
  | cons p rest ih =>
      have hfill := h.fillAt (hok p List.mem_cons_self) htime setup p.limitPrice p.scale
      exact ih hfill fun l hl => hok l (List.mem_cons_of_mem p hl)

theorem fillLimits_pendingLimits (setup : BrokerSetup) (candle : BacktestCandle)
    (b : SimulatedBroker) (touched : List PendingLimit) :
    (touched.foldl (fillLimit setup candle) b).pendingLimits = b.pendingLimits := by
  induction touched generalizing b with
  | nil =>
      rfl
  | cons p rest ih =>
      exact ih (fillLimit setup candle b p)

theorem waitBar_eq {l l' : PendingLimit} (h : waitBar l = some l') :
    l' = { l with barsLeft := l'.barsLeft } := by
  unfold waitBar at h
  split_ifs at h
  cases h
  rfl

theorem mem_waiting {setup : BrokerSetup} {symbol k : Instrument} {candle : BacktestCandle}
    {l : PendingLimit}
    (h : l ∈ (processPendingLimits setup b symbol candle).pendingLimits.get k) :
    exists old, old ∈ b.pendingLimits.get k ∧ l = { old with barsLeft := l.barsLeft } := by
  unfold processPendingLimits at h
  dsimp only at h
  rw [fillLimits_pendingLimits] at h
  by_cases hk : k = symbol
  · subst hk
    split_ifs at h
    · rw [Buckets.get_delete_self] at h
      cases h
    · rw [Buckets.get_set_self] at h
      rcases List.mem_filterMap.mp h with ⟨old, hold, hwait⟩
      exact ⟨old, (List.mem_filter.mp hold).1, waitBar_eq hwait⟩
  · refine ⟨l, ?_, rfl⟩
    split_ifs at h
    · rw [Buckets.get_delete_of_ne hk] at h
      exact h
    · rw [Buckets.get_set_of_ne _ hk] at h
      exact h

theorem Housed.processPendingLimits (h : b.Housed ok window) {candle : BacktestCandle}
    (htime : window candle.openTime) (setup : BrokerSetup) (symbol : Instrument) :
    (processPendingLimits setup b symbol candle).Housed ok window := by
  have hfilled := h.fillLimits htime setup
    ((b.pendingLimits.get symbol).filter fun p => decide (Touched candle p))
    fun l hl => h.limits symbol l (List.mem_filter.mp hl).1
  refine hfilled.setLimits ?_
  intro k l hl
  rcases mem_waiting hl with ⟨old, hold, hsame⟩
  rw [hsame]
  exact h.limits k old hold

theorem Housed.processCandle (h : b.Housed ok window) {candle : BacktestCandle}
    (htime : window candle.openTime) (setup : BrokerSetup) (symbol : Instrument) :
    (processCandle setup b symbol candle).1.Housed ok window :=
  (h.processPendingLimits htime setup symbol).processPositions symbol candle

/-!
# The closed positions
-/

theorem fillLimits_closed (setup : BrokerSetup) (candle : BacktestCandle) (b : SimulatedBroker)
    (touched : List PendingLimit) :
    (touched.foldl (fillLimit setup candle) b).closed = b.closed := by
  induction touched generalizing b with
  | nil =>
      rfl
  | cons p rest ih =>
      exact ih (fillLimit setup candle b p)

theorem processCandle_closed (setup : BrokerSetup) (b : SimulatedBroker) (symbol : Instrument)
    (candle : BacktestCandle) :
    (processCandle setup b symbol candle).1.closed =
      b.closed ++ (processCandle setup b symbol candle).2 := by
  have hlimits : (processPendingLimits setup b symbol candle).closed = b.closed :=
    fillLimits_closed setup candle b _
  unfold processCandle processPositions
  dsimp only
  split_ifs with hnone hall
  · rw [List.append_nil]
    exact hlimits
  · exact congrArg (· ++ _) hlimits
  · exact congrArg (· ++ _) hlimits

theorem processCandle_not_forced {symbol : Instrument} {candle : BacktestCandle}
    {c : ClosedPosition} (h : c ∈ (processCandle setup b symbol candle).2) :
    c.exitReason ≠ .forcedClose := by
  unfold processCandle processPositions at h
  dsimp only at h
  split_ifs at h with hnone hall
  · cases h
  · rcases List.mem_filterMap.mp h with ⟨p, -, hclose⟩
    exact (closesOn_eq_some hclose).2
  · rcases List.mem_filterMap.mp h with ⟨p, -, hclose⟩
    exact (closesOn_eq_some hclose).2

theorem placeOrder_closed (setup : BrokerSetup) (b : SimulatedBroker) (signal : SmcLiveSignal)
    (openTime : Int) : (placeOrder setup b signal openTime).1.closed = b.closed := by
  unfold placeOrder
  cases setup.retraceEntry with
  | none =>
      rfl
  | some retrace =>
      rfl

end SimulatedBroker
end Replay
end Shamarx
