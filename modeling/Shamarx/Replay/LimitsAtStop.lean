import Shamarx.Replay.Conservation
import Shamarx.Replay.FillModel

/-!
# Limits parked at the stop

A limit waits a fraction of the way from the entry to the stop, and its lots are divided by
the rest of the way.  If nothing is left of it the lots are infinite, and the bar that fills
them hits the stop at no distance.
-/

namespace Shamarx
namespace Replay

open Foundation
open Engine
open Orchestrator

theorem RetraceEntryCfg.isFinite_scale {retrace : RetraceEntryCfg} (h : retrace.frac ≠ 1) :
    retrace.scale.IsFinite :=
  Number.isFinite_ofDiv (sub_ne_zero.mpr (Ne.symm h)) 1

theorem RetraceEntryCfg.not_isFinite_scale {retrace : RetraceEntryCfg} (h : retrace.frac = 1) :
    ¬ retrace.scale.IsFinite := by
  rw [RetraceEntryCfg.scale, h, sub_self]
  exact Number.not_isFinite_ofDiv_zero 1

namespace SimulatedBroker

/-!
# Lots and results
-/

section Lots

variable {setup : BrokerSetup} {signal : SmcLiveSignal} {entryPrice : ℚ} {openTime : Int}
  {lotScale : Number} {id : Nat} {leg : SmcLiveSignalLeg} {p : SimulatedPosition}

theorem isFinite_lotSize (h : lotScale.IsFinite) :
    (legPosition setup signal entryPrice openTime lotScale id leg).lotSize.IsFinite :=
  (h.mul leg.lotSize).roundTo 100

theorem not_isFinite_lotSize (h : ¬ lotScale.IsFinite) :
    ¬ (legPosition setup signal entryPrice openTime lotScale id leg).lotSize.IsFinite :=
  fun hlot => h hlot.of_roundTo.of_mul

theorem isFinite_calcPnl (h : p.lotSize.IsFinite) (closePrice : ℚ) :
    (calcPnl p closePrice).IsFinite := by
  unfold calcPnl
  dsimp only
  split_ifs
  · exact (((h.mul _).mul _).div _).roundTo _
  · exact ((h.mul _).mul _).roundTo _

theorem calcPnl_at_entry (h : ¬ p.lotSize.IsFinite) : calcPnl p p.entryPrice = .nan := by
  unfold calcPnl
  dsimp only
  rw [sub_self, zero_mul, Number.mul_zero_of_not_isFinite h, Number.nan_mul, Number.nan_div,
    ite_self, Number.nan_roundTo]

theorem managedOn_lotSize (symbol : Instrument) (candle : BacktestCandle)
    (p : SimulatedPosition) : (managedOn symbol candle p).lotSize = p.lotSize := by
  have hopening : (managedOn symbol candle p).opening = p.opening :=
    managePosition_opening candle (getSpread symbol candle.openTime) p
  exact congrArg (fun q => q.lotSize) hopening

end Lots

/-!
# What a parked limit is
-/

/-- The limit is the one that `placeOrder` parks for a signal of the evaluation, up to the
bars that it has left. -/
structure Parked (setup : BrokerSetup) (l : PendingLimit) : Prop where
  signal : Protected l.signal
  order : exists retrace, setup.retraceEntry = some retrace ∧
    l.limitPrice = limitPriceOf l.signal retrace.frac ∧ l.scale = retrace.scale

/-- The bar fills a limit that is parked at its stop. -/
def FillsAtStop (setup : BrokerSetup) (b : SimulatedBroker) (symbol : Instrument)
    (candle : BacktestCandle) : Prop :=
  exists retrace, setup.retraceEntry = some retrace ∧ retrace.frac = 1 ∧
    exists l, l ∈ b.pendingLimits.get symbol ∧ Touched candle l

theorem limitPriceOf_one {signal : SmcLiveSignal} (h : Protected signal) :
    limitPriceOf signal 1 = signal.slPrice := by
  have hstop := h.stop
  unfold limitPriceOf
  dsimp only
  cases hside : signal.side with
  | buy =>
      rw [hside] at hstop
      have hle : signal.slPrice ≤ signal.entryPrice := hstop
      dsimp only
      rw [abs_of_nonneg (sub_nonneg.mpr hle), mul_one, sub_sub_cancel]
  | sell =>
      rw [hside] at hstop
      have hle : signal.entryPrice ≤ signal.slPrice := hstop
      dsimp only
      rw [abs_of_nonpos (sub_nonpos.mpr hle), mul_one, neg_sub, add_sub_cancel]

theorem Parked.at_stop {setup : BrokerSetup} {l : PendingLimit} (h : Parked setup l)
    {retrace : RetraceEntryCfg} (hsetup : setup.retraceEntry = some retrace)
    (hfrac : retrace.frac = 1) : l.limitPrice = l.signal.slPrice := by
  rcases h.order with ⟨own, hown, hprice, -⟩
  rw [hsetup] at hown
  cases hown
  rw [hprice, hfrac]
  exact limitPriceOf_one h.signal

/-- The limits are those of `placeOrder`, under their symbols.  No open position has an
infinite lot, and a result that is not finite is no number. -/
structure Sized (setup : BrokerSetup) (b : SimulatedBroker) : Prop where
  filed : forall k l, l ∈ b.pendingLimits.get k -> l.signal.symbol = k
  parked : forall k l, l ∈ b.pendingLimits.get k -> Parked setup l
  lots : forall k p, p ∈ b.positions.get k -> p.lotSize.IsFinite
  results : forall c, c ∈ b.closed -> c.pnl.IsFinite ∨ c.pnl = .nan

theorem create_sized (setup : BrokerSetup) (initialBalance : ℚ) :
    (create initialBalance).Sized setup where
  filed := by
    intro k l hl
    cases hl
  parked := by
    intro k l hl
    cases hl
  lots := by
    intro k p hp
    cases hp
  results := by
    intro c hc
    cases hc

/-!
# One bar
-/

section Bar

variable {setup : BrokerSetup} {b : SimulatedBroker} {symbol : Instrument}
  {candle : BacktestCandle} {p : SimulatedPosition}

theorem slHit_of_touched {l : PendingLimit} (htouched : Touched candle l)
    (hstop : l.limitPrice = l.signal.slPrice) (id : Nat) (leg : SmcLiveSignalLeg) :
    SlHit candle (legPosition setup l.signal l.limitPrice candle.openTime l.scale id leg) := by
  unfold Touched at htouched
  rw [hstop] at htouched
  exact htouched

theorem closesOn_at_stop {l : PendingLimit} (htouched : Touched candle l)
    (hstop : l.limitPrice = l.signal.slPrice) (hscale : ¬ l.scale.IsFinite) (id : Nat)
    (leg : SmcLiveSignalLeg) :
    exists c, closesOn candle (managedOn symbol candle
      (legPosition setup l.signal l.limitPrice candle.openTime l.scale id leg)) = some c ∧
        c.pnl = .nan := by
  have hbar : managedOn symbol candle
      (legPosition setup l.signal l.limitPrice candle.openTime l.scale id leg) =
        legPosition setup l.signal l.limitPrice candle.openTime l.scale id leg := if_pos rfl
  rw [hbar]
  refine ⟨_, if_pos (slHit_of_touched htouched hstop id leg), ?_⟩
  change calcPnl _ l.signal.slPrice = .nan
  rw [<- hstop]
  exact calcPnl_at_entry (not_isFinite_lotSize hscale)

theorem Parked.isFinite_scale_iff {l : PendingLimit} (h : Parked setup l)
    {retrace : RetraceEntryCfg} (hsetup : setup.retraceEntry = some retrace) :
    l.scale.IsFinite <-> retrace.frac ≠ 1 := by
  rcases h.order with ⟨own, hown, -, hscale⟩
  rw [hsetup] at hown
  cases hown
  rw [hscale]
  exact ⟨fun hfinite hfrac => RetraceEntryCfg.not_isFinite_scale hfrac hfinite,
    RetraceEntryCfg.isFinite_scale⟩

theorem Sized.judged_cases (h : b.Sized setup) (hp : p ∈ judged setup b symbol candle) :
    p.lotSize.IsFinite ∨ (FillsAtStop setup b symbol candle ∧
      exists c, closesOn candle (managedOn symbol candle p) = some c ∧ c.pnl = .nan) := by
  rcases SimulatedBroker.judged_cases hp with hopen | ⟨l, leg, id, hl, htouched, -, rfl⟩
  · exact Or.inl (h.lots symbol p hopen)
  · have hparked := h.parked symbol l hl
    rcases hparked.order with ⟨retrace, hsetup, -, -⟩
    have hscale := hparked.isFinite_scale_iff hsetup
    by_cases hfrac : retrace.frac = 1
    · right
      refine ⟨⟨retrace, hsetup, hfrac, l, hl, htouched⟩, ?_⟩
      exact closesOn_at_stop htouched (hparked.at_stop hsetup hfrac)
        (fun hfinite => hscale.mp hfinite hfrac) id leg
    · exact Or.inl (isFinite_lotSize (hscale.mpr hfrac))

theorem fillLimits_fills {touched : List PendingLimit} {l : PendingLimit} (hl : l ∈ touched)
    {leg : SmcLiveSignalLeg} (hleg : leg ∈ l.signal.legs) (b : SimulatedBroker) :
    exists id, legPosition setup l.signal l.limitPrice candle.openTime l.scale id leg ∈
      (touched.foldl (fillLimit setup candle) b).positions.get l.signal.symbol := by
  induction touched generalizing b with
  | nil =>
      cases hl
  | cons limit rest ih =>
      rcases List.mem_cons.mp hl with rfl | hrest
      · rw [<- List.zipIdx_map_fst b.created.length l.signal.legs] at hleg
        rcases List.mem_map.mp hleg with ⟨⟨other, id⟩, hentry, rfl⟩
        exists id
        rw [List.foldl_cons]
        apply fillLimits_keeps
        simp only [fillLimit, fillAt, setPositions, Buckets.get_set_self]
        exact List.mem_append_right _ (List.mem_map.mpr ⟨_, hentry, rfl⟩)
      · exact ih hrest _

theorem Sized.leg_mem_judged (h : b.Sized setup) {l : PendingLimit}
    (hl : l ∈ b.pendingLimits.get symbol) (htouched : Touched candle l) {leg : SmcLiveSignalLeg}
    (hleg : leg ∈ l.signal.legs) :
    exists id, legPosition setup l.signal l.limitPrice candle.openTime l.scale id leg ∈
      judged setup b symbol candle := by
  have htaken : l ∈ (b.pendingLimits.get symbol).filter fun p => decide (Touched candle p) :=
    List.mem_filter.mpr ⟨hl, decide_eq_true htouched⟩
  have hfills : exists id,
      legPosition setup l.signal l.limitPrice candle.openTime l.scale id leg ∈
        (((b.pendingLimits.get symbol).filter fun p => decide (Touched candle p)).foldl
          (fillLimit setup candle) b).positions.get l.signal.symbol :=
    fillLimits_fills htaken hleg b
  rw [h.filed symbol l hl] at hfills
  exact hfills

theorem Sized.nan_mem_exits_iff (h : b.Sized setup) :
    .nan ∈ (processCandle setup b symbol candle).2.map ClosedPosition.pnl <->
      FillsAtStop setup b symbol candle := by
  constructor
  · intro hnan
    rcases List.mem_map.mp hnan with ⟨c, hc, hpnl⟩
    rcases mem_processCandle.mp hc with ⟨p, hp, hclose⟩
    rcases h.judged_cases hp with hlot | ⟨hstop, -⟩
    · have hfinite : (managedOn symbol candle p).lotSize.IsFinite := by
        rw [managedOn_lotSize]
        exact hlot
      rcases closesOn_cases hclose with ⟨-, rfl⟩ | ⟨tp, -, rfl⟩
      · exact absurd hpnl (isFinite_calcPnl hfinite _).ne_nan
      · exact absurd hpnl (isFinite_calcPnl hfinite _).ne_nan
    · exact hstop
  · rintro ⟨retrace, hsetup, hfrac, l, hl, htouched⟩
    have hparked := h.parked symbol l hl
    rcases List.exists_mem_of_ne_nil _ hparked.signal.legs with ⟨leg, hleg⟩
    rcases h.leg_mem_judged hl htouched hleg with ⟨id, hfilled⟩
    have hscale : ¬ l.scale.IsFinite := fun hfinite =>
      (hparked.isFinite_scale_iff hsetup).mp hfinite hfrac
    have hcloses : exists c, closesOn candle (managedOn symbol candle
        (legPosition setup l.signal l.limitPrice candle.openTime l.scale id leg)) = some c ∧
          c.pnl = .nan :=
      closesOn_at_stop htouched (hparked.at_stop hsetup hfrac) hscale id leg
    rcases hcloses with ⟨c, hclose, hpnl⟩
    exact List.mem_map.mpr ⟨c, mem_processCandle.mpr ⟨_, hfilled, hclose⟩, hpnl⟩

theorem Parked.of_waiting {old l : PendingLimit} (h : Parked setup old)
    (hsame : l = { old with barsLeft := l.barsLeft }) : Parked setup l := by
  rw [hsame]
  exact ⟨h.signal, h.order⟩

theorem Sized.processCandle (h : b.Sized setup) :
    (processCandle setup b symbol candle).1.Sized setup := by
  have hwaiting : forall k l,
      l ∈ (SimulatedBroker.processCandle setup b symbol candle).1.pendingLimits.get k ->
        exists old, old ∈ b.pendingLimits.get k ∧ l = { old with barsLeft := l.barsLeft } := by
    intro k l hl
    rw [SimulatedBroker.processCandle, processPositions_pendingLimits] at hl
    exact mem_waiting hl
  constructor
  · intro k l hl
    rcases hwaiting k l hl with ⟨old, hold, hsame⟩
    rw [hsame]
    exact h.filed k old hold
  · intro k l hl
    rcases hwaiting k l hl with ⟨old, hold, hsame⟩
    exact (h.parked k old hold).of_waiting hsame
  · intro k p hp
    rcases mem_processPositions hp with ⟨hk, hother⟩ | ⟨-, hopen, q, hq, rfl⟩
    · rcases mem_fillLimits hother with hold | ⟨l, leg, id, hl, hsymbol, -⟩
      · exact h.lots k p hold
      · exact absurd (hsymbol.symm.trans (h.filed symbol l (List.mem_of_mem_filter hl))) hk
    · rw [managedOn_lotSize]
      rcases h.judged_cases hq with hlot | ⟨-, c, hclose, -⟩
      · exact hlot
      · rw [hopen] at hclose
        cases hclose
  · intro c hc
    rw [processCandle_closed] at hc
    rcases List.mem_append.mp hc with hold | hnew
    · exact h.results c hold
    · rcases mem_processCandle.mp hnew with ⟨p, hp, hclose⟩
      rcases h.judged_cases hp with hlot | ⟨-, other, hother, hpnl⟩
      · left
        rw [<- managedOn_lotSize symbol candle] at hlot
        rcases closesOn_cases hclose with ⟨-, rfl⟩ | ⟨tp, -, rfl⟩
        · exact isFinite_calcPnl hlot _
        · exact isFinite_calcPnl hlot _
      · right
        rw [hclose] at hother
        cases hother
        exact hpnl

theorem mem_placeOrder_limits {signal : SmcLiveSignal} {openTime : Int} {k : Instrument}
    {l : PendingLimit}
    (hl : l ∈ (placeOrder setup b signal openTime).1.pendingLimits.get k) :
    l ∈ b.pendingLimits.get k ∨ exists retrace, setup.retraceEntry = some retrace ∧
      k = signal.symbol ∧ l.signal = signal ∧ l.limitPrice = limitPriceOf signal retrace.frac ∧
        l.scale = retrace.scale := by
  unfold placeOrder at hl
  cases hretrace : setup.retraceEntry with
  | none =>
      rw [hretrace] at hl
      exact Or.inl hl
  | some retrace =>
      rw [hretrace] at hl
      dsimp only at hl
      by_cases hk : k = signal.symbol
      · subst hk
        rw [Buckets.get_set_self] at hl
        rcases List.mem_append.mp hl with hold | hnew
        · exact Or.inl hold
        · rw [List.mem_singleton.mp hnew]
          exact Or.inr ⟨retrace, rfl, rfl, rfl, rfl, rfl⟩
      · rw [Buckets.get_set_of_ne _ hk] at hl
        exact Or.inl hl

theorem isFinite_lotSize_placeOrder (h : b.Sized setup) {signal : SmcLiveSignal} {openTime : Int}
    {k : Instrument} (hp : p ∈ (placeOrder setup b signal openTime).1.positions.get k) :
    p.lotSize.IsFinite := by
  unfold placeOrder at hp
  cases hretrace : setup.retraceEntry with
  | none =>
      rw [hretrace] at hp
      simp only [fillAt, setPositions] at hp
      by_cases hk : k = signal.symbol
      · subst hk
        rw [Buckets.get_set_self] at hp
        rcases List.mem_append.mp hp with hold | hleg
        · exact h.lots _ p hold
        · rcases legPosition_of_mem hleg with ⟨leg, id, -, rfl⟩
          exact isFinite_lotSize (Number.isFinite_finite 1)
      · rw [Buckets.get_set_of_ne _ hk] at hp
        exact h.lots k p hp
  | some retrace =>
      rw [hretrace] at hp
      exact h.lots k p hp

theorem Sized.placeOrder (h : b.Sized setup) {signal : SmcLiveSignal} (hsignal : Protected signal)
    (openTime : Int) : (placeOrder setup b signal openTime).1.Sized setup := by
  constructor
  · intro k l hl
    rcases mem_placeOrder_limits hl with hold | ⟨retrace, -, rfl, rfl, -⟩
    · exact h.filed k l hold
    · rfl
  · intro k l hl
    rcases mem_placeOrder_limits hl with hold | ⟨retrace, hsetup, -, rfl, horder⟩
    · exact h.parked k l hold
    · exact ⟨hsignal, retrace, hsetup, horder⟩
  · intro k p hp
    exact isFinite_lotSize_placeOrder h hp
  · intro c hc
    rw [placeOrder_closed] at hc
    exact h.results c hc

theorem Sized.closeAllForSymbol (h : b.Sized setup) (symbol : Instrument) (closePrice : ℚ)
    (closeTime : Int) : (b.closeAllForSymbol symbol closePrice closeTime).1.Sized setup := by
  refine ⟨h.filed, h.parked, ?_, ?_⟩
  · intro k p hp
    change p ∈ (b.positions.delete symbol).get k at hp
    by_cases hk : k = symbol
    · rw [hk, Buckets.get_delete_self] at hp
      cases hp
    · rw [Buckets.get_delete_of_ne hk] at hp
      exact h.lots k p hp
  · intro c hc
    rcases List.mem_append.mp hc with hold | hnew
    · exact h.results c hold
    · rcases List.mem_map.mp hnew with ⟨p, hp, rfl⟩
      exact Or.inl (isFinite_calcPnl (h.lots symbol p hp) closePrice)

theorem Sized.nan_mem_closeAll_iff (h : b.Sized setup) (symbol : Instrument) (closePrice : ℚ)
    (closeTime : Int) :
    .nan ∈ (b.closeAllForSymbol symbol closePrice closeTime).1.closed.map ClosedPosition.pnl <->
      .nan ∈ b.closed.map ClosedPosition.pnl := by
  change .nan ∈ (b.closed ++ _).map ClosedPosition.pnl <-> _
  rw [List.map_append, List.mem_append, or_iff_left]
  intro hnan
  rcases List.mem_map.mp hnan with ⟨c, hc, hpnl⟩
  rcases List.mem_map.mp hc with ⟨p, hp, rfl⟩
  exact (isFinite_calcPnl (h.lots symbol p hp) closePrice).ne_nan hpnl

end Bar

end SimulatedBroker

open SimulatedBroker

/-!
# Events
-/

variable {env : EngineEnv} {cfg : ReplayConfig} {candles : ReplayCandles}

def Reaches (cfg : ReplayConfig) (candles : ReplayCandles) (run : ReplayRun) (ev : ReplayEvent) :
    Prop :=
  run.error = none ∧ (candles.entries.get ev.symbol).isSome ∧ ev.symbol ∈ cfg.pairs

/-- What an event does to the broker: its bar, and then maybe the order of its signal, so
that a parked limit meets the next bar first. -/
inductive EventOps (ev : ReplayEvent) : List BrokerOp -> Prop where
  | processed : EventOps ev [.candle ev.symbol ev.candle]
  | placed (signal : SmcLiveSignal) (h : Protected signal) :
      EventOps ev [.candle ev.symbol ev.candle, .place signal ev.candle.openTime]

theorem replayStep_broker (env : EngineEnv) (cfg : ReplayConfig) (candles : ReplayCandles)
    (run : ReplayRun) (ev : ReplayEvent) :
    (¬ Reaches cfg candles run ev ∧ (replayStep env cfg candles run ev).broker = run.broker) ∨
      (Reaches cfg candles run ev ∧ exists ops, EventOps ev ops ∧
        (replayStep env cfg candles run ev).broker =
          runFrom (brokerStep cfg.brokerSetup) run.broker ops) := by
  rw [replayStep]
  by_cases herror : run.error.isSome
  · left
    rw [if_pos herror]
    refine ⟨?_, rfl⟩
    rintro ⟨hnone, -⟩
    rw [hnone] at herror
    cases herror
  · rw [if_neg herror]
    rw [Option.not_isSome_iff_eq_none] at herror
    cases hget : candles.entries.get ev.symbol with
    | none =>
        left
        refine ⟨?_, rfl⟩
        rintro ⟨-, hsome, -⟩
        rw [hget] at hsome
        cases hsome
    | some bundle =>
        dsimp only
        split_ifs with hpair
        · right
          refine ⟨⟨herror, by rw [hget]; rfl, hpair⟩, ?_⟩
          have hexit := exitStep_broker env cfg run ev
          have hmove := entryStep_move env cfg bundle (exitStep env cfg run ev) ev
          generalize entryStep env cfg bundle (exitStep env cfg run ev) ev = next at hmove
          cases hmove with
          | waited =>
              exact ⟨_, .processed, hexit⟩
          | evaluated orchestrator error hrun =>
              exact ⟨_, .processed, hexit⟩
          | ordered orchestrator signal hrun hsignal =>
              refine ⟨_, .placed signal (protected_of_evaluate hsignal), ?_⟩
              rw [orderStep, runFrom_cons, brokerStep, ← hexit]
              rfl
        · exact Or.inl ⟨fun hreaches => hpair hreaches.2.2, rfl⟩

section Events

variable {run : ReplayRun} {ev : ReplayEvent}

def AllNumbers (run : ReplayRun) : Prop :=
  .nan ∉ run.broker.closed.map ClosedPosition.pnl

theorem EventOps.closed {ops : List BrokerOp} (h : EventOps ev ops) (setup : BrokerSetup)
    (b : SimulatedBroker) :
    (runFrom (brokerStep setup) b ops).closed =
      b.closed ++ (processCandle setup b ev.symbol ev.candle).2 := by
  cases h with
  | processed =>
      exact processCandle_closed setup b ev.symbol ev.candle
  | placed signal hsignal =>
      exact (placeOrder_closed setup _ signal ev.candle.openTime).trans
        (processCandle_closed setup b ev.symbol ev.candle)

theorem EventOps.sized {ops : List BrokerOp} (h : EventOps ev ops) {setup : BrokerSetup}
    {b : SimulatedBroker} (hb : b.Sized setup) :
    (runFrom (brokerStep setup) b ops).Sized setup := by
  cases h with
  | processed =>
      exact hb.processCandle
  | placed signal hsignal =>
      exact hb.processCandle.placeOrder hsignal ev.candle.openTime

theorem sized_replayStep (h : run.broker.Sized cfg.brokerSetup) :
    (replayStep env cfg candles run ev).broker.Sized cfg.brokerSetup := by
  rcases replayStep_broker env cfg candles run ev with ⟨-, hsame⟩ | ⟨-, ops, hops, hbroker⟩
  · rw [hsame]
    exact h
  · rw [hbroker]
    exact hops.sized h

def StopFill (cfg : ReplayConfig) (candles : ReplayCandles) (run : ReplayRun) (ev : ReplayEvent) :
    Prop :=
  Reaches cfg candles run ev ∧ FillsAtStop cfg.brokerSetup run.broker ev.symbol ev.candle

theorem allNumbers_replayStep_iff (h : run.broker.Sized cfg.brokerSetup) :
    AllNumbers (replayStep env cfg candles run ev) <->
      AllNumbers run ∧ ¬ StopFill cfg candles run ev := by
  unfold AllNumbers StopFill
  rcases replayStep_broker env cfg candles run ev with ⟨hnot, hsame⟩ | ⟨hreaches, ops, hops, hbroker⟩
  · rw [hsame]
    exact (and_iff_left fun hstop => hnot hstop.1).symm
  · rw [hbroker, hops.closed, List.map_append, List.mem_append, not_or, h.nan_mem_exits_iff,
      and_iff_right hreaches]

end Events

/-!
# The replay
-/

theorem allNumbers_replayLoop_iff (env : EngineEnv) (cfg : ReplayConfig)
    (candles : ReplayCandles) :
    AllNumbers (replayLoop env cfg candles) <->
      EveryStep (replayStep env cfg candles) (fun run ev => ¬ StopFill cfg candles run ev)
        (.start cfg) (buildTimeline candles cfg.startMs cfg.endMs) := by
  apply runFrom_iff_everyStep (fun run => run.broker.Sized cfg.brokerSetup) AllNumbers
  · intro run ev hsized
    exact sized_replayStep hsized
  · intro run ev hsized hgood
    exact (allNumbers_replayStep_iff hsized).trans (and_iff_right hgood)
  · intro run ev hsized hnext
    exact ((allNumbers_replayStep_iff hsized).mp hnext).1
  · exact create_sized cfg.brokerSetup cfg.initialBalance
  · intro hnan
    cases hnan

theorem sized_replayLoop (env : EngineEnv) (cfg : ReplayConfig) (candles : ReplayCandles) :
    (replayLoop env cfg candles).broker.Sized cfg.brokerSetup :=
  runFrom_inv (fun run : ReplayRun => run.broker.Sized cfg.brokerSetup)
    (fun _ _ h => sized_replayStep h)
    (create_sized cfg.brokerSetup cfg.initialBalance) _

/-- The flush leaves the results of the loop as they are and adds finite ones. -/
theorem replayFlushed_numbers (env : EngineEnv) (cfg : ReplayConfig) (candles : ReplayCandles) :
    (replayFlushed env cfg candles).broker.Sized cfg.brokerSetup ∧
      (AllNumbers (replayFlushed env cfg candles) <-> AllNumbers (replayLoop env cfg candles)) := by
  apply runFrom_inv (fun run : ReplayRun => run.broker.Sized cfg.brokerSetup ∧
    (AllNumbers run <-> AllNumbers (replayLoop env cfg candles)))
  · rintro run symbol ⟨hsized, hnumbers⟩
    unfold flushStep
    split
    · exact ⟨hsized, hnumbers⟩
    · refine ⟨hsized.closeAllForSymbol symbol _ _, ?_⟩
      rw [<- hnumbers]
      exact not_congr (hsized.nan_mem_closeAll_iff symbol _ _)
  · exact ⟨sized_replayLoop env cfg candles, Iff.rfl⟩

theorem Sized.isFinite_balance {setup : BrokerSetup} {b : SimulatedBroker} {initial : ℚ}
    (h : b.Sized setup) (hbooks : b.Accounted initial)
    (hnumbers : .nan ∉ b.closed.map ClosedPosition.pnl) : b.balance.IsFinite := by
  rw [hbooks.money]
  apply (Number.isFinite_finite initial).add
  apply Number.IsFinite.sum
  intro x hx
  rcases List.mem_map.mp hx with ⟨c, hc, rfl⟩
  refine (h.results c hc).resolve_right ?_
  intro hnan
  rw [hnan] at hx
  exact hnumbers hx

/-- The books of a replay that ends without an error conserve positions and money exactly if
no bar of it fills a limit that is parked at its stop. -/
theorem conserves_unless_filled_at_stop (env : EngineEnv) (cfg : ReplayConfig)
    (candles : ReplayCandles) (result : ReplayResult)
    (hresult : replay env cfg candles = .ok result) :
    Conserves cfg (replayFlushed env cfg candles).broker result <->
      EveryStep (replayStep env cfg candles) (fun run ev => ¬ StopFill cfg candles run ev)
        (.start cfg) (buildTimeline candles cfg.startMs cfg.endMs) := by
  rw [conserves_iff hresult, <- allNumbers_replayLoop_iff]
  rcases replayFlushed_numbers env cfg candles with ⟨hsized, hsame⟩
  rcases replay_ok hresult with ⟨hnone, rfl⟩
  have hkept := replayFlushed_kept hnone
  rw [<- hsame, ReplayRun.result_closed, hkept.closed]
  refine and_iff_left_of_imp ?_
  intro hnumbers
  exact (Sized.isFinite_balance hsized hkept.books hnumbers).ne_nan

/-!
# Gold with limits
-/

def goldLimitCfg (frac : ℚ) : ReplayConfig :=
  { goldReplayCfg none with retraceEntry := some { frac := frac, expiryBars := 6 } }

/-- An hour after the signal the price runs through every limit up to the stop. -/
def goldLimitCandles (frac : ℚ) : ReplayCandles :=
  loadCandles (goldLimitCfg frac) fun _ =>
    goldStored [goldQuarter (dayStart 20503 + 9 * msPerHour) 2100 2050]

set_option maxRecDepth 20000 in
/-- Two legs fill halfway to the stop and are stopped out. -/
theorem gold_halfway_conserves :
    exists result, replay documentedEnv (goldLimitCfg (1 / 2)) (goldLimitCandles (1 / 2)) =
        .ok result ∧
      result.closed.length = 2 ∧
      Conserves (goldLimitCfg (1 / 2))
        (replayFlushed documentedEnv (goldLimitCfg (1 / 2)) (goldLimitCandles (1 / 2))).broker
        result := by
  have hnone : (replayLoop documentedEnv (goldLimitCfg (1 / 2))
      (goldLimitCandles (1 / 2))).error = none := by
    decide +kernel
  have hresult := replay_of_no_error hnone
  refine ⟨_, hresult, by decide +kernel, ?_⟩
  refine (conserves_unless_filled_at_stop _ _ _ _ hresult).mpr (everyStep_of_forall ?_ _ _)
  rintro run ev ⟨-, retrace, hretrace, hfrac, -⟩
  cases hretrace
  norm_num at hfrac

def goldAtStop : ReplayRun :=
  replayFlushed documentedEnv (goldLimitCfg 1) (goldLimitCandles 1)

set_option maxRecDepth 20000 in
/-- Two legs fill at the stop, and neither trade is a win or a loss. -/
theorem gold_at_stop_not_conserved :
    exists result, replay documentedEnv (goldLimitCfg 1) (goldLimitCandles 1) = .ok result ∧
      (result.metrics.tradesCount = 2 ∧ result.metrics.winsCount = 0 ∧
        result.metrics.lossesCount = 0) ∧
      ¬ Conserves (goldLimitCfg 1) goldAtStop.broker result := by
  have hnone : (replayLoop documentedEnv (goldLimitCfg 1) (goldLimitCandles 1)).error = none := by
    decide +kernel
  have hmetrics : (goldAtStop.result (goldLimitCfg 1)).metrics.tradesCount = 2 ∧
      (goldAtStop.result (goldLimitCfg 1)).metrics.winsCount = 0 ∧
      (goldAtStop.result (goldLimitCfg 1)).metrics.lossesCount = 0 := by
    decide +kernel
  refine ⟨_, replay_of_no_error hnone, hmetrics, ?_⟩
  intro hconserves
  have hcounted := hconserves.counted
  rcases hmetrics with ⟨htrades, hwins, hlosses⟩
  change (goldAtStop.result (goldLimitCfg 1)).metrics.tradesCount = _ + _ at hcounted
  rw [htrades] at hcounted
  have hsum : 2 = 0 + 0 := hcounted.trans (congrArg₂ _ hwins hlosses)
  cases hsum

end Replay
end Shamarx
