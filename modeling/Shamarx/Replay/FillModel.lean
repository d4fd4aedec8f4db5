import Shamarx.Engine.StopRatchet
import Shamarx.Live.OrderLegs
import Shamarx.Replay.BrokerLemmas

/-!
# Where a bar fills

A bar is managed before its stops are checked, and a stop fills at its level.  So the
stop of a fill is the one that management leaves for the bar, also when the bar has
raised it, and the price of a fill can be one that the bar does not have.
-/

namespace Shamarx
namespace Replay

open Foundation
open Engine
open Orchestrator
open Live (oneLegSignal)

namespace SimulatedBroker

/-!
# The exits of a call
-/

def managedOn (symbol : Instrument) (candle : BacktestCandle) (p : SimulatedPosition) :
    SimulatedPosition :=
  managePosition candle (getSpread symbol candle.openTime) p

theorem fillLimits_keeps {setup : BrokerSetup} {candle : BacktestCandle} {b : SimulatedBroker}
    (touched : List PendingLimit) {symbol : Instrument} {p : SimulatedPosition}
    (hp : p ∈ b.positions.get symbol) :
    p ∈ (touched.foldl (fillLimit setup candle) b).positions.get symbol := by
  induction touched generalizing b with
  | nil =>
      exact hp
  | cons limit rest ih =>
      apply ih
      simp only [fillLimit, fillAt, setPositions]
      by_cases hsame : symbol = limit.signal.symbol
      · rw [hsame, Buckets.get_set_self]
        rw [hsame] at hp
        exact List.mem_append_left _ hp
      · rw [Buckets.get_set_of_ne _ hsame]
        exact hp

def judged (setup : BrokerSetup) (b : SimulatedBroker) (symbol : Instrument)
    (candle : BacktestCandle) : List SimulatedPosition :=
  (processPendingLimits setup b symbol candle).positions.get symbol

theorem mem_judged {setup : BrokerSetup} {candle : BacktestCandle} {b : SimulatedBroker}
    {symbol : Instrument} {p : SimulatedPosition} (hp : p ∈ b.positions.get symbol) :
    p ∈ judged setup b symbol candle :=
  fillLimits_keeps _ hp

theorem legPosition_of_mem {setup : BrokerSetup} {signal : SmcLiveSignal} {entryPrice : ℚ}
    {openTime : Int} {lotScale : Number} {firstId : Nat} {p : SimulatedPosition}
    (h : p ∈ legPositions setup signal entryPrice openTime lotScale firstId) :
    exists leg id, leg ∈ signal.legs ∧
      p = legPosition setup signal entryPrice openTime lotScale id leg := by
  rcases List.mem_map.mp h with ⟨⟨leg, id⟩, hentry, rfl⟩
  refine ⟨leg, id, ?_, rfl⟩
  rw [<- List.zipIdx_map_fst firstId signal.legs]
  exact List.mem_map_of_mem hentry

theorem mem_fillLimits {setup : BrokerSetup} {candle : BacktestCandle}
    {touched : List PendingLimit} {b : SimulatedBroker} {symbol : Instrument}
    {p : SimulatedPosition}
    (hp : p ∈ (touched.foldl (fillLimit setup candle) b).positions.get symbol) :
    p ∈ b.positions.get symbol ∨
      exists l leg id, l ∈ touched ∧ l.signal.symbol = symbol ∧ leg ∈ l.signal.legs ∧
        p = legPosition setup l.signal l.limitPrice candle.openTime l.scale id leg := by
  induction touched generalizing b with
  | nil =>
      exact Or.inl hp
  | cons limit rest ih =>
      rcases ih hp with hfirst | ⟨l, leg, id, hl, hrest⟩
      · simp only [fillLimit, fillAt, setPositions] at hfirst
        by_cases hsame : symbol = limit.signal.symbol
        · rw [hsame, Buckets.get_set_self] at hfirst
          rcases List.mem_append.mp hfirst with hold | hleg
          · left
            rw [hsame]
            exact hold
          · rcases legPosition_of_mem hleg with ⟨leg, id, hmem, rfl⟩
            exact Or.inr ⟨limit, leg, id, List.mem_cons_self, hsame.symm, hmem, rfl⟩
        · rw [Buckets.get_set_of_ne _ hsame] at hfirst
          exact Or.inl hfirst
      · exact Or.inr ⟨l, leg, id, List.mem_cons_of_mem limit hl, hrest⟩

theorem judged_cases {setup : BrokerSetup} {b : SimulatedBroker} {symbol : Instrument}
    {candle : BacktestCandle} {p : SimulatedPosition} (hp : p ∈ judged setup b symbol candle) :
    p ∈ b.positions.get symbol ∨
      exists l leg id, l ∈ b.pendingLimits.get symbol ∧ Touched candle l ∧
        leg ∈ l.signal.legs ∧
        p = legPosition setup l.signal l.limitPrice candle.openTime l.scale id leg := by
  rcases mem_fillLimits hp with hold | ⟨l, leg, id, hl, -, hrest⟩
  · exact Or.inl hold
  · rw [List.mem_filter, decide_eq_true_eq] at hl
    exact Or.inr ⟨l, leg, id, hl.1, hl.2, hrest⟩

theorem processCandle_exits (setup : BrokerSetup) (b : SimulatedBroker) (symbol : Instrument)
    (candle : BacktestCandle) :
    (processCandle setup b symbol candle).2 =
      (judged setup b symbol candle).filterMap
        fun p => closesOn candle (managedOn symbol candle p) := by
  unfold processCandle processPositions judged managedOn
  dsimp only
  split_ifs with hnone
  · rw [List.map_eq_nil_iff.mp hnone]
    rfl
  · exact List.filterMap_map
  · exact List.filterMap_map

theorem mem_processCandle {setup : BrokerSetup} {b : SimulatedBroker} {symbol : Instrument}
    {candle : BacktestCandle} {c : ClosedPosition} :
    c ∈ (processCandle setup b symbol candle).2 <->
      exists p, p ∈ judged setup b symbol candle ∧
        closesOn candle (managedOn symbol candle p) = some c := by
  rw [processCandle_exits, List.mem_filterMap]

/-!
# Stops come first
-/

/-- Management with a bar after the one of the fill moves the stop and nothing that the
result of a close at a price depends on. -/
theorem calcPnl_managedOn (symbol : Instrument) (candle : BacktestCandle)
    (p : SimulatedPosition) (closePrice : ℚ) :
    calcPnl (managedOn symbol candle p) closePrice = calcPnl p closePrice := by
  have hopening : (managedOn symbol candle p).opening = p.opening :=
    managePosition_opening candle (getSpread symbol candle.openTime) p
  have hpnl : calcPnl (managedOn symbol candle p).opening closePrice =
      calcPnl p.opening closePrice := by
    rw [hopening]
  exact hpnl

theorem slHit_of_atLeast {candle : BacktestCandle} {p q : SimulatedPosition}
    (hside : q.side = p.side) (hstop : p.side.AtLeast q.slPrice p.slPrice)
    (h : SlHit candle p) : SlHit candle q := by
  unfold SlHit at h ⊢
  rw [hside]
  cases hp : p.side with
  | buy =>
      rw [hp] at h hstop
      exact le_trans h hstop
  | sell =>
      rw [hp] at h hstop
      exact le_trans hstop h

/-- A position whose stop the bar reaches before it is managed is closed at the stop that
management leaves, unless management loosens it; it loosens no stop of a position that was
opened on the protective side with a sane trail. -/
theorem reached_stops_close (setup : BrokerSetup) (b : SimulatedBroker) (symbol : Instrument)
    (candle : BacktestCandle) (p : SimulatedPosition) (hopen : p ∈ b.positions.get symbol)
    (hbar : p.entryTime ≠ candle.openTime) :
    (SlHit candle p -> p.side.AtLeast (managedOn symbol candle p).slPrice p.slPrice ->
      exists c, c ∈ (processCandle setup b symbol candle).2 ∧ c.id = p.id ∧
        c.exitReason = .sl ∧ c.pnl = calcPnl p (managedOn symbol candle p).slPrice) ∧
      (p.Governed -> p.config.Sane ->
        p.side.AtLeast (managedOn symbol candle p).slPrice p.slPrice) := by
  have hopening : (managedOn symbol candle p).opening = p.opening :=
    managePosition_opening candle (getSpread symbol candle.openTime) p
  constructor
  · intro hreach hstop
    have hside : (managedOn symbol candle p).side = p.side :=
      congrArg (fun q => q.side) hopening
    have hid : (managedOn symbol candle p).id = p.id :=
      congrArg (fun q => q.id) hopening
    have hhit := slHit_of_atLeast hside hstop hreach
    exact ⟨_, mem_processCandle.mpr ⟨p, mem_judged hopen, if_pos hhit⟩, hid, rfl,
      calcPnl_managedOn symbol candle p _⟩
  · intro hgoverned hsane
    rw [managedOn, managePosition, if_neg hbar]
    exact (hgoverned.update hsane candle _).2.stop

def oneGoldBuy : SimulatedBroker :=
  (placeOrder ⟨smcRunnerTrail, none⟩ (.create 1000) oneLegSignal (dayStart 20503)).1

def goldBuy : SimulatedPosition :=
  legPosition ⟨smcRunnerTrail, none⟩ oneLegSignal 2000 (dayStart 20503) (.finite 1) 0
    { lotSize := 1 / 100, tpPrice := 2040, setupTags := [.smc, .runner] }

def laterBar (high low : ℚ) : BacktestCandle :=
  { openTime := dayStart 20503 + 15 * msPerMinute
    open_ := low + 1
    high := high
    low := low
    close := low + 1 }

/-- The buy is stopped out on a bar that leaves its stop alone. -/
theorem goldBuy_stopped_out :
    exists p, p ∈ oneGoldBuy.positions.get .XAUUSD ∧
      exists c, c ∈ (processCandle ⟨smcRunnerTrail, none⟩ oneGoldBuy .XAUUSD
          (laterBar 2005 1985)).2 ∧ c.id = p.id ∧ c.exitReason = .sl ∧
        c.pnl = calcPnl p (managedOn .XAUUSD (laterBar 2005 1985) p).slPrice := by
  have hopen : goldBuy ∈ oneGoldBuy.positions.get .XAUUSD := by
    decide +kernel
  have hclosed := reached_stops_close ⟨smcRunnerTrail, none⟩ oneGoldBuy .XAUUSD
    (laterBar 2005 1985) goldBuy hopen (by decide +kernel)
  exact ⟨goldBuy, hopen, hclosed.1 (by decide +kernel) (by decide +kernel)⟩

/-- A bar that rises to break-even and falls through the stop closes the buy with a gain. -/
theorem goldBuy_raised_and_stopped :
    ¬ (forall (b : SimulatedBroker) (symbol : Instrument) (candle : BacktestCandle)
      (p : SimulatedPosition), p ∈ b.positions.get symbol -> p.entryTime ≠ candle.openTime ->
      SlHit candle p ->
      exists c, c ∈ (processCandle ⟨smcRunnerTrail, none⟩ b symbol candle).2 ∧ c.id = p.id ∧
        c.pnl ≤ calcPnl p p.slPrice) := by
  intro hworst
  rcases hworst oneGoldBuy .XAUUSD (laterBar 2020 1985) goldBuy (by decide +kernel)
    (by decide +kernel) (by decide +kernel) with ⟨c, hc, -, hpnl⟩
  have hgain : forall c, c ∈ (processCandle ⟨smcRunnerTrail, none⟩ oneGoldBuy .XAUUSD
      (laterBar 2020 1985)).2 -> ¬ c.pnl ≤ calcPnl goldBuy goldBuy.slPrice := by
    decide +kernel
  exact hgain c hc hpnl

/-!
# Prices that the bar has
-/

/-- A price that closes a position on the bar: not beyond its extreme. -/
def Obtainable (candle : BacktestCandle) : Side -> ℚ -> Prop
  | .buy, price => price ≤ candle.high
  | .sell, price => candle.low ≤ price

instance (candle : BacktestCandle) (side : Side) (price : ℚ) :
    Decidable (Obtainable candle side price) :=
  match side with
  | .buy => inferInstanceAs (Decidable (price ≤ candle.high))
  | .sell => inferInstanceAs (Decidable (candle.low ≤ price))

def GapsPast (candle : BacktestCandle) (p : SimulatedPosition) : Prop :=
  match p.side with
  | .buy => candle.high < p.slPrice
  | .sell => p.slPrice < candle.low

def bestOf (candle : BacktestCandle) : Side -> ℚ
  | .buy => candle.high
  | .sell => candle.low

theorem obtainable_iff (candle : BacktestCandle) (side : Side) (price : ℚ) :
    Obtainable candle side price <-> side.AtLeast (bestOf candle side) price := by
  cases side <;> exact Iff.rfl

theorem gapsPast_iff (candle : BacktestCandle) (p : SimulatedPosition) :
    GapsPast candle p <-> p.side.Beyond p.slPrice (bestOf candle p.side) := by
  unfold GapsPast
  cases p.side <;> exact Iff.rfl

theorem obtainable_stop_iff (candle : BacktestCandle) (p : SimulatedPosition) :
    Obtainable candle p.side p.slPrice <-> ¬ GapsPast candle p := by
  rw [obtainable_iff, gapsPast_iff, Side.not_beyond]

/-- A close of a bar is at the stop, which the bar reaches, or at the target. -/
theorem closesOn_cases {candle : BacktestCandle} {p : SimulatedPosition} {c : ClosedPosition}
    (h : closesOn candle p = some c) :
    (SlHit candle p ∧ c = closePosition p p.slPrice candle.openTime .sl) ∨
      exists tp, tpHit candle p = some tp ∧ c = closePosition p tp candle.openTime .tp := by
  unfold closesOn at h
  split_ifs at h with hhit
  · exact Or.inl ⟨hhit, (Option.some.inj h).symm⟩
  · rcases Option.map_eq_some_iff.mp h with ⟨tp, htp, hclose⟩
    exact Or.inr ⟨tp, htp, hclose.symm⟩

theorem obtainable_of_tpHit {candle : BacktestCandle} {p : SimulatedPosition} {tp : ℚ}
    (h : tpHit candle p = some tp) : Obtainable candle p.side tp := by
  unfold tpHit at h
  split_ifs at h
  rw [Option.filter_eq_some_iff] at h
  have hreached := h.2
  cases hside : p.side with
  | buy =>
      rw [hside] at hreached
      have hle : tp ≤ candle.high := of_decide_eq_true hreached
      exact hle
  | sell =>
      rw [hside] at hreached
      have hle : candle.low ≤ tp := of_decide_eq_true hreached
      exact hle

/-!
# Stops that the bar moves
-/

theorem getSpread_nonneg (symbol : Instrument) (t : Int) : 0 ≤ getSpread symbol t := by
  unfold getSpread
  dsimp only
  split_ifs <;> cases symbol <;> norm_num [getInstrumentConfig]

theorem bestOf_atLeast_quote (p : ManagedPosition) (candle : BacktestCandle) {spread : ℚ}
    (hspread : 0 ≤ spread) : p.side.AtLeast (bestOf candle p.side) (p.quote candle spread) := by
  have hhalf : 0 ≤ spread / 2 := by
    linarith
  unfold ManagedPosition.quote
  cases p.side with
  | buy =>
      exact sub_le_self _ hhalf
  | sell =>
      exact le_add_of_nonneg_right hhalf

theorem managed_stop_not_obtainable_iff {p : SimulatedPosition} (h : p.Settled)
    (candle : BacktestCandle) {spread : ℚ} (hspread : 0 ≤ spread) :
    let stop := (updatePositionManagement p.toManagedPosition candle spread).slPrice
    ¬ Obtainable candle p.side stop <-> GapsPast candle p ∧ stop = p.slPrice := by
  intro stop
  have hkept (hsame : stop = p.slPrice) :
      ¬ Obtainable candle p.side stop <-> GapsPast candle p ∧ stop = p.slPrice := by
    rw [hsame, obtainable_stop_iff, not_not]
    exact (and_iff_left rfl).symm
  rcases h.slPrice_cases candle spread with hsame | hbehind
  · exact hkept hsame
  · have hbar := bestOf_atLeast_quote p.toManagedPosition candle hspread
    have hobtainable : Obtainable candle p.side stop :=
      (obtainable_iff candle p.side stop).mpr (hbar.trans hbehind)
    refine iff_of_false (not_not_intro hobtainable) ?_
    rintro ⟨hgap, hsame⟩
    exact (hkept hsame).mpr ⟨hgap, hsame⟩ hobtainable

/-!
# Open positions of a run
-/

def Tended (b : SimulatedBroker) : Prop :=
  forall k p, p ∈ b.positions.get k -> p.Settled

theorem smcTp1Trail_sane : smcTp1Trail.Sane := by
  constructor <;> norm_num [smcTp1Trail]

theorem settled_legPosition {setup : BrokerSetup} (hsane : setup.runnerTrail.Sane)
    (signal : SmcLiveSignal) (entryPrice : ℚ) (openTime : Int) (lotScale : Number) (id : Nat)
    (leg : SmcLiveSignalLeg) :
    (legPosition setup signal entryPrice openTime lotScale id leg).Settled := by
  refine ManagedPosition.settled_of_new rfl ?_ rfl rfl rfl
  change RegimeTradeParams.Sane (if SetupTag.tp1 ∈ leg.setupTags then smcTp1Trail
    else setup.runnerTrail)
  split_ifs
  · exact smcTp1Trail_sane
  · exact hsane

section Tended

variable {setup : BrokerSetup} {b : SimulatedBroker} {symbol : Instrument}
  {candle : BacktestCandle}

/-- A position that a bar leaves open is one that it has judged, as management leaves it. -/
theorem mem_processPositions {k : Instrument} {p : SimulatedPosition}
    (hp : p ∈ (b.processPositions symbol candle).1.positions.get k) :
    (k ≠ symbol ∧ p ∈ b.positions.get k) ∨
      (k = symbol ∧ closesOn candle p = none ∧
        exists q, q ∈ b.positions.get symbol ∧ p = managedOn symbol candle q) := by
  unfold processPositions at hp
  dsimp only at hp
  by_cases hk : k = symbol
  · right
    subst hk
    split_ifs at hp with hnone hall
    · rw [List.map_eq_nil_iff.mp hnone] at hp
      cases hp
    · simp only [setPositions, Buckets.get_delete_self] at hp
      cases hp
    · simp only [setPositions, Buckets.get_set_self] at hp
      rcases List.mem_filter.mp hp with ⟨hmanaged, hopen⟩
      rcases List.mem_map.mp hmanaged with ⟨q, hq, rfl⟩
      exact ⟨rfl, Option.isNone_iff_eq_none.mp hopen, q, hq, rfl⟩
  · left
    refine ⟨hk, ?_⟩
    split_ifs at hp with hnone hall
    · exact hp
    · simp only [setPositions, Buckets.get_delete_of_ne hk] at hp
      exact hp
    · simp only [setPositions, Buckets.get_set_of_ne _ hk] at hp
      exact hp

theorem Tended.placeOrder (h : b.Tended) (hsane : setup.runnerTrail.Sane)
    (signal : SmcLiveSignal) (openTime : Int) :
    (placeOrder setup b signal openTime).1.Tended := by
  unfold SimulatedBroker.placeOrder
  cases setup.retraceEntry with
  | none =>
      intro k p hp
      simp only [fillAt, setPositions] at hp
      by_cases hk : k = signal.symbol
      · rw [hk, Buckets.get_set_self] at hp
        rcases List.mem_append.mp hp with hold | hleg
        · exact h _ p hold
        · rcases legPosition_of_mem hleg with ⟨leg, id, -, rfl⟩
          exact settled_legPosition hsane signal _ _ _ id leg
      · rw [Buckets.get_set_of_ne _ hk] at hp
        exact h k p hp
  | some retrace =>
      exact h

theorem Tended.processCandle (h : b.Tended) (hsane : setup.runnerTrail.Sane)
    (symbol : Instrument) (candle : BacktestCandle) :
    (processCandle setup b symbol candle).1.Tended := by
  have hfilled : forall k p, p ∈ (processPendingLimits setup b symbol candle).positions.get k ->
      p.Settled := by
    intro k p hp
    rcases mem_fillLimits hp with hold | ⟨l, leg, id, -, -, -, rfl⟩
    · exact h k p hold
    · exact settled_legPosition hsane l.signal _ _ _ id leg
  intro k p hp
  rcases mem_processPositions hp with ⟨-, hother⟩ | ⟨-, -, q, hq, rfl⟩
  · exact hfilled k p hother
  · unfold managedOn managePosition
    split_ifs
    · exact hfilled symbol q hq
    · exact (hfilled symbol q hq).update candle _

theorem Tended.closeAllForSymbol (h : b.Tended) (symbol : Instrument) (closePrice : ℚ)
    (closeTime : Int) : (b.closeAllForSymbol symbol closePrice closeTime).1.Tended := by
  intro k p hp
  change p ∈ (b.positions.delete symbol).get k at hp
  by_cases hk : k = symbol
  · rw [hk, Buckets.get_delete_self] at hp
    cases hp
  · rw [Buckets.get_delete_of_ne hk] at hp
    exact h k p hp

end Tended

theorem tended_after {setup : BrokerSetup} (hsane : setup.runnerTrail.Sane)
    (initialBalance : ℚ) (ops : List BrokerOp) :
    (runFrom (brokerStep setup) (.create initialBalance) ops).Tended := by
  apply runFrom_inv Tended
  · intro b op h
    cases op with
    | place signal openTime =>
        exact h.placeOrder hsane signal openTime
    | candle symbol candle =>
        exact h.processCandle hsane symbol candle
    | closeAll symbol closePrice closeTime =>
        exact h.closeAllForSymbol symbol closePrice closeTime
  · intro k p hp
    cases hp

/-- In every run with a sane trail, a bar closes a position that was open before it or that
it fills.  A target fills at a price that the bar has.  A stop fills where management leaves
it, and the bar reaches it there.  The bar lacks that price only where it lies past the stop
that the position had before the bar, which then is where it fills. -/
theorem fills_obtainable_unless_gapped (setup : BrokerSetup) (hsane : setup.runnerTrail.Sane)
    (initialBalance : ℚ) (ops : List BrokerOp) (symbol : Instrument) (candle : BacktestCandle)
    (c : ClosedPosition)
    (hc : c ∈ (processCandle setup (runFrom (brokerStep setup) (.create initialBalance) ops)
      symbol candle).2) :
    exists p, p ∈ judged setup (runFrom (brokerStep setup) (.create initialBalance) ops) symbol
        candle ∧
      c.toSimulatedPosition = managedOn symbol candle p ∧
      ((c.exitReason = .tp ∧ Obtainable candle c.side c.closePrice) ∨
        (c.exitReason = .sl ∧ c.closePrice = c.slPrice ∧ SlHit candle c.toSimulatedPosition ∧
          (¬ Obtainable candle c.side c.closePrice <->
            GapsPast candle p ∧ c.closePrice = p.slPrice))) := by
  have htended := tended_after hsane initialBalance ops
  rcases mem_processCandle.mp hc with ⟨p, hp, hclose⟩
  refine ⟨p, hp, (closesOn_eq_some hclose).1, ?_⟩
  rcases closesOn_cases hclose with ⟨hhit, rfl⟩ | ⟨tp, htp, rfl⟩
  · refine Or.inr ⟨rfl, rfl, hhit, ?_⟩
    have hside : (managedOn symbol candle p).side = p.side :=
      congrArg (fun q => q.side) (managePosition_opening candle _ p)
    change ¬ Obtainable candle (managedOn symbol candle p).side
      (managedOn symbol candle p).slPrice <-> _ ∧ (managedOn symbol candle p).slPrice = _
    rw [hside]
    by_cases hbar : p.entryTime = candle.openTime
    · have hsame : managedOn symbol candle p = p := if_pos hbar
      rw [hsame, obtainable_stop_iff, not_not]
      exact (and_iff_left rfl).symm
    · rcases judged_cases hp with hopen | ⟨l, leg, id, -, -, -, rfl⟩
      · have hstop : (managedOn symbol candle p).slPrice =
            (updatePositionManagement p.toManagedPosition candle
              (getSpread symbol candle.openTime)).slPrice := by
          rw [managedOn, managePosition, if_neg hbar]
        rw [hstop]
        exact managed_stop_not_obtainable_iff (htended symbol p hopen) candle
          (getSpread_nonneg symbol candle.openTime)
      · exact absurd rfl hbar
  · exact Or.inl ⟨rfl, obtainable_of_tpHit htp⟩

theorem smcRunnerTrail_sane : smcRunnerTrail.Sane := by
  constructor <;> norm_num [smcRunnerTrail]

def goldBuyStopped : ClosedPosition :=
  closePosition (managedOn .XAUUSD (laterBar 2005 1985) goldBuy) 1990
    (laterBar 2005 1985).openTime .sl

theorem goldBuyStopped_obtainable :
    exists p, p ∈ judged ⟨smcRunnerTrail, none⟩ oneGoldBuy .XAUUSD (laterBar 2005 1985) ∧
      goldBuyStopped.toSimulatedPosition = managedOn .XAUUSD (laterBar 2005 1985) p ∧
      ((goldBuyStopped.exitReason = .tp ∧
          Obtainable (laterBar 2005 1985) goldBuyStopped.side goldBuyStopped.closePrice) ∨
        (goldBuyStopped.exitReason = .sl ∧ goldBuyStopped.closePrice = goldBuyStopped.slPrice ∧
          SlHit (laterBar 2005 1985) goldBuyStopped.toSimulatedPosition ∧
          (¬ Obtainable (laterBar 2005 1985) goldBuyStopped.side goldBuyStopped.closePrice <->
            GapsPast (laterBar 2005 1985) p ∧ goldBuyStopped.closePrice = p.slPrice))) :=
  fills_obtainable_unless_gapped ⟨smcRunnerTrail, none⟩ smcRunnerTrail_sane 1000
    [.place oneLegSignal (dayStart 20503)] .XAUUSD (laterBar 2005 1985) goldBuyStopped
    (by decide +kernel)

/-- Every close of a gold buy on this trail by a later bar is at a price of the bar. -/
def ClosesGoldWithin (trail : RegimeTradeParams) (candle : BacktestCandle) : Prop :=
  forall c, c ∈ (processCandle ⟨trail, none⟩
      (placeOrder ⟨trail, none⟩ (.create 1000) oneLegSignal (dayStart 20503)).1 .XAUUSD candle).2 ->
    Obtainable candle c.side c.closePrice

instance (trail : RegimeTradeParams) (candle : BacktestCandle) :
    Decidable (ClosesGoldWithin trail candle) :=
  List.decidableBAll _ _

/-- A bar that opens below the stop closes the buy above every price that it has.  On a trail
that is not sane, so does a bar that moves the stop past its own prices. -/
theorem goldBuy_gapped_past :
    (laterBar 1980 1970).low ≤ (laterBar 1980 1970).open_ ∧
      (laterBar 1980 1970).close ≤ (laterBar 1980 1970).high ∧
      ¬ ClosesGoldWithin smcRunnerTrail (laterBar 1980 1970) ∧
      ¬ ClosesGoldWithin { smcRunnerTrail with beThresholdR := 0 } (laterBar (8001 / 4) 1995) ∧
      ¬ ClosesGoldWithin { smcRunnerTrail with trailWidthMult := some (-1) }
        (laterBar 2020 1995) ∧
      ¬ ClosesGoldWithin { smcRunnerTrail with slClampMaxAtr := -20 } (laterBar 2060 1995) := by
  decide +kernel

end SimulatedBroker
end Replay
end Shamarx
