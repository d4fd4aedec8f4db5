import Mathlib.Data.Set.Insert
import Shamarx.Live.OrderLegs
import Shamarx.Live.SweepExecution
import Shamarx.Replay.Conservation

/-!
# Parked limits, live and replayed

A live retrace order rests at the broker until a time; the replay counts the bars on
which it checks its parked limit.
-/

namespace Shamarx
namespace Replay

open Foundation
open Engine
open Orchestrator
open Live (oneLegSignal)
open Live.SweepExecution (retraceFrac resize)

/-!
# The fate of one parked limit
-/

def limitStep (candle : BacktestCandle) (p : PendingLimit) : Option PendingLimit :=
  if SimulatedBroker.Touched candle p then none else SimulatedBroker.waitBar p

def limitAfter (p : PendingLimit) : List BacktestCandle -> Option PendingLimit
  | [] => some p
  | candle :: rest => (limitStep candle p).bind fun q => limitAfter q rest

def parkedFor (p : PendingLimit) : Nat -> Option PendingLimit
  | 0 => some p
  | n + 1 => (SimulatedBroker.waitBar p).bind fun q => parkedFor q n

theorem touched_waitBar {candle : BacktestCandle} {p q : PendingLimit}
    (h : SimulatedBroker.waitBar p = some q) :
    SimulatedBroker.Touched candle q ↔ SimulatedBroker.Touched candle p := by
  unfold SimulatedBroker.waitBar at h
  split_ifs at h
  cases h
  exact Iff.rfl

theorem limitAfter_untouched {p : PendingLimit} {bars : List BacktestCandle}
    (h : forall candle, candle ∈ bars -> ¬ SimulatedBroker.Touched candle p) :
    limitAfter p bars = parkedFor p bars.length := by
  induction bars generalizing p with
  | nil =>
      rfl
  | cons candle rest ih =>
      rw [limitAfter, limitStep, if_neg (h candle List.mem_cons_self), List.length_cons, parkedFor]
      cases hwait : SimulatedBroker.waitBar p with
      | none =>
          rfl
      | some q =>
          apply ih
          intro other hother
          rw [touched_waitBar hwait]
          exact h other (List.mem_cons_of_mem candle hother)

theorem parkedFor_isSome (p : PendingLimit) (n : Nat) :
    (parkedFor p n).isSome = true ↔ n = 0 ∨ (n : ℚ) < p.barsLeft := by
  induction n generalizing p with
  | zero =>
      exact iff_of_true rfl (Or.inl rfl)
  | succ n ih =>
      rw [parkedFor, SimulatedBroker.waitBar]
      split_ifs with hleft
      · rw [Option.bind_some, ih]
        push_cast
        constructor
        · rintro (rfl | hlt)
          · right
            push_cast
            linarith
          · right
            linarith
        · rintro (hzero | hlt)
          · cases hzero
          · right
            linarith
      · rw [Option.bind_none]
        constructor
        · intro h
          cases h
        · rintro (hzero | hlt)
          · cases hzero
          · push_cast at hlt
            have hn : (0 : ℚ) ≤ n := n.cast_nonneg
            exact absurd (by linarith) hleft

/-!
# The parked limits of a symbol over a run of the broker
-/

def barOf (symbol : Instrument) : BrokerOp -> Option BacktestCandle
  | .place _ _ => none
  | .candle other candle => if other = symbol then some candle else none
  | .closeAll _ _ _ => none

def barsOf (symbol : Instrument) (ops : List BrokerOp) : List BacktestCandle :=
  ops.filterMap (barOf symbol)

def parkedLimit (retrace : RetraceEntryCfg) (signal : SmcLiveSignal) : PendingLimit :=
  { signal := signal
    limitPrice := SimulatedBroker.limitPriceOf signal retrace.frac
    scale := retrace.scale
    barsLeft := retrace.expiryBars }

section Run

variable {setup : BrokerSetup} {retrace : RetraceEntryCfg} (b : SimulatedBroker)
  (signal : SmcLiveSignal) (openTime : Int) (symbol : Instrument) (candle : BacktestCandle)

theorem placeOrder_parks (hsetup : setup.retraceEntry = some retrace) :
    (b.placeOrder setup signal openTime).1.pendingLimits.get signal.symbol =
      b.pendingLimits.get signal.symbol ++ [parkedLimit retrace signal] := by
  rw [SimulatedBroker.placeOrder, hsetup]
  exact Buckets.get_set_self _ _ _

theorem placeOrder_limits : exists newer,
    (b.placeOrder setup signal openTime).1.pendingLimits.get symbol =
      b.pendingLimits.get symbol ++ newer := by
  cases hretrace : setup.retraceEntry with
  | none =>
      exists []
      rw [SimulatedBroker.placeOrder, hretrace, List.append_nil]
      rfl
  | some retrace =>
      by_cases hsymbol : symbol = signal.symbol
      · subst hsymbol
        exact ⟨_, placeOrder_parks b signal openTime hretrace⟩
      · exists []
        rw [SimulatedBroker.placeOrder, hretrace, List.append_nil]
        exact Buckets.get_set_of_ne _ hsymbol

theorem filterMap_limitStep (limits : List PendingLimit) :
    limits.filterMap (limitStep candle) =
      (limits.filter fun p => decide (¬ SimulatedBroker.Touched candle p)).filterMap
        SimulatedBroker.waitBar := by
  rw [List.filterMap_filter]
  apply List.filterMap_congr
  intro p _
  unfold limitStep
  by_cases htouched : SimulatedBroker.Touched candle p
  · simp [htouched]
  · simp [htouched]

theorem processCandle_limits :
    (b.processCandle setup symbol candle).1.pendingLimits.get symbol =
      (b.pendingLimits.get symbol).filterMap (limitStep candle) := by
  rw [SimulatedBroker.processCandle, SimulatedBroker.processPositions_pendingLimits,
    SimulatedBroker.processPendingLimits]
  dsimp only
  rw [SimulatedBroker.fillLimits_pendingLimits, filterMap_limitStep]
  split_ifs with hnone
  · rw [hnone]
    exact Buckets.get_delete_self _ _
  · exact Buckets.get_set_self _ _ _

theorem processCandle_other {other : Instrument} (hne : symbol ≠ other) :
    (b.processCandle setup other candle).1.pendingLimits.get symbol =
      b.pendingLimits.get symbol := by
  rw [SimulatedBroker.processCandle, SimulatedBroker.processPositions_pendingLimits,
    SimulatedBroker.processPendingLimits]
  dsimp only
  rw [SimulatedBroker.fillLimits_pendingLimits]
  split_ifs
  · exact Buckets.get_delete_of_ne hne
  · exact Buckets.get_set_of_ne _ hne

theorem limits_after_run (setup : BrokerSetup) (ops : List BrokerOp) : exists newer,
    (runFrom (brokerStep setup) b ops).pendingLimits.get symbol =
      (b.pendingLimits.get symbol).filterMap (fun p => limitAfter p (barsOf symbol ops)) ++
        newer := by
  induction ops generalizing b with
  | nil =>
      exists []
      simp only [barsOf, List.filterMap_nil, limitAfter, List.filterMap_some, List.append_nil]
      rfl
  | cons o rest ih =>
      rcases ih (brokerStep setup b o) with ⟨newer, hrest⟩
      rw [runFrom_cons, hrest]
      cases o with
      | place signal openTime =>
          rcases placeOrder_limits b signal openTime symbol with ⟨placed, hplaced⟩
          rw [brokerStep, hplaced, List.filterMap_append, List.append_assoc]
          exact ⟨_, rfl⟩
      | candle other candle =>
          exists newer
          by_cases hsymbol : other = symbol
          · subst hsymbol
            have hbars : barsOf other (.candle other candle :: rest) =
                candle :: barsOf other rest :=
              List.filterMap_cons_some (if_pos rfl)
            rw [brokerStep, processCandle_limits, List.filterMap_filterMap, hbars]
            rfl
          · have hbars : barsOf symbol (.candle other candle :: rest) = barsOf symbol rest :=
              List.filterMap_cons_none (if_neg hsymbol)
            rw [brokerStep, processCandle_other b symbol candle (Ne.symm hsymbol), hbars]
      | closeAll other closePrice closeTime =>
          exact ⟨newer, rfl⟩

/-- As long as no bar of its symbol touches it, a limit is among the parked ones for as
many bars as it was given. -/
theorem parked_after_bars (hsetup : setup.retraceEntry = some retrace) (ops : List BrokerOp)
    (huntouched : forall bar, bar ∈ barsOf signal.symbol ops ->
      ¬ SimulatedBroker.Touched bar (parkedLimit retrace signal)) :
    exists older newer,
      (runFrom (brokerStep setup) (b.placeOrder setup signal openTime).1 ops).pendingLimits.get
          signal.symbol =
        older ++ (parkedFor (parkedLimit retrace signal)
          (barsOf signal.symbol ops).length).toList ++ newer := by
  rcases limits_after_run (b.placeOrder setup signal openTime).1 signal.symbol setup ops
    with ⟨newer, hafter⟩
  have hlimit : [parkedLimit retrace signal].filterMap
        (fun p => limitAfter p (barsOf signal.symbol ops)) =
      (parkedFor (parkedLimit retrace signal) (barsOf signal.symbol ops).length).toList := by
    rw [<- limitAfter_untouched huntouched]
    cases hlimit : limitAfter (parkedLimit retrace signal) (barsOf signal.symbol ops) with
    | none => exact List.filterMap_cons_none hlimit
    | some p => exact List.filterMap_cons_some hlimit
  rw [placeOrder_parks b signal openTime hsetup, List.filterMap_append, hlimit] at hafter
  exact ⟨_, newer, hafter⟩

end Run

/-!
# The live order
-/

def retraceExpiryBars : Nat := 12

def m15Ms : Int := 15 * 60000

/-- The open time of the last bar, by which `evaluatePairSharedSignal` dates a signal. -/
def evalTs (m15 : List BacktestCandle) (nowMs : Int) : Int :=
  (m15.getLast?.map BacktestCandle.openTime).getD nowMs

structure LimitRequest where
  symbol : Instrument
  side : Side
  lotSize : ℚ
  entryPrice : ℚ
  slPrice : ℚ
  tpPrice : ℚ
  limitPrice : ℚ
  expirationMs : Int
  deriving DecidableEq

def retraceRequests (signal : SmcLiveSignal) (evalTs : Int) : List LimitRequest :=
  let dist := |signal.entryPrice - signal.slPrice|
  let limitPrice := roundTo 100000 (match signal.side with
    | .buy => signal.entryPrice - dist * retraceFrac
    | .sell => signal.entryPrice + dist * retraceFrac)
  signal.legs.map fun leg =>
    { symbol := signal.symbol
      side := signal.side
      lotSize := leg.lotSize
      entryPrice := signal.entryPrice
      slPrice := signal.slPrice
      tpPrice := leg.tpPrice
      limitPrice := limitPrice
      expirationMs := evalTs + retraceExpiryBars * m15Ms }

/-!
# Two windows of bars
-/

/-- The M15 bars of the grid of `t` during which the order rests at the broker: from its
placement until it expires. -/
def fillableBars (r : LimitRequest) (t placedAt : Int) : Set Int := fun openTime =>
  (exists k : Int, openTime = t + k * m15Ms) ∧
    exists now, openTime ≤ now ∧ now < openTime + m15Ms ∧ placedAt ≤ now ∧ now < r.expirationMs

/-- The bars after the one of `t` on which the replay checks a limit parked at `t`. -/
def checkedBars (p : PendingLimit) (t : Int) : Set Int := fun openTime =>
  exists n : Nat, openTime = t + (n + 1) * m15Ms ∧ (parkedFor p n).isSome = true

def liveRetrace : RetraceEntryCfg :=
  { frac := retraceFrac, expiryBars := retraceExpiryBars }

section Windows

variable {signal : SmcLiveSignal} {t placedAt openTime : Int} {r : LimitRequest}

theorem mem_checkedBars : openTime ∈ checkedBars (parkedLimit liveRetrace signal) t ↔
    exists n : Nat, n < retraceExpiryBars ∧ openTime = t + (n + 1) * m15Ms := by
  constructor
  · rintro ⟨n, htime, hparked⟩
    refine ⟨n, ?_, htime⟩
    rcases (parkedFor_isSome _ n).mp hparked with rfl | hlt
    · decide
    · exact Nat.cast_lt.mp hlt
  · rintro ⟨n, hlt, htime⟩
    exact ⟨n, htime, (parkedFor_isSome _ n).mpr (Or.inr (Nat.cast_lt.mpr hlt))⟩

/-- An order that is placed when the bar of `t` has closed expires at the end of the
eleventh bar after it. -/
theorem mem_fillableBars (hexpires : r.expirationMs = t + retraceExpiryBars * m15Ms)
    (hplaced : t + m15Ms ≤ placedAt) (h : openTime ∈ fillableBars r t placedAt) :
    exists n : Nat, n + 1 < retraceExpiryBars ∧ openTime = t + (n + 1) * m15Ms := by
  rcases h with ⟨⟨k, rfl⟩, now, hfrom, huntil, hafter, hbefore⟩
  rw [hexpires] at hbefore
  simp only [m15Ms, retraceExpiryBars] at *
  refine ⟨(k - 1).toNat, by omega, ?_⟩
  have hk : ((k - 1).toNat : Int) = k - 1 := Int.toNat_of_nonneg (by omega)
  rw [hk]
  ring

/-- An account re-sizes the lots of a signal and keeps its prices. -/
theorem request_of_mem {evalTs : Int} {factor lotMult : ℚ}
    (h : r ∈ retraceRequests (resize signal factor lotMult) evalTs) :
    r.expirationMs = evalTs + retraceExpiryBars * m15Ms ∧
      r.limitPrice = roundTo 100000 (parkedLimit liveRetrace signal).limitPrice := by
  rcases List.mem_map.mp h with ⟨leg, -, rfl⟩
  exact ⟨rfl, rfl⟩

/-- Placed within the first bar after its own, the order rests for the bars of the replay
but the last. -/
theorem checkedBars_eq_insert (hexpires : r.expirationMs = t + retraceExpiryBars * m15Ms)
    (hplaced : t + m15Ms ≤ placedAt) (hsoon : placedAt < t + 2 * m15Ms) :
    checkedBars (parkedLimit liveRetrace signal) t =
      insert (t + retraceExpiryBars * m15Ms) (fillableBars r t placedAt) := by
  ext openTime
  rw [mem_checkedBars, Set.mem_insert_iff]
  constructor
  · rintro ⟨n, hn, rfl⟩
    by_cases hlast : n + 1 = retraceExpiryBars
    · left
      rw [<- hlast]
      push_cast
      ring
    · right
      refine ⟨⟨n + 1, rfl⟩, max placedAt (t + (n + 1) * m15Ms), ?_⟩
      rw [hexpires]
      simp only [m15Ms, retraceExpiryBars] at *
      omega
  · rintro (rfl | hfillable)
    · exact ⟨retraceExpiryBars - 1, by decide, by norm_num [retraceExpiryBars]⟩
    · rcases mem_fillableBars hexpires hplaced hfillable with ⟨n, hn, htime⟩
      exact ⟨n, by omega, htime⟩

/-- The replay checks the limit on one bar on which the live order has expired, for every
signal, bar and delay of the placement; the prices differ by the rounding only.  Placed
within the next bar, the live order rests for all the checked bars but the last.  The
checked bars are those of the broker: in every run of it in which no bar touches the limit,
the limit is parked for as many bars of its symbol. -/
theorem live_window_ends_early {m15 : List BacktestCandle} {bar : BacktestCandle} (nowMs : Int)
    (hlast : m15.getLast? = some bar) (hclosed : bar.openTime + m15Ms ≤ placedAt)
    (setup : BrokerSetup) (hsetup : setup.retraceEntry = some liveRetrace) (b : SimulatedBroker)
    (p : PendingLimit)
    (hparked : (b.placeOrder setup signal bar.openTime).1.pendingLimits.get signal.symbol =
      b.pendingLimits.get signal.symbol ++ [p])
    {factor lotMult : ℚ}
    (hr : r ∈ retraceRequests (resize signal factor lotMult) (evalTs m15 nowMs)) :
    fillableBars r bar.openTime placedAt ≠ checkedBars p bar.openTime ∧
      r.limitPrice = roundTo 100000 p.limitPrice ∧
      (placedAt < bar.openTime + 2 * m15Ms ->
        checkedBars p bar.openTime =
          insert (bar.openTime + retraceExpiryBars * m15Ms)
            (fillableBars r bar.openTime placedAt)) ∧
      (forall ops, (forall candle, candle ∈ barsOf signal.symbol ops ->
          ¬ SimulatedBroker.Touched candle p) ->
        exists older newer,
          (runFrom (brokerStep setup) (b.placeOrder setup signal bar.openTime).1
              ops).pendingLimits.get signal.symbol =
            older ++ (parkedFor p (barsOf signal.symbol ops).length).toList ++ newer) := by
  have heval : evalTs m15 nowMs = bar.openTime := by
    rw [evalTs, hlast]
    rfl
  have hp : p = parkedLimit liveRetrace signal := by
    rw [placeOrder_parks b signal bar.openTime hsetup] at hparked
    exact (List.singleton_inj.mp (List.append_cancel_left hparked)).symm
  rcases request_of_mem hr with ⟨hexpires, hprice⟩
  rw [heval] at hexpires
  subst hp
  refine ⟨?_, hprice, checkedBars_eq_insert hexpires hclosed,
    parked_after_bars b signal bar.openTime hsetup⟩
  intro hsame
  have hchecked : bar.openTime + retraceExpiryBars * m15Ms ∈
      checkedBars (parkedLimit liveRetrace signal) bar.openTime :=
    mem_checkedBars.mpr ⟨11, by decide, by norm_num [retraceExpiryBars]⟩
  rw [<- hsame] at hchecked
  rcases mem_fillableBars hexpires hclosed hchecked with ⟨n, hn, htime⟩
  simp only [m15Ms, retraceExpiryBars] at hn htime
  omega

end Windows

/-!
# One gold order
-/

def closedGoldBar : BacktestCandle :=
  { openTime := 0, open_ := 2000, high := 2001, low := 1999, close := 2000 }

def retraceSetup : BrokerSetup :=
  { runnerTrail := smcRunnerTrail, retraceEntry := some liveRetrace }

def goldRequest : LimitRequest :=
  { symbol := .XAUUSD
    side := .buy
    lotSize := 1 / 50
    entryPrice := 2000
    slPrice := 1990
    tpPrice := 2040
    limitPrice := 1995
    expirationMs := 12 * m15Ms }

theorem goldRequest_mem :
    goldRequest ∈ retraceRequests (resize oneLegSignal 1 2) (evalTs [closedGoldBar] 0) := by
  decide +kernel

theorem gold_window_ends_early :
    fillableBars goldRequest 0 m15Ms ≠ checkedBars (parkedLimit liveRetrace oneLegSignal) 0 ∧
      goldRequest.limitPrice = roundTo 100000 (parkedLimit liveRetrace oneLegSignal).limitPrice := by
  have hplaced : (0 : Int) + m15Ms ≤ m15Ms := by
    decide
  have hwindows := live_window_ends_early 0
    (show [closedGoldBar].getLast? = some closedGoldBar from rfl) hplaced retraceSetup rfl
    (.create 1000) _ (placeOrder_parks (.create 1000) oneLegSignal 0 rfl) goldRequest_mem
  exact ⟨hwindows.1, hwindows.2.1⟩

/-- The bar three hours after the evaluated one is checked in the replay only. -/
theorem gold_last_bar_replay_only :
    ¬ (forall openTime, openTime ∈ fillableBars goldRequest 0 m15Ms ↔
      openTime ∈ checkedBars (parkedLimit liveRetrace oneLegSignal) 0) := by
  intro h
  have hchecked : 12 * m15Ms ∈ checkedBars (parkedLimit liveRetrace oneLegSignal) 0 :=
    mem_checkedBars.mpr ⟨11, by decide, by decide⟩
  rcases (h _).mpr hchecked with ⟨-, now, hfrom, -, -, hbefore⟩
  exact absurd (lt_of_le_of_lt hfrom hbefore) (lt_irrefl _)

end Replay
end Shamarx
