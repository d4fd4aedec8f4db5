import Shamarx.Orchestrator.SetupExpiry

/-!
# Sweep detection with catch-up

## The bars of a call

Detection runs over the bars after the last processed one, up to the bar before
the latest.  The marker is a time and the loop works on indices of the window.
-/

namespace Shamarx
namespace Orchestrator

open Foundation
open Engine

/-- The window indices that the detection loop visits. -/
def unprocessedIdxs (h1Candles : List BacktestCandle) (h1Len : Nat)
    (lastProcessedH1Time : Option Int) : List Nat :=
  match h1Candles[h1Len - 2]? with
  | none => []
  | some lastUsableH1 =>
      if lastProcessedH1Time = some lastUsableH1.openTime then []
      else
        let firstUnprocessedIdx :=
          match lastProcessedH1Time with
          | some after => findH1IdxAfter h1Candles after (h1Len - 2)
          | none => h1Len - 2
        List.range' firstUnprocessedIdx (h1Len - 2 + 1 - firstUnprocessedIdx)

theorem detectStep_pending (cfg : SmcPairConfig) (f : Frame) (s : OrchestratorState) :
    (detectStep cfg f s).pending = s.pending ++
      (unprocessedIdxs f.candles.h1 f.h1Len s.lastProcessedH1Time).filterMap
        (admittedSetup cfg f s.actionedSweeps) := by
  unfold detectStep unprocessedIdxs
  dsimp only
  cases f.candles.h1[f.h1Len - 2]? with
  | none =>
      simp
  | some lastUsableH1 =>
      dsimp only
      split_ifs
      · simp
      · rfl

theorem detectStep_marker (cfg : SmcPairConfig) {f : Frame} {bar : BacktestCandle}
    (hbar : f.candles.h1[f.h1Len - 2]? = some bar) (s : OrchestratorState) :
    (detectStep cfg f s).lastProcessedH1Time = some bar.openTime := by
  unfold detectStep
  simp only [hbar]
  split_ifs with hsame
  · exact hsame
  · rfl

theorem gateStep_marker (env : EngineEnv) (symbol : Instrument) (cfg : SmcPairConfig)
    (f : Frame) (ctx : LiveContext) (s : OrchestratorState) :
    (gateStep env symbol cfg f ctx s).1.lastProcessedH1Time = s.lastProcessedH1Time := by
  unfold gateStep
  dsimp only
  split_ifs <;> rfl

theorem fireStep_pending_sublist (env : EngineEnv) (symbol : Instrument)
    (cfg : SmcPairConfig) (f : Frame) (ctx : LiveContext) (s : OrchestratorState) :
    List.Sublist (fireStep env symbol cfg f ctx s).1.pending s.pending := by
  have hloop := (fireLoop_sublist (judge env symbol cfg f ctx s.actionedSweeps)
    s.pending.reverse).reverse
  rw [List.reverse_reverse] at hloop
  exact hloop

theorem gateStep_pending_sublist (env : EngineEnv) (symbol : Instrument)
    (cfg : SmcPairConfig) (f : Frame) (ctx : LiveContext) (s : OrchestratorState) :
    List.Sublist (gateStep env symbol cfg f ctx s).1.pending s.pending := by
  unfold gateStep
  dsimp only
  split_ifs
  · exact List.Sublist.refl _
  · exact List.Sublist.refl _
  · exact fireStep_pending_sublist env symbol cfg f ctx _
  · exact List.Sublist.refl _

/-- What a call leaves queued is part of the old queue with the setups of the
visited bars behind it. -/
theorem evaluateState_pending_sublist (env : EngineEnv) (symbol : Instrument)
    (cfg : SmcPairConfig) (f : Frame) (ctx : LiveContext) (s : OrchestratorState) :
    List.Sublist (evaluateState env symbol cfg f ctx s).1.pending
      (s.pending ++ (unprocessedIdxs f.candles.h1 f.h1Len s.lastProcessedH1Time).filterMap
        (admittedSetup cfg f s.actionedSweeps)) := by
  rw [← detectStep_pending]
  have hexpire : List.Sublist (expireStep f (detectStep cfg f s)).pending
      (detectStep cfg f s).pending := List.filter_sublist
  exact (gateStep_pending_sublist env symbol cfg f ctx _).trans hexpire

/-!
# Windows of a growing history
-/

def suffixWindow (hist : Nat -> BacktestCandle) (n window : Nat) : List BacktestCandle :=
  (closedBars hist n).drop (n - window)

theorem suffixWindow_length (hist : Nat -> BacktestCandle) {n window : Nat}
    (hle : window ≤ n) : (suffixWindow hist n window).length = window := by
  simp only [suffixWindow, closedBars, List.length_drop, List.length_map, List.length_range]
  omega

theorem suffixWindow_getElem? (hist : Nat -> BacktestCandle) {n window i : Nat}
    (hi : i < window) (hle : window ≤ n) :
    (suffixWindow hist n window)[i]? = some (hist (n - window + i)) := by
  rw [suffixWindow, List.getElem?_drop]
  exact closedBars_getElem? hist (by omega)

/-- The first bar of the window after the last processed one; the difference is
zero when that bar has left the window. -/
theorem findH1IdxAfter_window {hist : Nat -> BacktestCandle} (hord : TimeOrdered hist)
    {n window last : Nat} (hmin : 30 ≤ window) (hle : window ≤ n) (hlast : last + 2 < n) :
    findH1IdxAfter (suffixWindow hist n window) (hist last).openTime (window - 2) =
      last + 1 - (n - window) := by
  have hscan : scanUp 0 (window - 2 + 1) (fun i => do
      let c <- (suffixWindow hist n window)[i]?
      if (hist last).openTime < c.openTime then some i else none) =
        some (last + 1 - (n - window)) := by
    apply scanUp_eq_first (Nat.zero_le (last + 1 - (n - window)))
    · omega
    · intro i _ hi
      rw [suffixWindow_getElem? hist (by omega) hle]
      have hbefore : ¬ last < n - window + i := by omega
      simp [openTime_lt_iff hord, hbefore]
    · rw [suffixWindow_getElem? hist (by omega) hle]
      have hafter : last < n - window + (last + 1 - (n - window)) := by omega
      simp [openTime_lt_iff hord, hafter]
  rw [findH1IdxAfter, hscan]
  rfl

def consideredBars (hist : Nat -> BacktestCandle) (n window : Nat)
    (lastProcessedH1Time : Option Int) : List Nat :=
  (unprocessedIdxs (suffixWindow hist n window) window lastProcessedH1Time).map
    fun idx => n - window + idx

theorem consideredBars_none (hist : Nat -> BacktestCandle) {n window : Nat}
    (hmin : 30 ≤ window) (hle : window ≤ n) :
    consideredBars hist n window none = [n - 2] := by
  have hone : window - 2 + 1 - (window - 2) = 1 := by omega
  have hbar : n - window + (window - 2) = n - 2 := by omega
  simp [consideredBars, unprocessedIdxs,
    suffixWindow_getElem? hist (show window - 2 < window by omega) hle, hone, hbar]

theorem consideredBars_some {hist : Nat -> BacktestCandle} (hord : TimeOrdered hist)
    {n window last : Nat} (hmin : 30 ≤ window) (hle : window ≤ n) (hlast : last + 1 < n) :
    consideredBars hist n window (some (hist last).openTime) =
      List.range' (max (last + 1) (n - window)) (n - 1 - max (last + 1) (n - window)) := by
  have hbar : n - window + (window - 2) = n - 2 := by omega
  have hget := suffixWindow_getElem? hist (show window - 2 < window by omega) hle
  rw [hbar] at hget
  unfold consideredBars unprocessedIdxs
  simp only [hget, Option.some.injEq]
  by_cases hsame : last + 2 = n
  · have hidx : n - 2 = last := by omega
    have hnone : n - 1 - max (last + 1) (n - window) = 0 := by omega
    rw [hidx, if_pos rfl, hnone]
    rfl
  · have hne : ¬ (hist last).openTime = (hist (n - 2)).openTime := by
      have hlt := hord last (n - 2) (by omega)
      omega
    rw [if_neg hne, findH1IdxAfter_window hord hmin hle (by omega),
      List.map_add_range']
    congr 1
    · omega
    · omega

/-!
# Runs over one history
-/

inductive WindowOp where
  | evaluate (newBars window : Nat) (m15 d1 : List BacktestCandle) (ctx : LiveContext)
      (precomputed : Option PrecomputedIndicators)
  | recordEntry (h1SweepTime : Int)
  | recordExit (exitReason : ExitKind) (exitTime : Int) (pnl : Option ℚ)
  | restart

/-- An orchestrator with the bars closed so far and those its calls have
considered, in the order they did. -/
structure CatchUpRun where
  orchestrator : LiveSmcOrchestrator
  closed : Nat
  considered : List Nat

def startCatchUp (cfg : DefaultRiskCfg) : CatchUpRun :=
  { orchestrator := LiveSmcOrchestrator.create cfg, closed := 0, considered := [] }

def stateOf (symbol : Instrument) (r : CatchUpRun) : OrchestratorState :=
  r.orchestrator.getOrCreateState symbol

def windowBundle (hist : Nat -> BacktestCandle) (n window : Nat)
    (m15 d1 : List BacktestCandle) : CandleBundle :=
  { m15 := m15, h1 := suffixWindow hist n window, d1 := d1 }

/-- The window indices that a call considers; none below the length guard or
without a pair. -/
def consideredBy (env : EngineEnv) (o : LiveSmcOrchestrator) (symbol : Instrument)
    (b : CandleBundle) : List Nat :=
  if b.m15.length < 30 ∨ b.h1.length < 30 then []
  else if (getSmcPairConfig env.overrides symbol).isNone then []
  else unprocessedIdxs b.h1 b.h1.length (o.getOrCreateState symbol).lastProcessedH1Time

def windowStep (env : EngineEnv) (symbol : Instrument) (hist : Nat -> BacktestCandle)
    (r : CatchUpRun) : WindowOp -> CatchUpRun
  | .evaluate newBars window m15 d1 ctx precomputed =>
      let n := r.closed + newBars
      let b := windowBundle hist n window m15 d1
      { orchestrator := (evaluate env r.orchestrator symbol b ctx precomputed none).1
        closed := n
        considered := r.considered ++
          (consideredBy env r.orchestrator symbol b).map fun idx => n - window + idx }
  | .recordEntry h1SweepTime =>
      { r with orchestrator := r.orchestrator.recordEntry symbol h1SweepTime }
  | .recordExit exitReason exitTime pnl =>
      { r with
        orchestrator :=
          (LiveSmcOrchestrator.recordExit env r.orchestrator symbol exitReason exitTime pnl).1 }
  | .restart => { r with orchestrator := r.orchestrator.restart }

/-- The H1 window has at least 30 of the closed bars, and so has the M15 array. -/
def WellFed (r : CatchUpRun) : WindowOp -> Prop
  | .evaluate newBars window m15 _ _ _ =>
      30 ≤ window ∧ window ≤ r.closed + newBars ∧ 30 ≤ m15.length
  | _ => True

instance (r : CatchUpRun) (op : WindowOp) : Decidable (WellFed r op) := by
  unfold WellFed
  split <;> infer_instance

/-- Every bar that the call considers is in the window with its successor. -/
def SuccessorInWindow (env : EngineEnv) (symbol : Instrument) (hist : Nat -> BacktestCandle)
    (r : CatchUpRun) (op : WindowOp) : Prop :=
  match op with
  | .evaluate newBars window _ _ _ _ =>
      exists now, (windowStep env symbol hist r op).considered = r.considered ++ now ∧
        forall j, j ∈ now -> r.closed + newBars - window ≤ j ∧ j + 1 < r.closed + newBars
  | _ => (windowStep env symbol hist r op).considered = r.considered

def windowFrame (env : EngineEnv) (hist : Nat -> BacktestCandle) (n window : Nat)
    (m15 d1 : List BacktestCandle) (precomputed : Option PrecomputedIndicators)
    (lastM15 : BacktestCandle) : Frame :=
  let b := windowBundle hist n window m15 d1
  makeFrame b (callIndicators env b precomputed) (Cursor.full b) lastM15

def detectedOn (cfg : SmcPairConfig) (f : Frame) (n window : Nat) (s : OrchestratorState)
    (bars : List Nat) : List PendingSetup :=
  s.pending ++ bars.filterMap fun bar =>
    admittedSetup cfg f s.actionedSweeps (bar - (n - window))

/-- The call runs detection on the bars that it adds to the considered ones, in their
order, and on no others: expiry and the gates work on the queue with their setups. -/
def DetectsConsidered (env : EngineEnv) (symbol : Instrument) (hist : Nat -> BacktestCandle)
    (r : CatchUpRun) (op : WindowOp) : Prop :=
  match op with
  | .evaluate newBars window m15 d1 ctx precomputed =>
      forall cfg, getSmcPairConfig env.overrides symbol = some cfg ->
        exists lastM15 now, m15[m15.length - 1]? = some lastM15 ∧
          (windowStep env symbol hist r op).considered = r.considered ++ now ∧
          let n := r.closed + newBars
          let f := windowFrame env hist n window m15 d1 precomputed lastM15
          stateOf symbol (windowStep env symbol hist r op) =
            (gateStep env symbol cfg f ctx (expireStep f { stateOf symbol r with
              pending := detectedOn cfg f n window (stateOf symbol r) now
              lastProcessedH1Time := some (hist (n - 2)).openTime })).1
  | _ => True

/-- The first call made after the successor of the bar has closed still has the
bar in its window. -/
def StillInWindow (bar : Nat) (r : CatchUpRun) : WindowOp -> Prop
  | .evaluate newBars window _ _ _ _ =>
      r.closed ≤ bar + 1 -> bar + 1 < r.closed + newBars -> r.closed + newBars - window ≤ bar
  | _ => True

instance (bar : Nat) (r : CatchUpRun) (op : WindowOp) : Decidable (StillInWindow bar r op) := by
  unfold StillInWindow
  split <;> infer_instance

/-!
# The marker and the queue

The marker is the time of the last considered bar, and the queue holds setups of
considered bars in the order of their times.
-/

structure CaughtUp (env : EngineEnv) (symbol : Instrument) (hist : Nat -> BacktestCandle)
    (r : CatchUpRun) : Prop where
  configured : getSmcPairConfig env.overrides symbol = none -> r.considered = []
  ordered : r.considered.Pairwise fun i j => i < j
  confirmed : forall j, j ∈ r.considered -> j + 1 < r.closed
  marker : (stateOf symbol r).lastProcessedH1Time =
    r.considered.getLast?.map fun j => (hist j).openTime
  queue_ordered : (stateOf symbol r).pending.Pairwise fun p q => p.sweepTime < q.sweepTime
  queue_considered : forall p, p ∈ (stateOf symbol r).pending ->
    exists j, j ∈ r.considered ∧ p.sweepTime = (hist j).openTime

theorem startCatchUp_caughtUp (env : EngineEnv) (symbol : Instrument)
    (hist : Nat -> BacktestCandle) (cfg : DefaultRiskCfg) :
    CaughtUp env symbol hist (startCatchUp cfg) where
  configured _ := rfl
  ordered := List.Pairwise.nil
  confirmed _ hj := nomatch hj
  marker := rfl
  queue_ordered := List.Pairwise.nil
  queue_considered _ hp := nomatch hp

theorem le_of_getLast? {bars : List Nat} (hord : bars.Pairwise fun i j => i < j) {last j : Nat}
    (hlast : bars.getLast? = some last) (hj : j ∈ bars) : j ≤ last := by
  rw [List.getLast?_eq_some_iff] at hlast
  rcases hlast with ⟨front, rfl⟩
  rw [List.pairwise_append] at hord
  rcases List.mem_append.mp hj with hj | hj
  · exact le_of_lt (hord.2.2 j hj last (List.mem_singleton_self last))
  · exact le_of_eq (List.mem_singleton.mp hj)

theorem CaughtUp.extend {env : EngineEnv} {symbol : Instrument}
    {hist : Nat -> BacktestCandle} (hord : TimeOrdered hist) {r : CatchUpRun}
    (hr : CaughtUp env symbol hist r) {newBars window : Nat} (hmin : 30 ≤ window)
    (hle : window ≤ r.closed + newBars) {now : List Nat}
    (hnow : now = consideredBars hist (r.closed + newBars) window
      (stateOf symbol r).lastProcessedH1Time) :
    (r.considered ++ now).Pairwise (fun i j => i < j) ∧
      (forall j, j ∈ now ->
        r.closed + newBars - window ≤ j ∧ j + 1 < r.closed + newBars) ∧
      (r.considered ++ now).getLast? = some (r.closed + newBars - 2) := by
  rw [hr.marker] at hnow
  cases hlast : r.considered.getLast? with
  | none =>
      rw [hlast, Option.map_none, consideredBars_none hist hmin hle] at hnow
      rw [List.getLast?_eq_none_iff] at hlast
      rw [hlast, hnow]
      refine ⟨List.pairwise_singleton _ _, ?_, rfl⟩
      intro j hj
      rw [List.mem_singleton] at hj
      omega
  | some last =>
      have hbound := hr.confirmed last (List.mem_of_getLast? hlast)
      rw [hlast, Option.map_some, consideredBars_some hord hmin hle (by omega)] at hnow
      have hmem : forall j, j ∈ now -> max (last + 1) (r.closed + newBars - window) ≤ j ∧
          j + 1 < r.closed + newBars := by
        intro j hj
        rw [hnow, List.mem_range'_1] at hj
        omega
      refine ⟨?_, ?_, ?_⟩
      · rw [List.pairwise_append]
        refine ⟨hr.ordered, ?_, ?_⟩
        · rw [hnow]
          exact List.pairwise_lt_range'
        · intro i hi j hj
          have hi' := le_of_getLast? hr.ordered hlast hi
          have hj' := (hmem j hj).1
          omega
      · intro j hj
        have hj' := hmem j hj
        omega
      · rw [List.getLast?_append, hlast, hnow, List.getLast?_range']
        split_ifs
        · simp
          omega
        · simp
          omega

/-!
# One step
-/

theorem consideredBy_window {env : EngineEnv} {o : LiveSmcOrchestrator} {symbol : Instrument}
    {hist : Nat -> BacktestCandle} {n window : Nat} {m15 d1 : List BacktestCandle}
    {cfg : SmcPairConfig} (hmin : 30 ≤ window) (hle : window ≤ n) (hm15 : 30 ≤ m15.length)
    (hcfg : getSmcPairConfig env.overrides symbol = some cfg) :
    (consideredBy env o symbol (windowBundle hist n window m15 d1)).map
        (fun idx => n - window + idx) =
      consideredBars hist n window (o.getOrCreateState symbol).lastProcessedH1Time := by
  have hlen := suffixWindow_length hist hle
  have hguard : ¬ (m15.length < 30 ∨ (suffixWindow hist n window).length < 30) := by omega
  unfold consideredBy windowBundle
  dsimp only
  rw [if_neg hguard, hcfg, hlen]
  rfl

theorem admittedSetup_sweepTime {hist : Nat -> BacktestCandle} {n window idx : Nat}
    (hle : window ≤ n) {cfg : SmcPairConfig} {f : Frame}
    (hb : f.candles.h1 = suffixWindow hist n window) {actioned : List Int} {p : PendingSetup}
    (h : admittedSetup cfg f actioned idx = some p) :
    p.sweepTime = (hist (n - window + idx)).openTime := by
  rcases admittedSetup_madeAt h with ⟨-, -, bar, hbar, htime⟩
  rw [hb] at hbar
  have hidx : idx < window := by
    have hlt := (List.getElem?_eq_some_iff.mp hbar).1
    rwa [suffixWindow_length hist hle] at hlt
  rw [suffixWindow_getElem? hist hidx hle] at hbar
  cases hbar
  exact htime

theorem extended_queue {hist : Nat -> BacktestCandle} (hord : TimeOrdered hist)
    {n window : Nat} (hle : window ≤ n) (cfg : SmcPairConfig) {f : Frame}
    (hb : f.candles.h1 = suffixWindow hist n window) (actioned : List Int)
    {queue : List PendingSetup} {seen idxs : List Nat}
    (hqueue : queue.Pairwise fun p q => p.sweepTime < q.sweepTime)
    (hseen : forall p, p ∈ queue -> exists j, j ∈ seen ∧ p.sweepTime = (hist j).openTime)
    (hidxs : (seen ++ idxs.map fun idx => n - window + idx).Pairwise fun i j => i < j) :
    (queue ++ idxs.filterMap (admittedSetup cfg f actioned)).Pairwise
        (fun p q => p.sweepTime < q.sweepTime) ∧
      forall p, p ∈ queue ++ idxs.filterMap (admittedSetup cfg f actioned) ->
        exists j, j ∈ seen ++ idxs.map (fun idx => n - window + idx) ∧
          p.sweepTime = (hist j).openTime := by
  have hfound : forall p, p ∈ idxs.filterMap (admittedSetup cfg f actioned) ->
      exists j, j ∈ idxs.map (fun idx => n - window + idx) ∧
        p.sweepTime = (hist j).openTime := by
    intro p hp
    rcases List.mem_filterMap.mp hp with ⟨idx, hidx, hadmit⟩
    exact ⟨n - window + idx, List.mem_map_of_mem hidx, admittedSetup_sweepTime hle hb hadmit⟩
  rw [List.pairwise_append] at hidxs
  rcases hidxs with ⟨-, hnew, hcross⟩
  constructor
  · rw [List.pairwise_append]
    refine ⟨hqueue, ?_, ?_⟩
    · rw [List.pairwise_filterMap]
      rw [List.pairwise_map] at hnew
      apply hnew.imp
      intro a b hab p hp q hq
      rw [admittedSetup_sweepTime hle hb hp, admittedSetup_sweepTime hle hb hq]
      exact hord _ _ hab
    · intro p hp q hq
      rcases hseen p hp with ⟨i, hi, hpi⟩
      rcases hfound q hq with ⟨j, hj, hqj⟩
      rw [hpi, hqj]
      exact hord i j (hcross i hi j hj)
  · intro p hp
    rcases List.mem_append.mp hp with hold | hnow
    · rcases hseen p hold with ⟨j, hj, htime⟩
      exact ⟨j, List.mem_append_left _ hj, htime⟩
    · rcases hfound p hnow with ⟨j, hj, htime⟩
      exact ⟨j, List.mem_append_right _ hj, htime⟩

theorem windowStep_unconfigured {env : EngineEnv} {symbol : Instrument}
    (hcfg : getSmcPairConfig env.overrides symbol = none) (hist : Nat -> BacktestCandle)
    (r : CatchUpRun) (newBars window : Nat) (m15 d1 : List BacktestCandle) (ctx : LiveContext)
    (pre : Option PrecomputedIndicators) :
    windowStep env symbol hist r (.evaluate newBars window m15 d1 ctx pre) =
      { r with closed := r.closed + newBars } := by
  have hnone : consideredBy env r.orchestrator symbol
      (windowBundle hist (r.closed + newBars) window m15 d1) = [] := by
    simp [consideredBy, hcfg]
  have hsame : (evaluate env r.orchestrator symbol
      (windowBundle hist (r.closed + newBars) window m15 d1) ctx pre none).1 =
        r.orchestrator := evaluateAt_of_not_guard r.orchestrator ctx pre (Or.inr hcfg)
  simp only [windowStep, hnone, hsame, List.map_nil, List.append_nil]

theorem windowStep_configured {env : EngineEnv} {symbol : Instrument} {cfg : SmcPairConfig}
    (hcfg : getSmcPairConfig env.overrides symbol = some cfg) (hist : Nat -> BacktestCandle)
    {r : CatchUpRun} {newBars window : Nat} {m15 d1 : List BacktestCandle} {ctx : LiveContext}
    {pre : Option PrecomputedIndicators}
    (hfed : WellFed r (.evaluate newBars window m15 d1 ctx pre)) :
    exists lastM15, m15[m15.length - 1]? = some lastM15 ∧
      stateOf symbol (windowStep env symbol hist r (.evaluate newBars window m15 d1 ctx pre)) =
        (evaluateState env symbol cfg
          (windowFrame env hist (r.closed + newBars) window m15 d1 pre lastM15) ctx
          (stateOf symbol r)).1 ∧
      (windowStep env symbol hist r (.evaluate newBars window m15 d1 ctx pre)).considered =
        r.considered ++ consideredBars hist (r.closed + newBars) window
          (stateOf symbol r).lastProcessedH1Time := by
  rcases hfed with ⟨hmin, hle, hm15⟩
  have hh1 : 30 ≤ (Cursor.full (windowBundle hist (r.closed + newBars) window m15 d1)).h1 := by
    show 30 ≤ (suffixWindow hist (r.closed + newBars) window).length
    rw [suffixWindow_length hist hle]
    exact hmin
  rcases evaluateAt_of_guard r.orchestrator ctx pre
      (show 30 ≤ (Cursor.full (windowBundle hist (r.closed + newBars) window m15 d1)).m15
        from hm15) hh1 hcfg with ⟨lastM15, f, hlast, hf, heval⟩
  refine ⟨lastM15, hlast, ?_, ?_⟩
  · simp only [stateOf, windowStep, evaluate, Option.getD_none]
    rw [heval, hf]
    exact r.orchestrator.getOrCreateState_setState symbol _
  · simp only [windowStep]
    rw [consideredBy_window hmin hle hm15 hcfg]
    rfl

theorem detectStep_window {hist : Nat -> BacktestCandle} {n window : Nat} (hmin : 30 ≤ window)
    (hle : window ≤ n) (cfg : SmcPairConfig) {f : Frame}
    (hb : f.candles.h1 = suffixWindow hist n window) (hlen : f.h1Len = window)
    (s : OrchestratorState) :
    detectStep cfg f s = { s with
      pending := detectedOn cfg f n window s (consideredBars hist n window s.lastProcessedH1Time)
      lastProcessedH1Time := some (hist (n - 2)).openTime } := by
  have hbar : f.candles.h1[f.h1Len - 2]? = some (hist (n - 2)) := by
    rw [hb, hlen, suffixWindow_getElem? hist (by omega) hle,
      show n - window + (window - 2) = n - 2 by omega]
  have hpending := detectStep_pending cfg f s
  have hqueue : (detectStep cfg f s).pending =
      detectedOn cfg f n window s (consideredBars hist n window s.lastProcessedH1Time) := by
    rw [hpending, hb, hlen, detectedOn, consideredBars, List.filterMap_map]
    congr 2
    funext idx
    rw [Function.comp_apply, Nat.add_sub_cancel_left]
  rw [<- hqueue, <- detectStep_marker cfg hbar s, detectStep]
  dsimp only
  rw [hbar]
  dsimp only
  split_ifs
  · rfl
  · rfl

theorem CaughtUp.evaluate_step {env : EngineEnv} {symbol : Instrument}
    {hist : Nat -> BacktestCandle} (hord : TimeOrdered hist) {r : CatchUpRun}
    (hr : CaughtUp env symbol hist r) {newBars window : Nat} {m15 d1 : List BacktestCandle}
    {ctx : LiveContext} {pre : Option PrecomputedIndicators}
    (hfed : WellFed r (.evaluate newBars window m15 d1 ctx pre)) :
    CaughtUp env symbol hist
      (windowStep env symbol hist r (.evaluate newBars window m15 d1 ctx pre)) := by
  cases hcfg : getSmcPairConfig env.overrides symbol with
  | none =>
      rw [windowStep_unconfigured hcfg]
      exact { hr with
        confirmed := by
          intro j hj
          have hbound := hr.confirmed j hj
          show j + 1 < r.closed + newBars
          omega }
  | some cfg =>
      rcases windowStep_configured hcfg hist hfed with ⟨lastM15, -, hstate, hconsidered⟩
      rcases hfed with ⟨hmin, hle, -⟩
      rcases hr.extend hord hmin hle rfl with ⟨hordered, hnow, hlast⟩
      generalize hf : windowFrame env hist (r.closed + newBars) window m15 d1 pre lastM15 = f
        at hstate
      have hb : f.candles.h1 = suffixWindow hist (r.closed + newBars) window := by
        rw [<- hf]
        rfl
      have hlen : f.h1Len = window := by
        rw [<- hf]
        exact suffixWindow_length hist hle
      have hsub := evaluateState_pending_sublist env symbol cfg f ctx (stateOf symbol r)
      rw [hb, hlen] at hsub
      have hqueue := extended_queue hord hle cfg hb (stateOf symbol r).actionedSweeps
        hr.queue_ordered hr.queue_considered hordered
      constructor
      · intro hnone
        rw [hcfg] at hnone
        cases hnone
      · rw [hconsidered]
        exact hordered
      · intro j hj
        rw [hconsidered, List.mem_append] at hj
        rcases hj with hold | hnew
        · have hbound := hr.confirmed j hold
          show j + 1 < r.closed + newBars
          omega
        · exact (hnow j hnew).2
      · rw [hstate, hconsidered, hlast, evaluateState, gateStep_marker,
          detectStep_window hmin hle cfg hb hlen]
        rfl
      · rw [hstate]
        exact hqueue.1.sublist hsub
      · intro p hp
        rw [hstate] at hp
        rw [hconsidered]
        exact hqueue.2 p (hsub.subset hp)

theorem CaughtUp.of_move {env : EngineEnv} {symbol : Instrument}
    {hist : Nat -> BacktestCandle} {r : CatchUpRun} (hr : CaughtUp env symbol hist r)
    {o : LiveSmcOrchestrator}
    (hmarker : (o.getOrCreateState symbol).lastProcessedH1Time =
      (stateOf symbol r).lastProcessedH1Time)
    (hqueue : List.Sublist (o.getOrCreateState symbol).pending (stateOf symbol r).pending) :
    CaughtUp env symbol hist { r with orchestrator := o } :=
  { hr with
    marker := hmarker.trans hr.marker
    queue_ordered := hr.queue_ordered.sublist hqueue
    queue_considered := fun p hp => hr.queue_considered p (hqueue.subset hp) }

theorem windowStep_caughtUp {env : EngineEnv} {symbol : Instrument}
    {hist : Nat -> BacktestCandle} (hord : TimeOrdered hist) {r : CatchUpRun} (op : WindowOp)
    (hr : CaughtUp env symbol hist r) (hfed : WellFed r op) :
    CaughtUp env symbol hist (windowStep env symbol hist r op) := by
  cases op with
  | evaluate newBars window m15 d1 ctx pre =>
      exact hr.evaluate_step hord hfed
  | recordEntry t =>
      apply hr.of_move
      · rw [LiveSmcOrchestrator.recordEntry, LiveSmcOrchestrator.getOrCreateState_setState]
        rfl
      · rw [LiveSmcOrchestrator.recordEntry, LiveSmcOrchestrator.getOrCreateState_setState]
        exact List.filter_sublist
  | recordExit kind t pnl =>
      unfold windowStep LiveSmcOrchestrator.recordExit
      dsimp only
      split
      · apply hr.of_move
        · rw [LiveSmcOrchestrator.getOrCreateState_setState]
          rfl
        · rw [LiveSmcOrchestrator.getOrCreateState_setState]
          exact List.Sublist.refl _
      · apply hr.of_move
        · rw [LiveSmcOrchestrator.getOrCreateState_setState]
          rfl
        · rw [LiveSmcOrchestrator.getOrCreateState_setState]
          exact List.Sublist.refl _
  | restart =>
      apply hr.of_move
      · rw [getOrCreateState_restart]
        rfl
      · rw [getOrCreateState_restart, restoreState_pending]
        exact List.Sublist.refl _

theorem windowStep_successorInWindow {env : EngineEnv} {symbol : Instrument}
    {hist : Nat -> BacktestCandle} (hord : TimeOrdered hist) {r : CatchUpRun} (op : WindowOp)
    (hr : CaughtUp env symbol hist r) (hfed : WellFed r op) :
    SuccessorInWindow env symbol hist r op := by
  cases op with
  | evaluate newBars window m15 d1 ctx pre =>
      cases hcfg : getSmcPairConfig env.overrides symbol with
      | none =>
          refine ⟨[], ?_, by simp⟩
          rw [windowStep_unconfigured hcfg, List.append_nil]
      | some cfg =>
          rcases windowStep_configured hcfg hist hfed with ⟨_, -, -, hconsidered⟩
          exact ⟨_, hconsidered, (hr.extend hord hfed.1 hfed.2.1 rfl).2.1⟩
  | recordEntry t =>
      rfl
  | recordExit kind t pnl =>
      rfl
  | restart =>
      rfl

theorem windowStep_detectsConsidered (env : EngineEnv) (symbol : Instrument)
    (hist : Nat -> BacktestCandle) {r : CatchUpRun} (op : WindowOp) (hfed : WellFed r op) :
    DetectsConsidered env symbol hist r op := by
  cases op with
  | evaluate newBars window m15 d1 ctx pre =>
      intro cfg hcfg
      rcases windowStep_configured hcfg hist hfed with ⟨lastM15, hlast, hstate, hconsidered⟩
      rcases hfed with ⟨hmin, hle, -⟩
      refine ⟨lastM15, _, hlast, hconsidered, ?_⟩
      rw [hstate, evaluateState, detectStep_window hmin hle cfg rfl (suffixWindow_length hist hle)]
  | recordEntry t =>
      trivial
  | recordExit kind t pnl =>
      trivial
  | restart =>
      trivial

/-!
# Whole runs
-/

/-- No bar skipped: a bar after the first considered one has been considered once
its successor has closed. -/
def NotSkipped (bar : Nat) (r : CatchUpRun) : Prop :=
  forall first, r.considered.head? = some first -> first < bar -> bar + 1 < r.closed ->
    bar ∈ r.considered

theorem evaluate_notSkipped {env : EngineEnv} {symbol : Instrument}
    {hist : Nat -> BacktestCandle} (hord : TimeOrdered hist) {r : CatchUpRun} {bar : Nat}
    (hr : CaughtUp env symbol hist r) (hkept : NotSkipped bar r) {newBars window : Nat}
    {m15 d1 : List BacktestCandle} {ctx : LiveContext} {pre : Option PrecomputedIndicators}
    (hfed : WellFed r (.evaluate newBars window m15 d1 ctx pre))
    (hwindow : StillInWindow bar r (.evaluate newBars window m15 d1 ctx pre)) :
    NotSkipped bar (windowStep env symbol hist r (.evaluate newBars window m15 d1 ctx pre)) := by
  intro first hhead hfirst hclosed
  cases hcfg : getSmcPairConfig env.overrides symbol with
  | none =>
      rw [windowStep_unconfigured hcfg] at hhead
      simp [hr.configured hcfg] at hhead
  | some cfg =>
      rcases windowStep_configured hcfg hist hfed with ⟨_, -, -, hconsidered⟩
      rcases hfed with ⟨hmin, hle, -⟩
      rw [hconsidered] at hhead ⊢
      rw [hr.marker] at hhead ⊢
      cases hlast : r.considered.getLast? with
      | none =>
          rw [hlast, Option.map_none, consideredBars_none hist hmin hle,
            List.getLast?_eq_none_iff.mp hlast] at hhead
          cases hhead
          have hlate : bar + 1 < r.closed + newBars := hclosed
          omega
      | some last =>
          have hbound := hr.confirmed last (List.mem_of_getLast? hlast)
          rw [Option.map_some, consideredBars_some hord hmin hle (by omega), List.mem_append]
          by_cases hold : bar + 1 < r.closed
          · refine Or.inl (hkept first ?_ hfirst hold)
            cases hseen : r.considered with
            | nil =>
                rw [hseen] at hlast
                cases hlast
            | cons j rest =>
                rw [hseen] at hhead
                exact hhead
          · refine Or.inr (List.mem_range'_1.mpr ?_)
            have hlate : bar + 1 < r.closed + newBars := hclosed
            have hstart := hwindow (by omega) hlate
            omega

theorem windowStep_notSkipped {env : EngineEnv} {symbol : Instrument}
    {hist : Nat -> BacktestCandle} (hord : TimeOrdered hist) {r : CatchUpRun} {bar : Nat}
    (op : WindowOp) (hr : CaughtUp env symbol hist r) (hkept : NotSkipped bar r)
    (hfed : WellFed r op) (hwindow : StillInWindow bar r op) :
    NotSkipped bar (windowStep env symbol hist r op) := by
  cases op with
  | evaluate newBars window m15 d1 ctx pre =>
      exact evaluate_notSkipped hord hr hkept hfed hwindow
  | recordEntry t =>
      exact hkept
  | recordExit kind t pnl =>
      exact hkept
  | restart =>
      exact hkept

/-- Over every run on windows of one history: the considered bars are in strict
time order, each with its successor in the window of its call, and they are the
bars that detection runs on; a bar after the first considered one that is still in
the window when the next call runs is considered exactly once; and no two queued
setups share a sweep time. -/
theorem sweeps_considered_exactly_once (env : EngineEnv) (symbol : Instrument)
    (hist : Nat -> BacktestCandle) (hord : TimeOrdered hist) (cfg : DefaultRiskCfg)
    (ops : List WindowOp)
    (hfed : EveryStep (windowStep env symbol hist) WellFed (startCatchUp cfg) ops) :
    ((runFrom (windowStep env symbol hist) (startCatchUp cfg) ops).considered.Pairwise
        fun i j => (hist i).openTime < (hist j).openTime) ∧
      EveryStep (windowStep env symbol hist) (SuccessorInWindow env symbol hist)
        (startCatchUp cfg) ops ∧
      EveryStep (windowStep env symbol hist) (DetectsConsidered env symbol hist)
        (startCatchUp cfg) ops ∧
      (forall first bar,
        (runFrom (windowStep env symbol hist) (startCatchUp cfg) ops).considered.head? =
          some first ->
        first < bar ->
        bar + 1 < (runFrom (windowStep env symbol hist) (startCatchUp cfg) ops).closed ->
        EveryStep (windowStep env symbol hist) (StillInWindow bar) (startCatchUp cfg) ops ->
        (runFrom (windowStep env symbol hist) (startCatchUp cfg) ops).considered.count bar = 1) ∧
      ((stateOf symbol (runFrom (windowStep env symbol hist) (startCatchUp cfg) ops)).pending.map
        fun p => p.sweepTime).Nodup := by
  have hstart := startCatchUp_caughtUp env symbol hist cfg
  have hend := hfed.run_inv (CaughtUp env symbol hist)
    (fun _ op hr hop => windowStep_caughtUp hord op hr hop) hstart
  refine ⟨?_, ?_, ?_, ?_, ?_⟩
  · exact hend.ordered.imp fun hij => hord _ _ hij
  · exact everyStep_of_inv (CaughtUp env symbol hist)
      (fun _ op hr hop => windowStep_caughtUp hord op hr hop)
      (fun _ op hr hop => windowStep_successorInWindow hord op hr hop) hstart hfed
  · exact everyStep_of_inv (CaughtUp env symbol hist)
      (fun _ op hr hop => windowStep_caughtUp hord op hr hop)
      (fun _ op _ hop => windowStep_detectsConsidered env symbol hist op hop) hstart hfed
  · intro first bar hhead hfirst hclosed hwindow
    have hboth := (hfed.and hwindow).run_inv
      (fun r => CaughtUp env symbol hist r ∧ NotSkipped bar r)
      (fun _ op hr hop => ⟨windowStep_caughtUp hord op hr.1 hop.1,
        windowStep_notSkipped hord op hr.1 hr.2 hop.1 hop.2⟩)
      ⟨hstart, fun _ hnone => nomatch hnone⟩
    have hnodup : (runFrom (windowStep env symbol hist) (startCatchUp cfg) ops).considered.Nodup :=
      hend.ordered.imp fun hij => Nat.ne_of_lt hij
    exact List.count_eq_one_of_mem hnodup (hboth.2 first hhead hfirst hclosed)
  · rw [List.Nodup, List.pairwise_map]
    exact hend.queue_ordered.imp fun hpq => ne_of_lt hpq

/-- Bars close while the process is down: four after the first call. -/
def downtimeRun : List WindowOp :=
  [.evaluate 60 60 (flatM15 2000 1 (goldStart + 60 * msPerHour)) goldD1 goldContext none,
    .restart,
    .evaluate 4 40 (flatM15 2000 1 (goldStart + 64 * msPerHour)) goldD1 goldContext none]

theorem twoWickBar_timeOrdered : TimeOrdered twoWickBar := by
  intro i j hij
  simp only [twoWickBar, goldBar, msPerHour]
  omega

theorem downtime_is_caught_up :
    EveryStep (windowStep documentedEnv .XAUUSD twoWickBar) WellFed
        (startCatchUp standardRiskCfg) downtimeRun ∧
      (runFrom (windowStep documentedEnv .XAUUSD twoWickBar) (startCatchUp standardRiskCfg)
        downtimeRun).considered = [58, 59, 60, 61, 62] ∧
      (runFrom (windowStep documentedEnv .XAUUSD twoWickBar) (startCatchUp standardRiskCfg)
        downtimeRun).considered.count 60 = 1 := by
  have hfed : EveryStep (windowStep documentedEnv .XAUUSD twoWickBar) WellFed
      (startCatchUp standardRiskCfg) downtimeRun := by
    decide +kernel
  have hbars : (runFrom (windowStep documentedEnv .XAUUSD twoWickBar)
      (startCatchUp standardRiskCfg) downtimeRun).considered = [58, 59, 60, 61, 62] := by
    decide +kernel
  have hwindow : EveryStep (windowStep documentedEnv .XAUUSD twoWickBar) (StillInWindow 60)
      (startCatchUp standardRiskCfg) downtimeRun := by
    decide +kernel
  refine ⟨hfed, hbars, ?_⟩
  apply (sweeps_considered_exactly_once documentedEnv .XAUUSD twoWickBar twoWickBar_timeOrdered
    standardRiskCfg downtimeRun hfed).2.2.2.1 58 60
  · rw [hbars]
    rfl
  · decide
  · decide +kernel
  · exact hwindow

end Orchestrator
end Shamarx
