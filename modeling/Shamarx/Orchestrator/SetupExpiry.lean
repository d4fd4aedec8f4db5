import Shamarx.Orchestrator.Calls

/-!
# Setup expiry under the rolling H1 buffer

## Runs of one orchestrator

The live engine hands every call the last 500 closed H1 bars.  A run grows the
H1 history of each symbol and interleaves evaluations with the commits of the
callers and with restarts.
-/

namespace Shamarx
namespace Orchestrator

open Foundation
open Engine

@[irreducible] def h1Buffer : Nat := 500

def closedBars (hist : Nat -> BacktestCandle) (n : Nat) : List BacktestCandle :=
  (List.range n).map hist

def rollingWindow (hist : Nat -> BacktestCandle) (n : Nat) : List BacktestCandle :=
  (closedBars hist n).drop (n - h1Buffer)

def barsAfter (hist : Nat -> BacktestCandle) (n : Nat) (t : Int) : Nat :=
  ((closedBars hist n).filter fun c => decide (t < c.openTime)).length

def TimeOrdered (hist : Nat -> BacktestCandle) : Prop :=
  forall i j, i < j -> (hist i).openTime < (hist j).openTime

inductive LiveOp where
  | evaluate (symbol : Instrument) (newBars : Nat) (m15 d1 : List BacktestCandle)
      (ctx : LiveContext)
  | recordEntry (symbol : Instrument) (h1SweepTime : Int)
  | recordExit (symbol : Instrument) (exitReason : ExitKind) (exitTime : Int)
      (pnl : Option ℚ)
  | restart

structure LiveRun where
  orchestrator : LiveSmcOrchestrator
  closed : Instrument -> Nat

def startRun (cfg : DefaultRiskCfg) : LiveRun :=
  { orchestrator := LiveSmcOrchestrator.create cfg, closed := fun _ => 0 }

def callBundle (hist : Instrument -> Nat -> BacktestCandle) (symbol : Instrument) (n : Nat)
    (m15 d1 : List BacktestCandle) : CandleBundle :=
  { m15 := m15, h1 := rollingWindow (hist symbol) n, d1 := d1 }

@[simp] theorem callBundle_h1 (hist : Instrument -> Nat -> BacktestCandle)
    (symbol : Instrument) (n : Nat) (m15 d1 : List BacktestCandle) :
    (callBundle hist symbol n m15 d1).h1 = rollingWindow (hist symbol) n := rfl

def liveStep (env : EngineEnv) (hist : Instrument -> Nat -> BacktestCandle) (r : LiveRun) :
    LiveOp -> LiveRun
  | .evaluate symbol newBars m15 d1 ctx =>
      let n := r.closed symbol + newBars
      { orchestrator :=
          (evaluate env r.orchestrator symbol (callBundle hist symbol n m15 d1) ctx none none).1
        closed := fun s => if s = symbol then n else r.closed s }
  | .recordEntry symbol h1SweepTime =>
      { r with orchestrator := r.orchestrator.recordEntry symbol h1SweepTime }
  | .recordExit symbol exitReason exitTime pnl =>
      { r with
        orchestrator :=
          (LiveSmcOrchestrator.recordExit env r.orchestrator symbol exitReason exitTime pnl).1 }
  | .restart => { r with orchestrator := r.orchestrator.restart }

def QueueFresh (env : EngineEnv) (hist : Instrument -> Nat -> BacktestCandle) (r : LiveRun)
    (symbol : Instrument) : Prop :=
  forall cfg s, getSmcPairConfig env.overrides symbol = some cfg ->
    r.orchestrator.getState symbol = some s ->
    forall p, p ∈ s.pending ->
      barsAfter (hist symbol) (r.closed symbol) p.sweepTime ≤ cfg.setupExpiryH1Bars

def ExpiryEnforced (env : EngineEnv) (hist : Instrument -> Nat -> BacktestCandle)
    (r : LiveRun) : LiveOp -> Prop
  | .evaluate symbol newBars m15 d1 ctx =>
      30 ≤ m15.length ->
      30 ≤ (rollingWindow (hist symbol) (r.closed symbol + newBars)).length ->
      QueueFresh env hist (liveStep env hist r (.evaluate symbol newBars m15 d1 ctx)) symbol
  | _ => True

/-- While the buffer rolls, a queued setup that is past its window has an expiry
index below the last one. -/
def StaleSetupsIndexed (env : EngineEnv) (hist : Instrument -> Nat -> BacktestCandle)
    (r : LiveRun) : LiveOp -> Prop
  | .evaluate symbol newBars _ _ _ =>
      h1Buffer < r.closed symbol + newBars ->
      forall cfg s, getSmcPairConfig env.overrides symbol = some cfg ->
        r.orchestrator.getState symbol = some s ->
        forall p, p ∈ s.pending ->
          cfg.setupExpiryH1Bars <
            barsAfter (hist symbol) (r.closed symbol + newBars) p.sweepTime ->
          p.expiresAtH1Idx < h1Buffer - 1
  | _ => True

/-!
# Windows and bar counts
-/

theorem closedBars_getElem? (hist : Nat -> BacktestCandle) {n i : Nat} (h : i < n) :
    (closedBars hist n)[i]? = some (hist i) := by
  simp [closedBars, h]

theorem rollingWindow_length (hist : Nat -> BacktestCandle) (n : Nat) :
    (rollingWindow hist n).length = n - (n - h1Buffer) := by
  simp [rollingWindow, closedBars]

theorem rollingWindow_getElem? {hist : Nat -> BacktestCandle} {n i : Nat}
    {bar : BacktestCandle} (h : (rollingWindow hist n)[i]? = some bar) :
    n - h1Buffer + i < n ∧ bar = hist (n - h1Buffer + i) := by
  have hlt : i < (rollingWindow hist n).length := by
    by_contra hge
    rw [List.getElem?_eq_none (not_lt.mp hge)] at h
    cases h
  rw [rollingWindow_length] at hlt
  have hidx : n - h1Buffer + i < n := by omega
  refine ⟨hidx, ?_⟩
  rw [rollingWindow, List.getElem?_drop, closedBars_getElem? hist hidx] at h
  exact (Option.some.inj h).symm

theorem length_filter_range_lt (a n : Nat) :
    ((List.range n).filter fun i => decide (a < i)).length = n - (a + 1) := by
  induction n with
  | zero =>
      simp
  | succ n ih =>
      rw [List.range_succ, List.filter_append, List.length_append, ih]
      by_cases h : a < n
      · simp [h]
        omega
      · simp [h]
        omega

theorem openTime_lt_iff {hist : Nat -> BacktestCandle} (hord : TimeOrdered hist) (a i : Nat) :
    (hist a).openTime < (hist i).openTime ↔ a < i := by
  rcases lt_trichotomy a i with h | h | h
  · exact ⟨fun _ => h, fun _ => hord a i h⟩
  · simp [h]
  · have hback := hord i a h
    exact ⟨fun hup => absurd hup (by omega), fun hai => absurd hai (by omega)⟩

theorem barsAfter_bar {hist : Nat -> BacktestCandle} (hord : TimeOrdered hist) (n a : Nat) :
    barsAfter hist n (hist a).openTime = n - (a + 1) := by
  rw [barsAfter, closedBars, List.filter_map, List.length_map,
    ← length_filter_range_lt a n]
  congr 1
  apply List.filter_congr
  intro i _
  exact decide_eq_decide.mpr (openTime_lt_iff hord a i)

/-!
# Queue effects of the operations
-/

theorem pending_recordEntry {o : LiveSmcOrchestrator} {symbol other : Instrument} {t : Int}
    {s : OrchestratorState} (h : (o.recordEntry symbol t).getState other = some s) :
    forall p, p ∈ s.pending -> p ∈ (o.getOrCreateState other).pending := by
  intro p hp
  by_cases hne : other = symbol
  · subst hne
    rw [LiveSmcOrchestrator.recordEntry, o.getState_setState] at h
    cases h
    exact List.mem_of_mem_filter hp
  · rw [LiveSmcOrchestrator.recordEntry, o.getState_setState_of_ne _ hne] at h
    simpa [LiveSmcOrchestrator.getOrCreateState, h] using hp

theorem pending_recordExit {env : EngineEnv} {o : LiveSmcOrchestrator}
    {symbol other : Instrument} {kind : ExitKind} {t : Int} {pnl : Option ℚ}
    {s : OrchestratorState}
    (h : (LiveSmcOrchestrator.recordExit env o symbol kind t pnl).1.getState other = some s) :
    forall p, p ∈ s.pending -> p ∈ (o.getOrCreateState other).pending := by
  intro p hp
  by_cases hne : other = symbol
  · subst hne
    unfold LiveSmcOrchestrator.recordExit at h
    dsimp only at h
    split at h
    · rw [o.getState_setState] at h
      cases h
      exact hp
    · rw [o.getState_setState] at h
      cases h
      exact hp
  · have hget : (LiveSmcOrchestrator.recordExit env o symbol kind t pnl).1.getState other =
        o.getState other := by
      unfold LiveSmcOrchestrator.recordExit
      dsimp only
      split <;> exact o.getState_setState_of_ne _ hne
    rw [hget] at h
    simpa [LiveSmcOrchestrator.getOrCreateState, h] using hp

theorem pending_restart {o : LiveSmcOrchestrator} {symbol : Instrument}
    {s : OrchestratorState} (h : o.restart.getState symbol = some s) :
    forall p, p ∈ s.pending -> p ∈ (o.getOrCreateState symbol).pending := by
  intro p hp
  rw [getState_restart, Option.map_eq_some_iff] at h
  rcases h with ⟨old, hold, rfl⟩
  rw [restoreState_pending] at hp
  simpa [LiveSmcOrchestrator.getOrCreateState, hold] using hp

/-!
# The index invariant

Until the buffer is full a setup's index is its place in the history, and the
expiry index is counted from it.
-/

def SetupIndexed (env : EngineEnv) (hist : Instrument -> Nat -> BacktestCandle)
    (symbol : Instrument) (closed : Nat) (p : PendingSetup) : Prop :=
  forall cfg, getSmcPairConfig env.overrides symbol = some cfg -> closed ≤ h1Buffer ->
    p.sweepTime = (hist symbol p.detectedAtH1Idx).openTime ∧
      p.expiresAtH1Idx = p.detectedAtH1Idx + cfg.setupExpiryH1Bars

def QueuesIndexed (env : EngineEnv) (hist : Instrument -> Nat -> BacktestCandle)
    (r : LiveRun) : Prop :=
  forall symbol p, p ∈ (r.orchestrator.getOrCreateState symbol).pending ->
    SetupIndexed env hist symbol (r.closed symbol) p

theorem setupIndexed_of_madeAt {env : EngineEnv} {hist : Instrument -> Nat -> BacktestCandle}
    {symbol : Instrument} {n idx : Nat} {cfg : SmcPairConfig} {p : PendingSetup}
    (hcfg : getSmcPairConfig env.overrides symbol = some cfg)
    (h : MadeAt (rollingWindow (hist symbol) n) cfg idx p) :
    SetupIndexed env hist symbol n p := by
  rcases h with ⟨hdet, hexp, bar, hbar, htime⟩
  rcases rollingWindow_getElem? hbar with ⟨-, rfl⟩
  intro cfg' hcfg' hn
  rw [hcfg] at hcfg'
  cases hcfg'
  have hshift : n - h1Buffer + idx = idx := by omega
  rw [hshift] at htime
  exact ⟨by rw [htime, hdet], by rw [hexp, hdet]⟩

theorem mem_pending_liveStep_evaluate {env : EngineEnv}
    {hist : Instrument -> Nat -> BacktestCandle} {r : LiveRun} {symbol : Instrument}
    {newBars : Nat} {m15 d1 : List BacktestCandle} {ctx : LiveContext} {p : PendingSetup}
    (h : p ∈ ((liveStep env hist r
      (.evaluate symbol newBars m15 d1 ctx)).orchestrator.getOrCreateState symbol).pending) :
    p ∈ (r.orchestrator.getOrCreateState symbol).pending ∨
      exists cfg idx, getSmcPairConfig env.overrides symbol = some cfg ∧
        MadeAt (rollingWindow (hist symbol) (r.closed symbol + newBars)) cfg idx p := by
  simp only [liveStep, evaluate, Option.getD_none] at h
  rcases evaluateAt_getState_cases env r.orchestrator symbol
      (callBundle hist symbol (r.closed symbol + newBars) m15 d1) ctx none (Cursor.full _) with
    hsame | ⟨cfg, f, hcfg, hb, -, hstate⟩
  · rw [hsame] at h
    exact Or.inl h
  · rw [LiveSmcOrchestrator.getOrCreateState, hstate, Option.getD_some] at h
    rcases (mem_evaluateState_pending h).1 with hold | ⟨idx, -, hmade⟩
    · exact Or.inl hold
    · rw [hb, callBundle_h1] at hmade
      exact Or.inr ⟨cfg, idx, hcfg, hmade⟩

theorem queuesIndexed_of_subset {env : EngineEnv}
    {hist : Instrument -> Nat -> BacktestCandle} {r : LiveRun} {o : LiveSmcOrchestrator}
    (hr : QueuesIndexed env hist r)
    (hsub : forall symbol s, o.getState symbol = some s ->
      forall p, p ∈ s.pending -> p ∈ (r.orchestrator.getOrCreateState symbol).pending) :
    QueuesIndexed env hist { r with orchestrator := o } := by
  intro symbol p hp
  cases hget : o.getState symbol with
  | none =>
      simp [LiveSmcOrchestrator.getOrCreateState, hget, LiveSmcOrchestrator.freshState] at hp
  | some s =>
      refine hr symbol p (hsub symbol s hget p ?_)
      simpa [LiveSmcOrchestrator.getOrCreateState, hget] using hp

theorem liveStep_queuesIndexed {env : EngineEnv}
    {hist : Instrument -> Nat -> BacktestCandle} {r : LiveRun} (op : LiveOp)
    (hr : QueuesIndexed env hist r) : QueuesIndexed env hist (liveStep env hist r op) := by
  cases op with
  | evaluate symbol newBars m15 d1 ctx =>
      intro other p hp
      by_cases hne : other = symbol
      · subst hne
        have hclosed : (liveStep env hist r
            (.evaluate other newBars m15 d1 ctx)).closed other = r.closed other + newBars := by
          simp [liveStep]
        rw [hclosed]
        rcases mem_pending_liveStep_evaluate hp with hold | ⟨cfg, idx, hcfg, hmade⟩
        · intro cfg hcfg hn
          exact hr other p hold cfg hcfg (by omega)
        · exact setupIndexed_of_madeAt hcfg hmade
      · have hclosed : (liveStep env hist r
            (.evaluate symbol newBars m15 d1 ctx)).closed other = r.closed other := by
          simp [liveStep, hne]
        rw [hclosed]
        refine hr other p ?_
        have hget := evaluateAt_getState_of_ne env r.orchestrator hne
          (callBundle hist symbol (r.closed symbol + newBars) m15 d1) ctx none (Cursor.full _)
        have hcfg : (liveStep env hist r
            (.evaluate symbol newBars m15 d1 ctx)).orchestrator.getState other =
              r.orchestrator.getState other := hget
        rw [LiveSmcOrchestrator.getOrCreateState] at hp ⊢
        rw [hcfg] at hp
        cases hold : r.orchestrator.getState other with
        | none =>
            simp [hold, LiveSmcOrchestrator.freshState] at hp
        | some s =>
            simpa [hold] using hp
  | recordEntry symbol t =>
      exact queuesIndexed_of_subset hr fun _ _ h => pending_recordEntry h
  | recordExit symbol kind t pnl =>
      exact queuesIndexed_of_subset hr fun _ _ h => pending_recordExit h
  | restart =>
      exact queuesIndexed_of_subset hr fun _ _ h => pending_restart h

theorem startRun_queuesIndexed (env : EngineEnv)
    (hist : Instrument -> Nat -> BacktestCandle) (cfg : DefaultRiskCfg) :
    QueuesIndexed env hist (startRun cfg) := by
  intro symbol p hp
  simp [startRun, LiveSmcOrchestrator.create, LiveSmcOrchestrator.getOrCreateState,
    LiveSmcOrchestrator.getState, LiveSmcOrchestrator.freshState] at hp

/-!
# Expiry over runs
-/

theorem fresh_of_madeAt {hist : Nat -> BacktestCandle} (hord : TimeOrdered hist)
    {n idx : Nat} {cfg : SmcPairConfig} {p : PendingSetup}
    (h : MadeAt (rollingWindow hist n) cfg idx p)
    (hkept : (rollingWindow hist n).length - 1 ≤ p.expiresAtH1Idx) :
    barsAfter hist n p.sweepTime ≤ cfg.setupExpiryH1Bars := by
  rcases h with ⟨-, hexp, bar, hbar, htime⟩
  rcases rollingWindow_getElem? hbar with ⟨hlt, rfl⟩
  rw [rollingWindow_length, hexp] at hkept
  rw [htime, barsAfter_bar hord]
  omega

/-- A setup queued before the call: its index is a history index until the
buffer rolls, and bounded by the condition from then on. -/
theorem fresh_of_queued {env : EngineEnv} {hist : Instrument -> Nat -> BacktestCandle}
    {r : LiveRun} {symbol : Instrument} {newBars : Nat} {cfg : SmcPairConfig}
    {p : PendingSetup} (hord : TimeOrdered (hist symbol)) (hr : QueuesIndexed env hist r)
    (hcfg : getSmcPairConfig env.overrides symbol = some cfg)
    (hold : p ∈ (r.orchestrator.getOrCreateState symbol).pending)
    (hcond : h1Buffer < r.closed symbol + newBars ->
      forall old, r.orchestrator.getState symbol = some old -> p ∈ old.pending ->
        cfg.setupExpiryH1Bars <
          barsAfter (hist symbol) (r.closed symbol + newBars) p.sweepTime ->
        p.expiresAtH1Idx < h1Buffer - 1)
    (hkept : (rollingWindow (hist symbol) (r.closed symbol + newBars)).length - 1 ≤
      p.expiresAtH1Idx) :
    barsAfter (hist symbol) (r.closed symbol + newBars) p.sweepTime ≤
      cfg.setupExpiryH1Bars := by
  by_cases hfull : h1Buffer < r.closed symbol + newBars
  · by_contra hstale
    cases hst : r.orchestrator.getState symbol with
    | none =>
        simp [LiveSmcOrchestrator.getOrCreateState, hst,
          LiveSmcOrchestrator.freshState] at hold
    | some old =>
        rw [LiveSmcOrchestrator.getOrCreateState, hst, Option.getD_some] at hold
        have hlow := hcond hfull old hst hold (not_le.mp hstale)
        rw [rollingWindow_length] at hkept
        omega
  · rcases hr symbol p hold cfg hcfg (by omega) with ⟨htime, hexp⟩
    rw [rollingWindow_length, hexp] at hkept
    rw [htime, barsAfter_bar hord]
    omega

theorem liveStep_expiryEnforced {env : EngineEnv}
    {hist : Instrument -> Nat -> BacktestCandle} (hord : forall s, TimeOrdered (hist s))
    {r : LiveRun} (op : LiveOp) (hr : QueuesIndexed env hist r)
    (hcond : StaleSetupsIndexed env hist r op) : ExpiryEnforced env hist r op := by
  cases op with
  | evaluate symbol newBars m15 d1 ctx =>
      intro hm15 hh1 cfg s hcfg hget p hp
      have hclosed : (liveStep env hist r
          (.evaluate symbol newBars m15 d1 ctx)).closed symbol = r.closed symbol + newBars := by
        simp [liveStep]
      rw [hclosed]
      rcases evaluateAt_of_guard r.orchestrator ctx none
          (show 30 ≤ (Cursor.full (callBundle hist symbol (r.closed symbol + newBars) m15 d1)).m15
            from hm15) (show 30 ≤ (Cursor.full _).h1 from hh1) hcfg with
        ⟨lastM15, f, -, hf, heval⟩
      have hs : s = (evaluateState env symbol cfg f ctx
          (r.orchestrator.getOrCreateState symbol)).1 := by
        have hstate := hget
        simp only [liveStep, evaluate, Option.getD_none] at hstate
        rw [heval, LiveSmcOrchestrator.getState_setState] at hstate
        exact (Option.some.inj hstate).symm
      rw [hs] at hp
      rcases mem_evaluateState_pending hp with ⟨horigin, hkept⟩
      have hlen : f.h1Len = (rollingWindow (hist symbol) (r.closed symbol + newBars)).length := by
        rw [hf]
        rfl
      rw [hlen] at hkept
      rcases horigin with hold | ⟨idx, -, hmade⟩
      · refine fresh_of_queued (hord symbol) hr hcfg hold ?_ hkept
        intro hfull old hst hmem
        exact hcond hfull cfg old hcfg hst p hmem
      · have hb : f.candles.h1 = rollingWindow (hist symbol) (r.closed symbol + newBars) := by
          rw [hf]
          rfl
        rw [hb] at hmade
        exact fresh_of_madeAt (hord symbol) hmade hkept
  | recordEntry symbol t =>
      exact trivial
  | recordExit symbol kind t pnl =>
      exact trivial
  | restart =>
      exact trivial

/-- In a run where no setup past its window keeps an index bound at the end of a
full buffer, every call past the guard leaves only setups within their window. -/
theorem setups_expire_over_rolling_runs (env : EngineEnv)
    (hist : Instrument -> Nat -> BacktestCandle) (hord : forall s, TimeOrdered (hist s))
    (cfg : DefaultRiskCfg) (ops : List LiveOp)
    (hcond : EveryStep (liveStep env hist) (StaleSetupsIndexed env hist) (startRun cfg) ops) :
    EveryStep (liveStep env hist) (ExpiryEnforced env hist) (startRun cfg) ops :=
  everyStep_of_inv (QueuesIndexed env hist)
    (fun _ op hr _ => liveStep_queuesIndexed op hr)
    (fun _ op hr hc => liveStep_expiryEnforced hord op hr hc)
    (startRun_queuesIndexed env hist cfg) hcond

/-!
# A full buffer of gold bars
-/

/-- Flat bars; bar 500 wicks above the others. -/
def goldHistory (_ : Instrument) (i : Nat) : BacktestCandle :=
  goldBar 500 i

/-- A call right after the close of bar `n - 1`, `newBars` bars after the last. -/
def goldCall (n newBars : Nat) : LiveOp :=
  .evaluate .XAUUSD newBars (flatM15 2000 1 (goldStart + n * msPerHour))
    goldD1 goldContext

theorem goldHistory_timeOrdered (s : Instrument) : TimeOrdered (goldHistory s) := by
  intro i j hij
  simp only [goldHistory, goldBar, msPerHour]
  omega

set_option maxRecDepth 20000 in
/-- The run whose one call detects the setup meets the condition. -/
theorem setups_expire_on_detection :
    EveryStep (liveStep documentedEnv goldHistory) (StaleSetupsIndexed documentedEnv goldHistory)
        (startRun standardRiskCfg) [goldCall 502 502] ∧
      EveryStep (liveStep documentedEnv goldHistory) (ExpiryEnforced documentedEnv goldHistory)
        (startRun standardRiskCfg) [goldCall 502 502] := by
  have hcond : EveryStep (liveStep documentedEnv goldHistory)
      (StaleSetupsIndexed documentedEnv goldHistory) (startRun standardRiskCfg)
      [goldCall 502 502] := by
    refine ⟨?_, trivial⟩
    intro _ cfg s _ hget
    cases hget
  exact ⟨hcond, setups_expire_over_rolling_runs documentedEnv goldHistory
    goldHistory_timeOrdered standardRiskCfg _ hcond⟩

set_option maxRecDepth 20000 in
/-- The setup detected with 502 closed bars is still queued with 510: nine bars
opened after its sweep, and the pair allows eight. -/
theorem full_buffer_keeps_stale_setup :
    (forall s, TimeOrdered (goldHistory s)) ∧
      ¬ EveryStep (liveStep documentedEnv goldHistory) (ExpiryEnforced documentedEnv goldHistory)
        (startRun standardRiskCfg) [goldCall 502 502, goldCall 510 8] := by
  refine ⟨goldHistory_timeOrdered, ?_⟩
  rintro ⟨-, h, -⟩
  have hm15 : 30 ≤ (flatM15 2000 1 (goldStart + (510 : Nat) * msPerHour)).length := by decide
  have hh1 : 30 ≤ (rollingWindow (goldHistory .XAUUSD) (0 + 502 + 8)).length := by
    rw [rollingWindow_length]
    decide +kernel
  have hfresh := h hm15 hh1 xauusdSmcConfig
  have hstale : (((liveStep documentedEnv goldHistory
        (liveStep documentedEnv goldHistory (startRun standardRiskCfg) (goldCall 502 502))
        (goldCall 510 8)).orchestrator.getState .XAUUSD).any fun s =>
      s.pending.any fun p =>
        decide (8 < barsAfter (goldHistory .XAUUSD) 510 p.sweepTime)) = true := by
    decide +kernel
  rw [Option.any_eq_true] at hstale
  rcases hstale with ⟨s, hs, hany⟩
  rw [List.any_eq_true] at hany
  rcases hany with ⟨p, hp, hlate⟩
  have hle := hfresh s rfl hs p hp
  have hlt := of_decide_eq_true hlate
  exact absurd (lt_of_lt_of_le hlt hle) (by decide)

end Orchestrator
end Shamarx
