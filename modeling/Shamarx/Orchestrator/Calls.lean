import Shamarx.Foundation.Runs
import Shamarx.Orchestrator.EvaluateLemmas

/-!
# Runs of orchestrator calls

The calls a process makes on its orchestrator, restarts included, and what each
of them can do to the state of a symbol.
-/

namespace Shamarx
namespace Orchestrator

open Foundation
open Engine

inductive OrchestratorOp where
  | evaluate (symbol : Instrument) (b : CandleBundle) (ctx : LiveContext)
      (precomputed : Option PrecomputedIndicators) (cursor : Option (Cursor b))
  | recordEntry (symbol : Instrument) (h1SweepTime : Int)
  | recordExit (symbol : Instrument) (exitReason : ExitKind) (exitTime : Int)
      (pnl : Option ℚ)
  | restart

def orchestratorStep (env : EngineEnv) (o : LiveSmcOrchestrator) :
    OrchestratorOp -> LiveSmcOrchestrator
  | .evaluate symbol b ctx precomputed cursor =>
      (evaluate env o symbol b ctx precomputed cursor).1
  | .recordEntry symbol h1SweepTime => o.recordEntry symbol h1SweepTime
  | .recordExit symbol exitReason exitTime pnl =>
      (LiveSmcOrchestrator.recordExit env o symbol exitReason exitTime pnl).1
  | .restart => o.restart

/-!
# Restarts
-/

theorem getState_restart (o : LiveSmcOrchestrator) (symbol : Instrument) :
    o.restart.getState symbol =
      (o.getState symbol).map fun s => o.restoreState symbol s.snapshot.raw := by
  unfold LiveSmcOrchestrator.restart LiveSmcOrchestrator.restore
    LiveSmcOrchestrator.serialize LiveSmcOrchestrator.getState
  dsimp only
  rw [List.map_map, List.map_map]
  exact InsertionMap.get_map
    (fun symbol (s : OrchestratorState) => o.restoreState symbol s.snapshot.raw) o.states symbol

/-- A restart reads every state back from its snapshot, also one that the process
has not stored yet. -/
theorem getOrCreateState_restart (o : LiveSmcOrchestrator) (symbol : Instrument) :
    o.restart.getOrCreateState symbol =
      o.restoreState symbol (o.getOrCreateState symbol).snapshot.raw := by
  rw [LiveSmcOrchestrator.getOrCreateState, getState_restart]
  cases hget : o.getState symbol with
  | none =>
      rw [LiveSmcOrchestrator.getOrCreateState, hget]
      rfl
  | some s =>
      rw [LiveSmcOrchestrator.getOrCreateState, hget]
      rfl

theorem restoreState_pending (o : LiveSmcOrchestrator) (symbol : Instrument)
    (s : OrchestratorState) :
    (o.restoreState symbol s.snapshot.raw).pending = s.pending := by
  simp [LiveSmcOrchestrator.restoreState, StateSnapshot.raw, OrchestratorState.snapshot]

/-!
# Moves of a symbol's state
-/

inductive StateMove (env : EngineEnv) (o : LiveSmcOrchestrator) (symbol : Instrument) :
    OrchestratorOp -> OrchestratorState -> Prop where
  | untouched {op : OrchestratorOp} : StateMove env o symbol op (o.getOrCreateState symbol)
  | evaluated {b : CandleBundle} {ctx : LiveContext} {pre : Option PrecomputedIndicators}
      {cursor : Option (Cursor b)} {cfg : SmcPairConfig} {lastM15 : BacktestCandle}
      (hcfg : getSmcPairConfig env.overrides symbol = some cfg) :
      StateMove env o symbol (.evaluate symbol b ctx pre cursor)
        (evaluateState env symbol cfg
          (makeFrame b (callIndicators env b pre) (cursor.getD (Cursor.full b)) lastM15) ctx
          (o.getOrCreateState symbol)).1
  | entered (h1SweepTime : Int) :
      StateMove env o symbol (.recordEntry symbol h1SweepTime)
        ((o.getOrCreateState symbol).recordEntry h1SweepTime)
  | exited {cfg : SmcPairConfig} (exitReason : ExitKind) (exitTime : Int) (pnl : Option ℚ) :
      StateMove env o symbol (.recordExit symbol exitReason exitTime pnl)
        ((o.getOrCreateState symbol).recordExit cfg exitReason exitTime pnl)
  | restarted :
      StateMove env o symbol .restart
        (o.restoreState symbol (o.getOrCreateState symbol).snapshot.raw)

theorem evaluateAt_getOrCreateState_of_ne (env : EngineEnv) (o : LiveSmcOrchestrator)
    {symbol other : Instrument} (hne : other ≠ symbol) (b : CandleBundle)
    (ctx : LiveContext) (pre : Option PrecomputedIndicators) (cursor : Cursor b) :
    (evaluateAt env o symbol b ctx pre cursor).1.getOrCreateState other =
      o.getOrCreateState other := by
  unfold evaluateAt
  split_ifs
  · rfl
  · split
    · rfl
    · dsimp only
      split
      · exact o.getOrCreateState_setState_of_ne _ hne
      · exact o.getOrCreateState_setState_of_ne _ hne

theorem orchestratorStep_move (env : EngineEnv) (o : LiveSmcOrchestrator) (op : OrchestratorOp)
    (symbol : Instrument) :
    StateMove env o symbol op ((orchestratorStep env o op).getOrCreateState symbol) := by
  cases op with
  | evaluate called b ctx pre cursor =>
      simp only [orchestratorStep, evaluate]
      by_cases hne : symbol = called
      · subst hne
        unfold evaluateAt
        split_ifs
        · exact .untouched
        · split
          · exact .untouched
          · next cfg hcfg =>
              dsimp only
              split
              · rw [o.getOrCreateState_setState]
                exact .untouched
              · rw [o.getOrCreateState_setState]
                exact .evaluated hcfg
      · rw [evaluateAt_getOrCreateState_of_ne env o hne]
        exact .untouched
  | recordEntry called t =>
      simp only [orchestratorStep, LiveSmcOrchestrator.recordEntry]
      by_cases hne : symbol = called
      · subst hne
        rw [o.getOrCreateState_setState]
        exact .entered t
      · rw [o.getOrCreateState_setState_of_ne _ hne]
        exact .untouched
  | recordExit called kind t pnl =>
      simp only [orchestratorStep, LiveSmcOrchestrator.recordExit]
      by_cases hne : symbol = called
      · subst hne
        split
        · rw [o.getOrCreateState_setState]
          exact .untouched
        · rw [o.getOrCreateState_setState]
          exact .exited kind t pnl
      · split
        · rw [o.getOrCreateState_setState_of_ne _ hne]
          exact .untouched
        · rw [o.getOrCreateState_setState_of_ne _ hne]
          exact .untouched
  | restart =>
      rw [orchestratorStep, getOrCreateState_restart]
      exact .restarted

/-!
# Returned signals
-/

theorem fireLoop_fired {judgeOf : PendingSetup -> Verdict} {queue : List PendingSetup}
    {signal : SmcLiveSignal} (h : (fireLoop judgeOf queue).2 = .ok (some signal)) :
    exists setup, setup ∈ queue ∧ judgeOf setup = .fire signal := by
  induction queue with
  | nil =>
      simp [fireLoop] at h
  | cons setup older ih =>
      cases hjudge : judgeOf setup with
      | keep =>
          simp only [fireLoop, hjudge] at h
          rcases ih h with ⟨found, hmem, hfire⟩
          exact ⟨found, List.mem_cons_of_mem setup hmem, hfire⟩
      | drop =>
          simp only [fireLoop, hjudge] at h
          rcases ih h with ⟨found, hmem, hfire⟩
          exact ⟨found, List.mem_cons_of_mem setup hmem, hfire⟩
      | fire found =>
          simp only [fireLoop, hjudge, Except.ok.injEq, Option.some.injEq] at h
          exact ⟨setup, List.mem_cons_self, by rw [hjudge, h]⟩
      | throw e =>
          simp [fireLoop, hjudge] at h

theorem gateStep_actionedSweeps_fired {env : EngineEnv} {symbol : Instrument}
    {cfg : SmcPairConfig} {f : Frame} {ctx : LiveContext} {s : OrchestratorState}
    {signal : SmcLiveSignal} (h : (gateStep env symbol cfg f ctx s).2 = .ok (some signal)) :
    exists setup, judge env symbol cfg f ctx s.actionedSweeps setup = .fire signal := by
  unfold gateStep at h
  dsimp only at h
  split_ifs at h
  · cases h
  · cases h
  · rcases fireLoop_fired h with ⟨setup, -, hfire⟩
    exact ⟨setup, hfire⟩
  · cases h

theorem detectStep_actionedSweeps (cfg : SmcPairConfig) (f : Frame) (s : OrchestratorState) :
    (detectStep cfg f s).actionedSweeps = s.actionedSweeps := by
  unfold detectStep
  dsimp only
  split
  · rfl
  · split_ifs <;> rfl

def FiredFrom (env : EngineEnv) (o : LiveSmcOrchestrator) (symbol : Instrument)
    (b : CandleBundle) (ctx : LiveContext) (precomputed : Option PrecomputedIndicators)
    (cursor : Option (Cursor b)) (signal : SmcLiveSignal) (p : EntryPlan) : Prop :=
  exists cfg lastM15 setup,
    getSmcPairConfig env.overrides symbol = some cfg ∧
    b.m15[(cursor.getD (Cursor.full b)).m15 - 1]? = some lastM15 ∧
    let f := makeFrame b (callIndicators env b precomputed) (cursor.getD (Cursor.full b)) lastM15
    judge env symbol cfg f ctx (o.getOrCreateState symbol).actionedSweeps setup =
      .fire signal ∧ p = planEntry symbol cfg f setup

theorem evaluate_fired {env : EngineEnv} {o : LiveSmcOrchestrator} {symbol : Instrument}
    {b : CandleBundle} {ctx : LiveContext} {precomputed : Option PrecomputedIndicators}
    {cursor : Option (Cursor b)} {signal : SmcLiveSignal}
    (h : (evaluate env o symbol b ctx precomputed cursor).2 = .ok (some signal)) :
    exists p, FiredFrom env o symbol b ctx precomputed cursor signal p := by
  unfold evaluate evaluateAt at h
  split_ifs at h with hguard
  · cases h
  · split at h
    · cases h
    · next cfg hcfg =>
        dsimp only at h
        split at h
        · cases h
        · next lastM15 hlast =>
            rcases gateStep_actionedSweeps_fired h with ⟨setup, hfire⟩
            have hact := detectStep_actionedSweeps cfg
              (makeFrame b (callIndicators env b precomputed)
                (cursor.getD (Cursor.full b)) lastM15) (o.getOrCreateState symbol)
            refine ⟨_, cfg, lastM15, setup, hcfg, hlast, ?_, rfl⟩
            rw [← hact]
            exact hfire

/-- Everything that the setup of a fired signal has passed. -/
structure JudgeFired (env : EngineEnv) (symbol : Instrument) (cfg : SmcPairConfig) (f : Frame)
    (ctx : LiveContext) (actionedSweeps : List Int) (setup : PendingSetup)
    (signal : SmcLiveSignal) : Prop where
  side_free : setup.direction ∉ ctx.openDirections
  unactioned : setup.sweepTime ∉ actionedSweeps
  slPoints_pos : 0 < (planEntry symbol cfg f setup).slPoints
  protective : SlProtective setup (planEntry symbol cfg f setup)
  lot_large : ¬ LotTooSmall cfg (totalLotOf env symbol cfg ctx setup (planEntry symbol cfg f setup))
  built : exists gates, signal =
    buildSignal symbol cfg f setup (planEntry symbol cfg f setup) gates
      (totalLotOf env symbol cfg ctx setup (planEntry symbol cfg f setup))

theorem judge_fired {env : EngineEnv} {symbol : Instrument} {cfg : SmcPairConfig}
    {f : Frame} {ctx : LiveContext} {actioned : List Int} {setup : PendingSetup}
    {signal : SmcLiveSignal} (h : judge env symbol cfg f ctx actioned setup = .fire signal) :
    JudgeFired env symbol cfg f ctx actioned setup signal := by
  unfold judge at h
  dsimp only at h
  split_ifs at h with hside hactioned hsl hloose hprot hwide
  unfold sizeAndFire at h
  split at h
  · cases h
  · cases h
  · next gates hgates =>
      dsimp only at h
      split_ifs at h with hsmall
      cases h
      exact
        { side_free := hside
          unactioned := hactioned
          slPoints_pos := not_le.mp hsl
          protective := hprot
          lot_large := hsmall
          built := ⟨gates, rfl⟩ }

theorem evaluate_signal_shape {env : EngineEnv} {o : LiveSmcOrchestrator} {symbol : Instrument}
    {b : CandleBundle} {ctx : LiveContext} {precomputed : Option PrecomputedIndicators}
    {cursor : Option (Cursor b)} {signal : SmcLiveSignal}
    (h : (evaluate env o symbol b ctx precomputed cursor).2 = .ok (some signal)) :
    signal.symbol = symbol ∧ (signal.legs.length = 1 ∨ signal.legs.length = 2) := by
  rcases evaluate_fired h with ⟨p, cfg, lastM15, setup, -, -, hfire, -⟩
  rcases (judge_fired hfire).built with ⟨gates, rfl⟩
  refine ⟨rfl, ?_⟩
  unfold buildSignal
  dsimp only
  split_ifs
  · exact Or.inr rfl
  · exact Or.inl rfl

theorem evaluate_fired_lt_cap {env : EngineEnv} {o : LiveSmcOrchestrator} {symbol : Instrument}
    {b : CandleBundle} {ctx : LiveContext} {precomputed : Option PrecomputedIndicators}
    {cursor : Option (Cursor b)} {signal : SmcLiveSignal}
    (h : (evaluate env o symbol b ctx precomputed cursor).2 = .ok (some signal)) :
    ctx.totalOpenPositions <
      (o.getOrCreateState symbol).riskManager.config.maxOpenPositions := by
  unfold evaluate evaluateAt at h
  split_ifs at h with hguard
  · cases h
  · split at h
    · cases h
    · next cfg hcfg =>
        dsimp only at h
        split at h
        · cases h
        · unfold evaluateState gateStep at h
          dsimp only at h
          split_ifs at h with hcool hclosed hgate
          · cases h
          · cases h
          · have hlt := RiskManager.canTrade_lt_cap hgate
            rw [show (expireStep _ (detectStep cfg _ (o.getOrCreateState symbol))).riskManager =
              (o.getOrCreateState symbol).riskManager from detectStep_riskManager cfg _ _] at hlt
            exact hlt
          · cases h

theorem StateMove.riskManager_config {env : EngineEnv} {o : LiveSmcOrchestrator}
    {symbol : Instrument} {op : OrchestratorOp} {s : OrchestratorState}
    (h : StateMove env o symbol op s) (hop : op ≠ .restart) :
    s.riskManager.config = (o.getOrCreateState symbol).riskManager.config := by
  cases h with
  | untouched =>
      rfl
  | evaluated hcfg =>
      exact congrArg RiskManager.Ledger.config (evaluateState_ledger env symbol _ _ _ _)
  | entered t =>
      rfl
  | exited kind t pnl =>
      cases pnl with
      | none =>
          rfl
      | some p =>
          exact congrArg RiskManager.Ledger.config (RiskManager.recordTrade_ledger _ p t _)
  | restarted =>
      exact absurd rfl hop

end Orchestrator
end Shamarx
