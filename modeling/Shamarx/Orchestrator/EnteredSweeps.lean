import Shamarx.Orchestrator.Calls

/-!
# Entered sweeps

A sweep whose entry was recorded stays in the dedup set of its symbol through
every later call, restarts included, and the pass over the queue fires no setup
of that set.
-/

namespace Shamarx
namespace Orchestrator

open Foundation
open Engine

/-!
# The dedup set
-/

theorem mem_addSweep_self (sweeps : List Int) (t : Int) : t ∈ addSweep sweeps t := by
  unfold addSweep
  split_ifs with h
  · exact h
  · simp

theorem mem_addSweep_of_mem {sweeps : List Int} {t : Int} (h : t ∈ sweeps) (added : Int) :
    t ∈ addSweep sweeps added := by
  unfold addSweep
  split_ifs
  · exact h
  · exact List.mem_append_left _ h

theorem mem_foldl_addSweep_of_mem {seen : List Int} {t : Int} (h : t ∈ seen)
    (sweeps : List Int) : t ∈ sweeps.foldl addSweep seen := by
  induction sweeps generalizing seen with
  | nil =>
      exact h
  | cons added rest ih =>
      exact ih (mem_addSweep_of_mem h added)

theorem mem_foldl_addSweep {sweeps : List Int} {t : Int} (h : t ∈ sweeps)
    (seen : List Int) : t ∈ sweeps.foldl addSweep seen := by
  induction sweeps generalizing seen with
  | nil =>
      cases h
  | cons added rest ih =>
      cases h with
      | head =>
          exact mem_foldl_addSweep_of_mem (mem_addSweep_self seen t) rest
      | tail _ hrest =>
          exact ih hrest (addSweep seen added)

theorem gateStep_actionedSweeps (env : EngineEnv) (symbol : Instrument) (cfg : SmcPairConfig)
    (f : Frame) (ctx : LiveContext) (s : OrchestratorState) :
    (gateStep env symbol cfg f ctx s).1.actionedSweeps = s.actionedSweeps := by
  unfold gateStep
  dsimp only
  split_ifs <;> rfl

theorem evaluateState_actionedSweeps (env : EngineEnv) (symbol : Instrument)
    (cfg : SmcPairConfig) (f : Frame) (ctx : LiveContext) (s : OrchestratorState) :
    (evaluateState env symbol cfg f ctx s).1.actionedSweeps = s.actionedSweeps := by
  unfold evaluateState
  rw [gateStep_actionedSweeps]
  exact detectStep_actionedSweeps cfg f s

/-!
# One call
-/

theorem StateMove.keeps_actioned {env : EngineEnv} {o : LiveSmcOrchestrator}
    {symbol : Instrument} {op : OrchestratorOp} {s : OrchestratorState}
    (hmove : StateMove env o symbol op s) {t : Int}
    (h : t ∈ (o.getOrCreateState symbol).actionedSweeps) : t ∈ s.actionedSweeps := by
  cases hmove with
  | untouched =>
      exact h
  | evaluated hcfg =>
      rw [evaluateState_actionedSweeps]
      exact h
  | entered h1SweepTime =>
      exact mem_addSweep_of_mem h h1SweepTime
  | exited exitReason exitTime pnl =>
      exact h
  | restarted =>
      exact mem_foldl_addSweep h []

theorem recordEntry_actioned (env : EngineEnv) (o : LiveSmcOrchestrator)
    (symbol : Instrument) (t : Int) :
    t ∈ ((orchestratorStep env o (.recordEntry symbol t)).getOrCreateState
      symbol).actionedSweeps := by
  rw [orchestratorStep, LiveSmcOrchestrator.recordEntry,
    LiveSmcOrchestrator.getOrCreateState_setState]
  exact mem_addSweep_self _ t

theorem judge_fire_unactioned {env : EngineEnv} {symbol : Instrument} {cfg : SmcPairConfig}
    {f : Frame} {ctx : LiveContext} {actionedSweeps : List Int} {setup : PendingSetup}
    {signal : SmcLiveSignal}
    (h : judge env symbol cfg f ctx actionedSweeps setup = .fire signal) :
    signal.h1SweepTime ∉ actionedSweeps := by
  have hfired := judge_fired h
  rcases hfired.built with ⟨gates, rfl⟩
  exact hfired.unactioned

/-!
# Whole runs
-/

theorem actioned_of_entered (env : EngineEnv) (o : LiveSmcOrchestrator) {symbol : Instrument}
    {t : Int} {calls : List OrchestratorOp}
    (hentry : OrchestratorOp.recordEntry symbol t ∈ calls) :
    t ∈ ((runFrom (orchestratorStep env) o calls).getOrCreateState symbol).actionedSweeps := by
  rcases List.mem_iff_append.mp hentry with ⟨front, back, rfl⟩
  rw [runFrom_append, runFrom_cons]
  apply runFrom_inv (fun o : LiveSmcOrchestrator =>
    t ∈ (o.getOrCreateState symbol).actionedSweeps)
  · intro o op h
    exact (orchestratorStep_move env o op symbol).keeps_actioned h
  · exact recordEntry_actioned env _ symbol t

/-- After any calls on any orchestrator, no signal that an evaluation returns
carries a sweep time whose entry was recorded in one of these calls. -/
theorem entered_sweep_never_fires (env : EngineEnv) (o : LiveSmcOrchestrator)
    (symbol : Instrument) (t : Int) (calls : List OrchestratorOp)
    (hentry : OrchestratorOp.recordEntry symbol t ∈ calls) (b : CandleBundle)
    (ctx : LiveContext) (precomputed : Option PrecomputedIndicators)
    (cursor : Option (Cursor b)) (signal : SmcLiveSignal)
    (hsignal : (evaluate env (runFrom (orchestratorStep env) o calls) symbol b ctx
      precomputed cursor).2 = .ok (some signal)) :
    signal.h1SweepTime ≠ t := by
  rcases evaluate_fired hsignal with ⟨p, cfg, lastM15, setup, -, -, hfire, -⟩
  have hactioned := actioned_of_entered env o hentry
  intro hsame
  rw [← hsame] at hactioned
  exact judge_fire_unactioned hfire hactioned

/-- The first sweep of gold is entered; after a restart and the cooldown the
second one fires. -/
def firstSweepEntered : List OrchestratorOp :=
  [.evaluate .XAUUSD (twoWickWindow 60 0) goldContext none none,
    .recordEntry .XAUUSD (goldStart + 58 * msPerHour), .restart,
    .evaluate .XAUUSD (twoWickWindow 61 0) goldContext none none]

def firesSweepOf (out : Except EngineError (Option SmcLiveSignal)) : Option Int :=
  match out with
  | .ok (some signal) => some signal.h1SweepTime
  | _ => none

theorem firesSweepOf_eq_some {out : Except EngineError (Option SmcLiveSignal)} {t : Int}
    (h : firesSweepOf out = some t) :
    exists signal, out = .ok (some signal) ∧ signal.h1SweepTime = t := by
  unfold firesSweepOf at h
  split at h
  · next signal =>
      cases h
      exact ⟨signal, rfl, rfl⟩
  · cases h

set_option maxRecDepth 20000 in
theorem second_sweep_fires_after_entry :
    exists signal,
      (evaluate documentedEnv (runFrom (orchestratorStep documentedEnv)
          (LiveSmcOrchestrator.create standardRiskCfg) firstSweepEntered) .XAUUSD
        (twoWickWindow 64 0) goldContext none none).2 = .ok (some signal) ∧
      signal.h1SweepTime = goldStart + 62 * msPerHour ∧
      signal.h1SweepTime ≠ goldStart + 58 * msPerHour := by
  have hfires : firesSweepOf (evaluate documentedEnv
      (runFrom (orchestratorStep documentedEnv)
        (LiveSmcOrchestrator.create standardRiskCfg) firstSweepEntered) .XAUUSD
      (twoWickWindow 64 0) goldContext none none).2 = some (goldStart + 62 * msPerHour) := by
    decide +kernel
  rcases firesSweepOf_eq_some hfires with ⟨signal, hsignal, htime⟩
  exact ⟨signal, hsignal, htime, entered_sweep_never_fires documentedEnv _ .XAUUSD _
    firstSweepEntered (by simp [firstSweepEntered]) _ _ _ _ signal hsignal⟩

end Orchestrator
end Shamarx
