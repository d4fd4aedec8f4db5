import Shamarx.Orchestrator.EnteredSweeps

/-!
# The cooldown after a stop

An evaluation takes one bar off the cooldown, and an exit never shortens it.  An entry
sets it to one bar, so it is the only call that can.
-/

namespace Shamarx
namespace Orchestrator

open Foundation
open Engine

def LiveSmcOrchestrator.cooldown (o : LiveSmcOrchestrator) (symbol : Instrument) : Nat :=
  (o.getOrCreateState symbol).cooldownBarsRemaining

def IsEvaluate (symbol : Instrument) : OrchestratorOp -> Bool
  | .evaluate called .. => decide (called = symbol)
  | _ => false

def evaluations (symbol : Instrument) (calls : List OrchestratorOp) : Nat :=
  calls.countP (IsEvaluate symbol)

/-- No entry is recorded while more than one bar of the cooldown is left. -/
def KeepsCooldown (symbol : Instrument) (o : LiveSmcOrchestrator) : OrchestratorOp -> Prop
  | .recordEntry called _ => called = symbol -> o.cooldown symbol ≤ 1
  | _ => True

/-!
# One call
-/

theorem gateStep_cooldown (env : EngineEnv) (symbol : Instrument) (cfg : SmcPairConfig)
    (f : Frame) (ctx : LiveContext) (s : OrchestratorState) :
    (gateStep env symbol cfg f ctx s).1.cooldownBarsRemaining = s.cooldownBarsRemaining - 1 := by
  unfold gateStep fireStep
  dsimp only
  split_ifs with hcooldown
  · rfl
  all_goals
    have hzero : s.cooldownBarsRemaining = 0 := by omega
    simp only [hzero]

theorem detectStep_cooldown (cfg : SmcPairConfig) (f : Frame) (s : OrchestratorState) :
    (detectStep cfg f s).cooldownBarsRemaining = s.cooldownBarsRemaining := by
  unfold detectStep
  dsimp only
  split
  · rfl
  · split_ifs <;> rfl

theorem evaluateState_cooldown (env : EngineEnv) (symbol : Instrument) (cfg : SmcPairConfig)
    (f : Frame) (ctx : LiveContext) (s : OrchestratorState) :
    (evaluateState env symbol cfg f ctx s).1.cooldownBarsRemaining =
      s.cooldownBarsRemaining - 1 := by
  rw [evaluateState, gateStep_cooldown]
  exact congrArg (fun n => n - 1) (detectStep_cooldown cfg f s)

theorem evaluateState_of_cooldown {env : EngineEnv} {symbol : Instrument} {cfg : SmcPairConfig}
    {f : Frame} {ctx : LiveContext} {s : OrchestratorState} (h : 0 < s.cooldownBarsRemaining) :
    (evaluateState env symbol cfg f ctx s).2 = .ok none := by
  have hcooldown : 0 < (expireStep f (detectStep cfg f s)).cooldownBarsRemaining := by
    rw [show (expireStep f (detectStep cfg f s)).cooldownBarsRemaining = _ from
      detectStep_cooldown cfg f s]
    exact h
  rw [evaluateState, gateStep, if_pos hcooldown]

theorem evaluate_of_cooldown {env : EngineEnv} {o : LiveSmcOrchestrator} {symbol : Instrument}
    {cfg : SmcPairConfig} (hcfg : getSmcPairConfig env.overrides symbol = some cfg)
    (h : 0 < o.cooldown symbol) (b : CandleBundle) (ctx : LiveContext)
    (precomputed : Option PrecomputedIndicators) (cursor : Option (Cursor b)) :
    (evaluate env o symbol b ctx precomputed cursor).2 = .ok none := by
  rw [evaluate]
  by_cases hguard : (cursor.getD (Cursor.full b)).m15 < 30 ∨ (cursor.getD (Cursor.full b)).h1 < 30
  · rw [evaluateAt, if_pos hguard]
  · have hm15 : 30 ≤ (cursor.getD (Cursor.full b)).m15 := by omega
    have hh1 : 30 ≤ (cursor.getD (Cursor.full b)).h1 := by omega
    rcases evaluateAt_of_guard o ctx precomputed hm15 hh1 hcfg with ⟨lastM15, f, -, -, heval⟩
    rw [heval]
    exact evaluateState_of_cooldown h

theorem cooldown_step (env : EngineEnv) (o : LiveSmcOrchestrator) (symbol : Instrument)
    {op : OrchestratorOp} (hkeeps : KeepsCooldown symbol o op) :
    o.cooldown symbol ≤
      (orchestratorStep env o op).cooldown symbol + evaluations symbol [op] := by
  unfold LiveSmcOrchestrator.cooldown
  have hmove := orchestratorStep_move env o op symbol
  generalize (orchestratorStep env o op).getOrCreateState symbol = s at hmove
  cases hmove with
  | untouched =>
      exact Nat.le_add_right _ _
  | evaluated hcfg =>
      rw [evaluateState_cooldown]
      simp only [evaluations, IsEvaluate, List.countP_singleton, decide_true, if_true]
      omega
  | entered t =>
      exact le_trans (hkeeps rfl) (Nat.le_add_right _ _)
  | exited kind t pnl =>
      exact le_trans (le_max_left _ _) (Nat.le_add_right _ _)
  | restarted =>
      exact Nat.le_add_right _ _

/-!
# Whole runs
-/

theorem cooldown_run (env : EngineEnv) (symbol : Instrument) {o : LiveSmcOrchestrator}
    {calls : List OrchestratorOp}
    (hkeeps : EveryStep (orchestratorStep env) (KeepsCooldown symbol) o calls) :
    o.cooldown symbol ≤
      (runFrom (orchestratorStep env) o calls).cooldown symbol + evaluations symbol calls := by
  induction calls generalizing o with
  | nil =>
      exact Nat.le_add_right _ _
  | cons op rest ih =>
      have hstep := cooldown_step env o symbol hkeeps.1
      have hrest := ih hkeeps.2
      have hcount : evaluations symbol (op :: rest) =
          evaluations symbol [op] + evaluations symbol rest := by
        unfold evaluations
        rw [<- List.countP_append, List.singleton_append]
      rw [runFrom_cons, hcount]
      omega

theorem cooldown_recordExit {env : EngineEnv} (o : LiveSmcOrchestrator) {symbol : Instrument}
    {cfg : SmcPairConfig} (hcfg : getSmcPairConfig env.overrides symbol = some cfg)
    (kind : ExitKind) (t : Int) (pnl : Option ℚ) :
    exitCooldownBars cfg kind ≤
      (orchestratorStep env o (.recordExit symbol kind t pnl)).cooldown symbol := by
  rw [LiveSmcOrchestrator.cooldown, orchestratorStep, LiveSmcOrchestrator.recordExit, hcfg]
  dsimp only
  rw [o.getOrCreateState_setState]
  exact le_max_right _ _

/-- After a stop, as many evaluations as its cooldown has bars return nothing, whatever is
called in between, as long as no entry is recorded in the cooldown. -/
theorem stop_cooldown_holds (env : EngineEnv) (o : LiveSmcOrchestrator) (symbol : Instrument)
    (cfg : SmcPairConfig) (hcfg : getSmcPairConfig env.overrides symbol = some cfg) (t : Int)
    (pnl : Option ℚ) (later : List OrchestratorOp)
    (hkeeps : EveryStep (orchestratorStep env) (KeepsCooldown symbol)
      (orchestratorStep env o (.recordExit symbol .sl t pnl)) later)
    (hfew : evaluations symbol later < cfg.slCooldownBars) (b : CandleBundle) (ctx : LiveContext)
    (precomputed : Option PrecomputedIndicators) (cursor : Option (Cursor b)) :
    (evaluate env
      (runFrom (orchestratorStep env) (orchestratorStep env o (.recordExit symbol .sl t pnl))
        later) symbol b ctx precomputed cursor).2 = .ok none := by
  apply evaluate_of_cooldown hcfg
  have hexit : cfg.slCooldownBars ≤ _ := cooldown_recordExit o hcfg .sl t pnl
  have hrun := cooldown_run env symbol hkeeps
  omega

/-- A stop of gold and one evaluation after it. -/
theorem gold_stop_cools_down :
    (evaluate documentedEnv
      (runFrom (orchestratorStep documentedEnv)
        (orchestratorStep documentedEnv (LiveSmcOrchestrator.create standardRiskCfg)
          (.recordExit .XAUUSD .sl goldStart (some (-100))))
        [.evaluate .XAUUSD (twoWickWindow 60 0) goldContext none none])
      .XAUUSD (twoWickWindow 61 0) goldContext none none).2 = .ok none :=
  stop_cooldown_holds documentedEnv (LiveSmcOrchestrator.create standardRiskCfg) .XAUUSD
    xauusdSmcConfig rfl goldStart (some (-100))
    [.evaluate .XAUUSD (twoWickWindow 60 0) goldContext none none] ⟨trivial, trivial⟩
    (by decide) (twoWickWindow 61 0) goldContext none none

/-- The stop is reported while the orders of the first sweep are placed. -/
def stopWhilePlacing : List OrchestratorOp :=
  [.evaluate .XAUUSD (twoWickWindow 60 0) goldContext none none,
    .recordExit .XAUUSD .sl (goldStart + 60 * msPerHour) (some (-100))]

def entryAfterStop : List OrchestratorOp :=
  [.recordEntry .XAUUSD (goldStart + 58 * msPerHour),
    .evaluate .XAUUSD (twoWickWindow 61 0) goldContext none none]

set_option maxRecDepth 20000 in
/-- The entry that is recorded after the stop cuts its four bars to one, and the second
evaluation returns a signal. -/
theorem entry_cuts_stop_cooldown :
    evaluations .XAUUSD entryAfterStop < xauusdSmcConfig.slCooldownBars ∧
      exists signal,
        (evaluate documentedEnv
          (runFrom (orchestratorStep documentedEnv)
            (LiveSmcOrchestrator.create standardRiskCfg) (stopWhilePlacing ++ entryAfterStop))
          .XAUUSD (twoWickWindow 64 0) goldContext none none).2 = .ok (some signal) := by
  refine ⟨by decide, ?_⟩
  have hfires : firesSweepOf (evaluate documentedEnv
      (runFrom (orchestratorStep documentedEnv)
        (LiveSmcOrchestrator.create standardRiskCfg) (stopWhilePlacing ++ entryAfterStop)) .XAUUSD
      (twoWickWindow 64 0) goldContext none none).2 = some (goldStart + 62 * msPerHour) := by
    decide +kernel
  rcases firesSweepOf_eq_some hfires with ⟨signal, hsignal, -⟩
  exact ⟨signal, hsignal⟩

end Orchestrator
end Shamarx
