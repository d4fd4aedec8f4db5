import Shamarx.Engine.KeptLog
import Shamarx.Orchestrator.EnteredSweeps

/-!
# Restarts and what calls return

A restart restores every field of a state but the front of the risk manager's
trade log.  Where no forgotten loss can still count, the restored orchestrator
answers every later call as the old one would.
-/

namespace Shamarx
namespace Orchestrator

open Foundation
open Engine

/-!
# Outputs
-/

def gateAsked (cfg : SmcPairConfig) (f : Frame) (ctx : LiveContext) (s : OrchestratorState) :
    Option Bool :=
  if 0 < s.cooldownBarsRemaining then none
  else if EntryClosed cfg f.lastM15.openTime then none
  else some (s.riskManager.canTrade f.lastM15.openTime ctx.totalOpenPositions).2

def evaluateAsked (env : EngineEnv) (o : LiveSmcOrchestrator) (symbol : Instrument)
    (b : CandleBundle) (ctx : LiveContext) (precomputed : Option PrecomputedIndicators)
    (cursor : Cursor b) : Option Bool :=
  if cursor.m15 < 30 ∨ cursor.h1 < 30 then none
  else
    match getSmcPairConfig env.overrides symbol with
    | none => none
    | some cfg =>
        match b.m15[cursor.m15 - 1]? with
        | none => none
        | some lastM15 =>
            let frame := makeFrame b (callIndicators env b precomputed) cursor lastM15
            gateAsked cfg frame ctx
              (expireStep frame (detectStep cfg frame (o.getOrCreateState symbol)))

inductive CallOutput where
  | evaluated (returned : Except EngineError (Option SmcLiveSignal)) (mayTrade : Option Bool)
  | entered
  | exited (result : Except EngineError Unit)
  | restarted

def callOutput (env : EngineEnv) (o : LiveSmcOrchestrator) : OrchestratorOp -> CallOutput
  | .evaluate symbol b ctx precomputed cursor =>
      .evaluated (evaluate env o symbol b ctx precomputed cursor).2
        (evaluateAsked env o symbol b ctx precomputed (cursor.getD (Cursor.full b)))
  | .recordEntry _ _ => .entered
  | .recordExit symbol exitReason exitTime pnl =>
      .exited (LiveSmcOrchestrator.recordExit env o symbol exitReason exitTime pnl).2
  | .restart => .restarted

def outputs (env : EngineEnv) (o : LiveSmcOrchestrator) (calls : List OrchestratorOp) :
    List CallOutput :=
  outputsFrom (orchestratorStep env) (callOutput env) o calls

def callDay : OrchestratorOp -> Option (Instrument × Int)
  | .evaluate symbol b _ _ cursor =>
      b.m15[(cursor.getD (Cursor.full b)).m15 - 1]?.map fun lastM15 =>
        (symbol, dayOf lastM15.openTime)
  | _ => none

def EvaluatedOn (calls : List OrchestratorOp) (symbol : Instrument) (day : Int) : Prop :=
  exists op, op ∈ calls ∧ callDay op = some (symbol, day)

/-- Every manager is hard-killed, or the losses a snapshot forgets are outlived on
the days of the calls. -/
def ForgetsNothing (o : LiveSmcOrchestrator) (calls : List OrchestratorOp) : Prop :=
  forall symbol,
    (o.getOrCreateState symbol).riskManager.hardKilled = true ∨
      RiskManager.Outlived (EvaluatedOn calls symbol)
        (o.getOrCreateState symbol).riskManager.forgottenLog
        (o.getOrCreateState symbol).riskManager.keptLog

def IsRestart : OrchestratorOp -> Prop
  | .restart => True
  | _ => False

/-!
# States with a cut log
-/

def StateCut (days : Int -> Prop) (s cut : OrchestratorState) : Prop :=
  exists rm, RiskManager.LogCut days s.riskManager rm ∧ cut = { s with riskManager := rm }

theorem detectStep_withManager (cfg : SmcPairConfig) (f : Frame) (s : OrchestratorState)
    (rm : RiskManager) :
    detectStep cfg f { s with riskManager := rm } =
      { detectStep cfg f s with riskManager := rm } := by
  unfold detectStep
  dsimp only
  split
  · rfl
  · split_ifs <;> rfl

theorem StateCut.prepared {days : Int -> Prop} {s cut : OrchestratorState}
    (h : StateCut days s cut) (cfg : SmcPairConfig) (f : Frame) :
    StateCut days (expireStep f (detectStep cfg f s)) (expireStep f (detectStep cfg f cut)) := by
  rcases h with ⟨rm, hcut, rfl⟩
  refine ⟨rm, ?_, ?_⟩
  · have hsame : (expireStep f (detectStep cfg f s)).riskManager = s.riskManager :=
      detectStep_riskManager cfg f s
    rw [hsame]
    exact hcut
  · rw [detectStep_withManager]
    rfl

theorem StateCut.gateAsked {days : Int -> Prop} {s cut : OrchestratorState}
    (h : StateCut days s cut) (cfg : SmcPairConfig) (f : Frame)
    (hday : days (dayOf f.lastM15.openTime)) (ctx : LiveContext) :
    gateAsked cfg f ctx cut = gateAsked cfg f ctx s := by
  rcases h with ⟨rm, hcut, rfl⟩
  unfold Orchestrator.gateAsked
  dsimp only
  rw [(hcut.canTrade hday ctx.totalOpenPositions).1]

theorem StateCut.gateStep {days : Int -> Prop} {s cut : OrchestratorState}
    (h : StateCut days s cut) (env : EngineEnv) (symbol : Instrument) (cfg : SmcPairConfig)
    (f : Frame) (hday : days (dayOf f.lastM15.openTime)) (ctx : LiveContext) :
    (gateStep env symbol cfg f ctx cut).2 = (gateStep env symbol cfg f ctx s).2 ∧
      StateCut days (gateStep env symbol cfg f ctx s).1 (gateStep env symbol cfg f ctx cut).1 := by
  rcases h with ⟨rm, hcut, rfl⟩
  rcases hcut.canTrade hday ctx.totalOpenPositions with ⟨hanswer, hnext⟩
  unfold Orchestrator.gateStep
  dsimp only
  rw [hanswer]
  split_ifs
  · exact ⟨rfl, rm, hcut, rfl⟩
  · exact ⟨rfl, rm, hcut, rfl⟩
  · exact ⟨rfl, _, hnext, rfl⟩
  · exact ⟨rfl, _, hnext, rfl⟩

theorem StateCut.recordEntry {days : Int -> Prop} {s cut : OrchestratorState}
    (h : StateCut days s cut) (t : Int) : StateCut days (s.recordEntry t) (cut.recordEntry t) := by
  rcases h with ⟨rm, hcut, rfl⟩
  exact ⟨rm, hcut, rfl⟩

theorem StateCut.recordExit {days : Int -> Prop} {s cut : OrchestratorState}
    (h : StateCut days s cut) (cfg : SmcPairConfig) (kind : ExitKind) (t : Int)
    (pnl : Option ℚ) :
    StateCut days (s.recordExit cfg kind t pnl) (cut.recordExit cfg kind t pnl) := by
  rcases h with ⟨rm, hcut, rfl⟩
  cases pnl with
  | none =>
      exact ⟨rm, hcut, rfl⟩
  | some p =>
      exact ⟨_, hcut.recordTrade p t (some kind.forRiskManager), rfl⟩

/-!
# Orchestrators with cut logs
-/

def OrchestratorCut (calls : List OrchestratorOp) (o cut : LiveSmcOrchestrator) : Prop :=
  forall symbol, StateCut (EvaluatedOn calls symbol) (o.getOrCreateState symbol)
    (cut.getOrCreateState symbol)

theorem OrchestratorCut.setState {calls : List OrchestratorOp} {o cut : LiveSmcOrchestrator}
    (h : OrchestratorCut calls o cut) {symbol : Instrument} {s t : OrchestratorState}
    (hst : StateCut (EvaluatedOn calls symbol) s t) :
    OrchestratorCut calls (o.setState symbol s) (cut.setState symbol t) := by
  intro other
  by_cases hne : other = symbol
  · subst hne
    rw [o.getOrCreateState_setState, cut.getOrCreateState_setState]
    exact hst
  · rw [o.getOrCreateState_setState_of_ne s hne, cut.getOrCreateState_setState_of_ne t hne]
    exact h other

theorem OrchestratorCut.evaluate {env : EngineEnv} {calls : List OrchestratorOp}
    {o cut : LiveSmcOrchestrator} (h : OrchestratorCut calls o cut) {symbol : Instrument}
    {b : CandleBundle} {ctx : LiveContext} {pre : Option PrecomputedIndicators}
    {cursor : Option (Cursor b)}
    (hmem : OrchestratorOp.evaluate symbol b ctx pre cursor ∈ calls) :
    (callOutput env cut (.evaluate symbol b ctx pre cursor) =
        callOutput env o (.evaluate symbol b ctx pre cursor)) ∧
      OrchestratorCut calls (orchestratorStep env o (.evaluate symbol b ctx pre cursor))
        (orchestratorStep env cut (.evaluate symbol b ctx pre cursor)) := by
  unfold callOutput orchestratorStep Orchestrator.evaluate evaluateAt evaluateAsked
  dsimp only
  split_ifs with hguard
  · exact ⟨rfl, h⟩
  · cases hcfg : getSmcPairConfig env.overrides symbol with
    | none =>
        exact ⟨rfl, h⟩
    | some cfg =>
        cases hlast : b.m15[(cursor.getD (Cursor.full b)).m15 - 1]? with
        | none =>
            exact ⟨rfl, h.setState (h symbol)⟩
        | some lastM15 =>
            have hday : EvaluatedOn calls symbol (dayOf lastM15.openTime) :=
              ⟨_, hmem, by rw [callDay, hlast]; rfl⟩
            let f := makeFrame b (callIndicators env b pre) (cursor.getD (Cursor.full b)) lastM15
            have hprepared := (h symbol).prepared cfg f
            rcases hprepared.gateStep env symbol cfg f hday ctx with ⟨hout, hnext⟩
            have hasked := hprepared.gateAsked cfg f hday ctx
            exact ⟨congrArg₂ CallOutput.evaluated hout hasked, h.setState hnext⟩

theorem OrchestratorCut.step {env : EngineEnv} {calls : List OrchestratorOp}
    {o cut : LiveSmcOrchestrator} (h : OrchestratorCut calls o cut) {op : OrchestratorOp}
    (hmem : op ∈ calls) (hlive : ¬ IsRestart op) :
    callOutput env cut op = callOutput env o op ∧
      OrchestratorCut calls (orchestratorStep env o op) (orchestratorStep env cut op) := by
  cases op with
  | evaluate symbol b ctx pre cursor =>
      exact h.evaluate hmem
  | recordEntry symbol t =>
      exact ⟨rfl, h.setState ((h symbol).recordEntry t)⟩
  | recordExit symbol kind t pnl =>
      unfold callOutput orchestratorStep LiveSmcOrchestrator.recordExit
      dsimp only
      split
      · exact ⟨rfl, h.setState (h symbol)⟩
      · next cfg hcfg =>
          exact ⟨rfl, h.setState ((h symbol).recordExit cfg kind t pnl)⟩
  | restart =>
      exact absurd trivial hlive

/-!
# Reachable orchestrators
-/

theorem nodup_addSweep {sweeps : List Int} (h : sweeps.Nodup) (t : Int) :
    (addSweep sweeps t).Nodup := by
  unfold addSweep
  split_ifs with hmem
  · exact h
  · rw [List.nodup_append]
    refine ⟨h, List.nodup_singleton t, ?_⟩
    intro a ha b hb hab
    rw [List.mem_singleton] at hb
    exact hmem (hb ▸ hab ▸ ha)

theorem foldl_addSweep_of_nodup {seen sweeps : List Int} (h : (seen ++ sweeps).Nodup) :
    sweeps.foldl addSweep seen = seen ++ sweeps := by
  induction sweeps generalizing seen with
  | nil =>
      rw [List.append_nil]
      rfl
  | cons t rest ih =>
      have hnew : t ∉ seen := by
        intro hmem
        exact (List.nodup_append.mp h).2.2 t hmem t List.mem_cons_self rfl
      have hadd : addSweep seen t = seen ++ [t] := by
        rw [addSweep, if_neg hnew]
      rw [List.foldl_cons, hadd, ih (by rw [List.append_assoc]; exact h), List.append_assoc]
      rfl

/-- What every state of a run keeps: no sweep twice in the dedup set, and the
manager of its pair. -/
structure Sound (o : LiveSmcOrchestrator) (symbol : Instrument) (s : OrchestratorState) :
    Prop where
  nodup : s.actionedSweeps.Nodup
  config : s.riskManager.config = (o.buildRiskManager symbol).config

theorem Sound.restoreState {o : LiveSmcOrchestrator} {symbol : Instrument}
    {s : OrchestratorState} (h : Sound o symbol s) :
    o.restoreState symbol s.snapshot.raw =
      { s with riskManager := s.riskManager.withLog s.riskManager.keptLog } := by
  have hsweeps : s.actionedSweeps.foldl addSweep [] = s.actionedSweeps :=
    foldl_addSweep_of_nodup h.nodup
  have hmanager := RiskManager.restore_snapshot s.riskManager (o.buildRiskManager symbol)
    h.config.symm
  have hpending := restoreState_pending o symbol s
  unfold LiveSmcOrchestrator.restoreState StateSnapshot.raw OrchestratorState.snapshot
    at hpending ⊢
  dsimp only [Option.getD_some] at hpending ⊢
  rw [hpending, hsweeps, hmanager]

theorem StateMove.sound {env : EngineEnv} {o : LiveSmcOrchestrator} {symbol : Instrument}
    {op : OrchestratorOp} {s : OrchestratorState} (hmove : StateMove env o symbol op s)
    (h : Sound o symbol (o.getOrCreateState symbol)) : Sound o symbol s := by
  cases hmove with
  | untouched =>
      exact h
  | evaluated hcfg =>
      constructor
      · rw [evaluateState_actionedSweeps]
        exact h.nodup
      · exact (congrArg RiskManager.Ledger.config (evaluateState_ledger _ _ _ _ _ _)).trans
          h.config
  | entered t =>
      exact ⟨nodup_addSweep h.nodup t, h.config⟩
  | exited kind t pnl =>
      refine ⟨h.nodup, ?_⟩
      cases pnl with
      | none =>
          exact h.config
      | some p =>
          exact (congrArg RiskManager.Ledger.config
            (RiskManager.recordTrade_ledger _ p t _)).trans h.config
  | restarted =>
      rw [h.restoreState]
      exact ⟨h.nodup, h.config⟩

theorem orchestratorStep_defaultRiskCfg (env : EngineEnv) (o : LiveSmcOrchestrator)
    (op : OrchestratorOp) : (orchestratorStep env o op).defaultRiskCfg = o.defaultRiskCfg := by
  cases op with
  | evaluate symbol b ctx pre cursor =>
      unfold orchestratorStep evaluate evaluateAt
      dsimp only
      split_ifs
      · rfl
      · split
        · rfl
        · split <;> rfl
  | recordEntry symbol t =>
      rfl
  | recordExit symbol kind t pnl =>
      unfold orchestratorStep LiveSmcOrchestrator.recordExit
      dsimp only
      split <;> rfl
  | restart =>
      rfl

theorem sound_over_runs (env : EngineEnv) (cfg : DefaultRiskCfg)
    (history : List OrchestratorOp) (symbol : Instrument) :
    Sound (runFrom (orchestratorStep env) (LiveSmcOrchestrator.create cfg) history) symbol
      ((runFrom (orchestratorStep env) (LiveSmcOrchestrator.create cfg) history).getOrCreateState
        symbol) := by
  apply runFrom_inv (fun o : LiveSmcOrchestrator => Sound o symbol (o.getOrCreateState symbol))
  · intro o op h
    have hmoved := (orchestratorStep_move env o op symbol).sound h
    refine ⟨hmoved.nodup, hmoved.config.trans ?_⟩
    unfold LiveSmcOrchestrator.buildRiskManager
    rw [orchestratorStep_defaultRiskCfg]
  · exact ⟨List.nodup_nil, rfl⟩

/-!
# Restarts over whole runs
-/

theorem restart_cut {o : LiveSmcOrchestrator} {calls : List OrchestratorOp}
    (hsound : forall symbol, Sound o symbol (o.getOrCreateState symbol))
    (hforget : ForgetsNothing o calls) : OrchestratorCut calls o o.restart := by
  intro symbol
  rw [getOrCreateState_restart, (hsound symbol).restoreState]
  refine ⟨_, ⟨_, _, (RiskManager.forgottenLog_append_keptLog _).symm, rfl, ?_⟩, rfl⟩
  exact hforget symbol

/-- After any run, where the losses that the snapshot forgets are outlived on the
days of the later calls, the restored orchestrator returns what the old one
would. -/
theorem restart_transparent_over_runs (env : EngineEnv) (cfg : DefaultRiskCfg)
    (history calls : List OrchestratorOp) (hcalls : forall op, op ∈ calls -> ¬ IsRestart op)
    (hforget : ForgetsNothing
      (runFrom (orchestratorStep env) (LiveSmcOrchestrator.create cfg) history) calls) :
    outputs env (runFrom (orchestratorStep env) (LiveSmcOrchestrator.create cfg) history).restart
        calls =
      outputs env (runFrom (orchestratorStep env) (LiveSmcOrchestrator.create cfg) history)
        calls := by
  apply outputsFrom_eq (OrchestratorCut calls)
  · intro o cut op h hop
    exact h.step hop (hcalls op hop)
  · exact restart_cut (sound_over_runs env cfg history) hforget

/-!
# A busy day of gold
-/

def closesOf (count : Nat) (pnl : ℚ) : List OrchestratorOp :=
  List.replicate count
    (.recordExit .XAUUSD .other (goldStart + 59 * msPerHour) (some pnl))

/-- The first call uses up the cooldown of the last exit. -/
def twoCalls : List OrchestratorOp :=
  List.replicate 2 (.evaluate .XAUUSD (twoWickWindow 60 0) goldContext none none)

def afterCloses (history : List OrchestratorOp) : LiveSmcOrchestrator :=
  runFrom (orchestratorStep documentedEnv) (LiveSmcOrchestrator.create standardRiskCfg) history

set_option maxRecDepth 20000 in
/-- Of 34 losses of one day the snapshot forgets four, and thirty stand for them. -/
theorem restart_transparent_after_losses :
    ForgetsNothing (afterCloses (closesOf 34 (-1))) twoCalls ∧
      outputs documentedEnv (afterCloses (closesOf 34 (-1))).restart twoCalls =
        outputs documentedEnv (afterCloses (closesOf 34 (-1))) twoCalls := by
  have hcovered : forall symbol t,
      t ∈ ((afterCloses (closesOf 34 (-1))).getOrCreateState symbol).riskManager.forgottenLog ->
        4 ≤ RiskManager.lossesSince
          ((afterCloses (closesOf 34 (-1))).getOrCreateState symbol).riskManager.keptLog
          t.date := by
    intro symbol
    cases symbol <;> decide +kernel
  have hforget : ForgetsNothing (afterCloses (closesOf 34 (-1))) twoCalls := by
    intro symbol
    apply Or.inr
    intro t ht _
    exact Or.inl (hcovered symbol t ht)
  have hcalls : forall op, op ∈ twoCalls -> ¬ IsRestart op := by
    intro op hop
    rw [List.eq_of_mem_replicate hop]
    exact not_false
  exact ⟨hforget, restart_transparent_over_runs documentedEnv standardRiskCfg _ twoCalls hcalls
    hforget⟩

def returnedSweep : CallOutput -> Option Int
  | .evaluated returned _ => firesSweepOf returned
  | _ => none

set_option maxRecDepth 20000 in
/-- Four losses and thirty wins of one day: the manager pauses, and the restored
one, which has only the wins, lets the sweep fire. -/
theorem restart_forgets_four_losses :
    ¬ outputs documentedEnv (afterCloses (closesOf 4 (-1) ++ closesOf 30 1)).restart twoCalls =
      outputs documentedEnv (afterCloses (closesOf 4 (-1) ++ closesOf 30 1)) twoCalls := by
  intro hsame
  have hfires : (outputs documentedEnv
      (afterCloses (closesOf 4 (-1) ++ closesOf 30 1)).restart twoCalls).map returnedSweep =
        [none, some (goldStart + 58 * msPerHour)] := by
    decide +kernel
  have hpaused : (outputs documentedEnv
      (afterCloses (closesOf 4 (-1) ++ closesOf 30 1)) twoCalls).map returnedSweep =
        [none, none] := by
    decide +kernel
  rw [hsame, hpaused] at hfires
  cases hfires

end Orchestrator
end Shamarx
