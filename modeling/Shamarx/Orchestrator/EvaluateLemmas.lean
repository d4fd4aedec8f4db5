import Shamarx.Orchestrator.Evaluate
import Shamarx.Engine.SweepLemmas
import Shamarx.Engine.RiskManagerLemmas

/-!
# Effects of an evaluation

What a call can do to the queue, the dedup set and the risk manager of its
symbol: every queued setup comes from the old queue or from a bar of this call
and has passed the expiry test, and the ledger of the manager is unchanged.
-/

namespace Shamarx
namespace Orchestrator

open Foundation
open Engine

/-!
# The queue
-/

theorem admittedSetup_madeAt {cfg : SmcPairConfig} {f : Frame} {actioned : List Int}
    {idx : Nat} {p : PendingSetup} (h : admittedSetup cfg f actioned idx = some p) :
    MadeAt f.candles.h1 cfg idx p := by
  unfold admittedSetup at h
  split_ifs at h with hfloor
  simp only [Option.bind_eq_bind, Option.bind_eq_some_iff,
    Option.ite_none_left_eq_some, Option.some.injEq] at h
  rcases h with ⟨setup, hdetect, -, rfl⟩
  exact detectSweep_madeAt hdetect

theorem mem_detectStep_pending {cfg : SmcPairConfig} {f : Frame} {s : OrchestratorState}
    {p : PendingSetup} (h : p ∈ (detectStep cfg f s).pending) :
    p ∈ s.pending ∨ exists idx, idx ≤ f.h1Len - 2 ∧ MadeAt f.candles.h1 cfg idx p := by
  unfold detectStep at h
  dsimp only at h
  split at h
  · exact Or.inl h
  · split_ifs at h with hsame
    · exact Or.inl h
    · rw [List.mem_append, List.mem_filterMap] at h
      rcases h with hold | ⟨idx, hidx, hadmit⟩
      · exact Or.inl hold
      · rw [List.mem_range'_1] at hidx
        exact Or.inr ⟨idx, by omega, admittedSetup_madeAt hadmit⟩

theorem mem_expireStep_pending {f : Frame} {s : OrchestratorState} {p : PendingSetup} :
    p ∈ (expireStep f s).pending ↔ p ∈ s.pending ∧ f.h1Len - 1 ≤ p.expiresAtH1Idx := by
  simp [expireStep]

theorem fireLoop_sublist (judgeOf : PendingSetup -> Verdict) (queue : List PendingSetup) :
    List.Sublist (fireLoop judgeOf queue).1 queue := by
  induction queue with
  | nil =>
      exact List.Sublist.slnil
  | cons setup older ih =>
      cases hjudge : judgeOf setup with
      | keep =>
          simpa [fireLoop, hjudge] using ih
      | drop =>
          simpa [fireLoop, hjudge] using ih.cons setup
      | fire signal =>
          simp [fireLoop, hjudge]
      | throw e =>
          simp [fireLoop, hjudge]

theorem fireStep_pending_subset (env : EngineEnv) (symbol : Instrument)
    (cfg : SmcPairConfig) (f : Frame) (ctx : LiveContext) (s : OrchestratorState) :
    (fireStep env symbol cfg f ctx s).1.pending ⊆ s.pending := by
  intro p hp
  have hp' : p ∈ (fireLoop (judge env symbol cfg f ctx s.actionedSweeps)
      s.pending.reverse).1 := by
    simpa [fireStep] using hp
  simpa using (fireLoop_sublist _ _).subset hp'

theorem gateStep_pending_subset (env : EngineEnv) (symbol : Instrument)
    (cfg : SmcPairConfig) (f : Frame) (ctx : LiveContext) (s : OrchestratorState) :
    (gateStep env symbol cfg f ctx s).1.pending ⊆ s.pending := by
  unfold gateStep
  dsimp only
  split_ifs
  · exact List.Subset.refl _
  · exact List.Subset.refl _
  · exact fireStep_pending_subset env symbol cfg f ctx _
  · exact List.Subset.refl _

theorem mem_evaluateState_pending {env : EngineEnv} {symbol : Instrument}
    {cfg : SmcPairConfig} {f : Frame} {ctx : LiveContext} {s : OrchestratorState}
    {p : PendingSetup} (h : p ∈ (evaluateState env symbol cfg f ctx s).1.pending) :
    (p ∈ s.pending ∨ exists idx, idx ≤ f.h1Len - 2 ∧ MadeAt f.candles.h1 cfg idx p) ∧
      f.h1Len - 1 ≤ p.expiresAtH1Idx := by
  have hexpire := gateStep_pending_subset env symbol cfg f ctx _ h
  rw [mem_expireStep_pending] at hexpire
  exact ⟨mem_detectStep_pending hexpire.1, hexpire.2⟩

/-!
# The risk manager
-/

theorem detectStep_riskManager (cfg : SmcPairConfig) (f : Frame) (s : OrchestratorState) :
    (detectStep cfg f s).riskManager = s.riskManager := by
  unfold detectStep
  dsimp only
  split
  · rfl
  · split_ifs <;> rfl

theorem gateStep_ledger (env : EngineEnv) (symbol : Instrument) (cfg : SmcPairConfig)
    (f : Frame) (ctx : LiveContext) (s : OrchestratorState) :
    (gateStep env symbol cfg f ctx s).1.riskManager.ledger = s.riskManager.ledger := by
  have hgate := RiskManager.canTrade_ledger s.riskManager f.lastM15.openTime
    ctx.totalOpenPositions
  unfold gateStep
  dsimp only
  split_ifs
  · rfl
  · rfl
  · exact hgate
  · exact hgate

theorem evaluateState_ledger (env : EngineEnv) (symbol : Instrument) (cfg : SmcPairConfig)
    (f : Frame) (ctx : LiveContext) (s : OrchestratorState) :
    (evaluateState env symbol cfg f ctx s).1.riskManager.ledger = s.riskManager.ledger := by
  unfold evaluateState
  rw [gateStep_ledger]
  exact congrArg RiskManager.ledger (detectStep_riskManager cfg f s)

/-!
# A call on one symbol

Either nothing moves, or the state of the symbol is set and no other is touched.
-/

theorem evaluateAt_getState_of_ne (env : EngineEnv) (o : LiveSmcOrchestrator)
    {symbol other : Instrument} (hne : other ≠ symbol) (b : CandleBundle)
    (ctx : LiveContext) (pre : Option PrecomputedIndicators) (cursor : Cursor b) :
    (evaluateAt env o symbol b ctx pre cursor).1.getState other = o.getState other := by
  unfold evaluateAt
  split_ifs
  · rfl
  · split
    · rfl
    · dsimp only
      split
      · exact o.getState_setState_of_ne _ hne
      · exact o.getState_setState_of_ne _ hne

theorem evaluateAt_of_guard {env : EngineEnv} (o : LiveSmcOrchestrator)
    {symbol : Instrument} {b : CandleBundle} (ctx : LiveContext)
    (pre : Option PrecomputedIndicators) {cursor : Cursor b} {cfg : SmcPairConfig}
    (hm15 : 30 ≤ cursor.m15) (hh1 : 30 ≤ cursor.h1)
    (hcfg : getSmcPairConfig env.overrides symbol = some cfg) :
    exists lastM15 f, b.m15[cursor.m15 - 1]? = some lastM15 ∧
      f = makeFrame b (callIndicators env b pre) cursor lastM15 ∧
      evaluateAt env o symbol b ctx pre cursor =
        (o.setState symbol (evaluateState env symbol cfg f ctx (o.getOrCreateState symbol)).1,
          (evaluateState env symbol cfg f ctx (o.getOrCreateState symbol)).2) := by
  have hlt : cursor.m15 - 1 < b.m15.length := by
    have := cursor.m15_le
    omega
  refine ⟨b.m15[cursor.m15 - 1], _, List.getElem?_eq_getElem hlt, rfl, ?_⟩
  unfold evaluateAt
  rw [if_neg (by omega), hcfg]
  simp only [List.getElem?_eq_getElem hlt]

theorem evaluateAt_of_not_guard {env : EngineEnv} (o : LiveSmcOrchestrator)
    {symbol : Instrument} {b : CandleBundle} (ctx : LiveContext)
    (pre : Option PrecomputedIndicators) {cursor : Cursor b}
    (h : (cursor.m15 < 30 ∨ cursor.h1 < 30) ∨
      getSmcPairConfig env.overrides symbol = none) :
    (evaluateAt env o symbol b ctx pre cursor).1 = o := by
  unfold evaluateAt
  split_ifs with hguard
  · rfl
  · rcases h with h | h
    · exact absurd h hguard
    · rw [h]

theorem evaluateAt_getState_cases (env : EngineEnv) (o : LiveSmcOrchestrator)
    (symbol : Instrument) (b : CandleBundle) (ctx : LiveContext)
    (pre : Option PrecomputedIndicators) (cursor : Cursor b) :
    (evaluateAt env o symbol b ctx pre cursor).1 = o ∨
      exists cfg f, getSmcPairConfig env.overrides symbol = some cfg ∧
        f.candles = b ∧ f.h1Len = cursor.h1 ∧
        (evaluateAt env o symbol b ctx pre cursor).1.getState symbol =
          some (evaluateState env symbol cfg f ctx (o.getOrCreateState symbol)).1 := by
  by_cases hguard : cursor.m15 < 30 ∨ cursor.h1 < 30
  · exact Or.inl (evaluateAt_of_not_guard o ctx pre (Or.inl hguard))
  · cases hcfg : getSmcPairConfig env.overrides symbol with
    | none =>
        exact Or.inl (evaluateAt_of_not_guard o ctx pre (Or.inr hcfg))
    | some cfg =>
        have hm15 : 30 ≤ cursor.m15 := by omega
        have hh1 : 30 ≤ cursor.h1 := by omega
        rcases evaluateAt_of_guard o ctx pre hm15 hh1 hcfg with ⟨lastM15, f, -, hf, heval⟩
        refine Or.inr ⟨cfg, f, rfl, by rw [hf]; rfl, by rw [hf]; rfl, ?_⟩
        rw [heval]
        exact o.getState_setState symbol _

end Orchestrator
end Shamarx
