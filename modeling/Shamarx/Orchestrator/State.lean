import Shamarx.Engine.RiskManager
import Shamarx.Engine.Indicators
import Shamarx.Engine.Structure
import Shamarx.Foundation.InsertionMap

/-!
# Orchestrator state

The per-symbol queue, cooldown, dedup set and risk manager of the live
orchestrator, with the two commits its callers make and the snapshot that
survives a restart.
-/

namespace Shamarx
namespace Orchestrator

open Foundation
open Engine

structure OrchestratorState where
  pending : List PendingSetup
  lastProcessedH1Time : Option Int
  cooldownBarsRemaining : Nat
  actionedSweeps : List Int
  riskManager : RiskManager

structure DefaultRiskCfg where
  initialBalance : ℚ
  riskPercent : ℚ
  maxOpenPositions : Nat

def standardRiskCfg : DefaultRiskCfg :=
  { initialBalance := 10000, riskPercent := 15 / 10, maxOpenPositions := 4 }

structure LiveSmcOrchestrator where
  states : InsertionMap Instrument OrchestratorState
  defaultRiskCfg : DefaultRiskCfg

/-- What the process environment supplies: the indicator package, the runtime
pair overrides and the default risk per trade. -/
structure EngineEnv where
  indicators : TechnicalIndicators
  overrides : PairOverrides
  riskPercent : ℚ

namespace LiveSmcOrchestrator

def create (cfg : DefaultRiskCfg) : LiveSmcOrchestrator :=
  { states := [], defaultRiskCfg := cfg }

def buildRiskManager (o : LiveSmcOrchestrator) (symbol : Instrument) : RiskManager :=
  RiskManager.create
    { symbol := symbol
      initialBalance := o.defaultRiskCfg.initialBalance
      riskPercent := o.defaultRiskCfg.riskPercent
      maxDailyLossPercent := 4
      maxConsecutiveLosses := 5
      maxOpenPositions := o.defaultRiskCfg.maxOpenPositions }

def freshState (o : LiveSmcOrchestrator) (symbol : Instrument) : OrchestratorState :=
  { pending := []
    lastProcessedH1Time := none
    cooldownBarsRemaining := 0
    actionedSweeps := []
    riskManager := o.buildRiskManager symbol }

def getState (o : LiveSmcOrchestrator) (symbol : Instrument) : Option OrchestratorState :=
  o.states.get symbol

/-- The stored state, or the one that is stored on first use. -/
def getOrCreateState (o : LiveSmcOrchestrator) (symbol : Instrument) : OrchestratorState :=
  (o.getState symbol).getD (o.freshState symbol)

def setState (o : LiveSmcOrchestrator) (symbol : Instrument) (s : OrchestratorState) :
    LiveSmcOrchestrator :=
  { o with states := o.states.set symbol s }

@[simp] theorem getState_setState (o : LiveSmcOrchestrator) (symbol : Instrument)
    (s : OrchestratorState) : (o.setState symbol s).getState symbol = some s :=
  InsertionMap.get_set_self o.states symbol s

theorem getState_setState_of_ne (o : LiveSmcOrchestrator) {symbol other : Instrument}
    (s : OrchestratorState) (hne : other ≠ symbol) :
    (o.setState symbol s).getState other = o.getState other :=
  InsertionMap.get_set_of_ne o.states s hne

@[simp] theorem getOrCreateState_setState (o : LiveSmcOrchestrator) (symbol : Instrument)
    (s : OrchestratorState) : (o.setState symbol s).getOrCreateState symbol = s := by
  simp [getOrCreateState]

theorem getOrCreateState_setState_of_ne (o : LiveSmcOrchestrator) {symbol other : Instrument}
    (s : OrchestratorState) (hne : other ≠ symbol) :
    (o.setState symbol s).getOrCreateState other = o.getOrCreateState other := by
  rw [getOrCreateState, o.getState_setState_of_ne s hne]
  rfl

end LiveSmcOrchestrator

/-!
# Commits
-/

def addSweep (sweeps : List Int) (t : Int) : List Int :=
  if t ∈ sweeps then sweeps else sweeps ++ [t]

inductive ExitKind where
  | sl
  | tp
  | other
  deriving DecidableEq, Repr

def ExitKind.forRiskManager : ExitKind -> ExitReason
  | .sl => .sl
  | .tp => .tp
  | .other => .forcedClose

def exitCooldownBars (cfg : SmcPairConfig) : ExitKind -> Nat
  | .tp => 2
  | .sl => cfg.slCooldownBars
  | .other => 1

def OrchestratorState.recordEntry (s : OrchestratorState) (h1SweepTime : Int) :
    OrchestratorState :=
  { s with
    pending := s.pending.filter fun p => decide (p.sweepTime ≠ h1SweepTime)
    actionedSweeps := addSweep s.actionedSweeps h1SweepTime
    cooldownBarsRemaining := 1 }

def OrchestratorState.recordExit (s : OrchestratorState) (cfg : SmcPairConfig)
    (exitReason : ExitKind) (exitTime : Int) (pnl : Option ℚ) : OrchestratorState :=
  { s with
    cooldownBarsRemaining := max s.cooldownBarsRemaining (exitCooldownBars cfg exitReason)
    riskManager :=
      match pnl with
      | some p => s.riskManager.recordTrade p exitTime (some exitReason.forRiskManager)
      | none => s.riskManager }

namespace LiveSmcOrchestrator

def recordEntry (o : LiveSmcOrchestrator) (symbol : Instrument) (h1SweepTime : Int) :
    LiveSmcOrchestrator :=
  o.setState symbol ((o.getOrCreateState symbol).recordEntry h1SweepTime)

/-- The state is created before the pair lookup that may throw. -/
def recordExit (env : EngineEnv) (o : LiveSmcOrchestrator) (symbol : Instrument)
    (exitReason : ExitKind) (exitTime : Int) (pnl : Option ℚ) :
    LiveSmcOrchestrator × Except EngineError Unit :=
  let state := o.getOrCreateState symbol
  match getSmcPairConfig env.overrides symbol with
  | none => (o.setState symbol state, .error .noPairConfig)
  | some cfg => (o.setState symbol (state.recordExit cfg exitReason exitTime pnl), .ok ())

end LiveSmcOrchestrator

/-!
# Snapshot and restore
-/

structure StateSnapshot where
  pending : List PendingSetup
  lastProcessedH1Time : Option Int
  cooldownBarsRemaining : Nat
  actionedSweeps : List Int
  riskManager : RiskManager.Snapshot
  deriving DecidableEq

/-- A stored state as `restore` reads it: any field may be missing, and a queued
setup of the old schema, without a sweep time, is a none. -/
structure RawState where
  pending : Option (List (Option PendingSetup))
  lastProcessedH1Time : Option Int
  cooldownBarsRemaining : Option Nat
  actionedSweeps : Option (List Int)
  riskManager : Option RiskManager.Snapshot

def OrchestratorState.snapshot (s : OrchestratorState) : StateSnapshot :=
  { pending := s.pending
    lastProcessedH1Time := s.lastProcessedH1Time
    cooldownBarsRemaining := s.cooldownBarsRemaining
    actionedSweeps := s.actionedSweeps
    riskManager := s.riskManager.snapshot }

def StateSnapshot.raw (s : StateSnapshot) : RawState :=
  { pending := some (s.pending.map some)
    lastProcessedH1Time := s.lastProcessedH1Time
    cooldownBarsRemaining := some s.cooldownBarsRemaining
    actionedSweeps := some s.actionedSweeps
    riskManager := some s.riskManager }

namespace LiveSmcOrchestrator

def serialize (o : LiveSmcOrchestrator) : InsertionMap Instrument StateSnapshot :=
  o.states.map fun (symbol, s) => (symbol, s.snapshot)

def restoreState (o : LiveSmcOrchestrator) (symbol : Instrument) (raw : RawState) :
    OrchestratorState :=
  let riskManager := o.buildRiskManager symbol
  { pending := (raw.pending.getD []).filterMap id
    lastProcessedH1Time := raw.lastProcessedH1Time
    cooldownBarsRemaining := raw.cooldownBarsRemaining.getD 0
    actionedSweeps := (raw.actionedSweeps.getD []).foldl addSweep []
    riskManager :=
      match raw.riskManager with
      | some snap => riskManager.restore snap
      | none => riskManager }

def restore (o : LiveSmcOrchestrator) (snapshot : InsertionMap Instrument RawState) :
    LiveSmcOrchestrator :=
  { o with states := snapshot.map fun (symbol, raw) => (symbol, o.restoreState symbol raw) }

/-- A restart: a new process restores what the old one serialized. -/
def restart (o : LiveSmcOrchestrator) : LiveSmcOrchestrator :=
  (create o.defaultRiskCfg).restore
    (o.serialize.map fun (symbol, snap) => (symbol, snap.raw))

end LiveSmcOrchestrator
end Orchestrator
end Shamarx
