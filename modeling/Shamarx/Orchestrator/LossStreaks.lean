import Shamarx.Engine.Streaks
import Shamarx.Orchestrator.Calls

/-!
# Loss streaks of reported exits

The orchestrator reports to its risk manager stops, targets and everything else, and a
stop in profit is one of the stops.  The counters of a symbol are streaks as long as no
such stop comes in a losing streak.
-/

namespace Shamarx
namespace Orchestrator

open Foundation
open Engine

structure ExitReport where
  symbol : Instrument
  exitReason : ExitKind
  exitTime : Int
  pnl : Option ℚ

def reportStep (env : EngineEnv) (o : LiveSmcOrchestrator) (r : ExitReport) :
    LiveSmcOrchestrator :=
  orchestratorStep env o (.recordExit r.symbol r.exitReason r.exitTime r.pnl)

def AllStreaksBounded (o : LiveSmcOrchestrator) : Prop :=
  forall symbol, (o.getOrCreateState symbol).riskManager.StreaksBounded

/-- The report books no trade, or a gain that is no target finds no loss counted, and no
target is a loss. -/
def KeepsStreaks (env : EngineEnv) (o : LiveSmcOrchestrator) (r : ExitReport) : Prop :=
  getSmcPairConfig env.overrides r.symbol = none ∨ forall pnl, r.pnl = some pnl ->
    (0 < pnl -> r.exitReason ≠ .tp ->
      (o.getOrCreateState r.symbol).riskManager.consecutiveLosses = 0) ∧
    (pnl < 0 -> r.exitReason ≠ .tp)

theorem allStreaksBounded_create (cfg : DefaultRiskCfg) :
    AllStreaksBounded (LiveSmcOrchestrator.create cfg) :=
  fun _ => RiskManager.streaksBounded_create _

section Report

variable {env : EngineEnv} {o : LiveSmcOrchestrator} {r : ExitReport}

theorem reportStep_of_ne {symbol : Instrument} (hne : symbol ≠ r.symbol) :
    (reportStep env o r).getOrCreateState symbol = o.getOrCreateState symbol := by
  unfold reportStep orchestratorStep LiveSmcOrchestrator.recordExit
  dsimp only
  split
  · exact o.getOrCreateState_setState_of_ne _ hne
  · exact o.getOrCreateState_setState_of_ne _ hne

theorem reportStep_without_config (h : getSmcPairConfig env.overrides r.symbol = none) :
    (reportStep env o r).getOrCreateState r.symbol = o.getOrCreateState r.symbol := by
  rw [reportStep, orchestratorStep, LiveSmcOrchestrator.recordExit, h]
  exact o.getOrCreateState_setState _ _

theorem reportStep_with_config {cfg : SmcPairConfig}
    (h : getSmcPairConfig env.overrides r.symbol = some cfg) :
    (reportStep env o r).getOrCreateState r.symbol =
      (o.getOrCreateState r.symbol).recordExit cfg r.exitReason r.exitTime r.pnl := by
  rw [reportStep, orchestratorStep, LiveSmcOrchestrator.recordExit, h]
  exact o.getOrCreateState_setState _ _

theorem forRiskManager_eq_tp {kind : ExitKind} : kind.forRiskManager = .tp ↔ kind = .tp := by
  cases kind <;> decide

theorem allStreaksBounded_report_iff (h : AllStreaksBounded o) :
    AllStreaksBounded (reportStep env o r) ↔ KeepsStreaks env o r := by
  have hsymbol : AllStreaksBounded (reportStep env o r) ↔
      ((reportStep env o r).getOrCreateState r.symbol).riskManager.StreaksBounded := by
    constructor
    · exact fun hall => hall r.symbol
    · intro hr symbol
      by_cases hne : symbol = r.symbol
      · rw [hne]
        exact hr
      · rw [reportStep_of_ne hne]
        exact h symbol
  rw [hsymbol, KeepsStreaks]
  cases hcfg : getSmcPairConfig env.overrides r.symbol with
  | none =>
      rw [reportStep_without_config hcfg]
      exact iff_of_true (h r.symbol) (Or.inl rfl)
  | some cfg =>
      rw [reportStep_with_config hcfg]
      cases hpnl : r.pnl with
      | none =>
          exact iff_of_true (h r.symbol) (Or.inr fun _ hsome => by cases hsome)
      | some pnl =>
          change ((o.getOrCreateState r.symbol).riskManager.recordTrade pnl r.exitTime
            (some r.exitReason.forRiskManager)).StreaksBounded ↔ _
          have hreason : r.exitReason.forRiskManager ≠ .breakeven := by
            cases r.exitReason <;> decide
          rw [RiskManager.streaksBounded_recordTrade_iff (h r.symbol) pnl r.exitTime hreason]
          simp only [ne_eq, forRiskManager_eq_tp, reduceCtorEq, false_or, Option.some.injEq,
            forall_eq']

end Report

/-- Over any sequence of reports, the counters count only the trades of their streaks
exactly if each report meets the condition. -/
theorem streaks_bounded_iff (env : EngineEnv) (cfg : DefaultRiskCfg) (reports : List ExitReport) :
    EveryStep (reportStep env) (fun o r => AllStreaksBounded (reportStep env o r))
        (LiveSmcOrchestrator.create cfg) reports ↔
      EveryStep (reportStep env) (KeepsStreaks env) (LiveSmcOrchestrator.create cfg) reports :=
  everyStep_iff AllStreaksBounded (fun _ _ h => allStreaksBounded_report_iff h)
    (fun _ _ _ hnext => hnext) (allStreaksBounded_create cfg) reports

/-- A loss, and on the next day a stop in profit after break-even. -/
def stopInProfit : List ExitReport :=
  [{ symbol := .XAUUSD, exitReason := .sl, exitTime := dayStart 20642, pnl := some (-100) },
    { symbol := .XAUUSD, exitReason := .sl, exitTime := dayStart 20643, pnl := some 40 }]

/-- The gain leaves the loss counted. -/
theorem stopInProfit_keeps_loss :
    ¬ AllStreaksBounded
      (runFrom (reportStep documentedEnv) (LiveSmcOrchestrator.create standardRiskCfg)
        stopInProfit) := by
  intro h
  exact absurd (h .XAUUSD).losses (by decide +kernel)

end Orchestrator
end Shamarx
