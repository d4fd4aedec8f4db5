import Shamarx.Engine.LotSizing
import Shamarx.Orchestrator.Calls
import Mathlib.Tactic.Linarith
import Mathlib.Tactic.NormNum

/-!
# Risk of a fired signal

A call sizes its order with a new manager on the account equity.  That manager
has no drawdown, so the risk of a signal is bounded by the undiminished risk
percent; whether this meets the drawdown multiplier of the manager that gates
the symbol depends on the risk percent alone.
-/

namespace Shamarx
namespace Engine
namespace RiskManager

open Foundation

/-!
# Lot sizing
-/

theorem calculateLotSize_of_neg (rm : RiskManager) {slPoints : ℚ} (quality : Option ℚ)
    (regime : Option DetailedRegime) (confidence price : Option ℚ)
    (hbal : rm.balance < 0) (hper : 0 < usdPerLot rm.config.symbol slPoints price) :
    rm.calculateLotSize slPoints quality regime confidence price ≤ 1 / 100 := by
  have hrisk := rm.half_le_effectiveRisk quality regime confidence
  have hamount : rm.balance * (rm.effectiveRisk quality regime confidence / 100) < 0 :=
    mul_neg_of_neg_of_pos hbal (by linarith)
  have hideal := div_neg_of_neg_of_pos hamount hper
  have hclamp : max (1 / 100 : ℚ) (min 1
      (rm.balance * (rm.effectiveRisk quality regime confidence / 100) /
        usdPerLot rm.config.symbol slPoints price)) = 1 / 100 :=
    max_eq_left (le_trans (min_le_right _ _) (by linarith))
  unfold calculateLotSize
  dsimp only
  rw [hclamp]
  have hround : roundTo 100 (1 / 100) = 1 / 100 := by decide +kernel
  rw [hround]
  split_ifs
  · norm_num
  · exact le_refl _

theorem effectiveRisk_create (cfg : EngineConfig) :
    (create cfg).effectiveRisk (some 60) (some .weakTrend) (some 50) =
      max (1 / 2) (min 4 (9 / 10 * cfg.riskPercent)) := by
  have hdd : (create cfg).getEquityDdPercent = 0 := by
    unfold getEquityDdPercent
    split_ifs
    · simp [create]
    · rfl
  have hmode : (create cfg).getTradingMode = .normal := by
    unfold getTradingMode
    rw [hdd]
    simp [create, getRolling7DayLosses]
  unfold effectiveRisk
  rw [hdd, hmode]
  norm_num [getRegimeMultiplier, getQualityMultiplier, getConfidenceMultiplier,
    getDdMultiplier]
  simp [create, mul_comm]

end RiskManager
end Engine

namespace Orchestrator

open Foundation
open Engine

/-!
# Fired signals
-/

theorem judge_fire {env : EngineEnv} {symbol : Instrument} {cfg : SmcPairConfig} {f : Frame}
    {ctx : LiveContext} {actioned : List Int} {setup : PendingSetup} {signal : SmcLiveSignal}
    (h : judge env symbol cfg f ctx actioned setup = .fire signal) :
    0 < (planEntry symbol cfg f setup).slPoints ∧
      signal.totalLot =
        totalLotOf env symbol cfg ctx setup (planEntry symbol cfg f setup) ∧
      ¬ LotTooSmall cfg signal.totalLot := by
  have hfired := judge_fired h
  rcases hfired.built with ⟨gates, rfl⟩
  exact ⟨hfired.slPoints_pos, rfl, hfired.lot_large⟩

def dollarRisk (symbol : Instrument) (p : EntryPlan) (lot : ℚ) : ℚ :=
  lot * RiskManager.usdPerLot symbol p.slPoints (some p.entryPrice)

theorem lotTooSmall_of_le {cfg : SmcPairConfig} {lot : ℚ} (hladder : usesLadder cfg = true)
    (h : lot ≤ 1 / 100) : LotTooSmall cfg lot := by
  unfold LotTooSmall
  rw [if_pos hladder]
  linarith

theorem ne_zero_of_not_lotTooSmall {cfg : SmcPairConfig} {lot : ℚ}
    (h : ¬ LotTooSmall cfg lot) : lot ≠ 0 := by
  rintro rfl
  apply h
  unfold LotTooSmall
  split_ifs <;> norm_num

/-- The account is in credit, or it cannot be and still fire. -/
def CreditSafe (symbol : Instrument) (cfg : SmcPairConfig) (ctx : LiveContext) : Prop :=
  0 ≤ ctx.accountEquity ∨ (usesLadder cfg = true ∧ symbol.isJpyPair = false)

theorem judge_fire_in_credit {env : EngineEnv} {symbol : Instrument} {cfg : SmcPairConfig}
    {f : Frame} {ctx : LiveContext} {actioned : List Int} {setup : PendingSetup}
    {signal : SmcLiveSignal} (hplain : cfg.convictionSizing = none)
    (hcredit : CreditSafe symbol cfg ctx)
    (h : judge env symbol cfg f ctx actioned setup = .fire signal) :
    0 ≤ ctx.accountEquity := by
  rcases judge_fire h with ⟨hsl, hlot, hbig⟩
  rw [hlot, totalLotOf, convictionLot, hplain] at hbig
  rcases hcredit with hpos | ⟨hladder, hjpy⟩
  · exact hpos
  · by_contra hneg
    exact hbig (lotTooSmall_of_le hladder
      (RiskManager.calculateLotSize_of_neg _ _ _ _ _ (not_le.mp hneg)
        (RiskManager.usdPerLot_pos_of_not_jpy hjpy hsl _)))

theorem judge_fire_risk_le {env : EngineEnv} {symbol : Instrument} {cfg : SmcPairConfig}
    {f : Frame} {ctx : LiveContext} {actioned : List Int} {setup : PendingSetup}
    {signal : SmcLiveSignal} (hplain : cfg.convictionSizing = none)
    (hequity : 0 ≤ ctx.accountEquity)
    (h : judge env symbol cfg f ctx actioned setup = .fire signal) :
    dollarRisk symbol (planEntry symbol cfg f setup) signal.totalLot ≤
      110 / 100 *
        max (1 / 2) (min 4 (9 / 10 * (sizingConfig env symbol ctx).riskPercent)) / 100 *
        ctx.accountEquity := by
  rcases judge_fire h with ⟨hsl, hlot, hbig⟩
  have hbase : signal.totalLot = baseLot env symbol ctx (planEntry symbol cfg f setup) := by
    rw [hlot, totalLotOf, convictionLot, hplain]
  rw [hbase] at hbig ⊢
  have hrisk := RiskManager.calculateLotSize_risk_le
    (RiskManager.create (sizingConfig env symbol ctx)) _ _ _ _ _
    (ne_zero_of_not_lotTooSmall hbig) hequity
  rw [RiskManager.effectiveRisk_create] at hrisk
  exact hrisk

/-!
# Drawdown tiers

A tier is a drawdown in percent and the multiplier it prescribes.
-/

structure DdTier where
  percent : ℚ
  multiplier : ℚ

def ddTiers : List DdTier :=
  [⟨10, 1 / 2⟩, ⟨20, 1 / 4⟩, ⟨30, 1 / 10⟩]

def prescribedRisk (riskPercent : ℚ) (tier : DdTier) : ℚ :=
  max (1 / 2) (9 / 10 * riskPercent * tier.multiplier)

/-- The risk percent is at the floor or so large that the cap hides the tier. -/
def TierBlind (riskPercent : ℚ) (tier : DdTier) : Prop :=
  riskPercent ≤ 5 / 9 ∨ 4 ≤ 9 / 10 * riskPercent * tier.multiplier

theorem clampedRisk_le_prescribed_iff {tier : DdTier} (htier : tier ∈ ddTiers)
    (riskPercent : ℚ) :
    max (1 / 2) (min 4 (9 / 10 * riskPercent)) ≤ prescribedRisk riskPercent tier ↔
      TierBlind riskPercent tier := by
  have hmult : 0 < tier.multiplier ∧ tier.multiplier < 1 := by
    simp only [ddTiers, List.mem_cons, List.not_mem_nil, or_false] at htier
    rcases htier with rfl | rfl | rfl <;> norm_num
  unfold prescribedRisk TierBlind
  constructor
  · intro h
    by_contra hnot
    push Not at hnot
    rcases hnot with ⟨hlow, hhigh⟩
    have hscaled : 9 / 10 * riskPercent * tier.multiplier < 9 / 10 * riskPercent :=
      mul_lt_of_lt_one_right (by linarith) hmult.2
    have hmin := le_trans (le_max_right _ _) h
    rcases le_max_iff.mp hmin with hhalf | hcut
    · rcases min_le_iff.mp hhalf with h4 | hrisk
      · norm_num at h4
      · linarith
    · rcases min_le_iff.mp hcut with h4 | hrisk
      · linarith
      · linarith
  · rintro (hlow | hhigh)
    · refine max_le (le_max_left _ _) (le_trans (min_le_right _ _) ?_)
      exact le_max_of_le_left (by linarith)
    · refine max_le (le_max_left _ _) (le_trans (min_le_left _ _) ?_)
      exact le_max_of_le_right hhigh

/-!
# Runs
-/

structure SizingRun where
  orchestrator : LiveSmcOrchestrator
  held : Instrument -> List ℚ

def balanceOf (o : LiveSmcOrchestrator) (symbol : Instrument) : ℚ :=
  (o.getOrCreateState symbol).riskManager.balance

def startSizing (cfg : DefaultRiskCfg) : SizingRun :=
  { orchestrator := LiveSmcOrchestrator.create cfg
    held := fun symbol => [balanceOf (LiveSmcOrchestrator.create cfg) symbol] }

def sizingStep (env : EngineEnv) (r : SizingRun) (op : OrchestratorOp) : SizingRun :=
  let o := orchestratorStep env r.orchestrator op
  { orchestrator := o, held := fun symbol => r.held symbol ++ [balanceOf o symbol] }

/-- The balance is at least the tier's percentage below one it has held. -/
def InTier (r : SizingRun) (symbol : Instrument) (tier : DdTier) : Prop :=
  exists b, b ∈ r.held symbol ∧
    balanceOf r.orchestrator symbol ≤ (1 - tier.percent / 100) * b

/-- In every tier reached, a returned signal risks at most 110% of what the tier
prescribes. -/
def DrawdownSized (env : EngineEnv) (r : SizingRun) : OrchestratorOp -> Prop
  | .evaluate symbol b ctx precomputed cursor =>
      forall cfg signal tier, getSmcPairConfig env.overrides symbol = some cfg ->
        cfg.convictionSizing = none -> tier ∈ ddTiers -> InTier r symbol tier ->
        (evaluate env r.orchestrator symbol b ctx precomputed cursor).2 = .ok (some signal) ->
        (exists p, FiredFrom env r.orchestrator symbol b ctx precomputed cursor signal p) ∧
        forall p, FiredFrom env r.orchestrator symbol b ctx precomputed cursor signal p ->
          dollarRisk symbol p signal.totalLot ≤
            110 / 100 * prescribedRisk (sizingConfig env symbol ctx).riskPercent tier / 100 *
              ctx.accountEquity
  | _ => True

/-- The risk percent of the call is blind to every tier reached, and the account
is in credit. -/
def SizingBlind (env : EngineEnv) (r : SizingRun) : OrchestratorOp -> Prop
  | .evaluate symbol _ ctx _ _ =>
      forall cfg tier, getSmcPairConfig env.overrides symbol = some cfg ->
        tier ∈ ddTiers -> InTier r symbol tier ->
        TierBlind (sizingConfig env symbol ctx).riskPercent tier ∧ CreditSafe symbol cfg ctx
  | _ => True

theorem drawdownSized_of_blind {env : EngineEnv} (r : SizingRun) (op : OrchestratorOp)
    (hblind : SizingBlind env r op) : DrawdownSized env r op := by
  cases op with
  | evaluate symbol b ctx precomputed cursor =>
      intro cfg signal tier hcfg hplain htier hin heval
      refine ⟨evaluate_fired heval, ?_⟩
      rintro p ⟨cfg', lastM15, setup, hcfg', hlast, hfire, rfl⟩
      rw [hcfg] at hcfg'
      cases hcfg'
      rcases hblind cfg tier hcfg htier hin with ⟨htierBlind, hcredit⟩
      have hequity := judge_fire_in_credit hplain hcredit hfire
      have hle := (clampedRisk_le_prescribed_iff htier _).mpr htierBlind
      refine le_trans (judge_fire_risk_le hplain hequity hfire) ?_
      refine mul_le_mul_of_nonneg_right ?_ hequity
      linarith
  | recordEntry symbol t =>
      exact trivial
  | recordExit symbol kind t pnl =>
      exact trivial
  | restart =>
      exact trivial

/-- In a run whose calls use a risk percent blind to the tiers reached, every
returned signal has the risk the drawdown multiplier prescribes. -/
theorem drawdown_sizing_over_runs (env : EngineEnv) (cfg : DefaultRiskCfg)
    (ops : List OrchestratorOp)
    (hblind : EveryStep (sizingStep env) (SizingBlind env) (startSizing cfg) ops) :
    EveryStep (sizingStep env) (DrawdownSized env) (startSizing cfg) ops :=
  everyStep_of_inv (fun _ => True) (fun _ _ _ _ => trivial)
    (fun r op _ hop => drawdownSized_of_blind r op hop) trivial hblind

/-!
# A tenth lost, the next signal at full risk
-/

def goldBundle : CandleBundle :=
  { m15 := flatM15 2004 2 (goldStart + 60 * msPerHour)
    h1 := (List.range 60).map (goldBar 58)
    d1 := goldD1 }

def goldEvaluate (ctx : LiveContext) : OrchestratorOp :=
  .evaluate .XAUUSD goldBundle ctx none none

/-- A forced close a month before the bars costs a tenth of the balance. -/
def goldLoss : OrchestratorOp :=
  .recordExit .XAUUSD .other (goldStart - 30 * msPerDay) (some (-1000))

def goldLossRun (ctx : LiveContext) : List OrchestratorOp :=
  [goldLoss, goldEvaluate ctx, goldEvaluate ctx]

def goldLossState : SizingRun :=
  runFrom (sizingStep documentedEnv) (startSizing standardRiskCfg)
    [goldLoss, goldEvaluate goldContext]

def goldFrame : Frame :=
  makeFrame goldBundle (callIndicators documentedEnv goldBundle none) (Cursor.full goldBundle)
    { openTime := goldStart + 60 * msPerHour, open_ := 2004, high := 2006, low := 2002,
      close := 2004 }

def lowRiskContext : LiveContext :=
  { goldContext with riskPercent := some (1 / 2) }

/-- At half a percent per trade the floor already gives the prescribed risk. -/
theorem drawdown_sizing_at_the_floor :
    EveryStep (sizingStep documentedEnv) (SizingBlind documentedEnv)
        (startSizing standardRiskCfg) (goldLossRun lowRiskContext) ∧
      EveryStep (sizingStep documentedEnv) (DrawdownSized documentedEnv)
        (startSizing standardRiskCfg) (goldLossRun lowRiskContext) := by
  have hcall : forall r, SizingBlind documentedEnv r (goldEvaluate lowRiskContext) := by
    intro r cfg tier _ _ _
    refine ⟨Or.inl ?_, Or.inl ?_⟩
    · norm_num [sizingConfig, lowRiskContext]
    · norm_num [lowRiskContext, goldContext]
  have hblind : EveryStep (sizingStep documentedEnv) (SizingBlind documentedEnv)
      (startSizing standardRiskCfg) (goldLossRun lowRiskContext) :=
    ⟨trivial, hcall _, hcall _, trivial⟩
  exact ⟨hblind, drawdown_sizing_over_runs documentedEnv standardRiskCfg _ hblind⟩

/-- The call returns what the gold setup fires, with a lot above the risk that the
tier of ten percent prescribes. -/
def returnsOverTier (out : Except EngineError (Option SmcLiveSignal)) (verdict : Verdict) :
    Bool :=
  match out, verdict with
  | .ok (some signal), .fire fired =>
      decide (fired = signal) &&
        decide (110 / 100 * prescribedRisk (15 / 10) ⟨10, 1 / 2⟩ / 100 * 10000 <
          dollarRisk .XAUUSD (planEntry .XAUUSD xauusdSmcConfig goldFrame goldSetup)
            signal.totalLot)
  | _, _ => false

set_option maxRecDepth 20000 in
/-- After a forced close that costs a tenth of the balance, the next signal
still risks 1.31% of the account, where the multiplier prescribes 0.7425%. -/
theorem full_risk_after_losing_a_tenth :
    ¬ EveryStep (sizingStep documentedEnv) (DrawdownSized documentedEnv)
      (startSizing standardRiskCfg) (goldLossRun goldContext) := by
  rintro ⟨-, -, h, -⟩
  have hcheck : returnsOverTier (evaluate documentedEnv goldLossState.orchestrator .XAUUSD
        goldBundle goldContext none none).2
      (judge documentedEnv .XAUUSD xauusdSmcConfig goldFrame goldContext
        (goldLossState.orchestrator.getOrCreateState .XAUUSD).actionedSweeps goldSetup) =
          true := by
    decide +kernel
  unfold returnsOverTier at hcheck
  split at hcheck
  · next signal fired heval hfire =>
      rw [Bool.and_eq_true, decide_eq_true_eq, decide_eq_true_eq] at hcheck
      rcases hcheck with ⟨rfl, hover⟩
      have hin : InTier goldLossState .XAUUSD ⟨10, 1 / 2⟩ := by
        refine ⟨10000, ?_, ?_⟩ <;> decide +kernel
      have hbound := (h xauusdSmcConfig fired ⟨10, 1 / 2⟩ rfl rfl (by simp [ddTiers]) hin
        heval).2 _ ⟨xauusdSmcConfig, _, goldSetup, rfl, rfl, hfire, rfl⟩
      exact absurd hbound (not_le.mpr hover)
  · cases hcheck

end Orchestrator
end Shamarx
