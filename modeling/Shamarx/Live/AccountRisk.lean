import Shamarx.Live.SweepExecution
import Shamarx.Orchestrator.SignalShape

/-!
# Account risk under shared signals

A canonical signal is sized on a notional equity and rescaled for each account.
The execution takes the notional lots for lots of exactly the engine's risk: the
allowance of an account is kept exactly when the signal itself risks no more.
-/

namespace Shamarx
namespace Live

open Foundation
open Engine
open Orchestrator
open SweepExecution

/-!
# Risk of legs
-/

def signalUsdPerLot (signal : SmcLiveSignal) : ℚ :=
  RiskManager.usdPerLot signal.symbol |signal.entryPrice - signal.slPrice|
    (some signal.entryPrice)

def legsRisk (signal : SmcLiveSignal) : ℚ :=
  (signal.legs.map SmcLiveSignalLeg.lotSize).sum * signalUsdPerLot signal

def riskAllowanceFactor : ℚ := 16 / 10

/-- The environment of the live process, in which nothing sets a pair override. -/
def liveEnv (indicators : TechnicalIndicators) (riskPercent : ℚ) : EngineEnv :=
  { indicators := indicators, overrides := noOverrides, riskPercent := riskPercent }

/-- The range that `validateConfig` of the control service accepts. -/
def AcceptedRisk (riskPercent : ℚ) : Prop :=
  25 / 100 ≤ riskPercent ∧ riskPercent ≤ 4

instance (riskPercent : ℚ) : Decidable (AcceptedRisk riskPercent) :=
  inferInstanceAs (Decidable (_ ∧ _))

/-- Every placement in market mode at this engine risk stays within the allowance
of its account. -/
def RiskWithinAllowance (engineRisk : ℚ) (signal : SmcLiveSignal) : Prop :=
  forall retraceEntry account user (r : AccountReadings) sized,
    account.user = some user -> ¬ (retraceEntry = true ∧ account.ctrader = true) ->
    r.engineRisk = engineRisk -> 0 < r.equity ->
    sizeForAccount retraceEntry signal account r = .ok sized ->
    legsRisk sized ≤
      riskAllowanceFactor * r.equity * (getPreset user.presetKey).riskPercent / 100

def IsShared (symbol : Instrument) : Prop :=
  exists key, symbol ∈ (getPreset key).pairs

/-- The notional legs risk at most the engine's percentage of the notional equity. -/
def NotionalWithinEngineRisk (engineRisk : ℚ) (signal : SmcLiveSignal) : Prop :=
  legsRisk signal ≤ engineRisk / 100 * sharedSignalNotionalEquity

instance (engineRisk : ℚ) (signal : SmcLiveSignal) :
    Decidable (NotionalWithinEngineRisk engineRisk signal) :=
  inferInstanceAs (Decidable (_ ≤ _))

/-!
# Rescaled legs
-/

/-- Two legs of whole hundredths, neither more than four times the other. -/
structure BalancedLadder (signal : SmcLiveSignal) where
  first : Nat
  second : Nat
  first_pos : 1 ≤ first
  second_pos : 1 ≤ second
  first_le : first ≤ 4 * second
  second_le : second ≤ 4 * first
  legs_length : signal.legs.length = 2
  lots : signal.legs.map SmcLiveSignalLeg.lotSize = [(first : ℚ) / 100, (second : ℚ) / 100]
  total : signal.totalLot = (first + second : ℚ) / 100

theorem resize_lots (signal : SmcLiveSignal) (factor : ℚ) :
    (resize signal factor 1).legs.map SmcLiveSignalLeg.lotSize =
      (signal.legs.map SmcLiveSignalLeg.lotSize).map fun lot =>
        (wholeUnits (lot * factor * 100) : ℚ) / 100 := by
  unfold resize
  simp only [List.map_map, Function.comp_def, mul_one, RiskManager.floored_lot]

theorem resize_signalUsdPerLot (signal : SmcLiveSignal) (factor lotMult : ℚ) :
    signalUsdPerLot (resize signal factor lotMult) = signalUsdPerLot signal :=
  rfl

namespace BalancedLadder

variable {signal : SmcLiveSignal}

theorem legsRisk_eq (l : BalancedLadder signal) :
    legsRisk signal = (l.first + l.second : ℚ) / 100 * signalUsdPerLot signal := by
  unfold legsRisk
  rw [l.lots]
  simp only [List.sum_cons, List.sum_nil]
  ring

theorem resize_legsRisk (l : BalancedLadder signal) (factor : ℚ) :
    legsRisk (resize signal factor 1) =
      (wholeUnits (l.first * factor) + wholeUnits (l.second * factor) : ℚ) / 100 *
        signalUsdPerLot signal := by
  have hunits : forall n : Nat, (n : ℚ) / 100 * factor * 100 = n * factor := by
    intro n
    ring
  unfold legsRisk
  rw [resize_lots, resize_signalUsdPerLot, l.lots]
  simp only [List.map_cons, List.map_nil, List.sum_cons, List.sum_nil, hunits]
  ring

theorem resize_legsRisk_le (l : BalancedLadder signal) {factor : ℚ} (hfactor : 0 < factor)
    (hper : 0 ≤ signalUsdPerLot signal)
    (hpass : signal.legs.length * (1 / 100) * minLotRiskTolerance ≤
      signal.totalLot * factor) :
    legsRisk (resize signal factor 1) ≤ 8 / 5 * (factor * legsRisk signal) := by
  have htotal : 5 / 4 ≤ l.first * factor + l.second * factor := by
    rw [l.legs_length, l.total, minLotRiskTolerance] at hpass
    norm_num at hpass
    linarith
  have hfirst : (l.first : ℚ) * factor ≤ 4 * (l.second * factor) := by
    rw [← mul_assoc]
    exact mul_le_mul_of_nonneg_right (by exact_mod_cast l.first_le) hfactor.le
  have hsecond : (l.second : ℚ) * factor ≤ 4 * (l.first * factor) := by
    rw [← mul_assoc]
    exact mul_le_mul_of_nonneg_right (by exact_mod_cast l.second_le) hfactor.le
  have hunits := mul_le_mul_of_nonneg_right (wholeUnits_pair_le htotal hfirst hsecond) hper
  rw [l.resize_legsRisk, l.legsRisk_eq]
  linarith

theorem resize_legsRisk_nonpos (l : BalancedLadder signal) (factor : ℚ)
    (hper : signalUsdPerLot signal ≤ 0) : legsRisk (resize signal factor 1) ≤ 0 := by
  have hfirst : (1 : ℚ) ≤ wholeUnits (l.first * factor) := by
    exact_mod_cast one_le_wholeUnits _
  have hsecond : (1 : ℚ) ≤ wholeUnits (l.second * factor) := by
    exact_mod_cast one_le_wholeUnits _
  rw [l.resize_legsRisk]
  exact mul_nonpos_of_nonneg_of_nonpos (div_nonneg (by linarith) (by norm_num)) hper

/-- Just enough to pass the minimum-lot test gives both legs the minimum lot. -/
theorem resize_legsRisk_minimal (l : BalancedLadder signal) :
    legsRisk (resize signal (5 / 4 / (l.first + l.second : ℚ)) 1) =
      2 / 100 * signalUsdPerLot signal := by
  have hfirst : (0 : ℚ) < l.first := by exact_mod_cast l.first_pos
  have hsecond : (0 : ℚ) < l.second := by exact_mod_cast l.second_pos
  have hpart : forall a : ℚ, 0 < a -> a < l.first + l.second ->
      wholeUnits (a * (5 / 4 / (l.first + l.second))) = 1 := by
    intro a ha hlt
    refine wholeUnits_of_lt ?_
    rw [mul_div_assoc', div_lt_iff₀ (by linarith)]
    linarith
  rw [l.resize_legsRisk, hpart _ hfirst (by linarith), hpart _ hsecond (by linarith)]
  norm_num

end BalancedLadder

/-!
# Canonical signals
-/

theorem registry_ladder {symbol : Instrument} {cfg : SmcPairConfig}
    (h : getSmcPairConfig noOverrides symbol = some cfg) :
    cfg.tp1PartialFraction = 3 / 10 ∧ cfg.convictionSizing = none := by
  cases symbol <;> simp [getSmcPairConfig, smcPairRegistry, noOverrides] at h <;>
    subst h <;> exact ⟨by decide +kernel, rfl⟩

/-- Three tenths of at least two hundredths, rounded: each part is at most four
times the other. -/
theorem three_tenths_balanced {n a : Nat} (hn : 2 ≤ n)
    (ha : (a : Int) = wholeUnits (n * (3 / 10))) : n ≤ 5 * a ∧ 5 * a ≤ 4 * n := by
  have hcount : (2 : ℚ) ≤ n := by exact_mod_cast hn
  have hcast : (a : ℚ) = wholeUnits (n * (3 / 10)) := by exact_mod_cast ha
  have hlower : (n : ℚ) * (3 / 10) - 1 / 2 ≤ a := by
    have hround : (roundHalfUp (n * (3 / 10)) : ℚ) ≤ wholeUnits (n * (3 / 10)) := by
      exact_mod_cast le_max_right _ _
    linarith [lt_roundHalfUp_add_one (n * (3 / 10) : ℚ)]
  have hone : 1 ≤ a := by
    have := one_le_wholeUnits (n * (3 / 10))
    omega
  have hupper : (a : ℚ) ≤ n * (3 / 10) + 1 / 2 := by
    rw [hcast]
    exact wholeUnits_le (by linarith)
  constructor
  · rcases le_or_gt n 5 with hsmall | hlarge
    · omega
    · have hsix : (6 : ℚ) ≤ n := by exact_mod_cast hlarge
      have hbound : (n : ℚ) ≤ 5 * a := by linarith
      exact_mod_cast hbound
  · have hbound : 5 * (a : ℚ) ≤ 4 * n := by linarith
    exact_mod_cast hbound

theorem evaluate_balanced {indicators : TechnicalIndicators} {riskPercent : ℚ}
    {o : LiveSmcOrchestrator} {symbol : Instrument} {b : CandleBundle} {ctx : LiveContext}
    {precomputed : Option PrecomputedIndicators} {cursor : Option (Cursor b)}
    {signal : SmcLiveSignal}
    (h : (evaluate (liveEnv indicators riskPercent) o symbol b ctx precomputed cursor).2 =
      .ok (some signal)) : Nonempty (BalancedLadder signal) := by
  rcases evaluate_fired h with ⟨p, cfg, lastM15, setup, hcfg, hlast, hfire, -⟩
  rcases registry_ladder hcfg with ⟨hfrac, hplain⟩
  rcases judge_fire_hundredths hplain hfire with ⟨n, hone, hhundred, htwo, hn⟩
  have htwo : 2 ≤ n := htwo (by rw [hfrac]; norm_num)
  rcases judge_fire_legs hfire with ⟨tp1Price, tp2Price, hlegs⟩
  have hshare : cfg.tp1PartialFraction ≤ 7 / 10 := by
    rw [hfrac]
    norm_num
  rcases ladder_split htwo hshare with ⟨a, haround, ha, han, hfirst, hsecond⟩
  rw [hfrac] at haround
  rcases three_tenths_balanced htwo haround with ⟨hrest, hpart⟩
  have hlots := hlegs.ladder_lots (by rw [hfrac]; norm_num)
  rw [hn, hfirst, hsecond] at hlots
  refine ⟨{ first := a, second := n - a, first_pos := ha, second_pos := by omega,
            first_le := by omega, second_le := by omega, legs_length := ?_, lots := hlots,
            total := ?_ }⟩
  · rw [← List.length_map (f := SmcLiveSignalLeg.lotSize), hlots]
    rfl
  · rw [hn, Nat.cast_sub han.le, add_sub_cancel]

/-!
# The allowance of an account
-/

theorem sizeForAccount_ok {retraceEntry : Bool} {signal sized : SmcLiveSignal}
    {account : SharedAccount} {user : AccountUser} {r : AccountReadings}
    (huser : account.user = some user)
    (hmarket : ¬ (retraceEntry = true ∧ account.ctrader = true))
    (h : sizeForAccount retraceEntry signal account r = .ok sized) :
    signal.symbol ∈ (getPreset user.presetKey).pairs ∧
      signal.legs.length * (1 / 100) * minLotRiskTolerance ≤
        signal.totalLot * sizeFactor (getPreset user.presetKey) r ∧
      sized = resize signal (sizeFactor (getPreset user.presetKey) r) 1 := by
  unfold sizeForAccount at h
  rw [huser] at h
  dsimp only at h
  rw [if_neg hmarket, mul_one] at h
  split_ifs at h with hoff hpair hdir hopen hloss hmin
  cases h
  exact ⟨hpair, not_lt.mp hmin, rfl⟩

theorem presetRisk_pos (key : PresetKey) : 0 < (getPreset key).riskPercent := by
  cases key <;> norm_num [getPreset]

theorem sizeFactor_pos {key : PresetKey} {r : AccountReadings} (hrisk : 0 < r.engineRisk)
    (hequity : 0 < r.equity) : 0 < sizeFactor (getPreset key) r :=
  div_pos (mul_pos hequity (presetRisk_pos key))
    (mul_pos (by norm_num [sharedSignalNotionalEquity]) hrisk)

theorem sizeFactor_mul (preset : StrategyPreset) {r : AccountReadings}
    (hrisk : 0 < r.engineRisk) :
    sizeFactor preset r * (r.engineRisk / 100 * sharedSignalNotionalEquity) =
      r.equity * preset.riskPercent / 100 := by
  unfold sizeFactor sharedSignalNotionalEquity
  field_simp

theorem risk_within_of_notional {engineRisk : ℚ} {signal : SmcLiveSignal}
    (l : BalancedLadder signal) (hengine : 0 < engineRisk)
    (h : NotionalWithinEngineRisk engineRisk signal) :
    RiskWithinAllowance engineRisk signal := by
  intro retraceEntry account user r sized huser hmarket hread hequity hsized
  subst hread
  rcases sizeForAccount_ok huser hmarket hsized with ⟨-, hpass, rfl⟩
  have hfactor : 0 < sizeFactor (getPreset user.presetKey) r := sizeFactor_pos hengine hequity
  have htarget := sizeFactor_mul (getPreset user.presetKey) hengine
  have hpositive := mul_pos hequity (presetRisk_pos user.presetKey)
  unfold riskAllowanceFactor
  rcases le_or_gt 0 (signalUsdPerLot signal) with hper | hneg
  · have hgrow := l.resize_legsRisk_le hfactor hper hpass
    have hscaled := mul_le_mul_of_nonneg_left h hfactor.le
    rw [htarget] at hscaled
    linarith
  · have hnonpos := l.resize_legsRisk_nonpos (sizeFactor (getPreset user.presetKey) r) hneg.le
    linarith

/-- An account whose equity just passes the minimum-lot test. -/
def minimalAccount (key : PresetKey) : SharedAccount :=
  { id := ""
    isEnabled := true
    ctrader := false
    user := some { botEnabled := true, isActive := true, presetKey := key } }

def minimalReadings (key : PresetKey) (engineRisk lots : ℚ) : AccountReadings :=
  { positions := []
    equity := 5 / 4 / lots * (sharedSignalNotionalEquity * engineRisk) / (getPreset key).riskPercent
    openCount := 0
    dayPnl := 0
    engineRisk := engineRisk }

theorem minimalReadings_equity_pos (key : PresetKey) {engineRisk lots : ℚ}
    (hrisk : 0 < engineRisk) (hlots : 0 < lots) :
    0 < (minimalReadings key engineRisk lots).equity :=
  div_pos (mul_pos (div_pos (by norm_num) hlots)
    (mul_pos (by norm_num [sharedSignalNotionalEquity]) hrisk)) (presetRisk_pos key)

theorem sizeFactor_minimal (key : PresetKey) {engineRisk lots : ℚ} (hrisk : 0 < engineRisk) :
    sizeFactor (getPreset key) (minimalReadings key engineRisk lots) = 5 / 4 / lots := by
  have hnotional : (0 : ℚ) < sharedSignalNotionalEquity := by
    norm_num [sharedSignalNotionalEquity]
  have hpreset := presetRisk_pos key
  unfold sizeFactor minimalReadings
  dsimp only
  rw [div_mul_cancel₀ _ hpreset.ne', mul_div_assoc, div_self (mul_pos hnotional hrisk).ne',
    mul_one]

theorem sizeForAccount_minimal {key : PresetKey} {signal : SmcLiveSignal} {engineRisk : ℚ}
    (l : BalancedLadder signal) (hpair : signal.symbol ∈ (getPreset key).pairs)
    (hrisk : 0 < engineRisk) :
    sizeForAccount false signal (minimalAccount key)
        (minimalReadings key engineRisk (l.first + l.second)) =
      .ok (resize signal (5 / 4 / (l.first + l.second : ℚ)) 1) := by
  have hfirst : (0 : ℚ) < l.first := by exact_mod_cast l.first_pos
  have hsecond : (0 : ℚ) < l.second := by exact_mod_cast l.second_pos
  have hequity := minimalReadings_equity_pos key hrisk (add_pos hfirst hsecond)
  have hside : signal.side ∉
      (minimalReadings key engineRisk (l.first + l.second)).positions := List.not_mem_nil
  have hopen : ¬ (getPreset key).maxOpenPositions ≤
      (minimalReadings key engineRisk (l.first + l.second)).openCount := by
    cases key <;> norm_num [getPreset, minimalReadings]
  have hcap : 0 < (getPreset key).maxDailyLossPercent := by
    cases key <;> norm_num [getPreset]
  have hloss : ¬ (minimalReadings key engineRisk (l.first + l.second)).dayPnl ≤
      -((getPreset key).maxDailyLossPercent / 100 *
        (minimalReadings key engineRisk (l.first + l.second)).equity) := by
    have hlimit := mul_pos (div_pos hcap (by norm_num : (0 : ℚ) < 100)) hequity
    exact not_le.mpr (neg_neg_of_pos hlimit)
  have hpass : ¬ signal.totalLot * (5 / 4 / (l.first + l.second : ℚ)) * 1 <
      signal.legs.length * (1 / 100) * minLotRiskTolerance := by
    have hlots : (l.first + l.second : ℚ) ≠ 0 := (add_pos hfirst hsecond).ne'
    have hscaled : signal.totalLot * (5 / 4 / (l.first + l.second : ℚ)) = 1 / 80 := by
      rw [l.total]
      field_simp
      norm_num
    rw [hscaled, l.legs_length, minLotRiskTolerance]
    norm_num
  unfold sizeForAccount
  simp only [minimalAccount, Bool.false_eq_true, and_self, not_true_eq_false, if_false]
  rw [sizeFactor_minimal key hrisk, if_neg (not_not.mpr hpair), if_neg hside,
    if_neg hopen, if_neg hloss, if_neg hpass]

theorem notional_of_risk_within {engineRisk : ℚ} {signal : SmcLiveSignal}
    (l : BalancedLadder signal) (hengine : 0 < engineRisk)
    (hshared : IsShared signal.symbol) (h : RiskWithinAllowance engineRisk signal) :
    NotionalWithinEngineRisk engineRisk signal := by
  rcases hshared with ⟨key, hpair⟩
  have hfirst : (0 : ℚ) < l.first := by exact_mod_cast l.first_pos
  have hsecond : (0 : ℚ) < l.second := by exact_mod_cast l.second_pos
  have hlots := add_pos hfirst hsecond
  have hequity := minimalReadings_equity_pos key hengine hlots
  have hbound := h false (minimalAccount key) ⟨true, true, key⟩
    (minimalReadings key engineRisk (l.first + l.second)) _ rfl (by simp) rfl hequity
    (sizeForAccount_minimal l hpair hengine)
  have htarget := sizeFactor_mul (getPreset key)
    (r := minimalReadings key engineRisk (l.first + l.second)) hengine
  rw [sizeFactor_minimal key hengine] at htarget
  rw [l.resize_legsRisk_minimal, riskAllowanceFactor, mul_assoc, mul_div_assoc, ← htarget]
    at hbound
  have hunits : 2 / 100 * signalUsdPerLot signal * (l.first + l.second : ℚ) ≤
      2 * (engineRisk / 100 * sharedSignalNotionalEquity) := by
    have hscaled := mul_le_mul_of_nonneg_right hbound hlots.le
    have hcancel : 16 / 10 * (5 / 4 / (l.first + l.second : ℚ) *
          (engineRisk / 100 * sharedSignalNotionalEquity)) * (l.first + l.second : ℚ) =
        2 * (engineRisk / 100 * sharedSignalNotionalEquity) := by
      field_simp
      ring
    rw [← hcancel]
    exact hscaled
  unfold NotionalWithinEngineRisk
  rw [l.legsRisk_eq]
  linarith

/-- Every account that places a canonical signal stays within the allowance exactly
if the signal, traded by a preset, risks at most the engine's percentage. -/
theorem account_risk_within_iff (indicators : TechnicalIndicators) (defaultRisk : ℚ)
    (o : LiveSmcOrchestrator) (symbol : Instrument) (b : CandleBundle)
    (openHere : List Side) (openSymbols : Nat) (engineRisk : ℚ) (signal : SmcLiveSignal)
    (hengine : AcceptedRisk engineRisk)
    (h : (evaluate (liveEnv indicators defaultRisk) o symbol b
      (notionalContext openHere openSymbols engineRisk) none none).2 = .ok (some signal)) :
    RiskWithinAllowance engineRisk signal ↔
      (IsShared signal.symbol -> NotionalWithinEngineRisk engineRisk signal) := by
  rcases evaluate_balanced h with ⟨l⟩
  have hpositive : 0 < engineRisk := by linarith [hengine.1]
  constructor
  · intro hwithin hshared
    exact notional_of_risk_within l hpositive hshared hwithin
  · intro hnotional
    by_cases hshared : IsShared signal.symbol
    · exact risk_within_of_notional l hpositive (hnotional hshared)
    · intro retraceEntry account user r sized huser hmarket _ _ hsized
      exact absurd ⟨user.presetKey, (sizeForAccount_ok huser hmarket hsized).1⟩ hshared

/-!
# Gold at two engine risks
-/

def goldNotionalCall (engineRisk : ℚ) : Except EngineError (Option SmcLiveSignal) :=
  (evaluate (liveEnv documentedIndicators (15 / 10)) (LiveSmcOrchestrator.create standardRiskCfg)
    .XAUUSD goldBundle (notionalContext [] 0 engineRisk) none none).2

def tenThousandReadings (engineRisk : ℚ) : AccountReadings :=
  { positions := [], equity := 10000, openCount := 0, dayPnl := 0, engineRisk := engineRisk }

def goldNotionalWithin (engineRisk : ℚ) : Bool :=
  match goldNotionalCall engineRisk with
  | .ok (some signal) => decide (NotionalWithinEngineRisk engineRisk signal)
  | _ => false

def goldAccountOver (engineRisk : ℚ) : Bool :=
  match goldNotionalCall engineRisk with
  | .ok (some signal) =>
      match sizeForAccount false signal (minimalAccount .balanced)
          (tenThousandReadings engineRisk) with
      | .ok sized => decide (riskAllowanceFactor * 10000 * 1 / 100 < legsRisk sized)
      | .error _ => false
  | _ => false

set_option maxRecDepth 20000 in
/-- At one and a half percent the gold signal is within the engine's risk, and so
every account is within its allowance. -/
theorem gold_account_risk_within :
    exists signal, goldNotionalCall (15 / 10) = .ok (some signal) ∧
      RiskWithinAllowance (15 / 10) signal := by
  have hwithin : goldNotionalWithin (15 / 10) = true := by decide +kernel
  unfold goldNotionalWithin at hwithin
  split at hwithin
  · next signal hcall =>
      refine ⟨signal, hcall, ?_⟩
      have hnotional : IsShared signal.symbol -> NotionalWithinEngineRisk (15 / 10) signal :=
        fun _ => of_decide_eq_true hwithin
      exact (account_risk_within_iff documentedIndicators (15 / 10)
        (LiveSmcOrchestrator.create standardRiskCfg) .XAUUSD goldBundle [] 0 (15 / 10) signal
        (by decide +kernel) hcall).mpr hnotional
  · cases hwithin

set_option maxRecDepth 20000 in
/-- At a quarter of a percent the floor of the engine's risk doubles the notional
lots, and a balanced account is sized past its allowance. -/
theorem gold_account_over_allowance :
    AcceptedRisk (1 / 4) ∧ exists signal, goldNotionalCall (1 / 4) = .ok (some signal) ∧
      ¬ RiskWithinAllowance (1 / 4) signal := by
  refine ⟨by decide +kernel, ?_⟩
  have hover : goldAccountOver (1 / 4) = true := by decide +kernel
  unfold goldAccountOver at hover
  split at hover
  · next signal hcall =>
      split at hover
      · next sized hsized =>
          refine ⟨signal, hcall, fun h => ?_⟩
          have hbound := h false (minimalAccount .balanced) ⟨true, true, .balanced⟩ _ sized rfl
            (by simp) rfl (by norm_num [tenThousandReadings]) hsized
          exact absurd hbound (not_le.mpr (of_decide_eq_true hover))
      · cases hover
  · cases hover

end Live
end Shamarx
