import Shamarx.Engine.Sweep

/-!
# Detected setups

A detected setup records its bar: the index, the opening time and the expiry
index counted from it.
-/

namespace Shamarx
namespace Engine

/-- The setup was made from bar `idx` of these candles. -/
def MadeAt (h1Candles : List BacktestCandle) (cfg : SmcPairConfig) (idx : Nat)
    (s : PendingSetup) : Prop :=
  s.detectedAtH1Idx = idx ∧ s.expiresAtH1Idx = idx + cfg.setupExpiryH1Bars ∧
    exists bar, h1Candles[idx]? = some bar ∧ s.sweepTime = bar.openTime

theorem makeSetup_madeAt {h1Candles : List BacktestCandle} {bar : BacktestCandle}
    {idx : Nat} (hbar : h1Candles[idx]? = some bar) (atr : ℚ) (mode : SmcMode)
    (cfg : SmcPairConfig) (direction : Side) (level wick : ℚ) (anchor : Option AnchorType) :
    MadeAt h1Candles cfg idx
      (makeSetup bar atr idx mode cfg direction level wick anchor) :=
  ⟨rfl, rfl, bar, hbar, rfl⟩

theorem sweepBar_bar {h1Candles : List BacktestCandle} {ind : IndicatorState} {idx : Nat}
    {cfg : SmcPairConfig} {bar : BacktestCandle} {atr : ℚ}
    (h : sweepBar h1Candles ind idx cfg = some (bar, atr)) : h1Candles[idx]? = some bar := by
  unfold sweepBar at h
  split_ifs at h with hidx
  cases hbar : h1Candles[idx]? with
  | none =>
      simp [hbar] at h
  | some c =>
      cases hatr : valueAt ind.atr14 idx with
      | none =>
          simp [hbar, hatr] at h
      | some a =>
          simp only [hbar, hatr, Option.bind_eq_bind, Option.bind_some] at h
          split_ifs at h with hpos
          split at h
          · split_ifs at h with hspike
            simp only [Option.some.injEq, Prod.mk.injEq] at h
            exact congrArg some h.1
          · simp only [Option.some.injEq, Prod.mk.injEq] at h
            exact congrArg some h.1

theorem swingSweep_madeAt {h1Candles : List BacktestCandle} {bar : BacktestCandle}
    {idx : Nat} (hbar : h1Candles[idx]? = some bar) {atr : ℚ} {bias : D1Bias}
    {mode : SmcMode} {cfg : SmcPairConfig} {s : PendingSetup}
    (h : swingSweep h1Candles bar atr idx bias mode cfg = some s) :
    MadeAt h1Candles cfg idx s := by
  have hmade := makeSetup_madeAt hbar atr mode cfg
  unfold swingSweep at h
  cases mode <;> cases bias <;>
    simp only [Option.bind_eq_bind, Option.or_eq_some_iff, Option.bind_eq_some_iff,
      Option.ite_none_right_eq_some, Option.some.injEq, reduceCtorEq] at h
  all_goals first
    | (rcases h with ⟨level, -, -, rfl⟩ | ⟨-, level, -, -, rfl⟩ <;> exact hmade _ _ _ _)
    | (rcases h with ⟨level, -, -, rfl⟩; exact hmade _ _ _ _)

theorem anchorSweep_madeAt {h1Candles : List BacktestCandle} {bar : BacktestCandle}
    {idx : Nat} (hbar : h1Candles[idx]? = some bar) {anchors : AnchorLevels}
    {next : Option BacktestCandle} {atr : ℚ} {bias : D1Bias}
    {mode : SmcMode} {cfg : SmcPairConfig} {s : PendingSetup}
    (h : anchorSweep anchors next bar atr idx bias mode cfg = some s) :
    MadeAt h1Candles cfg idx s := by
  have hmade := makeSetup_madeAt hbar atr mode cfg
  unfold anchorSweep at h
  rw [Option.or_eq_some_iff] at h
  rcases h with h | ⟨-, h⟩
  all_goals
    rcases List.exists_of_findSome?_eq_some h with ⟨anchor, -, hanchor⟩
    simp only [Option.bind_eq_bind, Option.bind_eq_some_iff,
      Option.ite_none_right_eq_some, Option.some.injEq] at hanchor
    rcases hanchor with ⟨range, -, -, rfl⟩
    exact hmade _ _ _ _

theorem detectSweep_madeAt {h1Candles : List BacktestCandle} {ind : IndicatorState}
    {idx : Nat} {bias : D1Bias} {adx : ℚ} {cfg : SmcPairConfig}
    {d1Candles : List BacktestCandle} {d1Ind : Option IndicatorState} {t : Int}
    {s : PendingSetup}
    (h : detectSweep h1Candles ind idx bias adx cfg d1Candles d1Ind t = some s) :
    MadeAt h1Candles cfg idx s := by
  unfold detectSweep at h
  split at h
  · cases h
  · next bar atr hsweep =>
      have hbar := sweepBar_bar hsweep
      dsimp only at h
      split_ifs at h with hmode hanchor
      · exact anchorSweep_madeAt hbar h
      · exact swingSweep_madeAt hbar h

end Engine
end Shamarx
