import Shamarx.Backtest.GapRetirement

/-!
# The regime within an H1 bar

The hysteresis is skipped where the H1 bar is that of the state before.  A call that is
repeated on one H1 bar then gives the raw regime, whatever the first call held.
-/

namespace Shamarx
namespace Backtest

open Foundation
open Engine

/-!
# The state after a bar
-/

namespace WalkForward

theorem regimeOf_dateStep (w : Walk) (s : EngineRun) (t t' : Int) :
    regimeOf w (dateStep s t) t' = regimeOf w s t' := by
  unfold dateStep
  split <;> rfl

theorem regimeState_fillStep (args : EvaluatorArgs) (s : EngineRun) :
    (fillStep args s).1.regimeState = s.regimeState := by
  unfold fillStep
  split <;> rfl

theorem regimeState_signalStep (w : Walk) (args : EvaluatorArgs)
    (tradingMode : RiskManager.TradingMode) (s : EngineRun) :
    (signalStep w args tradingMode s).1.regimeState = s.regimeState := by
  unfold signalStep
  cases trendSignal args with
  | some signal =>
      rfl
  | none =>
      exact regimeState_fillStep args s

theorem regimeState_setupStep (w : Walk) (rs : RegimeState) (bar : BacktestCandle × Nat)
    (s : EngineRun) : (setupStep w rs bar s).regimeState = s.regimeState := by
  have hsearch :=
    regimeState_signalStep w (evaluatorArgs w rs s bar) s.riskManager.getTradingMode s
  unfold setupStep
  dsimp only
  split
  · exact hsearch
  · exact (congrArg Prod.fst (market_enterStep w rs _ _ bar _ _)).trans hsearch

theorem regimeState_barStep (w : Walk) (s : EngineRun) (bar : BacktestCandle × Nat) :
    (barStep w s bar).regimeState = some (regimeOf w s bar.1.openTime) := by
  have htrade : (tradeStep w s bar).regimeState = some (regimeOf w s bar.1.openTime) := by
    have hmarket := congrArg Prod.fst (market_tradeStep w s bar)
    rw [regimeOf_dateStep] at hmarket
    exact hmarket
  rw [<- htrade]
  unfold barStep gateStep
  dsimp only
  split_ifs
  · rfl
  · rfl
  · rfl
  · rw [regimeState_setupStep]

theorem regimeState_run (w : Walk) {n : Nat} {c : BacktestCandle}
    (hc : w.m15Candles[n]? = some c) :
    (run w (n + 1)).regimeState = some (regimeOf w (run w n) c.openTime) := by
  rcases List.getElem?_eq_some_iff.mp hc with ⟨hn, rfl⟩
  rw [run_succ w hn, regimeState_barStep]

end WalkForward

/-!
# One call
-/

section Call

/-- The regime that the readings of an H1 bar give without hysteresis. -/
def rawRegimeAt (h1Indicators : IndicatorState) (idx : Nat) : DetailedRegime :=
  rawRegime ((valueAt h1Indicators.adx14 idx).getD 0) (diSeparationAt h1Indicators idx)
    (atrRatioAt h1Indicators idx)

def ExitCrossed (h1Indicators : IndicatorState) (idx : Nat) (prev : RegimeState) : Prop :=
  ShouldSwitch prev.regime ((valueAt h1Indicators.adx14 idx).getD 0)
    (diSeparationAt h1Indicators idx) (atrRatioAt h1Indicators idx) (prev.durationBars + 1)

instance (h1Indicators : IndicatorState) (idx : Nat) (prev : RegimeState) :
    Decidable (ExitCrossed h1Indicators idx prev) :=
  inferInstanceAs (Decidable (ShouldSwitch _ _ _ _ _))

def weakened (confidence : ℚ) (settled : DetailedRegime × Nat) : DetailedRegime × Nat :=
  if settled.1 = .weakTrend ∧ confidence < 30 then (.ranging, 1) else settled

def settledAt (h1Indicators : IndicatorState) (idx : Nat) (prevState : Option RegimeState) :
    DetailedRegime × Nat :=
  withHysteresis prevState idx ((valueAt h1Indicators.adx14 idx).getD 0)
    (diSeparationAt h1Indicators idx) (atrRatioAt h1Indicators idx)

/-- The first call on an H1 bar has nothing to hold: it is not the first, or the readings
leave the regime before for another, or the trend engine is losing and turns both what is
held and the raw regime into a range, or no H1 bar came before. -/
def NothingHeld (h1Indicators : IndicatorState) (idx : Nat) (confidence : ℚ) :
    Option RegimeState -> Prop
  | none => True
  | some prev =>
      prev.h1Idx = some idx ∨
        (prev.regime ≠ rawRegimeAt h1Indicators idx ∧ ExitCrossed h1Indicators idx prev) ∨
        (prev.regime = .weakTrend ∧ confidence < 30 ∧
          (rawRegimeAt h1Indicators idx = .weakTrend ∨
            rawRegimeAt h1Indicators idx = .ranging)) ∨
        (prev.regime = rawRegimeAt h1Indicators idx ∧ prev.durationBars = 0)

variable {h1Candles : List BacktestCandle} {h1Indicators : IndicatorState} {t : Int}
  {prevState : Option RegimeState} {prev : RegimeState} {tracker : PerformanceTracker}
  {idx : Nat} {confidence : ℚ}

theorem detectRegime_eq (hidx : d1IdxAt h1Candles t = some idx) :
    ((detectRegime h1Candles h1Indicators t prevState tracker).regime,
        (detectRegime h1Candles h1Indicators t prevState tracker).durationBars) =
      weakened (tracker.getEngineConfidence (.of .trendPullback))
        (settledAt h1Indicators idx prevState) := by
  unfold detectRegime
  rw [hidx]
  rfl

theorem h1Idx_detectRegime (h1Candles : List BacktestCandle) (h1Indicators : IndicatorState)
    (t : Int) (prevState : Option RegimeState) (tracker : PerformanceTracker) :
    (detectRegime h1Candles h1Indicators t prevState tracker).h1Idx = d1IdxAt h1Candles t := by
  unfold detectRegime
  cases d1IdxAt h1Candles t with
  | none =>
      rfl
  | some idx =>
      rfl

theorem settledAt_some (h1Indicators : IndicatorState) (idx : Nat) (prev : RegimeState) :
    settledAt h1Indicators idx (some prev) =
      if prev.h1Idx = some idx then (rawRegimeAt h1Indicators idx, 1)
      else if prev.regime = rawRegimeAt h1Indicators idx then
        (rawRegimeAt h1Indicators idx, prev.durationBars + 1)
      else if ExitCrossed h1Indicators idx prev then (rawRegimeAt h1Indicators idx, 1)
      else (prev.regime, prev.durationBars + 1) :=
  rfl

theorem settledAt_same (h : prev.h1Idx = some idx) :
    settledAt h1Indicators idx (some prev) = (rawRegimeAt h1Indicators idx, 1) := by
  rw [settledAt_some, if_pos h]

theorem exitCrossed_of_raw_weak (hprev : prev.regime = .ranging)
    (hraw : rawRegimeAt h1Indicators idx = .weakTrend) :
    ExitCrossed h1Indicators idx prev := by
  unfold rawRegimeAt rawRegime at hraw
  split_ifs at hraw with hvolatile hstrong hweak
  unfold ExitCrossed
  rw [hprev]
  exact Or.inl hweak

theorem weakened_prolonged_iff (regime : DetailedRegime) (n : Nat) :
    weakened confidence (regime, 1) = weakened confidence (regime, n + 1) <->
      (regime = .weakTrend ∧ confidence < 30) ∨ n = 0 := by
  unfold weakened
  dsimp only
  by_cases hweak : regime = .weakTrend ∧ confidence < 30
  · rw [if_pos hweak, if_pos hweak]
    exact iff_of_true rfl (Or.inl hweak)
  · rw [if_neg hweak, if_neg hweak, Prod.mk.injEq, or_iff_right hweak]
    constructor
    · intro h
      omega
    · intro h
      exact ⟨rfl, by rw [h]⟩

theorem weakened_held_iff {raw held : DetailedRegime} (hne : held ≠ raw)
    (hrange : held = .ranging -> raw ≠ .weakTrend) (n : Nat) :
    weakened confidence (raw, 1) = weakened confidence (held, n + 1) <->
      held = .weakTrend ∧ confidence < 30 ∧ raw = .ranging := by
  unfold weakened
  dsimp only
  by_cases hheld : held = .weakTrend ∧ confidence < 30
  · have hraw : ¬ (raw = .weakTrend ∧ confidence < 30) := fun h => hne (hheld.1.trans h.1.symm)
    rw [if_pos hheld, if_neg hraw, Prod.mk.injEq, and_iff_left rfl]
    exact ⟨fun h => ⟨hheld.1, hheld.2, h⟩, fun h => h.2.2⟩
  · rw [if_neg hheld]
    refine iff_of_false ?_ fun h => hheld ⟨h.1, h.2.1⟩
    split_ifs with hraw
    · intro heq
      exact hrange (congrArg Prod.fst heq).symm hraw.1
    · intro heq
      exact hne (congrArg Prod.fst heq).symm

theorem weakened_settledAt_iff :
    weakened confidence (rawRegimeAt h1Indicators idx, 1) =
        weakened confidence (settledAt h1Indicators idx prevState) <->
      NothingHeld h1Indicators idx confidence prevState := by
  cases prevState with
  | none =>
      exact iff_of_true rfl trivial
  | some prev =>
      by_cases hsame : prev.h1Idx = some idx
      · rw [settledAt_same hsame]
        exact iff_of_true rfl (Or.inl hsame)
      · rw [settledAt_some, if_neg hsame]
        by_cases hraw : prev.regime = rawRegimeAt h1Indicators idx
        · rw [if_pos hraw, weakened_prolonged_iff, <- hraw]
          constructor
          · intro h
            rcases h with h | h
            · exact Or.inr (Or.inr (Or.inl ⟨h.1, h.2, Or.inl (hraw ▸ h.1)⟩))
            · exact Or.inr (Or.inr (Or.inr ⟨hraw, h⟩))
          · intro h
            rcases h with h | h | h | h
            · exact absurd h hsame
            · exact absurd hraw h.1
            · exact Or.inl ⟨h.1, h.2.1⟩
            · exact Or.inr h.2
        · rw [if_neg hraw]
          by_cases hexit : ExitCrossed h1Indicators idx prev
          · rw [if_pos hexit]
            exact iff_of_true rfl (Or.inr (Or.inl ⟨hraw, hexit⟩))
          · have hrange : prev.regime = .ranging -> rawRegimeAt h1Indicators idx ≠ .weakTrend :=
              fun hprev hweak => hexit (exitCrossed_of_raw_weak hprev hweak)
            rw [if_neg hexit, weakened_held_iff hraw hrange]
            constructor
            · intro h
              exact Or.inr (Or.inr (Or.inl ⟨h.1, h.2.1, Or.inr h.2.2⟩))
            · intro h
              rcases h with h | h | h | h
              · exact absurd h hsame
              · exact absurd h.2 hexit
              · exact ⟨h.1, h.2.1, h.2.2.resolve_left fun hweak => hraw (h.1.trans hweak.symm)⟩
              · exact absurd h.1 hraw

end Call

/-!
# The calls of a run
-/

namespace WalkForward

def trendConfidence (s : EngineRun) : ℚ :=
  s.performanceTracker.getEngineConfidence (.of .trendPullback)

theorem regimeOf_eq {w : Walk} {s : EngineRun} {t : Int} {idx : Nat}
    (hidx : d1IdxAt w.h1Candles t = some idx) :
    ((regimeOf w s t).regime, (regimeOf w s t).durationBars) =
      weakened (trendConfidence s) (settledAt w.h1Indicators idx s.regimeState) :=
  detectRegime_eq hidx

theorem regimeOf_unknown {w : Walk} {s : EngineRun} {t : Int}
    (hidx : d1IdxAt w.h1Candles t = none) : regimeOf w s t = .unknown := by
  unfold regimeOf detectRegime
  rw [hidx]

structure SameH1Bar (w : Walk) (i : Nat) (c next : BacktestCandle) : Prop where
  first : w.m15Candles[i]? = some c
  second : w.m15Candles[i + 1]? = some next
  h1Bar : d1IdxAt w.h1Candles next.openTime = d1IdxAt w.h1Candles c.openTime
  confidence : trendConfidence (run w (i + 1)) = trendConfidence (run w i)

def RegimeKept (w : Walk) : Prop :=
  forall i c next, SameH1Bar w i c next ->
    (regimeOf w (run w (i + 1)) next.openTime).regime =
        (regimeOf w (run w i) c.openTime).regime ∧
      (regimeOf w (run w (i + 1)) next.openTime).durationBars =
        (regimeOf w (run w i) c.openTime).durationBars

/-- At no such pair of bars does the first call hold a regime. -/
def NothingHeldWithin (w : Walk) : Prop :=
  forall i c next idx, SameH1Bar w i c next -> d1IdxAt w.h1Candles c.openTime = some idx ->
    NothingHeld w.h1Indicators idx (trendConfidence (run w i)) (run w i).regimeState

theorem SameH1Bar.agree_iff {w : Walk} {i idx : Nat} {c next : BacktestCandle}
    (h : SameH1Bar w i c next) (hidx : d1IdxAt w.h1Candles c.openTime = some idx) :
    ((regimeOf w (run w (i + 1)) next.openTime).regime =
          (regimeOf w (run w i) c.openTime).regime ∧
        (regimeOf w (run w (i + 1)) next.openTime).durationBars =
          (regimeOf w (run w i) c.openTime).durationBars) <->
      NothingHeld w.h1Indicators idx (trendConfidence (run w i)) (run w i).regimeState := by
  have hstate := regimeState_run w h.first
  have hh1 : (regimeOf w (run w i) c.openTime).h1Idx = some idx :=
    (h1Idx_detectRegime _ _ _ _ _).trans hidx
  rw [<- Prod.mk.injEq, regimeOf_eq (h.h1Bar.trans hidx), regimeOf_eq hidx, h.confidence,
    hstate, settledAt_same hh1]
  exact weakened_settledAt_iff

/-- The regime is kept within the H1 bars of a run if and only if the first call on each
has nothing to hold. -/
theorem regimeKept_iff (w : Walk) : RegimeKept w <-> NothingHeldWithin w := by
  constructor
  · intro h i c next idx hpair hidx
    exact (hpair.agree_iff hidx).mp (h i c next hpair)
  · intro h i c next hpair
    cases hidx : d1IdxAt w.h1Candles c.openTime with
    | none =>
        rw [regimeOf_unknown hidx, regimeOf_unknown (hpair.h1Bar.trans hidx)]
        exact ⟨rfl, rfl⟩
    | some idx =>
        exact (hpair.agree_iff hidx).mpr (h i c next idx hpair hidx)

/-- Two H1 bars, and three M15 bars of which the last two are at the second. -/
def quietWalk : Walk :=
  { jumpWalk with
    m15Candles := [jumpBar 3, jumpBar 4, jumpBar 5]
    h1Candles := [jumpBar 0, { jumpBar 4 with openTime := jumpStart + msPerHour }] }

/-- The first call at the second H1 bar counts two bars of the regime, the next call one. -/
theorem not_regimeKept_quietWalk : ¬ RegimeKept quietWalk := by
  intro h
  have hpair : SameH1Bar quietWalk 1 (jumpBar 4) (jumpBar 5) :=
    { first := rfl
      second := rfl
      h1Bar := by decide +kernel
      confidence := by decide +kernel }
  have hfirst : (regimeOf quietWalk (run quietWalk 1) (jumpBar 4).openTime).durationBars = 2 := by
    decide +kernel
  have hsecond : (regimeOf quietWalk (run quietWalk 2) (jumpBar 5).openTime).durationBars = 1 := by
    decide +kernel
  have hsame := (h 1 _ _ hpair).2
  rw [hfirst, hsecond] at hsame
  cases hsame

end WalkForward

end Backtest
end Shamarx
