import Shamarx.Engine.Structure
import Shamarx.Engine.SweepLemmas

/-!
# Index-based detectors read a prefix

Cutting the candles and the indicator arrays to their first `n` entries does not
change a detector that is asked about an index below `n`.  The D1 lookups are
not in this list: they search by time.
-/

namespace Shamarx
namespace Engine

open Foundation

def IndicatorState.take (ind : IndicatorState) (n : Nat) : IndicatorState :=
  { ema20 := ind.ema20.take n
    ema50 := ind.ema50.take n
    ema200 := ind.ema200.take n
    rsi14 := ind.rsi14.take n
    atr14 := ind.atr14.take n
    adx14 := ind.adx14.take n
    plusDI14 := ind.plusDI14.take n
    minusDI14 := ind.minusDI14.take n
    atrBaseline := ind.atrBaseline.take n }

variable {candles : List BacktestCandle} {n : Nat}

theorem valueAt_take (xs : List (Option ℚ)) {i : Nat} (h : i < n) :
    valueAt (xs.take n) i = valueAt xs i := by
  rw [valueAt, valueAt, List.getElem?_take_of_lt h]

theorem nullishAt_take (xs : List (Option ℚ)) {i : Nat} (h : i < n) :
    nullishAt (xs.take n) i = nullishAt xs i := by
  rw [nullishAt, nullishAt, List.getElem?_take_of_lt h]

/-!
# Swings and sweeps
-/

theorem swingHighAt_take {k : Nat} (h : k + 1 < n) :
    swingHighAt (candles.take n) k = swingHighAt candles k := by
  have hk : k < n := by omega
  have hbefore : k - 1 < n := by omega
  rw [swingHighAt, swingHighAt, List.getElem?_take_of_lt h, List.getElem?_take_of_lt hk,
    List.getElem?_take_of_lt hbefore]

theorem swingLowAt_take {k : Nat} (h : k + 1 < n) :
    swingLowAt (candles.take n) k = swingLowAt candles k := by
  have hk : k < n := by omega
  have hbefore : k - 1 < n := by omega
  rw [swingLowAt, swingLowAt, List.getElem?_take_of_lt h, List.getElem?_take_of_lt hk,
    List.getElem?_take_of_lt hbefore]

theorem findRecentSwingHigh_take {idx : Nat} (h : idx < n) (lookback : Nat) :
    findRecentSwingHigh (candles.take n) idx lookback =
      findRecentSwingHigh candles idx lookback :=
  scanDown_congr fun _ _ hk => swingHighAt_take (by omega)

theorem findRecentSwingLow_take {idx : Nat} (h : idx < n) (lookback : Nat) :
    findRecentSwingLow (candles.take n) idx lookback =
      findRecentSwingLow candles idx lookback :=
  scanDown_congr fun _ _ hk => swingLowAt_take (by omega)

theorem findSweptSwingIdx_take {idx : Nat} (h : idx ≤ n) (side : Side) (level : ℚ)
    (searchBack : Nat) :
    findSweptSwingIdx (candles.take n) idx side level searchBack =
      findSweptSwingIdx candles idx side level searchBack := by
  have hscan : scanDown (max 1 (idx - searchBack)) idx
      (sweptSwingProbe (candles.take n) side level) =
        scanDown (max 1 (idx - searchBack)) idx (sweptSwingProbe candles side level) := by
    apply scanDown_congr
    intro k _ hk
    have hkn : k < n := by omega
    rw [sweptSwingProbe, sweptSwingProbe, List.getElem?_take_of_lt hkn]
  rw [findSweptSwingIdx, findSweptSwingIdx, hscan]

theorem findSweptSwingIdx_lt {idx k : Nat} {side : Side} {level : ℚ} {searchBack : Nat}
    (h : findSweptSwingIdx candles idx side level searchBack = .ok (some k)) : k < idx := by
  unfold findSweptSwingIdx at h
  split at h
  · cases h
  · next j hscan =>
      cases h
      rcases scanDown_some hscan with ⟨i, hi, hprobe⟩
      unfold sweptSwingProbe at hprobe
      split at hprobe
      · cases hprobe
      · dsimp only at hprobe
        split_ifs at hprobe
        all_goals
          cases hprobe
          exact hi
  · cases h

theorem sweepBar_take {idx : Nat} (h : idx < n) (ind : IndicatorState)
    (cfg : SmcPairConfig) :
    sweepBar (candles.take n) (ind.take n) idx cfg = sweepBar candles ind idx cfg := by
  simp only [sweepBar, IndicatorState.take, valueAt_take _ h, List.getElem?_take_of_lt h]

theorem swingSweep_take {idx : Nat} (h : idx < n) (bar : BacktestCandle) (atr : ℚ)
    (bias : D1Bias) (mode : SmcMode) (cfg : SmcPairConfig) :
    swingSweep (candles.take n) bar atr idx bias mode cfg =
      swingSweep candles bar atr idx bias mode cfg := by
  simp only [swingSweep, findRecentSwingHigh_take h, findRecentSwingLow_take h]

def InTimeOrder (candles : List BacktestCandle) : Prop :=
  candles.Pairwise fun a b => a.openTime ≤ b.openTime

instance (candles : List BacktestCandle) : Decidable (InTimeOrder candles) :=
  inferInstanceAs (Decidable (List.Pairwise _ candles))

theorem InTimeOrder.le_of_drop (hord : InTimeOrder candles) {idx : Nat}
    {bar c : BacktestCandle} (hidx : idx < n) (hbar : candles[idx]? = some bar)
    (hc : c ∈ candles.drop n) : bar.openTime ≤ c.openTime := by
  have hsplit : candles = candles.take n ++ candles.drop n :=
    (List.take_append_drop n candles).symm
  rw [InTimeOrder, hsplit, List.pairwise_append] at hord
  refine hord.2.2 bar ?_ c hc
  rw [← List.getElem?_take_of_lt hidx] at hbar
  exact List.mem_of_getElem? hbar

theorem InTimeOrder.le_of_take (hord : InTimeOrder candles) {i : Nat} {bar c : BacktestCandle}
    (hbar : candles[i]? = some bar) (hc : c ∈ candles.take (i + 1)) :
    c.openTime ≤ bar.openTime := by
  rw [List.take_add_one, hbar, Option.toList_some, List.mem_append, List.mem_singleton] at hc
  cases hc with
  | inl hbefore =>
      have hfrom : bar ∈ candles.drop i :=
        List.mem_of_getElem? (i := 0) (by rw [List.getElem?_drop, Nat.add_zero, hbar])
      rw [InTimeOrder, <- List.take_append_drop i candles, List.pairwise_append] at hord
      exact hord.2.2 c hbefore bar hfrom
  | inr hlast =>
      rw [hlast]

theorem getAnchorLevels_take (hord : InTimeOrder candles) {idx : Nat}
    {bar : BacktestCandle} (hidx : idx < n) (hbar : candles[idx]? = some bar) :
    getAnchorLevels (candles.take n) bar.openTime = getAnchorLevels candles bar.openTime := by
  have happend := getAnchorLevels_append (candles.take n) (candles.drop n) bar.openTime
    (fun _ hc => hord.le_of_drop hidx hbar hc)
  rw [List.take_append_drop] at happend
  exact happend.symm

/-- Detection on a bar whose next bar is inside the cut; the D1 arrays may differ
as long as they give the same answer to the mode filter. -/
theorem detectSweep_take (hord : InTimeOrder candles) {idx : Nat} (h : idx + 1 < n)
    (ind : IndicatorState) (bias : D1Bias) (adx : ℚ) (cfg : SmcPairConfig)
    {d1 d1' : List BacktestCandle} {d1Ind d1Ind' : Option IndicatorState} {t : Int}
    (hmode : ModeRejected d1' d1Ind' t bias adx cfg ↔ ModeRejected d1 d1Ind t bias adx cfg) :
    detectSweep (candles.take n) (ind.take n) idx bias adx cfg d1' d1Ind' t =
      detectSweep candles ind idx bias adx cfg d1 d1Ind t := by
  have hidx : idx < n := by omega
  unfold detectSweep
  rw [sweepBar_take hidx]
  split
  · rfl
  · next bar atr hbar =>
      have hget : candles[idx]? = some bar := sweepBar_bar hbar
      simp only [hmode, getAnchorLevels_take hord hidx hget, List.getElem?_take_of_lt h,
        swingSweep_take hidx]

theorem anchorSweep_next {anchors : AnchorLevels} {bar : BacktestCandle} {atr : ℚ} {idx : Nat}
    {bias : D1Bias} {mode : SmcMode} {cfg : SmcPairConfig}
    (hoff : cfg.anchorDisplacementAtr.getD 0 ≤ 0) (next next' : Option BacktestCandle) :
    anchorSweep anchors next bar atr idx bias mode cfg =
      anchorSweep anchors next' bar atr idx bias mode cfg := by
  simp only [anchorSweep, PassesDisplacement, hoff, true_or, true_and]

/-- Two histories that agree up to the bar, and on the next one if the displacement of
anchor sweeps is checked, have the same setup. -/
theorem detectSweep_congr {candles' : List BacktestCandle} {ind ind' : IndicatorState}
    {idx : Nat} {cfg : SmcPairConfig} {bias : D1Bias} {adx : ℚ} {d1 d1' : List BacktestCandle}
    {d1Ind d1Ind' : Option IndicatorState} {t : Int} (hord : InTimeOrder candles)
    (hord' : InTimeOrder candles') (hbars : candles.take (idx + 1) = candles'.take (idx + 1))
    (hind : ind.take (idx + 1) = ind'.take (idx + 1))
    (hnext : cfg.useAnchorSweeps = true -> 0 < cfg.anchorDisplacementAtr.getD 0 ->
      candles[idx + 1]? = candles'[idx + 1]?)
    (hmode : ModeRejected d1 d1Ind t bias adx cfg ↔ ModeRejected d1' d1Ind' t bias adx cfg) :
    detectSweep candles ind idx bias adx cfg d1 d1Ind t =
      detectSweep candles' ind' idx bias adx cfg d1' d1Ind' t := by
  have hidx : idx < idx + 1 := Nat.lt_succ_self idx
  have hsweep : sweepBar candles ind idx cfg = sweepBar candles' ind' idx cfg := by
    rw [<- sweepBar_take hidx ind cfg, hbars, hind, sweepBar_take hidx ind' cfg]
  unfold detectSweep
  rw [hsweep]
  cases hbar : sweepBar candles' ind' idx cfg with
  | none =>
      rfl
  | some found =>
      rcases found with ⟨bar, atr⟩
      have hget' : candles'[idx]? = some bar := sweepBar_bar hbar
      have hget : candles[idx]? = some bar := sweepBar_bar (hsweep.trans hbar)
      have hanchors : getAnchorLevels candles bar.openTime =
          getAnchorLevels candles' bar.openTime := by
        rw [<- getAnchorLevels_take hord hidx hget, hbars, getAnchorLevels_take hord' hidx hget']
      have hswing : forall mode, swingSweep candles bar atr idx bias mode cfg =
          swingSweep candles' bar atr idx bias mode cfg := by
        intro mode
        rw [<- swingSweep_take hidx, hbars, swingSweep_take hidx]
      dsimp only
      rw [hanchors, hswing]
      refine if_congr hmode rfl ?_
      by_cases hanchor : cfg.useAnchorSweeps = true
      · rw [if_pos hanchor, if_pos hanchor]
        by_cases hdisp : 0 < cfg.anchorDisplacementAtr.getD 0
        · rw [hnext hanchor hdisp]
        · exact anchorSweep_next (not_lt.mp hdisp) _ _
      · rw [if_neg hanchor, if_neg hanchor]

/-!
# Fair value gaps
-/

theorem mitigationIdx_take {e : Nat} (h : e < n) (z : Zone) (lo : Nat) :
    mitigationIdx (candles.take n) z lo e = mitigationIdx candles z lo e := by
  apply scanUp_congr
  intro k _ hk
  have hkn : k < n := by omega
  rw [List.getElem?_take_of_lt hkn]

theorem makeFvg_take {e i : Nat} (he : e < n) (hi : i < n) (bottom top : ℚ) (up : Bool) :
    makeFvg (candles.take n) i bottom top up e = makeFvg candles i bottom top up e := by
  simp only [makeFvg, List.getElem?_take_of_lt hi, mitigationIdx_take he]

theorem fvgAt_take {e i : Nat} (he : e < n) (hi : i < e) (atr : List (Option ℚ)) :
    fvgAt (candles.take n) 0 (atr.take n) e i = fvgAt candles 0 atr e i := by
  have hbefore : i - 1 < n := by omega
  have hafter : i + 1 < n := by omega
  have hin : i < n := by omega
  simp only [fvgAt, List.getElem?_take_of_lt hbefore, List.getElem?_take_of_lt hafter,
    makeFvg_take he hin, passesAtrFilter, le_refl, true_or, if_true]

theorem detectFvgs_take {e : Nat} (he : e < n) (hn : n ≤ candles.length)
    (lookback : Option Nat) (atr : List (Option ℚ)) :
    detectFvgs (candles.take n)
        { endIdx := some e, lookback := lookback, atr := atr.take n } =
      detectFvgs candles { endIdx := some e, lookback := lookback, atr := atr } := by
  have hlen : (candles.take n).length = n := by
    rw [List.length_take]
    omega
  have hcut : min e ((candles.take n).length - 1) = e := by omega
  have hfull : min e (candles.length - 1) = e := by omega
  simp only [detectFvgs, Option.getD_some, Option.getD_none, hcut, hfull]
  apply List.filterMap_congr
  intro i hi
  rw [List.mem_range'_1] at hi
  exact fvgAt_take he (by omega) atr

theorem hasSupportingFvg_take {e : Nat} (he : e < n) (hn : n ≤ candles.length) (side : Side)
    (entryPrice maxDistance : ℚ) (atr : List (Option ℚ)) :
    hasSupportingFvg (candles.take n) side entryPrice maxDistance (atr.take n) e =
      hasSupportingFvg candles side entryPrice maxDistance atr e := by
  simp only [hasSupportingFvg, nearestUnmitigatedFvg, detectFvgs_take he hn,
    nullishAt_take atr he]

theorem sweptMoveLeftFvg_take {swing : Nat} (hs : swing < n) (hn : n ≤ candles.length)
    (side : Side) (lookback : Nat) (atr : List (Option ℚ)) :
    sweptMoveLeftFvg (candles.take n) swing side lookback (atr.take n) =
      sweptMoveLeftFvg candles swing side lookback atr := by
  simp only [sweptMoveLeftFvg, detectFvgs_take hs hn]

/-!
# Order blocks
-/

theorem obAt_take {e i lookForward : Nat} (he : e < n) (hi : i < e) (mult : ℚ)
    (atr : List (Option ℚ)) :
    obAt (candles.take n) lookForward mult (atr.take n) e i =
      obAt candles lookForward mult atr e i := by
  have hin : i < n := by omega
  simp only [obAt, List.getElem?_take_of_lt hin, nullishAt_take atr hin]
  refine congrArg _ (funext fun c => congrArg _ (funext fun localAtr => ?_))
  refine if_congr Iff.rfl rfl (scanUp_congr fun k _ hk => ?_)
  have hkn : k < n := by omega
  simp only [List.getElem?_take_of_lt hkn, makeOb, mitigationIdx_take he]

theorem detectOrderBlocks_take {e : Nat} (he : e < n) (hn : n ≤ candles.length)
    (atr : List (Option ℚ)) :
    detectOrderBlocks (candles.take n) { endIdx := some e, atr := atr.take n } =
      detectOrderBlocks candles { endIdx := some e, atr := atr } := by
  have hlen : (candles.take n).length = n := by
    rw [List.length_take]
    omega
  have hcut : min e ((candles.take n).length - 1) = e := by omega
  have hfull : min e (candles.length - 1) = e := by omega
  simp only [detectOrderBlocks, Option.getD_some, Option.getD_none, hcut, hfull]
  apply List.filterMap_congr
  intro i hi
  rw [List.mem_range'_1] at hi
  exact obAt_take he (by omega) _ atr

theorem hasSupportingOb_take {e : Nat} (he : e < n) (hn : n ≤ candles.length) (side : Side)
    (entryPrice maxDistance : ℚ) (atr : List (Option ℚ)) :
    hasSupportingOb (candles.take n) side entryPrice maxDistance (atr.take n) e =
      hasSupportingOb candles side entryPrice maxDistance atr e := by
  simp only [hasSupportingOb, nearestUnmitigatedOb, detectOrderBlocks_take he hn,
    nullishAt_take atr he]

theorem hasFreshObAtSweptLevel_take {swing : Nat} (hs : swing < n) (side : Side)
    (lookback : Nat) (atr : List (Option ℚ)) (mult : ℚ) :
    hasFreshObAtSweptLevel (candles.take n) swing side lookback (atr.take n) mult =
      hasFreshObAtSweptLevel candles swing side lookback atr mult := by
  simp only [hasFreshObAtSweptLevel, List.getElem?_take_of_lt hs]
  refine if_congr Iff.rfl rfl (congrArg _ (funext fun swingCandle => ?_))
  apply scanDown_congr
  intro k _ hk
  have hkn : k < n := by omega
  simp only [freshObProbe, List.getElem?_take_of_lt hkn, nullishAt_take atr hkn]

/-!
# Breaks of structure

The length check of `detectBos` reads the whole array, so its answer is kept
only when both lengths are on one side of the bound.
-/

theorem bosAt_take {k : Nat} (hk : k < n) (side : Side) (swingLookback : Nat) :
    bosAt (candles.take n) side swingLookback k = bosAt candles side swingLookback k := by
  cases side <;>
    simp only [bosAt, findRecentSwingHigh_take hk, findRecentSwingLow_take hk,
      List.getElem?_take_of_lt hk]

theorem hasBosAfter_take {e : Nat} (he : e < n) {swingLookback : Nat}
    (hlen : (candles.take n).length < swingLookback + 2 ↔
      candles.length < swingLookback + 2) (side : Side) (sinceIdx : Nat) :
    hasBosAfter (candles.take n) side sinceIdx e swingLookback =
      hasBosAfter candles side sinceIdx e swingLookback := by
  have hdetect : forall lookback,
      detectBos (candles.take n) side e lookback swingLookback =
        detectBos candles side e lookback swingLookback := by
    intro lookback
    unfold detectBos
    simp only [hlen]
    split_ifs
    · rfl
    · exact scanDown_congr fun k _ hk => bosAt_take (by omega) side swingLookback
  rw [hasBosAfter, hasBosAfter, hdetect]

theorem sweptLevelWasItselfABos_take {swing : Nat} (hs : swing < n) (side : Side)
    (lookback : Nat) :
    sweptLevelWasItselfABos (candles.take n) swing side lookback =
      sweptLevelWasItselfABos candles swing side lookback := by
  simp only [sweptLevelWasItselfABos, List.getElem?_take_of_lt hs]
  refine if_congr Iff.rfl rfl (congrArg _ (funext fun swingCandle => ?_))
  apply scanDown_congr
  intro k _ hk
  have hkn : k + 1 < n := by omega
  cases side <;>
    simp only [priorSwingProbe, findRecentSwingHigh_take hkn, findRecentSwingLow_take hkn]

end Engine
end Shamarx
