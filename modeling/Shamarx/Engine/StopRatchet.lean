import Shamarx.Engine.PositionSimulator
import Shamarx.Foundation.Runs

/-!
# The stop only ratchets

A position is folded through `updatePositionManagement`, one candle after the other.
Its stop and its peak move in its favour only, break-even lasts and puts a floor
under the stop, and the stop stays behind the peak.
-/

namespace Shamarx
namespace Engine

open Foundation

namespace Side

variable {side : Side} {a b d e : ℚ}

theorem ahead_atLeast (hd : 0 ≤ d) : side.AtLeast (side.ahead a d) a := by
  cases side with
  | buy =>
      exact le_add_of_nonneg_right hd
  | sell =>
      exact sub_le_self a hd

theorem atLeast_behind (hd : 0 ≤ d) : side.AtLeast a (side.ahead a (-d)) := by
  cases side with
  | buy =>
      exact add_le_of_nonpos_right (neg_nonpos.mpr hd)
  | sell =>
      change a ≤ a - -d
      rw [sub_neg_eq_add]
      exact le_add_of_nonneg_right hd

theorem best_best (side : Side) (a b : ℚ) : side.best a (side.best a b) = side.best a b := by
  unfold best
  split_ifs <;> rfl

theorem ahead_mono (h : d ≤ e) : side.AtLeast (side.ahead a e) (side.ahead a d) := by
  cases side with
  | buy =>
      exact add_le_add_right h a
  | sell =>
      exact sub_le_sub_left h a

end Side

/-!
# Trails that stay behind the peak
-/

/-- The threshold of break-even is past the stop that it sets, and no tier of the trail
has a negative distance. -/
structure RegimeTradeParams.Sane (config : RegimeTradeParams) : Prop where
  threshold : 1 / 10 ≤ config.beThresholdR
  width : 0 ≤ config.trailWidthMult.getD 1
  clamp : -9 ≤ config.slClampMaxAtr

theorem computeTrailDistance_nonneg {config : RegimeTradeParams} (h : config.Sane) {risk : ℚ}
    (hrisk : 0 ≤ risk) (move : ℚ) (isFVG : Bool) :
    0 ≤ computeTrailDistance move risk config isFVG := by
  have htight : -3 ≤ min 1 (config.slClampMaxAtr / 3) := by
    apply le_min
    · norm_num
    · linarith [h.clamp]
  have hwidth : 0 ≤ config.trailWidthMult.getD 1 * risk := mul_nonneg h.width hrisk
  unfold computeTrailDistance
  dsimp only
  generalize min 1 (config.slClampMaxAtr / 3) = tightness at htight
  split_ifs
  all_goals first
    | exact hwidth
    | (apply mul_nonneg hwidth
       linarith)

namespace ManagedPosition

variable {p : ManagedPosition}

theorem risk_nonneg (p : ManagedPosition) : 0 ≤ p.risk :=
  abs_nonneg _

theorem peak_atLeast_trailStop (hcfg : p.config.Sane) (peak : ℚ) :
    p.side.AtLeast peak (p.trailStop peak) :=
  Side.atLeast_behind (computeTrailDistance_nonneg hcfg p.risk_nonneg _ _)

/-!
# One candle
-/

structure Opened (p : ManagedPosition) : Prop where
  managed : p.rangeEngine = false
  stop : p.slPrice = p.originalSlPrice
  protective : p.side.AtLeast p.entryPrice p.originalSlPrice
  peak : p.peakFavorablePrice = p.entryPrice
  waiting : p.breakevenActivated = false

/-- Where stop and peak stand to each other. -/
structure Governed (p : ManagedPosition) : Prop where
  managed : p.rangeEngine = false
  protective : p.side.AtLeast p.entryPrice p.originalSlPrice
  waiting : p.breakevenActivated = false -> p.slPrice = p.originalSlPrice
  floor : p.breakevenActivated = true -> p.side.AtLeast p.slPrice p.breakevenStop
  behind : p.side.AtLeast p.peakFavorablePrice p.slPrice

/-- What no update takes back, and what it leaves alone. -/
structure Ratchets (p q : ManagedPosition) : Prop where
  side : q.side = p.side
  entryPrice : q.entryPrice = p.entryPrice
  originalSlPrice : q.originalSlPrice = p.originalSlPrice
  config : q.config = p.config
  stop : p.side.AtLeast q.slPrice p.slPrice
  peak : p.side.AtLeast q.peakFavorablePrice p.peakFavorablePrice
  breakeven : p.breakevenActivated = true -> q.breakevenActivated = true
  target : p.tpPrice = none -> q.tpPrice = none

theorem Opened.governed (h : p.Opened) : p.Governed where
  managed := h.managed
  protective := h.protective
  waiting := fun _ => h.stop
  floor := by
    intro hactive
    rw [h.waiting] at hactive
    cases hactive
  behind := by
    rw [h.peak, h.stop]
    exact h.protective

theorem Ratchets.refl (p : ManagedPosition) : Ratchets p p where
  side := rfl
  entryPrice := rfl
  originalSlPrice := rfl
  config := rfl
  stop := Side.atLeast_refl _ _
  peak := Side.atLeast_refl _ _
  breakeven := id
  target := id

theorem Ratchets.trans {q r : ManagedPosition} (hpq : Ratchets p q) (hqr : Ratchets q r) :
    Ratchets p r where
  side := hqr.side.trans hpq.side
  entryPrice := hqr.entryPrice.trans hpq.entryPrice
  originalSlPrice := hqr.originalSlPrice.trans hpq.originalSlPrice
  config := hqr.config.trans hpq.config
  stop := by
    have hstop := hqr.stop
    rw [hpq.side] at hstop
    exact hstop.trans hpq.stop
  peak := by
    have hpeak := hqr.peak
    rw [hpq.side] at hpeak
    exact hpeak.trans hpq.peak
  breakeven := fun h => hqr.breakeven (hpq.breakeven h)
  target := fun h => hqr.target (hpq.target h)

/-- The stop of break-even is better than the one at the start, and the peak has passed it. -/
theorem Governed.breakevenStop (h : p.Governed) :
    p.side.AtLeast p.breakevenStop p.originalSlPrice :=
  (Side.ahead_atLeast (mul_nonneg p.risk_nonneg (by norm_num))).trans h.protective

theorem Activates.atLeast_breakevenStop (hcfg : p.config.Sane) {peak : ℚ}
    (h : p.Activates peak) : p.side.AtLeast peak p.breakevenStop :=
  h.2.trans (Side.ahead_mono (mul_le_mul_of_nonneg_left hcfg.threshold p.risk_nonneg))

section Update

variable {candle : BacktestCandle} {spread : ℚ}

theorem Governed.update_waiting (h : p.Governed) (hbe : p.breakevenActivated = false)
    (hnot : ¬ p.Activates (p.updatedPeak candle spread)) :
    (updatePositionManagement p candle spread).Governed ∧
      Ratchets p (updatePositionManagement p candle spread) := by
  have hpeak := p.updatedPeak_atLeast candle spread
  rw [ManagedPosition.update_waiting h.managed hbe hnot]
  constructor
  · exact
      { managed := h.managed
        protective := h.protective
        waiting := h.waiting
        floor := h.floor
        behind := hpeak.trans h.behind }
  · exact { Ratchets.refl p with peak := hpeak }

/-- From break-even on the stop is the better one of the trail and a stop that is on the
floor already. -/
theorem Governed.update_active (h : p.Governed) (hcfg : p.config.Sane)
    (hactive : p.breakevenActivated = true ∨ p.Activates (p.updatedPeak candle spread)) :
    (updatePositionManagement p candle spread).Governed ∧
      Ratchets p (updatePositionManagement p candle spread) := by
  have hpeak := p.updatedPeak_atLeast candle spread
  rw [ManagedPosition.update_active h.managed hactive]
  generalize p.updatedPeak candle spread = peak at hpeak hactive ⊢
  have hkept : exists sl, sl = (if p.Activates peak then p.breakevenStop else p.slPrice) ∧
      p.side.AtLeast sl p.slPrice ∧ p.side.AtLeast sl p.breakevenStop ∧
        p.side.AtLeast peak sl := by
    refine ⟨_, rfl, ?_⟩
    by_cases hnow : p.Activates peak
    · rw [if_pos hnow, h.waiting hnow.1]
      exact ⟨h.breakevenStop, Side.atLeast_refl _ _, hnow.atLeast_breakevenStop hcfg⟩
    · have hbe := hactive.resolve_right hnow
      rw [if_neg hnow]
      exact ⟨Side.atLeast_refl _ _, h.floor hbe, hpeak.trans h.behind⟩
  rcases hkept with ⟨sl, hsl, hstop, hfloor, hbehind⟩
  rw [← hsl]
  have hbest := p.side.best_right (p.trailStop peak) sl
  constructor
  · exact
      { managed := h.managed
        protective := h.protective
        waiting := fun hbe => (nomatch hbe)
        floor := fun _ => hbest.trans hfloor
        behind := Side.atLeast_best (peak_atLeast_trailStop hcfg peak) hbehind }
  · refine
      { Ratchets.refl p with
        stop := hbest.trans hstop
        peak := hpeak
        breakeven := fun _ => rfl
        target := ?_ }
    intro htp
    dsimp only
    split_ifs
    · rfl
    · exact htp

theorem Governed.update (h : p.Governed) (hcfg : p.config.Sane) (candle : BacktestCandle)
    (spread : ℚ) :
    (updatePositionManagement p candle spread).Governed ∧
      Ratchets p (updatePositionManagement p candle spread) := by
  cases hbe : p.breakevenActivated with
  | true =>
      exact h.update_active hcfg (Or.inl hbe)
  | false =>
      by_cases hnow : p.Activates (p.updatedPeak candle spread)
      · exact h.update_active hcfg (Or.inr hnow)
      · exact h.update_waiting hbe hnow

end Update

/-!
# Lists of candles
-/

def managedOver (p : ManagedPosition) (candles : List (BacktestCandle × ℚ)) : ManagedPosition :=
  runFrom (fun p bar => updatePositionManagement p bar.1 bar.2) p candles

theorem Governed.managedOver (h : p.Governed) (hcfg : p.config.Sane)
    (candles : List (BacktestCandle × ℚ)) :
    (p.managedOver candles).Governed ∧ Ratchets p (p.managedOver candles) := by
  apply runFrom_inv (fun q : ManagedPosition => q.Governed ∧ Ratchets p q)
  · rintro q bar ⟨hq, hpq⟩
    have hsane : q.config.Sane := by
      rw [hpq.config]
      exact hcfg
    rcases hq.update hsane bar.1 bar.2 with ⟨hnext, hstep⟩
    exact ⟨hnext, hpq.trans hstep⟩
  · exact ⟨h, Ratchets.refl p⟩

/-- From any point of the candles on nothing is taken back, and at any point break-even
has put the stop on its floor and the stop is behind the peak. -/
theorem stop_ratchets (h : p.Opened) (hcfg : p.config.Sane)
    (candles later : List (BacktestCandle × ℚ)) :
    Ratchets (p.managedOver candles) (p.managedOver (candles ++ later)) ∧
      ((p.managedOver candles).breakevenActivated = true ->
        p.side.AtLeast (p.managedOver candles).slPrice p.breakevenStop) ∧
      p.side.AtLeast (p.managedOver candles).peakFavorablePrice
        (p.managedOver candles).slPrice := by
  rcases h.governed.managedOver hcfg candles with ⟨hnow, hpast⟩
  have hsane : (p.managedOver candles).config.Sane := by
    rw [hpast.config]
    exact hcfg
  have hsplit : p.managedOver (candles ++ later) = (p.managedOver candles).managedOver later :=
    runFrom_append _ p candles later
  have hfloorAt : (p.managedOver candles).breakevenStop = p.breakevenStop := by
    unfold ManagedPosition.breakevenStop ManagedPosition.risk
    rw [hpast.side, hpast.entryPrice, hpast.originalSlPrice]
  refine ⟨?_, ?_, ?_⟩
  · rw [hsplit]
    exact (hnow.managedOver hsane later).2
  · intro hbe
    have hfloor := hnow.floor hbe
    rw [hfloorAt, hpast.side] at hfloor
    exact hfloor
  · have hbehind := hnow.behind
    rw [hpast.side] at hbehind
    exact hbehind

/-!
# Stops that have followed their peak
-/

def managedStop (p : ManagedPosition) (peak : ℚ) : ℚ :=
  if p.breakevenActivated = true ∨ p.Activates peak then
    p.side.best (p.trailStop peak) (if p.Activates peak then p.breakevenStop else p.slPrice)
  else p.slPrice

theorem managedStop_past_breakeven (h : p.breakevenActivated = true) (peak : ℚ) :
    p.managedStop peak = p.side.best (p.trailStop peak) p.slPrice := by
  have hnot : ¬ p.Activates peak := fun hnow => Bool.false_ne_true (hnow.1.symm.trans h)
  rw [managedStop, if_pos (Or.inl h), if_neg hnot]

/-- Management leaves the stop where it is or puts it behind the peak. -/
theorem managedStop_cases (hcfg : p.config.Sane) (peak : ℚ) :
    p.managedStop peak = p.slPrice ∨ p.side.AtLeast peak (p.managedStop peak) := by
  unfold managedStop
  split_ifs with hactive hnow
  · right
    exact Side.atLeast_best (peak_atLeast_trailStop hcfg peak) (hnow.atLeast_breakevenStop hcfg)
  · unfold Side.best
    split_ifs
    · exact Or.inr (peak_atLeast_trailStop hcfg peak)
    · exact Or.inl rfl
  · exact Or.inl rfl

structure Settled (p : ManagedPosition) : Prop where
  managed : p.rangeEngine = false
  sane : p.config.Sane
  followed : p.managedStop p.peakFavorablePrice = p.slPrice

section Settled

variable {candle : BacktestCandle} {spread : ℚ}

theorem update_slPrice (hrange : p.rangeEngine = false) (candle : BacktestCandle) (spread : ℚ) :
    (updatePositionManagement p candle spread).slPrice =
      p.managedStop (p.updatedPeak candle spread) := by
  unfold updatePositionManagement managedStop
  rw [hrange, if_neg Bool.false_ne_true]
  dsimp only
  split_ifs <;> rfl

theorem Activates.risk_eq_zero (hcfg : p.config.Sane) (h : p.Activates p.entryPrice) :
    p.risk = 0 := by
  have hgain : p.risk * p.config.beThresholdR ≤ 0 := by
    have hreached := h.2
    cases hside : p.side with
    | buy =>
        rw [hside] at hreached
        have hle : p.entryPrice + p.risk * p.config.beThresholdR ≤ p.entryPrice := hreached
        linarith
    | sell =>
        rw [hside] at hreached
        have hle : p.entryPrice ≤ p.entryPrice - p.risk * p.config.beThresholdR := hreached
        linarith
  have hthreshold : 0 < p.config.beThresholdR := by
    linarith [hcfg.threshold]
  exact le_antisymm (nonpos_of_mul_nonpos_left hgain hthreshold) p.risk_nonneg

theorem settled_of_new (hrange : p.rangeEngine = false) (hcfg : p.config.Sane)
    (hstop : p.slPrice = p.originalSlPrice) (hpeak : p.peakFavorablePrice = p.entryPrice)
    (hwaiting : p.breakevenActivated = false) : p.Settled := by
  refine ⟨hrange, hcfg, ?_⟩
  rw [hpeak, managedStop]
  split_ifs with hactive hnow
  · have hzero : p.risk = 0 := hnow.risk_eq_zero hcfg
    have hentry : p.slPrice = p.entryPrice := by
      rw [hstop]
      exact (sub_eq_zero.mp (abs_eq_zero.mp hzero)).symm
    have hfloor : p.breakevenStop = p.entryPrice := by
      unfold breakevenStop
      rw [hzero, zero_mul]
      cases p.side with
      | buy =>
          exact add_zero _
      | sell =>
          exact sub_zero _
    rw [hentry, hfloor, Side.best, if_neg]
    exact Side.not_beyond.mpr (peak_atLeast_trailStop hcfg _)
  · rcases hactive with hbe | hnow'
    · rw [hwaiting] at hbe
      cases hbe
    · exact absurd hnow' hnow
  · rfl

theorem Settled.update (h : p.Settled) (candle : BacktestCandle) (spread : ℚ) :
    (updatePositionManagement p candle spread).Settled := by
  by_cases hactive : p.breakevenActivated = true ∨ p.Activates (p.updatedPeak candle spread)
  · rw [update_active h.managed hactive]
    refine ⟨h.managed, h.sane, ?_⟩
    rw [managedStop_past_breakeven rfl]
    exact Side.best_best _ _ _
  · rw [not_or] at hactive
    rw [update_waiting h.managed (Bool.eq_false_of_not_eq_true hactive.1) hactive.2]
    exact ⟨h.managed, h.sane, if_neg (not_or.mpr hactive)⟩

theorem Settled.slPrice_cases (h : p.Settled) (candle : BacktestCandle) (spread : ℚ) :
    (updatePositionManagement p candle spread).slPrice = p.slPrice ∨
      p.side.AtLeast (p.quote candle spread)
        (updatePositionManagement p candle spread).slPrice := by
  rw [update_slPrice h.managed]
  by_cases hraised : p.side.Beyond (p.quote candle spread) p.peakFavorablePrice
  · have hpeak : p.updatedPeak candle spread = p.quote candle spread := if_pos hraised
    rw [hpeak]
    exact managedStop_cases h.sane _
  · have hpeak : p.updatedPeak candle spread = p.peakFavorablePrice := if_neg hraised
    rw [hpeak]
    exact Or.inl h.followed

end Settled

/-!
# A buy with a risk of ten
-/

def tenRisk (slClampMaxAtr : ℚ) : ManagedPosition :=
  { side := .buy
    entryPrice := 100
    originalSlPrice := 90
    slPrice := 90
    tpPrice := some 140
    breakevenActivated := false
    peakFavorablePrice := 100
    rangeEngine := false
    fvgFill := false
    trailConfig := some { beThresholdR := 1, tpRemovalR := 2, slClampMaxAtr := slClampMaxAtr } }

def doubleRisk : BacktestCandle × ℚ :=
  ({ openTime := 0, open_ := 100, high := 121, low := 100, close := 120 }, 2)

theorem tenRisk_opened (slClampMaxAtr : ℚ) : (tenRisk slClampMaxAtr).Opened where
  managed := rfl
  stop := rfl
  protective := by
    change (90 : ℚ) ≤ 100
    norm_num
  peak := rfl
  waiting := rfl

theorem tenRisk_ratchets :
    Ratchets ((tenRisk 3).managedOver [doubleRisk])
        ((tenRisk 3).managedOver ([doubleRisk] ++ [doubleRisk])) ∧
      (((tenRisk 3).managedOver [doubleRisk]).breakevenActivated = true ->
        Side.buy.AtLeast ((tenRisk 3).managedOver [doubleRisk]).slPrice
          (tenRisk 3).breakevenStop) ∧
      Side.buy.AtLeast ((tenRisk 3).managedOver [doubleRisk]).peakFavorablePrice
        ((tenRisk 3).managedOver [doubleRisk]).slPrice :=
  stop_ratchets (tenRisk_opened 3)
    ⟨by norm_num [config, tenRisk], by norm_num [config, tenRisk], by norm_num [config, tenRisk]⟩
    [doubleRisk] [doubleRisk]

/-- With a clamp below minus nine the trail runs ahead of the peak. -/
theorem negative_clamp_passes_peak :
    ¬ (forall (p : ManagedPosition) (candles : List (BacktestCandle × ℚ)), p.Opened ->
      1 / 10 ≤ p.config.beThresholdR -> 0 ≤ p.config.trailWidthMult.getD 1 ->
      (forall bar, bar ∈ candles -> 0 ≤ bar.2) ->
      p.side.AtLeast (p.managedOver candles).peakFavorablePrice
        (p.managedOver candles).slPrice) := by
  intro h
  have hbehind := h (tenRisk (-30)) [doubleRisk] (tenRisk_opened (-30))
    (by norm_num [config, tenRisk]) (by norm_num [config, tenRisk])
    (by simp [doubleRisk])
  exact absurd hbehind (by decide +kernel)

end ManagedPosition
end Engine
end Shamarx
