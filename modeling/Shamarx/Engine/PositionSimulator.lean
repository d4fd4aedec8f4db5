import Mathlib.Algebra.Order.Group.Abs
import Mathlib.Tactic.Linarith
import Shamarx.Engine.Types

/-!
# Trade management

`updatePositionManagement` moves the stop of a position to break-even and then
trails it behind the best price.  The source writes each step once for a buy and
once, mirrored, for a sell; here the side is a parameter of the comparison.
-/

namespace Shamarx
namespace Engine

/-!
# Prices seen from a side
-/

/-- The first price is strictly better for the side. -/
def Side.Beyond : Side -> ℚ -> ℚ -> Prop
  | .buy, a, b => b < a
  | .sell, a, b => a < b

/-- The first price is at least as good for the side; for a stop, as protective. -/
def Side.AtLeast : Side -> ℚ -> ℚ -> Prop
  | .buy, a, b => b ≤ a
  | .sell, a, b => a ≤ b

instance (side : Side) (a b : ℚ) : Decidable (side.Beyond a b) :=
  match side with
  | .buy => inferInstanceAs (Decidable (b < a))
  | .sell => inferInstanceAs (Decidable (a < b))

instance (side : Side) (a b : ℚ) : Decidable (side.AtLeast a b) :=
  match side with
  | .buy => inferInstanceAs (Decidable (b ≤ a))
  | .sell => inferInstanceAs (Decidable (a ≤ b))

def Side.ahead : Side -> ℚ -> ℚ -> ℚ
  | .buy, price, d => price + d
  | .sell, price, d => price - d

def Side.gain : Side -> ℚ -> ℚ -> ℚ
  | .buy, price, entry => price - entry
  | .sell, price, entry => entry - price

/-- The better of two prices; the second on a tie. -/
def Side.best (side : Side) (a b : ℚ) : ℚ :=
  if side.Beyond a b then a else b

namespace Side

variable {side : Side} {a b c : ℚ}

theorem atLeast_refl (side : Side) (a : ℚ) : side.AtLeast a a := by
  cases side <;> exact le_refl a

theorem AtLeast.trans (hab : side.AtLeast a b) (hbc : side.AtLeast b c) : side.AtLeast a c := by
  cases side with
  | buy =>
      exact le_trans hbc hab
  | sell =>
      exact le_trans hab hbc

theorem not_beyond : ¬ side.Beyond a b ↔ side.AtLeast b a := by
  cases side <;> exact not_lt

theorem Beyond.atLeast (h : side.Beyond a b) : side.AtLeast a b := by
  cases side with
  | buy =>
      exact le_of_lt h
  | sell =>
      exact le_of_lt h

theorem best_left (side : Side) (a b : ℚ) : side.AtLeast (side.best a b) a := by
  unfold best
  split_ifs with h
  · exact atLeast_refl side a
  · exact not_beyond.mp h

theorem best_right (side : Side) (a b : ℚ) : side.AtLeast (side.best a b) b := by
  unfold best
  split_ifs with h
  · exact h.atLeast
  · exact atLeast_refl side b

theorem atLeast_best (ha : side.AtLeast c a) (hb : side.AtLeast c b) :
    side.AtLeast c (side.best a b) := by
  unfold best
  split_ifs
  · exact ha
  · exact hb

theorem gain_le_gain (h : side.AtLeast a b) (entry : ℚ) : side.gain b entry ≤ side.gain a entry := by
  cases side with
  | buy =>
      exact sub_le_sub_right h entry
  | sell =>
      exact sub_le_sub_left h entry

end Side

/-!
# Trail parameters
-/

structure RegimeTradeParams where
  beThresholdR : ℚ
  tpRemovalR : ℚ
  slClampMaxAtr : ℚ
  trailWidthMult : Option ℚ := none
  deriving DecidableEq

def defaultTrailConfig : RegimeTradeParams :=
  { beThresholdR := 1, tpRemovalR := 2, slClampMaxAtr := 3 }

/-- A partial that is never removed from its target. -/
def smcTp1Trail : RegimeTradeParams :=
  { beThresholdR := 6 / 10, tpRemovalR := 0, slClampMaxAtr := 3 }

def smcRunnerTrail : RegimeTradeParams :=
  { beThresholdR := 15 / 10, tpRemovalR := 3, slClampMaxAtr := 4 }

def computeTrailDistance (favorableMove risk : ℚ) (config : RegimeTradeParams) (isFVG : Bool) :
    ℚ :=
  let tightnessFactor := min 1 (config.slClampMaxAtr / 3)
  let widthMult := config.trailWidthMult.getD 1
  if isFVG then
    if risk * 3 ≤ favorableMove then widthMult * risk * (4 / 10 + 1 / 10 * tightnessFactor)
    else if risk * 2 ≤ favorableMove then widthMult * risk * (5 / 10 + 1 / 10 * tightnessFactor)
    else if risk * (15 / 10) ≤ favorableMove then
      widthMult * risk * (6 / 10 + 1 / 10 * tightnessFactor)
    else widthMult * risk
  else
    if risk * 5 ≤ favorableMove then widthMult * risk * (3 / 10 + 1 / 10 * tightnessFactor)
    else if risk * 4 ≤ favorableMove then widthMult * risk * (4 / 10 + 1 / 10 * tightnessFactor)
    else if risk * 3 ≤ favorableMove then widthMult * risk * (5 / 10 + 1 / 10 * tightnessFactor)
    else if risk * 2 ≤ favorableMove then
      widthMult * risk * (6 / 10 + 15 / 100 * tightnessFactor)
    else widthMult * risk

/-!
# Positions under management
-/

/-- The part of a position that management reads and writes.  Of the setup tags it
reads whether they include the two tags of the older engines. -/
structure ManagedPosition where
  side : Side
  entryPrice : ℚ
  originalSlPrice : ℚ
  slPrice : ℚ
  tpPrice : Option ℚ
  breakevenActivated : Bool
  peakFavorablePrice : ℚ
  rangeEngine : Bool
  fvgFill : Bool
  trailConfig : Option RegimeTradeParams
  deriving DecidableEq

namespace ManagedPosition

def risk (p : ManagedPosition) : ℚ :=
  |p.entryPrice - p.originalSlPrice|

def config (p : ManagedPosition) : RegimeTradeParams :=
  p.trailConfig.getD defaultTrailConfig

/-- The best price of the candle on the side that closes the position. -/
def quote (p : ManagedPosition) (candle : BacktestCandle) (spread : ℚ) : ℚ :=
  match p.side with
  | .buy => candle.high - spread / 2
  | .sell => candle.low + spread / 2

def updatedPeak (p : ManagedPosition) (candle : BacktestCandle) (spread : ℚ) : ℚ :=
  p.side.best (p.quote candle spread) p.peakFavorablePrice

/-- The peak has reached the break-even threshold for the first time. -/
def Activates (p : ManagedPosition) (peak : ℚ) : Prop :=
  p.breakevenActivated = false ∧
    p.side.AtLeast peak (p.side.ahead p.entryPrice (p.risk * p.config.beThresholdR))

instance (p : ManagedPosition) (peak : ℚ) : Decidable (p.Activates peak) :=
  inferInstanceAs (Decidable (_ ∧ _))

/-- The stop that break-even sets: the entry and a tenth of the risk. -/
def breakevenStop (p : ManagedPosition) : ℚ :=
  p.side.ahead p.entryPrice (p.risk * (1 / 10))

/-- The move is far enough to let go of the target; a threshold of zero is never
reached. -/
def RemovesTp (p : ManagedPosition) (peak : ℚ) : Prop :=
  0 < p.config.tpRemovalR ∧ p.risk * p.config.tpRemovalR ≤ p.side.gain peak p.entryPrice

instance (p : ManagedPosition) (peak : ℚ) : Decidable (p.RemovesTp peak) :=
  inferInstanceAs (Decidable (_ ∧ _))

def trailStop (p : ManagedPosition) (peak : ℚ) : ℚ :=
  p.side.ahead peak
    (-computeTrailDistance (p.side.gain peak p.entryPrice) p.risk p.config p.fvgFill)

end ManagedPosition

/-- `updatePositionManagement`.  The source returns the same object exactly when
nothing changes. -/
def updatePositionManagement (p : ManagedPosition) (candle : BacktestCandle) (spread : ℚ) :
    ManagedPosition :=
  if p.rangeEngine then p
  else
    let peak := p.updatedPeak candle spread
    let sl := if p.Activates peak then p.breakevenStop else p.slPrice
    if p.breakevenActivated = true ∨ p.Activates peak then
      { p with
        peakFavorablePrice := peak
        breakevenActivated := true
        tpPrice := if p.RemovesTp peak then none else p.tpPrice
        slPrice := p.side.best (p.trailStop peak) sl }
    else { p with peakFavorablePrice := peak }

/-!
# What an update does
-/

namespace ManagedPosition

variable {p : ManagedPosition} {candle : BacktestCandle} {spread : ℚ}

theorem updatedPeak_atLeast (p : ManagedPosition) (candle : BacktestCandle) (spread : ℚ) :
    p.side.AtLeast (p.updatedPeak candle spread) p.peakFavorablePrice :=
  p.side.best_right _ _

theorem update_waiting (hrange : p.rangeEngine = false) (hbe : p.breakevenActivated = false)
    (hnot : ¬ p.Activates (p.updatedPeak candle spread)) :
    updatePositionManagement p candle spread =
      { p with peakFavorablePrice := p.updatedPeak candle spread } := by
  unfold updatePositionManagement
  rw [hrange, if_neg Bool.false_ne_true]
  dsimp only
  rw [if_neg (not_or.mpr ⟨by rw [hbe]; exact Bool.false_ne_true, hnot⟩)]

/-- From break-even on the stop follows the peak, from the stop that it had or from
the one that break-even has just set. -/
theorem update_active (hrange : p.rangeEngine = false)
    (hactive : p.breakevenActivated = true ∨ p.Activates (p.updatedPeak candle spread)) :
    updatePositionManagement p candle spread =
      { p with
        peakFavorablePrice := p.updatedPeak candle spread
        breakevenActivated := true
        tpPrice := if p.RemovesTp (p.updatedPeak candle spread) then none else p.tpPrice
        slPrice := p.side.best (p.trailStop (p.updatedPeak candle spread))
          (if p.Activates (p.updatedPeak candle spread) then p.breakevenStop else p.slPrice) } := by
  unfold updatePositionManagement
  rw [hrange, if_neg Bool.false_ne_true]
  dsimp only
  rw [if_pos hactive]

theorem RemovesTp.of_atLeast {peak peak' : ℚ} (h : p.RemovesTp peak)
    (hpeak : p.side.AtLeast peak' peak) : p.RemovesTp peak' :=
  ⟨h.1, le_trans h.2 (Side.gain_le_gain hpeak p.entryPrice)⟩

end ManagedPosition

theorem computeTrailDistance_antitone {config : RegimeTradeParams} {risk a b : ℚ}
    (hwidth : config.trailWidthMult = none) (hclamp : 3 ≤ config.slClampMaxAtr)
    (hrisk : 0 ≤ risk) (h : a ≤ b) :
    computeTrailDistance b risk config false ≤ computeTrailDistance a risk config false := by
  have htight : min 1 (config.slClampMaxAtr / 3) = 1 := by
    rw [min_eq_left]
    linarith
  unfold computeTrailDistance
  rw [hwidth, htight]
  simp only [Option.getD_none, if_neg Bool.false_ne_true]
  split_ifs <;> linarith

theorem ManagedPosition.trailStop_atLeast {p : ManagedPosition} {peak peak' : ℚ}
    (hfvg : p.fvgFill = false) (hwidth : p.config.trailWidthMult = none)
    (hclamp : 3 ≤ p.config.slClampMaxAtr) (h : p.side.AtLeast peak' peak) :
    p.side.AtLeast (p.trailStop peak') (p.trailStop peak) := by
  have hgain := Side.gain_le_gain h p.entryPrice
  have hrisk : 0 ≤ p.risk := abs_nonneg _
  have hdist := computeTrailDistance_antitone hwidth hclamp hrisk hgain
  unfold ManagedPosition.trailStop
  rw [hfvg]
  generalize computeTrailDistance (p.side.gain peak p.entryPrice) p.risk p.config false = d at *
  generalize computeTrailDistance (p.side.gain peak' p.entryPrice) p.risk p.config false = d' at *
  cases hside : p.side with
  | buy =>
      rw [hside] at h
      change peak + -d ≤ peak' + -d'
      have hpeak : peak ≤ peak' := h
      linarith
  | sell =>
      rw [hside] at h
      change peak' - -d' ≤ peak - -d
      have hpeak : peak' ≤ peak := h
      linarith

end Engine
end Shamarx
