import Shamarx.Engine.ZoneDetection
import Shamarx.Foundation.FirstMatch

/-!
# The zone gates

A gate is to admit an entry for any live zone in reach.  The code tests the distance of
the newest live zone only.
-/

namespace Shamarx
namespace Engine

open Foundation

def Zone.InReach (z : Zone) (price reach : ℚ) : Prop :=
  z.Contains price ∨ z.distance price ≤ reach

/-- A gap not yet mitigated, in the direction of the entry. -/
def liveFvg (side : Side) (f : Fvg) : Bool :=
  f.mitigatedAtIdx.isNone && (f.zone.isBullish == decide (side = .buy))

def liveOb (side : Side) (ob : OrderBlock) : Bool :=
  ob.mitigatedAtIdx.isNone && (ob.zone.isBullish == decide (side = .buy))

section Gates

variable {candles : List BacktestCandle} {side : Side} {entryPrice maxDistanceAtr : ℚ}
  {atr : List (Option ℚ)} {endIdx : Nat} {currentAtr : ℚ}

theorem hasSupportingFvg_isSome_iff (hatr : nullishAt atr endIdx = some currentAtr)
    (hpos : 0 < currentAtr) :
    (hasSupportingFvg candles side entryPrice maxDistanceAtr atr endIdx).isSome = true <->
      exists f, (detectFvgs candles { endIdx := some endIdx, atr := atr }).reverse.find?
          (liveFvg side) = some f ∧ f.zone.InReach entryPrice (maxDistanceAtr * currentAtr) := by
  have hnear : nearestUnmitigatedFvg candles side { endIdx := some endIdx, atr := atr } =
      (detectFvgs candles { endIdx := some endIdx, atr := atr }).reverse.find?
        (liveFvg side) := rfl
  unfold hasSupportingFvg
  rw [hnear, hatr]
  cases (detectFvgs candles { endIdx := some endIdx, atr := atr }).reverse.find?
      (liveFvg side) with
  | none =>
      simp
  | some f =>
      simp [Zone.InReach, not_le.mpr hpos]

theorem hasSupportingOb_isSome_iff (hatr : nullishAt atr endIdx = some currentAtr)
    (hpos : 0 < currentAtr) :
    (hasSupportingOb candles side entryPrice maxDistanceAtr atr endIdx).isSome = true <->
      exists ob, (detectOrderBlocks candles { endIdx := some endIdx, atr := atr }).reverse.find?
          (liveOb side) = some ob ∧
        ob.zone.InReach entryPrice (maxDistanceAtr * currentAtr) := by
  have hnear : nearestUnmitigatedOb candles side { endIdx := some endIdx, atr := atr } =
      (detectOrderBlocks candles { endIdx := some endIdx, atr := atr }).reverse.find?
        (liveOb side) := rfl
  unfold hasSupportingOb
  rw [hnear, hatr]
  cases (detectOrderBlocks candles { endIdx := some endIdx, atr := atr }).reverse.find?
      (liveOb side) with
  | none =>
      simp
  | some ob =>
      by_cases hin : ob.zone.Contains entryPrice <;>
        simp [Zone.InReach, not_le.mpr hpos, hin]

end Gates

section Exact

variable (candles : List BacktestCandle) (side : Side) (entryPrice maxDistanceAtr : ℚ)
  (atr : List (Option ℚ)) (endIdx : Nat) (currentAtr : ℚ)

def FvgGateExact : Prop :=
  (hasSupportingFvg candles side entryPrice maxDistanceAtr atr endIdx).isSome = true <->
    exists f, f ∈ detectFvgs candles { endIdx := some endIdx, atr := atr } ∧
      liveFvg side f = true ∧ f.zone.InReach entryPrice (maxDistanceAtr * currentAtr)

def ObGateExact : Prop :=
  (hasSupportingOb candles side entryPrice maxDistanceAtr atr endIdx).isSome = true <->
    exists ob, ob ∈ detectOrderBlocks candles { endIdx := some endIdx, atr := atr } ∧
      liveOb side ob = true ∧ ob.zone.InReach entryPrice (maxDistanceAtr * currentAtr)

def NewestFvgInReach : Prop :=
  forall f, Newest Fvg.candleIdx (liveFvg side)
      (detectFvgs candles { endIdx := some endIdx, atr := atr }) f ->
    (exists g, g ∈ detectFvgs candles { endIdx := some endIdx, atr := atr } ∧
      liveFvg side g = true ∧ g.zone.InReach entryPrice (maxDistanceAtr * currentAtr)) ->
    f.zone.InReach entryPrice (maxDistanceAtr * currentAtr)

def NewestObInReach : Prop :=
  forall ob, Newest OrderBlock.candleIdx (liveOb side)
      (detectOrderBlocks candles { endIdx := some endIdx, atr := atr }) ob ->
    (exists g, g ∈ detectOrderBlocks candles { endIdx := some endIdx, atr := atr } ∧
      liveOb side g = true ∧ g.zone.InReach entryPrice (maxDistanceAtr * currentAtr)) ->
    ob.zone.InReach entryPrice (maxDistanceAtr * currentAtr)

variable {currentAtr}

/-- Each gate is exact if and only if its newest live zone is in reach where any is. -/
theorem zoneGates_exact_iff (hatr : nullishAt atr endIdx = some currentAtr)
    (hpos : 0 < currentAtr) :
    (FvgGateExact candles side entryPrice maxDistanceAtr atr endIdx currentAtr <->
        NewestFvgInReach candles side entryPrice maxDistanceAtr atr endIdx currentAtr) ∧
      (ObGateExact candles side entryPrice maxDistanceAtr atr endIdx currentAtr <->
        NewestObInReach candles side entryPrice maxDistanceAtr atr endIdx currentAtr) := by
  constructor
  · unfold FvgGateExact NewestFvgInReach
    rw [hasSupportingFvg_isSome_iff hatr hpos]
    exact newest_test_iff (detectFvgs_ascending rfl) fun f =>
      f.zone.InReach entryPrice (maxDistanceAtr * currentAtr)
  · unfold ObGateExact NewestObInReach
    rw [hasSupportingOb_isSome_iff hatr hpos]
    exact newest_test_iff (detectOrderBlocks_ascending candles _) fun ob =>
      ob.zone.InReach entryPrice (maxDistanceAtr * currentAtr)

end Exact

def twoGaps : List BacktestCandle :=
  [⟨0, 9, 10, 8, 9⟩, ⟨msPerHour, 9, 10, 9, 10⟩, ⟨2 * msPerHour, 10, 13, 10, 13⟩,
    ⟨3 * msPerHour, 13, 14, 12, 14⟩, ⟨4 * msPerHour, 14, 15, 13, 15⟩,
    ⟨5 * msPerHour, 15, 21, 14, 21⟩, ⟨6 * msPerHour, 21, 22, 20, 22⟩]

/-- With the price back in the lower gap. -/
theorem zoneGates_exact_iff_twoGaps :
    nullishAt (List.replicate 7 (some 1)) 6 = some 1 ∧
      (FvgGateExact twoGaps .buy 11 1 (List.replicate 7 (some 1)) 6 1 <->
        NewestFvgInReach twoGaps .buy 11 1 (List.replicate 7 (some 1)) 6 1) ∧
      (ObGateExact twoGaps .buy 11 1 (List.replicate 7 (some 1)) 6 1 <->
        NewestObInReach twoGaps .buy 11 1 (List.replicate 7 (some 1)) 6 1) :=
  ⟨rfl, zoneGates_exact_iff twoGaps .buy 11 1 (List.replicate 7 (some 1)) 6 rfl (by decide)⟩

/-- The gate sees the upper gap only and refuses. -/
theorem not_fvgGateExact_twoGaps :
    ¬ FvgGateExact twoGaps .buy 11 1 (List.replicate 7 (some 1)) 6 1 := by
  intro h
  have hrefused : (hasSupportingFvg twoGaps .buy 11 1 (List.replicate 7 (some 1)) 6).isSome =
      false := by
    decide +kernel
  have hlower : exists f, f ∈ detectFvgs twoGaps
        { endIdx := some 6, atr := List.replicate 7 (some 1) } ∧
      liveFvg .buy f = true ∧ f.zone.Contains 11 := by
    decide +kernel
  rcases hlower with ⟨f, hf, hlive, hin⟩
  have hadmitted := h.mpr ⟨f, hf, hlive, Or.inl hin⟩
  rw [hrefused] at hadmitted
  cases hadmitted

end Engine
end Shamarx
