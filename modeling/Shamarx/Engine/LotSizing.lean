import Shamarx.Engine.RiskManager

/-!
# Lot sizing

A lot is a whole number of hundredths: the ideal lot, clamped and rounded to the
nearest hundredth.  The over-risk veto is applied to the rounded lot, so a small
lot that was rounded up can be vetoed although one hundredth less would pass.
-/

namespace Shamarx
namespace Engine
namespace RiskManager

open Foundation

theorem half_le_effectiveRisk (rm : RiskManager) (quality : Option ℚ)
    (regime : Option DetailedRegime) (confidence : Option ℚ) :
    1 / 2 ≤ rm.effectiveRisk quality regime confidence :=
  le_max_left _ _

theorem lotSizeUnits_pos (symbol : Instrument) :
    0 < (getInstrumentConfig symbol).lotSizeUnits := by
  cases symbol <;> norm_num [getInstrumentConfig]

theorem usdPerLot_pos_of_not_jpy {symbol : Instrument} (hjpy : symbol.isJpyPair = false)
    {slPoints : ℚ} (hsl : 0 < slPoints) (price : Option ℚ) :
    0 < usdPerLot symbol slPoints price := by
  have hraw := mul_pos hsl (lotSizeUnits_pos symbol)
  cases price with
  | none =>
      exact hraw
  | some p =>
      simpa [usdPerLot, hjpy] using hraw

theorem usdPerLot_pos (symbol : Instrument) {slPoints price : ℚ} (hsl : 0 < slPoints)
    (hprice : 0 < price) : 0 < usdPerLot symbol slPoints (some price) := by
  have hraw := mul_pos hsl (lotSizeUnits_pos symbol)
  unfold usdPerLot
  dsimp only
  split_ifs
  · exact div_pos hraw hprice
  · exact hraw

/-!
# Hundredths of a lot
-/

def targetRisk (rm : RiskManager) (quality : Option ℚ) (regime : Option DetailedRegime)
    (confidence : Option ℚ) : ℚ :=
  rm.balance * (rm.effectiveRisk quality regime confidence / 100)

def minLotRisk (rm : RiskManager) (slPoints : ℚ) (price : Option ℚ) : ℚ :=
  1 / 100 * usdPerLot rm.config.symbol slPoints price

def hundredths (target unit : ℚ) : Int :=
  max 1 (min 100 (roundHalfUp (target / unit)))

theorem one_le_hundredths (target unit : ℚ) : 1 ≤ hundredths target unit :=
  le_max_left _ _

theorem hundredths_le (target unit : ℚ) : hundredths target unit ≤ 100 :=
  max_le (by norm_num) (min_le_left _ _)

theorem roundTo_clamped_lot (ideal : ℚ) :
    roundTo 100 (max (1 / 100) (min 1 ideal)) =
      (max 1 (min 100 (roundHalfUp (ideal * 100))) : Int) / 100 := by
  have hclamp : max (1 / 100 : ℚ) (min 1 ideal) * 100 =
      max ((1 : Int) : ℚ) (min ((100 : Int) : ℚ) (ideal * 100)) := by
    rw [max_mul_of_nonneg _ _ (by norm_num), min_mul_of_nonneg _ _ (by norm_num)]
    norm_num
  rw [roundTo, hclamp, roundHalfUp_clamp]

theorem floored_lot (lot : ℚ) :
    max (1 / 100) (roundTo 100 lot) = (wholeUnits (lot * 100) : ℚ) / 100 := by
  rw [roundTo, wholeUnits, Int.cast_max, Int.cast_one]
  exact max_div_div_right (by norm_num) _ _

theorem roundTo_idealLot (rm : RiskManager) (slPoints : ℚ) (quality : Option ℚ)
    (regime : Option DetailedRegime) (confidence price : Option ℚ) :
    roundTo 100 (max (1 / 100) (min 1
      (rm.balance * (rm.effectiveRisk quality regime confidence / 100) /
        usdPerLot rm.config.symbol slPoints price))) =
      hundredths (rm.targetRisk quality regime confidence)
        (rm.minLotRisk slPoints price) / 100 := by
  have hideal : rm.targetRisk quality regime confidence /
        usdPerLot rm.config.symbol slPoints price * 100 =
      rm.targetRisk quality regime confidence / rm.minLotRisk slPoints price := by
    unfold minLotRisk
    rw [← div_div, div_div_eq_mul_div, div_one, div_mul_eq_mul_div]
  change roundTo 100 (max (1 / 100) (min 1 (rm.targetRisk quality regime confidence /
    usdPerLot rm.config.symbol slPoints price))) = _
  rw [roundTo_clamped_lot, hideal]
  rfl

theorem percentAbove_iff {num den bound : ℚ} (hden : 0 < den) :
    PercentAbove num den bound ↔ bound / 100 * den < num := by
  unfold PercentAbove
  rw [if_neg hden.ne', div_mul_eq_mul_div, lt_div_iff₀ hden]
  constructor
  · intro h
    linarith
  · intro h
    linarith

theorem calculateLotSize_eq (rm : RiskManager) (slPoints : ℚ) (quality : Option ℚ)
    (regime : Option DetailedRegime) (confidence price : Option ℚ) (hbal : 0 < rm.balance) :
    rm.calculateLotSize slPoints quality regime confidence price =
      if 110 / 100 * rm.targetRisk quality regime confidence <
          hundredths (rm.targetRisk quality regime confidence) (rm.minLotRisk slPoints price) *
            rm.minLotRisk slPoints price
      then 0
      else
        (hundredths (rm.targetRisk quality regime confidence)
          (rm.minLotRisk slPoints price) : ℚ) / 100 := by
  unfold calculateLotSize
  dsimp only
  have htarget : rm.effectiveRisk quality regime confidence * (110 / 100) / 100 * rm.balance =
      110 / 100 * rm.targetRisk quality regime confidence := by
    unfold targetRisk
    ring
  have hrisk : (hundredths (rm.targetRisk quality regime confidence)
        (rm.minLotRisk slPoints price) : ℚ) / 100 *
        usdPerLot rm.config.symbol slPoints price =
      hundredths (rm.targetRisk quality regime confidence) (rm.minLotRisk slPoints price) *
        rm.minLotRisk slPoints price := by
    unfold minLotRisk
    ring
  rw [roundTo_idealLot]
  simp only [percentAbove_iff hbal, htarget, hrisk]

theorem calculateLotSize_risk_le (rm : RiskManager) (slPoints : ℚ) (quality : Option ℚ)
    (regime : Option DetailedRegime) (confidence price : Option ℚ)
    (hlot : rm.calculateLotSize slPoints quality regime confidence price ≠ 0)
    (hbal : 0 ≤ rm.balance) :
    rm.calculateLotSize slPoints quality regime confidence price *
        usdPerLot rm.config.symbol slPoints price ≤
      110 / 100 * rm.effectiveRisk quality regime confidence / 100 * rm.balance := by
  unfold calculateLotSize at hlot ⊢
  dsimp only at hlot ⊢
  split_ifs at hlot ⊢ with hveto
  · exact absurd rfl hlot
  · unfold PercentAbove at hveto
    rcases hbal.eq_or_lt with hzero | hpos
    · rw [if_pos hzero.symm, not_lt] at hveto
      rw [← hzero, mul_zero]
      simpa [← hzero] using hveto
    · rw [if_neg hpos.ne', not_lt, div_mul_eq_mul_div, div_le_iff₀ hpos] at hveto
      linarith

theorem calculateLotSize_hundredths (rm : RiskManager) (slPoints : ℚ) (quality : Option ℚ)
    (regime : Option DetailedRegime) (confidence price : Option ℚ)
    (hlot : rm.calculateLotSize slPoints quality regime confidence price ≠ 0) :
    exists n : Nat, 1 ≤ n ∧ n ≤ 100 ∧
      rm.calculateLotSize slPoints quality regime confidence price = n / 100 := by
  unfold calculateLotSize at hlot ⊢
  dsimp only at hlot ⊢
  split_ifs at hlot ⊢ with hveto
  · exact absurd rfl hlot
  · have hlow := one_le_hundredths (rm.targetRisk quality regime confidence)
      (rm.minLotRisk slPoints price)
    have hhigh := hundredths_le (rm.targetRisk quality regime confidence)
      (rm.minLotRisk slPoints price)
    rw [roundTo_idealLot]
    lift hundredths (rm.targetRisk quality regime confidence) (rm.minLotRisk slPoints price)
      to Nat using by linarith with n
    exact ⟨n, by exact_mod_cast hlow, by exact_mod_cast hhigh, rfl⟩

/-!
# When the veto is avoidable
-/

/-- The target rounds up to a small number of hundredths that 110% of it does not
cover. -/
def RoundsPastAllowance (target unit : ℚ) : Prop :=
  exists n : Nat, n ∈ [2, 3, 4, 5] ∧ ((n : ℚ) - 1 / 2) * unit ≤ target ∧
    110 / 100 * target < n * unit

theorem hundredths_eq_of_band {target unit : ℚ} (hunit : 0 < unit) {n : Nat}
    (hn : n ∈ [2, 3, 4, 5]) (hlow : ((n : ℚ) - 1 / 2) * unit ≤ target)
    (hhigh : 110 / 100 * target < n * unit) : hundredths target unit = n := by
  have hround : roundHalfUp (target / unit) = n := by
    refine le_antisymm (Int.le_of_lt_add_one ?_) ?_
    · rw [roundHalfUp_lt_iff, div_lt_iff₀ hunit]
      push_cast
      nlinarith [(Nat.cast_nonneg n : (0 : ℚ) ≤ n)]
    · rw [le_roundHalfUp_iff, le_div_iff₀ hunit]
      exact hlow
  simp only [List.mem_cons, List.not_mem_nil, or_false] at hn
  unfold hundredths
  rw [hround]
  omega

/-- The veto falls on a lot exactly if the minimum lot over-risks or the rounding
has gone past the allowance. -/
theorem vetoed_iff {target unit : ℚ} (hunit : 0 < unit) :
    110 / 100 * target < hundredths target unit * unit ↔
      110 / 100 * target < unit ∨ RoundsPastAllowance target unit := by
  constructor
  · intro hveto
    have hclamp : hundredths target unit = max 1 (min 100 (roundHalfUp (target / unit))) := rfl
    have hlt := lt_roundHalfUp_add_one (target / unit)
    have hle := (le_roundHalfUp_iff _ _).mp (le_refl (roundHalfUp (target / unit)))
    rw [le_div_iff₀ hunit] at hle
    rcases le_or_gt (roundHalfUp (target / unit)) 1 with hone | htwo
    · have hmin : hundredths target unit = 1 := by omega
      rw [hmin, Int.cast_one, one_mul] at hveto
      exact Or.inl hveto
    · rcases le_or_gt (roundHalfUp (target / unit)) 100 with hhundred | hcapped
      · have hround : hundredths target unit = roundHalfUp (target / unit) := by omega
        rw [← hround] at hle htwo
        -- rounding adds at most half a hundredth, which is within a tenth from 5 on
        have hsmall : hundredths target unit < 6 := by
          have hbound : (hundredths target unit : ℚ) < 11 / 2 := by
            by_contra hbig
            nlinarith [mul_le_mul_of_nonneg_right (not_lt.mp hbig) hunit.le]
          exact_mod_cast (by linarith : (hundredths target unit : ℚ) < 6)
        lift hundredths target unit to Nat using by omega with n hn
        refine Or.inr ⟨n, ?_, by exact_mod_cast hle, by exact_mod_cast hveto⟩
        simp only [List.mem_cons, List.not_mem_nil, or_false]
        omega
      · have hcap : hundredths target unit = 100 := by omega
        have hlarge : (101 : ℚ) ≤ roundHalfUp (target / unit) := by exact_mod_cast hcapped
        rw [hcap] at hveto
        push_cast at hveto
        nlinarith [mul_le_mul_of_nonneg_right hlarge hunit.le]
  · rintro (hmin | ⟨n, hn, hlow, hhigh⟩)
    · have hone : (1 : ℚ) ≤ hundredths target unit := by
        exact_mod_cast one_le_hundredths target unit
      nlinarith [mul_le_mul_of_nonneg_right hone hunit.le]
    · rw [hundredths_eq_of_band hunit hn hlow hhigh]
      exact_mod_cast hhigh

/-- A trade is skipped exactly if the minimum lot risks more than 110% of the
target; any other lot is within the limits of the broker and the allowance. -/
def SkippedOnlyWhenUnavoidable (rm : RiskManager) (slPoints : ℚ) (quality : Option ℚ)
    (regime : Option DetailedRegime) (confidence price : Option ℚ) : Prop :=
  let lot := rm.calculateLotSize slPoints quality regime confidence price
  let allowance := 110 / 100 * rm.targetRisk quality regime confidence
  (lot = 0 ↔ allowance < rm.minLotRisk slPoints price) ∧
    (lot ≠ 0 ->
      (exists n : Nat, 1 ≤ n ∧ n ≤ 100 ∧ lot = n / 100) ∧
        lot * usdPerLot rm.config.symbol slPoints price ≤ allowance)

theorem calculateLotSize_eq_zero_iff (rm : RiskManager) {slPoints price : ℚ}
    (quality : Option ℚ) (regime : Option DetailedRegime) (confidence : Option ℚ)
    (hbal : 0 < rm.balance) (hsl : 0 < slPoints) (hprice : 0 < price) :
    rm.calculateLotSize slPoints quality regime confidence (some price) = 0 ↔
      110 / 100 * rm.targetRisk quality regime confidence < rm.minLotRisk slPoints (some price) ∨
        RoundsPastAllowance (rm.targetRisk quality regime confidence)
          (rm.minLotRisk slPoints (some price)) := by
  have hunit : 0 < rm.minLotRisk slPoints (some price) :=
    mul_pos (by norm_num) (usdPerLot_pos rm.config.symbol hsl hprice)
  have hlot : (hundredths (rm.targetRisk quality regime confidence)
      (rm.minLotRisk slPoints (some price)) : ℚ) / 100 ≠ 0 := by
    have hone := one_le_hundredths (rm.targetRisk quality regime confidence)
      (rm.minLotRisk slPoints (some price))
    exact div_ne_zero (by exact_mod_cast (by omega)) (by norm_num)
  rw [← vetoed_iff hunit, rm.calculateLotSize_eq _ _ _ _ _ hbal]
  split_ifs with hveto
  · exact ⟨fun _ => hveto, fun _ => rfl⟩
  · exact ⟨fun h => absurd h hlot, fun h => absurd h hveto⟩

/-- A trade is skipped only when this is unavoidable, unless its target rounds past
the allowance. -/
theorem skipped_only_when_unavoidable_iff (rm : RiskManager) (slPoints : ℚ)
    (quality : Option ℚ) (regime : Option DetailedRegime) (confidence : Option ℚ) (price : ℚ)
    (hbal : 0 < rm.balance) (hsl : 0 < slPoints) (hprice : 0 < price) :
    rm.SkippedOnlyWhenUnavoidable slPoints quality regime confidence (some price) ↔
      ¬ RoundsPastAllowance (rm.targetRisk quality regime confidence)
        (rm.minLotRisk slPoints (some price)) := by
  have hzero := rm.calculateLotSize_eq_zero_iff quality regime confidence hbal hsl hprice
  constructor
  · rintro ⟨hskip, -⟩ ⟨n, hn, hlow, hhigh⟩
    have hmin := hskip.mp (hzero.mpr (Or.inr ⟨n, hn, hlow, hhigh⟩))
    have htwo : (2 : ℚ) ≤ n := by
      simp only [List.mem_cons, List.not_mem_nil, or_false] at hn
      exact_mod_cast (by omega : 2 ≤ n)
    have hunit : 0 < rm.minLotRisk slPoints (some price) :=
      mul_pos (by norm_num) (usdPerLot_pos rm.config.symbol hsl hprice)
    nlinarith [mul_le_mul_of_nonneg_right htwo hunit.le]
  · intro hround
    refine ⟨hzero.trans (or_iff_left hround), fun hlot => ⟨?_, ?_⟩⟩
    · exact rm.calculateLotSize_hundredths _ _ _ _ _ hlot
    · have hrisk := rm.calculateLotSize_risk_le _ _ _ _ _ hlot hbal.le
      unfold targetRisk
      linarith

/-!
# A gold account of a thousand dollars
-/

def thousandDollars : RiskManager :=
  create
    { symbol := .XAUUSD
      initialBalance := 1000
      riskPercent := 15 / 10
      maxDailyLossPercent := 4
      maxConsecutiveLosses := 5
      maxOpenPositions := 4 }

/-- With a stop of five dollars the target is three hundredths of a lot. -/
theorem thousand_dollars_five_dollar_stop :
    thousandDollars.SkippedOnlyWhenUnavoidable 5 none none none (some 2000) :=
  (skipped_only_when_unavoidable_iff thousandDollars 5 none none none 2000 (by decide +kernel)
    (by norm_num) (by norm_num)).mpr (by
      rintro ⟨n, hn, hlow, hhigh⟩
      have htarget : thousandDollars.targetRisk none none none = 15 := by decide +kernel
      have hunit : thousandDollars.minLotRisk 5 (some 2000) = 5 := by decide +kernel
      rw [htarget, hunit] at hlow hhigh
      simp only [List.mem_cons, List.not_mem_nil, or_false] at hn
      rcases hn with rfl | rfl | rfl | rfl
      · norm_num at hhigh
      · norm_num at hhigh
      · norm_num at hlow
      · norm_num at hlow)

/-- With a stop of nine dollars one hundredth would risk nine of the sixteen and a
half dollars allowed, but the ideal lot rounds up to two hundredths. -/
theorem thousand_dollars_nine_dollar_stop :
    ¬ thousandDollars.SkippedOnlyWhenUnavoidable 9 none none none (some 2000) := by
  rintro ⟨hskip, -⟩
  have hzero : thousandDollars.calculateLotSize 9 none none none (some 2000) = 0 := by
    decide +kernel
  have hfits : ¬ 110 / 100 * thousandDollars.targetRisk none none none <
      thousandDollars.minLotRisk 9 (some 2000) := by
    decide +kernel
  exact hfits (hskip.mp hzero)

end RiskManager
end Engine
end Shamarx
