import Mathlib.Data.Int.ConditionallyCompleteOrder
import Mathlib.Data.Rat.Floor
import Mathlib.Tactic.Linarith
import Mathlib.Tactic.Ring
import Mathlib.Tactic.FieldSimp

/-!
# Rounding of exact rationals

Money and prices are exact rationals.  Half-up rounding is the one of
`Math.round`: the floor of the argument plus one half.
-/

namespace Shamarx
namespace Foundation

def roundHalfUp (x : ℚ) : Int :=
  (x + 1 / 2).floor

def roundTo (scale : ℚ) (x : ℚ) : ℚ :=
  (roundHalfUp (x * scale) : ℚ) / scale

theorem roundHalfUp_le (x : ℚ) : (roundHalfUp x : ℚ) ≤ x + 1 / 2 :=
  Rat.floor_le (x + 1 / 2)

theorem lt_roundHalfUp_add_one (x : ℚ) : x + 1 / 2 < roundHalfUp x + 1 := by
  simpa [roundHalfUp] using Rat.lt_floor_add_one (x + 1 / 2)

/-- Rounding of Python's `round`: halves go to the even neighbour. -/
def roundHalfEven (x : ℚ) : Int :=
  let n := roundHalfUp x
  if x + 1 / 2 = n ∧ n % 2 ≠ 0 then n - 1 else n

def roundCents (x : ℚ) : ℚ :=
  (roundHalfEven (x * 100) : ℚ) / 100

theorem roundHalfUp_intCast (n : Int) : roundHalfUp (n : ℚ) = n := by
  change ⌊(n : ℚ) + 1 / 2⌋ = n
  rw [Int.floor_eq_iff]
  constructor <;> linarith

theorem roundTo_intCast_div {scale : ℚ} (hscale : scale ≠ 0) (n : Int) :
    roundTo scale ((n : ℚ) / scale) = (n : ℚ) / scale := by
  rw [roundTo, div_mul_cancel₀ _ hscale, roundHalfUp_intCast]

theorem abs_roundHalfEven_sub_le (x : ℚ) : |(roundHalfEven x : ℚ) - x| ≤ 1 / 2 := by
  have hle := roundHalfUp_le x
  have hlt := lt_roundHalfUp_add_one x
  unfold roundHalfEven
  dsimp only
  split_ifs with hhalf
  · rw [Int.cast_sub, Int.cast_one, abs_le]
    constructor <;> linarith [hhalf.1]
  · rw [abs_le]
    constructor <;> linarith

theorem abs_roundCents_sub_le (x : ℚ) : |roundCents x - x| ≤ 1 / 200 := by
  have h := abs_roundHalfEven_sub_le (x * 100)
  rw [abs_le] at h ⊢
  unfold roundCents
  constructor <;> linarith [h.1, h.2]

theorem roundTo_roundCents (x : ℚ) : roundTo 100 (roundCents x) = roundCents x :=
  roundTo_intCast_div (by norm_num) _

/-!
# Order and shift

Half-up rounding is monotone and commutes with integer shifts, so it keeps the
order of two prices and separates those that are a tick apart.
-/

theorem le_roundHalfUp_iff (n : Int) (x : ℚ) : n ≤ roundHalfUp x ↔ (n : ℚ) - 1 / 2 ≤ x := by
  change n ≤ ⌊x + 1 / 2⌋ ↔ _
  rw [Int.le_floor, sub_le_iff_le_add]

theorem roundHalfUp_lt_iff (n : Int) (x : ℚ) : roundHalfUp x < n ↔ x < (n : ℚ) - 1 / 2 := by
  rw [← not_le, ← not_le, le_roundHalfUp_iff]

theorem roundHalfUp_mono : Monotone roundHalfUp := by
  intro x y hxy
  rw [le_roundHalfUp_iff]
  linarith [roundHalfUp_le x]

theorem roundHalfUp_add_one (x : ℚ) : roundHalfUp (x + 1) = roundHalfUp x + 1 := by
  change ⌊x + 1 + 1 / 2⌋ = ⌊x + 1 / 2⌋ + 1
  rw [add_right_comm, Int.floor_add_one]

theorem roundHalfUp_clamp (lo hi : Int) (x : ℚ) :
    roundHalfUp (max (lo : ℚ) (min (hi : ℚ) x)) = max lo (min hi (roundHalfUp x)) := by
  rw [roundHalfUp_mono.map_max, roundHalfUp_mono.map_min, roundHalfUp_intCast,
    roundHalfUp_intCast]

theorem roundTo_mono {scale : ℚ} (hscale : 0 < scale) : Monotone (roundTo scale) := by
  intro x y hxy
  have hround := roundHalfUp_mono (mul_le_mul_of_nonneg_right hxy hscale.le)
  exact div_le_div_of_nonneg_right (Int.cast_le.mpr hround) hscale.le

theorem abs_roundTo_sub_le {scale : ℚ} (hscale : 0 < scale) (x : ℚ) :
    |roundTo scale x - x| ≤ 1 / (2 * scale) := by
  have hle := roundHalfUp_le (x * scale)
  have hlt := lt_roundHalfUp_add_one (x * scale)
  have heq : roundTo scale x - x = ((roundHalfUp (x * scale) : ℚ) - x * scale) / scale := by
    unfold roundTo
    field_simp
  have hhalf : 1 / (2 * scale) = 1 / 2 / scale := by
    field_simp
  rw [heq, hhalf, abs_div, abs_of_pos hscale]
  refine div_le_div_of_nonneg_right ?_ hscale.le
  rw [abs_le]
  constructor <;> linarith

/-- Parts that are rounded one by one stray from the total by half a tick each. -/
theorem abs_sum_roundTo_sub_le {scale : ℚ} (hscale : 0 < scale) (xs : List ℚ) :
    |(xs.map (roundTo scale)).sum - xs.sum| ≤ xs.length * (1 / (2 * scale)) := by
  induction xs with
  | nil =>
      simp
  | cons x xs ih =>
      have hx := abs_roundTo_sub_le hscale x
      rw [List.map_cons, List.sum_cons, List.sum_cons, List.length_cons, Nat.cast_succ]
      rw [abs_le] at *
      constructor <;> linarith [hx.1, hx.2, ih.1, ih.2]

theorem abs_sum_roundTo_sub_roundTo_le {scale : ℚ} (hscale : 0 < scale) (xs : List ℚ) :
    |(xs.map (roundTo scale)).sum - roundTo scale xs.sum| ≤
      ((xs.length : ℚ) + 1) * (1 / (2 * scale)) := by
  have hparts := abs_sum_roundTo_sub_le hscale xs
  have hwhole := abs_roundTo_sub_le hscale xs.sum
  rw [abs_le] at *
  constructor <;> linarith [hparts.1, hparts.2, hwhole.1, hwhole.2]

theorem roundTo_lt_of_tick_le {scale x y : ℚ} (hscale : 0 < scale) (h : 1 / scale ≤ y - x) :
    roundTo scale x < roundTo scale y := by
  have htick : x * scale + 1 ≤ y * scale := by
    rw [div_le_iff₀ hscale, sub_mul] at h
    linarith
  have hround := roundHalfUp_mono htick
  rw [roundHalfUp_add_one] at hround
  exact div_lt_div_of_pos_right (Int.cast_lt.mpr (Int.lt_of_add_one_le hround)) hscale

/-!
# Python's rounding

Being within half a unit of the argument is enough for the rounding to be
monotone and to leave an integer alone.
-/

theorem roundHalfEven_mono : Monotone roundHalfEven := by
  intro x y hxy
  by_contra hlt
  have hstep : roundHalfEven y + 1 ≤ roundHalfEven x := Int.add_one_le_of_lt (not_le.mp hlt)
  have hcast : (roundHalfEven y : ℚ) + 1 ≤ roundHalfEven x := by
    exact_mod_cast hstep
  have hx := abs_le.mp (abs_roundHalfEven_sub_le x)
  have hy := abs_le.mp (abs_roundHalfEven_sub_le y)
  have heq : x = y := by
    linarith [hx.2, hy.1]
  rw [heq] at hstep
  omega

theorem roundHalfEven_intCast (n : Int) : roundHalfEven (n : ℚ) = n := by
  have hnear := abs_le.mp (abs_roundHalfEven_sub_le (n : ℚ))
  have hlower : n - 1 < roundHalfEven (n : ℚ) := by
    have hcast : ((n - 1 : Int) : ℚ) < roundHalfEven (n : ℚ) := by
      push_cast
      linarith [hnear.1]
    exact_mod_cast hcast
  have hupper : roundHalfEven (n : ℚ) < n + 1 := by
    have hcast : (roundHalfEven (n : ℚ) : ℚ) < ((n + 1 : Int) : ℚ) := by
      push_cast
      linarith [hnear.2]
    exact_mod_cast hcast
  omega

/-- The multiple of `step` nearest to a quantity, a tie going to the even multiple. -/
def snapTo (step : Int) (x : ℚ) : Int :=
  roundHalfEven (x / step) * step

theorem dvd_snapTo (step : Int) (x : ℚ) : step ∣ snapTo step x :=
  Dvd.intro_left _ rfl

theorem snapTo_mono {step : Int} (hstep : 0 < step) : Monotone (snapTo step) := by
  intro x y hxy
  have hdiv : x / step ≤ y / step :=
    div_le_div_of_nonneg_right hxy (Int.cast_nonneg hstep.le)
  exact mul_le_mul_of_nonneg_right (roundHalfEven_mono hdiv) hstep.le

theorem snapTo_of_dvd {step n : Int} (hstep : 0 < step) (hdvd : step ∣ n) :
    snapTo step (n : ℚ) = n := by
  rcases hdvd with ⟨k, rfl⟩
  have hne : (step : ℚ) ≠ 0 := by
    exact_mod_cast hstep.ne'
  have hquot : ((step * k : Int) : ℚ) / step = (k : ℚ) := by
    rw [Int.cast_mul, mul_div_cancel_left₀ _ hne]
  rw [snapTo, hquot, roundHalfEven_intCast, mul_comm]

/-!
# Whole units with a floor

A count rounded to whole units but never below one.  Rounding two parts of a
total separately inflates it by at most eight fifths when the total is at least
five quarters and neither part is more than four times the other.
-/

def wholeUnits (x : ℚ) : Int :=
  max 1 (roundHalfUp x)

theorem one_le_wholeUnits (x : ℚ) : 1 ≤ wholeUnits x :=
  le_max_left _ _

theorem wholeUnits_of_lt {x : ℚ} (h : x < 3 / 2) : wholeUnits x = 1 := by
  refine max_eq_left (Int.le_of_lt_add_one ?_)
  rw [roundHalfUp_lt_iff]
  norm_num
  exact h

theorem wholeUnits_le {x : ℚ} (h : 1 / 2 ≤ x) : (wholeUnits x : ℚ) ≤ x + 1 / 2 := by
  unfold wholeUnits
  rw [Int.cast_max, Int.cast_one]
  exact max_le (by linarith) (roundHalfUp_le x)

theorem wholeUnits_intCast {n : Int} (hn : 1 ≤ n) : wholeUnits (n : ℚ) = n := by
  rw [wholeUnits, roundHalfUp_intCast, max_eq_right hn]

theorem wholeUnits_pair_le {x y : ℚ} (htotal : 5 / 4 ≤ x + y) (hx : x ≤ 4 * y)
    (hy : y ≤ 4 * x) : (wholeUnits x : ℚ) + wholeUnits y ≤ 8 / 5 * (x + y) := by
  rcases lt_or_ge x (3 / 2) with hxsmall | hxlarge
  · rcases lt_or_ge y (3 / 2) with hysmall | hylarge
    · rw [wholeUnits_of_lt hxsmall, wholeUnits_of_lt hysmall]
      push_cast
      linarith
    · have hround := wholeUnits_le (by linarith : 1 / 2 ≤ y)
      rw [wholeUnits_of_lt hxsmall]
      push_cast
      linarith
  · have hround := wholeUnits_le (by linarith : 1 / 2 ≤ x)
    rcases lt_or_ge y (3 / 2) with hysmall | hylarge
    · rw [wholeUnits_of_lt hysmall]
      push_cast
      linarith
    · have hround' := wholeUnits_le (by linarith : 1 / 2 ≤ y)
      linarith

def roundAwayTo (scale : ℚ) (x : ℚ) : ℚ :=
  if 0 ≤ x then roundTo scale x else -roundTo scale (-x)

/-!
# Percentages of doubles

A comparison of `num / den * 100` with a finite bound.  Dividing by zero gives
an infinity with the sign of the numerator, and `NaN`, which fails every
comparison, for a zero numerator.
-/

def PercentAtLeast (num den bound : ℚ) : Prop :=
  if den = 0 then 0 < num else bound ≤ num / den * 100

def PercentAbove (num den bound : ℚ) : Prop :=
  if den = 0 then 0 < num else bound < num / den * 100

def PercentAtMost (num den bound : ℚ) : Prop :=
  if den = 0 then num < 0 else num / den * 100 ≤ bound

instance (num den bound : ℚ) : Decidable (PercentAtLeast num den bound) :=
  inferInstanceAs (Decidable (if den = 0 then 0 < num else bound ≤ num / den * 100))

instance (num den bound : ℚ) : Decidable (PercentAbove num den bound) :=
  inferInstanceAs (Decidable (if den = 0 then 0 < num else bound < num / den * 100))

instance (num den bound : ℚ) : Decidable (PercentAtMost num den bound) :=
  inferInstanceAs (Decidable (if den = 0 then num < 0 else num / den * 100 ≤ bound))

/-!
# Multiples of a tick
-/

def OnTick (scale x : ℚ) : Prop :=
  exists n : Int, x = n / scale

theorem onTick_zero (scale : ℚ) : OnTick scale 0 :=
  ⟨0, by rw [Int.cast_zero, zero_div]⟩

theorem onTick_roundTo (scale x : ℚ) : OnTick scale (roundTo scale x) :=
  ⟨roundHalfUp (x * scale), rfl⟩

theorem OnTick.roundTo_eq {scale x : ℚ} (hscale : scale ≠ 0) (h : OnTick scale x) :
    roundTo scale x = x := by
  rcases h with ⟨n, rfl⟩
  exact roundTo_intCast_div hscale n

theorem OnTick.add {scale x y : ℚ} (hx : OnTick scale x) (hy : OnTick scale y) :
    OnTick scale (x + y) := by
  rcases hx with ⟨m, rfl⟩
  rcases hy with ⟨n, rfl⟩
  exact ⟨m + n, by rw [Int.cast_add, add_div]⟩

theorem onTick_sum {scale : ℚ} {xs : List ℚ} (h : forall x, x ∈ xs -> OnTick scale x) :
    OnTick scale xs.sum := by
  induction xs with
  | nil =>
      exact onTick_zero scale
  | cons x xs ih =>
      rw [List.sum_cons]
      exact (h x List.mem_cons_self).add (ih fun y hy => h y (List.mem_cons_of_mem x hy))

end Foundation
end Shamarx
