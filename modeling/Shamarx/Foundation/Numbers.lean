import Mathlib.Algebra.BigOperators.Group.List.Basic
import Shamarx.Foundation.Rounding

/-!
# Numbers with infinities

The exact rationals with what a division by zero makes of them: the two infinities, and
the value that is no number.  Every comparison with the latter is false, the one with
itself included.
-/

namespace Shamarx
namespace Foundation

inductive Number where
  | finite (q : ℚ)
  | infinite (positive : Bool)
  | nan
  deriving DecidableEq

namespace Number

/-!
# Arithmetic
-/

def ofDiv (x y : ℚ) : Number :=
  if y = 0 then
    if x = 0 then nan else infinite (decide (0 < x))
  else finite (x / y)

def add : Number -> Number -> Number
  | finite a, finite b => finite (a + b)
  | finite _, infinite s => infinite s
  | infinite s, finite _ => infinite s
  | infinite s, infinite t => if s = t then infinite s else nan
  | nan, _ => nan
  | _, nan => nan

/-- The product with a rational; zero times an infinity is no number. -/
def mul : Number -> ℚ -> Number
  | finite a, q => finite (a * q)
  | infinite s, q => if q = 0 then nan else infinite (s == decide (0 < q))
  | nan, _ => nan

def div (x : Number) (q : ℚ) : Number :=
  x.mul q⁻¹

def roundTo : Number -> ℚ -> Number
  | finite a, scale => finite (Foundation.roundTo scale a)
  | infinite s, _ => infinite s
  | nan, _ => nan

protected def lt : Number -> Number -> Prop
  | finite a, finite b => a < b
  | finite _, infinite t => t = true
  | infinite s, finite _ => s = false
  | infinite s, infinite t => s = false ∧ t = true
  | nan, _ => False
  | _, nan => False

protected def le : Number -> Number -> Prop
  | finite a, finite b => a ≤ b
  | finite _, infinite t => t = true
  | infinite s, finite _ => s = false
  | infinite s, infinite t => s = false ∨ t = true
  | nan, _ => False
  | _, nan => False

instance : LT Number :=
  ⟨Number.lt⟩

instance : LE Number :=
  ⟨Number.le⟩

instance : DecidableRel (fun x y : Number => x < y)
  | finite a, finite b => inferInstanceAs (Decidable (a < b))
  | finite _, infinite t => inferInstanceAs (Decidable (t = true))
  | infinite s, finite _ => inferInstanceAs (Decidable (s = false))
  | infinite s, infinite t => inferInstanceAs (Decidable (s = false ∧ t = true))
  | finite _, nan => isFalse not_false
  | infinite _, nan => isFalse not_false
  | nan, _ => isFalse not_false

instance : DecidableRel (fun x y : Number => x ≤ y)
  | finite a, finite b => inferInstanceAs (Decidable (a ≤ b))
  | finite _, infinite t => inferInstanceAs (Decidable (t = true))
  | infinite s, finite _ => inferInstanceAs (Decidable (s = false))
  | infinite s, infinite t => inferInstanceAs (Decidable (s = false ∨ t = true))
  | finite _, nan => isFalse not_false
  | infinite _, nan => isFalse not_false
  | nan, _ => isFalse not_false

def Equals (x y : Number) : Prop :=
  x = y ∧ x ≠ nan

instance (x y : Number) : Decidable (Equals x y) :=
  inferInstanceAs (Decidable (_ ∧ _))

def orZero : Number -> ℚ
  | finite q => q
  | infinite _ => 0
  | nan => 0

def IsFinite (x : Number) : Prop :=
  exists q, x = finite q

theorem isFinite_finite (q : ℚ) : (finite q).IsFinite :=
  ⟨q, rfl⟩

theorem IsFinite.ne_nan {x : Number} (h : x.IsFinite) : x ≠ nan := by
  rcases h with ⟨q, rfl⟩
  exact fun h => nomatch h

/-!
# Sums
-/

instance : Zero Number :=
  ⟨finite 0⟩

instance : Add Number :=
  ⟨add⟩

@[simp] theorem finite_add_finite (a b : ℚ) : finite a + finite b = finite (a + b) := rfl

@[simp] theorem nan_add (x : Number) : nan + x = nan := by
  cases x <;> rfl

@[simp] theorem add_nan (x : Number) : x + nan = nan := by
  cases x <;> rfl

theorem add_comm' (x y : Number) : x + y = y + x := by
  change add x y = add y x
  cases x with
  | finite a =>
      cases y with
      | finite b =>
          exact congrArg finite (add_comm a b)
      | infinite t =>
          rfl
      | nan =>
          rfl
  | infinite s =>
      cases y with
      | finite b =>
          rfl
      | infinite t =>
          cases s <;> cases t <;> rfl
      | nan =>
          rfl
  | nan =>
      cases y <;> rfl

theorem add_assoc' (x y z : Number) : x + y + z = x + (y + z) := by
  change add (add x y) z = add x (add y z)
  cases x with
  | finite a =>
      cases y with
      | finite b =>
          cases z with
          | finite c =>
              exact congrArg finite (add_assoc a b c)
          | infinite u =>
              rfl
          | nan =>
              rfl
      | infinite t =>
          cases z with
          | finite c =>
              rfl
          | infinite u =>
              cases t <;> cases u <;> rfl
          | nan =>
              rfl
      | nan =>
          rfl
  | infinite s =>
      cases y with
      | finite b =>
          cases z <;> rfl
      | infinite t =>
          cases z with
          | finite c =>
              cases s <;> cases t <;> rfl
          | infinite u =>
              cases s <;> cases t <;> cases u <;> rfl
          | nan =>
              cases s <;> cases t <;> rfl
      | nan =>
          rfl
  | nan =>
      rfl

instance : AddCommMonoid Number where
  add_assoc := add_assoc'
  zero_add x := by
    cases x with
    | finite a =>
        exact congrArg finite (zero_add a)
    | infinite s =>
        rfl
    | nan =>
        rfl
  add_zero x := by
    cases x with
    | finite a =>
        exact congrArg finite (add_zero a)
    | infinite s =>
        rfl
    | nan =>
        rfl
  add_comm := add_comm'
  nsmul := nsmulRec

/-!
# Finite numbers
-/

@[simp] theorem finite_mul (a q : ℚ) : (finite a).mul q = finite (a * q) := rfl

@[simp] theorem finite_div (a q : ℚ) : (finite a).div q = finite (a / q) := by
  rw [div_eq_mul_inv]
  rfl

@[simp] theorem finite_roundTo (a scale : ℚ) :
    (finite a).roundTo scale = finite (Foundation.roundTo scale a) := rfl

theorem IsFinite.add {x y : Number} (hx : x.IsFinite) (hy : y.IsFinite) : (x + y).IsFinite := by
  rcases hx with ⟨a, rfl⟩
  rcases hy with ⟨b, rfl⟩
  exact isFinite_finite (a + b)

theorem IsFinite.sum {values : List Number} (h : forall x, x ∈ values -> x.IsFinite) :
    values.sum.IsFinite := by
  induction values with
  | nil =>
      exact isFinite_finite 0
  | cons x rest ih =>
      rw [List.sum_cons]
      exact (h x List.mem_cons_self).add (ih fun y hy => h y (List.mem_cons_of_mem x hy))

theorem IsFinite.mul {x : Number} (h : x.IsFinite) (q : ℚ) : (x.mul q).IsFinite := by
  rcases h with ⟨a, rfl⟩
  exact isFinite_finite (a * q)

theorem IsFinite.div {x : Number} (h : x.IsFinite) (q : ℚ) : (x.div q).IsFinite :=
  h.mul q⁻¹

theorem IsFinite.roundTo {x : Number} (h : x.IsFinite) (scale : ℚ) : (x.roundTo scale).IsFinite := by
  rcases h with ⟨a, rfl⟩
  exact isFinite_finite (Foundation.roundTo scale a)

theorem isFinite_ofDiv {y : ℚ} (hy : y ≠ 0) (x : ℚ) : (ofDiv x y).IsFinite := by
  rw [ofDiv, if_neg hy]
  exact isFinite_finite (x / y)

/-!
# Past the finite numbers
-/

theorem not_isFinite_ofDiv_zero (x : ℚ) : ¬ (ofDiv x 0).IsFinite := by
  rw [ofDiv, if_pos rfl]
  rintro ⟨q, hq⟩
  split_ifs at hq

theorem IsFinite.of_mul {x : Number} {q : ℚ} (h : (x.mul q).IsFinite) : x.IsFinite := by
  rcases h with ⟨a, ha⟩
  cases x with
  | finite b =>
      exact isFinite_finite b
  | infinite s =>
      dsimp only [Number.mul] at ha
      split_ifs at ha
  | nan =>
      cases ha

theorem IsFinite.of_roundTo {x : Number} {scale : ℚ} (h : (x.roundTo scale).IsFinite) :
    x.IsFinite := by
  rcases h with ⟨a, ha⟩
  cases x with
  | finite b =>
      exact isFinite_finite b
  | infinite s =>
      cases ha
  | nan =>
      cases ha

theorem mul_zero_of_not_isFinite {x : Number} (h : ¬ x.IsFinite) : x.mul 0 = nan := by
  cases x with
  | finite a =>
      exact absurd (isFinite_finite a) h
  | infinite s =>
      rw [Number.mul, if_pos rfl]
  | nan =>
      rfl

@[simp] theorem nan_mul (q : ℚ) : nan.mul q = nan := rfl

@[simp] theorem nan_div (q : ℚ) : nan.div q = nan := rfl

@[simp] theorem nan_roundTo (scale : ℚ) : nan.roundTo scale = nan := rfl

/-!
# Counting signs
-/

theorem le_zero_iff {x : Number} : x ≤ 0 <-> x ≠ nan ∧ ¬ 0 < x := by
  cases x with
  | finite q =>
      have hsigns : q ≤ 0 <-> ¬ 0 < q := not_lt.symm
      exact hsigns.trans (and_iff_right (isFinite_finite q).ne_nan).symm
  | infinite s =>
      cases s with
      | false =>
          exact iff_of_true rfl ⟨(fun h => nomatch h), (fun h => nomatch h)⟩
      | true =>
          exact iff_of_false (fun h => nomatch h) fun h => h.2 rfl
  | nan =>
      exact iff_of_false not_false fun h => h.1 rfl

theorem signs_add_up_iff (values : List Number) :
    (values.filter fun x => decide (0 < x)).length +
        (values.filter fun x => decide (x ≤ 0)).length = values.length <->
      nan ∉ values := by
  have hsplit := List.length_eq_length_filter_add (l := values) fun x => decide (0 < x)
  have hothers : (values.filter fun x => decide (x ≤ 0)) =
      (values.filter fun x => !decide (0 < x)).filter fun x => decide (x ≠ nan) := by
    rw [List.filter_filter]
    refine List.filter_congr ?_
    intro x _
    rw [Bool.eq_iff_iff, Bool.and_eq_true, Bool.not_eq_true', decide_eq_true_eq,
      decide_eq_true_eq, decide_eq_false_iff_not]
    exact le_zero_iff
  rw [hothers, hsplit, Nat.add_left_cancel_iff, List.length_filter_eq_length_iff]
  constructor
  · intro hall hnan
    have hin : nan ∈ values.filter fun x => !decide (0 < x) :=
      List.mem_filter.mpr ⟨hnan, rfl⟩
    exact absurd rfl (of_decide_eq_true (hall nan hin))
  · intro hnan x hx
    refine decide_eq_true ?_
    rintro rfl
    exact hnan (List.mem_of_mem_filter hx)

end Number
end Foundation
end Shamarx
