import Mathlib.Algebra.Order.Monoid.Unbundled.Basic
import Mathlib.Data.Int.ConditionallyCompleteOrder
import Mathlib.Data.List.Nodup
import Mathlib.Data.List.Perm.Basic
import Mathlib.Logic.Function.Iterate
import Mathlib.Order.Iterate
import Mathlib.Tactic.IntervalCases
import Shamarx.Foundation.Calendar

/-!
# Counting weekdays

The n-th weekday after a day, as the n-fold step to the next one.
-/

namespace Shamarx
namespace Foundation

def nextWeekday (d : Int) : Int :=
  if IsWeekend (d + 1) then if IsWeekend (d + 2) then d + 3 else d + 2
  else d + 1

def nthWeekday (d : Int) (n : Nat) : Int :=
  nextWeekday^[n] d

theorem nthWeekday_succ (d : Int) (n : Nat) :
    nthWeekday d (n + 1) = nthWeekday (nextWeekday d) n := rfl

theorem lt_nextWeekday (d : Int) : d < nextWeekday d := by
  unfold nextWeekday
  split_ifs <;> omega

theorem nextWeekday_not_weekend (d : Int) : ¬ IsWeekend (nextWeekday d) := by
  unfold nextWeekday
  split_ifs with hone htwo
  · unfold IsWeekend weekdayOf at *
    omega
  · exact htwo
  · exact hone

theorem nextWeekday_le {d e : Int} (hlt : d < e) (he : ¬ IsWeekend e) : nextWeekday d ≤ e := by
  unfold nextWeekday IsWeekend weekdayOf at *
  split_ifs <;> omega

theorem nextWeekday_mono : Monotone nextWeekday := by
  intro d e hle
  exact nextWeekday_le (lt_of_le_of_lt hle (lt_nextWeekday e)) (nextWeekday_not_weekend e)

theorem le_nthWeekday (d : Int) (n : Nat) : d ≤ nthWeekday d n :=
  Function.id_le_iterate_of_id_le (fun e => le_of_lt (lt_nextWeekday e)) n d

theorem lt_nthWeekday (d : Int) {n : Nat} (h : 0 < n) : d < nthWeekday d n := by
  cases n with
  | zero =>
      cases h
  | succ n =>
      rw [nthWeekday_succ]
      exact lt_of_lt_of_le (lt_nextWeekday d) (le_nthWeekday _ n)

theorem nthWeekday_mono {d e : Int} {m n : Nat} (hday : d ≤ e) (hcount : m ≤ n) :
    nthWeekday d m ≤ nthWeekday e n := by
  calc nthWeekday d m ≤ nthWeekday e m := nextWeekday_mono.iterate m hday
    _ ≤ nthWeekday (nthWeekday e (n - m)) m := nextWeekday_mono.iterate m (le_nthWeekday e _)
    _ = nthWeekday e n := by
        unfold nthWeekday
        rw [<- Function.iterate_add_apply, Nat.add_sub_cancel' hcount]

theorem nthWeekday_add (d : Int) (m n : Nat) :
    nthWeekday d (m + n) = nthWeekday (nthWeekday d m) n := by
  unfold nthWeekday
  rw [Nat.add_comm, Function.iterate_add_apply]

theorem nthWeekday_strictMono (d : Int) : StrictMono (nthWeekday d) := by
  apply strictMono_nat_of_lt_succ
  intro n
  rw [nthWeekday_add]
  exact lt_nthWeekday _ Nat.one_pos

theorem nthWeekday_not_weekend (d : Int) {n : Nat} (h : 0 < n) : ¬ IsWeekend (nthWeekday d n) := by
  cases n with
  | zero =>
      cases h
  | succ n =>
      rw [nthWeekday_add]
      exact nextWeekday_not_weekend _

/-!
# Weekdays of a range
-/

def weekdaysIn (d e : Int) : List Int :=
  ((List.range (e - d).toNat).map fun k : Nat => d + 1 + (k : Int)).filter fun day =>
    decide (¬ IsWeekend day)

theorem mem_weekdaysIn {d e day : Int} :
    day ∈ weekdaysIn d e <-> (d < day ∧ day ≤ e) ∧ ¬ IsWeekend day := by
  rw [weekdaysIn, List.mem_filter, List.mem_map, decide_eq_true_iff]
  apply and_congr_left
  intro _
  constructor
  · intro hday
    rcases hday with ⟨k, hk, rfl⟩
    rw [List.mem_range] at hk
    omega
  · intro hday
    refine ⟨(day - d - 1).toNat, List.mem_range.mpr ?_, ?_⟩
    · omega
    · omega

theorem nodup_weekdaysIn (d e : Int) : (weekdaysIn d e).Nodup := by
  apply List.Nodup.filter
  apply List.Nodup.map _ List.nodup_range
  intro k l hkl
  have hsame : d + 1 + (k : Int) = d + 1 + (l : Int) := hkl
  omega

theorem weekdaysIn_self (d : Int) : weekdaysIn d d = [] := by
  rw [weekdaysIn, sub_self]
  rfl

theorem weekdaysIn_perm {d e : Int} (h : nextWeekday d ≤ e) :
    (weekdaysIn d e).Perm (nextWeekday d :: weekdaysIn (nextWeekday d) e) := by
  have hnodup : (nextWeekday d :: weekdaysIn (nextWeekday d) e).Nodup := by
    refine List.nodup_cons.mpr ⟨?_, nodup_weekdaysIn _ _⟩
    intro hmem
    exact lt_irrefl _ (mem_weekdaysIn.mp hmem).1.1
  rw [List.perm_ext_iff_of_nodup (nodup_weekdaysIn d e) hnodup]
  intro day
  rw [List.mem_cons, mem_weekdaysIn, mem_weekdaysIn]
  constructor
  · intro hday
    have hnext := nextWeekday_le hday.1.1 hday.2
    rcases eq_or_lt_of_le hnext with heq | hlt
    · exact Or.inl heq.symm
    · exact Or.inr ⟨⟨hlt, hday.1.2⟩, hday.2⟩
  · intro hday
    rcases hday with heq | hafter
    · rw [heq]
      exact ⟨⟨lt_nextWeekday d, h⟩, nextWeekday_not_weekend d⟩
    · exact ⟨⟨lt_trans (lt_nextWeekday d) hafter.1.1, hafter.1.2⟩, hafter.2⟩

theorem length_weekdaysIn_next {d e : Int} (h : nextWeekday d ≤ e) :
    (weekdaysIn d e).length = (weekdaysIn (nextWeekday d) e).length + 1 :=
  (weekdaysIn_perm h).length_eq

theorem length_weekdaysIn_nthWeekday (d : Int) (n : Nat) :
    (weekdaysIn d (nthWeekday d n)).length = n := by
  induction n generalizing d with
  | zero =>
      exact congrArg List.length (weekdaysIn_self d)
  | succ n ih =>
      rw [nthWeekday_succ, length_weekdaysIn_next (le_nthWeekday _ n), ih]

theorem nthWeekday_le {d e : Int} {n : Nat} (hle : d ≤ e) (h : n ≤ (weekdaysIn d e).length) :
    nthWeekday d n ≤ e := by
  induction n generalizing d with
  | zero =>
      exact hle
  | succ n ih =>
      rcases List.exists_mem_of_length_pos (lt_of_lt_of_le (Nat.succ_pos n) h) with ⟨day, hday⟩
      rcases mem_weekdaysIn.mp hday with ⟨⟨hafter, hupto⟩, hweekday⟩
      have hnext : nextWeekday d ≤ e := le_trans (nextWeekday_le hafter hweekday) hupto
      rw [length_weekdaysIn_next hnext] at h
      exact ih hnext (Nat.le_of_succ_le_succ h)

/-!
# Whole weeks
-/

theorem isWeekend_add_weeks (d k : Int) : IsWeekend (d + 7 * k) ↔ IsWeekend d := by
  unfold IsWeekend weekdayOf
  omega

theorem nextWeekday_add_weeks (d k : Int) : nextWeekday (d + 7 * k) = nextWeekday d + 7 * k := by
  have hone := isWeekend_add_weeks (d + 1) k
  have htwo := isWeekend_add_weeks (d + 2) k
  rw [add_right_comm] at hone htwo
  simp only [nextWeekday, hone, htwo]
  split_ifs <;> omega

theorem nthWeekday_add_weeks (d k : Int) (n : Nat) :
    nthWeekday (d + 7 * k) n = nthWeekday d n + 7 * k := by
  induction n generalizing d with
  | zero =>
      rfl
  | succ n ih =>
      rw [nthWeekday_succ, nthWeekday_succ, nextWeekday_add_weeks, ih]

def latestWeekday (d : Int) : Int :=
  if IsWeekend d then if IsWeekend (d - 1) then d - 2 else d - 1
  else d

theorem latestWeekday_add_weeks (d k : Int) :
    latestWeekday (d + 7 * k) = latestWeekday d + 7 * k := by
  have hzero := isWeekend_add_weeks d k
  have hone := isWeekend_add_weeks (d - 1) k
  rw [show d - 1 + 7 * k = d + 7 * k - 1 by omega] at hone
  simp only [latestWeekday, hzero, hone]
  split_ifs <;> omega

theorem nthWeekday_five (d : Int) : nthWeekday d 5 = latestWeekday d + 7 := by
  have hday : d = d % 7 + 7 * (d / 7) := (Int.emod_add_mul_ediv d 7).symm
  have hlow : 0 ≤ d % 7 := Int.emod_nonneg d (by decide)
  have hhigh : d % 7 < 7 := Int.emod_lt_of_pos d (by decide)
  have hweek : forall r : Int, 0 ≤ r -> r < 7 -> nthWeekday r 5 = latestWeekday r + 7 := by
    intro r hr hr'
    interval_cases r <;> rfl
  rw [hday, nthWeekday_add_weeks, latestWeekday_add_weeks, hweek _ hlow hhigh]
  omega

def mondayOf (d : Int) : Int :=
  d - (d + 3) % 7

theorem mondayOf_eq {d e : Int} (hlow : mondayOf d ≤ e) (hhigh : e ≤ d) :
    mondayOf e = mondayOf d := by
  unfold mondayOf at *
  omega

example : weekdayOf (mondayOf 20643) = 1 := by decide

example : nthWeekday 20643 5 = 20650 ∧ nthWeekday 20645 5 = 20651 := by decide

end Foundation
end Shamarx
