import Mathlib.Algebra.Order.Group.Int
import Mathlib.Algebra.Order.Group.Unbundled.Int
import Mathlib.Data.List.GetD
import Shamarx.Engine.NewsCalendar
import Shamarx.Foundation.Bisection

/-!
# The blackout search

The window is two-sided and the search discards a half by comparing the probed event with
the instant alone.
-/

namespace Shamarx
namespace Engine

open Foundation

def eventProbe (times : List Int) (t window : Int) (mid : Nat) : Probe :=
  if ((times.getD mid 0 - t).natAbs : Int) ≤ window then .hit
  else if times.getD mid 0 < t then .right
  else .left

section Search

variable {times : List Int} {t window : Int} {lo hi : Nat} {found : Bool}

/-- The loop follows the search, given a round for every index of the interval. -/
theorem blackoutLoop_of_bisects (h : Bisects (eventProbe times t window) lo hi found)
    (fuel : Nat) (hfuel : hi - lo ≤ fuel) :
    blackoutLoop times t window fuel lo hi = found := by
  induction h generalizing fuel with
  | empty hempty =>
      cases fuel with
      | zero =>
          rfl
      | succ fuel =>
          rw [blackoutLoop, if_neg hempty]
  | @hit lo hi hlt hprobe =>
      cases fuel with
      | zero =>
          omega
      | succ fuel =>
          have hnear : ((times.getD (halfway lo hi) 0 - t).natAbs : Int) ≤ window := by
            unfold eventProbe at hprobe
            split_ifs at hprobe with hnear
            exact hnear
          rw [blackoutLoop, if_pos hlt]
          exact if_pos hnear
  | @right lo hi found hlt hprobe rest ih =>
      cases fuel with
      | zero =>
          omega
      | succ fuel =>
          have hbounds := halfway_lt hlt
          have hlow := le_halfway hlt
          unfold eventProbe at hprobe
          split_ifs at hprobe with hfar hbefore
          rw [blackoutLoop, if_pos hlt]
          refine (if_neg hfar).trans ((if_pos hbefore).trans ?_)
          exact ih fuel (by omega)
  | @left lo hi found hlt hprobe rest ih =>
      cases fuel with
      | zero =>
          omega
      | succ fuel =>
          have hbounds := halfway_lt hlt
          have hlow := le_halfway hlt
          unfold eventProbe at hprobe
          split_ifs at hprobe with hfar hbefore
          rw [blackoutLoop, if_pos hlt]
          refine (if_neg hfar).trans ((if_neg hbefore).trans ?_)
          exact ih fuel (by omega)

/-- In an ascending array, the half behind a probe is at least as far from the instant. -/
theorem eventProbe_directed (hasc : times.Pairwise fun a b => a ≤ b) (t window : Int) :
    Directed times.length (eventProbe times t window) := by
  have hle : forall i j, i ≤ j -> j < times.length -> times.getD i 0 ≤ times.getD j 0 := by
    intro i j hij hj
    have hi : i < times.length := lt_of_le_of_lt hij hj
    rw [List.getD_eq_getElem _ _ hi, List.getD_eq_getElem _ _ hj]
    rcases Nat.lt_or_eq_of_le hij with hlt | heq
    · exact List.pairwise_iff_getElem.mp hasc i j hi hj hlt
    · subst heq
      exact le_refl _
  constructor
  · intro i j hi hprobe hji hhit
    have hevents := hle j i hji hi
    unfold eventProbe at hprobe hhit
    split_ifs at hprobe with hfar hbefore
    split_ifs at hhit with hnear
    omega
  · intro i j hj hprobe hij hhit
    have hevents := hle i j hij hj
    unfold eventProbe at hprobe hhit
    split_ifs at hprobe with hfar hbefore
    split_ifs at hhit with hnear
    omega

theorem eventProbe_hit_iff {i : Nat} (hi : i < times.length) :
    eventProbe times t window i = .hit <-> |times[i] - t| ≤ window := by
  unfold eventProbe
  rw [List.getD_eq_getElem _ _ hi, <- Int.natCast_natAbs (times[i] - t)]
  split_ifs <;> simp_all

theorem found_iff_near (hasc : times.Pairwise fun a b => a ≤ b)
    (h : Bisects (eventProbe times t window) 0 times.length found) :
    found = true <-> exists e, e ∈ times ∧ |e - t| ≤ window := by
  rw [h.found_iff (eventProbe_directed hasc t window) (le_refl _)]
  constructor
  · intro hfound
    rcases hfound with ⟨i, _, hi, hhit⟩
    exact ⟨times[i], List.getElem_mem hi, (eventProbe_hit_iff hi).mp hhit⟩
  · intro hnear
    rcases hnear with ⟨e, hmem, hnear⟩
    rcases List.mem_iff_getElem.mp hmem with ⟨i, hi, rfl⟩
    exact ⟨i, Nat.zero_le i, hi, (eventProbe_hit_iff hi).mpr hnear⟩

end Search

/-- The search ends, with a hit exactly where an event is in the window, and the loop
answers so with any fuel that covers the array. -/
theorem blackout_search_exact {times : List Int} (hasc : times.Pairwise fun a b => a ≤ b)
    (t window : Int) :
    exists found, Bisects (eventProbe times t window) 0 times.length found ∧
      (found = true <-> exists e, e ∈ times ∧ |e - t| ≤ window) ∧
      forall fuel, times.length ≤ fuel ->
        blackoutLoop times t window fuel 0 times.length = found := by
  rcases exists_bisects (eventProbe times t window) times.length 0 times.length (Nat.sub_le _ _)
    with ⟨found, hends⟩
  exact ⟨found, hends, found_iff_near hasc hends, fun fuel hfuel =>
    blackoutLoop_of_bisects hends fuel hfuel⟩

/-- An event at noon twice, at the far end of the window. -/
theorem blackout_search_exact_noon :
    exists found, Bisects (eventProbe [0, 43200000, 43200000] 44100000 900000) 0 3 found ∧
      (found = true <-> exists e, e ∈ ([0, 43200000, 43200000] : List Int) ∧
        |e - 44100000| ≤ 900000) ∧
      forall fuel, 3 ≤ fuel ->
        blackoutLoop [0, 43200000, 43200000] 44100000 900000 fuel 0 3 = found :=
  blackout_search_exact (by decide) 44100000 900000

/-!
# The calendar of the engine
-/

theorem eventTimes_ascending : eventTimes.Pairwise fun a b => a ≤ b :=
  List.pairwise_insertionSort (fun a b : Int => a ≤ b) _

theorem isInBlackout_iff (utcTime windowMinutes : Int) :
    isInBlackout utcTime windowMinutes = true <->
      exists e, e ∈ eventTimes ∧ |e - utcTime| ≤ windowMinutes * msPerMinute := by
  rcases exists_bisects (eventProbe eventTimes utcTime (windowMinutes * msPerMinute))
    eventTimes.length 0 eventTimes.length (Nat.sub_le _ _) with ⟨found, hends⟩
  rw [isInBlackout, blackoutLoop_of_bisects hends eventTimes.length (Nat.sub_le _ _)]
  exact found_iff_near eventTimes_ascending hends

end Engine
end Shamarx
