import Mathlib.Data.List.Basic

/-!
# Online list functions

An online function turns a list of readings into a list of outputs, one reading after
the other; the first output comes once `lag` readings are skipped.  What it returns for
the first readings is the beginning of what it returns for all of them.
-/

namespace Shamarx
namespace Foundation

structure Online (lag : Nat) (f : List reading -> List output) : Prop where
  take : forall xs n, f (xs.take n) = (f xs).take (n - lag)
  length : forall xs, (f xs).length = xs.length - lag

namespace Online

variable {lag delay : Nat} {f : List reading -> List middle}

theorem comp {g : List middle -> List output} (hg : Online delay g) (hf : Online lag f) :
    Online (lag + delay) fun xs => g (f xs) where
  take := by
    intro xs n
    rw [hf.take, hg.take, Nat.sub_sub]
  length := by
    intro xs
    rw [hg.length, hf.length, Nat.sub_sub]

theorem map (g : reading -> output) : Online 0 (List.map g) where
  take := fun _ _ => List.map_take
  length := fun _ => List.length_map g

theorem of_zipIdx : Online 0 fun xs : List reading => xs.zipIdx where
  take := by
    intro xs n
    apply List.ext_getElem?
    intro i
    rw [List.getElem?_zipIdx, List.getElem?_take, List.getElem?_take, List.getElem?_zipIdx,
      Nat.sub_zero]
    split_ifs
    · rfl
    · rfl
  length := fun _ => List.length_zipIdx

theorem drop (hf : Online lag f) (k : Nat) : Online (lag + k) fun xs => (f xs).drop k where
  take := by
    intro xs n
    rw [hf.take, List.drop_take, Nat.sub_sub]
  length := by
    intro xs
    rw [List.length_drop, hf.length, Nat.sub_sub]

theorem zipWith {g : List reading -> List other} (hf : Online lag f) (hg : Online lag g)
    (op : middle -> other -> output) : Online lag fun xs => List.zipWith op (f xs) (g xs) where
  take := by
    intro xs n
    rw [hf.take, hg.take, List.take_zipWith]
  length := by
    intro xs
    rw [List.length_zipWith, hf.length, hg.length, Nat.min_self]

theorem of_consecutive (op : reading -> reading -> output) :
    Online 1 fun xs => List.zipWith op xs (xs.drop 1) where
  take := by
    intro xs
    induction xs with
    | nil =>
        intro n
        simp
    | cons x rest ih =>
        intro n
        cases n with
        | zero =>
            rfl
        | succ n =>
            cases rest with
            | nil =>
                simp
            | cons y rest =>
                cases n with
                | zero =>
                    rfl
                | succ n =>
                    exact congrArg (op x y :: ·) (ih (n + 1))
  length := by
    intro xs
    rw [List.length_zipWith, List.length_drop]
    omega

/-!
# Scans and windows
-/

def seededScan (step : output -> reading -> output) (seed : List reading -> output)
    (period : Nat) (xs : List reading) : List output :=
  if xs.length < period then [] else (xs.drop period).scanl step (seed (xs.take period))

theorem of_seededScan (step : output -> reading -> output) (seed : List reading -> output)
    {period : Nat} (hperiod : 0 < period) :
    Online (period - 1) (seededScan step seed period) where
  take := by
    intro xs n
    unfold seededScan
    rw [List.length_take]
    by_cases hshort : xs.length < period
    · rw [if_pos hshort, if_pos (by omega), List.take_nil]
    · rw [if_neg hshort]
      by_cases hn : n < period
      · have hnone : n - (period - 1) = 0 := by omega
        rw [if_pos (by omega), hnone, List.take_zero]
      · have hsome : n - (period - 1) = n - period + 1 := by omega
        rw [if_neg (by omega), hsome, List.take_scanl, List.take_take, List.drop_take,
          Nat.min_eq_left (Nat.not_lt.mp hn)]
  length := by
    intro xs
    unfold seededScan
    split_ifs with hshort
    · exact (Nat.sub_eq_zero_of_le (by omega)).symm
    · rw [List.length_scanl, List.length_drop]
      omega

def windows (g : List reading -> output) (period : Nat) (xs : List reading) : List output :=
  (List.range (xs.length + 1 - period)).map fun i => g ((xs.drop i).take period)

theorem of_windows (g : List reading -> output) {period : Nat} (hperiod : 0 < period) :
    Online (period - 1) (windows g period) where
  take := by
    intro xs n
    unfold windows
    rw [<- List.map_take, List.take_range, List.length_take]
    have hcount : min n xs.length + 1 - period =
        min (n - (period - 1)) (xs.length + 1 - period) := by omega
    rw [hcount]
    apply List.map_congr_left
    intro i hi
    rw [List.mem_range] at hi
    have hin : min period (n - i) = period := by omega
    rw [List.drop_take, List.take_take, hin]
  length := by
    intro xs
    rw [windows, List.length_map, List.length_range]
    omega

end Online
end Foundation
end Shamarx
