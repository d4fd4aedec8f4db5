import Mathlib.Tactic.Common

/-!
# Bisection

A search over an interval of indices that probes its middle.  A probe hits, or sends the
search to one of the halves beside the middle.
-/

namespace Shamarx
namespace Foundation

inductive Probe where
  | hit
  | right
  | left
  deriving DecidableEq

/-- The middle of a nonempty interval, below its exclusive end. -/
def halfway (lo hi : Nat) : Nat :=
  (lo + hi - 1) / 2

theorem le_halfway {lo hi : Nat} (h : lo < hi) : lo ≤ halfway lo hi := by
  unfold halfway
  omega

theorem halfway_lt {lo hi : Nat} (h : lo < hi) : halfway lo hi < hi := by
  unfold halfway
  omega

/-- The search from an interval ends, with a hit or without. -/
inductive Bisects (probe : Nat -> Probe) : Nat -> Nat -> Bool -> Prop where
  | empty {lo hi : Nat} (h : ¬ lo < hi) : Bisects probe lo hi false
  | hit {lo hi : Nat} (h : lo < hi) (hprobe : probe (halfway lo hi) = .hit) :
      Bisects probe lo hi true
  | right {lo hi : Nat} {found : Bool} (h : lo < hi) (hprobe : probe (halfway lo hi) = .right)
      (rest : Bisects probe (halfway lo hi + 1) hi found) : Bisects probe lo hi found
  | left {lo hi : Nat} {found : Bool} (h : lo < hi) (hprobe : probe (halfway lo hi) = .left)
      (rest : Bisects probe lo (halfway lo hi) found) : Bisects probe lo hi found

/-- Among the first `n` indices, no half that is left behind has a hit. -/
structure Directed (n : Nat) (probe : Nat -> Probe) : Prop where
  right : forall i j, i < n -> probe i = .right -> j ≤ i -> probe j ≠ .hit
  left : forall i j, j < n -> probe i = .left -> i ≤ j -> probe j ≠ .hit

section Bisection

variable {n : Nat} {probe : Nat -> Probe} {lo hi : Nat} {found : Bool}

theorem exists_bisects (probe : Nat -> Probe) (rounds : Nat) :
    forall lo hi, hi - lo ≤ rounds -> exists found, Bisects probe lo hi found := by
  induction rounds with
  | zero =>
      intro lo hi hrounds
      exact ⟨false, .empty (by omega)⟩
  | succ rounds ih =>
      intro lo hi hrounds
      by_cases h : lo < hi
      · have hlow := le_halfway h
        have hhigh := halfway_lt h
        cases hprobe : probe (halfway lo hi) with
        | hit =>
            exact ⟨true, .hit h hprobe⟩
        | right =>
            rcases ih (halfway lo hi + 1) hi (by omega) with ⟨found, rest⟩
            exact ⟨found, .right h hprobe rest⟩
        | left =>
            rcases ih lo (halfway lo hi) (by omega) with ⟨found, rest⟩
            exact ⟨found, .left h hprobe rest⟩
      · exact ⟨false, .empty h⟩

theorem Bisects.found_iff (hdirected : Directed n probe) (h : Bisects probe lo hi found)
    (hend : hi ≤ n) : found = true <-> exists i, lo ≤ i ∧ i < hi ∧ probe i = .hit := by
  induction h with
  | empty hempty =>
      constructor
      · intro hfalse
        cases hfalse
      · intro hhit
        rcases hhit with ⟨i, hlow, hhigh, _⟩
        exact absurd (Nat.lt_of_le_of_lt hlow hhigh) hempty
  | hit hlt hprobe =>
      constructor
      · intro _
        exact ⟨_, le_halfway hlt, halfway_lt hlt, hprobe⟩
      · intro _
        rfl
  | right hlt hprobe rest ih =>
      have hlow := le_halfway hlt
      have hmid : halfway _ _ < n := Nat.lt_of_lt_of_le (halfway_lt hlt) hend
      rw [ih hend]
      constructor
      · intro hfound
        rcases hfound with ⟨i, hi, hhigh, hhit⟩
        exact ⟨i, by omega, hhigh, hhit⟩
      · intro hfound
        rcases hfound with ⟨i, _, hhigh, hhit⟩
        have hahead : ¬ i ≤ halfway _ _ := fun hle => hdirected.right _ i hmid hprobe hle hhit
        exact ⟨i, Nat.not_le.mp hahead, hhigh, hhit⟩
  | left hlt hprobe rest ih =>
      have hhigh := halfway_lt hlt
      rw [ih (Nat.le_of_lt (Nat.lt_of_lt_of_le hhigh hend))]
      constructor
      · intro hfound
        rcases hfound with ⟨i, hlow, hi, hhit⟩
        exact ⟨i, hlow, by omega, hhit⟩
      · intro hfound
        rcases hfound with ⟨i, hlow, hi, hhit⟩
        have hin : i < n := Nat.lt_of_lt_of_le hi hend
        have hbefore : ¬ halfway _ _ ≤ i := fun hle => hdirected.left _ i hin hprobe hle hhit
        exact ⟨i, hlow, Nat.not_le.mp hbefore, hhit⟩

end Bisection

end Foundation
end Shamarx
