import Mathlib.Data.List.Infix
import Mathlib.Order.Bounds.Basic
import Mathlib.Order.MinMax

/-!
# Records over the prefixes of a list

A loop that watches a quantity as a list grows: the greatest value so far, and the prefix
at which it was reached first.
-/

namespace Shamarx
namespace Foundation

section Records

variable {item K : Type} [LinearOrder K] {f : List item -> K} {xs p q : List item}

def peak (f : List item -> K) (xs : List item) : K :=
  (xs.inits.map f).foldl max (f [])

@[simp] theorem peak_nil (f : List item -> K) : peak f [] = f [] := by
  simp [peak]

theorem peak_concat (f : List item -> K) (xs : List item) (x : item) :
    peak f (xs ++ [x]) = max (peak f xs) (f (xs ++ [x])) := by
  simp [peak, List.inits_append]

theorem isGreatest_peak (f : List item -> K) (xs : List item) :
    IsGreatest { k | exists q, q <+: xs ∧ f q = k } (peak f xs) := by
  induction xs using List.reverseRecOn with
  | nil =>
      rw [peak_nil]
      refine ⟨⟨[], List.prefix_rfl, rfl⟩, ?_⟩
      intro k hk
      rcases hk with ⟨q, hq, rfl⟩
      rw [List.prefix_nil.mp hq]
  | append_singleton xs x ih =>
      rw [peak_concat]
      constructor
      · rcases max_choice (peak f xs) (f (xs ++ [x])) with hmax | hmax
        · rcases ih.1 with ⟨q, hq, hf⟩
          exact ⟨q, List.prefix_append_of_prefix hq, hf.trans hmax.symm⟩
        · exact ⟨xs ++ [x], List.prefix_rfl, hmax.symm⟩
      · intro k hk
        rcases hk with ⟨q, hq, rfl⟩
        rcases List.prefix_concat_iff.mp hq with rfl | hq
        · exact le_max_right _ _
        · exact le_trans (ih.2 ⟨q, hq, rfl⟩) (le_max_left _ _)

theorem le_peak (hq : q <+: xs) : f q ≤ peak f xs :=
  (isGreatest_peak f xs).2 ⟨q, hq, rfl⟩

theorem peak_le {k : K} (h : forall q, q <+: xs -> f q ≤ k) : peak f xs ≤ k := by
  rcases (isGreatest_peak f xs).1 with ⟨q, hq, hf⟩
  rw [<- hf]
  exact h q hq

structure FirstRecord (f : List item -> K) (xs p : List item) : Prop where
  within : p <+: xs
  greatest : f p = peak f xs
  first : forall q, q <+: p -> q ≠ p -> f q < f p

theorem firstRecord_nil (f : List item -> K) : FirstRecord f [] [] where
  within := List.prefix_rfl
  greatest := (peak_nil f).symm
  first _ hq hne := absurd (List.prefix_nil.mp hq) hne

theorem FirstRecord.keep (h : FirstRecord f xs p) {x : item} (hx : f (xs ++ [x]) ≤ f p) :
    FirstRecord f (xs ++ [x]) p where
  within := List.prefix_append_of_prefix h.within
  greatest := by
    rw [peak_concat, <- h.greatest, max_eq_left hx]
  first := h.first

theorem FirstRecord.replace (h : FirstRecord f xs p) {x : item} (hx : f p < f (xs ++ [x])) :
    FirstRecord f (xs ++ [x]) (xs ++ [x]) where
  within := List.prefix_rfl
  greatest := by
    rw [peak_concat, <- h.greatest, max_eq_right (le_of_lt hx)]
  first q hq hne := by
    rcases List.prefix_concat_iff.mp hq with heq | hq
    · exact absurd heq hne
    · refine lt_of_le_of_lt ?_ hx
      rw [h.greatest]
      exact le_peak hq

theorem FirstRecord.unique (hp : FirstRecord f xs p) (hq : FirstRecord f xs q) : p = q := by
  by_contra hne
  have hsame : f p = f q := hp.greatest.trans hq.greatest.symm
  rcases List.prefix_or_prefix_of_prefix hp.within hq.within with hpq | hqp
  · exact absurd hsame (ne_of_lt (hq.first p hpq hne))
  · exact absurd hsame.symm (ne_of_lt (hp.first q hqp (Ne.symm hne)))

end Records

end Foundation
end Shamarx
