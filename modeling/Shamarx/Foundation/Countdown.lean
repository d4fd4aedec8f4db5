import Mathlib.Data.List.Basic
import Mathlib.Order.MinMax

/-!
# Countdowns

A counter that requests raise and ticks lower counts down to the latest of the ends that
were asked for.
-/

namespace Shamarx
namespace Foundation

def CountsTo (now remaining : Nat) (ends : List Nat) : Prop :=
  forall n, n < remaining ↔ exists e, e ∈ ends ∧ now + n < e

section Countdown

variable {now remaining : Nat} {ends : List Nat}

theorem countsTo_nil (now : Nat) : CountsTo now 0 [] := by
  intro n
  simp

theorem CountsTo.pos_iff (h : CountsTo now remaining ends) :
    0 < remaining ↔ exists e, e ∈ ends ∧ now < e :=
  h 0

theorem CountsTo.raise (h : CountsTo now remaining ends) (bars : Nat) :
    CountsTo now (max remaining bars) (ends ++ [now + bars]) := by
  intro n
  rw [lt_max_iff, h n]
  constructor
  · intro hcounted
    rcases hcounted with ⟨e, he, hlt⟩ | hlt
    · exact ⟨e, List.mem_append_left _ he, hlt⟩
    · exact ⟨now + bars, List.mem_append_right _ List.mem_cons_self, by omega⟩
  · intro hcounted
    rcases hcounted with ⟨e, he, hlt⟩
    rcases List.mem_append.mp he with hold | hnew
    · exact Or.inl ⟨e, hold, hlt⟩
    · rw [List.mem_singleton.mp hnew] at hlt
      exact Or.inr (by omega)

theorem CountsTo.tick (h : CountsTo now remaining ends) :
    CountsTo (now + 1) (remaining - 1) ends := by
  intro n
  have hnext := h (n + 1)
  rw [show now + 1 + n = now + (n + 1) by omega, <- hnext]
  omega

theorem countsTo_single (now bars : Nat) : CountsTo now bars [now + bars] := by
  intro n
  simp

end Countdown

end Foundation
end Shamarx
