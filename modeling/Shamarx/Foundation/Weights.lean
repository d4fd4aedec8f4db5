import Mathlib.Algebra.BigOperators.Group.List.Basic
import Mathlib.Algebra.Order.Ring.Nat

/-!
# Weights of a list

The total weight of the entries of a list, and how it changes when one entry is
replaced.
-/

namespace Shamarx
namespace Foundation

variable {entry : Type}

def total (weight : entry -> Nat) (entries : List entry) : Nat :=
  (entries.map weight).sum

@[simp] theorem total_nil (weight : entry -> Nat) : total weight [] = 0 := rfl

@[simp] theorem total_cons (weight : entry -> Nat) (e : entry) (rest : List entry) :
    total weight (e :: rest) = weight e + total weight rest := List.sum_cons

theorem total_append (weight : entry -> Nat) (front back : List entry) :
    total weight (front ++ back) = total weight front + total weight back := by
  rw [total, List.map_append, List.sum_append]
  rfl

theorem total_set {entries : List entry} {i : Nat} {old : entry} (h : entries[i]? = some old)
    (weight : entry -> Nat) (new : entry) :
    total weight (entries.set i new) + weight old = total weight entries + weight new := by
  induction entries generalizing i with
  | nil =>
      cases h
  | cons e rest ih =>
      cases i with
      | zero =>
          cases h
          rw [List.set_cons_zero, total_cons, total_cons]
          omega
      | succ i =>
          have hrest := ih (i := i) h
          rw [List.set_cons_succ, total_cons, total_cons]
          omega

theorem exists_weight_of_total_pos {weight : entry -> Nat} {entries : List entry}
    (h : 0 < total weight entries) :
    exists (i : Nat) (e : entry), entries[i]? = some e ∧ 0 < weight e := by
  induction entries with
  | nil =>
      cases h
  | cons e rest ih =>
      by_cases he : 0 < weight e
      · exact ⟨0, e, rfl, he⟩
      · rw [total_cons] at h
        rcases ih (by omega) with ⟨i, found, hget, hpos⟩
        exact ⟨i + 1, found, hget, hpos⟩

theorem weight_le_total (weight : entry -> Nat) {entries : List entry} {e : entry}
    (h : e ∈ entries) : weight e ≤ total weight entries := by
  induction entries with
  | nil =>
      cases h
  | cons first rest ih =>
      rw [total_cons]
      rcases List.mem_cons.mp h with rfl | hrest
      · exact Nat.le_add_right _ _
      · exact Nat.le_add_left_of_le (ih hrest)

/-!
# Replaced and added entries
-/

theorem getElem?_set_cases {entries : List entry} {c i : Nat} {new e : entry}
    (h : (entries.set c new)[i]? = some e) :
    (i = c ∧ e = new) ∨ (i ≠ c ∧ entries[i]? = some e) := by
  by_cases heq : c = i
  · subst heq
    have hlt := (List.getElem?_eq_some_iff.mp h).1
    rw [List.length_set] at hlt
    rw [List.getElem?_set_self hlt] at h
    exact Or.inl ⟨rfl, (Option.some.inj h).symm⟩
  · rw [List.getElem?_set_ne heq] at h
    exact Or.inr ⟨Ne.symm heq, h⟩

theorem getElem?_concat_cases {entries : List entry} {i : Nat} {new e : entry}
    (h : (entries ++ [new])[i]? = some e) :
    (i = entries.length ∧ e = new) ∨ (i < entries.length ∧ entries[i]? = some e) := by
  have hle := (List.getElem?_eq_some_iff.mp h).1
  rw [List.length_append, List.length_singleton] at hle
  by_cases hlt : i < entries.length
  · rw [List.getElem?_append_left hlt] at h
    exact Or.inr ⟨hlt, h⟩
  · have heq : i = entries.length := Nat.le_antisymm (Nat.le_of_lt_succ hle) (Nat.le_of_not_lt hlt)
    subst heq
    rw [List.getElem?_concat_length] at h
    exact Or.inl ⟨rfl, (Option.some.inj h).symm⟩

end Foundation
end Shamarx
