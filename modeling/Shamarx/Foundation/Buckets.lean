import Mathlib.Algebra.BigOperators.Group.List.Basic
import Mathlib.Algebra.Order.Ring.Nat
import Mathlib.Data.List.Perm.Basic
import Shamarx.Foundation.InsertionMap

/-!
# Maps of lists

A `Map` whose values are lists, read with an empty list for an absent key.  What
such a map holds in all is taken up to the order of its items.
-/

namespace Shamarx
namespace Foundation

structure Buckets (key item : Type) [DecidableEq key] where
  entries : InsertionMap key (List item)
  nodup : (entries.map Prod.fst).Nodup

namespace Buckets

variable {key item : Type} [DecidableEq key]

def empty : Buckets key item :=
  { entries := [], nodup := List.nodup_nil }

def get (b : Buckets key item) (k : key) : List item :=
  (b.entries.get k).getD []

def set (b : Buckets key item) (k : key) (items : List item) : Buckets key item :=
  { entries := b.entries.set k items
    nodup := InsertionMap.nodup_set b.nodup k items }

def delete (b : Buckets key item) (k : key) : Buckets key item :=
  { entries := b.entries.erase k
    nodup := b.nodup.sublist (List.filter_sublist.map Prod.fst) }

def items (b : Buckets key item) : List item :=
  b.entries.flatMap Prod.snd

def count (b : Buckets key item) : Nat :=
  (b.entries.map fun entry => entry.2.length).sum

variable {b : Buckets key item} {k j : key}

theorem count_eq (b : Buckets key item) : b.count = b.items.length := by
  rw [count, items, List.length_flatMap]

@[simp] theorem items_empty : (empty : Buckets key item).items = [] := rfl

@[simp] theorem get_set_self (b : Buckets key item) (k : key) (items : List item) :
    (b.set k items).get k = items := by
  rw [get, set, InsertionMap.get_set_self, Option.getD_some]

theorem get_set_of_ne (items : List item) (hne : j ≠ k) : (b.set k items).get j = b.get j := by
  rw [get, set, InsertionMap.get_set_of_ne b.entries items hne]
  rfl

@[simp] theorem get_delete_self (b : Buckets key item) (k : key) : (b.delete k).get k = [] := by
  rw [get, delete, InsertionMap.get_erase, if_pos rfl, Option.getD_none]

theorem get_delete_of_ne (hne : j ≠ k) : (b.delete k).get j = b.get j := by
  rw [get, delete, InsertionMap.get_erase, if_neg hne]
  rfl

/-!
# The items of one key and the rest
-/

theorem erase_eq_self {m : InsertionMap key (List item)} (h : k ∉ m.map Prod.fst) :
    m.erase k = m := by
  rw [InsertionMap.erase, List.filter_eq_self]
  intro entry hentry
  rw [decide_eq_true_eq]
  intro heq
  exact h (List.mem_map.mpr ⟨entry, hentry, heq⟩)

theorem flatMap_set_perm {m : InsertionMap key (List item)} (hnodup : (m.map Prod.fst).Nodup)
    (k : key) (new : List item) :
    ((m.set k new).flatMap Prod.snd).Perm (new ++ (m.erase k).flatMap Prod.snd) := by
  induction m with
  | nil =>
      simp [InsertionMap.set, InsertionMap.erase]
  | cons entry rest ih =>
      rcases entry with ⟨k', old⟩
      rw [List.map_cons, List.nodup_cons] at hnodup
      unfold InsertionMap.set
      split_ifs with hk
      · subst hk
        have herase : InsertionMap.erase ((k, old) :: rest) k = rest := by
          rw [InsertionMap.erase, List.filter_cons_of_neg (by simp)]
          exact erase_eq_self hnodup.1
        rw [herase, List.flatMap_cons]
      · have herase : InsertionMap.erase ((k', old) :: rest) k =
            (k', old) :: InsertionMap.erase rest k := by
          rw [InsertionMap.erase, List.filter_cons_of_pos (by simpa using Ne.symm hk)]
          rfl
        rw [herase, List.flatMap_cons, List.flatMap_cons]
        refine ((ih hnodup.2).append_left old).trans ?_
        exact List.perm_append_comm_assoc old new _

theorem flatMap_perm {m : InsertionMap key (List item)} (hnodup : (m.map Prod.fst).Nodup)
    (k : key) :
    (m.flatMap Prod.snd).Perm ((m.get k).getD [] ++ (m.erase k).flatMap Prod.snd) := by
  cases hget : m.get k with
  | none =>
      have habsent : k ∉ m.map Prod.fst := by
        intro hmem
        rcases List.mem_map.mp hmem with ⟨entry, hentry, rfl⟩
        rw [InsertionMap.get_of_mem hnodup hentry] at hget
        cases hget
      rw [erase_eq_self habsent]
      exact List.Perm.refl _
  | some old =>
      have hself : m.set k old = m := by
        rw [InsertionMap.set_eq_map hnodup hget]
        refine (List.map_congr_left ?_).trans (List.map_id m)
        intro entry hentry
        split_ifs with heq
        · have hsame := InsertionMap.get_of_mem hnodup hentry
          rw [heq, hget] at hsame
          rw [← heq, Option.some.inj hsame]
          rfl
        · rfl
      have hperm := flatMap_set_perm hnodup k old
      rw [hself] at hperm
      exact hperm

theorem items_perm (b : Buckets key item) (k : key) :
    b.items.Perm (b.get k ++ (b.delete k).items) :=
  flatMap_perm b.nodup k

theorem items_set (b : Buckets key item) (k : key) (new : List item) :
    (b.set k new).items.Perm (new ++ (b.delete k).items) :=
  flatMap_set_perm b.nodup k new

theorem exists_get_of_mem_items {x : item} (h : x ∈ b.items) : exists k, x ∈ b.get k := by
  rcases List.mem_flatMap.mp h with ⟨entry, hentry, hx⟩
  refine ⟨entry.1, ?_⟩
  rw [get, InsertionMap.get_of_mem b.nodup hentry]
  exact hx

theorem items_eq_nil (h : forall k, b.get k = []) : b.items = [] := by
  apply List.eq_nil_iff_forall_not_mem.mpr
  intro x hx
  rcases exists_get_of_mem_items hx with ⟨k, hk⟩
  rw [h k] at hk
  cases hk

end Buckets
end Foundation
end Shamarx
