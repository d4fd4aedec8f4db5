import Mathlib.Algebra.BigOperators.Group.List.Basic
import Mathlib.Algebra.Group.Prod
import Mathlib.Data.List.Nodup
import Mathlib.Data.List.Perm.Basic

/-!
# Tallies

Sums of the items of a list by a key.  Sums over distinct keys add up, and a loop that
adds each item to the row of its key gives each row its own items.
-/

namespace Shamarx
namespace Foundation

section Tally

variable {item key amount : Type} [DecidableEq key] [AddCommMonoid amount]
  {keyOf : item -> key} {weight : item -> amount}

def itemsOf (keyOf : item -> key) (items : List item) (k : key) : List item :=
  items.filter fun x => decide (keyOf x = k)

def tally (keyOf : item -> key) (weight : item -> amount) (items : List item) (k : key) :
    amount :=
  ((itemsOf keyOf items k).map weight).sum

theorem tally_concat (keyOf : item -> key) (weight : item -> amount) (items : List item)
    (x : item) (k : key) :
    tally keyOf weight (items ++ [x]) k =
      tally keyOf weight items k + if keyOf x = k then weight x else 0 := by
  unfold tally itemsOf
  rw [List.filter_append, List.map_append, List.sum_append]
  split_ifs with hk <;> simp [hk]

theorem filter_mem_cons_perm (keyOf : item -> key) {keys : List key} {k : key} (hk : k ∉ keys)
    (items : List item) :
    (items.filter fun x => decide (keyOf x ∈ k :: keys)).Perm
      (itemsOf keyOf items k ++ items.filter fun x => decide (keyOf x ∈ keys)) := by
  have hhead : (items.filter fun x => decide (keyOf x ∈ k :: keys)).filter
      (fun x => decide (keyOf x = k)) = itemsOf keyOf items k := by
    rw [List.filter_filter]
    apply List.filter_congr
    intro x _
    by_cases hx : keyOf x = k <;> simp [hx]
  have hrest : (items.filter fun x => decide (keyOf x ∈ k :: keys)).filter
      (fun x => !decide (keyOf x = k)) = items.filter fun x => decide (keyOf x ∈ keys) := by
    rw [List.filter_filter]
    apply List.filter_congr
    intro x _
    by_cases hx : keyOf x = k
    · simp [hx, hk]
    · simp [hx]
  rw [<- hhead, <- hrest]
  exact (List.filter_append_perm _ _).symm

theorem sum_tally {keys : List key} (hnodup : keys.Nodup) (items : List item) :
    (keys.map (tally keyOf weight items)).sum =
      ((items.filter fun x => decide (keyOf x ∈ keys)).map weight).sum := by
  induction keys with
  | nil =>
      simp
  | cons k keys ih =>
      rw [List.nodup_cons] at hnodup
      have hsplit := (filter_mem_cons_perm keyOf hnodup.1 items).map weight
      rw [List.map_cons, List.sum_cons, ih hnodup.2, hsplit.sum_eq, List.map_append,
        List.sum_append]
      rfl

theorem sum_tally_of_mem {keys : List key} (hnodup : keys.Nodup) {items : List item}
    (hall : forall x, x ∈ items -> keyOf x ∈ keys) :
    (keys.map (tally keyOf weight items)).sum = (items.map weight).sum := by
  rw [sum_tally hnodup, List.filter_eq_self.mpr fun x hx => decide_eq_true (hall x hx)]

end Tally

theorem sum_map_pair {item first second : Type} [AddCommMonoid first] [AddCommMonoid second]
    (f : item -> first) (g : item -> second) (items : List item) :
    (items.map fun x => (f x, g x)).sum = ((items.map f).sum, (items.map g).sum) := by
  induction items with
  | nil =>
      rfl
  | cons x rest ih =>
      rw [List.map_cons, List.sum_cons, ih]
      rfl

/-!
# Rows by key
-/

section Rows

variable {item key row : Type} [DecidableEq key] {keyOf : item -> key} {rowKey : row -> key}
  {absorb : row -> item -> row}

def absorbAll (keyOf : item -> key) (rowKey : row -> key) (absorb : row -> item -> row)
    (rows : List row) (items : List item) : List row :=
  items.foldl (fun rows x => rows.map fun r => if rowKey r = keyOf x then absorb r x else r) rows

theorem absorbAll_eq (hkey : forall r x, rowKey (absorb r x) = rowKey r) (rows : List row)
    (items : List item) :
    absorbAll keyOf rowKey absorb rows items =
      rows.map fun r => (itemsOf keyOf items (rowKey r)).foldl absorb r := by
  unfold absorbAll
  induction items generalizing rows with
  | nil =>
      simp [itemsOf]
  | cons x rest ih =>
      rw [List.foldl_cons, ih, List.map_map]
      apply List.map_congr_left
      intro r _
      rw [Function.comp_apply]
      unfold itemsOf
      rw [List.filter_cons]
      by_cases hx : rowKey r = keyOf x
      · rw [if_pos hx, if_pos (decide_eq_true hx.symm), hkey, List.foldl_cons]
      · rw [if_neg hx, if_neg (by simpa using Ne.symm hx)]

end Rows

end Foundation
end Shamarx
