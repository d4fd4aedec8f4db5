import Mathlib.Data.List.Induction
import Mathlib.Data.List.Nodup
import Mathlib.Data.List.Perm.Basic
import Shamarx.Foundation.InsertionMap
import Shamarx.Foundation.Tallies

/-!
# Groups of a loop

A loop that looks up the entry of an item's key in a map, starts one if there is none and
adds the item to it.  The map lists every key once, in the order of first appearance, and
the entry of a key is what the loop over that key's own items makes of it.
-/

namespace Shamarx
namespace Foundation
namespace Grouping

open InsertionMap

variable {item key row : Type} [DecidableEq key] (keyOf : item -> key) (start : item -> row)
  (absorb : row -> item -> row)

def groupStep (groups : InsertionMap key row) (x : item) : InsertionMap key row :=
  groups.set (keyOf x) (absorb ((groups.get (keyOf x)).getD (start x)) x)

def groupBy (items : List item) : InsertionMap key row :=
  items.foldl (groupStep keyOf start absorb) []

def entryOf : List item -> Option row
  | [] => none
  | x :: rest => some ((x :: rest).foldl absorb (start x))

variable {keyOf start absorb}

theorem entryOf_concat (items : List item) (x : item) :
    entryOf start absorb (items ++ [x]) =
      some (absorb ((entryOf start absorb items).getD (start x)) x) := by
  cases items with
  | nil =>
      rfl
  | cons y rest =>
      have hentry : entryOf start absorb (y :: rest ++ [x]) =
          some ((y :: rest ++ [x]).foldl absorb (start y)) := rfl
      rw [hentry, List.foldl_append]
      rfl

theorem itemsOf_concat (items : List item) (x : item) (k : key) :
    itemsOf keyOf (items ++ [x]) k =
      if keyOf x = k then itemsOf keyOf items k ++ [x] else itemsOf keyOf items k := by
  unfold itemsOf
  rw [List.filter_append]
  split_ifs with hk <;> simp [hk]

theorem groupBy_concat (items : List item) (x : item) :
    groupBy keyOf start absorb (items ++ [x]) =
      groupStep keyOf start absorb (groupBy keyOf start absorb items) x := by
  unfold groupBy
  rw [List.foldl_append]
  rfl

theorem groupBy_congr {start' : item -> row} {items : List item}
    (h : forall x, x ∈ items -> start x = start' x) :
    groupBy keyOf start absorb items = groupBy keyOf start' absorb items := by
  unfold groupBy
  apply List.foldl_ext
  intro groups x hx
  unfold groupStep
  rw [h x hx]

theorem get_groupBy (items : List item) (k : key) :
    (groupBy keyOf start absorb items).get k =
      entryOf start absorb (itemsOf keyOf items k) := by
  induction items using List.reverseRecOn with
  | nil =>
      rfl
  | append_singleton items x ih =>
      rw [groupBy_concat, groupStep, itemsOf_concat]
      by_cases hk : keyOf x = k
      · subst hk
        rw [get_set_self, ih, if_pos rfl, entryOf_concat]
      · rw [get_set_of_ne _ _ (Ne.symm hk), ih, if_neg hk]

theorem nodup_groupBy (items : List item) :
    ((groupBy keyOf start absorb items).map Prod.fst).Nodup := by
  induction items using List.reverseRecOn with
  | nil =>
      exact List.nodup_nil
  | append_singleton items x ih =>
      rw [groupBy_concat]
      exact nodup_set ih _ _

theorem mem_groupBy {items : List item} {k : key} {r : row} :
    (k, r) ∈ groupBy keyOf start absorb items <->
      entryOf start absorb (itemsOf keyOf items k) = some r := by
  rw [<- get_groupBy]
  exact ⟨get_of_mem (nodup_groupBy items), mem_of_get⟩

theorem itemsOf_ne_nil_of_mem {items : List item} {k : key} {r : row}
    (h : (k, r) ∈ groupBy keyOf start absorb items) : itemsOf keyOf items k ≠ [] := by
  intro hnil
  rw [mem_groupBy, hnil] at h
  cases h

theorem mem_keys_groupBy {items : List item} {k : key} :
    k ∈ (groupBy keyOf start absorb items).map Prod.fst <->
      exists x, x ∈ items ∧ keyOf x = k := by
  constructor
  · intro h
    rcases List.mem_map.mp h with ⟨entry, hentry, rfl⟩
    rcases List.exists_mem_of_ne_nil _ (itemsOf_ne_nil_of_mem hentry) with ⟨x, hx⟩
    exact ⟨x, (List.mem_filter.mp hx).1, of_decide_eq_true (List.mem_filter.mp hx).2⟩
  · rintro ⟨x, hx, rfl⟩
    have hown : x ∈ itemsOf keyOf items (keyOf x) :=
      List.mem_filter.mpr ⟨hx, decide_eq_true rfl⟩
    cases hitems : itemsOf keyOf items (keyOf x) with
    | nil =>
        rw [hitems] at hown
        cases hown
    | cons y rest =>
        refine List.mem_map.mpr ⟨(keyOf x, (y :: rest).foldl absorb (start y)), ?_, rfl⟩
        rw [mem_groupBy, hitems]
        rfl

theorem sum_groupBy {amount : Type} [AddCommMonoid amount] {items : List item}
    (weight : item -> amount) (figure : row -> amount)
    (h : forall k r, (k, r) ∈ groupBy keyOf start absorb items ->
      figure r = tally keyOf weight items k) :
    ((groupBy keyOf start absorb items).map fun entry => figure entry.2).sum =
      (items.map weight).sum := by
  have hfigures : ((groupBy keyOf start absorb items).map fun entry => figure entry.2) =
      ((groupBy keyOf start absorb items).map Prod.fst).map (tally keyOf weight items) := by
    rw [List.map_map]
    apply List.map_congr_left
    rintro ⟨k, r⟩ hmem
    exact h k r hmem
  rw [hfigures]
  apply sum_tally_of_mem (nodup_groupBy items)
  intro x hx
  exact mem_keys_groupBy.mpr ⟨x, hx, rfl⟩

/-!
# Some of the keys
-/

theorem itemsOf_filter (p : key -> Bool) (items : List item) (k : key) :
    itemsOf keyOf (items.filter fun x => p (keyOf x)) k =
      if p k = true then itemsOf keyOf items k else [] := by
  unfold itemsOf
  rw [List.filter_filter]
  split_ifs with hp
  · apply List.filter_congr
    intro x _
    by_cases hx : keyOf x = k <;> simp [hx, hp]
  · rw [List.filter_eq_nil_iff]
    intro x _
    by_cases hx : keyOf x = k <;> simp [hx, hp]

omit [DecidableEq key] in
theorem perm_of_mem_iff {groups groups' : InsertionMap key row}
    (hnodup : (groups.map Prod.fst).Nodup) (hnodup' : (groups'.map Prod.fst).Nodup)
    (h : forall entry, entry ∈ groups <-> entry ∈ groups') : groups.Perm groups' :=
  (List.perm_ext_iff_of_nodup (List.Nodup.of_map Prod.fst hnodup)
    (List.Nodup.of_map Prod.fst hnodup')).mpr h

/-- Where an entry does not depend on the order of its items, rows that are read in
different orders have the same entries. -/
theorem groupBy_filter_perm (p : key -> Bool) {items some_ : List item}
    (hperm : some_.Perm (items.filter fun x => p (keyOf x)))
    (horder : forall k xs ys, xs.Perm ys -> (forall x, x ∈ xs -> keyOf x = k ∧ x ∈ items) ->
      entryOf start absorb xs = entryOf start absorb ys) :
    (groupBy keyOf start absorb some_).Perm
      ((groupBy keyOf start absorb items).filter fun entry => p entry.1) := by
  have hsub : ((groupBy keyOf start absorb items).filter fun entry => p entry.1).map Prod.fst
      |>.Nodup :=
    (nodup_groupBy items).sublist (List.filter_sublist.map Prod.fst)
  apply perm_of_mem_iff (nodup_groupBy some_) hsub
  rintro ⟨k, r⟩
  have hitems := hperm.filter fun x => decide (keyOf x = k)
  have hentry : entryOf start absorb (itemsOf keyOf some_ k) =
      entryOf start absorb (itemsOf keyOf (items.filter fun x => p (keyOf x)) k) := by
    apply horder k _ _ hitems
    intro x hx
    rcases List.mem_filter.mp hx with ⟨hmem, hkey⟩
    exact ⟨of_decide_eq_true hkey, List.mem_of_mem_filter (hperm.mem_iff.mp hmem)⟩
  rw [List.mem_filter, mem_groupBy, mem_groupBy, hentry, itemsOf_filter]
  split_ifs with hp
  · simp [hp]
  · simp [hp, entryOf]

end Grouping
end Foundation
end Shamarx
