import Mathlib.Data.List.DropRight
import Mathlib.Data.List.Sort
import Mathlib.Order.Lattice

/-!
# Rows by key

Rows are sorted by a key, kept once per key, and handed out in pages that end at a
cursor.
-/

namespace Shamarx
namespace Foundation
namespace KeyedRows

variable {row index : Type} [LinearOrder index] (key : row -> index)

def Ascending (rows : List row) : Prop :=
  rows.Pairwise fun a b => key a < key b

theorem eq_of_ascending {rows rows' : List row} (h : Ascending key rows)
    (h' : Ascending key rows') (hmem : forall r, r ∈ rows <-> r ∈ rows') : rows = rows' := by
  have hirrefl : Std.Irrefl fun a b : row => key a < key b :=
    ⟨fun a => lt_irrefl (key a)⟩
  have hanti : Std.Antisymm fun a b : row => key a < key b :=
    ⟨fun _ _ hab hba => absurd hba hab.asymm⟩
  exact List.Pairwise.eq_of_mem_iff h h' hmem

theorem Ascending.nodup_keys {rows : List row} (h : Ascending key rows) :
    (rows.map key).Nodup := by
  rw [List.Nodup, List.pairwise_map]
  exact h.imp fun hlt => hlt.ne

theorem Ascending.eq_of_key {rows : List row} (h : Ascending key rows) {a b : row}
    (ha : a ∈ rows) (hb : b ∈ rows) (hkey : key a = key b) : a = b :=
  List.inj_on_of_nodup_map h.nodup_keys ha hb hkey

theorem Ascending.filter {rows : List row} (h : Ascending key rows) (p : row -> Bool) :
    Ascending key (rows.filter p) :=
  List.Pairwise.filter p h

/-!
# Sorting
-/

def sortByKey (rows : List row) : List row :=
  rows.insertionSort fun a b => key a ≤ key b

theorem mem_sortByKey {rows : List row} {r : row} : r ∈ sortByKey key rows <-> r ∈ rows :=
  List.mem_insertionSort _

theorem sortByKey_perm (rows : List row) : (sortByKey key rows).Perm rows :=
  List.perm_insertionSort _ rows

theorem pairwise_sortByKey (rows : List row) :
    (sortByKey key rows).Pairwise fun a b => key a ≤ key b := by
  have htotal : Std.Total fun a b : row => key a ≤ key b :=
    ⟨fun a b => le_total (key a) (key b)⟩
  have htrans : IsTrans row fun a b => key a ≤ key b :=
    ⟨fun _ _ _ hab hbc => le_trans hab hbc⟩
  exact List.pairwise_insertionSort _ rows

theorem ascending_of_nodup {rows : List row}
    (hsorted : rows.Pairwise fun a b => key a ≤ key b) (hnodup : (rows.map key).Nodup) :
    Ascending key rows := by
  rw [List.Nodup, List.pairwise_map] at hnodup
  exact hsorted.imp₂ (fun a b hle hne => lt_of_le_of_ne hle hne) hnodup

/-!
# One row per key
-/

def dropKeys (dropped : List index) (rows : List row) : List row :=
  rows.filter fun r => decide (key r ∉ dropped)

def keepFirst : List index -> List row -> List row
  | _, [] => []
  | seen, r :: rest =>
      if key r ∈ seen then keepFirst seen rest else r :: keepFirst (key r :: seen) rest

theorem keepFirst_sublist (seen : List index) (rows : List row) :
    (keepFirst key seen rows).Sublist rows := by
  induction rows generalizing seen with
  | nil =>
      exact List.Sublist.refl _
  | cons r rest ih =>
      unfold keepFirst
      split_ifs
      · exact (ih seen).cons r
      · exact (ih (key r :: seen)).cons_cons r

theorem mem_keys_keepFirst (seen : List index) (rows : List row) (k : index) :
    k ∈ (keepFirst key seen rows).map key <-> k ∈ rows.map key ∧ k ∉ seen := by
  induction rows generalizing seen with
  | nil =>
      simp [keepFirst]
  | cons r rest ih =>
      unfold keepFirst
      split_ifs with hseen
      · rw [ih, List.map_cons, List.mem_cons]
        constructor
        · intro h
          exact ⟨Or.inr h.1, h.2⟩
        · intro h
          rcases h.1 with heq | hrest
          · rw [heq] at h
            exact absurd hseen h.2
          · exact ⟨hrest, h.2⟩
      · rw [List.map_cons, List.mem_cons, ih, List.map_cons, List.mem_cons, List.mem_cons,
          not_or]
        constructor
        · intro h
          rcases h with heq | hrest
          · rw [heq]
            exact ⟨Or.inl rfl, hseen⟩
          · exact ⟨Or.inr hrest.1, hrest.2.2⟩
        · intro h
          by_cases heq : k = key r
          · exact Or.inl heq
          · exact Or.inr ⟨h.1.resolve_left heq, heq, h.2⟩

theorem nodup_keepFirst (seen : List index) (rows : List row) :
    ((keepFirst key seen rows).map key).Nodup := by
  induction rows generalizing seen with
  | nil =>
      exact List.nodup_nil
  | cons r rest ih =>
      unfold keepFirst
      split_ifs
      · exact ih seen
      · rw [List.map_cons, List.nodup_cons]
        refine ⟨?_, ih _⟩
        intro hmem
        exact ((mem_keys_keepFirst key _ rest _).mp hmem).2 List.mem_cons_self

theorem keepFirst_of_nodup {seen : List index} {rows : List row}
    (hnodup : (rows.map key).Nodup) (hnew : forall r, r ∈ rows -> key r ∉ seen) :
    keepFirst key seen rows = rows := by
  apply (keepFirst_sublist key seen rows).eq_of_length_le
  induction rows generalizing seen with
  | nil =>
      exact Nat.le_refl _
  | cons r rest ih =>
      rw [List.map_cons, List.nodup_cons] at hnodup
      unfold keepFirst
      rw [if_neg (hnew r List.mem_cons_self), List.length_cons, List.length_cons]
      apply Nat.succ_le_succ
      apply ih hnodup.2
      intro r' hr' hseen
      rcases List.mem_cons.mp hseen with heq | hold
      · exact hnodup.1 (List.mem_map.mpr ⟨r', hr', heq⟩)
      · exact hnew r' (List.mem_cons_of_mem r hr') hold

theorem ascending_keepFirst_sortByKey (rows : List row) :
    Ascending key (keepFirst key [] (sortByKey key rows)) :=
  ascending_of_nodup key
    ((pairwise_sortByKey key rows).sublist (keepFirst_sublist key [] _))
    (nodup_keepFirst key [] _)

/-!
# Pages
-/

def upTo (rows : List row) (cursor : index) : List row :=
  rows.filter fun r => decide (key r ≤ cursor)

def pageBefore (size : Nat) (rows : List row) (cursor : index) : List row :=
  (upTo key rows cursor).rtake size

variable {key} {size : Nat} {rows : List row} {cursor : index}

theorem mem_upTo {r : row} : r ∈ upTo key rows cursor <-> r ∈ rows ∧ key r ≤ cursor := by
  rw [upTo, List.mem_filter, decide_eq_true_iff]

theorem length_upTo_lt {earlier : index} {r : row} (hr : r ∈ rows) (hafter : earlier < key r)
    (hbefore : key r ≤ cursor) :
    (upTo key rows earlier).length < (upTo key rows cursor).length := by
  have hsub : (upTo key rows earlier).Sublist (upTo key rows cursor) := by
    apply List.monotone_filter_right
    intro r' hr'
    exact decide_eq_true ((of_decide_eq_true hr').trans (hafter.le.trans hbefore))
  apply lt_of_le_of_ne hsub.length_le
  intro hlen
  have hmem : r ∈ upTo key rows earlier := by
    rw [hsub.eq_of_length hlen]
    exact mem_upTo.mpr ⟨hr, hbefore⟩
  exact not_le_of_gt hafter (mem_upTo.mp hmem).2

theorem rtake_suffix (n : Nat) (l : List row) : l.rtake n <:+ l :=
  List.drop_suffix _ l

theorem mem_pageBefore {r : row} (h : r ∈ pageBefore key size rows cursor) :
    r ∈ rows ∧ key r ≤ cursor :=
  mem_upTo.mp ((rtake_suffix size _).subset h)

theorem Ascending.pageBefore (h : Ascending key rows) (size : Nat) (cursor : index) :
    Ascending key (KeyedRows.pageBefore key size rows cursor) :=
  (h.filter key _).sublist (rtake_suffix size _).sublist

theorem mem_page_or_earlier (size : Nat) (h : Ascending key rows) {r : row} (hr : r ∈ rows)
    (hle : key r ≤ cursor) :
    r ∈ KeyedRows.pageBefore key size rows cursor ∨
      ((KeyedRows.pageBefore key size rows cursor).length = size ∧
        forall p, p ∈ KeyedRows.pageBefore key size rows cursor -> key r < key p) := by
  have hkept : r ∈ upTo key rows cursor := mem_upTo.mpr ⟨hr, hle⟩
  have hasc : Ascending key (upTo key rows cursor) := h.filter key _
  unfold KeyedRows.pageBefore List.rtake
  generalize upTo key rows cursor = kept at hkept hasc
  rw [<- List.take_append_drop (kept.length - size) kept] at hkept hasc
  rcases List.mem_append.mp hkept with hearly | hlate
  · right
    have hlong : 0 < kept.length - size := by
      by_contra hshort
      rw [Nat.eq_zero_of_not_pos hshort, List.take_zero] at hearly
      cases hearly
    constructor
    · rw [List.length_drop]
      omega
    · intro p hp
      exact (List.pairwise_append.mp hasc).2.2 r hearly p hp
  · exact Or.inl hlate

end KeyedRows
end Foundation
end Shamarx
