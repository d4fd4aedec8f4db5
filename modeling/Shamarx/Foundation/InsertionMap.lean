import Mathlib.Data.List.Basic

/-!
# Insertion-ordered maps

A `Map` of the sources keeps its entries in insertion order: setting a present
key replaces the value in place, setting a new key appends it.
-/

namespace Shamarx
namespace Foundation

abbrev InsertionMap (key value : Type) := List (key × value)

namespace InsertionMap

variable {key value : Type} [DecidableEq key]

def get (m : InsertionMap key value) (k : key) : Option value :=
  List.lookup k m

def set : InsertionMap key value -> key -> value -> InsertionMap key value
  | [], k, v => [(k, v)]
  | (k', v') :: rest, k, v =>
      if k = k' then (k, v) :: rest else (k', v') :: set rest k v

def erase (m : InsertionMap key value) (k : key) : InsertionMap key value :=
  m.filter fun entry => decide (entry.1 ≠ k)

@[simp] theorem get_nil (k : key) : get ([] : InsertionMap key value) k = none := rfl

theorem get_cons (k' : key) (v' : value) (rest : InsertionMap key value) (k : key) :
    get ((k', v') :: rest) k = if k = k' then some v' else get rest k := by
  by_cases hk : k = k'
  · simp [get, hk]
  · have hbeq : (k == k') = false := by simpa using hk
    simp [get, List.lookup_cons, hbeq, hk]

@[simp] theorem get_set_self (m : InsertionMap key value) (k : key) (v : value) :
    get (set m k v) k = some v := by
  induction m with
  | nil =>
      simp [set, get_cons]
  | cons entry rest ih =>
      rcases entry with ⟨k', v'⟩
      by_cases hk : k = k'
      · simp [set, hk, get_cons]
      · simp [set, hk, get_cons, ih]

theorem get_set_of_ne (m : InsertionMap key value) {k j : key} (v : value)
    (hne : j ≠ k) : get (set m k v) j = get m j := by
  induction m with
  | nil =>
      simp [set, get_cons, hne]
  | cons entry rest ih =>
      rcases entry with ⟨k', v'⟩
      by_cases hk : k = k'
      · subst hk
        simp [set, get_cons, hne]
      · by_cases hj : j = k'
        · simp [set, hk, get_cons, hj]
        · simp [set, hk, get_cons, hj, ih]

theorem get_erase (m : InsertionMap key value) (k j : key) :
    get (erase m k) j = if j = k then none else get m j := by
  induction m with
  | nil =>
      simp [erase]
  | cons entry rest ih =>
      rcases entry with ⟨k', v'⟩
      by_cases hk : k' = k
      · have hdrop : erase ((k', v') :: rest) k = erase rest k := by
          simp [erase, hk]
        rw [hdrop, ih, get_cons, hk]
        by_cases hj : j = k
        · simp [hj]
        · simp [hj]
      · have hkeep : erase ((k', v') :: rest) k = (k', v') :: erase rest k := by
          simp [erase, hk]
        rw [hkeep, get_cons, get_cons, ih]
        by_cases hj : j = k'
        · simp [hj, hk]
        · simp [hj]

theorem get_of_get_erase {m : InsertionMap key value} {k j : key} {v : value}
    (h : get (erase m k) j = some v) : get m j = some v := by
  rw [get_erase] at h
  split_ifs at h
  exact h

theorem get_map {image : Type} (f : key -> value -> image) (m : InsertionMap key value)
    (k : key) :
    get (m.map fun entry => (entry.1, f entry.1 entry.2)) k = (get m k).map (f k) := by
  induction m with
  | nil =>
      rfl
  | cons entry rest ih =>
      rcases entry with ⟨k', v'⟩
      rw [List.map_cons, get_cons, get_cons, ih]
      by_cases hk : k = k'
      · simp [hk]
      · simp [hk]

/-!
# Keys without duplicates
-/

theorem mem_of_get {m : InsertionMap key value} {k : key} {v : value} (h : get m k = some v) :
    (k, v) ∈ m := by
  induction m with
  | nil =>
      cases h
  | cons entry rest ih =>
      rcases entry with ⟨k', v'⟩
      rw [get_cons] at h
      split_ifs at h with hk
      · cases h
        rw [hk]
        exact List.mem_cons_self
      · exact List.mem_cons_of_mem _ (ih h)

theorem get_of_mem {m : InsertionMap key value} (hnodup : (m.map Prod.fst).Nodup) {k : key}
    {v : value} (h : (k, v) ∈ m) : get m k = some v := by
  induction m with
  | nil =>
      cases h
  | cons entry rest ih =>
      rcases entry with ⟨k', v'⟩
      rw [List.map_cons, List.nodup_cons] at hnodup
      rw [get_cons]
      rcases List.mem_cons.mp h with hhead | hrest
      · cases hhead
        exact if_pos rfl
      · have hne : k ≠ k' := by
          intro heq
          exact hnodup.1 (List.mem_map.mpr ⟨(k, v), hrest, heq⟩)
        rw [if_neg hne]
        exact ih hnodup.2 hrest

theorem mem_keys_set {m : InsertionMap key value} {k j : key} {v : value}
    (h : j ∈ (set m k v).map Prod.fst) : j = k ∨ j ∈ m.map Prod.fst := by
  induction m with
  | nil =>
      exact Or.inl (List.mem_singleton.mp h)
  | cons entry rest ih =>
      rcases entry with ⟨k', v'⟩
      unfold set at h
      split_ifs at h with hk
      · rw [hk] at h
        exact Or.inr h
      · rw [List.map_cons] at h ⊢
        rcases List.mem_cons.mp h with hhead | hrest
        · exact Or.inr (hhead ▸ List.mem_cons_self)
        · rcases ih hrest with hnew | hold
          · exact Or.inl hnew
          · exact Or.inr (List.mem_cons_of_mem _ hold)

theorem nodup_set {m : InsertionMap key value} (hnodup : (m.map Prod.fst).Nodup) (k : key)
    (v : value) : ((set m k v).map Prod.fst).Nodup := by
  induction m with
  | nil =>
      simp [set]
  | cons entry rest ih =>
      rcases entry with ⟨k', v'⟩
      rw [List.map_cons, List.nodup_cons] at hnodup
      unfold set
      split_ifs with hk
      · rw [hk, List.map_cons, List.nodup_cons]
        exact hnodup
      · rw [List.map_cons, List.nodup_cons]
        refine ⟨?_, ih hnodup.2⟩
        intro hmem
        rcases mem_keys_set hmem with heq | hold
        · exact hk heq.symm
        · exact hnodup.1 hold

theorem notMem_keys_of_get {m : InsertionMap key value} {k : key} (h : get m k = none) :
    k ∉ m.map Prod.fst := by
  induction m with
  | nil =>
      exact List.not_mem_nil
  | cons entry rest ih =>
      rcases entry with ⟨k', v'⟩
      rw [get_cons] at h
      split_ifs at h with hk
      rw [List.map_cons, List.mem_cons]
      rintro (heq | hrest)
      · exact hk heq
      · exact ih h hrest

theorem set_of_get_none {m : InsertionMap key value} {k : key} (h : get m k = none)
    (v : value) : set m k v = m ++ [(k, v)] := by
  induction m with
  | nil =>
      rfl
  | cons entry rest ih =>
      rcases entry with ⟨k', v'⟩
      rw [get_cons] at h
      split_ifs at h with hk
      rw [set, if_neg hk, ih h, List.cons_append]

theorem erase_of_get_none {m : InsertionMap key value} {k : key} (h : get m k = none) :
    erase m k = m := by
  refine List.filter_eq_self.mpr ?_
  intro entry hentry
  refine decide_eq_true ?_
  intro heq
  exact notMem_keys_of_get h (List.mem_map.mpr ⟨entry, hentry, heq⟩)

theorem erase_set_of_get_none {m : InsertionMap key value} {k : key} (h : get m k = none)
    (v : value) : erase (set m k v) k = m := by
  have hnew : ([(k, v)] : InsertionMap key value).filter
      (fun entry => decide (entry.1 ≠ k)) = [] := by
    simp
  rw [set_of_get_none h, erase, List.filter_append, hnew, List.append_nil]
  exact erase_of_get_none h

theorem erase_ne_of_get {m : InsertionMap key value} {k : key} {v : value}
    (h : get m k = some v) : erase m k ≠ m := by
  intro heq
  have hnone := get_erase m k k
  rw [heq, h, if_pos rfl] at hnone
  cases hnone

theorem erase_sublist (m : InsertionMap key value) (k : key) : List.Sublist (erase m k) m :=
  List.filter_sublist

theorem keys_set_of_get {m : InsertionMap key value} {k : key} {v : value} (h : get m k = some v)
    (w : value) : (set m k w).map Prod.fst = m.map Prod.fst := by
  induction m with
  | nil =>
      cases h
  | cons entry rest ih =>
      rcases entry with ⟨k', v'⟩
      rw [get_cons] at h
      unfold set
      split_ifs at h ⊢ with hk
      · rw [List.map_cons, List.map_cons, hk]
      · rw [List.map_cons, List.map_cons, ih h]

theorem perm_erase {m : InsertionMap key value} (hnodup : (m.map Prod.fst).Nodup) {k : key}
    {v : value} (h : get m k = some v) : m.Perm ((k, v) :: erase m k) := by
  induction m with
  | nil =>
      cases h
  | cons entry rest ih =>
      rcases entry with ⟨k', v'⟩
      rw [List.map_cons, List.nodup_cons] at hnodup
      rw [get_cons] at h
      by_cases hk : k = k'
      · subst hk
        rw [if_pos rfl] at h
        cases h
        have hrest : erase rest k = rest := by
          refine List.filter_eq_self.mpr ?_
          intro entry hentry
          refine decide_eq_true ?_
          intro heq
          exact hnodup.1 (List.mem_map.mpr ⟨entry, hentry, heq⟩)
        have hdrop : erase ((k, v) :: rest) k = erase rest k :=
          List.filter_cons_of_neg (by simp)
        rw [hdrop, hrest]
      · rw [if_neg hk] at h
        have hkeep : erase ((k', v') :: rest) k = (k', v') :: erase rest k :=
          List.filter_cons_of_pos (by simpa using Ne.symm hk)
        rw [hkeep]
        exact ((ih hnodup.2 h).cons (k', v')).trans (List.Perm.swap (k, v) (k', v') _)

theorem keys_perm_erase {m : InsertionMap key value} (hnodup : (m.map Prod.fst).Nodup) {k : key}
    {v : value} (h : get m k = some v) :
    (m.map Prod.fst).Perm (k :: (erase m k).map Prod.fst) :=
  (perm_erase hnodup h).map Prod.fst

theorem erase_set (m : InsertionMap key value) (k : key) (v : value) :
    erase (set m k v) k = erase m k := by
  induction m with
  | nil =>
      simp [set, erase]
  | cons entry rest ih =>
      rcases entry with ⟨k', v'⟩
      unfold set
      split_ifs with hk
      · simp [erase, hk]
      · have hkeep : forall others : InsertionMap key value,
            erase ((k', v') :: others) k = (k', v') :: erase others k := fun _ =>
          List.filter_cons_of_pos (by simpa using Ne.symm hk)
        rw [hkeep, hkeep, ih]

theorem set_perm {m : InsertionMap key value} (hnodup : (m.map Prod.fst).Nodup) (k : key)
    (v : value) : (set m k v).Perm ((k, v) :: erase m k) := by
  have h := perm_erase (nodup_set hnodup k v) (get_set_self m k v)
  rwa [erase_set] at h

theorem set_eq_map {m : InsertionMap key value} (hnodup : (m.map Prod.fst).Nodup) {k : key}
    {v : value} (h : get m k = some v) (w : value) :
    set m k w = m.map fun entry => if entry.1 = k then (k, w) else entry := by
  induction m with
  | nil =>
      cases h
  | cons entry rest ih =>
      rcases entry with ⟨k', v'⟩
      rw [List.map_cons, List.nodup_cons] at hnodup
      rw [get_cons] at h
      unfold set
      split_ifs at h ⊢ with hk
      · have hrest : (rest.map fun entry => if entry.1 = k then (k, w) else entry) = rest := by
          refine (List.map_congr_left ?_).trans (List.map_id rest)
          intro entry hentry
          apply if_neg
          intro heq
          exact hnodup.1 (List.mem_map.mpr ⟨entry, hentry, heq.trans hk⟩)
        rw [List.map_cons, if_pos hk.symm, hrest]
      · rw [List.map_cons, if_neg (fun heq => hk heq.symm), ih hnodup.2 h]

def ofEntries (entries : List (key × value)) : InsertionMap key value :=
  entries.foldl (fun m entry => set m entry.1 entry.2) []

theorem get_fill_of_notMem (entries : List (key × value)) (m : InsertionMap key value)
    {k : key} (h : k ∉ entries.map Prod.fst) :
    get (entries.foldl (fun m entry => set m entry.1 entry.2) m) k = get m k := by
  induction entries generalizing m with
  | nil =>
      rfl
  | cons entry rest ih =>
      simp only [List.map_cons, List.mem_cons, not_or] at h
      rw [List.foldl_cons, ih _ h.2, get_set_of_ne m entry.2 h.1]

theorem get_ofEntries_of_mem {entries : List (key × value)}
    (hnodup : (entries.map Prod.fst).Nodup) {k : key} {v : value} (h : (k, v) ∈ entries) :
    get (ofEntries entries) k = some v := by
  unfold ofEntries
  generalize ([] : InsertionMap key value) = m
  induction entries generalizing m with
  | nil =>
      cases h
  | cons entry rest ih =>
      rw [List.map_cons, List.nodup_cons] at hnodup
      rw [List.foldl_cons]
      rcases List.mem_cons.mp h with rfl | hrest
      · rw [get_fill_of_notMem rest _ hnodup.1, get_set_self]
      · exact ih hnodup.2 hrest _

theorem mem_of_get_ofEntries {entries : List (key × value)}
    (hnodup : (entries.map Prod.fst).Nodup) {k : key} {v : value}
    (h : get (ofEntries entries) k = some v) : (k, v) ∈ entries := by
  by_cases hk : k ∈ entries.map Prod.fst
  · rcases List.mem_map.mp hk with ⟨entry, hmem, rfl⟩
    rw [get_ofEntries_of_mem hnodup hmem] at h
    cases h
    exact hmem
  · rw [ofEntries, get_fill_of_notMem entries [] hk] at h
    cases h

end InsertionMap
end Foundation
end Shamarx
