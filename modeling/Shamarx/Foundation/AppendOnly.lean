import Mathlib.Data.List.Basic

/-!
# Append-only tables

A table with a unique key.  An insertion that skips duplicates adds the rows whose
key is free and leaves what is stored as it is.
-/

namespace Shamarx
namespace Foundation

section AppendOnly

variable {row index : Type} [DecidableEq index]

def insertNew (key : row -> index) (table : List row) (r : row) : List row :=
  if exists old, old ∈ table ∧ key old = key r then table else table ++ [r]

def createMany (key : row -> index) (table : List row) (rows : List row) : List row :=
  rows.foldl (insertNew key) table

variable {key : row -> index} {table : List row}

theorem createMany_cons (key : row -> index) (table : List row) (r : row) (rest : List row) :
    createMany key table (r :: rest) = createMany key (insertNew key table r) rest := rfl

theorem exists_createMany_eq_append (key : row -> index) (table rows : List row) :
    exists fresh, createMany key table rows = table ++ fresh ∧
      forall r, r ∈ fresh -> r ∈ rows ∧ forall old, old ∈ table -> key old ≠ key r := by
  induction rows generalizing table with
  | nil =>
      exact ⟨[], (List.append_nil table).symm, fun r hr => (nomatch hr)⟩
  | cons first rest ih =>
      rcases ih (insertNew key table first) with ⟨fresh, hfresh, hnew⟩
      rw [createMany_cons]
      by_cases htaken : exists old, old ∈ table ∧ key old = key first
      · have hsame : insertNew key table first = table := if_pos htaken
        rw [hsame] at hfresh hnew ⊢
        refine ⟨fresh, hfresh, ?_⟩
        intro r hr
        exact ⟨List.mem_cons_of_mem _ (hnew r hr).1, (hnew r hr).2⟩
      · have hadded : insertNew key table first = table ++ [first] := if_neg htaken
        rw [hadded] at hfresh hnew ⊢
        refine ⟨first :: fresh, by rw [hfresh, List.append_assoc]; rfl, ?_⟩
        intro r hr
        rcases List.mem_cons.mp hr with rfl | hr
        · exact ⟨List.mem_cons_self, fun old hold hkey => htaken ⟨old, hold, hkey⟩⟩
        · refine ⟨List.mem_cons_of_mem _ (hnew r hr).1, ?_⟩
          intro old hold
          exact (hnew r hr).2 old (List.mem_append_left _ hold)

theorem exists_key_of_mem_createMany (key : row -> index) (table : List row) {rows : List row}
    {r : row} (hr : r ∈ rows) : exists new, new ∈ createMany key table rows ∧ key new = key r := by
  induction rows generalizing table with
  | nil =>
      cases hr
  | cons first rest ih =>
      rw [createMany_cons]
      rcases List.mem_cons.mp hr with rfl | hrest
      · rcases exists_createMany_eq_append key (insertNew key table r) rest with ⟨fresh, heq, -⟩
        have hplace : exists new, new ∈ insertNew key table r ∧ key new = key r := by
          unfold insertNew
          split_ifs with htaken
          · exact htaken
          · exact ⟨r, List.mem_append_right _ List.mem_cons_self, rfl⟩
        rcases hplace with ⟨new, hnew, hkey⟩
        rw [heq]
        exact ⟨new, List.mem_append_left _ hnew, hkey⟩
      · exact ih (insertNew key table first) hrest

theorem nodup_keys_createMany (h : (table.map key).Nodup) (rows : List row) :
    ((createMany key table rows).map key).Nodup := by
  induction rows generalizing table with
  | nil =>
      exact h
  | cons first rest ih =>
      rw [createMany_cons]
      apply ih
      unfold insertNew
      split_ifs with htaken
      · exact h
      · rw [List.map_append, List.nodup_append]
        refine ⟨h, List.nodup_cons.mpr ⟨List.not_mem_nil, List.nodup_nil⟩, ?_⟩
        intro k hk k' hk' heq
        rcases List.mem_map.mp hk with ⟨old, hold, rfl⟩
        exact htaken ⟨old, hold, heq.trans (List.mem_singleton.mp hk')⟩

end AppendOnly

/-!
# Versions of a row
-/

section Versions

variable {row : Type} {Version : row -> row -> Prop} {rows : List row}

def RowsKept (Version : row -> row -> Prop) (before after : List row) : Prop :=
  forall (i : Nat) (old : row), before[i]? = some old ->
    exists new, after[i]? = some new ∧ Version old new

theorem rowsKept_refl (hrefl : forall r, Version r r) (rows : List row) :
    RowsKept Version rows rows :=
  fun _ old hold => ⟨old, hold, hrefl old⟩

theorem rowsKept_append (hrefl : forall r, Version r r) (rows fresh : List row) :
    RowsKept Version rows (rows ++ fresh) := by
  intro i old hold
  have hlt : i < rows.length := (List.getElem?_eq_some_iff.mp hold).1
  exact ⟨old, (List.getElem?_append_left hlt).trans hold, hrefl old⟩

theorem rowsKept_modify (hrefl : forall r, Version r r) {i : Nat} {f : row -> row}
    (hf : forall old, rows[i]? = some old -> Version old (f old)) :
    RowsKept Version rows (rows.modify i f) := by
  intro j old hold
  rw [List.getElem?_modify, hold]
  by_cases heq : i = j
  · subst heq
    exact ⟨f old, congrArg some (if_pos rfl), hf old hold⟩
  · exact ⟨old, congrArg some (if_neg heq), hrefl old⟩

end Versions

end Foundation
end Shamarx
