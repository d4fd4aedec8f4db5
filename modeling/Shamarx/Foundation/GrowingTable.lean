import Mathlib.Data.List.Basic

/-!
# Tables that only grow

Rows are appended and updated in place, and none is deleted, so an index stands for the
same row in every later table.
-/

namespace Shamarx
namespace Foundation

section GrowingTable

variable {row tag : Type} {tagOf : row -> tag} {P : row -> Prop} {rows : List row}
  {change : row -> row} {id : Nat}

/-- Every row of the first table is in the second, with the tag it had. -/
def Grows (tagOf : row -> tag) (rows rows' : List row) : Prop :=
  forall (id : Nat) (r : row), rows[id]? = some r ->
    exists r', rows'[id]? = some r' ∧ tagOf r' = tagOf r

theorem grows_refl (tagOf : row -> tag) (rows : List row) : Grows tagOf rows rows :=
  fun _ r hr => ⟨r, hr, rfl⟩

theorem grows_append (tagOf : row -> tag) (rows fresh : List row) :
    Grows tagOf rows (rows ++ fresh) := by
  intro id r hr
  refine ⟨r, ?_, rfl⟩
  rw [List.getElem?_append_left (List.getElem?_eq_some_iff.mp hr).1]
  exact hr

theorem grows_modify (rows : List row) (id : Nat)
    (hchange : forall r, tagOf (change r) = tagOf r) :
    Grows tagOf rows (rows.modify id change) := by
  intro other r hr
  rw [List.getElem?_modify, hr]
  by_cases heq : id = other
  · exact ⟨change r, by simp [heq], hchange r⟩
  · exact ⟨r, by simp [heq], rfl⟩

theorem forall_append_row {fresh : row} (h : forall r, r ∈ rows -> P r) (hfresh : P fresh) :
    forall r, r ∈ rows ++ [fresh] -> P r := by
  intro r hr
  rcases List.mem_append.mp hr with hold | hnew
  · exact h r hold
  · rw [List.mem_singleton.mp hnew]
    exact hfresh

theorem forall_modify_row (h : forall r, r ∈ rows -> P r)
    (hchange : forall r, rows[id]? = some r -> P r -> P (change r)) :
    forall r, r ∈ rows.modify id change -> P r := by
  intro r hr
  rcases List.mem_iff_getElem?.mp hr with ⟨other, hother⟩
  rw [List.getElem?_modify] at hother
  cases hold : rows[other]? with
  | none =>
      rw [hold] at hother
      cases hother
  | some before =>
      rw [hold] at hother
      have hbefore : P before := h before (List.mem_of_getElem? hold)
      by_cases heq : id = other
      · subst heq
        have hr : change before = r := by simpa using hother
        rw [<- hr]
        exact hchange before hold hbefore
      · have hr : before = r := by simpa [heq] using hother
        rw [<- hr]
        exact hbefore

end GrowingTable

end Foundation
end Shamarx
