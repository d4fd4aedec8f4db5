import Mathlib.Data.List.Basic
import Mathlib.Data.Option.Basic

/-!
# Effects and the answers that report them

A request leaves effects in a ledger and returns at most one answer.  The
effects may go unreported, since an answer can get lost, but an answer never
names an effect that was not made.
-/

namespace Shamarx
namespace Foundation

/-- The request extends `before` to `after` and answers `answer`.  It is heard
when there is an answer, and quiet when the answer accounts for every effect. -/
structure Reports (before after : List effect) (answer : Option effect)
    (Heard Quiet : Prop) : Prop where
  made : exists new, after = before ++ new ∧ (forall a, answer = some a -> a ∈ new) ∧
    (new = answer.toList ↔ Quiet)
  heard : (exists a, answer = some a) ↔ Heard

namespace Reports

variable {before middle after : List effect} {answer : Option effect}
variable {Heard Quiet Heard' Quiet' : Prop}

theorem silent (before : List effect) : Reports before before none False True where
  made := ⟨[], by simp, by simp, by simp⟩
  heard := by simp

theorem answered (before : List effect) (a : effect) :
    Reports before (before ++ [a]) (some a) True True where
  made := ⟨[a], rfl, by simp, by simp⟩
  heard := by simp

theorem unheard (before : List effect) (a : effect) :
    Reports before (before ++ [a]) none False False where
  made := ⟨[a], rfl, by simp, by simp⟩
  heard := by simp

theorem congr (h : Reports before after answer Heard Quiet) (hheard : Heard ↔ Heard')
    (hquiet : Quiet ↔ Quiet') : Reports before after answer Heard' Quiet' where
  made := by
    rcases h.made with ⟨new, hnew, hmem, hiff⟩
    exact ⟨new, hnew, hmem, hiff.trans hquiet⟩
  heard := h.heard.trans hheard

/-- Losing the answer of a request leaves it quiet only if it had no effect. -/
theorem lost (h : Reports before after answer Heard Quiet) :
    Reports before after none False (Quiet ∧ ¬ Heard) where
  made := by
    rcases h.made with ⟨new, hnew, hmem, hiff⟩
    refine ⟨new, hnew, by simp, ?_⟩
    rw [← hiff, ← h.heard]
    cases answer with
    | none =>
        simp
    | some a =>
        have hin : a ∈ new := hmem a rfl
        constructor
        · intro hnil
          rw [Option.toList_none] at hnil
          simp [hnil] at hin
        · rintro ⟨-, hnone⟩
          exact absurd ⟨a, rfl⟩ hnone
  heard := by simp

theorem followedBy (h : Reports before middle none Heard' Quiet')
    (hnext : Reports middle after answer Heard Quiet) :
    Reports before after answer Heard (Quiet' ∧ Quiet) where
  made := by
    rcases h.made with ⟨new, hnew, -, hiff⟩
    rcases hnext.made with ⟨new', hnew', hmem', hiff'⟩
    refine ⟨new ++ new', ?_, ?_, ?_⟩
    · rw [hnew', hnew, List.append_assoc]
    · intro a ha
      exact List.mem_append_right new (hmem' a ha)
    · rw [← hiff, ← hiff']
      cases answer with
      | none =>
          simp
      | some a =>
          have hlen : 0 < new'.length := List.length_pos_of_mem (hmem' a rfl)
          constructor
          · intro happ
            have hsum := congrArg List.length happ
            simp only [List.length_append, Option.toList_some, List.length_singleton] at hsum
            have hnil : new = [] := List.eq_nil_of_length_eq_zero (by omega)
            rw [hnil, List.nil_append] at happ
            exact ⟨hnil, happ⟩
          · rintro ⟨hnil, hsingle⟩
            rw [hnil, hsingle]
            rfl
  heard := hnext.heard

theorem quiet_iff (h : Reports [] after answer Heard Quiet) :
    after = answer.toList ↔ Quiet := by
  rcases h.made with ⟨new, hnew, -, hiff⟩
  rw [hnew, List.nil_append]
  exact hiff

theorem mem_of_answer {a : effect} (h : Reports before after (some a) Heard Quiet) :
    a ∈ after := by
  rcases h.made with ⟨new, hnew, hmem, -⟩
  rw [hnew]
  exact List.mem_append_right before (hmem a rfl)

end Reports
end Foundation
end Shamarx
