import Mathlib.Data.List.Range
import Mathlib.Order.Bounds.Basic

/-!
# Bounded scans

The detectors walk candle arrays by index and stop at the first hit.  A
downward scan visits `hi - 1`, ..., `lo`, an upward one `lo`, ..., `hi - 1`.
-/

namespace Shamarx
namespace Foundation

def scanUp (lo hi : Nat) (f : Nat -> Option alpha) : Option alpha :=
  (List.range' lo (hi - lo)).findSome? f

def scanDown (lo hi : Nat) (f : Nat -> Option alpha) : Option alpha :=
  (List.range' lo (hi - lo)).reverse.findSome? f

theorem findSome?_congr {f g : beta -> Option alpha} {l : List beta}
    (h : forall k, k ∈ l -> f k = g k) : l.findSome? f = l.findSome? g := by
  induction l with
  | nil =>
      rfl
  | cons k rest ih =>
      rw [List.findSome?_cons, List.findSome?_cons, h k List.mem_cons_self,
        ih fun j hj => h j (List.mem_cons_of_mem k hj)]

theorem scanUp_congr {lo hi : Nat} {f g : Nat -> Option alpha}
    (h : forall k, lo ≤ k -> k < hi -> f k = g k) : scanUp lo hi f = scanUp lo hi g := by
  apply findSome?_congr
  intro k hk
  rw [List.mem_range'_1] at hk
  exact h k hk.1 (by omega)

theorem scanUp_eq_first {lo hi k : Nat} {f : Nat -> Option alpha} {x : alpha} (hlo : lo ≤ k)
    (hhi : k < hi) (hmiss : forall i, lo ≤ i -> i < k -> f i = none) (hhit : f k = some x) :
    scanUp lo hi f = some x := by
  have hsplit : List.range' lo (hi - lo) = List.range' lo (k - lo) ++ List.range' k (hi - k) := by
    have happend : List.range' lo (k - lo) ++ List.range' (lo + (k - lo)) (hi - k) =
        List.range' lo (k - lo + (hi - k)) := List.range'_append_1
    rw [show lo + (k - lo) = k by omega, show k - lo + (hi - k) = hi - lo by omega] at happend
    exact happend.symm
  have hfront : (List.range' lo (k - lo)).findSome? f = none := by
    rw [List.findSome?_eq_none_iff]
    intro i hi
    rw [List.mem_range'_1] at hi
    exact hmiss i hi.1 (by omega)
  have hback : List.range' k (hi - k) = k :: List.range' (k + 1) (hi - k - 1) := by
    rw [show hi - k = (hi - k - 1) + 1 by omega]
    rfl
  rw [scanUp, hsplit, List.findSome?_append, hfront, hback, List.findSome?_cons, hhit]
  rfl

theorem scanUp_eq_some_iff {lo hi : Nat} {f : Nat -> Option alpha} {x : alpha} :
    scanUp lo hi f = some x <->
      exists k, lo ≤ k ∧ k < hi ∧ f k = some x ∧ forall j, lo ≤ j -> j < k -> f j = none := by
  constructor
  · intro h
    rcases List.findSome?_eq_some_iff.mp h with ⟨before, k, after, hsplit, hhit, hmiss⟩
    rcases List.range'_eq_append_iff.mp hsplit with ⟨n, hn, hbefore, hafter⟩
    rw [eq_comm, List.range'_eq_cons_iff] at hafter
    rcases hafter with ⟨hk, hlen, -⟩
    refine ⟨k, by omega, by omega, hhit, ?_⟩
    intro j hlo hj
    refine hmiss j ?_
    rw [hbefore, List.mem_range'_1]
    omega
  · intro h
    rcases h with ⟨k, hlo, hhi, hhit, hmiss⟩
    exact scanUp_eq_first hlo hhi hmiss hhit

section Index

variable (lo hi : Nat) {f : Nat -> Option alpha} {P : Nat -> Prop}

theorem scanUp_iff_isLeast (hP : forall k, (f k).isSome = true <-> P k) {x : alpha} :
    scanUp lo hi f = some x <->
      exists k, IsLeast { j | lo ≤ j ∧ j < hi ∧ P j } k ∧ f k = some x := by
  have hnone : forall j, f j = none <-> ¬ P j := by
    intro j
    rw [<- hP j, Option.not_isSome_iff_eq_none]
  rw [scanUp_eq_some_iff]
  constructor
  · intro h
    rcases h with ⟨k, hlo, hhi, hhit, hmiss⟩
    have hk : P k := (hP k).mp (by rw [hhit]; rfl)
    refine ⟨k, ⟨⟨hlo, hhi, hk⟩, ?_⟩, hhit⟩
    intro j hj
    by_contra hlt
    exact (hnone j).mp (hmiss j hj.1 (not_le.mp hlt)) hj.2.2
  · intro h
    rcases h with ⟨k, hleast, hhit⟩
    refine ⟨k, hleast.1.1, hleast.1.2.1, hhit, ?_⟩
    intro j hlo hj
    rw [hnone]
    intro hP
    exact absurd (hleast.2 ⟨hlo, hj.trans hleast.1.2.1, hP⟩) (not_le.mpr hj)

theorem scanUp_isSome_iff (hP : forall k, (f k).isSome = true <-> P k) :
    (scanUp lo hi f).isSome = true <-> exists j, lo ≤ j ∧ j < hi ∧ P j := by
  unfold scanUp
  rw [List.findSome?_isSome_iff]
  constructor
  · intro h
    rcases h with ⟨j, hj, hhit⟩
    rw [List.mem_range'_1] at hj
    exact ⟨j, hj.1, by omega, (hP j).mp hhit⟩
  · intro h
    rcases h with ⟨j, hlo, hhi, hj⟩
    exact ⟨j, List.mem_range'_1.mpr ⟨hlo, by omega⟩, (hP j).mpr hj⟩

end Index

theorem pairwise_filterMap_range' {f : Nat -> Option alpha} {index : alpha -> Nat}
    (hindex : forall i x, f i = some x -> index x = i) (lo n : Nat) :
    ((List.range' lo n).filterMap f).Pairwise fun a b => index a < index b := by
  rw [List.pairwise_filterMap]
  refine (List.pairwise_lt_range' (s := lo)).imp ?_
  intro i j hij a ha b hb
  rw [hindex i a ha, hindex j b hb]
  exact hij

theorem scanDown_congr {lo hi : Nat} {f g : Nat -> Option alpha}
    (h : forall k, lo ≤ k -> k < hi -> f k = g k) :
    scanDown lo hi f = scanDown lo hi g := by
  apply findSome?_congr
  intro k hk
  rw [List.mem_reverse, List.mem_range'_1] at hk
  exact h k hk.1 (by omega)

theorem scanDown_some {lo hi : Nat} {f : Nat -> Option alpha} {x : alpha}
    (h : scanDown lo hi f = some x) : exists k, k < hi ∧ f k = some x := by
  rcases List.exists_of_findSome?_eq_some h with ⟨k, hk, hfk⟩
  rw [List.mem_reverse, List.mem_range'_1] at hk
  exact ⟨k, by omega, hfk⟩

/-!
# The first hit of a list
-/

def ReachesHit (Hit Pass : item -> Prop) (items : List item) : Prop :=
  exists front x back, items = front ++ x :: back ∧ Hit x ∧ forall y, y ∈ front -> Pass y

@[simp] theorem reachesHit_nil (Hit Pass : item -> Prop) : ¬ ReachesHit Hit Pass [] := by
  rintro ⟨front, x, back, heq, -⟩
  simp at heq

theorem reachesHit_cons {Hit Pass : item -> Prop} {x : item} {rest : List item} :
    ReachesHit Hit Pass (x :: rest) ↔ Hit x ∨ (Pass x ∧ ReachesHit Hit Pass rest) := by
  constructor
  · rintro ⟨front, y, back, heq, hhit, hpass⟩
    cases front with
    | nil =>
        rw [List.nil_append, List.cons.injEq] at heq
        exact Or.inl (heq.1 ▸ hhit)
    | cons z front =>
        rw [List.cons_append, List.cons.injEq] at heq
        refine Or.inr ⟨heq.1 ▸ hpass z List.mem_cons_self, front, y, back, heq.2, hhit, ?_⟩
        intro w hw
        exact hpass w (List.mem_cons_of_mem z hw)
  · rintro (hhit | ⟨hx, front, y, back, rfl, hhit, hpass⟩)
    · exact ⟨[], x, rest, rfl, hhit, by simp⟩
    · refine ⟨x :: front, y, back, rfl, hhit, ?_⟩
      intro w hw
      rcases List.mem_cons.mp hw with rfl | hw
      · exact hx
      · exact hpass w hw

theorem ReachesHit.exists_hit {Hit Pass : item -> Prop} {items : List item}
    (h : ReachesHit Hit Pass items) : exists x, x ∈ items ∧ Hit x := by
  rcases h with ⟨front, x, back, rfl, hhit, -⟩
  exact ⟨x, by simp, hhit⟩

end Foundation
end Shamarx
