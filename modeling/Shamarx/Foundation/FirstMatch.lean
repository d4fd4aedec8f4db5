import Mathlib.Data.List.Nodup

/-!
# The first match in a queue

A search takes the first element that meets a predicate, and a mark is put on the first
element that meets one.  Where two searches use different predicates, they meet in one
element only if no earlier one meets the weaker of the two.
-/

namespace Shamarx
namespace Foundation

section FirstMatch

variable {item key : Type} {p q : item -> Prop} {xs older newer : List item} {x : item}

structure FirstMatch (p : item -> Prop) (xs older : List item) (x : item)
    (newer : List item) : Prop where
  split : xs = older ++ x :: newer
  holds : p x
  before : forall y, y ∈ older -> ¬ p y

theorem find?_eq_some_iff_firstMatch [DecidablePred p] :
    xs.find? (fun y => decide (p y)) = some x <-> exists older newer,
      FirstMatch p xs older x newer := by
  rw [List.find?_eq_some_iff_append]
  constructor
  · intro h
    rcases h with ⟨hx, older, newer, hsplit, hbefore⟩
    refine ⟨older, newer, hsplit, of_decide_eq_true hx, ?_⟩
    intro y hy
    simpa using hbefore y hy
  · intro h
    rcases h with ⟨older, newer, hfirst⟩
    refine ⟨decide_eq_true hfirst.holds, older, newer, hfirst.split, ?_⟩
    intro y hy
    simpa using hfirst.before y hy

theorem FirstMatch.find?_eq [DecidablePred p] (h : FirstMatch p xs older x newer) :
    xs.find? (fun y => decide (p y)) = some x :=
  find?_eq_some_iff_firstMatch.mpr ⟨older, newer, h⟩

theorem eq_of_append_cons_eq {older' newer' : List item}
    (h : older ++ x :: newer = older' ++ x :: newer') (hx : x ∉ older) (hx' : x ∉ older') :
    older = older' := by
  rcases List.append_eq_append_iff.mp h with ⟨between, hlong, hrest⟩ | ⟨between, hlong, hrest⟩
  · cases between with
    | nil =>
        rw [hlong, List.append_nil]
    | cons y between =>
        have hy : x = y := (List.cons.inj hrest).1
        exact absurd (by rw [hlong, <- hy]; simp) hx'
  · cases between with
    | nil =>
        rw [hlong, List.append_nil]
    | cons y between =>
        have hy : x = y := (List.cons.inj hrest).1
        exact absurd (by rw [hlong, <- hy]; simp) hx

theorem FirstMatch.find?_weaker_iff [DecidablePred q] (h : FirstMatch p xs older x newer)
    (hx : q x) :
    xs.find? (fun y => decide (q y)) = some x <-> forall y, y ∈ older -> ¬ q y := by
  constructor
  · intro hfind
    rcases find?_eq_some_iff_firstMatch.mp hfind with ⟨older', newer', hq⟩
    have hsame : older = older' :=
      eq_of_append_cons_eq (h.split.symm.trans hq.split) (fun hmem => h.before x hmem h.holds)
        (fun hmem => hq.before x hmem hq.holds)
    rw [hsame]
    exact hq.before
  · intro hbefore
    have hq : FirstMatch q xs older x newer := ⟨h.split, hx, hbefore⟩
    exact hq.find?_eq

/-!
# Marking
-/

def markFirst (p : item -> Prop) [DecidablePred p] (mark : item -> item) :
    List item -> List item
  | [] => []
  | y :: rest => if p y then mark y :: rest else y :: markFirst p mark rest

theorem FirstMatch.markFirst_eq [DecidablePred p] (h : FirstMatch p xs older x newer)
    (mark : item -> item) : markFirst p mark xs = older ++ mark x :: newer := by
  rcases h with ⟨hsplit, hx, hbefore⟩
  subst hsplit
  induction older with
  | nil =>
      exact if_pos hx
  | cons y rest ih =>
      have hy : ¬ p y := hbefore y List.mem_cons_self
      have hrest := ih fun z hz => hbefore z (List.mem_cons_of_mem _ hz)
      rw [List.cons_append, markFirst, if_neg hy, hrest, List.cons_append]

theorem map_key_markFirst [DecidablePred p] {mark : item -> item} {keyOf : item -> key}
    (hmark : forall y, keyOf (mark y) = keyOf y) (xs : List item) :
    (markFirst p mark xs).map keyOf = xs.map keyOf := by
  induction xs with
  | nil =>
      rfl
  | cons y rest ih =>
      rw [markFirst]
      split
      · rw [List.map_cons, List.map_cons, hmark y]
      · rw [List.map_cons, List.map_cons, ih]

theorem FirstMatch.key_ne (h : FirstMatch p xs older x newer) {keyOf : item -> key}
    (hnodup : (xs.map keyOf).Nodup) {y : item} (hy : y ∈ older ++ newer) :
    keyOf y ≠ keyOf x := by
  intro heq
  rw [h.split, List.map_append, List.map_cons, List.nodup_middle, List.nodup_cons,
    <- List.map_append] at hnodup
  exact hnodup.1 (List.mem_map.mpr ⟨y, hy, heq⟩)

end FirstMatch

/-!
# The newest match

A list in the order of an index is searched from its end.
-/

section Newest

variable {item : Type} {index : item -> Nat} {p : item -> Bool} {xs : List item} {x : item}

structure Newest (index : item -> Nat) (p : item -> Bool) (xs : List item) (x : item) :
    Prop where
  mem : x ∈ xs
  holds : p x = true
  last : forall y, y ∈ xs -> p y = true -> index y ≤ index x

theorem find?_reverse_iff_newest (hasc : xs.Pairwise fun a b => index a < index b) :
    xs.reverse.find? p = some x <-> Newest index p xs x := by
  rw [List.find?_eq_some_iff_append]
  constructor
  · intro h
    rcases h with ⟨hx, newer, older, hsplit, hmiss⟩
    have hback : xs = older.reverse ++ x :: newer.reverse := by
      rw [<- List.reverse_reverse xs, hsplit, List.reverse_append, List.reverse_cons,
        List.append_assoc]
      rfl
    rw [hback] at hasc ⊢
    rw [List.pairwise_append] at hasc
    refine ⟨by simp, hx, ?_⟩
    intro y hy hpy
    rw [List.mem_append, List.mem_cons, List.mem_reverse, List.mem_reverse] at hy
    rcases hy with hy | rfl | hy
    · exact Nat.le_of_lt (hasc.2.2 y (List.mem_reverse.mpr hy) x List.mem_cons_self)
    · exact Nat.le_refl _
    · have hno := hmiss y hy
      rw [hpy] at hno
      cases hno
  · intro h
    rcases List.append_of_mem h.mem with ⟨older, newer, rfl⟩
    rw [List.pairwise_append, List.pairwise_cons] at hasc
    refine ⟨h.holds, newer.reverse, older.reverse, by simp, ?_⟩
    intro y hy
    rw [List.mem_reverse] at hy
    have hlater := hasc.2.1.1 y hy
    cases hpy : p y with
    | false =>
        rfl
    | true =>
        have hlast := h.last y (by simp [hy]) hpy
        omega

theorem newest_test_iff (hasc : xs.Pairwise fun a b => index a < index b) (q : item -> Prop) :
    ((exists x, xs.reverse.find? p = some x ∧ q x) <->
        exists x, x ∈ xs ∧ p x = true ∧ q x) <->
      forall x, Newest index p xs x -> (exists y, y ∈ xs ∧ p y = true ∧ q y) -> q x := by
  simp only [find?_reverse_iff_newest hasc]
  constructor
  · intro h x hx hany
    rcases h.mpr hany with ⟨y, hy, hqy⟩
    have hsame : x = y := by
      rw [<- find?_reverse_iff_newest hasc] at hx hy
      exact Option.some.inj (hx.symm.trans hy)
    rw [hsame]
    exact hqy
  · intro h
    constructor
    · intro hnewest
      rcases hnewest with ⟨x, hx, hqx⟩
      exact ⟨x, hx.mem, hx.holds, hqx⟩
    · intro hany
      have hfound : (xs.reverse.find? p).isSome = true := by
        rcases hany with ⟨y, hy, hpy, _⟩
        rw [List.find?_isSome]
        exact ⟨y, List.mem_reverse.mpr hy, hpy⟩
      rcases Option.isSome_iff_exists.mp hfound with ⟨x, hx⟩
      rw [find?_reverse_iff_newest hasc] at hx
      exact ⟨x, hx, h x hx hany⟩

end Newest

end Foundation
end Shamarx
