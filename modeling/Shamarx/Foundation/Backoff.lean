import Mathlib.Algebra.Order.Ring.Rat
import Mathlib.Data.List.Chain
import Mathlib.Tactic.Linarith

/-!
# Backoff

Attempts of an episode are numbered from zero and wait, each after the one before it, at
least as long as that one's delay.  A success ends the episode.
-/

namespace Shamarx
namespace Foundation

def backoffDelay (base cap n : Nat) : Nat :=
  min (base * 2 ^ n) cap

inductive RetryEvent where
  | attempt (number : Nat) (time : ℚ)
  | success
  deriving DecidableEq, Repr

def RetryEvent.Follows (delay : Nat -> Nat) : RetryEvent -> RetryEvent -> Prop
  | _, .success => True
  | .success, .attempt n _ => n = 0
  | .attempt n t, .attempt m u => m = n + 1 ∧ t + delay n ≤ u

def BackedOff (delay : Nat -> Nat) (events : List RetryEvent) : Prop :=
  (RetryEvent.success :: events).IsChain (RetryEvent.Follows delay)

/-- The number of the next attempt, and the time before which it does not come. -/
def nextAttempt (delay : Nat -> Nat) (events : List RetryEvent) : Option (Nat × ℚ) :=
  match events.getLast? with
  | some (.attempt n t) => some (n + 1, t + delay n)
  | _ => none

section BackedOff

variable {delay : Nat -> Nat} {events : List RetryEvent}

theorem backedOff_nil : BackedOff delay [] :=
  List.IsChain.singleton _

@[simp] theorem nextAttempt_attempt (n : Nat) (t : ℚ) :
    nextAttempt delay (events ++ [.attempt n t]) = some (n + 1, t + delay n) := by
  rw [nextAttempt, List.getLast?_concat]

@[simp] theorem nextAttempt_success : nextAttempt delay (events ++ [.success]) = none := by
  rw [nextAttempt, List.getLast?_concat]

theorem BackedOff.concat (h : BackedOff delay events) {e : RetryEvent}
    (he : (events.getLast?.getD .success).Follows delay e) : BackedOff delay (events ++ [e]) := by
  unfold BackedOff at h ⊢
  rw [<- List.cons_append, List.isChain_append]
  refine ⟨h, List.IsChain.singleton e, ?_⟩
  intro x hx y hy
  rw [List.head?_cons, Option.mem_some_iff] at hy
  rw [List.getLast?_cons, Option.mem_some_iff] at hx
  rwa [<- hx, <- hy]

theorem BackedOff.success (h : BackedOff delay events) : BackedOff delay (events ++ [.success]) :=
  h.concat trivial

theorem BackedOff.first (h : BackedOff delay events) (hnext : nextAttempt delay events = none)
    (t : ℚ) : BackedOff delay (events ++ [.attempt 0 t]) := by
  apply h.concat
  unfold nextAttempt at hnext
  cases hlast : events.getLast? with
  | none =>
      rfl
  | some e =>
      cases e with
      | success =>
          rfl
      | attempt n u =>
          rw [hlast] at hnext
          cases hnext

theorem BackedOff.again (h : BackedOff delay events) {n : Nat} {due t : ℚ}
    (hnext : nextAttempt delay events = some (n, due)) (hdue : due ≤ t) :
    BackedOff delay (events ++ [.attempt n t]) := by
  apply h.concat
  unfold nextAttempt at hnext
  cases hlast : events.getLast? with
  | none =>
      rw [hlast] at hnext
      cases hnext
  | some e =>
      cases e with
      | success =>
          rw [hlast] at hnext
          cases hnext
      | attempt m u =>
          rw [hlast] at hnext
          cases hnext
          exact ⟨rfl, hdue⟩

end BackedOff

def totalDelay (delay : Nat -> Nat) (n : Nat) : Nat -> Nat
  | 0 => 0
  | k + 1 => delay n + totalDelay delay (n + 1) k

theorem chain_totalDelay_le {delay : Nat -> Nat} {n m : Nat} {t u : ℚ}
    {between back : List RetryEvent}
    (h : (.attempt n t :: (between ++ .attempt m u :: back)).IsChain (RetryEvent.Follows delay))
    (hbetween : .success ∉ between) :
    m = n + 1 + between.length ∧ t + totalDelay delay n (between.length + 1) ≤ u := by
  induction between generalizing n t with
  | nil =>
      rw [List.nil_append, List.isChain_cons_cons] at h
      rcases h.1 with ⟨hnumber, htime⟩
      refine ⟨hnumber, ?_⟩
      simpa [totalDelay] using htime
  | cons e rest ih =>
      rw [List.cons_append, List.isChain_cons_cons] at h
      cases e with
      | success =>
          exact absurd List.mem_cons_self hbetween
      | attempt k v =>
          rcases h.1 with ⟨rfl, hv⟩
          rcases ih h.2 (fun hmem => hbetween (List.mem_cons_of_mem _ hmem)) with ⟨hm, hu⟩
          rw [List.length_cons]
          refine ⟨by omega, ?_⟩
          rw [totalDelay, Nat.cast_add]
          linarith

theorem BackedOff.totalDelay_le {delay : Nat -> Nat} {n m : Nat} {t u : ℚ}
    {front between back : List RetryEvent}
    (h : BackedOff delay (front ++ .attempt n t :: (between ++ .attempt m u :: back)))
    (hbetween : .success ∉ between) :
    m = n + 1 + between.length ∧ t + totalDelay delay n (between.length + 1) ≤ u := by
  unfold BackedOff at h
  rw [<- List.cons_append, List.isChain_append] at h
  exact chain_totalDelay_le h.2.1 hbetween

theorem BackedOff.starts_at_zero {delay : Nat -> Nat} {front back : List RetryEvent} {n : Nat}
    {t : ℚ} (h : BackedOff delay (front ++ .attempt n t :: back))
    (hfront : front = [] ∨ exists earlier, front = earlier ++ [.success]) : n = 0 := by
  unfold BackedOff at h
  rcases hfront with rfl | ⟨earlier, rfl⟩
  · exact (List.isChain_cons_cons.mp h).1
  · rw [List.append_assoc, List.singleton_append, <- List.cons_append, List.isChain_append] at h
    exact (List.isChain_cons_cons.mp h.2.1).1

end Foundation
end Shamarx
