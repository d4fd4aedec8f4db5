import Mathlib.Data.List.Basic

/-!
# Calls in flight

Asynchronous calls of one process interleave at their awaits.  Each call in
flight has a number and a phase, and a step of the system moves one call on.
-/

namespace Shamarx
namespace Foundation

def InFlight (phase : Type) : Type :=
  Nat -> Option phase

namespace InFlight

variable {phase : Type}

def empty : InFlight phase := fun _ => none

def put (calls : InFlight phase) (id : Nat) (p : phase) : InFlight phase := fun i =>
  if i = id then some p else calls i

def drop (calls : InFlight phase) (id : Nat) : InFlight phase := fun i =>
  if i = id then none else calls i

@[simp] theorem put_self (calls : InFlight phase) (id : Nat) (p : phase) :
    calls.put id p id = some p := if_pos rfl

theorem put_of_ne (calls : InFlight phase) {id other : Nat} (p : phase) (h : other ≠ id) :
    calls.put id p other = calls other := if_neg h

@[simp] theorem drop_self (calls : InFlight phase) (id : Nat) : calls.drop id id = none :=
  if_pos rfl

theorem drop_of_ne (calls : InFlight phase) {id other : Nat} (h : other ≠ id) :
    calls.drop id other = calls other := if_neg h

theorem put_cases {calls : InFlight phase} {id other : Nat} {p q : phase}
    (h : calls.put id p other = some q) :
    (other = id ∧ q = p) ∨ (other ≠ id ∧ calls other = some q) := by
  by_cases heq : other = id
  · rw [heq, put_self] at h
    exact Or.inl ⟨heq, (Option.some.inj h).symm⟩
  · rw [put_of_ne calls p heq] at h
    exact Or.inr ⟨heq, h⟩

theorem drop_cases {calls : InFlight phase} {id other : Nat} {q : phase}
    (h : calls.drop id other = some q) : other ≠ id ∧ calls other = some q := by
  by_cases heq : other = id
  · rw [heq, drop_self] at h
    cases h
  · rw [drop_of_ne calls heq] at h
    exact ⟨heq, h⟩

def Forall (P : Nat -> phase -> Prop) (calls : InFlight phase) : Prop :=
  forall id p, calls id = some p -> P id p

theorem forall_empty (P : Nat -> phase -> Prop) : Forall P empty := by
  intro id p h
  cases h

theorem Forall.put {P : Nat -> phase -> Prop} {calls : InFlight phase} (h : Forall P calls)
    {id : Nat} {p : phase} (hp : P id p) : Forall P (calls.put id p) := by
  intro other q hq
  rcases put_cases hq with ⟨rfl, rfl⟩ | ⟨-, hold⟩
  · exact hp
  · exact h other q hold

theorem Forall.drop {P : Nat -> phase -> Prop} {calls : InFlight phase} (h : Forall P calls)
    (id : Nat) : Forall P (calls.drop id) := by
  intro other q hq
  exact h other q (drop_cases hq).2

theorem Forall.imp {P Q : Nat -> phase -> Prop} {calls : InFlight phase} (h : Forall P calls)
    (hPQ : forall id p, P id p -> Q id p) : Forall Q calls := by
  intro id p hp
  exact hPQ id p (h id p hp)

def Any (P : phase -> Prop) (calls : InFlight phase) : Prop :=
  exists id p, calls id = some p ∧ P p

section Any

variable {P : phase -> Prop} {calls : InFlight phase} {id : Nat} {before : phase}

theorem Any.put_free (h : Any P calls) (hfree : calls id = none) (p : phase) :
    Any P (calls.put id p) := by
  rcases h with ⟨other, q, hother, hP⟩
  have hne : other ≠ id := by
    rintro rfl
    rw [hfree] at hother
    cases hother
  exact ⟨other, q, (put_of_ne calls p hne).trans hother, hP⟩

theorem Any.put {p : phase} (h : Any P calls) (hbefore : calls id = some before)
    (hkeep : P before -> P p) : Any P (calls.put id p) := by
  rcases h with ⟨other, q, hother, hP⟩
  by_cases heq : other = id
  · subst heq
    rw [hbefore] at hother
    cases hother
    exact ⟨other, p, put_self calls other p, hkeep hP⟩
  · exact ⟨other, q, (put_of_ne calls p heq).trans hother, hP⟩

theorem Any.drop (h : Any P calls) (hbefore : calls id = some before) (hnot : ¬ P before) :
    Any P (calls.drop id) := by
  rcases h with ⟨other, q, hother, hP⟩
  have hne : other ≠ id := by
    rintro rfl
    rw [hbefore] at hother
    cases hother
    exact hnot hP
  exact ⟨other, q, (drop_of_ne calls hne).trans hother, hP⟩

theorem any_put_self {P : phase -> Prop} (calls : InFlight phase) (id : Nat) {p : phase}
    (hp : P p) : Any P (calls.put id p) :=
  ⟨id, p, put_self calls id p, hp⟩

end Any

/-!
# Messages to calls
-/

def modify (calls : InFlight phase) (id : Nat) (change : phase -> phase) : InFlight phase :=
  fun i => if i = id then (calls i).map change else calls i

def modifyAll (calls : InFlight phase) (ids : List Nat) (change : phase -> phase) :
    InFlight phase :=
  ids.foldl (fun calls id => calls.modify id change) calls

@[simp] theorem modify_self (calls : InFlight phase) (id : Nat) (change : phase -> phase) :
    calls.modify id change id = (calls id).map change := if_pos rfl

theorem modify_of_ne (calls : InFlight phase) {id other : Nat} (change : phase -> phase)
    (h : other ≠ id) : calls.modify id change other = calls other := if_neg h

theorem modifyAll_of_notMem (calls : InFlight phase) {ids : List Nat} {id : Nat}
    (change : phase -> phase) (h : id ∉ ids) : calls.modifyAll ids change id = calls id := by
  induction ids generalizing calls with
  | nil =>
      rfl
  | cons first rest ih =>
      rw [List.mem_cons, not_or] at h
      exact (ih (calls.modify first change) h.2).trans (modify_of_ne calls change h.1)

theorem modifyAll_of_mem (calls : InFlight phase) {ids : List Nat} {id : Nat}
    (change : phase -> phase) (hnodup : ids.Nodup) (h : id ∈ ids) :
    calls.modifyAll ids change id = (calls id).map change := by
  induction ids generalizing calls with
  | nil =>
      cases h
  | cons first rest ih =>
      rw [List.nodup_cons] at hnodup
      change (calls.modify first change).modifyAll rest change id = _
      rcases List.mem_cons.mp h with heq | hrest
      · subst heq
        rw [modifyAll_of_notMem _ change hnodup.1, modify_self]
      · have hne : id ≠ first := by
          intro heq
          exact hnodup.1 (heq ▸ hrest)
        rw [ih _ hnodup.2 hrest, modify_of_ne calls change hne]

/-!
# One call for each key
-/

def Distinct (key : phase -> index) (calls : InFlight phase) : Prop :=
  forall i x j y, calls i = some x -> calls j = some y -> key x = key y -> i = j

section Distinct

variable {key : phase -> index} {calls : InFlight phase} {id : Nat} {p : phase}

theorem distinct_empty (key : phase -> index) : Distinct key empty := by
  intro i x j y hi
  cases hi

theorem Distinct.drop (h : Distinct key calls) (id : Nat) : Distinct key (calls.drop id) := by
  intro i x j y hi hj
  exact h i x j y (drop_cases hi).2 (drop_cases hj).2

theorem Distinct.put (h : Distinct key calls)
    (hnew : forall other q, other ≠ id -> calls other = some q -> key q ≠ key p) :
    Distinct key (calls.put id p) := by
  intro i x j y hi hj hsame
  rcases put_cases hi with ⟨hid, rfl⟩ | ⟨hid, hiold⟩
  · rcases put_cases hj with ⟨hjd, -⟩ | ⟨hjd, hjold⟩
    · rw [hid, hjd]
    · exact absurd hsame.symm (hnew j y hjd hjold)
  · rcases put_cases hj with ⟨-, rfl⟩ | ⟨-, hjold⟩
    · exact absurd hsame (hnew i x hid hiold)
    · exact h i x j y hiold hjold hsame

theorem Distinct.put_same (h : Distinct key calls) {before : phase}
    (hbefore : calls id = some before) (hkey : key p = key before) :
    Distinct key (calls.put id p) := by
  apply h.put
  intro other q hne hq hsame
  exact hne (h other q id before hq hbefore (hsame.trans hkey))

end Distinct

/-!
# At most one call
-/

def Alone (calls : InFlight phase) : Prop :=
  Distinct (fun _ => ()) calls

section Alone

variable {calls : InFlight phase} {id : Nat} {p : phase}

theorem alone_put_empty (h : forall i, calls i = none) (id : Nat) (p : phase) :
    Alone (calls.put id p) := by
  apply Distinct.put
  · intro i x j y hi
    rw [h i] at hi
    cases hi
  · intro other q _ hq
    rw [h other] at hq
    cases hq

theorem Alone.put (h : Alone calls) {before : phase} (hbefore : calls id = some before) :
    Alone (calls.put id p) :=
  Distinct.put_same h hbefore rfl

theorem Alone.drop (h : Alone calls) (id : Nat) : Alone (calls.drop id) :=
  Distinct.drop h id

theorem Alone.forall_put {P : Nat -> phase -> Prop} (h : Alone calls) {before : phase}
    (hbefore : calls id = some before) (hp : P id p) : Forall P (calls.put id p) := by
  intro other q hq
  rcases put_cases hq with ⟨rfl, rfl⟩ | ⟨hne, hold⟩
  · exact hp
  · exact absurd (h other q id before hold hbefore rfl) hne

theorem Alone.drop_eq_none (h : Alone calls) (hp : calls id = some p) (other : Nat) :
    calls.drop id other = none := by
  cases hother : calls.drop id other with
  | none =>
      rfl
  | some q =>
      rcases drop_cases hother with ⟨hne, hold⟩
      exact absurd (h other q id p hold hp rfl) hne

end Alone

/-!
# What the phases show
-/

theorem drop_absent {calls : InFlight phase} {id : Nat} (h : calls id = none) :
    calls.drop id = calls := by
  funext other
  by_cases heq : other = id
  · subst heq
    rw [drop_self, h]
  · exact drop_of_ne calls heq

def view (f : phase -> Option part) (calls : InFlight phase) : InFlight part := fun id =>
  (calls id).bind f

section View

variable {f : phase -> Option part} {calls : InFlight phase} {id : Nat}

theorem view_eq {p : phase} (h : calls id = some p) : calls.view f id = f p := by
  rw [view, h, Option.bind_some]

theorem view_absent (h : calls id = none) : calls.view f id = none := by
  rw [view, h, Option.bind_none]

theorem view_put {p : phase} {x : part} (h : f p = some x) :
    (calls.put id p).view f = (calls.view f).put id x := by
  funext other
  by_cases heq : other = id
  · subst heq
    rw [put_self, view_eq (put_self calls other p), h]
  · rw [put_of_ne _ x heq, view, put_of_ne calls p heq]
    rfl

theorem view_put_none {p : phase} (h : f p = none) :
    (calls.put id p).view f = (calls.view f).drop id := by
  funext other
  by_cases heq : other = id
  · subst heq
    rw [drop_self, view_eq (put_self calls other p), h]
  · rw [drop_of_ne _ heq, view, put_of_ne calls p heq]
    rfl

theorem view_put_same {p : phase} (h : f p = calls.view f id) :
    (calls.put id p).view f = calls.view f := by
  funext other
  by_cases heq : other = id
  · subst heq
    rw [view_eq (put_self calls other p), h]
  · rw [view, put_of_ne calls p heq]
    rfl

theorem view_drop : (calls.drop id).view f = (calls.view f).drop id := by
  funext other
  by_cases heq : other = id
  · subst heq
    rw [drop_self, view_absent (drop_self calls other)]
  · rw [drop_of_ne _ heq, view, drop_of_ne calls heq]
    rfl

end View

end InFlight
end Foundation
end Shamarx
