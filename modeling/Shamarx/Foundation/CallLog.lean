import Mathlib.Data.List.Perm.Basic

/-!
# Logged calls

The calls a component has made to another one, in the order it made them, each
with its argument and, once it has settled, its result.
-/

namespace Shamarx
namespace Foundation

/-- How a database call ends: done, done with its answer lost, or not done. -/
inductive WriteResult where
  | ok
  | lost (message : String)
  | failed (message : String)
  deriving DecidableEq

def WriteResult.landed : WriteResult -> Bool
  | .failed _ => false
  | _ => true

def WriteResult.message : WriteResult -> Option String
  | .ok => none
  | .lost message => some message
  | .failed message => some message

structure LoggedCall (arg result : Type) where
  arg : arg
  result : Option result

abbrev CallLog (arg result : Type) : Type :=
  List (LoggedCall arg result)

namespace CallLog

variable {arg result effect : Type}

def start (calls : CallLog arg result) (a : arg) : CallLog arg result :=
  calls ++ [{ arg := a, result := none }]

def pending (calls : CallLog arg result) (id : Nat) : Option arg :=
  match calls[id]? with
  | some { arg := a, result := none } => some a
  | _ => none

def settle (calls : CallLog arg result) (id : Nat) (r : result) : CallLog arg result :=
  match calls.pending id with
  | some a => calls.set id { arg := a, result := some r }
  | none => calls

def args (calls : CallLog arg result) : List arg :=
  calls.map LoggedCall.arg

def effects (f : arg -> result -> List effect) (calls : CallLog arg result) : List effect :=
  calls.flatMap fun c => (c.result.map (f c.arg)).getD []

@[simp] theorem args_start (calls : CallLog arg result) (a : arg) :
    (calls.start a).args = calls.args ++ [a] := by
  simp [start, args]

theorem pending_eq_some {calls : CallLog arg result} {id : Nat} {a : arg}
    (h : calls.pending id = some a) : calls[id]? = some { arg := a, result := none } := by
  unfold pending at h
  split at h
  · next hcall =>
      cases h
      exact hcall
  · cases h

theorem settle_of_pending {calls : CallLog arg result} {id : Nat} {a : arg} (r : result)
    (h : calls.pending id = some a) :
    calls.settle id r = calls.set id { arg := a, result := some r } := by
  rw [settle, h]

theorem settle_of_not_pending {calls : CallLog arg result} {id : Nat} (r : result)
    (h : calls.pending id = none) : calls.settle id r = calls := by
  rw [settle, h]

@[simp] theorem args_settle (calls : CallLog arg result) (id : Nat) (r : result) :
    (calls.settle id r).args = calls.args := by
  cases h : calls.pending id with
  | none =>
      rw [settle_of_not_pending r h]
  | some a =>
      have hcall := pending_eq_some h
      rcases List.getElem?_eq_some_iff.mp hcall with ⟨hlt, hget⟩
      have hlen : id < (calls.map LoggedCall.arg).length := by rwa [List.length_map]
      have harg : a = (calls.map LoggedCall.arg)[id] := by
        rw [List.getElem_map, hget]
      rw [settle_of_pending r h, args, args, List.map_set, harg, List.set_getElem_self]

@[simp] theorem effects_start (f : arg -> result -> List effect) (calls : CallLog arg result)
    (a : arg) : (calls.start a).effects f = calls.effects f := by
  simp [start, effects]

theorem effects_append (f : arg -> result -> List effect) (calls : CallLog arg result)
    (c : LoggedCall arg result) :
    CallLog.effects f (calls ++ [c]) = calls.effects f ++ (c.result.map (f c.arg)).getD [] := by
  simp [effects]

theorem effects_settle (f : arg -> result -> List effect) {calls : CallLog arg result} {id : Nat}
    {a : arg} (r : result) (h : calls.pending id = some a) :
    ((calls.settle id r).effects f).Perm (calls.effects f ++ f a r) := by
  have hcall := pending_eq_some h
  rcases List.getElem?_eq_some_iff.mp hcall with ⟨hlt, hget⟩
  have hsplit : calls = calls.take id ++ { arg := a, result := none } :: calls.drop (id + 1) := by
    rw [← hget, List.getElem_cons_drop, List.take_append_drop]
  have hset : calls.set id { arg := a, result := some r } =
      calls.take id ++ { arg := a, result := some r } :: calls.drop (id + 1) := by
    rw [List.set_eq_take_append_cons_drop, if_pos hlt]
  have hbefore : calls.effects f =
      CallLog.effects f (calls.take id) ++ CallLog.effects f (calls.drop (id + 1)) := by
    conv_lhs => rw [hsplit]
    simp [effects]
  rw [settle_of_pending r h, hset, hbefore]
  simp only [effects, List.flatMap_append, List.flatMap_cons, Option.map_some, Option.getD_some,
    List.append_assoc]
  exact (List.perm_append_comm.append_left _)

/-!
# The calls that have not settled
-/

theorem pending_lt {calls : CallLog arg result} {id : Nat} {a : arg}
    (h : calls.pending id = some a) : id < List.length calls :=
  (List.getElem?_eq_some_iff.mp (pending_eq_some h)).1

theorem pending_append_of_lt {calls : CallLog arg result} {id : Nat} (h : id < List.length calls)
    (c : LoggedCall arg result) : CallLog.pending (calls ++ [c]) id = calls.pending id := by
  unfold pending
  rw [List.getElem?_append_left h]

theorem pending_start_self (calls : CallLog arg result) (a : arg) :
    (calls.start a).pending (List.length calls) = some a := by
  unfold pending start
  rw [List.getElem?_concat_length]

theorem pending_append {calls : CallLog arg result} {c : LoggedCall arg result} {id : Nat} {a : arg}
    (h : CallLog.pending (calls ++ [c]) id = some a) :
    calls.pending id = some a ∨ (id = List.length calls ∧ c = { arg := a, result := none }) := by
  by_cases hlt : id < List.length calls
  · rw [pending_append_of_lt hlt] at h
    exact Or.inl h
  · have hbound := pending_lt h
    rw [List.length_append, List.length_singleton] at hbound
    have hid : id = List.length calls := by omega
    subst hid
    have hcall := pending_eq_some h
    rw [List.getElem?_concat_length] at hcall
    exact Or.inr ⟨rfl, Option.some.inj hcall⟩

theorem pending_settle_of_ne {calls : CallLog arg result} {id other : Nat} (r : result)
    (h : other ≠ id) : (calls.settle id r).pending other = calls.pending other := by
  cases hcall : calls.pending id with
  | none =>
      rw [settle_of_not_pending r hcall]
  | some a =>
      rw [settle_of_pending r hcall]
      unfold pending
      rw [List.getElem?_set_ne (Ne.symm h)]

theorem pending_settle_self {calls : CallLog arg result} {id : Nat} {a : arg} (r : result)
    (h : calls.pending id = some a) : (calls.settle id r).pending id = none := by
  rw [settle_of_pending r h]
  unfold pending
  rw [List.getElem?_set_self (pending_lt h)]

theorem mem_settle {calls : CallLog arg result} {id : Nat} {a : arg} {r : result}
    (h : calls.pending id = some a) {c : LoggedCall arg result} (hc : c ∈ calls.settle id r) :
    c ∈ calls ∨ c = { arg := a, result := some r } := by
  rw [settle_of_pending r h] at hc
  exact List.mem_or_eq_of_mem_set hc

theorem mem_settle_of_settled {calls : CallLog arg result} {id : Nat} {r : result}
    {c : LoggedCall arg result} (hc : c ∈ calls) (hsettled : c.result ≠ none) :
    c ∈ calls.settle id r := by
  cases h : calls.pending id with
  | none =>
      rw [settle_of_not_pending r h]
      exact hc
  | some a =>
      rw [settle_of_pending r h]
      rcases List.getElem?_of_mem hc with ⟨i, hi⟩
      have hne : id ≠ i := by
        rintro rfl
        rw [pending_eq_some h] at hi
        cases hi
        exact hsettled rfl
      refine List.mem_of_getElem? (i := i) ?_
      rw [List.getElem?_set_ne hne]
      exact hi

theorem mem_settle_self {calls : CallLog arg result} {id : Nat} {a : arg} (r : result)
    (h : calls.pending id = some a) :
    ({ arg := a, result := some r } : LoggedCall arg result) ∈ calls.settle id r := by
  rw [settle_of_pending r h]
  exact List.mem_set (pending_lt h) _

end CallLog
end Foundation
end Shamarx
