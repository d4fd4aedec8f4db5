import Mathlib.Data.List.Range
import Mathlib.Data.List.Perm.Subperm
import Shamarx.Foundation.InsertionMap

/-!
# Terminal registry

The slots of the terminal fleet: one port for each account, as many as the host
may run.  A new account takes the first port of the range that no slot uses.
-/

namespace Shamarx
namespace Fleet

open Foundation

structure FleetConfig where
  basePort : Nat
  maxTerminals : Nat

abbrev Slots := InsertionMap String Nat

/-- `RuntimeError('fleet full')`, or the `StopIteration` of an exhausted range. -/
inductive AllocateError where
  | fleetFull
  | noPort
  deriving DecidableEq, Repr

def allocate (cfg : FleetConfig) (slots : Slots) (accountId : String) :
    Except AllocateError (Slots × Nat) :=
  match slots.get accountId with
  | some port => .ok (slots, port)
  | none =>
      if cfg.maxTerminals ≤ slots.length then .error .fleetFull
      else
        match (List.range' cfg.basePort (cfg.maxTerminals * 2)).find? fun p =>
            decide (p ∉ slots.map Prod.snd) with
        | some port => .ok (slots.set accountId port, port)
        | none => .error .noPort

structure SoundSlots (cfg : FleetConfig) (slots : Slots) : Prop where
  bounded : slots.length ≤ cfg.maxTerminals
  accounts : (slots.map Prod.fst).Nodup
  ports : (slots.map Prod.snd).Nodup

theorem soundSlots_nil (cfg : FleetConfig) : SoundSlots cfg [] :=
  ⟨Nat.zero_le _, List.nodup_nil, List.nodup_nil⟩

theorem exists_free_port (basePort n : Nat) {used : List Nat} (h : used.length < n) :
    exists port, port ∈ List.range' basePort n ∧ port ∉ used := by
  by_contra hnone
  push Not at hnone
  have hsub : (List.range' basePort n).Subperm used :=
    List.subperm_of_subset List.nodup_range' hnone
  have hlength := hsub.length_le
  rw [List.length_range'] at hlength
  omega

theorem allocate_ok {cfg : FleetConfig} {slots slots' : Slots} {accountId : String} {port : Nat}
    (h : allocate cfg slots accountId = .ok (slots', port)) :
    (slots.get accountId = some port ∧ slots' = slots) ∨
      (slots.get accountId = none ∧ slots' = slots.set accountId port ∧
        slots.length < cfg.maxTerminals ∧ port ∉ slots.map Prod.snd) := by
  unfold allocate at h
  split at h
  · next known hknown =>
      cases h
      exact Or.inl ⟨hknown, rfl⟩
  · next hnew =>
      split_ifs at h with hfull
      split at h
      · next free hfind =>
          cases h
          have hunused := List.find?_some hfind
          exact Or.inr ⟨hnew, rfl, Nat.lt_of_not_le hfull, of_decide_eq_true hunused⟩
      · cases h

theorem allocate_error {cfg : FleetConfig} {slots : Slots} {accountId : String}
    {e : AllocateError} (h : allocate cfg slots accountId = .error e) :
    slots.get accountId = none ∧ cfg.maxTerminals ≤ (slots.erase accountId).length := by
  unfold allocate at h
  split at h
  · cases h
  · next hnew =>
      refine ⟨hnew, ?_⟩
      rw [InsertionMap.erase_of_get_none hnew]
      by_contra hroom
      rw [if_neg hroom] at h
      have hused : (slots.map Prod.snd).length < cfg.maxTerminals * 2 := by
        rw [List.length_map]
        omega
      rcases exists_free_port cfg.basePort _ hused with ⟨port, hrange, hunused⟩
      split at h
      · cases h
      · next hnone =>
          rw [List.find?_eq_none] at hnone
          exact hnone port hrange (decide_eq_true hunused)

theorem allocate_slots_eq_iff {cfg : FleetConfig} {slots slots' : Slots} {accountId : String}
    {port : Nat} (h : allocate cfg slots accountId = .ok (slots', port)) :
    slots' = slots ↔ (slots.get accountId).isSome := by
  rcases allocate_ok h with ⟨hknown, hsame⟩ | ⟨hnew, hset, -, -⟩
  · exact iff_of_true hsame (by rw [hknown]; rfl)
  · refine iff_of_false ?_ (by rw [hnew]; simp)
    intro heq
    have hget := InsertionMap.get_set_self slots accountId port
    rw [← hset, heq, hnew] at hget
    cases hget

theorem allocate_erase_eq_iff {cfg : FleetConfig} {slots slots' : Slots} {accountId : String}
    {port : Nat} (h : allocate cfg slots accountId = .ok (slots', port)) :
    slots'.erase accountId = slots ↔ slots.get accountId = none := by
  rcases allocate_ok h with ⟨hknown, rfl⟩ | ⟨hnew, rfl, -, -⟩
  · exact iff_of_false (InsertionMap.erase_ne_of_get hknown) (by rw [hknown]; simp)
  · exact iff_of_true (InsertionMap.erase_set_of_get_none hnew port) hnew

theorem SoundSlots.allocate {cfg : FleetConfig} {slots slots' : Slots} {accountId : String}
    {port : Nat} (h : SoundSlots cfg slots)
    (hok : Fleet.allocate cfg slots accountId = .ok (slots', port)) : SoundSlots cfg slots' := by
  rcases allocate_ok hok with ⟨-, rfl⟩ | ⟨hnew, rfl, hroom, hunused⟩
  · exact h
  · have happend := InsertionMap.set_of_get_none hnew port
    constructor
    · rw [happend, List.length_append, List.length_singleton]
      omega
    · exact InsertionMap.nodup_set h.accounts accountId port
    · rw [happend, List.map_append, List.map_singleton, List.nodup_append]
      refine ⟨h.ports, by simp, ?_⟩
      intro used hused other hother
      rw [List.mem_singleton] at hother
      rintro rfl
      rw [hother] at hused
      exact hunused hused

theorem SoundSlots.erase {cfg : FleetConfig} {slots : Slots} (h : SoundSlots cfg slots)
    (accountId : String) : SoundSlots cfg (slots.erase accountId) :=
  have hsub := InsertionMap.erase_sublist slots accountId
  { bounded := hsub.length_le.trans h.bounded
    accounts := h.accounts.sublist (hsub.map Prod.fst)
    ports := h.ports.sublist (hsub.map Prod.snd) }

end Fleet
end Shamarx
