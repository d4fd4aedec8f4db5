import Shamarx.Foundation.InFlight
import Shamarx.Foundation.Runs
import Mathlib.Tactic.SplitIfs

/-!
# The orchestrator registry of one account

`LiveSmcOrchestratorRegistry` creates an account's orchestrator on first use and
evicts it five minutes after the account is disabled.  The map holds one eviction
timer for the account, and a use of the orchestrator clears that timer.
-/

namespace Shamarx
namespace Live
namespace OrchestratorRegistry

open Foundation

/-!
# The registry
-/

def evictAfterMs : Nat :=
  5 * 60000

/-- A timer of `setTimeout`.  `uses` counts the calls of `getOrCreate` before the call
of `removeIfDisabled` that set it. -/
structure EvictTimer where
  id : Nat
  due : Nat
  uses : Nat
  deriving DecidableEq

inductive RedisCall where
  | removing (uses : Nat)
  | persisting

/-- The entries of the account in `instances`, `evictTimers` and `creating`, the pending
timers in the order in which they were set, and the calls in flight.  `waiting` callers
await the creation; `obtained` lists what was returned since the last eviction. -/
structure Registry where
  now : Nat
  inst : Option Nat
  evictTimer : Option Nat
  creating : Option Nat
  waiting : Nat
  nextInstance : Nat
  timers : List EvictTimer
  nextTimer : Nat
  calls : InFlight RedisCall
  nextCall : Nat
  uses : Nat
  obtained : List Nat

def Registry.empty : Registry :=
  { now := 0
    inst := none
    evictTimer := none
    creating := none
    waiting := 0
    nextInstance := 0
    timers := []
    nextTimer := 0
    calls := InFlight.empty
    nextCall := 0
    uses := 0
    obtained := [] }

/-- The calls, the end of a restore (a failed restore is logged and starts fresh), the
end of a persist, and the clock with the earliest timer. -/
inductive RegistryOp where
  | getOrCreate
  | restored
  | removeIfDisabled
  | persistAll
  | persisted (call : Nat)
  | persistFails (call : Nat)
  | advance (ms : Nat)
  | fire
  deriving DecidableEq

namespace Registry

def getOrCreate (s : Registry) : Registry :=
  match s.inst with
  | some existing =>
      { s with
        timers :=
          match s.evictTimer with
          | some timer => s.timers.filter fun t => decide (t.id ≠ timer)
          | none => s.timers
        evictTimer := none
        uses := s.uses + 1
        obtained := s.obtained ++ [existing] }
  | none =>
      match s.creating with
      | some _ => { s with waiting := s.waiting + 1, uses := s.uses + 1 }
      | none =>
          { s with
            creating := some s.nextInstance
            nextInstance := s.nextInstance + 1
            waiting := 1
            uses := s.uses + 1 }

/-- The creation settles: all who await it return the instance. -/
def restored (s : Registry) : Registry :=
  match s.creating with
  | some created =>
      { s with
        inst := some created
        creating := none
        waiting := 0
        obtained := s.obtained ++ List.replicate s.waiting created }
  | none => s

def begin (s : Registry) (c : RedisCall) : Registry :=
  { s with calls := s.calls.put s.nextCall c, nextCall := s.nextCall + 1 }

def removeIfDisabled (s : Registry) : Registry :=
  match s.inst with
  | some _ => s.begin (.removing s.uses)
  | none => s

def setTimer (s : Registry) (uses : Nat) : Registry :=
  { s with
    timers := s.timers ++ [{ id := s.nextTimer, due := s.now + evictAfterMs, uses := uses }]
    evictTimer := some s.nextTimer
    nextTimer := s.nextTimer + 1 }

def persisted (s : Registry) (call : Nat) : Registry :=
  match s.calls call with
  | some (.removing uses) => { s.setTimer uses with calls := s.calls.drop call }
  | some .persisting => { s with calls := s.calls.drop call }
  | none => s

def fire (s : Registry) : Registry :=
  match s.timers with
  | timer :: rest =>
      if timer.due ≤ s.now then
        { s with
          timers := rest
          inst := none
          evictTimer := none
          obtained := match s.inst with
            | some _ => []
            | none => s.obtained }
      else s
  | [] => s

end Registry

def registryStep (s : Registry) : RegistryOp -> Registry
  | .getOrCreate => s.getOrCreate
  | .restored => s.restored
  | .removeIfDisabled => s.removeIfDisabled
  | .persistAll => s.begin .persisting
  | .persisted call => s.persisted call
  | .persistFails call => { s with calls := s.calls.drop call }
  | .advance ms => { s with now := s.now + ms }
  | .fire => s.fire

/-- All who obtained an instance since the last eviction hold the one of the map. -/
def OneInstance (s : Registry) : Prop :=
  forall i, i ∈ s.obtained -> s.inst = some i

/-- A timer that fires removes the instance only when it has not been used since the
account was disabled. -/
def EvictsUnused (s : Registry) : RegistryOp -> Prop
  | .fire =>
      match s.timers, s.inst with
      | timer :: _, some _ => timer.due ≤ s.now -> timer.uses = s.uses
      | _, _ => True
  | _ => True

instance (s : Registry) (op : RegistryOp) : Decidable (EvictsUnused s op) := by
  unfold EvictsUnused
  repeat' split
  all_goals infer_instance

/-- A timer is set only while no other is pending, with the instance still there and not
used since the call started. -/
def SetsLoneTimer (s : Registry) : RegistryOp -> Prop
  | .persisted call =>
      match s.calls call with
      | some (.removing uses) => s.inst ≠ none ∧ uses = s.uses ∧ s.timers = []
      | _ => True
  | _ => True

instance (s : Registry) (op : RegistryOp) : Decidable (SetsLoneTimer s op) := by
  unfold SetsLoneTimer
  repeat' split
  all_goals infer_instance

/-!
# One instance
-/

section OneInstance

variable {s : Registry}

/-- While an instance is being created there is none, and nobody holds one. -/
structure InstanceInv (s : Registry) : Prop where
  one : OneInstance s
  creating : s.creating ≠ none -> s.inst = none

theorem getOrCreate_instanceInv (h : InstanceInv s) : InstanceInv s.getOrCreate := by
  unfold Registry.getOrCreate
  split
  · next existing hinst =>
      constructor
      · intro i hi
        rcases List.mem_append.mp hi with hold | hnew
        · exact h.one i hold
        · rw [List.mem_singleton.mp hnew]
          exact hinst
      · exact h.creating
  · next hinst =>
      split
      · exact ⟨h.one, fun _ => hinst⟩
      · exact ⟨h.one, fun _ => hinst⟩

theorem restored_instanceInv (h : InstanceInv s) : InstanceInv s.restored := by
  unfold Registry.restored
  split
  · next created hcreating =>
      have hnone : s.inst = none := h.creating (by rw [hcreating]; exact Option.some_ne_none _)
      constructor
      · intro i hi
        rcases List.mem_append.mp hi with hold | hnew
        · have hsome := h.one i hold
          rw [hnone] at hsome
          cases hsome
        · rw [List.eq_of_mem_replicate hnew]
      · intro hsome
        exact absurd rfl hsome
  · exact h

theorem fire_instanceInv (h : InstanceInv s) : InstanceInv s.fire := by
  unfold Registry.fire
  split
  · next timer rest _ =>
      split_ifs
      · refine ⟨?_, fun _ => rfl⟩
        intro i hi
        cases hinst : s.inst with
        | some existing =>
            rw [hinst] at hi
            cases hi
        | none =>
            rw [hinst] at hi
            have hsome := h.one i hi
            rw [hinst] at hsome
            cases hsome
      · exact h
  · exact h

theorem registryStep_instanceInv (h : InstanceInv s) (op : RegistryOp) :
    InstanceInv (registryStep s op) := by
  cases op with
  | getOrCreate => exact getOrCreate_instanceInv h
  | restored => exact restored_instanceInv h
  | removeIfDisabled =>
      simp only [registryStep, Registry.removeIfDisabled]
      split <;> exact ⟨h.one, h.creating⟩
  | persistAll => exact ⟨h.one, h.creating⟩
  | persisted call =>
      simp only [registryStep, Registry.persisted]
      split <;> exact ⟨h.one, h.creating⟩
  | persistFails call => exact ⟨h.one, h.creating⟩
  | advance ms => exact ⟨h.one, h.creating⟩
  | fire => exact fire_instanceInv h

end OneInstance

/-!
# Timers in order
-/

section Timers

variable {s : Registry}

/-- The pending timer, if any, is the one of the map, and the instance has not been used
since. -/
def LoneTimer (s : Registry) : Prop :=
  s.timers = [] ∨ exists timer, s.timers = [timer] ∧ s.evictTimer = some timer.id ∧
    s.inst ≠ none ∧ timer.uses = s.uses

theorem getOrCreate_loneTimer (h : LoneTimer s) : LoneTimer s.getOrCreate := by
  unfold Registry.getOrCreate
  rcases h with hnone | ⟨timer, htimers, hstored, hinst, -⟩
  · left
    split
    · dsimp only
      split
      · rw [hnone, List.filter_nil]
      · exact hnone
    · split <;> exact hnone
  · left
    split
    · dsimp only
      rw [hstored, htimers]
      dsimp only
      rw [List.filter_cons_of_neg (by simp), List.filter_nil]
    · next hexisting => exact absurd hexisting hinst

theorem fire_loneTimer (h : LoneTimer s) : LoneTimer s.fire := by
  unfold Registry.fire
  rcases h with hnone | ⟨timer, htimers, hrest⟩
  · rw [hnone]
    exact Or.inl hnone
  · rw [htimers]
    dsimp only
    split_ifs
    · exact Or.inl rfl
    · exact Or.inr ⟨timer, htimers, hrest⟩

theorem registryStep_loneTimer (h : LoneTimer s) {op : RegistryOp} (hop : SetsLoneTimer s op)
    (hcreating : s.creating ≠ none -> s.inst = none) : LoneTimer (registryStep s op) := by
  cases op with
  | getOrCreate => exact getOrCreate_loneTimer h
  | restored =>
      simp only [registryStep, Registry.restored]
      split
      · next created heq =>
          rcases h with hnone | ⟨timer, htimers, hstored, hinst, -⟩
          · exact Or.inl hnone
          · exact absurd (hcreating (by rw [heq]; exact Option.some_ne_none _)) hinst
      · exact h
  | removeIfDisabled =>
      simp only [registryStep, Registry.removeIfDisabled]
      split <;> exact h
  | persistAll => exact h
  | persisted call =>
      simp only [registryStep, Registry.persisted]
      split
      · next uses hcall =>
          simp only [SetsLoneTimer, hcall] at hop
          rcases hop with ⟨hinst, huses, htimers⟩
          right
          refine ⟨{ id := s.nextTimer, due := s.now + evictAfterMs, uses := uses }, ?_, rfl, hinst,
            huses⟩
          simp only [Registry.setTimer, htimers, List.nil_append]
      · exact h
      · exact h
  | persistFails call => exact h
  | advance ms => exact h
  | fire => exact fire_loneTimer h

theorem evictsUnused_of_loneTimer (h : LoneTimer s) (op : RegistryOp) : EvictsUnused s op := by
  cases op with
  | fire =>
      simp only [EvictsUnused]
      split
      · next timer rest existing htimers _ =>
          intro _
          rcases h with hnone | ⟨lone, hlone, -, -, huses⟩
          · rw [htimers] at hnone
            cases hnone
          · rw [htimers] at hlone
            cases hlone
            exact huses
      · trivial
  | _ => trivial

end Timers

/-!
# A timer too many
-/

section Eviction

variable {s : Registry}

/-- Timers and calls have counted no use that is still to come. -/
structure CountInv (s : Registry) : Prop where
  timers : forall t, t ∈ s.timers -> t.id < s.nextTimer ∧ t.uses ≤ s.uses
  calls : forall call uses, s.calls call = some (.removing uses) -> uses ≤ s.uses

theorem getOrCreate_countInv (h : CountInv s) : CountInv s.getOrCreate := by
  have hcalls : forall call uses, s.calls call = some (.removing uses) -> uses ≤ s.uses + 1 :=
    fun call uses hcall => Nat.le_succ_of_le (h.calls call uses hcall)
  have htimers : forall t, t ∈ s.timers -> t.id < s.nextTimer ∧ t.uses ≤ s.uses + 1 :=
    fun t ht => ⟨(h.timers t ht).1, Nat.le_succ_of_le (h.timers t ht).2⟩
  unfold Registry.getOrCreate
  split
  · refine ⟨?_, hcalls⟩
    intro t ht
    dsimp only at ht
    split at ht
    · exact htimers t (List.mem_of_mem_filter ht)
    · exact htimers t ht
  · split <;> exact ⟨htimers, hcalls⟩

theorem begin_countInv (h : CountInv s) {c : RedisCall}
    (hc : forall uses, c = .removing uses -> uses ≤ s.uses) : CountInv (s.begin c) := by
  refine ⟨h.timers, ?_⟩
  intro call uses hcall
  rcases InFlight.put_cases hcall with ⟨-, heq⟩ | ⟨-, hold⟩
  · exact hc uses heq.symm
  · exact h.calls call uses hold

theorem drop_countInv (h : CountInv s) (call : Nat) :
    CountInv { s with calls := s.calls.drop call } :=
  ⟨h.timers, fun other uses hcall => h.calls other uses (InFlight.drop_cases hcall).2⟩

theorem setTimer_countInv (h : CountInv s) {uses : Nat} (huses : uses ≤ s.uses) :
    CountInv (s.setTimer uses) := by
  refine ⟨?_, h.calls⟩
  intro t ht
  rcases List.mem_append.mp ht with hold | hnew
  · exact ⟨Nat.lt_succ_of_lt (h.timers t hold).1, (h.timers t hold).2⟩
  · rw [List.mem_singleton.mp hnew]
    exact ⟨Nat.lt_succ_self _, huses⟩

theorem registryStep_countInv (h : CountInv s) (op : RegistryOp) :
    CountInv (registryStep s op) := by
  cases op with
  | getOrCreate => exact getOrCreate_countInv h
  | restored =>
      simp only [registryStep, Registry.restored]
      split <;> exact ⟨h.timers, h.calls⟩
  | removeIfDisabled =>
      simp only [registryStep, Registry.removeIfDisabled]
      split
      · apply begin_countInv h
        intro uses heq
        cases heq
        exact Nat.le_refl _
      · exact h
  | persistAll =>
      apply begin_countInv h
      intro uses heq
      cases heq
  | persisted call =>
      simp only [registryStep, Registry.persisted]
      split
      · next uses hcall =>
          exact drop_countInv (setTimer_countInv h (h.calls call uses hcall)) call
      · exact drop_countInv h call
      · exact h
  | persistFails call => exact drop_countInv h call
  | advance ms => exact ⟨h.timers, h.calls⟩
  | fire =>
      simp only [registryStep, Registry.fire]
      split
      · next timer rest htimers =>
          split_ifs
          · refine ⟨?_, h.calls⟩
            intro t ht
            apply h.timers
            rw [htimers]
            exact List.mem_cons_of_mem _ ht
          · exact h
      · exact h

/-- The earliest timer was set before the last use: it evicts an instance in use. -/
theorem evicts_used {timer : EvictTimer} {rest : List EvictTimer} {existing : Nat}
    (htimers : s.timers = timer :: rest) (hinst : s.inst = some existing)
    (huses : timer.uses ≠ s.uses) :
    ¬ EveryStep registryStep EvictsUnused s [.advance timer.due, .fire] := by
  rintro ⟨-, hfire, -⟩
  simp only [EvictsUnused, registryStep, htimers, hinst] at hfire
  exact huses (hfire (Nat.le_add_left _ _))

theorem restored_timers (s : Registry) :
    s.restored.timers = s.timers ∧ s.restored.uses = s.uses := by
  unfold Registry.restored
  split <;> exact ⟨rfl, rfl⟩

theorem restored_inst (h : s.inst ≠ none ∨ s.creating ≠ none) :
    exists existing, s.restored.inst = some existing := by
  unfold Registry.restored
  split
  · next created _ => exact ⟨created, rfl⟩
  · next hcreating =>
      rcases h with hinst | hsome
      · exact Option.ne_none_iff_exists'.mp hinst
      · exact absurd hcreating hsome

theorem getOrCreate_inst (s : Registry) :
    s.getOrCreate.inst ≠ none ∨ s.getOrCreate.creating ≠ none := by
  unfold Registry.getOrCreate
  split
  · next existing hinst =>
      left
      dsimp only
      rw [hinst]
      exact Option.some_ne_none _
  · split
    · next created hcreating =>
        right
        dsimp only
        rw [hcreating]
        exact Option.some_ne_none _
    · exact Or.inr (Option.some_ne_none _)

theorem getOrCreate_timers {timer : EvictTimer} {rest : List EvictTimer}
    (htimers : s.timers = timer :: rest)
    (hkept : s.inst = none ∨ s.evictTimer ≠ some timer.id) :
    (exists rest', s.getOrCreate.timers = timer :: rest') ∧
      s.getOrCreate.uses = s.uses + 1 := by
  unfold Registry.getOrCreate
  split
  · next existing hinst =>
      refine ⟨?_, rfl⟩
      dsimp only
      split
      · next stored hstored =>
          have hne : timer.id ≠ stored := by
            rintro rfl
            rcases hkept with hnone | hother
            · rw [hnone] at hinst
              cases hinst
            · exact hother hstored
          have hkeep : decide (timer.id ≠ stored) = true := decide_eq_true hne
          exact ⟨rest.filter fun t => decide (t.id ≠ stored), by
            rw [htimers, List.filter_cons, if_pos hkeep]⟩
      · exact ⟨rest, htimers⟩
  · split <;> exact ⟨⟨rest, htimers⟩, rfl⟩

theorem evicts_after_use (h : CountInv s) {timer : EvictTimer} {rest : List EvictTimer}
    (htimers : s.timers = timer :: rest)
    (hkept : s.inst = none ∨ s.evictTimer ≠ some timer.id) :
    ¬ EveryStep registryStep EvictsUnused s
      [.getOrCreate, .restored, .advance timer.due, .fire] := by
  rcases getOrCreate_timers htimers hkept with ⟨⟨rest', htimers'⟩, huses⟩
  rcases restored_timers s.getOrCreate with ⟨hsame, hsameUses⟩
  rcases restored_inst (getOrCreate_inst s) with ⟨existing, hinst⟩
  rintro ⟨-, -, hrest⟩
  apply evicts_used (hsame.trans htimers') hinst _ hrest
  have hcount : s.getOrCreate.restored.uses = s.uses + 1 := hsameUses.trans huses
  rw [hcount]
  have hle := (h.timers timer (by rw [htimers]; exact List.mem_cons_self)).2
  exact Nat.ne_of_lt (Nat.lt_succ_of_le hle)

end Eviction

/-!
# Toggling an account
-/

section Toggle

variable {s : Registry}

theorem wrong_timer_evicts (hcount : CountInv s) {op : RegistryOp}
    (hop : ¬ SetsLoneTimer s op) :
    exists more, ¬ EveryStep registryStep EvictsUnused (registryStep s op) more := by
  cases op with
  | persisted call =>
      simp only [SetsLoneTimer] at hop
      split at hop
      · next uses hcall =>
          have hstep : registryStep s (.persisted call) =
              { s.setTimer uses with calls := s.calls.drop call } := by
            simp only [registryStep, Registry.persisted, hcall]
          have hcount' := registryStep_countInv hcount (.persisted call)
          rw [hstep] at hcount' ⊢
          cases htimers : s.timers with
          | nil =>
              have hlone : (s.setTimer uses).timers =
                  [{ id := s.nextTimer, due := s.now + evictAfterMs, uses := uses }] := by
                simp only [Registry.setTimer, htimers, List.nil_append]
              cases hinst : s.inst with
              | none => exact ⟨_, evicts_after_use hcount' hlone (Or.inl hinst)⟩
              | some existing =>
                  refine ⟨_, evicts_used hlone hinst ?_⟩
                  intro huses
                  exact hop ⟨by rw [hinst]; exact Option.some_ne_none _, huses, htimers⟩
          | cons timer rest =>
              have hfirst : (s.setTimer uses).timers = timer :: (rest ++
                  [{ id := s.nextTimer, due := s.now + evictAfterMs, uses := uses }]) := by
                simp only [Registry.setTimer, htimers, List.cons_append]
              refine ⟨_, evicts_after_use hcount' hfirst (Or.inr ?_)⟩
              intro hstored
              have hlt := (hcount.timers timer (by rw [htimers]; exact List.mem_cons_self)).1
              exact Nat.ne_of_gt hlt (Option.some.inj hstored)
      · exact absurd trivial hop
  | _ => exact absurd trivial hop

theorem run_instanceInv (ops : List RegistryOp) :
    InstanceInv (runFrom registryStep .empty ops) :=
  runFrom_inv InstanceInv (fun _ op h => registryStep_instanceInv h op)
    ⟨fun _ hi => (List.not_mem_nil hi).elim, fun h => absurd rfl h⟩ ops

theorem run_countInv (ops : List RegistryOp) : CountInv (runFrom registryStep .empty ops) :=
  runFrom_inv CountInv (fun _ op h => registryStep_countInv h op)
    ⟨fun _ ht => (List.not_mem_nil ht).elim,
      fun _ _ hcall => absurd hcall.symm (Option.some_ne_none _)⟩ ops

/-- All who obtained an instance since the last eviction always hold the same one.  An
eviction timer removes only an unused instance in every run that sets each timer alone,
with the instance there and unused since the account was disabled; after any other
timer, some continuation evicts an instance in use. -/
theorem unused_evicted_when_timers_set_alone (ops : List RegistryOp) :
    OneInstance (runFrom registryStep .empty ops) ∧
      (EveryStep registryStep SetsLoneTimer .empty ops ->
        EveryStep registryStep EvictsUnused .empty ops) ∧
      (forall op, ¬ SetsLoneTimer (runFrom registryStep .empty ops) op ->
        exists more, ¬ EveryStep registryStep EvictsUnused .empty (ops ++ op :: more)) := by
  refine ⟨(run_instanceInv ops).one, ?_, ?_⟩
  · intro hsets
    apply everyStep_of_inv (fun s => LoneTimer s ∧ InstanceInv s) _
      (fun _ op h _ => evictsUnused_of_loneTimer h.1 op) _ hsets
    · intro s op h hop
      exact ⟨registryStep_loneTimer h.1 hop h.2.creating, registryStep_instanceInv h.2 op⟩
    · exact ⟨Or.inl rfl, run_instanceInv []⟩
  · intro op hop
    rcases wrong_timer_evicts (run_countInv ops) hop with ⟨more, hmore⟩
    exact ⟨more, fun h => hmore (everyStep_append.mp h).2.2⟩

/-- Off and on again within the grace period, and off for good. -/
theorem toggled_account_keeps_its_instance :
    EveryStep registryStep EvictsUnused .empty
      [.getOrCreate, .restored, .removeIfDisabled, .persisted 0, .advance 60000, .getOrCreate,
        .advance 300000, .fire, .removeIfDisabled, .persisted 1, .advance 300000, .fire] :=
  (unused_evicted_when_timers_set_alone _).2.1 (by decide +kernel)

/-- Disabled twice: the first timer is no longer in the map when the account is used
again, and evicts the instance. -/
theorem overwritten_timer_evicts_an_instance_in_use :
    ¬ EveryStep registryStep EvictsUnused .empty
      [.getOrCreate, .restored, .removeIfDisabled, .persisted 0, .advance 60000,
        .removeIfDisabled, .persisted 1, .getOrCreate, .advance 300000, .fire] := by
  decide +kernel

end Toggle

end OrchestratorRegistry
end Live
end Shamarx
