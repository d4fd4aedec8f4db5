import Shamarx.Foundation.InFlight
import Shamarx.Foundation.Runs
import Shamarx.Foundation.TaskLock
import Mathlib.Tactic.SplitIfs

/-!
# The broker clients of one account

`BrokerClientRegistry` keeps one client for each account and creates it under a lock
of the account.  `remove` closes the client and throws the lock away, while other
calls may hold it or wait for it.
-/

namespace Shamarx
namespace Broker
namespace ClientRegistry

open Foundation

/-!
# The registry
-/

inductive ClientState where
  | initialising
  | live
  | failed
  | closed
  deriving DecidableEq

/-- A call at its await.  A `remove` knows how many clients had been created when it
started. -/
inductive RegistryCall where
  | waiting (lock : Nat)
  | initialising (lock client : Nat)
  | closing (client created : Nat)

/-- The entries of the account in `_clients` and `_init_locks`, every lock object, the
state of each client in the order of their creation, and the calls in flight.  Clients
below `removed` were created before a `remove` that has returned. -/
structure Registry where
  client : Option Nat
  initLock : Option Nat
  locks : Nat -> TaskLock
  nextLock : Nat
  clients : List ClientState
  calls : InFlight RegistryCall
  nextCall : Nat
  removed : Nat

def Registry.empty : Registry :=
  { client := none
    initLock := none
    locks := fun _ => TaskLock.new
    nextLock := 0
    clients := []
    calls := InFlight.empty
    nextCall := 0
    removed := 0 }

/-- The calls, the first waiter of a released lock, and the ends of `initialize` and
`close`. -/
inductive RegistryOp where
  | getOrCreate
  | resume (call : Nat)
  | initialised (call : Nat)
  | initialiseFails (call : Nat)
  | remove
  | closed (call : Nat)
  | closeFails (call : Nat)
  deriving DecidableEq

namespace Registry

def setLock (s : Registry) (lock : Nat) (l : TaskLock) : Registry :=
  { s with locks := fun i => if i = lock then l else s.locks i }

def release (s : Registry) (lock : Nat) : Registry :=
  s.setLock lock (s.locks lock).release

/-- The body under the lock, up to `initialize`. -/
def underLock (s : Registry) (call lock : Nat) : Registry :=
  match s.client with
  | some _ => { s.release lock with calls := s.calls.drop call }
  | none =>
      { s with
        clients := s.clients ++ [.initialising]
        calls := s.calls.put call (.initialising lock s.clients.length) }

def lockOf (s : Registry) : Nat :=
  s.initLock.getD s.nextLock

def askLock (s : Registry) : Registry :=
  { s with
    initLock := some s.lockOf
    nextLock := if s.initLock = none then s.nextLock + 1 else s.nextLock
    nextCall := s.nextCall + 1 }

/-- `get_or_create` up to its first await. -/
def getOrCreate (s : Registry) : Registry :=
  match s.client with
  | some _ => s
  | none =>
      let lock := s.lockOf
      if (s.locks lock).Free then
        (s.askLock.setLock lock (s.locks lock).take).underLock s.nextCall lock
      else
        { s.askLock.setLock lock ((s.locks lock).enqueue s.nextCall) with
          calls := s.calls.put s.nextCall (.waiting lock) }

def resume (s : Registry) (call : Nat) : Registry :=
  match s.calls call with
  | some (.waiting lock) =>
      if (s.locks lock).Wakes call then
        (s.setLock lock (s.locks lock).resume).underLock call lock
      else s
  | _ => s

def initialised (s : Registry) (call : Nat) : Registry :=
  match s.calls call with
  | some (.initialising lock client) =>
      { s.release lock with
        client := some client
        clients := s.clients.set client .live
        calls := s.calls.drop call }
  | _ => s

def initialiseFails (s : Registry) (call : Nat) : Registry :=
  match s.calls call with
  | some (.initialising lock client) =>
      { s.release lock with
        clients := s.clients.set client .failed
        calls := s.calls.drop call }
  | _ => s

def removeReturns (s : Registry) (created : Nat) : Registry :=
  { s with initLock := none, removed := max s.removed created }

def remove (s : Registry) : Registry :=
  match s.client with
  | some client =>
      { s with
        client := none
        calls := s.calls.put s.nextCall (.closing client s.clients.length)
        nextCall := s.nextCall + 1 }
  | none => s.removeReturns s.clients.length

/-- A failed `close` is logged only. -/
def closes (s : Registry) (call : Nat) (fails : Bool) : Registry :=
  match s.calls call with
  | some (.closing client created) =>
      { s.removeReturns created with
        clients := if fails then s.clients else s.clients.set client .closed
        calls := s.calls.drop call }
  | _ => s

end Registry

def registryStep (s : Registry) : RegistryOp -> Registry
  | .getOrCreate => s.getOrCreate
  | .resume call => s.resume call
  | .initialised call => s.initialised call
  | .initialiseFails call => s.initialiseFails call
  | .remove => s.remove
  | .closed call => s.closes call false
  | .closeFails call => s.closes call true

def returned (s : Registry) : RegistryOp -> Option Nat
  | .getOrCreate => s.client
  | .resume call =>
      match s.calls call with
      | some (.waiting lock) => if (s.locks lock).Wakes call then s.client else none
      | _ => none
  | .initialised call =>
      match s.calls call with
      | some (.initialising _ client) => some client
      | _ => none
  | _ => none

def OneLive (s : Registry) : Prop :=
  forall i j : Nat, s.clients[i]? = some ClientState.live ->
    s.clients[j]? = some ClientState.live -> i = j

/-- No `get_or_create` returns a client that was created before a `remove` which has
returned. -/
def ReturnsFresh (s : Registry) (op : RegistryOp) : Prop :=
  forall client, returned s op = some client -> s.removed ≤ client

def Creates (s : Registry) : RegistryOp -> Prop
  | .getOrCreate => s.client = none ∧ (s.locks s.lockOf).Free
  | .resume call =>
      match s.calls call with
      | some (.waiting lock) => s.client = none ∧ (s.locks lock).Wakes call
      | _ => False
  | _ => False

instance (s : Registry) (op : RegistryOp) : Decidable (Creates s op) := by
  unfold Creates
  repeat' split
  all_goals infer_instance

def ClientState.Busy (c : ClientState) : Prop :=
  c = .initialising ∨ c = .live

instance (c : ClientState) : Decidable c.Busy :=
  inferInstanceAs (Decidable (_ ∨ _))

/-- A client is created only while no other is being initialised or live, and a `remove`
starts only while none is being initialised. -/
def Alone (s : Registry) (op : RegistryOp) : Prop :=
  (Creates s op -> forall c, c ∈ s.clients -> ¬ c.Busy) ∧
  (op = .remove -> forall c, c ∈ s.clients -> c ≠ .initialising)

instance (s : Registry) (op : RegistryOp) : Decidable (Alone s op) :=
  inferInstanceAs (Decidable (_ ∧ _))

/-!
# What the calls know of the clients
-/

section Known

variable {s : Registry}

def Settled (clients : List ClientState) (client : Nat) : Prop :=
  exists c, clients[client]? = some c ∧ c ≠ .initialising

/-- Calls and clients agree: each client being initialised is so by one call. -/
structure Known (client : Option Nat) (clients : List ClientState)
    (calls : InFlight RegistryCall) (nextCall : Nat) : Prop where
  entry : forall c, client = some c -> Settled clients c
  closing : forall call c created, calls call = some (.closing c created) -> Settled clients c
  initialising : forall call lock c, calls call = some (.initialising lock c) ->
    clients[c]? = some ClientState.initialising
  single : forall call lock call' lock' c, calls call = some (.initialising lock c) ->
    calls call' = some (.initialising lock' c) -> call = call'
  owned : forall c, clients[c]? = some ClientState.initialising ->
    exists call lock, calls call = some (.initialising lock c)
  numbered : forall call p, calls call = some p -> call < nextCall

def Registry.Known (s : Registry) : Prop :=
  ClientRegistry.Known s.client s.clients s.calls s.nextCall

theorem known_empty : Registry.empty.Known := by
  constructor <;> intros <;> contradiction

variable {client : Option Nat} {clients : List ClientState} {calls : InFlight RegistryCall}
  {nextCall call lock : Nat} {p : RegistryCall}

theorem Settled.append {c : Nat} (h : Settled clients c) (more : List ClientState) :
    Settled (clients ++ more) c := by
  rcases h with ⟨st, hst, hne⟩
  exact ⟨st, by rw [List.getElem?_append_left (List.getElem?_eq_some_iff.mp hst).1, hst], hne⟩

theorem Settled.set {c : Nat} (h : Settled clients c) {st : ClientState}
    (hst : st ≠ .initialising) (i : Nat) : Settled (clients.set i st) c := by
  rcases h with ⟨old, hold, hne⟩
  by_cases heq : i = c
  · subst heq
    exact ⟨st, List.getElem?_set_self (List.getElem?_eq_some_iff.mp hold).1, hst⟩
  · exact ⟨old, by rw [List.getElem?_set_ne heq, hold], hne⟩

theorem Settled.ne_initialising {c i : Nat} (h : Settled clients c)
    (hi : clients[i]? = some ClientState.initialising) : i ≠ c := by
  rintro rfl
  rcases h with ⟨st, hst, hne⟩
  rw [hst] at hi
  exact hne (Option.some.inj hi)

theorem Known.wait (h : Known client clients calls nextCall) (lock : Nat) :
    Known client clients (calls.put nextCall (.waiting lock)) (nextCall + 1) where
  entry := h.entry
  closing := by
    intro other c created hother
    rcases InFlight.put_cases hother with ⟨-, heq⟩ | ⟨-, hold⟩
    · cases heq
    · exact h.closing other c created hold
  initialising := by
    intro other l c hother
    rcases InFlight.put_cases hother with ⟨-, heq⟩ | ⟨-, hold⟩
    · cases heq
    · exact h.initialising other l c hold
  single := by
    intro i l j l' c hi hj
    rcases InFlight.put_cases hi with ⟨-, heq⟩ | ⟨-, hiold⟩
    · cases heq
    · rcases InFlight.put_cases hj with ⟨-, heq⟩ | ⟨-, hjold⟩
      · cases heq
      · exact h.single i l j l' c hiold hjold
  owned := by
    intro c hc
    rcases h.owned c hc with ⟨other, l, hother⟩
    have hlt := h.numbered other _ hother
    exact ⟨other, l, (InFlight.put_of_ne calls _ (Nat.ne_of_lt hlt)).trans hother⟩
  numbered := by
    intro other q hother
    rcases InFlight.put_cases hother with ⟨heq, -⟩ | ⟨-, hold⟩
    · rw [heq]
      exact Nat.lt_succ_self _
    · exact Nat.lt_succ_of_lt (h.numbered other q hold)

theorem Known.drop (h : Known client clients calls nextCall)
    (hcall : forall lock c, calls call ≠ some (.initialising lock c)) :
    Known client clients (calls.drop call) nextCall where
  entry := h.entry
  closing := fun other c created hother => h.closing other c created (InFlight.drop_cases hother).2
  initialising := fun other l c hother => h.initialising other l c (InFlight.drop_cases hother).2
  single := fun i l j l' c hi hj =>
    h.single i l j l' c (InFlight.drop_cases hi).2 (InFlight.drop_cases hj).2
  owned := by
    intro c hc
    rcases h.owned c hc with ⟨other, l, hother⟩
    by_cases heq : other = call
    · rw [heq] at hother
      exact absurd hother (hcall l c)
    · exact ⟨other, l, (InFlight.drop_of_ne calls heq).trans hother⟩
  numbered := fun other q hother => h.numbered other q (InFlight.drop_cases hother).2

theorem Known.create (h : Known client clients calls nextCall)
    (hcall : forall lock c, calls call ≠ some (.initialising lock c)) (hlt : call < nextCall)
    (lock : Nat) :
    Known client (clients ++ [.initialising])
      (calls.put call (.initialising lock clients.length)) nextCall where
  entry := fun c hc => (h.entry c hc).append _
  closing := by
    intro other c created hother
    rcases InFlight.put_cases hother with ⟨-, heq⟩ | ⟨-, hold⟩
    · cases heq
    · exact (h.closing other c created hold).append _
  initialising := by
    intro other l c hother
    rcases InFlight.put_cases hother with ⟨-, heq⟩ | ⟨-, hold⟩
    · cases heq
      exact List.getElem?_concat_length
    · have hc := h.initialising other l c hold
      rw [List.getElem?_append_left (List.getElem?_eq_some_iff.mp hc).1, hc]
  single := by
    intro i l j l' c hi hj
    have hold : forall other l'', calls other ≠ some (.initialising l'' clients.length) := by
      intro other l'' hother
      have hc := (List.getElem?_eq_some_iff.mp (h.initialising other l'' _ hother)).1
      exact Nat.lt_irrefl _ hc
    rcases InFlight.put_cases hi with ⟨hic, heq⟩ | ⟨hic, hiold⟩
    · cases heq
      rcases InFlight.put_cases hj with ⟨hjc, -⟩ | ⟨-, hjold⟩
      · rw [hic, hjc]
      · exact absurd hjold (hold j l')
    · rcases InFlight.put_cases hj with ⟨-, heq⟩ | ⟨-, hjold⟩
      · cases heq
        exact absurd hiold (hold i l)
      · exact h.single i l j l' c hiold hjold
  owned := by
    intro c hc
    by_cases hnew : c < clients.length
    · rw [List.getElem?_append_left hnew] at hc
      rcases h.owned c hc with ⟨other, l, hother⟩
      have hne : other ≠ call := by
        rintro rfl
        exact hcall l c hother
      exact ⟨other, l, (InFlight.put_of_ne calls _ hne).trans hother⟩
    · have hle := (List.getElem?_eq_some_iff.mp hc).1
      rw [List.length_append, List.length_singleton] at hle
      have hceq : c = clients.length :=
        Nat.le_antisymm (Nat.le_of_lt_succ hle) (Nat.le_of_not_lt hnew)
      rw [hceq]
      exact ⟨call, lock, InFlight.put_self _ _ _⟩
  numbered := by
    intro other q hother
    rcases InFlight.put_cases hother with ⟨heq, -⟩ | ⟨-, hold⟩
    · rw [heq]
      exact hlt
    · exact h.numbered other q hold

theorem Known.settle (h : Known client clients calls nextCall) {c : Nat}
    (hcall : calls call = some (.initialising lock c)) {st : ClientState}
    (hst : st ≠ .initialising) {client' : Option Nat}
    (hclient : client' = client ∨ client' = some c) :
    Known client' (clients.set c st) (calls.drop call) nextCall where
  entry := by
    intro e he
    rcases hclient with rfl | rfl
    · exact (h.entry e he).set hst c
    · cases he
      have hlt := (List.getElem?_eq_some_iff.mp (h.initialising call lock c hcall)).1
      exact ⟨st, List.getElem?_set_self hlt, hst⟩
  closing := fun other e created hother =>
    (h.closing other e created (InFlight.drop_cases hother).2).set hst c
  initialising := by
    intro other l e hother
    rcases InFlight.drop_cases hother with ⟨hne, hold⟩
    have hec : c ≠ e := by
      rintro rfl
      exact hne (h.single other l call lock c hold hcall)
    rw [List.getElem?_set_ne hec]
    exact h.initialising other l e hold
  single := fun i l j l' e hi hj =>
    h.single i l j l' e (InFlight.drop_cases hi).2 (InFlight.drop_cases hj).2
  owned := by
    intro e he
    by_cases hec : c = e
    · subst hec
      rw [List.getElem?_set_self (List.getElem?_eq_some_iff.mp
        (h.initialising call lock c hcall)).1] at he
      exact absurd (Option.some.inj he) hst
    · rw [List.getElem?_set_ne hec] at he
      rcases h.owned e he with ⟨other, l, hother⟩
      have hne : other ≠ call := by
        rintro rfl
        rw [hcall] at hother
        cases hother
        exact hec rfl
      exact ⟨other, l, (InFlight.drop_of_ne calls hne).trans hother⟩
  numbered := fun other q hother => h.numbered other q (InFlight.drop_cases hother).2

theorem Known.next (h : Known client clients calls nextCall) :
    Known client clients calls (nextCall + 1) :=
  { h with numbered := fun other p hother => Nat.lt_succ_of_lt (h.numbered other p hother) }

theorem Known.no_next (h : Known client clients calls nextCall) (p : RegistryCall) :
    calls nextCall ≠ some p :=
  fun hcall => Nat.lt_irrefl _ (h.numbered nextCall p hcall)

theorem Known.close (h : Known client clients calls nextCall) {c : Nat}
    (hc : client = some c) (created : Nat) :
    Known none clients (calls.put nextCall (.closing c created)) (nextCall + 1) where
  entry := fun e he => absurd he.symm (Option.some_ne_none e)
  closing := by
    intro other e created' hother
    rcases InFlight.put_cases hother with ⟨-, heq⟩ | ⟨-, hold⟩
    · cases heq
      exact h.entry c hc
    · exact h.closing other e created' hold
  initialising := by
    intro other l e hother
    rcases InFlight.put_cases hother with ⟨-, heq⟩ | ⟨-, hold⟩
    · cases heq
    · exact h.initialising other l e hold
  single := by
    intro i l j l' e hi hj
    rcases InFlight.put_cases hi with ⟨-, heq⟩ | ⟨-, hiold⟩
    · cases heq
    · rcases InFlight.put_cases hj with ⟨-, heq⟩ | ⟨-, hjold⟩
      · cases heq
      · exact h.single i l j l' e hiold hjold
  owned := by
    intro e he
    rcases h.owned e he with ⟨other, l, hother⟩
    have hlt := h.numbered other _ hother
    exact ⟨other, l, (InFlight.put_of_ne calls _ (Nat.ne_of_lt hlt)).trans hother⟩
  numbered := by
    intro other q hother
    rcases InFlight.put_cases hother with ⟨heq, -⟩ | ⟨-, hold⟩
    · rw [heq]
      exact Nat.lt_succ_self _
    · exact Nat.lt_succ_of_lt (h.numbered other q hold)

theorem Known.closed (h : Known client clients calls nextCall) {c created : Nat}
    (hcall : calls call = some (.closing c created)) :
    Known client (clients.set c .closed) (calls.drop call) nextCall where
  entry := fun e he => (h.entry e he).set (by decide) c
  closing := fun other e created' hother =>
    (h.closing other e created' (InFlight.drop_cases hother).2).set (by decide) c
  initialising := by
    intro other l e hother
    have he := h.initialising other l e (InFlight.drop_cases hother).2
    rw [List.getElem?_set_ne ((h.closing call c created hcall).ne_initialising he).symm, he]
  single := fun i l j l' e hi hj =>
    h.single i l j l' e (InFlight.drop_cases hi).2 (InFlight.drop_cases hj).2
  owned := by
    intro e he
    by_cases hec : c = e
    · subst hec
      rcases h.closing call c created hcall with ⟨st, hst, -⟩
      rw [List.getElem?_set_self (List.getElem?_eq_some_iff.mp hst).1] at he
      cases he
    · rw [List.getElem?_set_ne hec] at he
      rcases h.owned e he with ⟨other, l, hother⟩
      have hne : other ≠ call := by
        rintro rfl
        rw [hcall] at hother
        cases hother
      exact ⟨other, l, (InFlight.drop_of_ne calls hne).trans hother⟩
  numbered := fun other q hother => h.numbered other q (InFlight.drop_cases hother).2

theorem underLock_known (h : s.Known) (hcall : forall l c, s.calls call ≠ some (.initialising l c))
    (hlt : call < s.nextCall) (lock : Nat) : (s.underLock call lock).Known := by
  unfold Registry.underLock
  split
  · exact Known.drop h hcall
  · exact Known.create h hcall hlt lock

theorem getOrCreate_known (h : s.Known) : s.getOrCreate.Known := by
  unfold Registry.getOrCreate
  split
  · exact h
  · dsimp only
    split_ifs
    · exact underLock_known (s := s.askLock.setLock s.lockOf (s.locks s.lockOf).take) h.next
        (fun _ _ => h.no_next _) (Nat.lt_succ_self _) s.lockOf
    · exact h.wait _

theorem registryStep_known (h : s.Known) (op : RegistryOp) : (registryStep s op).Known := by
  cases op with
  | getOrCreate => exact getOrCreate_known h
  | resume call =>
      simp only [registryStep, Registry.resume]
      split
      · next lock hcall =>
          split_ifs
          · apply underLock_known (s := s.setLock lock (s.locks lock).resume) h
            · intro l c hother
              have heq := hcall.symm.trans hother
              cases heq
            · exact h.numbered call _ hcall
          · exact h
      · exact h
  | initialised call =>
      simp only [registryStep, Registry.initialised]
      split
      · next lock c hcall =>
          exact Known.settle h hcall (by decide) (Or.inr rfl)
      · exact h
  | initialiseFails call =>
      simp only [registryStep, Registry.initialiseFails]
      split
      · next lock c hcall =>
          exact Known.settle h hcall (by decide) (Or.inl rfl)
      · exact h
  | remove =>
      simp only [registryStep, Registry.remove]
      split
      · next c hclient => exact Known.close h hclient _
      · exact h
  | closed call =>
      simp only [registryStep, Registry.closes]
      split
      · next c created hcall => exact Known.closed h hcall
      · exact h
  | closeFails call =>
      simp only [registryStep, Registry.closes]
      split
      · next c created hcall =>
          apply Known.drop h
          intro l e hother
          rw [hcall] at hother
          cases hother
      · exact h

end Known

end ClientRegistry
end Broker
end Shamarx
