import Shamarx.Broker.ClientRegistry
import Shamarx.Foundation.Weights

/-!
# One client for each account

The lock of the registry orders the creations only while nothing throws it away: a
`remove` during an initialisation, or a creation beside a client that is still closing,
leaves two clients.
-/

namespace Shamarx
namespace Broker
namespace ClientRegistry

open Foundation

/-!
# One client at a time
-/

section Fresh

/-- At most one client is being initialised or live, and a client that can still be
returned is newer than every `remove` that has returned or is closing. -/
structure Fresh (client : Option Nat) (clients : List ClientState)
    (calls : InFlight RegistryCall) (removed : Nat) : Prop where
  one : forall (i j : Nat) (c d : ClientState), clients[i]? = some c -> c.Busy ->
    clients[j]? = some d -> d.Busy -> i = j
  newer : forall c, client = some c ∨ clients[c]? = some ClientState.initialising ->
    removed ≤ c ∧ forall call e created, calls call = some (.closing e created) -> created ≤ c
  bound : removed ≤ clients.length ∧ forall call e created,
    calls call = some (.closing e created) -> created ≤ clients.length

def Registry.Fresh (s : Registry) : Prop :=
  ClientRegistry.Fresh s.client s.clients s.calls s.removed

variable {s : Registry} {client : Option Nat} {clients : List ClientState}
  {calls calls' : InFlight RegistryCall} {removed call : Nat}

theorem fresh_empty : Registry.empty.Fresh := by
  refine ⟨?_, ?_, Nat.le_refl _, ?_⟩
  · intro i j c d hi
    cases hi
  · intro c hc
    rcases hc with hc | hc
    · cases hc
    · cases hc
  · intro call e created hcall
    cases hcall

def SameClosings (calls calls' : InFlight RegistryCall) : Prop :=
  forall call e created, calls' call = some (.closing e created) ->
    calls call = some (.closing e created)

theorem sameClosings_put (calls : InFlight RegistryCall) (call : Nat) {p : RegistryCall}
    (hp : forall e created, p ≠ .closing e created) : SameClosings calls (calls.put call p) := by
  intro other e created hother
  rcases InFlight.put_cases hother with ⟨-, heq⟩ | ⟨-, hold⟩
  · exact absurd heq.symm (hp e created)
  · exact hold

theorem sameClosings_drop (calls : InFlight RegistryCall) (call : Nat) :
    SameClosings calls (calls.drop call) :=
  fun _ _ _ hother => (InFlight.drop_cases hother).2

theorem Fresh.quiet (h : Fresh client clients calls removed) (hsame : SameClosings calls calls') :
    Fresh client clients calls' removed where
  one := h.one
  newer := fun c hc => ⟨(h.newer c hc).1, fun other e created hother =>
    (h.newer c hc).2 other e created (hsame other e created hother)⟩
  bound := ⟨h.bound.1, fun other e created hother =>
    h.bound.2 other e created (hsame other e created hother)⟩

theorem Fresh.create (h : Fresh none clients calls removed)
    (hidle : forall c, c ∈ clients -> ¬ c.Busy) (call lock : Nat) :
    Fresh none (clients ++ [.initialising])
      (calls.put call (.initialising lock clients.length)) removed := by
  have hsame : SameClosings calls (calls.put call (.initialising lock clients.length)) :=
    sameClosings_put calls call (fun _ _ heq => by cases heq)
  have hlast : forall (i : Nat) (c : ClientState),
      (clients ++ [.initialising])[i]? = some c -> c.Busy -> i = clients.length := by
    intro i c hi hc
    rcases getElem?_concat_cases hi with ⟨heq, -⟩ | ⟨-, hold⟩
    · exact heq
    · exact absurd hc (hidle c (List.mem_of_getElem? hold))
  refine ⟨?_, ?_, ?_, ?_⟩
  · intro i j c d hi hc hj hd
    rw [hlast i c hi hc, hlast j d hj hd]
  · intro c hc
    rcases hc with hnone | hinit
    · cases hnone
    · rw [hlast c _ hinit (Or.inl rfl)]
      exact ⟨h.bound.1, fun other e created hother =>
        h.bound.2 other e created (hsame other e created hother)⟩
  · rw [List.length_append]
    exact Nat.le_add_right_of_le h.bound.1
  · intro other e created hother
    rw [List.length_append]
    exact Nat.le_add_right_of_le (h.bound.2 other e created (hsame other e created hother))

theorem Fresh.settle (h : Fresh client clients calls removed) {c : Nat}
    (hc : clients[c]? = some ClientState.initialising) {st : ClientState}
    (hst : st ≠ .initialising) {client' : Option Nat}
    (hclient : client' = client ∨ client' = some c) (call : Nat) :
    Fresh client' (clients.set c st) (calls.drop call) removed := by
  have hsame := sameClosings_drop calls call
  have hbusy : forall (i : Nat) (d : ClientState), (clients.set c st)[i]? = some d -> d.Busy ->
      exists old, clients[i]? = some old ∧ old.Busy := by
    intro i d hi hd
    rcases getElem?_set_cases hi with ⟨rfl, -⟩ | ⟨-, hold⟩
    · exact ⟨_, hc, Or.inl rfl⟩
    · exact ⟨d, hold, hd⟩
  refine ⟨?_, ?_, ?_, ?_⟩
  · intro i j d d' hi hd hj hd'
    rcases hbusy i d hi hd with ⟨old, hold, hob⟩
    rcases hbusy j d' hj hd' with ⟨old', hold', hob'⟩
    exact h.one i j old old' hold hob hold' hob'
  · intro e he
    have hold : client = some e ∨ clients[e]? = some ClientState.initialising := by
      rcases he with he | he
      · rcases hclient with rfl | rfl
        · exact Or.inl he
        · cases he
          exact Or.inr hc
      · rcases getElem?_set_cases he with ⟨-, heq⟩ | ⟨-, hold⟩
        · exact absurd heq.symm hst
        · exact Or.inr hold
    exact ⟨(h.newer e hold).1, fun other x created hother =>
      (h.newer e hold).2 other x created (hsame other x created hother)⟩
  · rw [List.length_set]
    exact h.bound.1
  · intro other e created hother
    rw [List.length_set]
    exact h.bound.2 other e created (hsame other e created hother)

theorem Fresh.returns (h : Fresh client clients calls removed) {c created : Nat}
    (hcall : calls call = some (.closing c created)) {clients' : List ClientState}
    (hclients : clients' = clients ∨ clients' = clients.set c .closed) :
    Fresh client clients' (calls.drop call) (max removed created) := by
  have hsame := sameClosings_drop calls call
  have hold : forall (i : Nat) (d : ClientState), clients'[i]? = some d -> d.Busy ->
      clients[i]? = some d := by
    intro i d hi hd
    rcases hclients with rfl | rfl
    · exact hi
    · rcases getElem?_set_cases hi with ⟨-, rfl⟩ | ⟨-, hold⟩
      · rcases hd with hd | hd <;> cases hd
      · exact hold
  have hlength : clients'.length = clients.length := by
    rcases hclients with rfl | rfl
    · rfl
    · exact List.length_set
  refine ⟨?_, ?_, ?_, ?_⟩
  · intro i j d d' hi hd hj hd'
    exact h.one i j d d' (hold i d hi hd) hd (hold j d' hj hd') hd'
  · intro e he
    have he' : client = some e ∨ clients[e]? = some ClientState.initialising :=
      he.imp_right fun hinit => hold e _ hinit (Or.inl rfl)
    rcases h.newer e he' with ⟨hremoved, hclosing⟩
    exact ⟨Nat.max_le.mpr ⟨hremoved, hclosing call c created hcall⟩,
      fun other x created' hother => hclosing other x created' (hsame other x created' hother)⟩
  · rw [hlength]
    exact Nat.max_le.mpr ⟨h.bound.1, h.bound.2 call c created hcall⟩
  · intro other e created' hother
    rw [hlength]
    exact h.bound.2 other e created' (hsame other e created' hother)

theorem none_returnable (hnone : forall c, c ∈ clients -> c ≠ .initialising) (e : Nat) :
    ¬ ((none : Option Nat) = some e ∨ clients[e]? = some ClientState.initialising) := by
  intro he
  rcases he with he | he
  · cases he
  · exact hnone _ (List.mem_of_getElem? he) rfl

theorem Fresh.removeNone (h : Fresh client clients calls removed)
    (hnone : forall c, c ∈ clients -> c ≠ .initialising) :
    Fresh none clients calls (max removed clients.length) :=
  ⟨h.one, fun e he => absurd he (none_returnable hnone e),
    Nat.max_le.mpr ⟨h.bound.1, Nat.le_refl _⟩, h.bound.2⟩

theorem Fresh.removeSome (h : Fresh client clients calls removed)
    (hnone : forall c, c ∈ clients -> c ≠ .initialising) (call c : Nat) :
    Fresh none clients (calls.put call (.closing c clients.length)) removed := by
  refine ⟨h.one, fun e he => absurd he (none_returnable hnone e), h.bound.1, ?_⟩
  intro other e created hother
  rcases InFlight.put_cases hother with ⟨-, heq⟩ | ⟨-, hold⟩
  · cases heq
    exact Nat.le_refl _
  · exact h.bound.2 other e created hold

theorem underLock_fresh (h : s.Fresh)
    (hidle : s.client = none -> forall c, c ∈ s.clients -> ¬ c.Busy) (call lock : Nat) :
    (s.underLock call lock).Fresh := by
  unfold Registry.underLock
  split
  · exact Fresh.quiet h (sameClosings_drop s.calls call)
  · next hnone =>
      have h' : ClientRegistry.Fresh none s.clients s.calls s.removed := by
        rw [<- hnone]
        exact h
      have hcreated := h'.create (hidle hnone) call lock
      rw [<- hnone] at hcreated
      exact hcreated

theorem registryStep_fresh (hknown : s.Known) (h : s.Fresh) {op : RegistryOp}
    (hop : Alone s op) : (registryStep s op).Fresh := by
  cases op with
  | getOrCreate =>
      simp only [registryStep, Registry.getOrCreate]
      split
      · exact h
      · next hnone =>
          split_ifs with hfree
          · exact underLock_fresh (s := s.askLock.setLock s.lockOf (s.locks s.lockOf).take) h
              (fun _ => hop.1 ⟨hnone, hfree⟩) s.nextCall s.lockOf
          · exact Fresh.quiet h (sameClosings_put s.calls _ fun _ _ heq => by cases heq)
  | resume call =>
      simp only [registryStep, Registry.resume]
      split
      · next lock hcall =>
          split_ifs with hwakes
          · apply underLock_fresh (s := s.setLock lock (s.locks lock).resume) h
            intro hnone
            apply hop.1
            simp only [Creates, hcall]
            exact ⟨hnone, hwakes⟩
          · exact h
      · exact h
  | initialised call =>
      simp only [registryStep, Registry.initialised]
      split
      · next lock c hcall =>
          exact Fresh.settle h (hknown.initialising call lock c hcall) (by decide) (Or.inr rfl) call
      · exact h
  | initialiseFails call =>
      simp only [registryStep, Registry.initialiseFails]
      split
      · next lock c hcall =>
          exact Fresh.settle h (hknown.initialising call lock c hcall) (by decide) (Or.inl rfl) call
      · exact h
  | remove =>
      simp only [registryStep, Registry.remove]
      split
      · next c hclient => exact Fresh.removeSome h (hop.2 rfl) s.nextCall c
      · next hclient =>
          have hreturned := Fresh.removeNone h (hop.2 rfl)
          rw [<- hclient] at hreturned
          exact hreturned
  | closed call =>
      simp only [registryStep, Registry.closes]
      split
      · next c created hcall => exact Fresh.returns h hcall (Or.inr rfl)
      · exact h
  | closeFails call =>
      simp only [registryStep, Registry.closes]
      split
      · next c created hcall => exact Fresh.returns h hcall (Or.inl rfl)
      · exact h

theorem returnsFresh_of_fresh (hknown : s.Known) (h : s.Fresh) (op : RegistryOp) :
    ReturnsFresh s op := by
  intro client hreturned
  cases op with
  | getOrCreate => exact (h.newer client (Or.inl hreturned)).1
  | resume call =>
      simp only [returned] at hreturned
      split at hreturned
      · split_ifs at hreturned
        exact (h.newer client (Or.inl hreturned)).1
      · cases hreturned
  | initialised call =>
      simp only [returned] at hreturned
      split at hreturned
      · next lock c hcall =>
          cases hreturned
          exact (h.newer _ (Or.inr (hknown.initialising call lock _ hcall))).1
      · cases hreturned
  | initialiseFails _ => cases hreturned
  | remove => cases hreturned
  | closed _ => cases hreturned
  | closeFails _ => cases hreturned

theorem oneLive_of_fresh (h : s.Fresh) : OneLive s :=
  fun i j hi hj => h.one i j _ _ hi (Or.inr rfl) hj (Or.inr rfl)

end Fresh

/-!
# A client too many
-/

section TooMany

variable {s : Registry}

theorem initialised_clients {call lock c : Nat}
    (hcall : s.calls call = some (.initialising lock c)) :
    (registryStep s (.initialised call)).clients = s.clients.set c .live := by
  simp only [registryStep, Registry.initialised, hcall]

theorem two_live (hknown : s.Known) {i j : Nat} (hne : i ≠ j)
    (hi : s.clients[i]? = some ClientState.initialising)
    (hj : s.clients[j]? = some ClientState.live) :
    exists more, ¬ OneLive (runFrom registryStep s more) := by
  rcases hknown.owned i hi with ⟨call, lock, hcall⟩
  refine ⟨[.initialised call], fun hone => hne (hone i j ?_ ?_)⟩
  · rw [runFrom_cons, runFrom, List.foldl_nil, initialised_clients hcall]
    exact List.getElem?_set_self (List.getElem?_eq_some_iff.mp hi).1
  · rw [runFrom_cons, runFrom, List.foldl_nil, initialised_clients hcall,
      List.getElem?_set_ne hne, hj]

/-- A client that is being initialised beside another busy one can become live beside
it. -/
theorem two_busy (hknown : s.Known) {i j : Nat} (hne : i ≠ j)
    (hi : s.clients[i]? = some ClientState.initialising) {c : ClientState}
    (hj : s.clients[j]? = some c) (hbusy : c.Busy) :
    exists more, ¬ OneLive (runFrom registryStep s more) := by
  rcases hbusy with rfl | rfl
  · rcases hknown.owned j hj with ⟨call, lock, hcall⟩
    have hclients := initialised_clients hcall
    rcases two_live (registryStep_known hknown (.initialised call)) hne
      (by rw [hclients, List.getElem?_set_ne hne.symm, hi])
      (by rw [hclients]; exact List.getElem?_set_self (List.getElem?_eq_some_iff.mp hj).1)
      with ⟨more, hmore⟩
    exact ⟨.initialised call :: more, hmore⟩
  · exact two_live hknown hne hi hj

theorem creates_clients {op : RegistryOp} (hcreates : Creates s op) :
    (registryStep s op).clients = s.clients ++ [.initialising] := by
  cases op with
  | getOrCreate =>
      rcases hcreates with ⟨hnone, hfree⟩
      simp only [registryStep, Registry.getOrCreate, hnone, if_pos hfree, Registry.underLock,
        Registry.setLock, Registry.askLock]
  | resume call =>
      simp only [Creates] at hcreates
      split at hcreates
      · next lock hcall =>
          rcases hcreates with ⟨hnone, hwakes⟩
          simp only [registryStep, Registry.resume, hcall, if_pos hwakes, Registry.underLock,
            Registry.setLock, hnone]
      · exact absurd hcreates id
  | initialised _ => exact absurd hcreates id
  | initialiseFails _ => exact absurd hcreates id
  | remove => exact absurd hcreates id
  | closed _ => exact absurd hcreates id
  | closeFails _ => exact absurd hcreates id

theorem creation_beside_busy (hknown : s.Known) {op : RegistryOp} (hcreates : Creates s op)
    {c : ClientState} (hc : c ∈ s.clients) (hbusy : c.Busy) :
    exists more, ¬ OneLive (runFrom registryStep (registryStep s op) more) := by
  rcases List.getElem?_of_mem hc with ⟨j, hj⟩
  have hclients := creates_clients hcreates
  have hlt := (List.getElem?_eq_some_iff.mp hj).1
  apply two_busy (registryStep_known hknown op) (Nat.ne_of_gt hlt) _ _ hbusy
  · rw [hclients]
    exact List.getElem?_concat_length
  · rw [hclients, List.getElem?_append_left hlt, hj]

/-- Once a `remove` has returned, a client created before it must not be returned. -/
theorem stale_initialised (call lock c : Nat)
    (hcall : s.calls call = some (.initialising lock c)) (hremoved : c < s.removed) :
    ¬ ReturnsFresh s (.initialised call) := by
  intro hfresh
  have hle := hfresh c (by simp only [returned, hcall])
  exact absurd hremoved (Nat.not_lt_of_le hle)

theorem remove_beside_initialising (hknown : s.Known)
    (hinit : ClientState.initialising ∈ s.clients) :
    exists more, ¬ EveryStep registryStep ReturnsFresh (registryStep s .remove) more := by
  rcases List.getElem?_of_mem hinit with ⟨c, hc⟩
  rcases hknown.owned c hc with ⟨call, lock, hcall⟩
  have hlt := (List.getElem?_eq_some_iff.mp hc).1
  cases hclient : s.client with
  | none =>
      refine ⟨[.initialised call], fun h => stale_initialised call lock c ?_ ?_ h.1⟩
      · simp only [registryStep, Registry.remove, hclient, Registry.removeReturns, hcall]
      · simp only [registryStep, Registry.remove, hclient, Registry.removeReturns]
        exact Nat.lt_of_lt_of_le hlt (Nat.le_max_right _ _)
  | some client =>
      have hne : call ≠ s.nextCall := Nat.ne_of_lt (hknown.numbered call _ hcall)
      refine ⟨[.closed s.nextCall, .initialised call],
        fun h => stale_initialised call lock c ?_ ?_ h.2.1⟩
      · simp only [registryStep, Registry.remove, hclient, Registry.closes, InFlight.put_self]
        rw [InFlight.drop_of_ne _ hne, InFlight.put_of_ne _ _ hne, hcall]
      · simp only [registryStep, Registry.remove, hclient, Registry.closes, InFlight.put_self,
          Registry.removeReturns]
        exact Nat.lt_of_lt_of_le hlt (Nat.le_max_right _ _)

end TooMany

/-!
# One client per account
-/

theorem run_known (ops : List RegistryOp) : (runFrom registryStep .empty ops).Known :=
  runFrom_inv Registry.Known (fun _ op h => registryStep_known h op) known_empty ops

/-- In every run that creates each client alone and starts no `remove` during an
initialisation, at most one client is live and no client is returned after a `remove`
that it is older than; after any other creation or `remove`, some continuation breaks
one of the two. -/
theorem one_client_when_alone (ops : List RegistryOp) :
    (EveryStep registryStep Alone .empty ops ->
        OneLive (runFrom registryStep .empty ops) ∧
        EveryStep registryStep ReturnsFresh .empty ops) ∧
      (forall op, ¬ Alone (runFrom registryStep .empty ops) op ->
        exists more, ¬ (OneLive (runFrom registryStep .empty (ops ++ op :: more)) ∧
          EveryStep registryStep ReturnsFresh .empty (ops ++ op :: more))) := by
  constructor
  · intro halone
    have hstep : forall s op, s.Known ∧ s.Fresh -> Alone s op ->
        (registryStep s op).Known ∧ (registryStep s op).Fresh :=
      fun s op h hop => ⟨registryStep_known h.1 op, registryStep_fresh h.1 h.2 hop⟩
    have hinit : Registry.empty.Known ∧ Registry.empty.Fresh := ⟨known_empty, fresh_empty⟩
    constructor
    · exact oneLive_of_fresh (EveryStep.run_inv _ hstep hinit halone).2
    · exact everyStep_of_inv _ hstep (fun s op h _ => returnsFresh_of_fresh h.1 h.2 op) hinit halone
  · intro op hop
    rcases not_and_or.mp hop with hcreates | hremove
    · rcases Classical.not_imp.mp hcreates with ⟨hcreates, hbusy⟩
      rcases not_forall.mp hbusy with ⟨c, hc⟩
      rcases Classical.not_imp.mp hc with ⟨hmem, hbusy⟩
      rcases creation_beside_busy (run_known ops) hcreates hmem (not_not.mp hbusy)
        with ⟨more, hmore⟩
      refine ⟨more, fun h => hmore ?_⟩
      rw [runFrom_append] at h
      exact h.1
    · rcases Classical.not_imp.mp hremove with ⟨rfl, hinit⟩
      rcases not_forall.mp hinit with ⟨c, hc⟩
      rcases Classical.not_imp.mp hc with ⟨hmem, heq⟩
      rw [not_not.mp heq] at hmem
      rcases remove_beside_initialising (run_known ops) hmem with ⟨more, hmore⟩
      exact ⟨more, fun h => hmore (everyStep_append.mp h.2).2.2⟩

/-- A client is created, removed and created again. -/
theorem client_is_replaced :
    OneLive (runFrom registryStep .empty
      [.getOrCreate, .getOrCreate, .initialised 0, .resume 1, .remove, .closed 2, .getOrCreate,
        .initialised 3]) ∧
    EveryStep registryStep ReturnsFresh .empty
      [.getOrCreate, .getOrCreate, .initialised 0, .resume 1, .remove, .closed 2, .getOrCreate,
        .initialised 3] :=
  (one_client_when_alone _).1 (by decide +kernel)

/-- A `remove` during an initialisation finds nothing to close and drops the lock: the
next call creates a second client beside the first. -/
theorem two_clients_after_an_early_remove :
    ¬ OneLive (runFrom registryStep .empty
      [.getOrCreate, .remove, .getOrCreate, .initialised 0, .initialised 1]) := by
  intro h
  exact absurd (h 0 1 (by decide) (by decide)) (by decide)

end ClientRegistry
end Broker
end Shamarx
