import Shamarx.Foundation.InFlight
import Shamarx.Foundation.Runs
import Mathlib.Tactic.SplitIfs

/-!
# The cache of the enabled accounts

`BrokerAccountsService.findEnabled` answers from a cache for thirty seconds.
`update` and `delete` clear the cache when their write is done.  A query that was
under way then still fills the cache with what it has read.
-/

namespace Shamarx
namespace Accounts
namespace EnabledCache

open Foundation

/-!
# The service
-/

def ttlMs : Int :=
  30000

structure BrokerAccount where
  id : Nat
  userId : Nat
  isEnabled : Bool
  mt5Direct : Bool
  deriving DecidableEq

structure CacheEntry where
  value : List BrokerAccount
  expiresAt : Int
  deriving DecidableEq

/-- An `update` or `delete` that has returned with the account disabled, by the number
of the call. -/
structure Disabling where
  account : Nat
  call : Nat
  deriving DecidableEq

/-- A call between its awaits.  A `findEnabled` carries the disablings that it has to
respect. -/
inductive ServiceCall where
  | querying (respects : List Disabling)
  | queried (respects : List Disabling) (value : List BrokerAccount)
  | updateFinding (userId id : Nat) (isEnabled : Option Bool)
  | updateCounting (userId id : Nat) (isEnabled : Option Bool)
  | updateWriting (id : Nat) (isEnabled : Option Bool)
  | updateWritten (id : Nat) (isEnabled : Option Bool)
  | deleteFinding (userId id : Nat) (force : Bool)
  | deleteCounting (acct : BrokerAccount) (force : Bool)
  | deleteDeprovisioning (id : Nat)
  | deleteDisabling (id : Nat)
  | deleteDeleting (id : Nat)
  | deleteWritten (id : Nat)

structure Service where
  now : Int
  accounts : List BrokerAccount
  cache : Option CacheEntry
  calls : InFlight ServiceCall
  nextCall : Nat
  disabled : List Disabling

def Service.start (accounts : List BrokerAccount) (now : Int) : Service :=
  { now := now
    accounts := accounts
    cache := none
    calls := InFlight.empty
    nextCall := 0
    disabled := [] }

/-- The calls, and the settling of what they wait for: `settle` of a prisma call on the
accounts or of the continuation after a write, `tradesCounted` of the open trades,
`deprovisioned` of the terminal, `throws` of any of them. -/
inductive ServiceOp where
  | clock (now : Int)
  | findEnabled
  | update (userId id : Nat) (isEnabled : Option Bool)
  | delete (userId id : Nat) (force : Bool)
  | settle (call : Nat)
  | tradesCounted (call openTrades : Nat)
  | deprovisioned (call : Nat)
  | throws (call : Nat)
  deriving DecidableEq

namespace Service

def begin (s : Service) (c : ServiceCall) : Service :=
  { s with calls := s.calls.put s.nextCall c, nextCall := s.nextCall + 1 }

def advance (s : Service) (call : Nat) (c : ServiceCall) : Service :=
  { s with calls := s.calls.put call c }

def finish (s : Service) (call : Nat) : Service :=
  { s with calls := s.calls.drop call }

def find (s : Service) (id : Nat) : Option BrokerAccount :=
  s.accounts.find? (fun a => a.id = id)

def cached (s : Service) : Option (List BrokerAccount) :=
  match s.cache with
  | some entry => if s.now < entry.expiresAt then some entry.value else none
  | none => none

def invalidate (s : Service) : Service :=
  { s with cache := none }

/-- The write of `isEnabled`.  An account that it enables is no longer disabled. -/
def setEnabled (s : Service) (id : Nat) (isEnabled : Bool) : Service :=
  { s with
    accounts := s.accounts.map fun a => if a.id = id then { a with isEnabled := isEnabled } else a
    disabled :=
      if isEnabled then s.disabled.filter fun d => decide (d.account ≠ id) else s.disabled }

/-- A disabling call returns.  When another update has enabled the account since the
write, nothing is disabled. -/
def disablingReturns (s : Service) (call id : Nat) : Service :=
  if s.accounts.any fun a => a.id = id ∧ a.isEnabled then s
  else { s with disabled := s.disabled ++ [{ account := id, call := call }] }

/-- The writes of `update` and `delete` to a row that is gone throw. -/
def write (s : Service) (call id : Nat) (written : Service) (next : ServiceCall) : Service :=
  match s.find id with
  | some _ => written.advance call next
  | none => s.finish call

def settle (softCap : Nat) (s : Service) (call : Nat) : Service :=
  match s.calls call with
  | some (.querying respects) =>
      s.advance call (.queried respects (s.accounts.filter fun a => a.isEnabled))
  | some (.queried _ value) =>
      { s with cache := some { value := value, expiresAt := s.now + ttlMs } }.finish call
  | some (.updateFinding userId id isEnabled) =>
      match s.find id with
      | none => s.finish call
      | some acct =>
          if acct.userId ≠ userId then s.finish call
          else if isEnabled = some true ∧ acct.isEnabled = false then
            s.advance call (.updateCounting userId id isEnabled)
          else s.advance call (.updateWriting id isEnabled)
  | some (.updateCounting userId id isEnabled) =>
      if softCap ≤ s.accounts.countP fun a => a.userId = userId ∧ a.isEnabled then
        s.finish call
      else s.advance call (.updateWriting id isEnabled)
  | some (.updateWriting id isEnabled) =>
      s.write call id
        (match isEnabled with
          | some b => s.setEnabled id b
          | none => s)
        (.updateWritten id isEnabled)
  | some (.updateWritten id isEnabled) =>
      if isEnabled = some false then (s.invalidate.disablingReturns call id).finish call
      else s.invalidate.finish call
  | some (.deleteFinding userId id force) =>
      match s.find id with
      | none => s.finish call
      | some acct =>
          if acct.userId ≠ userId then s.finish call
          else s.advance call (.deleteCounting acct force)
  | some (.deleteDisabling id) =>
      s.write call id (s.setEnabled id false) (.deleteWritten id)
  | some (.deleteDeleting id) =>
      s.write call id { s with accounts := s.accounts.filter fun a => decide (a.id ≠ id) }
        (.deleteWritten id)
  | some (.deleteWritten id) => (s.invalidate.disablingReturns call id).finish call
  | some (.deleteCounting _ _) => s
  | some (.deleteDeprovisioning _) => s
  | none => s

def afterCount (s : Service) (call : Nat) (acct : BrokerAccount) (force : Bool)
    (openTrades : Nat) : Service :=
  if 0 < openTrades ∧ force = false then s.finish call
  else if 0 < openTrades ∧ force then s.advance call (.deleteDisabling acct.id)
  else if acct.mt5Direct then s.advance call (.deleteDeprovisioning acct.id)
  else s.advance call (.deleteDeleting acct.id)

end Service

def serviceStep (softCap : Nat) (s : Service) : ServiceOp -> Service
  | .clock now => { s with now := now }
  | .findEnabled =>
      match s.cached with
      | some _ => s
      | none => s.begin (.querying s.disabled)
  | .update userId id isEnabled => s.begin (.updateFinding userId id isEnabled)
  | .delete userId id force => s.begin (.deleteFinding userId id force)
  | .settle call => s.settle softCap call
  | .tradesCounted call openTrades =>
      match s.calls call with
      | some (.deleteCounting acct force) => s.afterCount call acct force openTrades
      | _ => s
  | .deprovisioned call =>
      match s.calls call with
      | some (.deleteDeprovisioning id) => s.advance call (.deleteDeleting id)
      | _ => s
  | .throws call => s.finish call

/-- What a `findEnabled` returns at a step, with the disablings that had returned when
it started. -/
def returned (s : Service) : ServiceOp -> Option (List Disabling × List BrokerAccount)
  | .findEnabled => s.cached.map fun value => (s.disabled, value)
  | .settle call =>
      match s.calls call with
      | some (.queried respects value) => some (respects, value)
      | _ => none
  | _ => none

/-- No account of the list is disabled by one of these calls. -/
def Omits (disabled : List Disabling) (value : List BrokerAccount) : Prop :=
  forall d, d ∈ disabled -> forall a, a ∈ value -> a.id ≠ d.account

instance (disabled : List Disabling) (value : List BrokerAccount) :
    Decidable (Omits disabled value) :=
  inferInstanceAs (Decidable (forall d, d ∈ disabled -> forall a, a ∈ value -> a.id ≠ d.account))

/-- What is returned leaves out the accounts that were disabled when the call started
and have not been enabled since. -/
def Honest (s : Service) (op : ServiceOp) : Prop :=
  match returned s op with
  | some (respects, value) =>
      Omits (respects.filter fun d => decide (d ∈ s.disabled)) value
  | none => True

instance (s : Service) (op : ServiceOp) : Decidable (Honest s op) := by
  unfold Honest
  split <;> infer_instance

/-- A query result is stored only when none of its accounts has been disabled, by a call
that has returned, since the query read it. -/
def StoresCurrent (s : Service) : ServiceOp -> Prop
  | .settle call =>
      match s.calls call with
      | some (.queried _ value) => Omits s.disabled value
      | _ => True
  | _ => True

instance (s : Service) (op : ServiceOp) : Decidable (StoresCurrent s op) := by
  unfold StoresCurrent
  repeat' split
  all_goals infer_instance

/-!
# The cache names no disabled account
-/

section Invariant

variable {softCap : Nat} {s s' : Service} {call : Nat}

def CacheCurrent (s : Service) : Prop :=
  forall entry, s.cache = some entry -> Omits s.disabled entry.value

/-- The cache is cleared, or kept while no account is newly disabled. -/
def Quiet (s s' : Service) : Prop :=
  s'.cache = none ∨ s'.cache = s.cache ∧ s'.disabled ⊆ s.disabled

theorem Omits.subset {disabled fewer : List Disabling} {value : List BrokerAccount}
    (h : Omits disabled value) (hsub : fewer ⊆ disabled) : Omits fewer value :=
  fun d hd => h d (hsub hd)

theorem Quiet.keeps (h : Quiet s s') (hs : CacheCurrent s) : CacheCurrent s' := by
  intro entry hentry
  rcases h with hnone | ⟨hsame, hsub⟩
  · rw [hnone] at hentry
    cases hentry
  · exact (hs entry (hsame.symm.trans hentry)).subset hsub

theorem Quiet.refl (s : Service) : Quiet s s :=
  Or.inr ⟨rfl, List.Subset.refl _⟩

theorem quiet_setEnabled (s : Service) (id : Nat) (isEnabled : Bool) :
    Quiet s (s.setEnabled id isEnabled) := by
  refine Or.inr ⟨rfl, ?_⟩
  unfold Service.setEnabled
  dsimp only
  split_ifs
  · exact List.filter_sublist.subset
  · exact List.Subset.refl _

theorem quiet_write {written : Service} (h : Quiet s written) (call id : Nat)
    (next : ServiceCall) : Quiet s (s.write call id written next) := by
  unfold Service.write
  split
  · exact h
  · exact Quiet.refl s

theorem quiet_disablingReturns (s : Service) (call id : Nat) :
    Quiet s ((s.invalidate.disablingReturns call id).finish call) := by
  unfold Service.disablingReturns
  split_ifs <;> exact Or.inl rfl

theorem quiet_settle (softCap : Nat) (s : Service) (call : Nat)
    (hstore : forall respects value, s.calls call ≠ some (.queried respects value)) :
    Quiet s (s.settle softCap call) := by
  unfold Service.settle
  split
  · exact Quiet.refl s
  · next respects value hcall =>
      exact absurd hcall (hstore respects value)
  · split
    · exact Quiet.refl s
    · split_ifs <;> exact Quiet.refl s
  · split_ifs <;> exact Quiet.refl s
  · apply quiet_write
    split
    · exact quiet_setEnabled s _ _
    · exact Quiet.refl s
  · split_ifs
    · exact quiet_disablingReturns s call _
    · exact Or.inl rfl
  · split
    · exact Quiet.refl s
    · split_ifs <;> exact Quiet.refl s
  · exact quiet_write (quiet_setEnabled s _ _) call _ _
  · apply quiet_write
    exact Or.inr ⟨rfl, List.Subset.refl _⟩
  · exact quiet_disablingReturns s call _
  · exact Quiet.refl s
  · exact Quiet.refl s
  · exact Quiet.refl s

theorem settle_queried {respects : List Disabling} {value : List BrokerAccount}
    (hcall : s.calls call = some (.queried respects value)) :
    s.settle softCap call =
      { s with cache := some { value := value, expiresAt := s.now + ttlMs } }.finish call := by
  simp only [Service.settle, hcall]

theorem serviceStep_current (softCap : Nat) (hs : CacheCurrent s) {op : ServiceOp}
    (hop : StoresCurrent s op) : CacheCurrent (serviceStep softCap s op) := by
  cases op with
  | clock now => exact hs
  | findEnabled =>
      simp only [serviceStep]
      split <;> exact hs
  | update userId id isEnabled => exact hs
  | delete userId id force => exact hs
  | settle call =>
      by_cases hstore : exists respects value, s.calls call = some (.queried respects value)
      · rcases hstore with ⟨respects, value, hcall⟩
        simp only [StoresCurrent, hcall] at hop
        intro entry hentry
        rw [serviceStep, settle_queried hcall] at hentry ⊢
        cases hentry
        exact hop
      · exact (quiet_settle softCap s call fun respects value hcall =>
          hstore ⟨respects, value, hcall⟩).keeps hs
  | tradesCounted call openTrades =>
      simp only [serviceStep]
      split
      · unfold Service.afterCount
        split_ifs <;> exact hs
      · exact hs
  | deprovisioned call =>
      simp only [serviceStep]
      split <;> exact hs
  | throws call => exact hs

theorem cached_eq {value : List BrokerAccount} (h : s.cached = some value) :
    exists entry, s.cache = some entry ∧ entry.value = value := by
  unfold Service.cached at h
  split at h
  · next entry hentry =>
      split_ifs at h
      exact ⟨entry, hentry, Option.some.inj h⟩
  · cases h

theorem honest_of_current (hs : CacheCurrent s) {op : ServiceOp} (hop : StoresCurrent s op) :
    Honest s op := by
  unfold Honest
  split
  · next respects value hreturned =>
      have homits : Omits s.disabled value := by
        cases op with
        | findEnabled =>
            rcases Option.map_eq_some_iff.mp hreturned with ⟨cached, hcached, heq⟩
            rcases cached_eq hcached with ⟨entry, hentry, hvalue⟩
            cases heq
            rw [<- hvalue]
            exact hs entry hentry
        | settle call =>
            simp only [returned] at hreturned
            split at hreturned
            · next respects' value' hcall =>
                simp only [StoresCurrent, hcall] at hop
                cases hreturned
                exact hop
            · cases hreturned
        | clock _ => cases hreturned
        | update _ _ _ => cases hreturned
        | delete _ _ _ => cases hreturned
        | tradesCounted _ _ => cases hreturned
        | deprovisioned _ => cases hreturned
        | throws _ => cases hreturned
      apply homits.subset
      intro d hd
      exact of_decide_eq_true (List.mem_filter.mp hd).2
  · trivial

end Invariant

/-!
# Disabling takes effect at once
-/

theorem cached_stored (s : Service) (call : Nat) (value : List BrokerAccount) :
    ({ s with cache := some { value := value, expiresAt := s.now + ttlMs } }.finish call).cached =
      some value :=
  if_pos (Int.lt_add_of_pos_right s.now (by decide))

theorem stale_store_is_returned (softCap : Nat) {s : Service} {op : ServiceOp}
    (hop : ¬ StoresCurrent s op) : ¬ Honest (serviceStep softCap s op) .findEnabled := by
  cases op with
  | settle call =>
      simp only [StoresCurrent] at hop
      split at hop
      · next respects value hcall =>
          intro hhonest
          apply hop
          rw [serviceStep, settle_queried hcall] at hhonest
          simp only [Honest, returned, cached_stored, Option.map_some] at hhonest
          intro d hd
          exact hhonest d (List.mem_filter.mpr ⟨hd, decide_eq_true hd⟩)
      · exact absurd trivial hop
  | _ => exact absurd trivial hop

/-- Every `findEnabled` leaves out what was disabled before it started in every run that
stores only current query results; after a query result that is not, the next
`findEnabled` returns a disabled account. -/
theorem disabled_accounts_left_out_when_stores_are_current (softCap : Nat)
    (accounts : List BrokerAccount) (now : Int) (ops : List ServiceOp) :
    (EveryStep (serviceStep softCap) StoresCurrent (.start accounts now) ops ->
        EveryStep (serviceStep softCap) Honest (.start accounts now) ops) ∧
      (forall op, ¬ StoresCurrent (runFrom (serviceStep softCap) (.start accounts now) ops) op ->
        ¬ EveryStep (serviceStep softCap) Honest (.start accounts now)
          (ops ++ [op, .findEnabled])) := by
  constructor
  · intro hstores
    apply everyStep_of_inv CacheCurrent (fun _ _ hs hop => serviceStep_current softCap hs hop)
      (fun _ _ hs hop => honest_of_current hs hop) _ hstores
    intro entry hentry
    cases hentry
  · intro op hop hhonest
    exact stale_store_is_returned softCap hop (everyStep_append.mp hhonest).2.2.1

def accountOne : BrokerAccount :=
  { id := 1, userId := 1, isEnabled := true, mt5Direct := false }

/-- A query that starts after the account is disabled does not name it. -/
theorem disabled_account_is_left_out :
    EveryStep (serviceStep 5) Honest (.start [accountOne] 0)
      [.findEnabled, .settle 0, .settle 0, .update 1 1 (some false), .settle 1, .settle 1,
        .settle 1, .findEnabled, .settle 2, .settle 2] :=
  (disabled_accounts_left_out_when_stores_are_current 5 [accountOne] 0 _).1 (by decide +kernel)

/-- A query reads the account, an update disables it and returns, and the query fills
the cache. -/
theorem stale_cache_names_a_disabled_account :
    ¬ EveryStep (serviceStep 5) Honest (.start [accountOne] 0)
      [.findEnabled, .settle 0, .update 1 1 (some false), .settle 1, .settle 1, .settle 1,
        .settle 0, .findEnabled] := by
  decide +kernel

end EnabledCache
end Accounts
end Shamarx
