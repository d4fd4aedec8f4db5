import Shamarx.Accounts.AccountHosting

/-!
# Terminals of the accounts

The rows say which host runs the terminal of an account, and the managers of the hosts keep
slots for terminals.  The two meet only through requests that may be answered late or not
at all.
-/

namespace Shamarx
namespace Accounts
namespace Hosting

open Foundation
open Fleet

/-!
# What a manager does for one account
-/

section Manager

variable {cfg : FleetConfig} {m : Host} {accountId other : String}

theorem allocate_get_of_ne {slots slots' : Slots} {port : Nat}
    (h : allocate cfg slots accountId = .ok (slots', port)) (hne : other ≠ accountId) :
    slots'.get other = slots.get other := by
  rcases allocate_ok h with ⟨-, rfl⟩ | ⟨-, rfl, -, -⟩
  · rfl
  · exact InsertionMap.get_set_of_ne slots port hne

theorem get_erase_of_ne (slots : Slots) (hne : other ≠ accountId) :
    InsertionMap.get (slots.erase accountId) other = InsertionMap.get slots other := by
  rw [InsertionMap.get_erase, if_neg hne]

theorem provision_get_of_ne (f : ProvisionFaults) (hne : other ≠ accountId) :
    (provision cfg m accountId f).1.slots.get other = m.slots.get other := by
  rcases provision_slots cfg m accountId f with hsame | ⟨slots, port, hok, htaken | herased⟩
  · rw [hsame]
  · rw [htaken]
    exact allocate_get_of_ne hok hne
  · rw [herased]
    exact (get_erase_of_ne slots hne).trans (allocate_get_of_ne hok hne)

theorem allocate_get_self {slots slots' : Slots} {port : Nat}
    (h : allocate cfg slots accountId = .ok (slots', port)) :
    slots'.get accountId = some port := by
  rcases allocate_ok h with ⟨hknown, rfl⟩ | ⟨-, rfl, -, -⟩
  · exact hknown
  · exact InsertionMap.get_set_self slots accountId port

theorem provision_connected {f : ProvisionFaults} {port : Nat}
    (h : (provision cfg m accountId f).2 = .connected port) :
    ((provision cfg m accountId f).1.slots.get accountId).isSome = true := by
  unfold provision at h ⊢
  cases hrequest : f.request with
  | some fault =>
      rw [hrequest] at h
      cases h
  | none =>
      cases hallocate : allocate cfg m.slots accountId with
      | error e =>
          rw [hrequest, hallocate] at h
          cases h
      | ok taken =>
          rcases taken with ⟨slots, port'⟩
          rw [hrequest, hallocate] at h
          have hup := bringUp_slots { m with slots := slots } accountId port' f
          dsimp only at h ⊢
          generalize Host.bringUp { m with slots := slots } accountId port' f = run at *
          rcases run with ⟨after, outcome⟩
          cases outcome with
          | none =>
              change (after.slots.get accountId).isSome = true
              rw [show after.slots = slots from hup, allocate_get_self hallocate]
              rfl
          | some fault =>
              cases fault <;> cases h

theorem deprovision_slots (raised : Option Fault) (f : TearDownFaults) :
    (deprovision m accountId raised f).1.slots = m.slots ∨
      (deprovision m accountId raised f).1.slots = m.slots.erase accountId := by
  cases raised with
  | some fault =>
      exact Or.inl rfl
  | none =>
      exact tearDown_slots m accountId f

theorem deprovision_confirmed {raised : Option Fault} {f : TearDownFaults}
    (h : (deprovision m accountId raised f).2 = none) :
    (deprovision m accountId raised f).1.slots.get accountId = none := by
  cases raised with
  | some fault =>
      cases h
  | none =>
      unfold deprovision at h ⊢
      dsimp only at h ⊢
      rw [tearDown_eq] at h ⊢
      split at h
      · cases h
      · next hfault =>
          rw [save_slots, InsertionMap.get_erase, if_pos rfl]

end Manager

/-!
# What the requests say
-/

def HostRequest.accountId : HostRequest -> String
  | .provision _ accountId => accountId
  | .deprovision _ accountId => accountId

def HostRequest.isProvision : HostRequest -> Bool
  | .provision _ _ => true
  | .deprovision _ _ => false

def Provisioned (requests : CallLog HostRequest HostResponse) (host accountId : String) : Prop :=
  exists port status message,
    ({ arg := .provision host accountId
       result := some (.provisioned (.connected port) status message) } :
      LoggedCall HostRequest HostResponse) ∈ requests

def TornDown (requests : CallLog HostRequest HostResponse) (host accountId : String) : Prop :=
  ({ arg := .deprovision host accountId, result := some (.deprovisioned none) } :
    LoggedCall HostRequest HostResponse) ∈ requests

/-- An account is provisioned at most once, and torn down only after that. -/
structure LedgerSound (requests : CallLog HostRequest HostResponse) : Prop where
  once : ((requests.args.filter HostRequest.isProvision).map HostRequest.accountId).Nodup
  deprovisions : forall host accountId, .deprovision host accountId ∈ requests.args ->
    Provisioned requests host accountId

section Ledger

variable {requests : CallLog HostRequest HostResponse} {host accountId : String}

theorem ledgerSound_nil : LedgerSound ([] : CallLog HostRequest HostResponse) := by
  refine ⟨List.nodup_nil, ?_⟩
  intro host accountId h
  cases h

theorem LedgerSound.unique (h : LedgerSound requests)
    {first second : LoggedCall HostRequest HostResponse} (hfirst : first ∈ requests)
    (hsecond : second ∈ requests) (hpfirst : first.arg.isProvision = true)
    (hpsecond : second.arg.isProvision = true)
    (hsame : first.arg.accountId = second.arg.accountId) : first = second := by
  have honce := h.once
  rw [CallLog.args, List.filter_map, List.map_map] at honce
  exact List.inj_on_of_nodup_map honce (List.mem_filter.mpr ⟨hfirst, hpfirst⟩)
    (List.mem_filter.mpr ⟨hsecond, hpsecond⟩) hsame

theorem LedgerSound.host_eq (h : LedgerSound requests) {host' : String}
    (hfirst : Provisioned requests host accountId)
    (hsecond : Provisioned requests host' accountId) : host = host' := by
  rcases hfirst with ⟨port, status, message, hentry⟩
  rcases hsecond with ⟨port', status', message', hentry'⟩
  cases h.unique hentry hentry' rfl rfl rfl
  rfl

theorem mem_of_pending {i : Nat} {r : HostRequest} (h : requests.pending i = some r) :
    ({ arg := r, result := none } : LoggedCall HostRequest HostResponse) ∈ requests :=
  List.mem_of_getElem? (CallLog.pending_eq_some h)

theorem LedgerSound.not_provisioned (h : LedgerSound requests) {i : Nat}
    (hpending : requests.pending i = some (.provision host accountId)) (host' : String) :
    ¬ Provisioned requests host' accountId := by
  rintro ⟨port, status, message, hentry⟩
  cases h.unique hentry (mem_of_pending hpending) rfl rfl rfl

theorem Provisioned.settle (h : Provisioned requests host accountId) (i : Nat)
    (r : HostResponse) : Provisioned (requests.settle i r) host accountId := by
  rcases h with ⟨port, status, message, hentry⟩
  exact ⟨port, status, message, CallLog.mem_settle_of_settled hentry (Option.some_ne_none _)⟩

theorem Provisioned.start (h : Provisioned requests host accountId) (r : HostRequest) :
    Provisioned (requests.start r) host accountId := by
  rcases h with ⟨port, status, message, hentry⟩
  exact ⟨port, status, message, List.mem_append_left _ hentry⟩

theorem TornDown.settle (h : TornDown requests host accountId) (i : Nat) (r : HostResponse) :
    TornDown (requests.settle i r) host accountId :=
  CallLog.mem_settle_of_settled h (Option.some_ne_none _)

theorem TornDown.start (h : TornDown requests host accountId) (r : HostRequest) :
    TornDown (requests.start r) host accountId :=
  List.mem_append_left _ h

theorem TornDown.sent (h : TornDown requests host accountId) :
    .deprovision host accountId ∈ requests.args :=
  List.mem_map.mpr ⟨_, h, rfl⟩

theorem Provisioned.sent (h : Provisioned requests host accountId) :
    .provision host accountId ∈ requests.args := by
  rcases h with ⟨port, status, message, hentry⟩
  exact List.mem_map.mpr ⟨_, hentry, rfl⟩

theorem LedgerSound.settle (h : LedgerSound requests) (i : Nat) (r : HostResponse) :
    LedgerSound (requests.settle i r) := by
  constructor
  · rw [CallLog.args_settle]
    exact h.once
  · intro host accountId hsent
    rw [CallLog.args_settle] at hsent
    exact (h.deprovisions host accountId hsent).settle i r

theorem LedgerSound.startProvision (h : LedgerSound requests)
    (hnew : forall host', .provision host' accountId ∉ requests.args) :
    LedgerSound (requests.start (.provision host accountId)) := by
  constructor
  · rw [CallLog.args_start, List.filter_append, List.map_append]
    have hone : ([HostRequest.provision host accountId].filter HostRequest.isProvision).map
        HostRequest.accountId = [accountId] := rfl
    rw [hone, <- List.concat_eq_append]
    refine h.once.concat ?_
    intro hmem
    rcases List.mem_map.mp hmem with ⟨r, hr, hid⟩
    rcases List.mem_filter.mp hr with ⟨hsent, hprovision⟩
    cases r with
    | provision host' accountId' =>
        cases hid
        exact hnew host' hsent
    | deprovision host' accountId' =>
        cases hprovision
  · intro host' accountId' hsent
    rw [CallLog.args_start] at hsent
    rcases List.mem_append.mp hsent with hold | hnew'
    · exact (h.deprovisions host' accountId' hold).start _
    · cases List.mem_singleton.mp hnew'

theorem LedgerSound.startDeprovision (h : LedgerSound requests)
    (hprovisioned : Provisioned requests host accountId) :
    LedgerSound (requests.start (.deprovision host accountId)) := by
  constructor
  · rw [CallLog.args_start, List.filter_append]
    have hnone : [HostRequest.deprovision host accountId].filter HostRequest.isProvision = [] := rfl
    rw [hnone, List.append_nil]
    exact h.once
  · intro host' accountId' hsent
    rw [CallLog.args_start] at hsent
    rcases List.mem_append.mp hsent with hold | hnew
    · exact (h.deprovisions host' accountId' hold).start _
    · cases List.mem_singleton.mp hnew
      exact hprovisioned.start _

end Ledger

/-!
# The slots of the managers
-/

/-- A slot was asked for, a provisioned account has one until a teardown is asked for, and
a confirmed teardown is final. -/
structure SlotsSound (env : AccountEnv) (s : AccountSystem) : Prop where
  sound : forall host, SoundSlots (env.fleet host) (s.managers host).slots
  asked : forall host accountId, ((s.managers host).slots.get accountId).isSome = true ->
    exists r, ({ arg := .provision host accountId, result := some r } :
      LoggedCall HostRequest HostResponse) ∈ s.requests
  kept : forall host accountId, Provisioned s.requests host accountId ->
    .deprovision host accountId ∉ s.requests.args ->
      ((s.managers host).slots.get accountId).isSome = true
  torn : forall host accountId, TornDown s.requests host accountId ->
    (s.managers host).slots.get accountId = none

section Slots

variable {env : AccountEnv} {s t : AccountSystem}

theorem SlotsSound.of_eq (h : SlotsSound env s) (hmanagers : t.managers = s.managers)
    (hrequests : t.requests = s.requests) : SlotsSound env t := by
  constructor
  · rw [hmanagers]
    exact h.sound
  · rw [hmanagers, hrequests]
    exact h.asked
  · rw [hmanagers, hrequests]
    exact h.kept
  · rw [hmanagers, hrequests]
    exact h.torn

theorem SlotsSound.send (h : SlotsSound env s) (r : HostRequest)
    (hmanagers : t.managers = s.managers) (hrequests : t.requests = s.requests.start r) :
    SlotsSound env t := by
  constructor
  · rw [hmanagers]
    exact h.sound
  · intro host accountId hslot
    rw [hmanagers] at hslot
    rw [hrequests]
    rcases h.asked host accountId hslot with ⟨response, hentry⟩
    exact ⟨response, List.mem_append_left _ hentry⟩
  · intro host accountId hprovisioned hnot
    rw [hrequests, CallLog.args_start, List.mem_append, not_or] at hnot
    rw [hmanagers]
    refine h.kept host accountId ?_ hnot.1
    rcases hprovisioned with ⟨port, status, message, hentry⟩
    rw [hrequests] at hentry
    rcases List.mem_append.mp hentry with hold | hnew
    · exact ⟨port, status, message, hold⟩
    · cases List.mem_singleton.mp hnew
  · intro host accountId htorn
    unfold TornDown at htorn
    rw [hrequests] at htorn
    rw [hmanagers]
    rcases List.mem_append.mp htorn with hold | hnew
    · exact h.torn host accountId hold
    · cases List.mem_singleton.mp hnew

structure Touches (s t : AccountSystem) (host accountId : String) : Prop where
  others : forall host' other, host' ≠ host ∨ other ≠ accountId ->
    (t.managers host').slots.get other = (s.managers host').slots.get other

theorem touches_atHost {host accountId : String} {m : Host}
    (hget : forall other, other ≠ accountId ->
      m.slots.get other = (s.managers host).slots.get other)
    (hmanagers : t.managers = fun h => if h = host then m else s.managers h) :
    Touches s t host accountId := by
  constructor
  intro host' other hother
  rw [hmanagers]
  dsimp only
  split_ifs with hhost
  · rw [hhost]
    exact hget other (hother.resolve_left (not_not.mpr hhost))
  · rfl

theorem SlotsSound.handleProvision (h : SlotsSound env s) (hledger : LedgerSound s.requests)
    (request : Nat) (f : ProvisionFaults) (status : Nat) (message : String) :
    SlotsSound env (s.handleProvision env request f status message) := by
  unfold AccountSystem.handleProvision
  split
  · next host accountId hpending =>
      have hnew := hledger.not_provisioned hpending
      have hsound : SoundSlots (env.fleet host)
          (provision (env.fleet host) (s.managers host) accountId f).1.slots :=
        soundSlots_step (h.sound host) (FleetOp.provision accountId f)
      have hconnected : forall port, (provision (env.fleet host) (s.managers host) accountId f).2 =
          .connected port -> ((provision (env.fleet host) (s.managers host) accountId
            f).1.slots.get accountId).isSome = true := fun _ => provision_connected
      have hothers : forall other, other ≠ accountId ->
          (provision (env.fleet host) (s.managers host) accountId f).1.slots.get other =
            (s.managers host).slots.get other := fun _ hne => provision_get_of_ne f hne
      generalize provision (env.fleet host) (s.managers host) accountId f = run at *
      rcases run with ⟨m, result⟩
      dsimp only at hsound hconnected hothers ⊢
      have htouches := touches_atHost (t := { s.atHost host m with
        requests := s.requests.settle request (.provisioned result status message) }) hothers rfl
      constructor
      · intro host'
        change SoundSlots (env.fleet host') (if host' = host then m else s.managers host').slots
        split_ifs with hhost
        · rw [hhost]
          exact hsound
        · exact h.sound host'
      · intro host' other hslot
        by_cases hself : host' = host ∧ other = accountId
        · rw [hself.1, hself.2]
          exact ⟨_, CallLog.mem_settle_self _ hpending⟩
        · rw [htouches.others host' other (not_and_or.mp hself)] at hslot
          rcases h.asked host' other hslot with ⟨response, hentry⟩
          exact ⟨response, CallLog.mem_settle_of_settled hentry (Option.some_ne_none _)⟩
      · rintro host' other ⟨port, status', message', hentry⟩ hnot
        change HostRequest.deprovision host' other ∉ (s.requests.settle request _).args at hnot
        rw [CallLog.args_settle] at hnot
        rcases CallLog.mem_settle hpending hentry with hold | hsettled
        · have hprovisioned : Provisioned s.requests host' other := ⟨port, status', message', hold⟩
          have hne : other ≠ accountId := by
            rintro rfl
            exact hnew host' hprovisioned
          rw [htouches.others host' other (Or.inr hne)]
          exact h.kept host' other hprovisioned hnot
        · cases hsettled
          change ((if host = host then m else s.managers host).slots.get accountId).isSome = true
          rw [if_pos rfl]
          exact hconnected port rfl
      · intro host' other htorn
        rcases CallLog.mem_settle hpending htorn with hold | hsettled
        · have hne : other ≠ accountId := by
            rintro rfl
            exact hnew host' (hledger.deprovisions host' other (TornDown.sent hold))
          rw [htouches.others host' other (Or.inr hne)]
          exact h.torn host' other hold
        · cases hsettled
  · exact h

theorem SlotsSound.handleDeprovision (h : SlotsSound env s) (request : Nat)
    (raised : Option Fault) (f : TearDownFaults) :
    SlotsSound env (s.handleDeprovision request raised f) := by
  unfold AccountSystem.handleDeprovision
  split
  · next host accountId hpending =>
      have hsound : SoundSlots (env.fleet host)
          (deprovision (s.managers host) accountId raised f).1.slots :=
        soundSlots_step (h.sound host) (FleetOp.deprovision accountId raised f)
      have hslots : (deprovision (s.managers host) accountId raised f).1.slots =
            (s.managers host).slots ∨
          (deprovision (s.managers host) accountId raised f).1.slots =
            (s.managers host).slots.erase accountId := deprovision_slots raised f
      have hconfirmed : (deprovision (s.managers host) accountId raised f).2 = none ->
          (deprovision (s.managers host) accountId raised f).1.slots.get accountId = none :=
        deprovision_confirmed
      generalize deprovision (s.managers host) accountId raised f = run at *
      rcases run with ⟨m, fault⟩
      dsimp only at hsound hslots hconfirmed ⊢
      have hothers : forall other, other ≠ accountId ->
          m.slots.get other = (s.managers host).slots.get other := by
        intro other hne
        rcases hslots with hsame | herased
        · rw [hsame]
        · rw [herased]
          exact get_erase_of_ne _ hne
      have hfewer : forall host' other,
          ((if host' = host then m else s.managers host').slots.get other).isSome = true ->
            ((s.managers host').slots.get other).isSome = true := by
        intro host' other hslot
        split_ifs at hslot with hhost
        · rw [hhost]
          rcases hslots with hsame | herased
          · rw [<- hsame]
            exact hslot
          · rw [herased] at hslot
            rcases Option.isSome_iff_exists.mp hslot with ⟨port, hport⟩
            exact Option.isSome_iff_exists.mpr ⟨port, InsertionMap.get_of_get_erase hport⟩
        · exact hslot
      have htouches := touches_atHost (t := { s.atHost host m with
        requests := s.requests.settle request (.deprovisioned fault) }) hothers rfl
      constructor
      · intro host'
        change SoundSlots (env.fleet host') (if host' = host then m else s.managers host').slots
        split_ifs with hhost
        · rw [hhost]
          exact hsound
        · exact h.sound host'
      · intro host' other hslot
        rcases h.asked host' other (hfewer host' other hslot) with ⟨response, hentry⟩
        exact ⟨response, CallLog.mem_settle_of_settled hentry (Option.some_ne_none _)⟩
      · rintro host' other ⟨port, status, message, hentry⟩ hnot
        change HostRequest.deprovision host' other ∉ (s.requests.settle request _).args at hnot
        rw [CallLog.args_settle] at hnot
        rcases CallLog.mem_settle hpending hentry with hold | hsettled
        · have hne : host' ≠ host ∨ other ≠ accountId := by
            by_contra hself
            rw [not_or, not_not, not_not] at hself
            rw [hself.1, hself.2] at hnot
            exact hnot (List.mem_map.mpr ⟨_, mem_of_pending hpending, rfl⟩)
          rw [htouches.others host' other hne]
          exact h.kept host' other ⟨port, status, message, hold⟩ hnot
        · cases hsettled
      · intro host' other htorn
        rcases CallLog.mem_settle hpending htorn with hold | hsettled
        · have hnone := h.torn host' other hold
          by_contra hsome
          have hslot := hfewer host' other (Option.isSome_iff_ne_none.mpr hsome)
          rw [hnone] at hslot
          cases hslot
        · cases hsettled
          change (if host = host then m else s.managers host).slots.get accountId = none
          rw [if_pos rfl]
          exact hconfirmed rfl
  · exact h

theorem SlotsSound.restarts (h : SlotsSound env s) (host accountId : String) (f : RestartFaults) :
    SlotsSound env (s.atHost host (restart (s.managers host) accountId f).1) := by
  have hslots : forall host', ((s.atHost host (restart (s.managers host) accountId f).1).managers
      host').slots = (s.managers host').slots := by
    intro host'
    change (if host' = host then (restart (s.managers host) accountId f).1
      else s.managers host').slots = _
    split_ifs with hhost
    · rw [restart_slots, hhost]
    · rfl
  constructor
  · intro host'
    rw [hslots]
    exact h.sound host'
  · intro host' other
    rw [hslots]
    exact h.asked host' other
  · intro host' other
    rw [hslots]
    exact h.kept host' other
  · intro host' other
    rw [hslots]
    exact h.torn host' other

end Slots

/-!
# What rows and calls know of the requests
-/

def AccountCall.creates : AccountCall -> Option String
  | .selecting account => some account.id
  | .provisioning account _ _ => some account.id
  | .stamping account _ => some account.id
  | .cleaning account _ => some account.id
  | _ => none

/-- The terminal a call of `create` is about to enter in its row. -/
def AccountCall.owns : AccountCall -> Option (String × String)
  | .provisioning account host _ => some (host, account.id)
  | .stamping account host => some (host, account.id)
  | _ => none

/-- Somebody answers for the terminal, or it is noted as stranded, or gone. -/
def Owned (s : AccountSystem) (host accountId : String) : Prop :=
  (exists a, a ∈ s.accounts ∧ a.id = accountId ∧ a.hostId = some host) ∨
    (exists call c, s.calls.get call = some c ∧ c.owns = some (host, accountId)) ∨
    (host, accountId) ∈ s.stranded ∨ TornDown s.requests host accountId

def PhaseSound (s : AccountSystem) : AccountCall -> Prop
  | .selecting account => forall host, .provision host account.id ∉ s.requests.args
  | .provisioning account host request =>
      s.requests.args[request]? = some (.provision host account.id)
  | .stamping account host => Provisioned s.requests host account.id
  | .deprovisioning _ id host request => s.requests.args[request]? = some (.deprovision host id)
  | .deleteDeleting _ id (some host) => TornDown s.requests host id
  | _ => True

structure HostingSound (s : AccountSystem) : Prop extends AccountsSound s where
  ledger : LedgerSound s.requests
  requested : forall r, r ∈ s.requests.args -> r.accountId ∈ s.usedIds
  hosted : forall a, a ∈ s.accounts -> forall host, a.hostId = some host ->
    Provisioned s.requests host a.id
  creators : forall i c j d, s.calls.get i = some c -> s.calls.get j = some d ->
    c.creates.isSome = true -> c.creates = d.creates -> i = j
  phases : forall call c, s.calls.get call = some c -> PhaseSound s c
  owned : forall host accountId, .provision host accountId ∈ s.requests.args ->
    Owned s host accountId
  unhosted : forall a, a ∈ s.accounts -> a.broker = .mt5Direct -> a.hostId = none ->
    (exists call c, s.calls.get call = some c ∧ c.creates = some a.id) ∨
      (a.id, CreateEnd.left) ∈ s.created
  cleaned : forall id, (id, CreateEnd.cleaned) ∈ s.created ->
    id ∈ s.usedIds ∧ forall a, a ∈ s.accounts -> a.id ≠ id
  returned : forall id, (id, CreateEnd.returned) ∈ s.created ->
    id ∈ s.usedIds ∧
      forall a, a ∈ s.accounts -> a.id = id -> a.broker = .mt5Direct -> a.hostId ≠ none

theorem hostingSound_start (hosts : List Mt5Host) : HostingSound (.start hosts) := by
  refine ⟨accountsSound_start hosts, ledgerSound_nil, ?_, ?_, ?_, ?_, ?_, ?_, ?_, ?_⟩
  · intro r hr
    cases hr
  · intro a ha
    cases ha
  · intro i c j d hi
    cases hi
  · intro call c hc
    cases hc
  · intro host accountId hsent
    cases hsent
  · intro a ha
    cases ha
  · intro id hid
    cases hid
  · intro id hid
    cases hid

section Hosting

variable {s t : AccountSystem}

theorem HostingSound.of_eq (h : HostingSound s) (hsound : AccountsSound t)
    (haccounts : t.accounts = s.accounts) (hused : t.usedIds = s.usedIds)
    (hcalls : t.calls = s.calls) (hrequests : t.requests = s.requests)
    (hcreated : t.created = s.created) (hstranded : t.stranded ⊇ s.stranded) :
    HostingSound t := by
  refine ⟨hsound, ?_, ?_, ?_, ?_, ?_, ?_, ?_, ?_, ?_⟩
  · rw [hrequests]
    exact h.ledger
  · rw [hrequests, hused]
    exact h.requested
  · rw [haccounts, hrequests]
    exact h.hosted
  · rw [hcalls]
    exact h.creators
  · intro call c hc
    rw [hcalls] at hc
    have hphase := h.phases call c hc
    unfold PhaseSound at hphase ⊢
    rw [hrequests]
    exact hphase
  · intro host accountId hsent
    rw [hrequests] at hsent
    have howned := h.owned host accountId hsent
    unfold Owned at howned ⊢
    rw [haccounts, hcalls, hrequests]
    exact howned.imp_right fun hrest => hrest.imp_right fun hlast =>
      hlast.imp_left fun hmem => hstranded hmem
  · rw [haccounts, hcalls, hcreated]
    exact h.unhosted
  · rw [hcreated, hused, haccounts]
    exact h.cleaned
  · rw [hcreated, hused, haccounts]
    exact h.returned

theorem PhaseSound.settle {c : AccountCall} (h : PhaseSound s c) (i : Nat) (r : HostResponse)
    (hrequests : t.requests = s.requests.settle i r) : PhaseSound t c := by
  unfold PhaseSound at h ⊢
  rw [hrequests, CallLog.args_settle]
  split
  · exact h
  · exact h
  · exact h.settle i r
  · exact h
  · exact TornDown.settle h i r
  · trivial

theorem PhaseSound.start {c : AccountCall} (h : PhaseSound s c) (r : HostRequest)
    (hrequests : t.requests = s.requests.start r)
    (hnew : forall account, c = .selecting account -> r.accountId ≠ account.id) :
    PhaseSound t c := by
  unfold PhaseSound at h ⊢
  rw [hrequests, CallLog.args_start]
  split
  · next account =>
      intro host hsent
      rcases List.mem_append.mp hsent with hold | hself
      · exact h host hold
      · exact hnew account rfl (congrArg HostRequest.accountId (List.mem_singleton.mp hself).symm)
  · next account host request =>
      have hlt := (List.getElem?_eq_some_iff.mp h).1
      rw [List.getElem?_append_left hlt]
      exact h
  · exact h.start r
  · next userId id host request =>
      have hlt := (List.getElem?_eq_some_iff.mp h).1
      rw [List.getElem?_append_left hlt]
      exact h
  · exact TornDown.start h r
  · trivial

theorem HostingSound.settle (h : HostingSound s) (i : Nat) (r : HostResponse)
    (hsound : AccountsSound t) (haccounts : t.accounts = s.accounts)
    (hused : t.usedIds = s.usedIds) (hcalls : t.calls = s.calls)
    (hrequests : t.requests = s.requests.settle i r) (hcreated : t.created = s.created)
    (hstranded : t.stranded = s.stranded) : HostingSound t := by
  refine ⟨hsound, ?_, ?_, ?_, ?_, ?_, ?_, ?_, ?_, ?_⟩
  · rw [hrequests]
    exact h.ledger.settle i r
  · rw [hrequests, hused, CallLog.args_settle]
    exact h.requested
  · rw [haccounts, hrequests]
    exact fun a ha host hhost => (h.hosted a ha host hhost).settle i r
  · rw [hcalls]
    exact h.creators
  · rw [hcalls]
    exact fun call c hc => (h.phases call c hc).settle i r hrequests
  · intro host accountId hsent
    rw [hrequests, CallLog.args_settle] at hsent
    have howned := h.owned host accountId hsent
    unfold Owned at howned ⊢
    rw [haccounts, hcalls, hrequests, hstranded]
    exact howned.imp_right fun hrest => hrest.imp_right fun hlast =>
      hlast.imp_right fun htorn => htorn.settle i r
  · rw [haccounts, hcalls, hcreated]
    exact h.unhosted
  · rw [hcreated, hused, haccounts]
    exact h.cleaned
  · rw [hcreated, hused, haccounts]
    exact h.returned

/-!
# Calls that move on or end
-/

theorem get_set_cases {calls : InsertionMap Nat AccountCall} {call i : Nat} {c d : AccountCall}
    (h : (calls.set call d).get i = some c) :
    (i = call ∧ c = d) ∨ (i ≠ call ∧ calls.get i = some c) := by
  by_cases hi : i = call
  · rw [hi, InsertionMap.get_set_self] at h
    exact Or.inl ⟨hi, (Option.some.inj h).symm⟩
  · rw [InsertionMap.get_set_of_ne calls d hi] at h
    exact Or.inr ⟨hi, h⟩

theorem get_erase_cases {calls : InsertionMap Nat AccountCall} {call i : Nat} {c : AccountCall}
    (h : (calls.erase call).get i = some c) : i ≠ call ∧ calls.get i = some c := by
  rw [InsertionMap.get_erase] at h
  split_ifs at h with hi
  exact ⟨hi, h⟩

theorem HostingSound.advance (h : HostingSound s) {call : Nat} {c d : AccountCall}
    (hcall : s.calls.get call = some c) (hsound : AccountsSound (s.advance call d))
    (hcreates : d.creates = c.creates) (hphase : PhaseSound s d)
    (howns : forall terminal, c.owns = some terminal ->
      d.owns = some terminal ∨ terminal ∈ s.stranded) :
    HostingSound (s.advance call d) := by
  refine ⟨hsound, h.ledger, h.requested, h.hosted, ?_, ?_, ?_, ?_, h.cleaned, h.returned⟩
  · intro i x j y hx hy hsome hsame
    rcases get_set_cases hx with ⟨hi, hxd⟩ | ⟨hi, hx'⟩
    · rw [hxd, hcreates] at hsome hsame
      rcases get_set_cases hy with ⟨hj, -⟩ | ⟨hj, hy'⟩
      · rw [hi, hj]
      · exact hi.trans (h.creators call c j y hcall hy' hsome hsame)
    · rcases get_set_cases hy with ⟨hj, hyd⟩ | ⟨hj, hy'⟩
      · rw [hyd, hcreates] at hsame
        exact (h.creators i x call c hx' hcall hsome hsame).trans hj.symm
      · exact h.creators i x j y hx' hy' hsome hsame
  · intro i x hx
    rcases get_set_cases hx with ⟨-, rfl⟩ | ⟨-, hx⟩
    · exact hphase
    · exact h.phases i x hx
  · intro host accountId hsent
    rcases h.owned host accountId hsent with hrow | ⟨i, x, hx, hown⟩ | hlast
    · exact Or.inl hrow
    · by_cases hi : i = call
      · rw [hi, hcall] at hx
        cases hx
        rcases howns _ hown with hown' | hstranded
        · exact Or.inr (Or.inl ⟨call, d, InsertionMap.get_set_self s.calls call d, hown'⟩)
        · exact Or.inr (Or.inr (Or.inl hstranded))
      · exact Or.inr (Or.inl ⟨i, x, (InsertionMap.get_set_of_ne s.calls d hi).trans hx, hown⟩)
    · exact Or.inr (Or.inr hlast)
  · intro a ha hmt5 hnone
    rcases h.unhosted a ha hmt5 hnone with ⟨i, x, hx, hcreate⟩ | hleft
    · by_cases hi : i = call
      · rw [hi, hcall] at hx
        cases hx
        exact Or.inl ⟨call, d, InsertionMap.get_set_self s.calls call d, hcreates.trans hcreate⟩
      · exact Or.inl ⟨i, x, (InsertionMap.get_set_of_ne s.calls d hi).trans hx, hcreate⟩
    · exact Or.inr hleft

theorem owns_of_creates_none {c : AccountCall} (h : c.creates = none) : c.owns = none := by
  cases c with
  | provisioning account host request =>
      cases h
  | stamping account host =>
      cases h
  | _ =>
      rfl

theorem HostingSound.advance_plain (h : HostingSound s) {call : Nat} {c d : AccountCall}
    (hcall : s.calls.get call = some c) (hsound : AccountsSound (s.advance call d))
    (hc : c.creates = none) (hd : d.creates = none) (hphase : PhaseSound s d) :
    HostingSound (s.advance call d) := by
  refine h.advance hcall hsound (hd.trans hc.symm) hphase ?_
  intro terminal hown
  cases (owns_of_creates_none hc).symm.trans hown

theorem HostingSound.finish (h : HostingSound s) {call : Nat} {c : AccountCall}
    (hcall : s.calls.get call = some c) (hc : c.creates = none) (result : AccountResult) :
    HostingSound (s.finish call result) := by
  have hsound := ((MovedBy.refl h.toAccountsSound "").finish call result).sound
  have hother : forall i x, s.calls.get i = some x -> x.creates ≠ none ->
      (s.calls.erase call).get i = some x := by
    intro i x hx hcreates
    rw [InsertionMap.get_erase, if_neg, hx]
    rintro rfl
    rw [hcall] at hx
    cases hx
    exact hcreates hc
  refine ⟨hsound, h.ledger, h.requested, h.hosted, ?_, ?_, ?_, ?_, h.cleaned, h.returned⟩
  · intro i x j y hx hy
    exact h.creators i x j y (get_erase_cases hx).2 (get_erase_cases hy).2
  · intro i x hx
    exact h.phases i x (get_erase_cases hx).2
  · intro host accountId hsent
    rcases h.owned host accountId hsent with hrow | ⟨i, x, hx, hown⟩ | hlast
    · exact Or.inl hrow
    · refine Or.inr (Or.inl ⟨i, x, hother i x hx ?_, hown⟩)
      intro hnone
      cases (owns_of_creates_none hnone).symm.trans hown
    · exact Or.inr (Or.inr hlast)
  · intro a ha hmt5 hnone
    rcases h.unhosted a ha hmt5 hnone with ⟨i, x, hx, hcreate⟩ | hleft
    · refine Or.inl ⟨i, x, hother i x hx ?_, hcreate⟩
      rw [hcreate]
      exact Option.some_ne_none _
    · exact Or.inr hleft

def EndSound (s : AccountSystem) (id : String) : CreateEnd -> Prop
  | .returned => forall a, a ∈ s.accounts -> a.id = id -> a.broker = .mt5Direct -> a.hostId ≠ none
  | .cleaned => forall a, a ∈ s.accounts -> a.id ≠ id
  | .left => True

theorem HostingSound.endCreate (h : HostingSound s) {call : Nat} {c : AccountCall} {id : String}
    (hcall : s.calls.get call = some c) (hcreates : c.creates = some id)
    (htarget : c.target = some id) {e : CreateEnd} (hend : EndSound s id e)
    (howns : forall host, c.owns = some (host, id) ->
      exists a, a ∈ s.accounts ∧ a.id = id ∧ a.hostId = some host)
    (result : AccountResult) : HostingSound (s.endCreate call id e result) := by
  have hsound := ((MovedBy.refl h.toAccountsSound "").endCreate call id e result).sound
  have hused := (h.targets call c hcall id htarget).1
  have howner : forall terminal, c.owns = some terminal -> terminal.2 = id := by
    intro terminal hown
    cases c with
    | provisioning account host request =>
        cases hown
        exact Option.some.inj hcreates
    | stamping account host =>
        cases hown
        exact Option.some.inj hcreates
    | _ =>
        cases hown
  have hother : forall i x, i ≠ call -> s.calls.get i = some x ->
      (s.calls.erase call).get i = some x := by
    intro i x hi hx
    rw [InsertionMap.get_erase, if_neg hi, hx]
  refine ⟨hsound, h.ledger, h.requested, h.hosted, ?_, ?_, ?_, ?_, ?_, ?_⟩
  · intro i x j y hx hy
    exact h.creators i x j y (get_erase_cases hx).2 (get_erase_cases hy).2
  · intro i x hx
    exact h.phases i x (get_erase_cases hx).2
  · intro host accountId hsent
    rcases h.owned host accountId hsent with hrow | ⟨i, x, hx, hown⟩ | hlast
    · exact Or.inl hrow
    · by_cases hi : i = call
      · rw [hi, hcall] at hx
        cases hx
        cases howner _ hown
        exact Or.inl (howns host hown)
      · exact Or.inr (Or.inl ⟨i, x, hother i x hi hx, hown⟩)
    · exact Or.inr (Or.inr hlast)
  · intro a ha hmt5 hnone
    rcases h.unhosted a ha hmt5 hnone with ⟨i, x, hx, hcreate⟩ | hleft
    · by_cases hi : i = call
      · rw [hi, hcall] at hx
        cases hx
        cases Option.some.inj (hcreates.symm.trans hcreate)
        cases e with
        | returned =>
            exact absurd hnone (hend a ha rfl hmt5)
        | cleaned =>
            exact absurd rfl (hend a ha)
        | left =>
            exact Or.inr (List.mem_append_right _ (List.mem_singleton_self _))
      · exact Or.inl ⟨i, x, hother i x hi hx, hcreate⟩
    · exact Or.inr (List.mem_append_left _ hleft)
  · intro other hmem
    rcases List.mem_append.mp hmem with hold | hnew
    · exact h.cleaned other hold
    · cases List.mem_singleton.mp hnew
      exact ⟨hused, hend⟩
  · intro other hmem
    rcases List.mem_append.mp hmem with hold | hnew
    · exact h.returned other hold
    · cases List.mem_singleton.mp hnew
      exact ⟨hused, hend⟩

theorem HostingSound.begin (h : HostingSound s) {c : AccountCall} (htarget : c.target = none)
    (hcreates : c.creates = none) (hphase : PhaseSound s c) : HostingSound (s.begin c.userId c) := by
  have hnew : forall i x, s.calls.get i = some x -> (s.calls.set s.nextCall c).get i = some x := by
    intro i x hx
    rw [InsertionMap.get_set_of_ne s.calls c (Nat.ne_of_lt (h.begun hx)), hx]
  refine ⟨accountsSound_begin h.toAccountsSound htarget, h.ledger, h.requested, h.hosted, ?_, ?_,
    ?_, ?_, h.cleaned, h.returned⟩
  · intro i x j y hx hy hsome hsame
    rcases get_set_cases hx with ⟨-, rfl⟩ | ⟨-, hx⟩
    · rw [hcreates] at hsome
      cases hsome
    · rcases get_set_cases hy with ⟨-, rfl⟩ | ⟨-, hy⟩
      · rw [hsame, hcreates] at hsome
        cases hsome
      · exact h.creators i x j y hx hy hsome hsame
  · intro i x hx
    rcases get_set_cases hx with ⟨-, rfl⟩ | ⟨-, hx⟩
    · exact hphase
    · exact h.phases i x hx
  · intro host accountId hsent
    exact (h.owned host accountId hsent).imp_right fun hrest =>
      hrest.imp_left fun ⟨i, x, hx, hown⟩ => ⟨i, x, hnew i x hx, hown⟩
  · intro a ha hmt5 hnone
    exact (h.unhosted a ha hmt5 hnone).imp_left fun ⟨i, x, hx, hcreate⟩ =>
      ⟨i, x, hnew i x hx, hcreate⟩

/-!
# Rows that change, go or come
-/

/-- A change that keeps the host of a row, or enters one that runs its terminal. -/
structure KeepsHost (s : AccountSystem) (accountId : String)
    (change : BrokerAccount -> BrokerAccount) : Prop extends KeepsOwner change where
  broker : forall a, (change a).broker = a.broker
  host : forall a : BrokerAccount, a.id = accountId -> (change a).hostId = a.hostId ∨
    exists host, (change a).hostId = some host ∧ Provisioned s.requests host accountId

theorem keepsHost_applyUpdate (s : AccountSystem) (id : String) (dto : UpdateBrokerAccountDto) :
    KeepsHost s id (BrokerAccount.applyUpdate dto) :=
  ⟨keepsOwner_applyUpdate dto, fun _ => rfl, fun _ _ => Or.inl rfl⟩

theorem keepsHost_disable (s : AccountSystem) (id : String) :
    KeepsHost s id BrokerAccount.disable :=
  ⟨keepsOwner_disable, fun _ => rfl, fun _ _ => Or.inl rfl⟩

theorem keepsHost_stamp {id host : String} (h : Provisioned s.requests host id) (now : Int) :
    KeepsHost s id (BrokerAccount.stamp host now) :=
  ⟨keepsOwner_stamp host now, fun _ => rfl, fun _ _ => Or.inr ⟨host, rfl, h⟩⟩

theorem HostingSound.changeRow (h : HostingSound s) {id : String}
    {change : BrokerAccount -> BrokerAccount} (hchange : KeepsHost s id change)
    (hsound : AccountsSound (s.changeRow id change)) : HostingSound (s.changeRow id change) := by
  have hid : forall a : BrokerAccount, (if a.id = id then change a else a).id = a.id := by
    intro a
    split_ifs
    · exact hchange.id a
    · rfl
  have hbroker : forall a : BrokerAccount,
      (if a.id = id then change a else a).broker = a.broker := by
    intro a
    split_ifs
    · exact hchange.broker a
    · rfl
  -- A row that had a host keeps it: an account is provisioned on one host only.
  have hkept : forall a, a ∈ s.accounts -> forall host, a.hostId = some host ->
      (if a.id = id then change a else a).hostId = some host := by
    intro a ha host hhost
    split_ifs with hsame
    · rcases hchange.host a hsame with hold | ⟨host', hnew, hprovisioned⟩
      · rw [hold, hhost]
      · have hhosted := h.hosted a ha host hhost
        rw [hsame] at hhosted
        rw [hnew, h.ledger.host_eq hprovisioned hhosted]
    · exact hhost
  have hnone : forall a : BrokerAccount, (if a.id = id then change a else a).hostId = none ->
      a ∈ s.accounts -> a.hostId = none := by
    intro a hgone ha
    by_contra hsome
    rcases Option.ne_none_iff_exists'.mp hsome with ⟨host, hhost⟩
    cases (hkept a ha host hhost).symm.trans hgone
  refine ⟨hsound, h.ledger, h.requested, ?_, h.creators, h.phases, ?_, ?_, ?_, ?_⟩
  · intro b hb host hhost
    rcases List.mem_map.mp hb with ⟨a, ha, rfl⟩
    rw [hid]
    split_ifs at hhost with hsame
    · rcases hchange.host a hsame with hold | ⟨host', hnew, hprovisioned⟩
      · exact h.hosted a ha host (hold.symm.trans hhost)
      · cases hnew.symm.trans hhost
        rw [hsame]
        exact hprovisioned
    · exact h.hosted a ha host hhost
  · intro host accountId hsent
    refine (h.owned host accountId hsent).imp_left ?_
    rintro ⟨a, ha, hida, hhost⟩
    exact ⟨_, List.mem_map_of_mem ha, (hid a).trans hida, hkept a ha host hhost⟩
  · intro b hb hmt5 hgone
    rcases List.mem_map.mp hb with ⟨a, ha, rfl⟩
    rw [hbroker] at hmt5
    have hold := h.unhosted a ha hmt5 (hnone a hgone ha)
    rw [hid]
    exact hold
  · intro other hmem
    rcases h.cleaned other hmem with ⟨hused, hrows⟩
    refine ⟨hused, ?_⟩
    intro b hb
    rcases List.mem_map.mp hb with ⟨a, ha, rfl⟩
    rw [hid]
    exact hrows a ha
  · intro other hmem
    rcases h.returned other hmem with ⟨hused, hrows⟩
    refine ⟨hused, ?_⟩
    intro b hb hsame hmt5 hgone
    rcases List.mem_map.mp hb with ⟨a, ha, rfl⟩
    rw [hid] at hsame
    rw [hbroker] at hmt5
    exact hrows a ha hsame hmt5 (hnone a hgone ha)

theorem HostingSound.deleteRow (h : HostingSound s) {id : String} {torn : Option String}
    (htorn : forall host, torn = some host -> TornDown s.requests host id)
    (hsound : AccountsSound (s.deleteRow id torn)) : HostingSound (s.deleteRow id torn) := by
  refine ⟨hsound, h.ledger, h.requested, ?_, h.creators, h.phases, ?_, ?_, ?_, ?_⟩
  · exact fun a ha => h.hosted a (List.mem_of_mem_filter ha)
  · intro host accountId hsent
    rcases h.owned host accountId hsent with ⟨a, ha, hida, hhost⟩ | hcall | hstranded | hgone
    · by_cases hsame : a.id = id
      · refine Or.inr (Or.inr ?_)
        by_cases hconfirmed : torn = some host
        · right
          rw [<- hida, hsame]
          exact htorn host hconfirmed
        · left
          refine List.mem_append_right _ (List.mem_filterMap.mpr ⟨a, ?_, ?_⟩)
          · exact List.mem_filter.mpr ⟨ha, decide_eq_true hsame⟩
          · rw [hhost, if_neg fun heq => hconfirmed heq.symm, hida]
            rfl
      · exact Or.inl ⟨a, List.mem_filter.mpr ⟨ha, decide_eq_true hsame⟩, hida, hhost⟩
    · exact Or.inr (Or.inl hcall)
    · exact Or.inr (Or.inr (Or.inl (List.mem_append_left _ hstranded)))
    · exact Or.inr (Or.inr (Or.inr hgone))
  · exact fun a ha => h.unhosted a (List.mem_of_mem_filter ha)
  · intro other hmem
    rcases h.cleaned other hmem with ⟨hused, hrows⟩
    exact ⟨hused, fun a ha => hrows a (List.mem_of_mem_filter ha)⟩
  · intro other hmem
    rcases h.returned other hmem with ⟨hused, hrows⟩
    exact ⟨hused, fun a ha => hrows a (List.mem_of_mem_filter ha)⟩

structure RowInserted (s t : AccountSystem) (call : Nat) (a : BrokerAccount) : Prop where
  accounts : t.accounts = s.accounts ++ [a]
  used : t.usedIds = s.usedIds ++ [a.id]
  requests : t.requests = s.requests
  stranded : t.stranded = s.stranded
  next : (t.calls = s.calls.set call (.selecting a) ∧ t.created = s.created) ∨
    (exists e, t.calls = s.calls.erase call ∧ t.created = s.created ++ [(a.id, e)] ∧
      e ≠ .cleaned ∧ (a.broker = .mt5Direct -> e = .left))

section Inserted

variable {call : Nat} {c : AccountCall} {a : BrokerAccount}

theorem RowInserted.mem_accounts (hins : RowInserted s t call a) {b : BrokerAccount}
    (hb : b ∈ t.accounts) : b ∈ s.accounts ∨ b = a := by
  rw [hins.accounts] at hb
  exact (List.mem_append.mp hb).imp_right List.mem_singleton.mp

theorem RowInserted.mem_used (hins : RowInserted s t call a) {id : String}
    (hid : id ∈ s.usedIds) : id ∈ t.usedIds := by
  rw [hins.used]
  exact List.mem_append_left _ hid

theorem RowInserted.call_cases (hins : RowInserted s t call a) {i : Nat} {x : AccountCall}
    (hx : t.calls.get i = some x) : (x = .selecting a ∧ i = call) ∨ s.calls.get i = some x := by
  rcases hins.next with ⟨hcalls, -⟩ | ⟨e, hcalls, -⟩
  · rw [hcalls] at hx
    rcases get_set_cases hx with ⟨hi, hxd⟩ | ⟨-, hx⟩
    · exact Or.inl ⟨hxd, hi⟩
    · exact Or.inr hx
  · rw [hcalls] at hx
    exact Or.inr (get_erase_cases hx).2

theorem RowInserted.keeps_creator (hins : RowInserted s t call a)
    (hcall : s.calls.get call = some c) (hc : c.creates = none) {i : Nat} {x : AccountCall}
    (hx : s.calls.get i = some x) (hcreates : x.creates ≠ none) : t.calls.get i = some x := by
  have hi : i ≠ call := by
    rintro rfl
    rw [hcall] at hx
    cases hx
    exact hcreates hc
  rcases hins.next with ⟨hcalls, -⟩ | ⟨e, hcalls, -⟩
  · rw [hcalls, InsertionMap.get_set_of_ne s.calls _ hi, hx]
  · rw [hcalls, InsertionMap.get_erase, if_neg hi, hx]

theorem RowInserted.mem_created (hins : RowInserted s t call a) {entry : String × CreateEnd}
    (hentry : entry ∈ s.created) : entry ∈ t.created := by
  rcases hins.next with ⟨-, hcreated⟩ | ⟨e, -, hcreated, -⟩
  · rw [hcreated]
    exact hentry
  · rw [hcreated]
    exact List.mem_append_left _ hentry

theorem RowInserted.created_cases (hins : RowInserted s t call a) {id : String} {e : CreateEnd}
    (he : (id, e) ∈ t.created) :
    (id, e) ∈ s.created ∨
      (id = a.id ∧ e ≠ .cleaned ∧ (a.broker = .mt5Direct -> e = .left)) := by
  rcases hins.next with ⟨-, hcreated⟩ | ⟨e', -, hcreated, hne, hleft⟩
  · rw [<- hcreated]
    exact Or.inl he
  · rw [hcreated] at he
    rcases List.mem_append.mp he with hold | hself
    · exact Or.inl hold
    · cases List.mem_singleton.mp hself
      exact Or.inr ⟨rfl, hne, hleft⟩

theorem HostingSound.creates_ne (h : HostingSound s) (hnew : a.id ∉ s.usedIds) {i : Nat}
    {x : AccountCall} (hx : s.calls.get i = some x) : x.creates ≠ some a.id := by
  intro hcreates
  have htarget : x.target = some a.id := by
    cases x with
    | selecting account =>
        exact hcreates
    | provisioning account host request =>
        exact hcreates
    | stamping account host =>
        exact hcreates
    | cleaning account err =>
        exact hcreates
    | _ =>
        cases hcreates
  exact hnew (h.targets i x hx a.id htarget).1

theorem RowInserted.creators (hins : RowInserted s t call a) (h : HostingSound s)
    (hnew : a.id ∉ s.usedIds) {i j : Nat} {x y : AccountCall} (hx : t.calls.get i = some x)
    (hy : t.calls.get j = some y) (hsome : x.creates.isSome = true)
    (hsame : x.creates = y.creates) : i = j := by
  rcases hins.call_cases hx with ⟨rfl, hi⟩ | hx'
  · rcases hins.call_cases hy with ⟨-, hj⟩ | hy'
    · rw [hi, hj]
    · exact absurd hsame.symm (h.creates_ne hnew hy')
  · rcases hins.call_cases hy with ⟨rfl, -⟩ | hy'
    · exact absurd hsame (h.creates_ne hnew hx')
    · exact h.creators i x j y hx' hy' hsome hsame

theorem RowInserted.phases (hins : RowInserted s t call a) (h : HostingSound s)
    (hnew : a.id ∉ s.usedIds) {i : Nat} {x : AccountCall} (hx : t.calls.get i = some x) :
    PhaseSound t x := by
  rcases hins.call_cases hx with ⟨rfl, -⟩ | hx'
  · intro host hsent
    rw [hins.requests] at hsent
    exact hnew (h.requested _ hsent)
  · have hphase := h.phases i x hx'
    unfold PhaseSound at hphase ⊢
    rw [hins.requests]
    exact hphase

theorem RowInserted.owned (hins : RowInserted s t call a) (hcall : s.calls.get call = some c)
    (hc : c.creates = none) {host accountId : String} (h : Owned s host accountId) :
    Owned t host accountId := by
  rcases h with ⟨b, hb, hrow⟩ | ⟨i, x, hx, hown⟩ | hlast
  · refine Or.inl ⟨b, ?_, hrow⟩
    rw [hins.accounts]
    exact List.mem_append_left _ hb
  · refine Or.inr (Or.inl ⟨i, x, hins.keeps_creator hcall hc hx ?_, hown⟩)
    intro hnone
    cases (owns_of_creates_none hnone).symm.trans hown
  · rw [<- hins.stranded, <- hins.requests] at hlast
    exact Or.inr (Or.inr hlast)

theorem RowInserted.unhosted (hins : RowInserted s t call a) (h : HostingSound s)
    (hcall : s.calls.get call = some c) (hc : c.creates = none) {b : BrokerAccount}
    (hb : b ∈ t.accounts) (hmt5 : b.broker = .mt5Direct) (hnone : b.hostId = none) :
    (exists i x, t.calls.get i = some x ∧ x.creates = some b.id) ∨
      (b.id, CreateEnd.left) ∈ t.created := by
  rcases hins.mem_accounts hb with hb | rfl
  · rcases h.unhosted b hb hmt5 hnone with ⟨i, x, hx, hcreate⟩ | hleft
    · refine Or.inl ⟨i, x, hins.keeps_creator hcall hc hx ?_, hcreate⟩
      rw [hcreate]
      exact Option.some_ne_none _
    · exact Or.inr (hins.mem_created hleft)
  · rcases hins.next with ⟨hcalls, -⟩ | ⟨e, -, hcreated, -, hleft⟩
    · refine Or.inl ⟨call, .selecting b, ?_, rfl⟩
      rw [hcalls, InsertionMap.get_set_self]
    · refine Or.inr ?_
      rw [hcreated, hleft hmt5]
      exact List.mem_append_right _ (List.mem_singleton_self _)

theorem RowInserted.cleaned (hins : RowInserted s t call a) (h : HostingSound s)
    (hnew : a.id ∉ s.usedIds) {id : String} (hid : (id, CreateEnd.cleaned) ∈ t.created) :
    id ∈ t.usedIds ∧ forall b, b ∈ t.accounts -> b.id ≠ id := by
  rcases hins.created_cases hid with hbefore | ⟨-, hne, -⟩
  · rcases h.cleaned id hbefore with ⟨hused, hrows⟩
    refine ⟨hins.mem_used hused, ?_⟩
    intro b hb
    rcases hins.mem_accounts hb with hb | rfl
    · exact hrows b hb
    · rintro rfl
      exact hnew hused
  · exact absurd rfl hne

theorem RowInserted.returned (hins : RowInserted s t call a) (h : HostingSound s)
    (hnew : a.id ∉ s.usedIds) {id : String} (hid : (id, CreateEnd.returned) ∈ t.created) :
    id ∈ t.usedIds ∧
      forall b, b ∈ t.accounts -> b.id = id -> b.broker = .mt5Direct -> b.hostId ≠ none := by
  rcases hins.created_cases hid with hbefore | ⟨rfl, -, hleft⟩
  · rcases h.returned id hbefore with ⟨hused, hrows⟩
    refine ⟨hins.mem_used hused, ?_⟩
    intro b hb hsame hmt5
    rcases hins.mem_accounts hb with hb | rfl
    · exact hrows b hb hsame hmt5
    · exact absurd (hsame ▸ hused) hnew
  · refine ⟨?_, ?_⟩
    · rw [hins.used]
      exact List.mem_append_right _ (List.mem_singleton_self _)
    · intro b hb hsame hmt5
      rcases hins.mem_accounts hb with hb | rfl
      · exact absurd (hsame ▸ h.used b hb) hnew
      · cases hleft hmt5

theorem HostingSound.insert (h : HostingSound s) (hcall : s.calls.get call = some c)
    (hc : c.creates = none) (hnew : a.id ∉ s.usedIds) (hhost : a.hostId = none)
    (hsound : AccountsSound t) (hins : RowInserted s t call a) : HostingSound t := by
  refine ⟨hsound, ?_, ?_, ?_, ?_, ?_, ?_, ?_, ?_, ?_⟩
  · rw [hins.requests]
    exact h.ledger
  · intro r hr
    rw [hins.requests] at hr
    exact hins.mem_used (h.requested r hr)
  · intro b hb host hhostb
    rw [hins.requests]
    rcases hins.mem_accounts hb with hb | rfl
    · exact h.hosted b hb host hhostb
    · cases hhost.symm.trans hhostb
  · intro i x j y hx hy hsome hsame
    exact hins.creators h hnew hx hy hsome hsame
  · intro i x hx
    exact hins.phases h hnew hx
  · intro host accountId hsent
    rw [hins.requests] at hsent
    exact hins.owned hcall hc (h.owned host accountId hsent)
  · intro b hb hmt5 hnone
    exact hins.unhosted h hcall hc hb hmt5 hnone
  · intro id hid
    exact hins.cleaned h hnew hid
  · intro id hid
    exact hins.returned h hnew hid

end Inserted

/-!
# Requests that are sent
-/

theorem HostingSound.send (h : HostingSound s) {call : Nat} {c d : AccountCall} {r : HostRequest}
    (hcall : s.calls.get call = some c) (hsound : AccountsSound ((s.send r).advance call d))
    (hcreates : d.creates = c.creates) (howns : c.owns = none)
    (hledger : LedgerSound (s.requests.start r)) (hused : r.accountId ∈ s.usedIds)
    (hphase : PhaseSound (s.send r) d)
    (hothers : forall i account, i ≠ call -> s.calls.get i = some (.selecting account) ->
      r.accountId ≠ account.id)
    (hself : forall host accountId, r = .provision host accountId ->
      d.owns = some (host, accountId)) :
    HostingSound ((s.send r).advance call d) := by
  have hstart : (s.send r).requests = s.requests.start r := rfl
  have hargs : (s.requests.start r).args = s.requests.args ++ [r] := CallLog.args_start _ _
  refine ⟨hsound, hledger, ?_, ?_, ?_, ?_, ?_, ?_, h.cleaned, h.returned⟩
  · intro r' hr'
    change r' ∈ (s.requests.start r).args at hr'
    rw [hargs] at hr'
    rcases List.mem_append.mp hr' with hold | hnew
    · exact h.requested r' hold
    · rw [List.mem_singleton.mp hnew]
      exact hused
  · exact fun a ha host hhost => (h.hosted a ha host hhost).start r
  · intro i x j y hx hy hsome hsame
    rcases get_set_cases hx with ⟨hi, hxd⟩ | ⟨hi, hx'⟩
    · rw [hxd, hcreates] at hsome hsame
      rcases get_set_cases hy with ⟨hj, -⟩ | ⟨hj, hy'⟩
      · rw [hi, hj]
      · exact hi.trans (h.creators call c j y hcall hy' hsome hsame)
    · rcases get_set_cases hy with ⟨hj, hyd⟩ | ⟨hj, hy'⟩
      · rw [hyd, hcreates] at hsame
        exact (h.creators i x call c hx' hcall hsome hsame).trans hj.symm
      · exact h.creators i x j y hx' hy' hsome hsame
  · intro i x hx
    rcases get_set_cases hx with ⟨-, rfl⟩ | ⟨hi, hx'⟩
    · exact hphase
    · refine (h.phases i x hx').start r hstart ?_
      rintro account rfl
      exact hothers i account hi hx'
  · intro host accountId hsent
    change HostRequest.provision host accountId ∈ (s.requests.start r).args at hsent
    rw [hargs] at hsent
    rcases List.mem_append.mp hsent with hold | hnew
    · rcases h.owned host accountId hold with hrow | ⟨i, x, hx, hown⟩ | hstranded | htorn
      · exact Or.inl hrow
      · refine Or.inr (Or.inl ⟨i, x, ?_, hown⟩)
        refine (InsertionMap.get_set_of_ne s.calls d ?_).trans hx
        rintro rfl
        rw [hcall] at hx
        cases hx
        cases howns.symm.trans hown
      · exact Or.inr (Or.inr (Or.inl hstranded))
      · exact Or.inr (Or.inr (Or.inr (htorn.start r)))
    · have hown := hself host accountId (List.mem_singleton.mp hnew).symm
      exact Or.inr (Or.inl ⟨call, d, InsertionMap.get_set_self s.calls call d, hown⟩)
  · intro a ha hmt5 hnone
    rcases h.unhosted a ha hmt5 hnone with ⟨i, x, hx, hcreate⟩ | hleft
    · by_cases hi : i = call
      · rw [hi, hcall] at hx
        cases hx
        exact Or.inl ⟨call, d, InsertionMap.get_set_self s.calls call d, hcreates.trans hcreate⟩
      · exact Or.inl ⟨i, x, (InsertionMap.get_set_of_ne s.calls d hi).trans hx, hcreate⟩
    · exact Or.inr hleft

/-!
# The parts of a step
-/

theorem find_none {id : String} (h : s.find id = none) {a : BrokerAccount}
    (ha : a ∈ s.accounts) : a.id ≠ id := by
  unfold AccountSystem.find at h
  rw [List.find?_eq_none] at h
  exact fun hid => h a ha (decide_eq_true hid)

section Parts

variable {call : Nat} {c : AccountCall}

theorem hosting_reading (h : HostingSound s) (hcall : s.calls.get call = some c)
    (hc : c.creates = none) (r : WriteResult) (ht : HostingSound t) :
    HostingSound (s.reading call r t) := by
  unfold AccountSystem.reading
  split
  · exact ht
  · exact h.finish hcall hc _

theorem hosting_underCap (h : HostingSound s) (hcall : s.calls.get call = some c)
    (hc : c.creates = none) (env : AccountEnv) (userId : String) (ht : HostingSound t) :
    HostingSound (s.underCap env call userId t) := by
  unfold AccountSystem.underCap
  split_ifs
  · exact h.finish hcall hc _
  · exact ht

theorem hosting_owned (h : HostingSound s) (hcall : s.calls.get call = some c)
    (hc : c.creates = none) {userId id : String} {next : BrokerAccount -> AccountSystem}
    (hnext : forall acct, acct ∈ s.accounts -> acct.userId = userId -> HostingSound (next acct)) :
    HostingSound (s.owned call userId id next) := by
  unfold AccountSystem.owned
  split
  · exact h.finish hcall hc _
  · next acct hfind =>
      split_ifs with howner
      · exact h.finish hcall hc _
      · exact hnext acct (find_some hfind).1 (not_not.mp howner)

theorem hosting_writing (h : HostingSound s) (hcall : s.calls.get call = some c)
    (hc : c.creates = none) (env : AccountEnv) (id : String) (r : WriteResult)
    (result : Option BrokerAccount) (ht : HostingSound t) (htcall : t.calls = s.calls) :
    HostingSound (s.writing env call id r t result) := by
  have hcall' : t.calls.get call = some c := by
    rw [htcall]
    exact hcall
  unfold AccountSystem.writing
  split
  · exact h.finish hcall hc _
  · exact h.finish hcall hc _
  · exact ht.finish hcall' hc _
  · split_ifs
    · exact ht.finish hcall' hc _
    · exact h.finish hcall hc _

theorem hosting_checked (h : HostingSound s) (hcall : s.calls.get call = some c)
    (hc : c.creates = none) {userId : String} (huser : c.userId = userId)
    (dto : CreateBrokerAccountDto) (extra : Option OAuthExtra) :
    HostingSound (s.checked call userId dto extra) := by
  have hcalled := h.called call c hcall
  rw [huser] at hcalled
  unfold AccountSystem.checked
  split
  · refine h.advance_plain hcall ?_ hc rfl trivial
    refine ((MovedBy.refl h.toAccountsSound userId).advance hcalled ?_).sound
    intro id hid
    cases hid
  · exact h.finish hcall hc _

theorem hosting_goesOn (h : HostingSound s) (hcall : s.calls.get call = some c)
    (hc : c.creates = none) {d : AccountCall} (hd : d.creates = none) (hphase : PhaseSound s d)
    (htarget : d.target = c.target) (huser : d.userId = c.userId) :
    HostingSound (s.advance call d) := by
  have hcalled := h.called call c hcall
  rw [<- huser] at hcalled
  refine h.advance_plain hcall ?_ hc hd hphase
  exact ((MovedBy.refl h.toAccountsSound c.userId).advance hcalled
    ((h.targets call c hcall).same htarget huser)).sound

theorem hosting_cleans (h : HostingSound s) {account : BrokerAccount}
    (hcall : s.calls.get call = some c) (hcreates : c.creates = some account.id)
    (htarget : c.target = some account.id) (huser : c.userId = account.userId)
    (howns : forall terminal, c.owns = some terminal -> terminal ∈ s.stranded)
    (err : AccountError) : HostingSound (s.advance call (.cleaning account err)) := by
  have hcalled := h.called call c hcall
  rw [huser] at hcalled
  refine h.advance hcall ?_ hcreates.symm trivial fun terminal hown => Or.inr (howns terminal hown)
  exact ((MovedBy.refl h.toAccountsSound c.userId).advance hcalled
    ((h.targets call c hcall).same (d := .cleaning account err) htarget.symm huser.symm)).sound

theorem HostingSound.strand (h : HostingSound s) (host id : String) :
    HostingSound (s.strand host id) :=
  h.of_eq ((MovedBy.refl h.toAccountsSound "").strand host id).sound rfl rfl rfl rfl rfl
    (List.subset_append_left _ _)

theorem hosting_unprovisioned (h : HostingSound s) {account : BrokerAccount} {host : String}
    (hcall : s.calls.get call = some c) (hcreates : c.creates = some account.id)
    (htarget : c.target = some account.id) (huser : c.userId = account.userId)
    (howns : c.owns = some (host, account.id)) (err : AccountError) :
    HostingSound (s.unprovisioned call account host err) := by
  refine hosting_cleans (h.strand host account.id) hcall hcreates htarget huser ?_ err
  intro terminal hown
  cases howns.symm.trans hown
  exact List.mem_append_right _ (List.mem_singleton_self _)

theorem hosting_inserting (h : HostingSound s) {a : BrokerAccount}
    (hcall : s.calls.get call = some c) (hc : c.creates = none) (huser : c.userId = a.userId)
    (hhost : a.hostId = none) (r : WriteResult) : HostingSound (s.inserting call a r) := by
  have hcalled := h.called call c hcall
  rw [huser] at hcalled
  have hsound := (movedBy_inserting h.toAccountsSound hcalled r).sound
  unfold AccountSystem.inserting at hsound ⊢
  split at hsound
  · next hlanded =>
      rw [if_pos hlanded]
      split at hsound
      · next message hmessage =>
          exact h.insert hcall hc hlanded.2 hhost hsound
            ⟨rfl, rfl, rfl, rfl, Or.inr ⟨.left, rfl, rfl, by decide, fun _ => rfl⟩⟩
      · next hmessage =>
          split at hsound
          · next hmt5 =>
              rw [if_pos hmt5]
              exact h.insert hcall hc hlanded.2 hhost hsound
                ⟨rfl, rfl, rfl, rfl, Or.inl ⟨rfl, rfl⟩⟩
          · next hother =>
              rw [if_neg hother]
              exact h.insert hcall hc hlanded.2 hhost hsound
                ⟨rfl, rfl, rfl, rfl,
                  Or.inr ⟨.returned, rfl, rfl, by decide, fun hmt5 => absurd hmt5 hother⟩⟩
  · next hlanded =>
      rw [if_neg hlanded]
      exact h.finish hcall hc _

theorem args_start_length (requests : CallLog HostRequest HostResponse) (r : HostRequest) :
    (requests.start r).args[List.length requests]? = some r := by
  rw [CallLog.args_start]
  have hlength : List.length requests = (CallLog.args requests).length := by
    rw [CallLog.args, List.length_map]
  rw [hlength, List.getElem?_concat_length]

theorem hosting_selecting (h : HostingSound s) {account : BrokerAccount}
    (hcall : s.calls.get call = some (.selecting account)) (r : WriteResult) :
    HostingSound (s.selecting call account r) := by
  have hphase := h.phases call _ hcall
  have hmoved := movedBy_selecting h.toAccountsSound (h.called call _ hcall)
    (h.targets call _ hcall) r
  unfold AccountSystem.selecting at hmoved ⊢
  split at hmoved
  · next message hmessage =>
      exact hosting_cleans h hcall rfl rfl rfl (fun _ hown => by cases hown) _
  · next hmessage hhost =>
      exact hosting_cleans h hcall rfl rfl rfl (fun _ hown => by cases hown) _
  · next host hmessage hhost =>
      refine h.send hcall hmoved.sound rfl rfl (h.ledger.startProvision hphase)
        (h.targets call _ hcall account.id rfl).1 (args_start_length _ _) ?_ ?_
      · intro i other hi hother hsame
        exact hi (h.creators i _ call _ hother hcall rfl (congrArg some hsame.symm))
      · rintro host' accountId' ⟨⟩
        rfl

theorem hosting_stamping (h : HostingSound s) (env : AccountEnv) {account : BrokerAccount}
    {host : String} (hcall : s.calls.get call = some (.stamping account host)) (r : WriteResult)
    (now : Int) : HostingSound (s.stamping env call account host r now) := by
  have hprovisioned : Provisioned s.requests host account.id := h.phases call _ hcall
  have hstamped := h.changeRow (keepsHost_stamp hprovisioned now)
    ((MovedBy.refl h.toAccountsSound account.userId).changeRow (keepsOwner_stamp host now)
      (h.targets call _ hcall account.id rfl).2).sound
  unfold AccountSystem.stamping
  dsimp only
  split
  · next a hfind _ =>
      refine hstamped.endCreate hcall rfl rfl ?_ ?_ _
      · intro b hb hid _ hnone
        rcases List.mem_map.mp hb with ⟨b', -, rfl⟩
        split_ifs at hid hnone with hsame
        · cases hnone
        · exact hsame hid
      · rintro host' ⟨⟩
        rcases find_some hfind with ⟨ha, hid⟩
        refine ⟨_, List.mem_map_of_mem ha, ?_, ?_⟩
        · rw [if_pos hid]
          exact hid
        · rw [if_pos hid]
          rfl
  · exact hosting_unprovisioned h hcall rfl rfl rfl rfl _
  · split_ifs
    · exact hosting_unprovisioned hstamped hcall rfl rfl rfl rfl _
    · exact hosting_unprovisioned h hcall rfl rfl rfl rfl _

theorem hosting_deleteRow (h : HostingSound s) (hcall : s.calls.get call = some c) {id : String}
    (htarget : c.target = some id) {torn : Option String}
    (htorn : forall host, torn = some host -> TornDown s.requests host id) :
    HostingSound (s.deleteRow id torn) :=
  h.deleteRow htorn ((MovedBy.refl h.toAccountsSound c.userId).deleteRow
    (h.targets call c hcall id htarget).2 torn).sound

theorem hosting_cleaning (h : HostingSound s) (env : AccountEnv) {account : BrokerAccount}
    {err : AccountError} (hcall : s.calls.get call = some (.cleaning account err))
    (r : WriteResult) : HostingSound (s.cleaning env call account err r) := by
  have hdeleted : HostingSound (s.deleteRow account.id none) :=
    hosting_deleteRow h hcall rfl fun host hhost => by cases hhost
  have hgone : EndSound (s.deleteRow account.id none) account.id .cleaned := by
    intro a ha
    exact of_decide_eq_true (List.mem_filter.mp ha).2
  unfold AccountSystem.cleaning
  split
  · next hfind _ =>
      exact h.endCreate hcall rfl rfl (e := .cleaned) (fun _ ha => find_none hfind ha)
        (by rintro host ⟨⟩) _
  · next message hfind _ =>
      exact h.endCreate hcall rfl rfl (e := .cleaned) (fun _ ha => find_none hfind ha)
        (by rintro host ⟨⟩) _
  · exact hdeleted.endCreate hcall rfl rfl hgone (by rintro host ⟨⟩) _
  · split_ifs
    · exact hdeleted.endCreate hcall rfl rfl hgone (by rintro host ⟨⟩) _
    · exact h.endCreate hcall rfl rfl (e := .left) trivial (by rintro host ⟨⟩) _

theorem hosting_deleteLooked (h : HostingSound s) {userId id : String}
    (hcall : s.calls.get call = some (.deleteLooking userId id)) :
    HostingSound (s.deleteLooked call userId id) := by
  have hmoved := movedBy_deleteLooked h.toAccountsSound (h.called call _ hcall)
    (h.targets call _ hcall)
  unfold AccountSystem.deleteLooked at hmoved ⊢
  split at hmoved
  · next hnone =>
      exact hosting_goesOn h hcall rfl rfl trivial rfl rfl
  · next host hsome =>
      rcases Option.bind_eq_some_iff.mp hsome with ⟨a, hfind, hhost⟩
      rcases find_some hfind with ⟨ha, rfl⟩
      refine h.send hcall hmoved.sound rfl rfl
        (h.ledger.startDeprovision (h.hosted a ha host hhost)) (h.used a ha)
        (args_start_length _ _) ?_ ?_
      · intro i account hi hother hsame
        have hsent := (h.hosted a ha host hhost).sent
        have hphase := h.phases i _ hother host
        rw [<- hsame] at hphase
        exact hphase hsent
      · rintro host' accountId' ⟨⟩

end Parts

/-!
# The steps
-/

theorem hosting_resume (h : HostingSound s) (env : AccountEnv) {call : Nat} {c : AccountCall}
    (hcall : s.calls.get call = some c) (r : WriteResult) (newId : String) (now : Int) :
    HostingSound (s.resume env call r newId now c) := by
  have hrefl := MovedBy.refl h.toAccountsSound c.userId
  have hcalled := h.called call c hcall
  have htarget := h.targets call c hcall
  cases c with
  | createCounting userId dto extra =>
      exact hosting_reading h hcall rfl r (hosting_underCap h hcall rfl env userId
        (hosting_checked h hcall rfl rfl dto extra))
  | createInserting userId dto extra =>
      exact hosting_inserting h hcall rfl rfl rfl r
  | selecting account =>
      exact hosting_selecting h hcall r
  | provisioning account host request =>
      exact h
  | stamping account host =>
      exact hosting_stamping h env hcall r now
  | cleaning account err =>
      exact hosting_cleaning h env hcall r
  | updateFinding userId id dto =>
      refine hosting_reading h hcall rfl r (hosting_owned h hcall rfl ?_)
      intro acct hacct howner
      have hcounting := ((hrefl.advance (c := .updateCounting userId acct.id dto)
        hcalled (h.targetSound hacct rfl howner.symm)).sound)
      have hwriting := ((hrefl.advance (c := .updateWriting userId acct.id dto)
        hcalled (h.targetSound hacct rfl howner.symm)).sound)
      unfold AccountSystem.updateFound
      split_ifs
      · exact h.advance_plain hcall hcounting rfl rfl trivial
      · exact h.advance_plain hcall hwriting rfl rfl trivial
  | updateCounting userId id dto =>
      exact hosting_reading h hcall rfl r (hosting_underCap h hcall rfl env userId
        (hosting_goesOn h hcall rfl (d := .updateWriting userId id dto) rfl trivial rfl rfl))
  | updateWriting userId id dto =>
      have hchanged := h.changeRow (keepsHost_applyUpdate s id dto)
        (hrefl.changeRow (keepsOwner_applyUpdate dto) (htarget id rfl).2).sound
      exact hosting_writing h hcall rfl env id r _ hchanged rfl
  | deleteFinding userId id force =>
      refine hosting_reading h hcall rfl r (hosting_owned h hcall rfl ?_)
      intro acct hacct howner
      have hcounting := (hrefl.advance (c := .deleteCounting userId acct force)
        hcalled (h.targetSound hacct rfl howner.symm)).sound
      exact h.advance_plain hcall hcounting rfl rfl trivial
  | deleteCounting userId acct force =>
      exact hosting_reading h hcall rfl r h
  | deleteDisabling userId id =>
      have hchanged := h.changeRow (keepsHost_disable s id)
        (hrefl.changeRow keepsOwner_disable (htarget id rfl).2).sound
      exact hosting_writing h hcall rfl env id r _ hchanged rfl
  | deleteLooking userId id =>
      exact hosting_reading h hcall rfl r (hosting_deleteLooked h hcall)
  | deprovisioning userId id host request =>
      exact h
  | deleteDeleting userId id torn =>
      have htorn : forall host, torn = some host -> TornDown s.requests host id := by
        rintro host rfl
        exact h.phases call _ hcall
      exact hosting_writing h hcall rfl env id r _ (hosting_deleteRow h hcall rfl htorn) rfl

theorem hosting_afterCount (h : HostingSound s) {call : Nat} {userId : String}
    {acct : BrokerAccount} {force : Bool}
    (hcall : s.calls.get call = some (.deleteCounting userId acct force)) (openTrades : Nat) :
    HostingSound (s.afterCount call userId acct force openTrades) := by
  unfold AccountSystem.afterCount
  split_ifs
  · exact h.finish hcall rfl _
  · exact hosting_goesOn h hcall rfl rfl trivial rfl rfl
  · exact hosting_goesOn h hcall rfl rfl trivial rfl rfl
  · exact hosting_goesOn h hcall rfl rfl trivial rfl rfl

theorem mem_of_response {requests : CallLog HostRequest HostResponse} {request : Nat}
    {r : HostRequest} {response : HostResponse} (harg : requests.args[request]? = some r)
    (hresult : requests[request]?.bind LoggedCall.result = some response) :
    ({ arg := r, result := some response } : LoggedCall HostRequest HostResponse) ∈ requests := by
  rcases Option.bind_eq_some_iff.mp hresult with ⟨entry, hentry, hsome⟩
  rw [CallLog.args, List.getElem?_map, hentry] at harg
  have hmem := List.mem_of_getElem? hentry
  rcases entry with ⟨arg, result⟩
  cases harg
  dsimp only at hsome
  rw [hsome] at hmem
  exact hmem

theorem hosting_respond (h : HostingSound s) {call : Nat} {c : AccountCall}
    (hcall : s.calls.get call = some c) : HostingSound (s.respond call c) := by
  have hphase := h.phases call c hcall
  have hmoved := movedBy_respond h.toAccountsSound hcall
  cases c with
  | provisioning account host request =>
      dsimp only [AccountSystem.respond] at hmoved ⊢
      split at hmoved
      · next port status message hresult =>
          refine h.advance hcall hmoved.sound rfl ?_ ?_
          · exact ⟨port, status, message, mem_of_response hphase hresult⟩
          · rintro terminal ⟨⟩
            exact Or.inl rfl
      · exact hosting_unprovisioned h hcall rfl rfl rfl rfl _
      · exact h
  | deprovisioning userId id host request =>
      dsimp only [AccountSystem.respond] at hmoved ⊢
      split at hmoved
      · next hresult =>
          exact h.advance_plain hcall hmoved.sound rfl rfl (mem_of_response hphase hresult)
      · exact h.advance_plain hcall hmoved.sound rfl rfl trivial
      · exact h
  | _ =>
      exact h

theorem hosting_httpFails (h : HostingSound s) {call : Nat} {c : AccountCall}
    (hcall : s.calls.get call = some c) (message : String) :
    HostingSound (s.httpFails call message c) := by
  cases c with
  | provisioning account host request =>
      exact hosting_unprovisioned h hcall rfl rfl rfl rfl _
  | deprovisioning userId id host request =>
      exact hosting_goesOn h hcall rfl rfl trivial rfl rfl
  | _ =>
      exact h

theorem hosting_create (h : HostingSound s) (userId : String) (dto : CreateBrokerAccountDto)
    (extra : Option OAuthExtra) : HostingSound (s.create userId dto extra) := by
  have hbegun := h.begin (c := .createCounting userId dto extra) rfl rfl trivial
  unfold AccountSystem.create
  dsimp only
  split_ifs
  · exact hbegun
  · exact hosting_checked hbegun (InsertionMap.get_set_self s.calls s.nextCall _) rfl rfl dto
      extra

/-- The managers and the rows agree as far as the requests tell. -/
structure TerminalsSound (env : AccountEnv) (s : AccountSystem) : Prop where
  hosting : HostingSound s
  slots : SlotsSound env s

theorem terminalsSound_start (env : AccountEnv) (hosts : List Mt5Host) :
    TerminalsSound env (.start hosts) := by
  refine ⟨hostingSound_start hosts, ?_, ?_, ?_, ?_⟩
  · exact fun host => soundSlots_nil (env.fleet host)
  · intro host accountId hslot
    cases hslot
  · rintro host accountId ⟨port, status, message, hentry⟩
    cases hentry
  · intro host accountId htorn
    cases htorn

/-- A step of the service leaves the managers alone and sends at most one request. -/
def Sends (s t : AccountSystem) : Prop :=
  t.managers = s.managers ∧
    (t.requests = s.requests ∨ exists r, t.requests = s.requests.start r)

theorem Sends.slots {env : AccountEnv} (h : Sends s t) (hslots : SlotsSound env s) :
    SlotsSound env t := by
  rcases h with ⟨hmanagers, hsame | ⟨r, hsent⟩⟩
  · exact hslots.of_eq hmanagers hsame
  · exact hslots.send r hmanagers hsent

theorem sends_reading (call : Nat) (r : WriteResult) (h : Sends s t) :
    Sends s (s.reading call r t) := by
  unfold AccountSystem.reading
  split
  · exact h
  · exact ⟨rfl, Or.inl rfl⟩

theorem sends_underCap (env : AccountEnv) (call : Nat) (userId : String) (h : Sends s t) :
    Sends s (s.underCap env call userId t) := by
  unfold AccountSystem.underCap
  split_ifs
  · exact ⟨rfl, Or.inl rfl⟩
  · exact h

theorem sends_owned (call : Nat) (userId id : String) {next : BrokerAccount -> AccountSystem}
    (hnext : forall acct, Sends s (next acct)) : Sends s (s.owned call userId id next) := by
  unfold AccountSystem.owned
  split
  · exact ⟨rfl, Or.inl rfl⟩
  · split_ifs
    · exact ⟨rfl, Or.inl rfl⟩
    · exact hnext _

theorem sends_writing (env : AccountEnv) (call : Nat) (id : String) (r : WriteResult)
    (result : Option BrokerAccount) (hmanagers : t.managers = s.managers)
    (hrequests : t.requests = s.requests) : Sends s (s.writing env call id r t result) := by
  unfold AccountSystem.writing
  split
  · exact ⟨rfl, Or.inl rfl⟩
  · exact ⟨rfl, Or.inl rfl⟩
  · exact ⟨hmanagers, Or.inl hrequests⟩
  · split_ifs
    · exact ⟨hmanagers, Or.inl hrequests⟩
    · exact ⟨rfl, Or.inl rfl⟩

theorem sends_checked (call : Nat) (userId : String) (dto : CreateBrokerAccountDto)
    (extra : Option OAuthExtra) : Sends s (s.checked call userId dto extra) := by
  unfold AccountSystem.checked
  split
  · exact ⟨rfl, Or.inl rfl⟩
  · exact ⟨rfl, Or.inl rfl⟩

theorem sends_resume (env : AccountEnv) (call : Nat) (r : WriteResult) (newId : String) (now : Int)
    (c : AccountCall) : Sends s (s.resume env call r newId now c) := by
  cases c with
  | createCounting userId dto extra =>
      exact sends_reading call r
        (sends_underCap env call userId (sends_checked call userId dto extra))
  | createInserting userId dto extra =>
      dsimp only [AccountSystem.resume]
      unfold AccountSystem.inserting
      split
      · split
        · exact ⟨rfl, Or.inl rfl⟩
        · split_ifs
          · exact ⟨rfl, Or.inl rfl⟩
          · exact ⟨rfl, Or.inl rfl⟩
      · exact ⟨rfl, Or.inl rfl⟩
  | selecting account =>
      dsimp only [AccountSystem.resume]
      unfold AccountSystem.selecting
      split
      · exact ⟨rfl, Or.inl rfl⟩
      · exact ⟨rfl, Or.inl rfl⟩
      · exact ⟨rfl, Or.inr ⟨_, rfl⟩⟩
  | stamping account host =>
      dsimp only [AccountSystem.resume]
      unfold AccountSystem.stamping
      dsimp only
      split
      · exact ⟨rfl, Or.inl rfl⟩
      · exact ⟨rfl, Or.inl rfl⟩
      · split_ifs
        · exact ⟨rfl, Or.inl rfl⟩
        · exact ⟨rfl, Or.inl rfl⟩
  | cleaning account err =>
      dsimp only [AccountSystem.resume]
      unfold AccountSystem.cleaning
      split
      · exact ⟨rfl, Or.inl rfl⟩
      · exact ⟨rfl, Or.inl rfl⟩
      · exact ⟨rfl, Or.inl rfl⟩
      · split_ifs
        · exact ⟨rfl, Or.inl rfl⟩
        · exact ⟨rfl, Or.inl rfl⟩
  | updateFinding userId id dto =>
      refine sends_reading call r (sends_owned call userId id fun acct => ?_)
      unfold AccountSystem.updateFound
      split_ifs
      · exact ⟨rfl, Or.inl rfl⟩
      · exact ⟨rfl, Or.inl rfl⟩
  | updateCounting userId id dto =>
      exact sends_reading call r (sends_underCap env call userId ⟨rfl, Or.inl rfl⟩)
  | updateWriting userId id dto =>
      exact sends_writing env call id r _ rfl rfl
  | deleteFinding userId id force =>
      exact sends_reading call r (sends_owned call userId id fun _ => ⟨rfl, Or.inl rfl⟩)
  | deleteCounting userId acct force =>
      exact sends_reading call r ⟨rfl, Or.inl rfl⟩
  | deleteDisabling userId id =>
      exact sends_writing env call id r _ rfl rfl
  | deleteLooking userId id =>
      refine sends_reading call r ?_
      unfold AccountSystem.deleteLooked
      split
      · exact ⟨rfl, Or.inl rfl⟩
      · exact ⟨rfl, Or.inr ⟨_, rfl⟩⟩
  | deleteDeleting userId id torn =>
      exact sends_writing env call id r _ rfl rfl
  | _ =>
      exact ⟨rfl, Or.inl rfl⟩

theorem sends_respond (call : Nat) (c : AccountCall) : Sends s (s.respond call c) := by
  unfold AccountSystem.respond
  split
  · split
    · exact ⟨rfl, Or.inl rfl⟩
    · exact ⟨rfl, Or.inl rfl⟩
    · exact ⟨rfl, Or.inl rfl⟩
  · split
    · exact ⟨rfl, Or.inl rfl⟩
    · exact ⟨rfl, Or.inl rfl⟩
    · exact ⟨rfl, Or.inl rfl⟩
  · exact ⟨rfl, Or.inl rfl⟩

theorem sends_httpFails (call : Nat) (message : String) (c : AccountCall) :
    Sends s (s.httpFails call message c) := by
  unfold AccountSystem.httpFails
  split
  · exact ⟨rfl, Or.inl rfl⟩
  · exact ⟨rfl, Or.inl rfl⟩
  · exact ⟨rfl, Or.inl rfl⟩

theorem TerminalsSound.step {env : AccountEnv} (h : TerminalsSound env s) (op : AccountOp) :
    TerminalsSound env (accountStep env s op) := by
  have hsound := (stepKept env h.hosting.toAccountsSound op).sound
  cases op with
  | create userId dto extra =>
      refine ⟨hosting_create h.hosting userId dto extra, Sends.slots ?_ h.slots⟩
      dsimp only [accountStep]
      unfold AccountSystem.create
      dsimp only
      split_ifs
      · exact ⟨rfl, Or.inl rfl⟩
      · unfold AccountSystem.checked
        split
        · exact ⟨rfl, Or.inl rfl⟩
        · exact ⟨rfl, Or.inl rfl⟩
  | update userId id dto =>
      exact ⟨h.hosting.begin rfl rfl trivial, h.slots.of_eq rfl rfl⟩
  | delete userId id force =>
      exact ⟨h.hosting.begin rfl rfl trivial, h.slots.of_eq rfl rfl⟩
  | answer call r newId now =>
      dsimp only [accountStep]
      split
      · next c hcall =>
          exact ⟨hosting_resume h.hosting env hcall r newId now,
            (sends_resume env call r newId now c).slots h.slots⟩
      · exact h
  | tradesCounted call openTrades =>
      dsimp only [accountStep]
      split
      · next acct force hcall =>
          refine ⟨hosting_afterCount h.hosting hcall openTrades, Sends.slots ?_ h.slots⟩
          unfold AccountSystem.afterCount
          split_ifs
          · exact ⟨rfl, Or.inl rfl⟩
          · exact ⟨rfl, Or.inl rfl⟩
          · exact ⟨rfl, Or.inl rfl⟩
          · exact ⟨rfl, Or.inl rfl⟩
      · exact h
  | respond call =>
      dsimp only [accountStep]
      split
      · next c hcall =>
          exact ⟨hosting_respond h.hosting hcall, (sends_respond call c).slots h.slots⟩
      · exact h
  | httpFails call message =>
      dsimp only [accountStep]
      split
      · next c hcall =>
          exact ⟨hosting_httpFails h.hosting hcall message,
            (sends_httpFails call message c).slots h.slots⟩
      · exact h
  | provisions request f status message =>
      refine ⟨?_, h.slots.handleProvision h.hosting.ledger request f status message⟩
      dsimp only [accountStep] at hsound ⊢
      unfold AccountSystem.handleProvision at hsound ⊢
      split at hsound
      · exact h.hosting.settle request _ hsound rfl rfl rfl rfl rfl rfl
      · exact h.hosting
  | deprovisions request raised f =>
      refine ⟨?_, h.slots.handleDeprovision request raised f⟩
      dsimp only [accountStep] at hsound ⊢
      unfold AccountSystem.handleDeprovision at hsound ⊢
      split at hsound
      · exact h.hosting.settle request _ hsound rfl rfl rfl rfl rfl rfl
      · exact h.hosting
  | restarts host accountId f =>
      exact ⟨h.hosting.of_eq hsound rfl rfl rfl rfl rfl (List.Subset.refl _),
        h.slots.restarts host accountId f⟩

end Hosting

/-!
# Runs
-/

theorem terminalsSound_run (env : AccountEnv) (hosts : List Mt5Host) (ops : List AccountOp) :
    TerminalsSound env (runFrom (accountStep env) (.start hosts) ops) :=
  runFrom_inv (TerminalsSound env) (fun _ op h => h.step op) (terminalsSound_start env hosts) ops

/-- A `create` fails clean: an MT5 row without a host belongs to a `create` under way or to
one whose deletion failed, a cleaned row is gone for good, and what a `create` returned has
its terminal's host. -/
theorem creates_fail_clean (env : AccountEnv) (hosts : List Mt5Host) (ops : List AccountOp) :
    let s := runFrom (accountStep env) (.start hosts) ops
    (forall a, a ∈ s.accounts -> a.broker = .mt5Direct -> a.hostId = none ->
        (exists call c, s.calls.get call = some c ∧ c.creates = some a.id) ∨
          (a.id, CreateEnd.left) ∈ s.created) ∧
      (forall id, (id, CreateEnd.cleaned) ∈ s.created -> forall a, a ∈ s.accounts -> a.id ≠ id) ∧
      (forall id, (id, CreateEnd.returned) ∈ s.created -> forall a, a ∈ s.accounts -> a.id = id ->
        a.broker = .mt5Direct ->
          exists host, a.hostId = some host ∧ Provisioned s.requests host id) := by
  have h := (terminalsSound_run env hosts ops).hosting
  refine ⟨h.unhosted, fun id hid => (h.cleaned id hid).2, ?_⟩
  intro id hid a ha hsame hmt5
  rcases Option.ne_none_iff_exists'.mp ((h.returned id hid).2 a ha hsame hmt5) with ⟨host, hhost⟩
  refine ⟨host, hhost, ?_⟩
  rw [<- hsame]
  exact h.hosted a ha host hhost

def AccountSystem.served (s : AccountSystem) (host : String) : List BrokerAccount :=
  s.accounts.filter fun a => a.hostId = some host ∧ .deprovision host a.id ∉ s.requests.args

theorem served_length_le {env : AccountEnv} {s : AccountSystem} (h : TerminalsSound env s)
    (host : String) : (s.served host).length <= (env.fleet host).maxTerminals := by
  have hsub : ((s.served host).map BrokerAccount.id).Subperm
      ((s.managers host).slots.map Prod.fst) := by
    refine List.subperm_of_subset ?_ ?_
    · exact h.hosting.ids.sublist (List.filter_sublist.map BrokerAccount.id)
    · intro id hid
      rcases List.mem_map.mp hid with ⟨a, ha, rfl⟩
      rcases List.mem_filter.mp ha with ⟨hmem, hserved⟩
      rcases of_decide_eq_true hserved with ⟨hhost, hnot⟩
      have hslot := h.slots.kept host a.id (h.hosting.hosted a hmem host hhost) hnot
      rcases Option.isSome_iff_exists.mp hslot with ⟨port, hport⟩
      exact List.mem_map.mpr ⟨(a.id, port), InsertionMap.mem_of_get hport, rfl⟩
  have hlength := hsub.length_le
  rw [List.length_map, List.length_map] at hlength
  exact hlength.trans (h.slots.sound host).bounded

/-- The terminals and the rows account for each other: a slot has its row, its `create`
under way, or an entry among the stranded; a row has its slot until a teardown is asked
for; and so no host serves more rows than it may run terminals, however the selections of
hosts race. -/
theorem terminals_accounted (env : AccountEnv) (hosts : List Mt5Host) (ops : List AccountOp) :
    let s := runFrom (accountStep env) (.start hosts) ops
    (forall host accountId, ((s.managers host).slots.get accountId).isSome = true ->
        (exists a, a ∈ s.accounts ∧ a.id = accountId ∧ a.hostId = some host) ∨
          (exists call c, s.calls.get call = some c ∧ c.owns = some (host, accountId)) ∨
          (host, accountId) ∈ s.stranded) ∧
      (forall host a, a ∈ s.served host ->
        ((s.managers host).slots.get a.id).isSome = true) ∧
      (forall host, (s.served host).length <= (env.fleet host).maxTerminals) := by
  have h := terminalsSound_run env hosts ops
  refine ⟨?_, ?_, served_length_le h⟩
  · intro host accountId hslot
    rcases h.slots.asked host accountId hslot with ⟨r, hentry⟩
    rcases h.hosting.owned host accountId (List.mem_map.mpr ⟨_, hentry, rfl⟩) with
      hrow | hcall | hstranded | htorn
    · exact Or.inl hrow
    · exact Or.inr (Or.inl hcall)
    · exact Or.inr (Or.inr hstranded)
    · rw [h.slots.torn host accountId htorn] at hslot
      cases hslot
  · intro host a ha
    rcases List.mem_filter.mp ha with ⟨hmem, hserved⟩
    rcases of_decide_eq_true hserved with ⟨hhost, hnot⟩
    exact h.slots.kept host a.id (h.hosting.hosted a hmem host hhost) hnot

def mt5Dto : CreateBrokerAccountDto :=
  { name := "Demo"
    broker := .mt5Direct
    mode := .metaapi
    creds := some [("login", .text "1"), ("password", .text "p"), ("server", .text "s")]
    isEnabled := some false }

/-- The service gives up on a provision that the manager then carries out: the row is
cleaned away and the terminal stranded. -/
example :
    let s := runFrom (accountStep capOfFive)
      (.start [{ id := "h1", capacity := 2, status := .active }])
      [.create "u1" mt5Dto none, .answer 0 .ok "a1" 0, .answer 0 .ok "" 0, .httpFails 0 "timeout",
        .answer 0 .ok "" 0, .provisions 0 smoothProvision 201 ""]
    s.accounts = [] ∧ s.stranded = [("h1", "a1")] ∧
      (s.managers "h1").slots.get "a1" = some 9100 := by
  decide +kernel

end Hosting
end Accounts
end Shamarx
