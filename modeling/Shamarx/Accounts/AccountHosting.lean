import Mathlib.Data.List.Sort
import Shamarx.Foundation.CallLog
import Shamarx.Foundation.Runs
import Shamarx.Foundation.Text
import Shamarx.Fleet.TerminalManager

/-!
# Accounts and their terminals

`BrokerAccountsService` keeps the account rows and lets `Mt5HostService` run a terminal on
one of the hosts for each MT5 account.  Calls interleave at their awaits, a database call
may fail or lose its answer, and a request to a host may be handled long after its caller
has given up on it.
-/

namespace Shamarx
namespace Accounts
namespace Hosting

open Foundation
open Fleet

/-!
# Accounts
-/

inductive BrokerType where
  | metaApi
  | mock
  | ctrader
  | mt5Direct
  deriving DecidableEq, Repr

def BrokerType.text : BrokerType -> String
  | .metaApi => "METAAPI"
  | .mock => "MOCK"
  | .ctrader => "CTRADER"
  | .mt5Direct => "MT5_DIRECT"

inductive AccountMode where
  | metaapi
  | mock
  deriving DecidableEq, Repr

/-- A value of the credentials object; only strings count. -/
inductive CredsValue where
  | text (s : String)
  | other
  deriving DecidableEq, Repr

structure CreateBrokerAccountDto where
  name : String
  broker : BrokerType
  mode : AccountMode
  creds : Option (List (String × CredsValue))
  isEnabled : Option Bool

structure OAuthExtra where
  encryptedCredsJson : String
  accountNumber : Option String
  accountKind : Option String
  brokerName : Option String
  oauthExpiresAt : Option Int

structure UpdateBrokerAccountDto where
  name : Option String
  isEnabled : Option Bool
  mode : Option AccountMode
  sortIndex : Option Nat

structure BrokerAccount where
  id : String
  userId : String
  name : String
  broker : BrokerType
  mode : AccountMode
  isEnabled : Bool
  sortIndex : Nat
  accountNumber : Option String
  accountKind : Option String
  brokerName : Option String
  oauthExpiresAt : Option Int
  hostId : Option String
  lastConnectedAt : Option Int
  deriving DecidableEq

def newAccount (id userId : String) (dto : CreateBrokerAccountDto) (extra : Option OAuthExtra) :
    BrokerAccount :=
  { id := id
    userId := userId
    name := dto.name
    broker := dto.broker
    mode := dto.mode
    isEnabled := dto.isEnabled.getD false
    sortIndex := 0
    accountNumber := extra.bind OAuthExtra.accountNumber
    accountKind := extra.bind OAuthExtra.accountKind
    brokerName := extra.bind OAuthExtra.brokerName
    oauthExpiresAt := extra.bind OAuthExtra.oauthExpiresAt
    hostId := none
    lastConnectedAt := none }

def BrokerAccount.applyUpdate (dto : UpdateBrokerAccountDto) (a : BrokerAccount) : BrokerAccount :=
  { a with
    name := dto.name.getD a.name
    isEnabled := dto.isEnabled.getD a.isEnabled
    mode := dto.mode.getD a.mode
    sortIndex := dto.sortIndex.getD a.sortIndex }

def BrokerAccount.disable (a : BrokerAccount) : BrokerAccount :=
  { a with isEnabled := false }

def BrokerAccount.stamp (host : String) (now : Int) (a : BrokerAccount) : BrokerAccount :=
  { a with hostId := some host, lastConnectedAt := some now }

inductive AccountError where
  | conflict (message : String)
  | badRequest (message : String)
  | notFound (message : String)
  | unauthorized (message : String)
  | badGateway (message : String)
  | thrown (message : String)
  deriving DecidableEq, Repr

def requireStr (c : List (String × CredsValue)) (key : String) (max : Nat) :
    Except AccountError Unit :=
  match c.lookup key with
  | some (.text v) =>
      if Text.utf16Length v = 0 ∨ max < Text.utf16Length v then
        .error (.badRequest s!"creds.{key} must be a non-empty string (max {max} chars)")
      else .ok ()
  | _ => .error (.badRequest s!"creds.{key} must be a non-empty string (max {max} chars)")

def validateCreds (dto : CreateBrokerAccountDto) : Except AccountError Unit :=
  match dto.broker, dto.creds with
  | .ctrader, _ => .ok ()
  | _, none => .ok ()
  | .mt5Direct, some c => do
      requireStr c "login" 32
      requireStr c "password" 128
      requireStr c "server" 128
  | _, some c => do
      requireStr c "accountId" 128
      requireStr c "accessToken" 1024

def checkCreate (dto : CreateBrokerAccountDto) (extra : Option OAuthExtra) :
    Except AccountError Unit := do
  validateCreds dto
  if dto.broker = .ctrader then
    match extra with
    | some e =>
        if e.encryptedCredsJson = "" then
          throw (.badRequest "CTRADER accounts must be created via the OAuth flow")
    | none => throw (.badRequest "CTRADER accounts must be created via the OAuth flow")
  else
    match dto.creds with
    | some _ => pure ()
    | none => throw (.badRequest s!"{dto.broker.text} accounts require a creds object")

/-!
# Hosts
-/

inductive HostStatus where
  | active
  | draining
  | down
  deriving DecidableEq, Repr

structure Mt5Host where
  id : String
  capacity : Nat
  status : HostStatus
  deriving DecidableEq

inductive HostRequest where
  | provision (host accountId : String)
  | deprovision (host accountId : String)
  deriving DecidableEq

/-- What a manager answers.  The status and the message are those of a refusal. -/
inductive HostResponse where
  | provisioned (result : ProvisionResult) (status : Nat) (message : String)
  | deprovisioned (fault : Option Fault)

def provisionError (status : Nat) (message : String) : AccountError :=
  if status = 401 then .unauthorized "Broker rejected the MT5 login — check credentials"
  else if status = 409 then .conflict "MT5 fleet is full"
  else .badGateway ("MT5 host provisioning failed: " ++ message)

/-!
# Calls
-/

/-- A call of the service at one of its awaits.  A row to be deleted comes with the host
whose manager has confirmed the teardown. -/
inductive AccountCall where
  | createCounting (userId : String) (dto : CreateBrokerAccountDto) (extra : Option OAuthExtra)
  | createInserting (userId : String) (dto : CreateBrokerAccountDto) (extra : Option OAuthExtra)
  | selecting (account : BrokerAccount)
  | provisioning (account : BrokerAccount) (host : String) (request : Nat)
  | stamping (account : BrokerAccount) (host : String)
  | cleaning (account : BrokerAccount) (err : AccountError)
  | updateFinding (userId id : String) (dto : UpdateBrokerAccountDto)
  | updateCounting (userId id : String) (dto : UpdateBrokerAccountDto)
  | updateWriting (userId id : String) (dto : UpdateBrokerAccountDto)
  | deleteFinding (userId id : String) (force : Bool)
  | deleteCounting (userId : String) (acct : BrokerAccount) (force : Bool)
  | deleteDisabling (userId id : String)
  | deleteLooking (userId id : String)
  | deprovisioning (userId id host : String) (request : Nat)
  | deleteDeleting (userId id : String) (torn : Option String)

def AccountCall.userId : AccountCall -> String
  | .createCounting userId _ _ => userId
  | .createInserting userId _ _ => userId
  | .selecting account => account.userId
  | .provisioning account _ _ => account.userId
  | .stamping account _ => account.userId
  | .cleaning account _ => account.userId
  | .updateFinding userId _ _ => userId
  | .updateCounting userId _ _ => userId
  | .updateWriting userId _ _ => userId
  | .deleteFinding userId _ _ => userId
  | .deleteCounting userId _ _ => userId
  | .deleteDisabling userId _ => userId
  | .deleteLooking userId _ => userId
  | .deprovisioning userId _ _ _ => userId
  | .deleteDeleting userId _ _ => userId

def AccountCall.target : AccountCall -> Option String
  | .selecting account => some account.id
  | .provisioning account _ _ => some account.id
  | .stamping account _ => some account.id
  | .cleaning account _ => some account.id
  | .updateCounting _ id _ => some id
  | .updateWriting _ id _ => some id
  | .deleteCounting _ acct _ => some acct.id
  | .deleteDisabling _ id => some id
  | .deleteLooking _ id => some id
  | .deprovisioning _ id _ _ => some id
  | .deleteDeleting _ id _ => some id
  | _ => none

inductive CreateEnd where
  | returned
  | cleaned
  | left
  deriving DecidableEq, Repr

abbrev AccountResult := Except AccountError (Option BrokerAccount)

/-- The database, the managers of the hosts, the calls and the requests under way.  The
last five fields are history: the ids given so far, who made each call, what each call
returned or threw, how each `create` ended that inserted a row, and the accounts whose
terminal a host may still run for nobody. -/
structure AccountSystem where
  accounts : List BrokerAccount
  hosts : List Mt5Host
  managers : String -> Host
  calls : InsertionMap Nat AccountCall
  nextCall : Nat
  requests : CallLog HostRequest HostResponse
  usedIds : List String
  callers : List String
  results : List (Nat × AccountResult)
  created : List (String × CreateEnd)
  stranded : List (String × String)

/-- The cap is not a number if it does not parse; `recordNotFound` is what the database
client says of a write to a row that is gone. -/
structure AccountEnv where
  softCap : Option Int
  recordNotFound : String
  fleet : String -> FleetConfig

namespace AccountSystem

def start (hosts : List Mt5Host) : AccountSystem :=
  { accounts := []
    hosts := hosts
    managers := fun _ => Host.boot .missing
    calls := []
    nextCall := 0
    requests := []
    usedIds := []
    callers := []
    results := []
    created := []
    stranded := [] }

def begin (s : AccountSystem) (userId : String) (c : AccountCall) : AccountSystem :=
  { s with
    calls := s.calls.set s.nextCall c
    nextCall := s.nextCall + 1
    callers := s.callers ++ [userId] }

def advance (s : AccountSystem) (call : Nat) (c : AccountCall) : AccountSystem :=
  { s with calls := s.calls.set call c }

def finish (s : AccountSystem) (call : Nat) (result : AccountResult) : AccountSystem :=
  { s with calls := s.calls.erase call, results := s.results ++ [(call, result)] }

def find (s : AccountSystem) (id : String) : Option BrokerAccount :=
  s.accounts.find? fun a => a.id = id

def enabledCount (s : AccountSystem) (userId : String) : Nat :=
  s.accounts.countP fun a => a.userId = userId ∧ a.isEnabled

def hosted (s : AccountSystem) (host : String) : Nat :=
  s.accounts.countP fun a => a.hostId = some host

def selectHost (s : AccountSystem) : Option Mt5Host :=
  let candidates := (s.hosts.filter fun h => h.status = .active).filter fun h =>
    s.hosted h.id < h.capacity
  (candidates.mergeSort fun a b => s.hosted a.id <= s.hosted b.id).head?

def insertRow (s : AccountSystem) (a : BrokerAccount) : AccountSystem :=
  { s with accounts := s.accounts ++ [a], usedIds := s.usedIds ++ [a.id] }

def changeRow (s : AccountSystem) (id : String) (change : BrokerAccount -> BrokerAccount) :
    AccountSystem :=
  { s with accounts := s.accounts.map fun a => if a.id = id then change a else a }

/-- A row that goes strands the terminal on its host, unless that was torn down. -/
def deleteRow (s : AccountSystem) (id : String) (torn : Option String) : AccountSystem :=
  { s with
    accounts := s.accounts.filter fun a => decide (a.id ≠ id)
    stranded := s.stranded ++ (s.accounts.filter fun a => decide (a.id = id)).filterMap fun a =>
      if a.hostId = torn then none else a.hostId.map fun host => (host, a.id) }

def endCreate (s : AccountSystem) (call : Nat) (id : String) (e : CreateEnd)
    (result : AccountResult) : AccountSystem :=
  { s with created := s.created ++ [(id, e)] }.finish call result

def strand (s : AccountSystem) (host id : String) : AccountSystem :=
  { s with stranded := s.stranded ++ [(host, id)] }

def send (s : AccountSystem) (r : HostRequest) : AccountSystem :=
  { s with requests := s.requests.start r }

/-!
# Steps
-/

/-- `enabledCount >= this.softCap`, as a number that is not one compares. -/
def full (env : AccountEnv) (s : AccountSystem) (userId : String) : Bool :=
  match env.softCap with
  | some cap => decide (cap <= s.enabledCount userId)
  | none => false

def underCap (env : AccountEnv) (s : AccountSystem) (call : Nat) (userId : String)
    (next : AccountSystem) : AccountSystem :=
  if s.full env userId then
    s.finish call
      (.error (.conflict s!"Soft cap of {env.softCap.getD 0} enabled accounts reached"))
  else next

def reading (s : AccountSystem) (call : Nat) (r : WriteResult) (next : AccountSystem) :
    AccountSystem :=
  match r.message with
  | none => next
  | some message => s.finish call (.error (.thrown message))

def owned (s : AccountSystem) (call : Nat) (userId id : String)
    (next : BrokerAccount -> AccountSystem) : AccountSystem :=
  match s.find id with
  | none => s.finish call (.error (.notFound s!"BrokerAccount {id} not found"))
  | some acct =>
      if acct.userId ≠ userId then
        s.finish call (.error (.notFound s!"BrokerAccount {id} not found"))
      else next acct

/-- The end of a call with its one write: `written` is the state if it lands. -/
def writing (env : AccountEnv) (s : AccountSystem) (call : Nat) (id : String) (r : WriteResult)
    (written : AccountSystem) (result : Option BrokerAccount) : AccountSystem :=
  match s.find id, r.message with
  | none, none => s.finish call (.error (.thrown env.recordNotFound))
  | none, some message => s.finish call (.error (.thrown message))
  | some _, none => written.finish call (.ok result)
  | some _, some message =>
      (if r.landed then written else s).finish call (.error (.thrown message))

def checked (s : AccountSystem) (call : Nat) (userId : String) (dto : CreateBrokerAccountDto)
    (extra : Option OAuthExtra) : AccountSystem :=
  match checkCreate dto extra with
  | .ok _ => s.advance call (.createInserting userId dto extra)
  | .error e => s.finish call (.error e)

def create (s : AccountSystem) (userId : String) (dto : CreateBrokerAccountDto)
    (extra : Option OAuthExtra) : AccountSystem :=
  let begun := s.begin userId (.createCounting userId dto extra)
  if dto.isEnabled ≠ some false then begun else begun.checked s.nextCall userId dto extra

/-- The database gives no id twice. -/
def inserting (s : AccountSystem) (call : Nat) (a : BrokerAccount) (r : WriteResult) :
    AccountSystem :=
  if r.landed ∧ a.id ∉ s.usedIds then
    match r.message with
    | some message => (s.insertRow a).endCreate call a.id .left (.error (.thrown message))
    | none =>
        if a.broker = .mt5Direct then (s.insertRow a).advance call (.selecting a)
        else (s.insertRow a).endCreate call a.id .returned (.ok (some a))
  else s.finish call (.error (.thrown (r.message.getD "")))

def selecting (s : AccountSystem) (call : Nat) (account : BrokerAccount) (r : WriteResult) :
    AccountSystem :=
  match r.message, s.selectHost with
  | some message, _ => s.advance call (.cleaning account (.thrown message))
  | none, none =>
      s.advance call (.cleaning account
        (.conflict "MT5 fleet is full — add capacity before onboarding more accounts"))
  | none, some host =>
      (s.send (.provision host.id account.id)).advance call
        (.provisioning account host.id (List.length s.requests))

def unprovisioned (s : AccountSystem) (call : Nat) (account : BrokerAccount) (host : String)
    (err : AccountError) : AccountSystem :=
  (s.strand host account.id).advance call (.cleaning account err)

def stamping (env : AccountEnv) (s : AccountSystem) (call : Nat) (account : BrokerAccount)
    (host : String) (r : WriteResult) (now : Int) : AccountSystem :=
  let stamped := s.changeRow account.id (BrokerAccount.stamp host now)
  match s.find account.id, r.message with
  | some _, none => stamped.endCreate call account.id .returned (.ok (some account))
  | none, none => s.unprovisioned call account host (provisionError 0 env.recordNotFound)
  | _, some message =>
      (if r.landed then stamped else s).unprovisioned call account host
        (provisionError 0 message)

def cleaning (env : AccountEnv) (s : AccountSystem) (call : Nat) (account : BrokerAccount)
    (err : AccountError) (r : WriteResult) : AccountSystem :=
  match s.find account.id, r.message with
  | none, none => s.endCreate call account.id .cleaned (.error (.thrown env.recordNotFound))
  | none, some message => s.endCreate call account.id .cleaned (.error (.thrown message))
  | some _, none => (s.deleteRow account.id none).endCreate call account.id .cleaned (.error err)
  | some _, some message =>
      if r.landed then
        (s.deleteRow account.id none).endCreate call account.id .cleaned (.error (.thrown message))
      else s.endCreate call account.id .left (.error (.thrown message))

def updateFound (s : AccountSystem) (call : Nat) (userId : String) (dto : UpdateBrokerAccountDto)
    (acct : BrokerAccount) : AccountSystem :=
  if dto.isEnabled = some true ∧ acct.isEnabled = false then
    s.advance call (.updateCounting userId acct.id dto)
  else s.advance call (.updateWriting userId acct.id dto)

def afterCount (s : AccountSystem) (call : Nat) (userId : String) (acct : BrokerAccount)
    (force : Bool) (openTrades : Nat) : AccountSystem :=
  if 0 < openTrades ∧ force = false then
    s.finish call (.error (.conflict (s!"Account has {openTrades} open trade(s). " ++
      "Close them first or pass force=true (soft-disable only).")))
  else if 0 < openTrades ∧ force then s.advance call (.deleteDisabling userId acct.id)
  else if acct.broker = .mt5Direct then s.advance call (.deleteLooking userId acct.id)
  else s.advance call (.deleteDeleting userId acct.id none)

def deleteLooked (s : AccountSystem) (call : Nat) (userId id : String) : AccountSystem :=
  match (s.find id).bind BrokerAccount.hostId with
  | none => s.advance call (.deleteDeleting userId id none)
  | some host =>
      (s.send (.deprovision host id)).advance call
        (.deprovisioning userId id host (List.length s.requests))

def resume (env : AccountEnv) (s : AccountSystem) (call : Nat) (r : WriteResult) (newId : String)
    (now : Int) : AccountCall -> AccountSystem
  | .createCounting userId dto extra =>
      s.reading call r (s.underCap env call userId (s.checked call userId dto extra))
  | .createInserting userId dto extra => s.inserting call (newAccount newId userId dto extra) r
  | .selecting account => s.selecting call account r
  | .stamping account host => s.stamping env call account host r now
  | .cleaning account err => s.cleaning env call account err r
  | .updateFinding userId id dto =>
      s.reading call r (s.owned call userId id (s.updateFound call userId dto))
  | .updateCounting userId id dto =>
      s.reading call r
        (s.underCap env call userId (s.advance call (.updateWriting userId id dto)))
  | .updateWriting _ id dto =>
      s.writing env call id r (s.changeRow id (BrokerAccount.applyUpdate dto))
        ((s.find id).map (BrokerAccount.applyUpdate dto))
  | .deleteFinding userId id force =>
      s.reading call r
        (s.owned call userId id fun acct => s.advance call (.deleteCounting userId acct force))
  | .deleteCounting _ _ _ => s.reading call r s
  | .deleteDisabling _ id =>
      s.writing env call id r (s.changeRow id BrokerAccount.disable) none
  | .deleteLooking userId id => s.reading call r (s.deleteLooked call userId id)
  | .deleteDeleting _ id torn => s.writing env call id r (s.deleteRow id torn) none
  | .provisioning _ _ _ => s
  | .deprovisioning _ _ _ _ => s

def respond (s : AccountSystem) (call : Nat) : AccountCall -> AccountSystem
  | .provisioning account host request =>
      match s.requests[request]?.bind LoggedCall.result with
      | some (.provisioned (.connected _) _ _) => s.advance call (.stamping account host)
      | some (.provisioned (.failed _) status message) =>
          s.unprovisioned call account host (provisionError status message)
      | _ => s
  | .deprovisioning userId id host request =>
      match s.requests[request]?.bind LoggedCall.result with
      | some (.deprovisioned none) => s.advance call (.deleteDeleting userId id (some host))
      | some (.deprovisioned (some _)) => s.advance call (.deleteDeleting userId id none)
      | _ => s
  | _ => s

/-- The caller gives up on its request, which may still be handled. -/
def httpFails (s : AccountSystem) (call : Nat) (message : String) : AccountCall -> AccountSystem
  | .provisioning account host _ => s.unprovisioned call account host (provisionError 0 message)
  | .deprovisioning userId id _ _ => s.advance call (.deleteDeleting userId id none)
  | _ => s

def atHost (s : AccountSystem) (host : String) (m : Host) : AccountSystem :=
  { s with managers := fun h => if h = host then m else s.managers h }

def handleProvision (env : AccountEnv) (s : AccountSystem) (request : Nat) (f : ProvisionFaults)
    (status : Nat) (message : String) : AccountSystem :=
  match s.requests.pending request with
  | some (.provision host accountId) =>
      let (m, result) := provision (env.fleet host) (s.managers host) accountId f
      { s.atHost host m with
        requests := s.requests.settle request (.provisioned result status message) }
  | _ => s

def handleDeprovision (s : AccountSystem) (request : Nat) (raised : Option Fault)
    (f : TearDownFaults) : AccountSystem :=
  match s.requests.pending request with
  | some (.deprovision host accountId) =>
      let (m, fault) := deprovision (s.managers host) accountId raised f
      { s.atHost host m with requests := s.requests.settle request (.deprovisioned fault) }
  | _ => s

end AccountSystem

/-- Users call, the database and the managers answer in any order, answers get lost, and
the watchdogs restart terminals. -/
inductive AccountOp where
  | create (userId : String) (dto : CreateBrokerAccountDto) (extra : Option OAuthExtra)
  | update (userId id : String) (dto : UpdateBrokerAccountDto)
  | delete (userId id : String) (force : Bool)
  | answer (call : Nat) (r : WriteResult) (id : String) (now : Int)
  | tradesCounted (call openTrades : Nat)
  | respond (call : Nat)
  | httpFails (call : Nat) (message : String)
  | provisions (request : Nat) (f : ProvisionFaults) (status : Nat) (message : String)
  | deprovisions (request : Nat) (raised : Option Fault) (f : TearDownFaults)
  | restarts (host accountId : String) (f : RestartFaults)

def accountStep (env : AccountEnv) (s : AccountSystem) : AccountOp -> AccountSystem
  | .create userId dto extra => s.create userId dto extra
  | .update userId id dto => s.begin userId (.updateFinding userId id dto)
  | .delete userId id force => s.begin userId (.deleteFinding userId id force)
  | .answer call r id now =>
      match s.calls.get call with
      | some c => s.resume env call r id now c
      | none => s
  | .tradesCounted call openTrades =>
      match s.calls.get call with
      | some (.deleteCounting userId acct force) => s.afterCount call userId acct force openTrades
      | _ => s
  | .respond call =>
      match s.calls.get call with
      | some c => s.respond call c
      | none => s
  | .httpFails call message =>
      match s.calls.get call with
      | some c => s.httpFails call message c
      | none => s
  | .provisions request f status message => s.handleProvision env request f status message
  | .deprovisions request raised f => s.handleDeprovision request raised f
  | .restarts host accountId f => s.atHost host (restart (s.managers host) accountId f).1

/-!
# Rows and their calls
-/

/-- The row a call works on is its user's, and its id is not given again. -/
def TargetSound (s : AccountSystem) (c : AccountCall) : Prop :=
  forall id, c.target = some id ->
    id ∈ s.usedIds ∧ forall a, a ∈ s.accounts -> a.id = id -> a.userId = c.userId

structure AccountsSound (s : AccountSystem) : Prop where
  ids : (s.accounts.map BrokerAccount.id).Nodup
  used : forall a, a ∈ s.accounts -> a.id ∈ s.usedIds
  numbers : (s.calls.map Prod.fst).Nodup
  counted : s.callers.length = s.nextCall
  called : forall call c, s.calls.get call = some c -> s.callers[call]? = some c.userId
  targets : forall call c, s.calls.get call = some c -> TargetSound s c

theorem accountsSound_start (hosts : List Mt5Host) : AccountsSound (.start hosts) := by
  refine ⟨List.nodup_nil, ?_, List.nodup_nil, rfl, ?_, ?_⟩
  · intro a ha
    cases ha
  · intro call c hc
    cases hc
  · intro call c hc
    cases hc

theorem AccountsSound.begun {s : AccountSystem} (h : AccountsSound s) {call : Nat}
    {c : AccountCall} (hc : s.calls.get call = some c) : call < s.nextCall := by
  rcases List.getElem?_eq_some_iff.mp (h.called call c hc) with ⟨hlt, _⟩
  rw [<- h.counted]
  exact hlt

def AccountSystem.rowsOf (s : AccountSystem) (userId : String) : List BrokerAccount :=
  s.accounts.filter fun a => a.userId = userId

structure MovedBy (user : String) (s t : AccountSystem) : Prop where
  sound : AccountsSound t
  next : t.nextCall = s.nextCall
  callers : t.callers = s.callers
  others : forall other, other ≠ user -> t.rowsOf other = s.rowsOf other

theorem MovedBy.refl {s : AccountSystem} (h : AccountsSound s) (user : String) :
    MovedBy user s s :=
  ⟨h, rfl, rfl, fun _ _ => rfl⟩

theorem find_some {s : AccountSystem} {id : String} {a : BrokerAccount}
    (h : s.find id = some a) : a ∈ s.accounts ∧ a.id = id := by
  unfold AccountSystem.find at h
  have hid := List.find?_some h
  exact ⟨List.mem_of_find?_eq_some h, of_decide_eq_true hid⟩

theorem AccountsSound.eq_of_id {s : AccountSystem} (h : AccountsSound s) {a b : BrokerAccount}
    (ha : a ∈ s.accounts) (hb : b ∈ s.accounts) (hid : a.id = b.id) : a = b :=
  List.inj_on_of_nodup_map h.ids ha hb hid

theorem AccountsSound.targetSound {s : AccountSystem} (h : AccountsSound s) {a : BrokerAccount}
    (ha : a ∈ s.accounts) {c : AccountCall} (htarget : c.target = some a.id)
    (huser : c.userId = a.userId) : TargetSound s c := by
  intro id hid
  cases htarget.symm.trans hid
  refine ⟨h.used a ha, ?_⟩
  intro b hb hsame
  rw [h.eq_of_id hb ha hsame, huser]

theorem TargetSound.same {s : AccountSystem} {c d : AccountCall} (h : TargetSound s c)
    (htarget : d.target = c.target) (huser : d.userId = c.userId) : TargetSound s d := by
  intro id hid
  rw [huser]
  exact h id (htarget.symm.trans hid)

section Moves

variable {user : String} {s t : AccountSystem}

theorem MovedBy.other_fields {t' : AccountSystem} (h : MovedBy user s t)
    (haccounts : t'.accounts = t.accounts) (hused : t'.usedIds = t.usedIds)
    (hcalls : t'.calls = t.calls) (hnext : t'.nextCall = t.nextCall)
    (hcallers : t'.callers = t.callers) : MovedBy user s t' := by
  refine ⟨⟨?_, ?_, ?_, ?_, ?_, ?_⟩, hnext.trans h.next, hcallers.trans h.callers, ?_⟩
  · rw [haccounts]
    exact h.sound.ids
  · rw [haccounts, hused]
    exact h.sound.used
  · rw [hcalls]
    exact h.sound.numbers
  · rw [hcallers, hnext]
    exact h.sound.counted
  · rw [hcalls, hcallers]
    exact h.sound.called
  · rw [hcalls]
    unfold TargetSound
    rw [haccounts, hused]
    exact h.sound.targets
  · intro other hother
    unfold AccountSystem.rowsOf
    rw [haccounts]
    exact h.others other hother

theorem MovedBy.advance (h : MovedBy user s t) {call : Nat} {c : AccountCall}
    (hcalled : s.callers[call]? = some c.userId) (hc : TargetSound t c) :
    MovedBy user s (t.advance call c) := by
  refine ⟨⟨h.sound.ids, h.sound.used, InsertionMap.nodup_set h.sound.numbers call c,
    h.sound.counted, ?_, ?_⟩, h.next, h.callers, h.others⟩
  · intro other d hd
    by_cases hne : other = call
    · rw [hne] at hd ⊢
      cases (InsertionMap.get_set_self t.calls call c).symm.trans hd
      exact (congrArg (fun callers : List String => callers[call]?) h.callers).trans hcalled
    · exact h.sound.called other d ((InsertionMap.get_set_of_ne t.calls c hne).symm.trans hd)
  · intro other d hd
    by_cases hne : other = call
    · rw [hne] at hd
      cases (InsertionMap.get_set_self t.calls call c).symm.trans hd
      exact hc
    · exact h.sound.targets other d ((InsertionMap.get_set_of_ne t.calls c hne).symm.trans hd)

theorem MovedBy.finish (h : MovedBy user s t) (call : Nat) (result : AccountResult) :
    MovedBy user s (t.finish call result) := by
  have hkept : forall other d, (t.calls.erase call).get other = some d ->
      t.calls.get other = some d := fun _ _ hd => InsertionMap.get_of_get_erase hd
  refine ⟨⟨h.sound.ids, h.sound.used, ?_, h.sound.counted,
    fun other d hd => h.sound.called other d (hkept other d hd),
    fun other d hd => h.sound.targets other d (hkept other d hd)⟩, h.next, h.callers, h.others⟩
  exact h.sound.numbers.sublist ((InsertionMap.erase_sublist t.calls call).map Prod.fst)

theorem MovedBy.endCreate (h : MovedBy user s t) (call : Nat) (id : String) (e : CreateEnd)
    (result : AccountResult) : MovedBy user s (t.endCreate call id e result) := by
  unfold AccountSystem.endCreate
  refine MovedBy.finish ?_ call result
  exact h.other_fields rfl rfl rfl rfl rfl

theorem MovedBy.insertRow (h : MovedBy user s t) {a : BrokerAccount} (hid : a.id ∉ t.usedIds)
    (huser : a.userId = user) : MovedBy user s (t.insertRow a) := by
  refine ⟨⟨?_, ?_, h.sound.numbers, h.sound.counted, h.sound.called, ?_⟩, h.next, h.callers, ?_⟩
  · change ((t.accounts ++ [a]).map BrokerAccount.id).Nodup
    rw [List.map_append, List.map_singleton, <- List.concat_eq_append]
    refine h.sound.ids.concat ?_
    intro hmem
    rcases List.mem_map.mp hmem with ⟨b, hb, hsame⟩
    exact hid (hsame ▸ h.sound.used b hb)
  · intro b hb
    rcases List.mem_append.mp hb with hold | hnew
    · exact List.mem_append_left _ (h.sound.used b hold)
    · rw [List.mem_singleton.mp hnew]
      exact List.mem_append_right _ (List.mem_singleton_self _)
  · intro call c hc id htarget
    rcases h.sound.targets call c hc id htarget with ⟨hused, howner⟩
    refine ⟨List.mem_append_left _ hused, ?_⟩
    intro b hb hsame
    rcases List.mem_append.mp hb with hold | hnew
    · exact howner b hold hsame
    · rw [List.mem_singleton.mp hnew] at hsame
      exact absurd (hsame ▸ hused) hid
  · intro other hother
    rw [<- h.others other hother]
    change (t.accounts ++ [a]).filter _ = t.accounts.filter _
    rw [List.filter_append, List.filter_singleton, huser]
    simp [Ne.symm hother]

structure KeepsOwner (change : BrokerAccount -> BrokerAccount) : Prop where
  id : forall a, (change a).id = a.id
  userId : forall a, (change a).userId = a.userId

theorem MovedBy.changeRow (h : MovedBy user s t) {change : BrokerAccount -> BrokerAccount}
    (hchange : KeepsOwner change) {id : String}
    (howner : forall a, a ∈ t.accounts -> a.id = id -> a.userId = user) :
    MovedBy user s (t.changeRow id change) := by
  have hid : forall a : BrokerAccount, (if a.id = id then change a else a).id = a.id := by
    intro a
    split_ifs
    · exact hchange.id a
    · rfl
  have huserId : forall a : BrokerAccount,
      (if a.id = id then change a else a).userId = a.userId := by
    intro a
    split_ifs
    · exact hchange.userId a
    · rfl
  refine ⟨⟨?_, ?_, h.sound.numbers, h.sound.counted, h.sound.called, ?_⟩, h.next, h.callers, ?_⟩
  · change ((t.accounts.map _).map BrokerAccount.id).Nodup
    rw [List.map_map, List.map_congr_left (g := BrokerAccount.id)]
    · exact h.sound.ids
    · exact fun a _ => hid a
  · intro b hb
    rcases List.mem_map.mp hb with ⟨a, ha, rfl⟩
    rw [hid]
    exact h.sound.used a ha
  · intro call c hc target htarget
    rcases h.sound.targets call c hc target htarget with ⟨hused, hrows⟩
    refine ⟨hused, ?_⟩
    intro b hb hsame
    rcases List.mem_map.mp hb with ⟨a, ha, rfl⟩
    rw [huserId]
    exact hrows a ha ((hid a).symm.trans hsame)
  · intro other hother
    rw [<- h.others other hother]
    change (t.accounts.map _).filter _ = t.accounts.filter _
    rw [List.filter_map, List.filter_congr (q := fun a => decide (a.userId = other))
      fun a _ => by rw [Function.comp_apply, huserId]]
    refine (List.map_congr_left ?_).trans (List.map_id _)
    intro a ha
    rcases List.mem_filter.mp ha with ⟨hmem, hother'⟩
    refine if_neg fun hsame => ?_
    exact hother ((of_decide_eq_true hother').symm.trans (howner a hmem hsame))

theorem MovedBy.deleteRow (h : MovedBy user s t) {id : String}
    (howner : forall a, a ∈ t.accounts -> a.id = id -> a.userId = user) (torn : Option String) :
    MovedBy user s (t.deleteRow id torn) := by
  refine ⟨⟨?_, ?_, h.sound.numbers, h.sound.counted, h.sound.called, ?_⟩, h.next, h.callers, ?_⟩
  · exact h.sound.ids.sublist (List.filter_sublist.map BrokerAccount.id)
  · exact fun b hb => h.sound.used b (List.mem_of_mem_filter hb)
  · intro call c hc target htarget
    rcases h.sound.targets call c hc target htarget with ⟨hused, hrows⟩
    exact ⟨hused, fun b hb => hrows b (List.mem_of_mem_filter hb)⟩
  · intro other hother
    rw [<- h.others other hother]
    change (t.accounts.filter _).filter _ = t.accounts.filter _
    rw [List.filter_filter]
    refine List.filter_congr ?_
    intro a ha
    by_cases hsame : a.userId = other
    · have hne : a.id ≠ id := fun hid => hother (hsame.symm.trans (howner a ha hid))
      simp [hsame, hne]
    · simp [hsame]

theorem MovedBy.strand (h : MovedBy user s t) (host id : String) :
    MovedBy user s (t.strand host id) :=
  h.other_fields rfl rfl rfl rfl rfl

theorem MovedBy.send (h : MovedBy user s t) (r : HostRequest) : MovedBy user s (t.send r) :=
  h.other_fields rfl rfl rfl rfl rfl

/-!
# The parts of a step
-/

theorem MovedBy.reading (hs : AccountsSound s) (call : Nat) (r : WriteResult)
    (h : MovedBy user s t) : MovedBy user s (s.reading call r t) := by
  unfold AccountSystem.reading
  split
  · exact h
  · exact (MovedBy.refl hs user).finish call _

theorem MovedBy.underCap (hs : AccountsSound s) (env : AccountEnv) (call : Nat) (userId : String)
    (h : MovedBy user s t) : MovedBy user s (s.underCap env call userId t) := by
  unfold AccountSystem.underCap
  split_ifs
  · exact (MovedBy.refl hs user).finish call _
  · exact h

theorem movedBy_owned (hs : AccountsSound s) (call : Nat) {id : String}
    {next : BrokerAccount -> AccountSystem}
    (hnext : forall acct, acct ∈ s.accounts -> acct.userId = user -> MovedBy user s (next acct)) :
    MovedBy user s (s.owned call user id next) := by
  unfold AccountSystem.owned
  split
  · exact (MovedBy.refl hs user).finish call _
  · next acct hfind =>
      split_ifs with howner
      · exact (MovedBy.refl hs user).finish call _
      · exact hnext acct (find_some hfind).1 (not_not.mp howner)

theorem MovedBy.writing (hs : AccountsSound s) (env : AccountEnv) (call : Nat) (id : String)
    (r : WriteResult) (result : Option BrokerAccount) (h : MovedBy user s t) :
    MovedBy user s (s.writing env call id r t result) := by
  have hrefl := MovedBy.refl hs user
  unfold AccountSystem.writing
  split
  · exact hrefl.finish call _
  · exact hrefl.finish call _
  · exact h.finish call _
  · split_ifs
    · exact h.finish call _
    · exact hrefl.finish call _

theorem movedBy_checked (h : MovedBy user s t) {call : Nat} {userId : String}
    (hcalled : s.callers[call]? = some userId) (dto : CreateBrokerAccountDto) (extra : Option OAuthExtra) :
    MovedBy user s (t.checked call userId dto extra) := by
  unfold AccountSystem.checked
  split
  · refine h.advance hcalled ?_
    intro id hid
    cases hid
  · exact h.finish call _

theorem keepsOwner_applyUpdate (dto : UpdateBrokerAccountDto) :
    KeepsOwner (BrokerAccount.applyUpdate dto) :=
  ⟨fun _ => rfl, fun _ => rfl⟩

theorem keepsOwner_disable : KeepsOwner BrokerAccount.disable :=
  ⟨fun _ => rfl, fun _ => rfl⟩

theorem keepsOwner_stamp (host : String) (now : Int) : KeepsOwner (BrokerAccount.stamp host now) :=
  ⟨fun _ => rfl, fun _ => rfl⟩

theorem MovedBy.unprovisioned (h : MovedBy user s t) {call : Nat} {account : BrokerAccount}
    (hcalled : s.callers[call]? = some account.userId) (host : String) (err : AccountError)
    (htarget : TargetSound t (.cleaning account err)) :
    MovedBy user s (t.unprovisioned call account host err) :=
  (h.strand host account.id).advance hcalled htarget

theorem movedBy_inserting (hs : AccountsSound s) {call : Nat} {a : BrokerAccount}
    (hcalled : s.callers[call]? = some a.userId) (r : WriteResult) :
    MovedBy a.userId s (s.inserting call a r) := by
  have hrefl := MovedBy.refl hs a.userId
  unfold AccountSystem.inserting
  split
  · next hlanded =>
    have hinserted := hrefl.insertRow hlanded.2 rfl
    split
    · exact hinserted.endCreate call _ _ _
    · split
      · refine hinserted.advance hcalled ?_
        exact hinserted.sound.targetSound (List.mem_append_right _ (List.mem_singleton_self a)) rfl
          rfl
      · exact hinserted.endCreate call _ _ _
  · exact hrefl.finish call _

theorem movedBy_selecting (hs : AccountsSound s) {call : Nat} {account : BrokerAccount}
    (hcalled : s.callers[call]? = some account.userId)
    (htarget : TargetSound s (.selecting account)) (r : WriteResult) :
    MovedBy account.userId s (s.selecting call account r) := by
  have hrefl := MovedBy.refl hs account.userId
  unfold AccountSystem.selecting
  split
  · exact hrefl.advance hcalled (htarget.same rfl rfl)
  · exact hrefl.advance hcalled (htarget.same rfl rfl)
  · exact (hrefl.send _).advance hcalled (htarget.same rfl rfl)

theorem movedBy_stamping (hs : AccountsSound s) (env : AccountEnv) {call : Nat}
    {account : BrokerAccount} {host : String} (hcalled : s.callers[call]? = some account.userId)
    (htarget : TargetSound s (.stamping account host)) (r : WriteResult) (now : Int) :
    MovedBy account.userId s (s.stamping env call account host r now) := by
  have hrefl := MovedBy.refl hs account.userId
  have howner := (htarget account.id rfl).2
  have hstamped := hrefl.changeRow (keepsOwner_stamp host now) howner
  unfold AccountSystem.stamping
  dsimp only
  split
  · exact hstamped.endCreate call _ _ _
  · exact hrefl.unprovisioned hcalled host _ (htarget.same rfl rfl)
  · split_ifs
    · refine hstamped.unprovisioned hcalled host _ ?_
      intro id hid
      cases hid
      refine ⟨(htarget account.id rfl).1, ?_⟩
      intro b hb hsame
      rcases List.mem_map.mp hb with ⟨a, ha, rfl⟩
      split_ifs at hsame ⊢ with hid
      · exact howner a ha hid
      · exact absurd hsame hid
    · exact hrefl.unprovisioned hcalled host _ (htarget.same rfl rfl)

theorem movedBy_cleaning (hs : AccountsSound s) (env : AccountEnv) (call : Nat)
    {account : BrokerAccount} {err : AccountError}
    (htarget : TargetSound s (.cleaning account err)) (r : WriteResult) :
    MovedBy account.userId s (s.cleaning env call account err r) := by
  have hrefl := MovedBy.refl hs account.userId
  have hdeleted := hrefl.deleteRow (htarget account.id rfl).2 none
  unfold AccountSystem.cleaning
  split
  · exact hrefl.endCreate call _ _ _
  · exact hrefl.endCreate call _ _ _
  · exact hdeleted.endCreate call _ _ _
  · split_ifs
    · exact hdeleted.endCreate call _ _ _
    · exact hrefl.endCreate call _ _ _

theorem movedBy_deleteLooked (hs : AccountsSound s) {call : Nat} {userId id : String}
    (hcalled : s.callers[call]? = some userId) (htarget : TargetSound s (.deleteLooking userId id)) :
    MovedBy userId s (s.deleteLooked call userId id) := by
  have hrefl := MovedBy.refl hs userId
  unfold AccountSystem.deleteLooked
  split
  · exact hrefl.advance hcalled (htarget.same rfl rfl)
  · exact (hrefl.send _).advance hcalled (htarget.same rfl rfl)

/-!
# The steps
-/

theorem movedBy_resume (hs : AccountsSound s) (env : AccountEnv) {call : Nat} {c : AccountCall}
    (hcall : s.calls.get call = some c) (r : WriteResult) (newId : String) (now : Int) :
    MovedBy c.userId s (s.resume env call r newId now c) := by
  have hcalled := hs.called call c hcall
  have htarget := hs.targets call c hcall
  have hrefl := MovedBy.refl hs c.userId
  cases c with
  | createCounting userId dto extra =>
      exact ((movedBy_checked hrefl hcalled dto extra).underCap hs env call userId).reading
        hs call r
  | createInserting userId dto extra =>
      exact movedBy_inserting hs (a := newAccount newId userId dto extra) hcalled r
  | selecting account =>
      exact movedBy_selecting hs hcalled htarget r
  | provisioning account host request =>
      exact hrefl
  | stamping account host =>
      exact movedBy_stamping hs env hcalled htarget r now
  | cleaning account err =>
      exact movedBy_cleaning hs env call htarget r
  | updateFinding userId id dto =>
      refine (movedBy_owned hs call ?_).reading hs call r
      intro acct hacct howner
      unfold AccountSystem.updateFound
      split_ifs
      · exact hrefl.advance hcalled (hs.targetSound hacct rfl howner.symm)
      · exact hrefl.advance hcalled (hs.targetSound hacct rfl howner.symm)
  | updateCounting userId id dto =>
      have hwrite : TargetSound s (.updateWriting userId id dto) := htarget.same rfl rfl
      have hwriting := hrefl.advance (c := .updateWriting userId id dto) hcalled hwrite
      exact (hwriting.underCap hs env call userId).reading hs call r
  | updateWriting userId id dto =>
      exact (hrefl.changeRow (keepsOwner_applyUpdate dto) (htarget id rfl).2).writing hs env call
        id r _
  | deleteFinding userId id force =>
      refine (movedBy_owned hs call ?_).reading hs call r
      intro acct hacct howner
      exact hrefl.advance hcalled (hs.targetSound hacct rfl howner.symm)
  | deleteCounting userId acct force =>
      exact hrefl.reading hs call r
  | deleteDisabling userId id =>
      exact (hrefl.changeRow keepsOwner_disable (htarget id rfl).2).writing hs env call id r _
  | deleteLooking userId id =>
      exact (movedBy_deleteLooked hs hcalled htarget).reading hs call r
  | deprovisioning userId id host request =>
      exact hrefl
  | deleteDeleting userId id torn =>
      exact (hrefl.deleteRow (htarget id rfl).2 torn).writing hs env call id r _

theorem movedBy_afterCount (hs : AccountsSound s) {call : Nat} {userId : String}
    {acct : BrokerAccount} {force : Bool}
    (hcall : s.calls.get call = some (.deleteCounting userId acct force)) (openTrades : Nat) :
    MovedBy userId s (s.afterCount call userId acct force openTrades) := by
  have hcalled := hs.called call _ hcall
  have htarget := hs.targets call _ hcall
  have hrefl := MovedBy.refl hs userId
  unfold AccountSystem.afterCount
  split_ifs
  · exact hrefl.finish call _
  · exact hrefl.advance hcalled (htarget.same rfl rfl)
  · exact hrefl.advance hcalled (htarget.same rfl rfl)
  · exact hrefl.advance hcalled (htarget.same rfl rfl)

theorem movedBy_respond (hs : AccountsSound s) {call : Nat} {c : AccountCall}
    (hcall : s.calls.get call = some c) : MovedBy c.userId s (s.respond call c) := by
  have hcalled := hs.called call c hcall
  have htarget := hs.targets call c hcall
  have hrefl := MovedBy.refl hs c.userId
  cases c with
  | provisioning account host request =>
      dsimp only [AccountSystem.respond]
      split
      · exact hrefl.advance hcalled (htarget.same rfl rfl)
      · exact hrefl.unprovisioned hcalled host _ (htarget.same rfl rfl)
      · exact hrefl
  | deprovisioning userId id host request =>
      dsimp only [AccountSystem.respond]
      split
      · exact hrefl.advance hcalled (htarget.same rfl rfl)
      · exact hrefl.advance hcalled (htarget.same rfl rfl)
      · exact hrefl
  | _ =>
      exact hrefl

theorem movedBy_httpFails (hs : AccountsSound s) {call : Nat} {c : AccountCall}
    (hcall : s.calls.get call = some c) (message : String) :
    MovedBy c.userId s (s.httpFails call message c) := by
  have hcalled := hs.called call c hcall
  have htarget := hs.targets call c hcall
  have hrefl := MovedBy.refl hs c.userId
  cases c with
  | provisioning account host request =>
      exact hrefl.unprovisioned hcalled host _ (htarget.same rfl rfl)
  | deprovisioning userId id host request =>
      exact hrefl.advance hcalled (htarget.same rfl rfl)
  | _ =>
      exact hrefl

end Moves

theorem handleProvision_fields (env : AccountEnv) (s : AccountSystem) (request : Nat)
    (f : ProvisionFaults) (status : Nat) (message : String) :
    let t := s.handleProvision env request f status message
    t.accounts = s.accounts ∧ t.usedIds = s.usedIds ∧ t.calls = s.calls ∧
      t.nextCall = s.nextCall ∧ t.callers = s.callers := by
  unfold AccountSystem.handleProvision
  split
  · exact ⟨rfl, rfl, rfl, rfl, rfl⟩
  · exact ⟨rfl, rfl, rfl, rfl, rfl⟩

theorem handleDeprovision_fields (s : AccountSystem) (request : Nat) (raised : Option Fault)
    (f : TearDownFaults) :
    let t := s.handleDeprovision request raised f
    t.accounts = s.accounts ∧ t.usedIds = s.usedIds ∧ t.calls = s.calls ∧
      t.nextCall = s.nextCall ∧ t.callers = s.callers := by
  unfold AccountSystem.handleDeprovision
  split
  · exact ⟨rfl, rfl, rfl, rfl, rfl⟩
  · exact ⟨rfl, rfl, rfl, rfl, rfl⟩

theorem called_begin {s : AccountSystem} (h : AccountsSound s) (userId : String)
    (c : AccountCall) : (s.begin userId c).callers[s.nextCall]? = some userId := by
  change (s.callers ++ [userId])[s.nextCall]? = some userId
  rw [<- h.counted]
  exact List.getElem?_concat_length

theorem accountsSound_begin {s : AccountSystem} (h : AccountsSound s) {c : AccountCall}
    (hc : c.target = none) : AccountsSound (s.begin c.userId c) := by
  refine ⟨h.ids, h.used, InsertionMap.nodup_set h.numbers s.nextCall c, ?_, ?_, ?_⟩
  · change (s.callers ++ [c.userId]).length = s.nextCall + 1
    rw [List.length_append, h.counted]
    rfl
  · intro call d hd
    by_cases hne : call = s.nextCall
    · rw [hne] at hd ⊢
      cases (InsertionMap.get_set_self s.calls s.nextCall c).symm.trans hd
      exact called_begin h _ _
    · have hd := (InsertionMap.get_set_of_ne s.calls c hne).symm.trans hd
      refine (List.getElem?_append_left ?_).trans (h.called call d hd)
      exact h.counted.symm ▸ h.begun hd
  · intro call d hd
    by_cases hne : call = s.nextCall
    · rw [hne] at hd
      cases (InsertionMap.get_set_self s.calls s.nextCall c).symm.trans hd
      intro id hid
      cases hc.symm.trans hid
    · exact h.targets call d ((InsertionMap.get_set_of_ne s.calls c hne).symm.trans hd)

def actingUser (s : AccountSystem) : AccountOp -> Option String
  | .create userId _ _ => some userId
  | .update userId _ _ => some userId
  | .delete userId _ _ => some userId
  | .answer call _ _ _ => s.callers[call]?
  | .tradesCounted call _ => s.callers[call]?
  | .respond call => s.callers[call]?
  | .httpFails call _ => s.callers[call]?
  | _ => none

structure StepKept (env : AccountEnv) (s : AccountSystem) (op : AccountOp) : Prop where
  sound : AccountsSound (accountStep env s op)
  others : forall user, actingUser s op ≠ some user ->
    (accountStep env s op).rowsOf user = s.rowsOf user

theorem stepKept_of_same {env : AccountEnv} {s : AccountSystem} {op : AccountOp}
    (hs : AccountsSound s) (haccounts : (accountStep env s op).accounts = s.accounts)
    (hused : (accountStep env s op).usedIds = s.usedIds)
    (hcalls : (accountStep env s op).calls = s.calls)
    (hnext : (accountStep env s op).nextCall = s.nextCall)
    (hcallers : (accountStep env s op).callers = s.callers) : StepKept env s op := by
  refine ⟨((MovedBy.refl hs "").other_fields haccounts hused hcalls hnext hcallers).sound, ?_⟩
  intro user _
  unfold AccountSystem.rowsOf
  rw [haccounts]

theorem stepKept_of_idle {env : AccountEnv} {s : AccountSystem} {op : AccountOp}
    (hs : AccountsSound s) (hidle : accountStep env s op = s) : StepKept env s op :=
  stepKept_of_same hs (by rw [hidle]) (by rw [hidle]) (by rw [hidle]) (by rw [hidle])
    (by rw [hidle])

theorem stepKept_of_movedBy {env : AccountEnv} {s : AccountSystem} {op : AccountOp} {call : Nat}
    {c : AccountCall} (hs : AccountsSound s) (hcall : s.calls.get call = some c)
    (hacting : actingUser s op = s.callers[call]?)
    (h : MovedBy c.userId s (accountStep env s op)) : StepKept env s op := by
  refine ⟨h.sound, ?_⟩
  intro user huser
  refine h.others user ?_
  rintro rfl
  rw [hacting, hs.called call c hcall] at huser
  exact huser rfl

theorem stepKept_of_call {env : AccountEnv} {s : AccountSystem} {op : AccountOp} {call : Nat}
    {next : AccountCall -> AccountSystem} (hs : AccountsSound s)
    (hstep : accountStep env s op = match s.calls.get call with
      | some c => next c
      | none => s)
    (hacting : actingUser s op = s.callers[call]?)
    (h : forall c, s.calls.get call = some c -> MovedBy c.userId s (next c)) :
    StepKept env s op := by
  cases hcall : s.calls.get call with
  | none =>
      rw [hcall] at hstep
      exact stepKept_of_idle hs hstep
  | some c =>
      refine stepKept_of_movedBy hs hcall hacting ?_
      rw [hstep, hcall]
      exact h c hcall

theorem stepKept (env : AccountEnv) {s : AccountSystem} (hs : AccountsSound s) (op : AccountOp) :
    StepKept env s op := by
  cases op with
  | create userId dto extra =>
      have hbegun := accountsSound_begin hs (c := .createCounting userId dto extra) rfl
      have hcreated : MovedBy userId (s.begin userId (.createCounting userId dto extra))
          (s.create userId dto extra) := by
        unfold AccountSystem.create
        dsimp only
        split_ifs
        · exact MovedBy.refl hbegun userId
        · exact movedBy_checked (MovedBy.refl hbegun userId) (called_begin hs _ _) dto extra
      refine ⟨hcreated.sound, ?_⟩
      intro user huser
      exact hcreated.others user fun heq => huser (congrArg some heq.symm)
  | update userId id dto =>
      exact ⟨accountsSound_begin hs (c := .updateFinding userId id dto) rfl, fun _ _ => rfl⟩
  | delete userId id force =>
      exact ⟨accountsSound_begin hs (c := .deleteFinding userId id force) rfl, fun _ _ => rfl⟩
  | answer call r newId now =>
      exact stepKept_of_call hs rfl rfl fun c hcall => movedBy_resume hs env hcall r newId now
  | tradesCounted call openTrades =>
      cases hcall : s.calls.get call with
      | none =>
          refine stepKept_of_idle hs ?_
          dsimp only [accountStep]
          rw [hcall]
      | some c =>
          refine stepKept_of_movedBy hs hcall rfl ?_
          dsimp only [accountStep]
          rw [hcall]
          split
          · next userId acct force heq =>
              cases heq
              exact movedBy_afterCount hs hcall openTrades
          · exact MovedBy.refl hs c.userId
  | respond call =>
      exact stepKept_of_call hs rfl rfl fun c hcall => movedBy_respond hs hcall
  | httpFails call message =>
      exact stepKept_of_call hs rfl rfl fun c hcall => movedBy_httpFails hs hcall message
  | provisions request f status message =>
      rcases handleProvision_fields env s request f status message with ⟨h1, h2, h3, h4, h5⟩
      exact stepKept_of_same hs h1 h2 h3 h4 h5
  | deprovisions request raised f =>
      rcases handleDeprovision_fields s request raised f with ⟨h1, h2, h3, h4, h5⟩
      exact stepKept_of_same hs h1 h2 h3 h4 h5
  | restarts host accountId f =>
      exact stepKept_of_same hs rfl rfl rfl rfl rfl

theorem accountsSound_run (env : AccountEnv) (hosts : List Mt5Host) (ops : List AccountOp) :
    AccountsSound (runFrom (accountStep env) (.start hosts) ops) :=
  runFrom_inv AccountsSound (fun _ op hs => (stepKept env hs op).sound) (accountsSound_start hosts)
    ops

/-- In every interleaving, a user's rows stay as they are through all steps of other
users' calls, of the managers and of the watchdogs. -/
theorem accounts_belong_to_their_users (env : AccountEnv) (hosts : List Mt5Host)
    (front back : List AccountOp) (user : String)
    (h : EveryStep (accountStep env) (fun s op => actingUser s op ≠ some user)
      (runFrom (accountStep env) (.start hosts) front) back) :
    (runFrom (accountStep env) (.start hosts) (front ++ back)).rowsOf user =
      (runFrom (accountStep env) (.start hosts) front).rowsOf user := by
  have hfront := accountsSound_run env hosts front
  rw [runFrom_append]
  refine (h.run_inv (fun s => AccountsSound s ∧
    s.rowsOf user = (runFrom (accountStep env) (.start hosts) front).rowsOf user)
      ?_ ⟨hfront, rfl⟩).2
  intro s op hs hacting
  have hkept := stepKept env hs.1 op
  exact ⟨hkept.sound, (hkept.others user hacting).trans hs.2⟩

def mockDto : CreateBrokerAccountDto :=
  { name := "Demo"
    broker := .mock
    mode := .mock
    creds := some [("accountId", .text "m"), ("accessToken", .text "t")]
    isEnabled := some true }

def capOfFive : AccountEnv :=
  { softCap := some 5
    recordNotFound := "Record not found"
    fleet := fun _ => { basePort := 9100, maxTerminals := 2 } }

/-- The accounts of two users; the second deletes her own and tries to delete the other's,
with the answers that a deletion waits for. -/
theorem accounts_belong_to_their_users_when_deleted_by_another :
    (runFrom (accountStep capOfFive) (.start [])
      ([.create "u1" mockDto none, .answer 0 .ok "" 0, .answer 0 .ok "a1" 1,
          .create "u2" mockDto none, .answer 1 .ok "" 2, .answer 1 .ok "a2" 3] ++
        [.delete "u2" "a1" true, .delete "u2" "a2" true, .answer 2 .ok "" 4, .answer 3 .ok "" 5,
          .tradesCounted 2 0, .tradesCounted 3 0, .answer 2 .ok "" 6,
          .answer 3 .ok "" 7])).rowsOf "u1" =
      (runFrom (accountStep capOfFive) (.start [])
        [.create "u1" mockDto none, .answer 0 .ok "" 0, .answer 0 .ok "a1" 1,
          .create "u2" mockDto none, .answer 1 .ok "" 2, .answer 1 .ok "a2" 3]).rowsOf "u1" :=
  accounts_belong_to_their_users capOfFive [] _ _ "u1" (by decide +kernel)

end Hosting
end Accounts
end Shamarx
