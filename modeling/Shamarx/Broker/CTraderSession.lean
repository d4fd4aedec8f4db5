import Shamarx.Foundation.InFlight
import Shamarx.Foundation.Runs
import Mathlib.Tactic.SplitIfs

/-!
# The session of a cTrader client

A `CTraderClient` holds one transport, one heartbeat task and one pair of tokens.  Its
reads run under `_with_reconnect`, its mutating calls first run `_ensure_connected`.
They overlap at every await, and nothing serialises the reconnects or the token
refreshes of different calls.
-/

namespace Shamarx
namespace Broker
namespace CTraderSession

open Foundation

/-!
# The connection
-/

/-- A transport that has been created.  `reading` is false once its reader loop is
over. -/
inductive Socket where
  | connecting
  | failed
  | open_ (reading : Bool)
  | closed
  deriving DecidableEq

inductive Heartbeat where
  | created
  | looping
  | over
  deriving DecidableEq

inductive InitRequest where
  | appAuth
  | accountAuth
  | symbolsList
  | symbolById
  deriving DecidableEq

/-- The awaits of `_reconnect` and `initialize`: the close of the old transport, the
connect of the new one, a request, and the close after a failed request. -/
inductive Linking where
  | closing (t : Nat)
  | connecting (t : Nat)
  | requesting (request : InitRequest)
  | cleaning (t : Nat)
  deriving DecidableEq

structure Connection where
  transport : Option Nat
  sockets : List Socket
  heartbeat : Option Nat
  heartbeats : List Heartbeat
  deriving DecidableEq

inductive LinkResult where
  | awaits (l : Linking)
  | done
  | failed
  deriving DecidableEq

namespace Connection

def setSocket (c : Connection) (t : Nat) (socket : Socket) : Connection :=
  { c with sockets := c.sockets.set t socket }

def setHeartbeat (c : Connection) (h : Nat) (heartbeat : Heartbeat) : Connection :=
  { c with heartbeats := c.heartbeats.set h heartbeat }

def isAlive (c : Connection) (t : Nat) : Bool :=
  c.sockets[t]? = some (.open_ true)

def hasWs (c : Connection) (t : Nat) : Bool :=
  match c.sockets[t]? with
  | some (.open_ _) => true
  | some .closed => true
  | _ => false

/-- `close` of a transport cancels its reader before it awaits the websocket. -/
def stopReader (c : Connection) (t : Nat) : Connection :=
  match c.sockets[t]? with
  | some (.open_ _) => c.setSocket t (.open_ false)
  | _ => c

def closeEnds (c : Connection) (t : Nat) (closes : Bool) : Connection :=
  if closes then c.setSocket t .closed else c

def startInitialize (c : Connection) : Connection × LinkResult :=
  ({ c with
      transport := some c.sockets.length
      sockets := c.sockets ++ [.connecting] },
    .awaits (.connecting c.sockets.length))

def cancelHeartbeat (c : Connection) : Connection :=
  match c.heartbeat with
  | some h => { c.setHeartbeat h .over with heartbeat := none }
  | none => c

/-- The old transport is closed before a new one is made.  The close of a transport
without a websocket does not suspend. -/
def replaceTransport (c : Connection) : Connection × LinkResult :=
  match c.transport with
  | some t =>
      if c.hasWs t then (c.stopReader t, .awaits (.closing t))
      else { c with transport := none }.startInitialize
  | none => c.startInitialize

def reconnect (c : Connection) : Connection × LinkResult :=
  c.cancelHeartbeat.replaceTransport

def clean (c : Connection) : Connection × LinkResult :=
  match c.transport with
  | some t =>
      if c.hasWs t then (c.stopReader t, .awaits (.cleaning t))
      else ({ c with transport := none }, .failed)
  | none => (c, .failed)

/-- A request of `initialize`, on whatever transport the client holds by then. -/
def request (c : Connection) (r : InitRequest) : Connection × LinkResult :=
  match c.transport with
  | some t => if c.hasWs t then (c, .awaits (.requesting r)) else c.clean
  | none => c.clean

def startHeartbeat (c : Connection) : Connection × LinkResult :=
  ({ c with
      heartbeat := some c.heartbeats.length
      heartbeats := c.heartbeats ++ [.created] },
    .done)

/-- A request is answered.  `wanted` says whether the catalogue lists any of our
symbols. -/
def answered (c : Connection) (wanted : Bool) : InitRequest -> Connection × LinkResult
  | .appAuth => c.request .accountAuth
  | .accountAuth => c.request .symbolsList
  | .symbolsList => if wanted then c.request .symbolById else c.startHeartbeat
  | .symbolById => c.startHeartbeat

/-- The first run of a heartbeat task asserts that there is a transport. -/
def heartbeatRuns (c : Connection) (h : Nat) : Connection :=
  match c.heartbeats[h]? with
  | some .created =>
      match c.transport with
      | some _ => c.setHeartbeat h .looping
      | none => c.setHeartbeat h .over
  | _ => c

/-- The server closes the socket, or only the reader loop ends. -/
def drops (c : Connection) (t : Nat) (closes : Bool) : Connection :=
  match c.sockets[t]? with
  | some (.open_ _) => c.setSocket t (if closes then .closed else .open_ false)
  | _ => c

end Connection

/-!
# The tokens
-/

/-- Token pairs are numbered in the order in which the endpoint gives them out.  `pair` is
the client's and `stored` the one in the account's row; `valid` is the one whose refresh
token the endpoint accepts.  `requests` lists the refresh tokens sent, `last` is the
last pair received, and `failed` says that a request has failed since. -/
structure Tokens where
  pair : Nat
  valid : Nat
  next : Nat
  stored : Nat
  requests : List Nat
  last : Nat
  failed : Bool
  patchesOk : Bool
  deriving DecidableEq

/-- A call.  A read counts its attempts and knows its next backoff. -/
inductive Caller where
  | read (attempt maxAttempts delay : Nat)
  | mutate
  deriving DecidableEq

/-- Where a call awaits: in `_refresh_token` before and after the endpoint has answered and
in its callback before the two steps of `storeRefreshedTokens` (`auth` in the handler of
an auth failure), in the call proper, in the backoff, and in `_reconnect`. -/
inductive Stage where
  | refreshing (token : Nat) (auth : Bool)
  | answered (pair : Nat) (auth : Bool)
  | patching (pair : Nat) (auth : Bool)
  | merging (pair : Nat) (auth : Bool)
  | working
  | sleeping (wake : Int)
  | linking (l : Linking)
  deriving DecidableEq

structure CTraderCall where
  caller : Caller
  stage : Stage
  deriving DecidableEq

structure Session where
  now : Int
  expiresAt : Int
  conn : Connection
  tokens : Tokens
  calls : InFlight CTraderCall
  nextCall : Nat

/-- A client as the registry hands it out: connected, with its heartbeat. -/
def Session.new (now expiresAt : Int) : Session :=
  { now := now
    expiresAt := expiresAt
    conn :=
      { transport := some 0
        sockets := [.open_ true]
        heartbeat := some 0
        heartbeats := [.looping] }
    tokens :=
      { pair := 0
        valid := 0
        next := 1
        stored := 0
        requests := []
        last := 0
        failed := false
        patchesOk := true }
    calls := InFlight.empty
    nextCall := 0 }

inductive Outcome where
  | returns
  | authFailure
  | disconnected
  | apiError
  | raises
  deriving DecidableEq

inductive SessionOp where
  | clock (now : Int)
  | read (maxAttempts : Nat)
  | mutate
  | served (id : Nat)
  | tokensArrive (id : Nat) (expiresIn : Int)
  | refreshFails (id : Nat)
  | patchReads (id : Nat)
  | patchWrites (id : Nat)
  | patchFails (id : Nat)
  | worked (id : Nat) (outcome : Outcome)
  | wakes (id : Nat)
  | closeEnds (id : Nat) (closes : Bool)
  | connects (id : Nat)
  | connectFails (id : Nat)
  | requestAnswered (id : Nat) (wanted : Bool)
  | requestFails (id : Nat)
  | heartbeatRuns (h : Nat)
  | drops (t : Nat) (closes : Bool)
  deriving DecidableEq

namespace Session

def put (s : Session) (id : Nat) (caller : Caller) (stage : Stage) : Session :=
  { s with calls := s.calls.put id { caller := caller, stage := stage } }

def finish (s : Session) (id : Nat) : Session :=
  { s with calls := s.calls.drop id }

def NeedsRefresh (s : Session) : Prop :=
  0 < s.expiresAt ∧ s.expiresAt - s.now < 60

instance (s : Session) : Decidable s.NeedsRefresh :=
  inferInstanceAs (Decidable (_ ∧ _))

def sendToken (s : Session) (id : Nat) (caller : Caller) (auth : Bool) : Session :=
  { s.put id caller (.refreshing s.tokens.pair auth) with
    tokens := { s.tokens with requests := s.tokens.requests ++ [s.tokens.pair] } }

def attempt (s : Session) (id attempt maxAttempts delay : Nat) : Session :=
  if attempt < maxAttempts then
    if s.NeedsRefresh then s.sendToken id (.read attempt maxAttempts delay) false
    else s.put id (.read attempt maxAttempts delay) .working
  else s.finish id

def afterReconnect (s : Session) (id : Nat) : Caller -> Session
  | .read attempt maxAttempts delay => s.attempt id (attempt + 1) maxAttempts delay
  | .mutate => s.put id .mutate .working

/-- A part of `_reconnect` has run; a failure is not caught. -/
def link (s : Session) (id : Nat) (caller : Caller) (result : Connection × LinkResult) :
    Session :=
  match result.2 with
  | .awaits l => { s with conn := result.1 }.put id caller (.linking l)
  | .done => { s with conn := result.1 }.afterReconnect id caller
  | .failed => { s with conn := result.1 }.finish id

def reconnect (s : Session) (id : Nat) (caller : Caller) : Session :=
  s.link id caller s.conn.reconnect

def attemptRaises (s : Session) (id : Nat) : Caller -> Session
  | .read attempt maxAttempts delay =>
      if attempt + 1 < maxAttempts then
        s.put id (.read attempt maxAttempts (min (delay * 2) 16)) (.sleeping (s.now + delay))
      else s.finish id
  | .mutate => s.finish id

def afterRefresh (s : Session) (id : Nat) (caller : Caller) (auth : Bool) : Session :=
  match caller, auth with
  | .read attempt maxAttempts delay, false =>
      s.put id (.read attempt maxAttempts delay) .working
  | caller, _ => s.reconnect id caller

/-- `_refresh_token` raises: a read retries unless it handles an auth failure. -/
def refreshRaises (s : Session) (id : Nat) (caller : Caller) (auth : Bool) : Session :=
  let failed := { s with tokens := { s.tokens with failed := true } }
  if auth then failed.finish id else failed.attemptRaises id caller

def worked (s : Session) (id : Nat) : Caller -> Outcome -> Session
  | .mutate, _ => s.finish id
  | .read attempt maxAttempts delay, .authFailure =>
      s.sendToken id (.read attempt maxAttempts delay) true
  | .read attempt maxAttempts delay, .disconnected =>
      s.reconnect id (.read attempt maxAttempts delay)
  | .read attempt maxAttempts delay, .raises =>
      s.attemptRaises id (.read attempt maxAttempts delay)
  | .read _ _ _, _ => s.finish id

def begin (s : Session) : Session :=
  { s with nextCall := s.nextCall + 1 }

def mutate (s : Session) : Session :=
  if s.conn.transport.any s.conn.isAlive then s.begin.put s.nextCall .mutate .working
  else if s.NeedsRefresh then s.begin.sendToken s.nextCall .mutate false
  else s.begin.reconnect s.nextCall .mutate

/-- The endpoint accepts a refresh token once and gives out the next pair. -/
def served (s : Session) (id : Nat) (caller : Caller) (token : Nat) (auth : Bool) : Session :=
  if token = s.tokens.valid then
    { s with
      tokens := { s.tokens with valid := s.tokens.next, next := s.tokens.next + 1 } }.put
        id caller (.answered s.tokens.next auth)
  else s

def tokensArrive (s : Session) (id : Nat) (caller : Caller) (pair : Nat) (auth : Bool)
    (expiresIn : Int) : Session :=
  { s with
    expiresAt := s.now + expiresIn
    tokens := { s.tokens with pair := pair, last := pair, failed := false } }.put
      id caller (.patching pair auth)

end Session

def sessionStep (s : Session) : SessionOp -> Session
  | .clock now => { s with now := now }
  | .read maxAttempts => s.begin.attempt s.nextCall 0 maxAttempts 1
  | .mutate => s.mutate
  | .served id =>
      match s.calls id with
      | some ⟨caller, .refreshing token auth⟩ => s.served id caller token auth
      | _ => s
  | .tokensArrive id expiresIn =>
      match s.calls id with
      | some ⟨caller, .answered pair auth⟩ => s.tokensArrive id caller pair auth expiresIn
      | _ => s
  | .refreshFails id =>
      match s.calls id with
      | some ⟨caller, .refreshing _ auth⟩ => s.refreshRaises id caller auth
      | some ⟨caller, .answered _ auth⟩ => s.refreshRaises id caller auth
      | _ => s
  | .patchReads id =>
      match s.calls id with
      | some ⟨caller, .patching pair auth⟩ => s.put id caller (.merging pair auth)
      | _ => s
  | .patchWrites id =>
      match s.calls id with
      | some ⟨caller, .merging pair auth⟩ =>
          { s with tokens := { s.tokens with stored := pair } }.afterRefresh id caller auth
      | _ => s
  | .patchFails id =>
      match s.calls id with
      | some ⟨caller, .patching _ auth⟩ =>
          { s with tokens := { s.tokens with patchesOk := false } }.afterRefresh id caller auth
      | some ⟨caller, .merging _ auth⟩ =>
          { s with tokens := { s.tokens with patchesOk := false } }.afterRefresh id caller auth
      | _ => s
  | .worked id outcome =>
      match s.calls id with
      | some ⟨caller, .working⟩ => s.worked id caller outcome
      | _ => s
  | .wakes id =>
      match s.calls id with
      | some ⟨caller, .sleeping wake⟩ => if wake ≤ s.now then s.reconnect id caller else s
      | _ => s
  | .closeEnds id closes =>
      match s.calls id with
      | some ⟨caller, .linking (.closing t)⟩ =>
          s.link id caller
            { s.conn.closeEnds t closes with transport := none }.startInitialize
      | some ⟨_, .linking (.cleaning t)⟩ =>
          { s with conn := { s.conn.closeEnds t closes with transport := none } }.finish id
      | _ => s
  | .connects id =>
      match s.calls id with
      | some ⟨caller, .linking (.connecting t)⟩ =>
          s.link id caller ((s.conn.setSocket t (.open_ true)).request .appAuth)
      | _ => s
  | .connectFails id =>
      match s.calls id with
      | some ⟨_, .linking (.connecting t)⟩ =>
          { s with conn := s.conn.setSocket t .failed }.finish id
      | _ => s
  | .requestAnswered id wanted =>
      match s.calls id with
      | some ⟨caller, .linking (.requesting r)⟩ => s.link id caller (s.conn.answered wanted r)
      | _ => s
  | .requestFails id =>
      match s.calls id with
      | some ⟨caller, .linking (.requesting _)⟩ => s.link id caller s.conn.clean
      | _ => s
  | .heartbeatRuns h => { s with conn := s.conn.heartbeatRuns h }
  | .drops t closes => { s with conn := s.conn.drops t closes }

/-!
# The calls are numbered
-/

section Numbered

variable {s : Session} {id : Nat}

def Session.Numbered (s : Session) : Prop :=
  s.calls.Forall fun id _ => id < s.nextCall

namespace Session.Numbered

theorem begin (h : s.Numbered) : s.begin.Numbered :=
  InFlight.Forall.imp h fun _ _ => Nat.lt_succ_of_lt

theorem put (h : s.Numbered) (hid : id < s.nextCall) (caller : Caller) (stage : Stage) :
    (s.put id caller stage).Numbered :=
  InFlight.Forall.put h hid

theorem finish (h : s.Numbered) (id : Nat) : (s.finish id).Numbered :=
  InFlight.Forall.drop h id

theorem sendToken (h : s.Numbered) (hid : id < s.nextCall) (caller : Caller) (auth : Bool) :
    (s.sendToken id caller auth).Numbered :=
  h.put hid caller (.refreshing s.tokens.pair auth)

theorem attempt (h : s.Numbered) (hid : id < s.nextCall) (attempt maxAttempts delay : Nat) :
    (s.attempt id attempt maxAttempts delay).Numbered := by
  unfold Session.attempt
  split_ifs
  · exact h.sendToken hid _ _
  · exact h.put hid _ _
  · exact h.finish id

theorem afterReconnect (h : s.Numbered) (hid : id < s.nextCall) (caller : Caller) :
    (s.afterReconnect id caller).Numbered := by
  cases caller with
  | read attempt maxAttempts delay => exact h.attempt hid _ _ _
  | mutate => exact h.put hid _ _

theorem link (h : s.Numbered) (hid : id < s.nextCall) (caller : Caller)
    (result : Connection × LinkResult) : (s.link id caller result).Numbered := by
  have hconn : { s with conn := result.1 }.Numbered := h
  unfold Session.link
  split
  · exact hconn.put hid _ _
  · exact hconn.afterReconnect hid caller
  · exact hconn.finish id

theorem attemptRaises (h : s.Numbered) (hid : id < s.nextCall) (caller : Caller) :
    (s.attemptRaises id caller).Numbered := by
  cases caller with
  | read attempt maxAttempts delay =>
      simp only [Session.attemptRaises]
      split_ifs
      · exact h.put hid _ _
      · exact h.finish id
  | mutate => exact h.finish id

theorem afterRefresh (h : s.Numbered) (hid : id < s.nextCall) (caller : Caller)
    (auth : Bool) : (s.afterRefresh id caller auth).Numbered := by
  unfold Session.afterRefresh
  split
  · exact h.put hid _ _
  · exact h.link hid _ _

theorem refreshRaises (h : s.Numbered) (hid : id < s.nextCall) (caller : Caller)
    (auth : Bool) : (s.refreshRaises id caller auth).Numbered := by
  have hfailed : { s with tokens := { s.tokens with failed := true } }.Numbered := h
  simp only [Session.refreshRaises]
  split_ifs
  · exact hfailed.finish id
  · exact hfailed.attemptRaises hid caller

theorem worked (h : s.Numbered) (hid : id < s.nextCall) (caller : Caller)
    (outcome : Outcome) : (s.worked id caller outcome).Numbered := by
  unfold Session.worked
  split
  · exact h.finish id
  · exact h.sendToken hid _ _
  · exact h.link hid _ _
  · exact h.attemptRaises hid _
  · exact h.finish id

theorem mutate (h : s.Numbered) : s.mutate.Numbered := by
  have hid : s.nextCall < s.begin.nextCall := Nat.lt_succ_self _
  unfold Session.mutate
  split_ifs
  · exact h.begin.put hid _ _
  · exact h.begin.sendToken hid _ _
  · exact h.begin.link hid _ _

end Session.Numbered

theorem sessionStep_numbered (h : s.Numbered) (op : SessionOp) : (sessionStep s op).Numbered := by
  have htokens : forall expiresAt tokens,
      { s with expiresAt := expiresAt, tokens := tokens }.Numbered := fun _ _ => h
  cases op with
  | clock now => exact h
  | read maxAttempts => exact h.begin.attempt (Nat.lt_succ_self _) _ _ _
  | mutate => exact h.mutate
  | served id =>
      simp only [sessionStep]
      split
      · next hcall =>
          unfold Session.served
          split_ifs
          · exact (htokens _ _).put (h id _ hcall) _ _
          · exact h
      · exact h
  | tokensArrive id expiresIn =>
      simp only [sessionStep]
      split
      · next hcall => exact (htokens _ _).put (h id _ hcall) _ _
      · exact h
  | refreshFails id =>
      simp only [sessionStep]
      split
      · next hcall => exact h.refreshRaises (h id _ hcall) _ _
      · next hcall => exact h.refreshRaises (h id _ hcall) _ _
      · exact h
  | patchReads id =>
      simp only [sessionStep]
      split
      · next hcall => exact h.put (h id _ hcall) _ _
      · exact h
  | patchWrites id =>
      simp only [sessionStep]
      split
      · next hcall =>
          apply Session.Numbered.afterRefresh
          · exact h
          · exact h id _ hcall
      · exact h
  | patchFails id =>
      simp only [sessionStep]
      split
      · next hcall =>
          apply Session.Numbered.afterRefresh
          · exact h
          · exact h id _ hcall
      · next hcall =>
          apply Session.Numbered.afterRefresh
          · exact h
          · exact h id _ hcall
      · exact h
  | worked id outcome =>
      simp only [sessionStep]
      split
      · next hcall => exact h.worked (h id _ hcall) _ _
      · exact h
  | wakes id =>
      simp only [sessionStep]
      split
      · next hcall =>
          split_ifs
          · exact h.link (h id _ hcall) _ _
          · exact h
      · exact h
  | closeEnds id closes =>
      simp only [sessionStep]
      split
      · next hcall => exact h.link (h id _ hcall) _ _
      · exact InFlight.Forall.drop h id
      · exact h
  | connects id =>
      simp only [sessionStep]
      split
      · next hcall => exact h.link (h id _ hcall) _ _
      · exact h
  | connectFails id =>
      simp only [sessionStep]
      split
      · exact InFlight.Forall.drop h id
      · exact h
  | requestAnswered id wanted =>
      simp only [sessionStep]
      split
      · next hcall => exact h.link (h id _ hcall) _ _
      · exact h
  | requestFails id =>
      simp only [sessionStep]
      split
      · next hcall => exact h.link (h id _ hcall) _ _
      · exact h
  | heartbeatRuns i => exact h
  | drops t closes => exact h

theorem new_numbered (now expiresAt : Int) : (Session.new now expiresAt).Numbered :=
  InFlight.forall_empty _

end Numbered

end CTraderSession
end Broker
end Shamarx
