import Shamarx.Broker.CTraderSession
import Shamarx.Foundation.Weights

/-!
# One connection for each cTrader client

A reconnect cancels the heartbeat, closes the transport and replaces both, across
several awaits.  Alone it leaves one connection behind; two at a time leak a transport
or a heartbeat.
-/

namespace Shamarx
namespace Broker
namespace CTraderSession

open Foundation

/-!
# What is referenced
-/

def Socket.Open (socket : Socket) : Prop :=
  socket = .open_ true ∨ socket = .open_ false

instance (socket : Socket) : Decidable socket.Open :=
  inferInstanceAs (Decidable (_ ∨ _))

def Heartbeat.Running (heartbeat : Heartbeat) : Prop :=
  heartbeat ≠ .over

instance (heartbeat : Heartbeat) : Decidable heartbeat.Running :=
  inferInstanceAs (Decidable (_ ≠ _))

/-- The only open transport is the client's, and so is the only running heartbeat. -/
structure Tidy (c : Connection) : Prop where
  sockets : forall (t : Nat) (socket : Socket), c.sockets[t]? = some socket -> socket.Open ->
    c.transport = some t
  heartbeats : forall (h : Nat) (heartbeat : Heartbeat), c.heartbeats[h]? = some heartbeat ->
    heartbeat.Running -> c.heartbeat = some h

def OneConnection (s : Session) : Prop :=
  (forall id, s.calls id = none) -> Tidy s.conn

def linkOf (call : CTraderCall) : Option Linking :=
  match call.stage with
  | .linking l => some l
  | _ => none

def Session.links (s : Session) : InFlight Linking :=
  s.calls.view linkOf

/-- After a refresh every call reconnects, except a read that refreshed near expiry. -/
def RefreshReconnects (caller : Caller) (auth : Bool) : Prop :=
  caller = .mutate ∨ auth = true

def Reconnects (s : Session) : SessionOp -> Prop
  | .mutate => s.conn.transport.any s.conn.isAlive = false ∧ ¬ s.NeedsRefresh
  | .patchWrites id =>
      match s.calls id with
      | some ⟨caller, .merging _ auth⟩ => RefreshReconnects caller auth
      | _ => False
  | .patchFails id =>
      match s.calls id with
      | some ⟨caller, .patching _ auth⟩ => RefreshReconnects caller auth
      | some ⟨caller, .merging _ auth⟩ => RefreshReconnects caller auth
      | _ => False
  | .worked id outcome =>
      match s.calls id with
      | some ⟨.read _ _ _, .working⟩ => outcome = .disconnected
      | _ => False
  | .wakes id =>
      match s.calls id with
      | some ⟨_, .sleeping wake⟩ => wake ≤ s.now
      | _ => False
  | _ => False

def Closes (s : Session) : SessionOp -> Prop
  | .closeEnds id closes =>
      match s.calls id with
      | some ⟨_, .linking (.closing t)⟩ => closes = true ∨ s.conn.sockets[t]? = some .closed
      | some ⟨_, .linking (.cleaning t)⟩ => closes = true ∨ s.conn.sockets[t]? = some .closed
      | _ => True
  | _ => True

def NoReconnect (s : Session) : Prop :=
  forall id, id < s.nextCall -> s.links id = none

/-- A reconnect starts only while no other is under way, and no close leaves its socket
open. -/
def ReconnectsAlone (s : Session) (op : SessionOp) : Prop :=
  (Reconnects s op -> NoReconnect s) ∧ Closes s op

instance (caller : Caller) (auth : Bool) : Decidable (RefreshReconnects caller auth) :=
  inferInstanceAs (Decidable (_ ∨ _))

instance (s : Session) (op : SessionOp) : Decidable (Reconnects s op) := by
  unfold Reconnects
  repeat' split
  all_goals infer_instance

instance (s : Session) (op : SessionOp) : Decidable (Closes s op) := by
  unfold Closes
  repeat' split
  all_goals infer_instance

instance (s : Session) : Decidable (NoReconnect s) :=
  Nat.decidableBallLT _ _

instance (s : Session) (op : SessionOp) : Decidable (ReconnectsAlone s op) :=
  inferInstanceAs (Decidable ((_ -> _) ∧ _))

/-!
# The parts of a reconnect
-/

section Parts

variable {c : Connection} {t : Nat}

def NoHeartbeat (c : Connection) : Prop :=
  forall (h : Nat) (heartbeat : Heartbeat), c.heartbeats[h]? = some heartbeat ->
    ¬ heartbeat.Running

def NoneOpen (c : Connection) : Prop :=
  forall (t : Nat) (socket : Socket), c.sockets[t]? = some socket -> ¬ socket.Open

def Waits (c : Connection) : Linking -> Prop
  | .closing t => c.transport = some t
  | .connecting t => c.transport = some t ∧ c.sockets[t]? = some Socket.connecting
  | .requesting _ => True
  | .cleaning t => c.transport = some t

structure LinkOk (c : Connection) (l : Linking) : Prop where
  quiet : NoHeartbeat c
  waits : Waits c l

structure ResultOk (result : Connection × LinkResult) : Prop where
  tidy : Tidy result.1
  awaits : forall l, result.2 = .awaits l -> LinkOk result.1 l

theorem tidy_of_none (hsockets : NoneOpen c) (hheartbeats : NoHeartbeat c) : Tidy c :=
  ⟨fun t socket ht hopen => absurd hopen (hsockets t socket ht),
    fun h heartbeat hh hrunning => absurd hrunning (hheartbeats h heartbeat hh)⟩

theorem hasWs_of_open {socket : Socket} (ht : c.sockets[t]? = some socket) (hopen : socket.Open) :
    c.hasWs t = true := by
  unfold Connection.hasWs
  rw [ht]
  rcases hopen with rfl | rfl <;> rfl

theorem Tidy.noneOpen (h : Tidy c) (hws : c.transport.any c.hasWs = false) : NoneOpen c := by
  intro t socket ht hopen
  rw [h.sockets t socket ht hopen, Option.any_some, hasWs_of_open ht hopen] at hws
  cases hws

theorem startInitialize_ok (hopen : NoneOpen c) (hquiet : NoHeartbeat c) :
    ResultOk c.startInitialize := by
  have hnone : NoneOpen c.startInitialize.1 := by
    intro t socket ht
    rcases getElem?_concat_cases ht with ⟨-, rfl⟩ | ⟨-, hold⟩
    · intro h
      rcases h with h | h <;> cases h
    · exact hopen t socket hold
  constructor
  · exact tidy_of_none hnone hquiet
  · intro l hl
    cases hl
    exact ⟨hquiet, rfl, List.getElem?_concat_length⟩

theorem stopReader_tidy (h : Tidy c) (t : Nat) : Tidy (c.stopReader t) := by
  unfold Connection.stopReader
  split
  · next reading ht =>
      refine ⟨?_, h.heartbeats⟩
      intro u socket hu hopen
      rcases getElem?_set_cases hu with ⟨rfl, -⟩ | ⟨-, hold⟩
      · exact h.sockets u _ ht (by cases reading; exacts [Or.inr rfl, Or.inl rfl])
      · exact h.sockets u socket hold hopen
  · exact h

theorem stopReader_fields (c : Connection) (t : Nat) :
    (c.stopReader t).transport = c.transport ∧ (c.stopReader t).heartbeats = c.heartbeats := by
  unfold Connection.stopReader
  split <;> exact ⟨rfl, rfl⟩

theorem closeEnds_noneOpen (h : Tidy c) (ht : c.transport = some t) {closes : Bool}
    (hcloses : closes = true ∨ c.sockets[t]? = some Socket.closed) :
    NoneOpen (c.closeEnds t closes) := by
  have hclosed : forall u socket, (c.closeEnds t closes).sockets[u]? = some socket ->
      u = t ∧ socket = .closed ∨ u ≠ t ∧ c.sockets[u]? = some socket := by
    intro u socket hu
    unfold Connection.closeEnds at hu
    split_ifs at hu with hc
    · exact getElem?_set_cases hu
    · by_cases heq : u = t
      · rw [heq, hcloses.resolve_left hc] at hu
        exact Or.inl ⟨heq, (Option.some.inj hu).symm⟩
      · exact Or.inr ⟨heq, hu⟩
  intro u socket hu hopen
  rcases hclosed u socket hu with ⟨-, rfl⟩ | ⟨hne, hold⟩
  · rcases hopen with hopen | hopen <;> cases hopen
  · exact hne (Option.some.inj ((h.sockets u socket hold hopen).symm.trans ht))

theorem closeEnds_heartbeats (c : Connection) (t : Nat) (closes : Bool) :
    (c.closeEnds t closes).heartbeats = c.heartbeats := by
  unfold Connection.closeEnds
  split <;> rfl

theorem cancelHeartbeat_quiet (h : Tidy c) : NoHeartbeat c.cancelHeartbeat := by
  unfold Connection.cancelHeartbeat
  split
  · next h' hh' =>
      intro i heartbeat hi hrunning
      rcases getElem?_set_cases hi with ⟨-, rfl⟩ | ⟨hne, hold⟩
      · exact hrunning rfl
      · exact hne (Option.some.inj ((h.heartbeats i heartbeat hold hrunning).symm.trans hh'))
  · next hnone =>
      intro i heartbeat hi hrunning
      have hsome := h.heartbeats i heartbeat hi hrunning
      rw [hnone] at hsome
      cases hsome

theorem cancelHeartbeat_tidy (h : Tidy c) : Tidy c.cancelHeartbeat := by
  have hquiet := cancelHeartbeat_quiet h
  refine ⟨?_, fun i heartbeat hi hrunning => absurd hrunning (hquiet i heartbeat hi)⟩
  unfold Connection.cancelHeartbeat
  split <;> exact h.sockets

theorem replaceTransport_ok (h : Tidy c) (hquiet : NoHeartbeat c) :
    ResultOk c.replaceTransport := by
  unfold Connection.replaceTransport
  split
  · next t ht =>
      split_ifs with hws
      · refine ⟨stopReader_tidy h t, ?_⟩
        intro l hl
        cases hl
        refine ⟨?_, (stopReader_fields c t).1.trans ht⟩
        intro i heartbeat hi
        rw [(stopReader_fields c t).2] at hi
        exact hquiet i heartbeat hi
      · apply startInitialize_ok _ hquiet
        apply h.noneOpen
        rw [ht, Option.any_some]
        exact Bool.eq_false_iff.mpr hws
  · next hnone =>
      apply startInitialize_ok _ hquiet
      apply h.noneOpen
      rw [hnone, Option.any_none]

theorem reconnect_ok (h : Tidy c) : ResultOk c.reconnect :=
  replaceTransport_ok (cancelHeartbeat_tidy h) (cancelHeartbeat_quiet h)

theorem clean_ok (h : Tidy c) (hquiet : NoHeartbeat c) : ResultOk c.clean := by
  unfold Connection.clean
  split
  · next t ht =>
      split_ifs with hws
      · refine ⟨stopReader_tidy h t, ?_⟩
        intro l hl
        cases hl
        refine ⟨?_, (stopReader_fields c t).1.trans ht⟩
        intro i heartbeat hi
        rw [(stopReader_fields c t).2] at hi
        exact hquiet i heartbeat hi
      · refine ⟨tidy_of_none ?_ hquiet, fun l hl => by cases hl⟩
        apply h.noneOpen
        rw [ht, Option.any_some]
        exact Bool.eq_false_iff.mpr hws
  · exact ⟨h, fun l hl => by cases hl⟩

theorem request_ok (h : Tidy c) (hquiet : NoHeartbeat c) (r : InitRequest) :
    ResultOk (c.request r) := by
  unfold Connection.request
  split
  · split_ifs
    · refine ⟨h, ?_⟩
      intro l hl
      cases hl
      exact ⟨hquiet, trivial⟩
    · exact clean_ok h hquiet
  · exact clean_ok h hquiet

theorem startHeartbeat_ok (h : Tidy c) (hquiet : NoHeartbeat c) : ResultOk c.startHeartbeat := by
  refine ⟨⟨h.sockets, ?_⟩, fun l hl => by cases hl⟩
  intro i heartbeat hi hrunning
  rcases getElem?_concat_cases hi with ⟨rfl, -⟩ | ⟨-, hold⟩
  · rfl
  · exact absurd hrunning (hquiet i heartbeat hold)

theorem answered_ok (h : Tidy c) (hquiet : NoHeartbeat c) (wanted : Bool) (r : InitRequest) :
    ResultOk (c.answered wanted r) := by
  cases r with
  | appAuth => exact request_ok h hquiet _
  | accountAuth => exact request_ok h hquiet _
  | symbolsList =>
      unfold Connection.answered
      split_ifs
      · exact request_ok h hquiet _
      · exact startHeartbeat_ok h hquiet
  | symbolById => exact startHeartbeat_ok h hquiet

theorem closed_ok (h : Tidy c) (hl : LinkOk c (.closing t)) {closes : Bool}
    (hcloses : closes = true ∨ c.sockets[t]? = some Socket.closed) :
    ResultOk { c.closeEnds t closes with transport := none }.startInitialize := by
  apply startInitialize_ok
  · exact closeEnds_noneOpen h hl.waits hcloses
  · intro i heartbeat hi
    rw [closeEnds_heartbeats] at hi
    exact hl.quiet i heartbeat hi

theorem connected_tidy (h : Tidy c) (hl : LinkOk c (.connecting t)) :
    Tidy (c.setSocket t (.open_ true)) := by
  refine ⟨?_, h.heartbeats⟩
  intro u socket hu hopen
  rcases getElem?_set_cases hu with ⟨rfl, -⟩ | ⟨-, hold⟩
  · exact hl.waits.1
  · exact h.sockets u socket hold hopen

theorem connectFailed_tidy (h : Tidy c) : Tidy (c.setSocket t .failed) := by
  refine ⟨?_, h.heartbeats⟩
  intro u socket hu hopen
  rcases getElem?_set_cases hu with ⟨-, rfl⟩ | ⟨-, hold⟩
  · rcases hopen with hopen | hopen <;> cases hopen
  · exact h.sockets u socket hold hopen

theorem drops_ok (h : Tidy c) (t : Nat) (closes : Bool) :
    Tidy (c.drops t closes) ∧ forall l, LinkOk c l -> LinkOk (c.drops t closes) l := by
  unfold Connection.drops
  split
  · next reading ht =>
      constructor
      · refine ⟨?_, h.heartbeats⟩
        intro u socket hu hopen
        rcases getElem?_set_cases hu with ⟨rfl, -⟩ | ⟨-, hold⟩
        · exact h.sockets u _ ht (by cases reading; exacts [Or.inr rfl, Or.inl rfl])
        · exact h.sockets u socket hold hopen
      · intro l hl
        refine ⟨hl.quiet, ?_⟩
        have hwaits := hl.waits
        cases l with
        | connecting u =>
            have hne : t ≠ u := by
              rintro rfl
              cases ht.symm.trans hwaits.2
            exact ⟨hwaits.1, (List.getElem?_set_ne hne).trans hwaits.2⟩
        | closing _ => exact hwaits
        | requesting _ => exact hwaits
        | cleaning _ => exact hwaits
  · exact ⟨h, fun l hl => hl⟩

theorem setHeartbeat_ok (h : Tidy c) {i : Nat} {old heartbeat : Heartbeat}
    (hi : c.heartbeats[i]? = some old) (hrunning : old.Running) :
    Tidy (c.setHeartbeat i heartbeat) ∧
      forall l, LinkOk c l -> LinkOk (c.setHeartbeat i heartbeat) l := by
  constructor
  · refine ⟨h.sockets, ?_⟩
    intro j other hj hother
    rcases getElem?_set_cases hj with ⟨rfl, -⟩ | ⟨-, hold⟩
    · exact h.heartbeats j old hi hrunning
    · exact h.heartbeats j other hold hother
  · intro l hl
    exact absurd hrunning (hl.quiet i old hi)

theorem heartbeatRuns_ok (h : Tidy c) (i : Nat) :
    Tidy (c.heartbeatRuns i) ∧ forall l, LinkOk c l -> LinkOk (c.heartbeatRuns i) l := by
  unfold Connection.heartbeatRuns
  split
  · next hi =>
      split
      · exact setHeartbeat_ok h hi (by decide)
      · exact setHeartbeat_ok h hi (by decide)
  · exact ⟨h, fun l hl => hl⟩

end Parts

/-!
# One call moves on
-/

section Moves

/-- Of the calls only one has changed, which is now at the given part of a reconnect. -/
structure Moved (calls : InFlight CTraderCall) (s' : Session) (id : Nat) (c : Connection)
    (link : Option Linking) : Prop where
  conn : s'.conn = c
  others : forall other, other ≠ id -> s'.calls other = calls other
  link : s'.links id = link

theorem put_moved (s : Session) (id : Nat) (caller : Caller) (stage : Stage) :
    Moved s.calls (s.put id caller stage) id s.conn (linkOf ⟨caller, stage⟩) :=
  ⟨rfl, fun _ hne => InFlight.put_of_ne _ _ hne, InFlight.view_eq (InFlight.put_self _ _ _)⟩

theorem finish_moved (s : Session) (id : Nat) : Moved s.calls (s.finish id) id s.conn none :=
  ⟨rfl, fun _ hne => InFlight.drop_of_ne _ hne, InFlight.view_absent (InFlight.drop_self _ _)⟩

theorem sendToken_moved (s : Session) (id : Nat) (caller : Caller) (auth : Bool) :
    Moved s.calls (s.sendToken id caller auth) id s.conn none := by
  rcases put_moved s id caller (.refreshing s.tokens.pair auth)
    with ⟨hconn, hothers, hlink⟩
  exact ⟨hconn, hothers, hlink⟩

theorem attempt_moved (s : Session) (id attempt maxAttempts delay : Nat) :
    Moved s.calls (s.attempt id attempt maxAttempts delay) id s.conn none := by
  unfold Session.attempt
  split_ifs
  · exact sendToken_moved s id _ _
  · exact put_moved s id _ _
  · exact finish_moved s id

theorem afterReconnect_moved (s : Session) (id : Nat) (caller : Caller) :
    Moved s.calls (s.afterReconnect id caller) id s.conn none := by
  cases caller with
  | read attempt maxAttempts delay => exact attempt_moved s id _ _ _
  | mutate => exact put_moved s id _ _

theorem attemptRaises_moved (s : Session) (id : Nat) (caller : Caller) :
    Moved s.calls (s.attemptRaises id caller) id s.conn none := by
  cases caller with
  | read attempt maxAttempts delay =>
      simp only [Session.attemptRaises]
      split_ifs
      · exact put_moved s id _ _
      · exact finish_moved s id
  | mutate => exact finish_moved s id

theorem refreshRaises_moved (s : Session) (id : Nat) (caller : Caller) (auth : Bool) :
    Moved s.calls (s.refreshRaises id caller auth) id s.conn none := by
  simp only [Session.refreshRaises]
  split_ifs
  · exact finish_moved { s with tokens := { s.tokens with failed := true } } id
  · exact attemptRaises_moved { s with tokens := { s.tokens with failed := true } } id caller

def LinkResult.linking : LinkResult -> Option Linking
  | .awaits l => some l
  | .done => none
  | .failed => none

theorem link_moved (s : Session) (id : Nat) (caller : Caller)
    (result : Connection × LinkResult) :
    Moved s.calls (s.link id caller result) id result.1 result.2.linking := by
  unfold Session.link
  split
  · next l hl =>
      rw [hl]
      exact put_moved { s with conn := result.1 } id caller (.linking l)
  · next hl =>
      rw [hl]
      exact afterReconnect_moved { s with conn := result.1 } id caller
  · next hl =>
      rw [hl]
      exact finish_moved { s with conn := result.1 } id

end Moves

/-!
# One connection
-/

section Alone

variable {s s' : Session} {id : Nat}

/-- At most one call is reconnecting, and it can rely on what it waits for. -/
structure Session.Alone (s : Session) : Prop where
  tidy : Tidy s.conn
  alone : InFlight.Alone s.links
  waits : s.links.Forall fun _ l => LinkOk s.conn l

theorem new_alone (now expiresAt : Int) : (Session.new now expiresAt).Alone := by
  refine ⟨⟨?_, ?_⟩, ?_, ?_⟩
  · intro t socket ht hopen
    cases t with
    | zero => rfl
    | succ t => cases ht
  · intro h heartbeat hh hrunning
    cases h with
    | zero => rfl
    | succ h => cases hh
  · intro i x j y hi
    cases hi
  · intro i l hi
    cases hi

theorem links_of_others {other : Nat} (h : s'.calls other = s.calls other) :
    s'.links other = s.links other := by
  show (s'.calls other).bind linkOf = (s.calls other).bind linkOf
  rw [h]

theorem alone_of_moved {result : Connection × LinkResult}
    (hmoved : Moved s.calls s' id result.1 result.2.linking) (hresult : ResultOk result)
    (hothers : forall other, other ≠ id -> s.links other = none) : s'.Alone := by
  have hlink : forall other l, s'.links other = some l -> other = id ∧ result.2 = .awaits l := by
    intro other l hl
    by_cases heq : other = id
    · subst heq
      rw [hmoved.link] at hl
      refine ⟨rfl, ?_⟩
      cases hawaits : result.2 with
      | awaits l' =>
          rw [hawaits] at hl
          cases hl
          rfl
      | done =>
          rw [hawaits] at hl
          cases hl
      | failed =>
          rw [hawaits] at hl
          cases hl
    · rw [links_of_others (hmoved.others other heq), hothers other heq] at hl
      cases hl
  constructor
  · rw [hmoved.conn]
    exact hresult.tidy
  · intro i x j y hi hj _
    rw [(hlink i x hi).1, (hlink j y hj).1]
  · intro other l hl
    rw [hmoved.conn]
    exact hresult.awaits l (hlink other l hl).2

theorem Session.Alone.moves_on (h : s.Alone) (hmoved : Moved s.calls s' id s.conn none) :
    s'.Alone := by
  have hlink : forall other l, s'.links other = some l -> s.links other = some l := by
    intro other l hl
    by_cases heq : other = id
    · rw [heq, hmoved.link] at hl
      cases hl
    · rwa [links_of_others (hmoved.others other heq)] at hl
  constructor
  · rw [hmoved.conn]
    exact h.tidy
  · intro i x j y hi hj hsame
    exact h.alone i x j y (hlink i x hi) (hlink j y hj) hsame
  · intro other l hl
    rw [hmoved.conn]
    exact h.waits other l (hlink other l hl)

theorem Session.Alone.reconnects (h : s.Alone) (hnumbered : s.Numbered)
    (hnone : NoReconnect s)
    (hmoved : Moved s.calls s' id s.conn.reconnect.1 s.conn.reconnect.2.linking) :
    s'.Alone := by
  apply alone_of_moved hmoved (reconnect_ok h.tidy)
  intro other _
  cases hother : s.calls other with
  | none => exact InFlight.view_absent hother
  | some call => exact hnone other (hnumbered other call hother)

theorem Session.Alone.continues (h : s.Alone) {caller : Caller} {l : Linking}
    (hcall : s.calls id = some ⟨caller, .linking l⟩) {r : Connection × LinkResult}
    (hmoved : Moved s.calls s' id r.1 r.2.linking)
    (hresult : LinkOk s.conn l -> ResultOk r) : s'.Alone := by
  have hl : s.links id = some l := InFlight.view_eq hcall
  apply alone_of_moved hmoved (hresult (h.waits id l hl))
  intro other hne
  cases hother : s.links other with
  | none => rfl
  | some l' => exact absurd (h.alone other l' id l hother hl rfl) hne

theorem Session.Alone.ends (h : s.Alone) {caller : Caller} {l : Linking}
    (hcall : s.calls id = some ⟨caller, .linking l⟩) {c : Connection}
    (hc : LinkOk s.conn l -> Tidy c) : ({ s with conn := c }.finish id).Alone :=
  h.continues hcall (r := (c, .failed)) (finish_moved { s with conn := c } id)
    fun hl => ⟨hc hl, fun l' hl' => by cases hl'⟩

theorem tokens_alone (h : s.Alone) (expiresAt : Int) (tokens : Tokens) :
    { s with expiresAt := expiresAt, tokens := tokens }.Alone :=
  ⟨h.tidy, h.alone, h.waits⟩

theorem afterRefresh_alone (h : s.Alone) (hnumbered : s.Numbered) {caller : Caller}
    {auth : Bool} (tokens : Tokens)
    (hnone : RefreshReconnects caller auth -> NoReconnect s) :
    ({ s with tokens := tokens }.afterRefresh id caller auth).Alone := by
  have hreconnect : RefreshReconnects caller auth ->
      ({ s with tokens := tokens }.reconnect id caller).Alone := by
    intro hrefresh
    exact h.reconnects hnumbered (hnone hrefresh)
      (link_moved { s with tokens := tokens } id caller s.conn.reconnect)
  cases caller with
  | read attempt maxAttempts delay =>
      cases auth with
      | false => exact h.moves_on (put_moved { s with tokens := tokens } id _ _)
      | true => exact hreconnect (Or.inr rfl)
  | mutate => exact hreconnect (Or.inl rfl)

theorem worked_alone (h : s.Alone) (hnumbered : s.Numbered) {caller : Caller} {outcome : Outcome}
    (hcall : s.calls id = some ⟨caller, .working⟩)
    (hnone : Reconnects s (.worked id outcome) -> NoReconnect s) :
    (s.worked id caller outcome).Alone := by
  cases caller with
  | read attempt maxAttempts delay =>
      cases outcome with
      | returns => exact h.moves_on (finish_moved s id)
      | authFailure => exact h.moves_on (sendToken_moved s id _ _)
      | disconnected =>
          have hreconnects : Reconnects s (.worked id .disconnected) := by
            simp only [Reconnects, hcall]
          exact h.reconnects hnumbered (hnone hreconnects) (link_moved s id _ s.conn.reconnect)
      | apiError => exact h.moves_on (finish_moved s id)
      | raises => exact h.moves_on (attemptRaises_moved s id (.read attempt maxAttempts delay))
  | mutate => exact h.moves_on (finish_moved s id)

theorem mutate_alone (h : s.Alone) (hnumbered : s.Numbered)
    (hnone : Reconnects s .mutate -> NoReconnect s) : s.mutate.Alone := by
  unfold Session.mutate
  split_ifs with halive hrefresh
  · exact h.moves_on (put_moved s.begin _ _ _)
  · exact h.moves_on (sendToken_moved s.begin _ _ _)
  · exact h.reconnects hnumbered (hnone ⟨Bool.eq_false_iff.mpr halive, hrefresh⟩)
      (link_moved s.begin _ _ s.conn.reconnect)

theorem closeEnds_alone (h : s.Alone) {closes : Bool} (hcloses : Closes s (.closeEnds id closes)) :
    (sessionStep s (.closeEnds id closes)).Alone := by
  simp only [sessionStep]
  split
  · next caller t hcall =>
      have hcloses' : closes = true ∨ s.conn.sockets[t]? = some Socket.closed := by
        simpa only [Closes, hcall] using hcloses
      exact h.continues hcall (link_moved s id caller _) fun hl => closed_ok h.tidy hl hcloses'
  · next caller t hcall =>
      have hcloses' : closes = true ∨ s.conn.sockets[t]? = some Socket.closed := by
        simpa only [Closes, hcall] using hcloses
      apply h.ends hcall
      intro hl
      refine tidy_of_none (closeEnds_noneOpen h.tidy hl.waits hcloses') ?_
      intro i heartbeat hi
      rw [closeEnds_heartbeats] at hi
      exact hl.quiet i heartbeat hi
  · exact h

theorem connection_alone (h : s.Alone) {c : Connection}
    (hc : Tidy c ∧ forall l, LinkOk s.conn l -> LinkOk c l) : { s with conn := c }.Alone :=
  ⟨hc.1, h.alone, fun id l hl => hc.2 l (h.waits id l hl)⟩

theorem sessionStep_alone (hnumbered : s.Numbered) (h : s.Alone) {op : SessionOp}
    (hop : ReconnectsAlone s op) : (sessionStep s op).Alone := by
  cases op with
  | clock now => exact ⟨h.tidy, h.alone, h.waits⟩
  | read maxAttempts =>
      exact h.moves_on (attempt_moved s.begin _ _ _ _)
  | mutate => exact mutate_alone h hnumbered hop.1
  | served id =>
      simp only [sessionStep]
      split
      · next caller token auth hcall =>
          unfold Session.served
          split_ifs
          · have htokens := tokens_alone h s.expiresAt
              { s.tokens with valid := s.tokens.next, next := s.tokens.next + 1 }
            exact htokens.moves_on (put_moved _ id caller (.answered s.tokens.next auth))
          · exact h
      · exact h
  | tokensArrive id expiresIn =>
      simp only [sessionStep]
      split
      · next caller pair auth hcall =>
          have htokens := tokens_alone h (s.now + expiresIn)
            { s.tokens with pair := pair, last := pair, failed := false }
          exact htokens.moves_on (put_moved _ id caller (.patching pair auth))
      · exact h
  | refreshFails id =>
      simp only [sessionStep]
      split
      · next caller token auth hcall => exact h.moves_on (refreshRaises_moved s id _ _)
      · next caller pair auth hcall => exact h.moves_on (refreshRaises_moved s id _ _)
      · exact h
  | patchReads id =>
      simp only [sessionStep]
      split
      · next caller pair auth hcall =>
          exact h.moves_on (put_moved s id caller (.merging pair auth))
      · exact h
  | patchWrites id =>
      simp only [sessionStep]
      split
      · next caller pair auth hcall =>
          exact afterRefresh_alone h hnumbered _ (by simpa only [Reconnects, hcall] using hop.1)
      · exact h
  | patchFails id =>
      simp only [sessionStep]
      split
      · next caller pair auth hcall =>
          exact afterRefresh_alone h hnumbered _ (by simpa only [Reconnects, hcall] using hop.1)
      · next caller pair auth hcall =>
          exact afterRefresh_alone h hnumbered _ (by simpa only [Reconnects, hcall] using hop.1)
      · exact h
  | worked id outcome =>
      simp only [sessionStep]
      split
      · next caller hcall => exact worked_alone h hnumbered hcall hop.1
      · exact h
  | wakes id =>
      simp only [sessionStep]
      split
      · next caller wake hcall =>
          split_ifs with hwake
          · have hreconnects : Reconnects s (.wakes id) := by
              simpa only [Reconnects, hcall] using hwake
            exact h.reconnects hnumbered (hop.1 hreconnects)
              (link_moved s id _ s.conn.reconnect)
          · exact h
      · exact h
  | closeEnds id closes => exact closeEnds_alone h hop.2
  | connects id =>
      simp only [sessionStep]
      split
      · next caller t hcall =>
          exact h.continues hcall (link_moved s id caller _) fun hl =>
            request_ok (connected_tidy h.tidy hl) hl.quiet _
      · exact h
  | connectFails id =>
      simp only [sessionStep]
      split
      · next caller t hcall => exact h.ends hcall fun _ => connectFailed_tidy h.tidy
      · exact h
  | requestAnswered id wanted =>
      simp only [sessionStep]
      split
      · next caller r hcall =>
          exact h.continues hcall (link_moved s id caller _) fun hl =>
            answered_ok h.tidy hl.quiet wanted r
      · exact h
  | requestFails id =>
      simp only [sessionStep]
      split
      · next caller r hcall =>
          exact h.continues hcall (link_moved s id caller _) fun hl => clean_ok h.tidy hl.quiet
      · exact h
  | heartbeatRuns i => exact connection_alone h (heartbeatRuns_ok h.tidy i)
  | drops t closes => exact connection_alone h (drops_ok h.tidy t closes)

end Alone

/-- In every run in which no reconnect starts during another and no close leaves its
socket open, nothing is leaked whenever no operation is in progress. -/
theorem one_connection_when_alone (now expiresAt : Int) (ops : List SessionOp)
    (halone : EveryStep sessionStep ReconnectsAlone (Session.new now expiresAt) ops) :
    OneConnection (runFrom sessionStep (Session.new now expiresAt) ops) := by
  have h := EveryStep.run_inv (fun s => s.Numbered ∧ s.Alone)
    (fun s op hs hop => ⟨sessionStep_numbered hs.1 op, sessionStep_alone hs.1 hs.2 hop⟩)
    ⟨new_numbered now expiresAt, new_alone now expiresAt⟩ halone
  exact fun _ => h.2.tidy

/-- A read finds the transport closed, reconnects and is retried. -/
theorem read_reconnects :
    OneConnection (runFrom sessionStep (Session.new 0 0)
      [.read 3, .drops 0 true, .worked 0 .disconnected, .closeEnds 0 true, .connects 0,
        .requestAnswered 0 true, .requestAnswered 0 true, .requestAnswered 0 true,
        .requestAnswered 0 true, .heartbeatRuns 1, .worked 0 .returns]) :=
  one_connection_when_alone _ _ _ (by decide +kernel)

/-- An order arrives while a read connects its new transport, and replaces it by another.
Neither of the two is the client's by the time it is connected, and both stay open. -/
theorem transports_are_leaked :
    ¬ OneConnection (runFrom sessionStep (Session.new 0 0)
      [.read 3, .drops 0 true, .worked 0 .disconnected, .closeEnds 0 true, .mutate,
        .connects 0, .connects 1]) := by
  intro h
  have htidy := h (by
    intro id
    rcases id with _ | _ | id <;> rfl)
  exact absurd (htidy.sockets 1 (.open_ true) (by decide) (by decide)) (by decide)

end CTraderSession
end Broker
end Shamarx
