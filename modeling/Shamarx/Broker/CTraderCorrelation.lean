import Mathlib.Data.List.Infix
import Mathlib.Data.List.Nodup
import Shamarx.Foundation.Decimals
import Shamarx.Foundation.InFlight
import Shamarx.Foundation.InsertionMap
import Shamarx.Foundation.Runs

/-!
# Correlation of cTrader frames

Concurrent requests share one socket.  Each registers a queue under a message id of its
own, and one reader loop puts the frames of that id into it.  A call ends with the
frames it waits for, an error, a timeout or a cancellation, and its `finally` takes its
id out of the pending table; when the reader loop ends it fails the calls still in it.
-/

namespace Shamarx
namespace Broker
namespace CTraderCorrelation

open Foundation

/-!
# Frames
-/

/-- The `clientMsgId` of a frame: missing or falsy, a text, another hashable value, or
one that a table lookup raises on. -/
inductive FrameId where
  | missing
  | text (s : String)
  | other
  | unhashable
  deriving DecidableEq

structure Payload where
  errorCode : Option String
  description : Option String
  body : String
  deriving DecidableEq

structure Envelope where
  clientMsgId : FrameId
  payloadType : Option Int
  payload : Option Payload
  deriving DecidableEq

/-- What the socket yields: no JSON, JSON that is no object, or an envelope. -/
inductive RawFrame where
  | malformed
  | scalar
  | object (env : Envelope)

/-- What a queue holds: an envelope, or the error of the reader's end. -/
inductive QueueItem where
  | envelope (env : Envelope)
  | disconnected
  deriving DecidableEq

def errorPayloadTypes : List Int := [50, 2132, 2142]

structure ApiError where
  code : String
  description : String
  deriving DecidableEq

def raisedError : QueueItem -> Option ApiError
  | .disconnected => some ⟨"DISCONNECTED", "WebSocket closed"⟩
  | .envelope env =>
      if exists t, t ∈ env.payloadType ∧ t ∈ errorPayloadTypes then
        some
          { code := (env.payload.bind Payload.errorCode).getD "UNKNOWN"
            description := (env.payload.bind Payload.description).getD "" }
      else none

def unexpectedType (expected : Int) (env : Envelope) : ApiError :=
  { code := "UNEXPECTED_TYPE"
    description := "expected " ++ toString expected ++ ", got " ++
      (env.payloadType.map toString).getD "None" }

/-!
# Calls
-/

inductive CallKind where
  | request (expectedResponseType : Int)
  | requestUntil (done : Envelope -> Bool)

inductive CallStage where
  | sending
  | waiting
  deriving DecidableEq

/-- A call between its registration and its `finally`. -/
structure Call where
  kind : CallKind
  stage : CallStage
  queue : List QueueItem
  collected : List Envelope

inductive Outcome where
  | returned (payload : Option Payload)
  | collected (envs : List Envelope)
  | raised (error : ApiError)
  | timedOut
  | sendFailed
  | cancelled

/-- The record of a call: the number of frames read before its registration, whether the
reader loop ran then, and what the call has taken from its queue. -/
structure CallLog where
  since : Nat
  early : Bool
  taken : List QueueItem

def CallLog.start (log : CallLog) : Nat × Bool :=
  (log.since, log.early)

structure Transport where
  reading : Bool
  msgSeq : Nat
  pending : InsertionMap String Nat
  calls : InFlight Call
  outcomes : List (Nat × Outcome)
  listeners : List Int
  handled : List Envelope
  arrived : List Envelope
  log : InFlight CallLog

def connected : Transport :=
  { reading := true
    msgSeq := 0
    pending := []
    calls := .empty
    outcomes := []
    listeners := []
    handled := []
    arrived := []
    log := .empty }

def msgId (n : Nat) : String :=
  String.ofList ('m' :: Decimals.digits n)

inductive TransportOp where
  | register (kind : CallKind)
  | sent (n : Nat)
  | sendFails (n : Nat)
  | takes (n : Nat)
  | timesOut (n : Nat)
  | cancelled (n : Nat)
  | frame (raw : RawFrame)
  | readerEnds
  | onEvent (payloadType : Int)

namespace Transport

def register (s : Transport) (kind : CallKind) : Transport :=
  let n := s.msgSeq + 1
  { s with
    msgSeq := n
    pending := s.pending.set (msgId n) n
    calls := s.calls.put n { kind := kind, stage := .sending, queue := [], collected := [] }
    log := s.log.put n { since := s.arrived.length, early := s.reading, taken := [] } }

/-- A call ends; its `finally` takes its id out of the table. -/
def finish (s : Transport) (n : Nat) (outcome : Outcome) : Transport :=
  { s with
    pending := s.pending.erase (msgId n)
    calls := s.calls.drop n
    outcomes := (n, outcome) :: s.outcomes }

/-- What a call does with an item: an outcome, or the envelopes it goes on with. -/
def consume (call : Call) (item : QueueItem) : Outcome ⊕ List Envelope :=
  match raisedError item, item with
  | some error, _ => .inl (.raised error)
  | none, .disconnected => .inr call.collected
  | none, .envelope env =>
      match call.kind with
      | .request expected =>
          if env.payloadType = some expected then .inl (.returned env.payload)
          else .inl (.raised (unexpectedType expected env))
      | .requestUntil done =>
          if done env then .inl (.collected (call.collected ++ [env]))
          else .inr (call.collected ++ [env])

def take (s : Transport) (n : Nat) (call : Call) (item : QueueItem) (rest : List QueueItem) :
    Transport :=
  let s :=
    { s with
      calls := s.calls.put n { call with queue := rest }
      log := s.log.modify n fun log => { log with taken := log.taken ++ [item] } }
  match consume call item with
  | .inl outcome => s.finish n outcome
  | .inr collected =>
      { s with calls := s.calls.put n { call with queue := rest, collected := collected } }

def push (item : QueueItem) (call : Call) : Call :=
  { call with queue := call.queue ++ [item] }

def endReader (s : Transport) : Transport :=
  { s with
    reading := false
    calls := s.calls.modifyAll (s.pending.map Prod.snd) (push .disconnected)
    pending := [] }

/-- An envelope that no call waits for goes to the listener of its type. -/
def dispatch (s : Transport) (env : Envelope) : Transport :=
  match env.payloadType with
  | some t => if t ∈ s.listeners then { s with handled := s.handled ++ [env] } else s
  | none => s

/-- One round of the reader loop; JSON that is no object and ids that are no keys end
it. -/
def read (s : Transport) (raw : RawFrame) : Transport :=
  match raw with
  | .malformed => s
  | .scalar => s.endReader
  | .object env =>
      let arrived := { s with arrived := s.arrived ++ [env] }
      match env.clientMsgId with
      | .missing => arrived.dispatch env
      | .other => arrived.dispatch env
      | .unhashable => s.endReader
      | .text id =>
          match s.pending.get id with
          | some n => { arrived with calls := s.calls.modify n (push (.envelope env)) }
          | none => arrived.dispatch env

def step (s : Transport) : TransportOp -> Transport
  | .register kind => s.register kind
  | .sent n =>
      match s.calls n with
      | some call =>
          if call.stage = .sending then
            { s with calls := s.calls.put n { call with stage := .waiting } }
          else s
      | none => s
  | .sendFails n =>
      match s.calls n with
      | some call => if call.stage = .sending then s.finish n .sendFailed else s
      | none => s
  | .takes n =>
      match s.calls n with
      | some call =>
          match call.stage, call.queue with
          | .waiting, item :: rest => s.take n call item rest
          | _, _ => s
      | none => s
  | .timesOut n =>
      match s.calls n with
      | some call => if call.stage = .waiting then s.finish n .timedOut else s
      | none => s
  | .cancelled n =>
      match s.calls n with
      | some _ => s.finish n .cancelled
      | none => s
  | .frame raw => if s.reading then s.read raw else s
  | .readerEnds => if s.reading then s.endReader else s
  | .onEvent payloadType => { s with listeners := payloadType :: s.listeners }

end Transport

/-!
# Delivery
-/

theorem msgId_injective : Function.Injective msgId := by
  intro n m h
  have hchars := List.cons.inj (String.ofList_injective h)
  rw [<- Decimals.value_digits n, hchars.2, Decimals.value_digits]

namespace Transport

/-- The envelopes with the id of a call that were read since its registration. -/
def framesFor (s : Transport) (n : Nat) (log : CallLog) : List QueueItem :=
  ((s.arrived.drop log.since).filter fun env =>
    decide (env.clientMsgId = .text (msgId n))).map .envelope

/-- What a call gets, in order: its frames, and the error of the reader's end if it was
registered before. -/
def owed (s : Transport) (n : Nat) (log : CallLog) : List QueueItem :=
  s.framesFor n log ++ if log.early = true ∧ s.reading = false then [.disconnected] else []

/-- What every run keeps. -/
structure Correlated (s : Transport) : Prop where
  fresh : forall n, s.msgSeq < n -> s.calls n = none ∧ s.log n = none
  keys : (s.pending.map Prod.fst).Nodup
  registered : forall id n, s.pending.get id = some n ->
    id = msgId n ∧ exists call, s.calls n = some call
  waiting : s.reading = true -> forall n call, s.calls n = some call ->
    s.pending.get (msgId n) = some n
  early : s.reading = true -> forall n log, s.log n = some log -> log.early = true
  since_le : forall n log, s.log n = some log -> log.since ≤ s.arrived.length
  taken : forall n log, s.log n = some log -> log.taken <+: s.owed n log
  queued : forall n call, s.calls n = some call -> exists log, s.log n = some log ∧
    log.taken ++ call.queue = s.owed n log

theorem correlated_connected : Correlated connected where
  fresh _ _ := ⟨rfl, rfl⟩
  keys := List.nodup_nil
  registered id n h := by cases h
  waiting _ n call h := by cases h
  early _ n log h := by cases h
  since_le n log h := by cases h
  taken n log h := by cases h
  queued n call h := by cases h

section Steps

variable {s : Transport} {n : Nat} {call : Call}

theorem owed_reading (h : s.reading = true) (n : Nat) (log : CallLog) :
    s.owed n log = s.framesFor n log := by
  simp [owed, h]

theorem Correlated.finish (h : s.Correlated) (n : Nat) (outcome : Outcome) :
    (s.finish n outcome).Correlated where
  fresh m hm := by
    have hfresh := h.fresh m hm
    refine ⟨?_, hfresh.2⟩
    change s.calls.drop n m = none
    by_cases heq : m = n
    · rw [heq, InFlight.drop_self]
    · rw [InFlight.drop_of_ne _ heq, hfresh.1]
  keys := h.keys.sublist ((InsertionMap.erase_sublist _ _).map _)
  registered id m hget := by
    change (s.pending.erase (msgId n)).get id = some m at hget
    rw [InsertionMap.get_erase] at hget
    split_ifs at hget with hid
    rcases h.registered id m hget with ⟨hmsg, call, hcall⟩
    refine ⟨hmsg, call, ?_⟩
    have hne : m ≠ n := by
      intro heq
      exact hid (hmsg.trans (by rw [heq]))
    exact (InFlight.drop_of_ne _ hne).trans hcall
  waiting hreading m call hcall := by
    rcases InFlight.drop_cases hcall with ⟨hne, hold⟩
    change (s.pending.erase (msgId n)).get (msgId m) = some m
    rw [InsertionMap.get_erase, if_neg fun heq => hne (msgId_injective heq)]
    exact h.waiting hreading m call hold
  early := h.early
  since_le := h.since_le
  taken := h.taken
  queued m call hcall := h.queued m call (InFlight.drop_cases hcall).2

theorem Correlated.ne_of_fresh (h : s.Correlated) {m : Nat} (hm : s.msgSeq < m)
    (hcall : s.calls n = some call) : m ≠ n := by
  intro heq
  have hfresh := (h.fresh m hm).1
  rw [heq, hcall] at hfresh
  cases hfresh

theorem Correlated.registered_put (h : s.Correlated) (call' : Call) {id : String} {m : Nat}
    (hget : s.pending.get id = some m) :
    id = msgId m ∧ exists call, s.calls.put n call' m = some call := by
  rcases h.registered id m hget with ⟨hmsg, call, hcall⟩
  refine ⟨hmsg, ?_⟩
  by_cases heq : m = n
  · rw [heq]
    exact ⟨call', InFlight.put_self _ _ _⟩
  · exact ⟨call, (InFlight.put_of_ne _ _ heq).trans hcall⟩

theorem Correlated.waiting_put (h : s.Correlated) (hreading : s.reading = true)
    (hcall : s.calls n = some call) {call' call'' : Call} {m : Nat}
    (hput : s.calls.put n call' m = some call'') : s.pending.get (msgId m) = some m := by
  rcases InFlight.put_cases hput with ⟨rfl, _⟩ | ⟨_, hold⟩
  · exact h.waiting hreading m call hcall
  · exact h.waiting hreading m call'' hold

theorem Correlated.put (h : s.Correlated) (hcall : s.calls n = some call) {call' : Call}
    (hqueue : call'.queue = call.queue) :
    Correlated { s with calls := s.calls.put n call' } where
  fresh m hm := by
    have hfresh := h.fresh m hm
    exact ⟨(InFlight.put_of_ne _ _ (h.ne_of_fresh hm hcall)).trans hfresh.1, hfresh.2⟩
  keys := h.keys
  registered id m hget := h.registered_put call' hget
  waiting hreading m call'' hcall'' := h.waiting_put hreading hcall hcall''
  early := h.early
  since_le := h.since_le
  taken := h.taken
  queued m call'' hcall'' := by
    rcases InFlight.put_cases hcall'' with ⟨rfl, rfl⟩ | ⟨_, hold⟩
    · rw [hqueue]
      exact h.queued m call hcall
    · exact h.queued m call'' hold

theorem Correlated.took (h : s.Correlated) (hcall : s.calls n = some call) {item : QueueItem}
    {rest : List QueueItem} (hqueue : call.queue = item :: rest) :
    Correlated
      { s with
        calls := s.calls.put n { call with queue := rest }
        log := s.log.modify n fun log => { log with taken := log.taken ++ [item] } } := by
  rcases h.queued n call hcall with ⟨log, hlog, howed⟩
  have hlogs : forall m log', (s.log.modify n fun log =>
      { log with taken := log.taken ++ [item] }) m = some log' ->
      (m = n ∧ log' = { log with taken := log.taken ++ [item] }) ∨ s.log m = some log' := by
    intro m log' hm
    by_cases heq : m = n
    · rw [heq, InFlight.modify_self, hlog] at hm
      exact Or.inl ⟨heq, (Option.some.inj hm).symm⟩
    · rw [InFlight.modify_of_ne _ _ heq] at hm
      exact Or.inr hm
  have hmoved : (log.taken ++ [item]) ++ rest = s.owed n log := by
    rw [List.append_assoc, List.singleton_append, <- hqueue, howed]
  constructor
  · intro m hm
    have hfresh := h.fresh m hm
    have hne := h.ne_of_fresh hm hcall
    exact ⟨(InFlight.put_of_ne _ _ hne).trans hfresh.1,
      (InFlight.modify_of_ne _ _ hne).trans hfresh.2⟩
  · exact h.keys
  · intro id m hget
    exact h.registered_put _ hget
  · intro hreading m call' hcall'
    exact h.waiting_put hreading hcall hcall'
  · intro hreading m log' hm
    rcases hlogs m log' hm with ⟨_, rfl⟩ | hold
    · exact h.early hreading n log hlog
    · exact h.early hreading m log' hold
  · intro m log' hm
    rcases hlogs m log' hm with ⟨_, rfl⟩ | hold
    · exact h.since_le n log hlog
    · exact h.since_le m log' hold
  · intro m log' hm
    rcases hlogs m log' hm with ⟨rfl, rfl⟩ | hold
    · exact ⟨rest, hmoved⟩
    · exact h.taken m log' hold
  · intro m call' hcall'
    rcases InFlight.put_cases hcall' with ⟨rfl, rfl⟩ | ⟨hne, hold⟩
    · refine ⟨{ log with taken := log.taken ++ [item] }, ?_, hmoved⟩
      change (s.log.modify m _) m = _
      rw [InFlight.modify_self, hlog]
      rfl
    · rcases h.queued m call' hold with ⟨log', hlog', howed'⟩
      exact ⟨log', (InFlight.modify_of_ne _ _ hne).trans hlog', howed'⟩

theorem Correlated.take (h : s.Correlated) (hcall : s.calls n = some call)
    {item : QueueItem} {rest : List QueueItem} (hqueue : call.queue = item :: rest) :
    (s.take n call item rest).Correlated := by
  have htook := h.took hcall hqueue
  unfold Transport.take
  dsimp only
  cases consume call item with
  | inl outcome =>
      exact htook.finish n outcome
  | inr collected =>
      exact htook.put (InFlight.put_self _ _ _) rfl

theorem Correlated.register (h : s.Correlated) (kind : CallKind) :
    (s.register kind).Correlated := by
  have hold : forall m call, s.calls m = some call -> m ≠ s.msgSeq + 1 :=
    fun m call hcall => (h.ne_of_fresh (Nat.lt_succ_self _) hcall).symm
  have howed : (s.register kind).owed (s.msgSeq + 1)
      { since := s.arrived.length, early := s.reading, taken := [] } = [] := by
    have hframes : (s.register kind).framesFor (s.msgSeq + 1)
        { since := s.arrived.length, early := s.reading, taken := [] } = [] := by
      change ((s.arrived.drop s.arrived.length).filter _).map _ = []
      rw [List.drop_length]
      rfl
    rw [owed, hframes, List.nil_append, if_neg]
    intro hended
    have hsame : s.reading = false := hended.2
    rw [hsame] at hended
    cases hended.1
  constructor
  · intro m hm
    have hlt : s.msgSeq < m := Nat.lt_of_succ_lt hm
    have hne : m ≠ s.msgSeq + 1 := (Nat.ne_of_lt hm).symm
    exact ⟨(InFlight.put_of_ne _ _ hne).trans (h.fresh m hlt).1,
      (InFlight.put_of_ne _ _ hne).trans (h.fresh m hlt).2⟩
  · exact InsertionMap.nodup_set h.keys _ _
  · intro id m hget
    change (s.pending.set (msgId (s.msgSeq + 1)) (s.msgSeq + 1)).get id = some m at hget
    by_cases hid : id = msgId (s.msgSeq + 1)
    · rw [hid, InsertionMap.get_set_self] at hget
      cases hget
      exact ⟨hid, _, InFlight.put_self _ _ _⟩
    · rw [InsertionMap.get_set_of_ne _ _ hid] at hget
      rcases h.registered id m hget with ⟨hmsg, call, hcall⟩
      exact ⟨hmsg, call, (InFlight.put_of_ne _ _ (hold m call hcall)).trans hcall⟩
  · intro hreading m call hcall
    change (s.pending.set (msgId (s.msgSeq + 1)) (s.msgSeq + 1)).get (msgId m) = some m
    rcases InFlight.put_cases hcall with ⟨rfl, _⟩ | ⟨hne, hcall'⟩
    · exact InsertionMap.get_set_self _ _ _
    · rw [InsertionMap.get_set_of_ne _ _ fun heq => hne (msgId_injective heq)]
      exact h.waiting hreading m call hcall'
  · intro hreading m log hm
    rcases InFlight.put_cases hm with ⟨_, rfl⟩ | ⟨_, hlog⟩
    · exact hreading
    · exact h.early hreading m log hlog
  · intro m log hm
    rcases InFlight.put_cases hm with ⟨_, rfl⟩ | ⟨_, hlog⟩
    · exact Nat.le_refl _
    · exact h.since_le m log hlog
  · intro m log hm
    rcases InFlight.put_cases hm with ⟨rfl, rfl⟩ | ⟨_, hlog⟩
    · exact List.nil_prefix
    · exact h.taken m log hlog
  · intro m call hcall
    rcases InFlight.put_cases hcall with ⟨rfl, rfl⟩ | ⟨hne, hcall'⟩
    · exact ⟨_, InFlight.put_self _ _ _, howed.symm⟩
    · rcases h.queued m call hcall' with ⟨log, hlog, howed'⟩
      exact ⟨log, (InFlight.put_of_ne _ _ hne).trans hlog, howed'⟩

theorem framesFor_arrived (env : Envelope) (calls : InFlight Call) {log : CallLog}
    (hsince : log.since ≤ s.arrived.length) :
    framesFor { s with arrived := s.arrived ++ [env], calls := calls } n log =
      s.framesFor n log ++
        if env.clientMsgId = .text (msgId n) then [.envelope env] else [] := by
  unfold framesFor
  rw [List.drop_append_of_le_length hsince, List.filter_append, List.map_append]
  congr 1
  by_cases hid : env.clientMsgId = .text (msgId n)
  · simp [hid]
  · simp [hid]

theorem Correlated.arrive (h : s.Correlated) (hreading : s.reading = true) (env : Envelope)
    {calls : InFlight Call}
    (hcalls : forall m, calls m = (s.calls m).map fun call =>
      if env.clientMsgId = .text (msgId m) then push (.envelope env) call else call) :
    Correlated { s with arrived := s.arrived ++ [env], calls := calls } := by
  have howed : forall m log, s.log m = some log ->
      owed { s with arrived := s.arrived ++ [env], calls := calls } m log =
        s.owed m log ++ if env.clientMsgId = .text (msgId m) then [.envelope env] else [] := by
    intro m log hlog
    rw [owed_reading hreading, owed_reading (by exact hreading),
      framesFor_arrived env calls (h.since_le m log hlog)]
  have hback : forall m call, calls m = some call -> exists before, s.calls m = some before ∧
      call = if env.clientMsgId = .text (msgId m) then push (.envelope env) before
        else before := by
    intro m call hcall
    rw [hcalls m, Option.map_eq_some_iff] at hcall
    rcases hcall with ⟨before, hbefore, heq⟩
    exact ⟨before, hbefore, heq.symm⟩
  constructor
  · intro m hm
    have hfresh := h.fresh m hm
    refine ⟨?_, hfresh.2⟩
    change calls m = none
    rw [hcalls m, hfresh.1]
    rfl
  · exact h.keys
  · intro id m hget
    rcases h.registered id m hget with ⟨hmsg, call, hcall⟩
    refine ⟨hmsg, ?_⟩
    change exists call, calls m = some call
    rw [hcalls m, hcall]
    exact ⟨_, rfl⟩
  · intro _ m call hcall
    rcases hback m call hcall with ⟨before, hbefore, _⟩
    exact h.waiting hreading m before hbefore
  · exact h.early
  · intro m log hlog
    rw [List.length_append]
    exact Nat.le_add_right_of_le (h.since_le m log hlog)
  · intro m log hlog
    rw [howed m log hlog]
    exact (h.taken m log hlog).trans (List.prefix_append _ _)
  · intro m call hcall
    rcases hback m call hcall with ⟨before, hbefore, rfl⟩
    rcases h.queued m before hbefore with ⟨log, hlog, hqueued⟩
    refine ⟨log, hlog, ?_⟩
    rw [howed m log hlog, <- hqueued]
    split_ifs
    · exact (List.append_assoc _ _ _).symm
    · exact (List.append_nil _).symm

theorem Correlated.events (h : s.Correlated) (listeners : List Int)
    (handled : List Envelope) :
    Correlated { s with listeners := listeners, handled := handled } where
  fresh := h.fresh
  keys := h.keys
  registered := h.registered
  waiting := h.waiting
  early := h.early
  since_le := h.since_le
  taken := h.taken
  queued := h.queued

theorem Correlated.dispatch (h : s.Correlated) (env : Envelope) :
    (s.dispatch env).Correlated := by
  unfold Transport.dispatch
  split
  · split_ifs
    · exact h.events s.listeners _
    · exact h
  · exact h

theorem pending_keys_eq (h : s.Correlated) :
    s.pending.map Prod.fst = (s.pending.map Prod.snd).map msgId := by
  rw [List.map_map]
  apply List.map_congr_left
  intro entry hentry
  exact (h.registered entry.1 entry.2 (InsertionMap.get_of_mem h.keys hentry)).1

theorem mem_pending_calls (h : s.Correlated) (hreading : s.reading = true)
    (hcall : s.calls n = some call) :
    (s.pending.map Prod.snd).Nodup ∧ n ∈ s.pending.map Prod.snd := by
  constructor
  · apply List.Nodup.of_map msgId
    rw [<- pending_keys_eq h]
    exact h.keys
  · have hmem := InsertionMap.mem_of_get (h.waiting hreading n call hcall)
    exact List.mem_map_of_mem hmem

theorem Correlated.endReader (h : s.Correlated) (hreading : s.reading = true) :
    s.endReader.Correlated := by
  have hcalls : forall m call, s.endReader.calls m = some call ->
      exists before, s.calls m = some before ∧ call = push .disconnected before := by
    intro m call hcall
    change s.calls.modifyAll (s.pending.map Prod.snd) (push .disconnected) m = some call at hcall
    cases hbefore : s.calls m with
    | none =>
        have hnot : m ∉ s.pending.map Prod.snd := by
          intro hmem
          rcases List.mem_map.mp hmem with ⟨entry, hentry, rfl⟩
          rcases (h.registered entry.1 entry.2
            (InsertionMap.get_of_mem h.keys hentry)).2 with ⟨call', hcall'⟩
          rw [hcall'] at hbefore
          cases hbefore
        rw [InFlight.modifyAll_of_notMem _ _ hnot, hbefore] at hcall
        cases hcall
    | some before =>
        rcases mem_pending_calls h hreading hbefore with ⟨hnodup, hmem⟩
        rw [InFlight.modifyAll_of_mem _ _ hnodup hmem, hbefore] at hcall
        exact ⟨before, rfl, (Option.some.inj hcall).symm⟩
  have howed : forall m log, s.log m = some log ->
      s.endReader.owed m log = s.owed m log ++ [.disconnected] := by
    intro m log hlog
    rw [owed_reading hreading, owed, if_pos ⟨h.early hreading m log hlog, rfl⟩]
    rfl
  constructor
  · intro m hm
    refine ⟨?_, (h.fresh m hm).2⟩
    cases hcall : s.endReader.calls m with
    | none =>
        rfl
    | some call =>
        rcases hcalls m call hcall with ⟨before, hbefore, _⟩
        rw [(h.fresh m hm).1] at hbefore
        cases hbefore
  · exact List.nodup_nil
  · intro id m hget
    cases hget
  · intro hstill
    cases hstill
  · intro hstill
    cases hstill
  · exact h.since_le
  · intro m log hlog
    rw [howed m log hlog]
    exact (h.taken m log hlog).trans (List.prefix_append _ _)
  · intro m call hcall
    rcases hcalls m call hcall with ⟨before, hbefore, rfl⟩
    rcases h.queued m before hbefore with ⟨log, hlog, hqueued⟩
    refine ⟨log, hlog, ?_⟩
    rw [howed m log hlog, <- hqueued]
    exact (List.append_assoc _ _ _).symm

theorem Correlated.arriveUnclaimed (h : s.Correlated) (hreading : s.reading = true)
    (env : Envelope)
    (hid : forall m call, s.calls m = some call -> env.clientMsgId ≠ .text (msgId m)) :
    Correlated { s with arrived := s.arrived ++ [env] } := by
  apply h.arrive hreading env
  intro m
  cases hcall : s.calls m with
  | none =>
      rfl
  | some call =>
      rw [Option.map_some, if_neg (hid m call hcall)]

theorem Correlated.read (h : s.Correlated) (hreading : s.reading = true) (raw : RawFrame) :
    (s.read raw).Correlated := by
  cases raw with
  | malformed =>
      exact h
  | scalar =>
      exact h.endReader hreading
  | object env =>
      unfold Transport.read
      dsimp only
      cases hid : env.clientMsgId with
      | missing =>
          exact (h.arriveUnclaimed hreading env (by simp [hid])).dispatch env
      | other =>
          exact (h.arriveUnclaimed hreading env (by simp [hid])).dispatch env
      | unhashable =>
          exact h.endReader hreading
      | text id =>
          dsimp only
          cases hget : s.pending.get id with
          | none =>
              refine (h.arriveUnclaimed hreading env ?_).dispatch env
              intro m call hcall heq
              rw [hid, FrameId.text.injEq] at heq
              rw [heq, h.waiting hreading m call hcall] at hget
              cases hget
          | some n =>
              have hmsg := (h.registered id n hget).1
              apply h.arrive hreading env
              intro m
              by_cases heq : m = n
              · rw [heq, InFlight.modify_self, hid, hmsg]
                simp
              · rw [InFlight.modify_of_ne _ _ heq]
                have hne : env.clientMsgId ≠ .text (msgId m) := by
                  intro hsame
                  rw [hid, FrameId.text.injEq, hmsg] at hsame
                  exact heq (msgId_injective hsame).symm
                cases s.calls m with
                | none =>
                    rfl
                | some call =>
                    rw [Option.map_some, if_neg hne]

theorem Correlated.step (h : s.Correlated) (op : TransportOp) : (s.step op).Correlated := by
  cases op with
  | register kind =>
      exact h.register kind
  | sent n =>
      unfold Transport.step
      dsimp only
      split
      · next call hcall =>
          split_ifs
          · exact h.put hcall rfl
          · exact h
      · exact h
  | sendFails n =>
      unfold Transport.step
      dsimp only
      split
      · split_ifs
        · exact h.finish n _
        · exact h
      · exact h
  | takes n =>
      unfold Transport.step
      dsimp only
      split
      · next call hcall =>
          split
          · next item rest hstage hqueue =>
              exact h.take hcall hqueue
          · exact h
      · exact h
  | timesOut n =>
      unfold Transport.step
      dsimp only
      split
      · split_ifs
        · exact h.finish n _
        · exact h
      · exact h
  | cancelled n =>
      unfold Transport.step
      dsimp only
      split
      · exact h.finish n _
      · exact h
  | frame raw =>
      unfold Transport.step
      dsimp only
      split_ifs with hreading
      · exact h.read hreading raw
      · exact h
  | readerEnds =>
      unfold Transport.step
      dsimp only
      split_ifs with hreading
      · exact h.endReader hreading
      · exact h
  | onEvent payloadType =>
      exact h.events _ s.handled

end Steps

theorem Correlated.pending_eq_nil {s : Transport} (h : s.Correlated)
    (hidle : forall n, s.calls n = none) : s.pending = [] := by
  cases hpending : s.pending with
  | nil =>
      rfl
  | cons entry rest =>
      have hmem : entry ∈ s.pending := by
        rw [hpending]
        exact List.mem_cons_self
      rcases (h.registered entry.1 entry.2 (InsertionMap.get_of_mem h.keys hmem)).2 with
        ⟨call, hcall⟩
      rw [hidle] at hcall
      cases hcall

/-!
# The operations of a run

What a call is owed, read off the operations alone: the frames that arrive before the
reader loop ends, and the registrations.
-/

def EndsReader : TransportOp -> Bool
  | .frame .scalar => true
  | .frame (.object env) => decide (env.clientMsgId = .unhashable)
  | .readerEnds => true
  | _ => false

def envelopeOf : TransportOp -> Option Envelope
  | .frame (.object env) => some env
  | _ => none

def arrivals (ops : List TransportOp) : List Envelope :=
  (ops.takeWhile fun op => !EndsReader op).filterMap envelopeOf

def Registers : TransportOp -> Bool
  | .register _ => true
  | _ => false

/-- What the call registered between two parts of a run is owed, in order: the frames
with its id that arrive after it, and then the error if the loop ends after it.  After
the end of the loop nothing arrives. -/
def owedTo (before after : List TransportOp) : List QueueItem :=
  if before.any EndsReader then []
  else
    ((arrivals after).filter fun env =>
        decide (env.clientMsgId = .text (msgId (before.countP Registers + 1)))).map .envelope ++
      if after.any EndsReader then [.disconnected] else []

theorem arrivals_cons (op : TransportOp) (rest : List TransportOp) :
    arrivals (op :: rest) =
      if EndsReader op then [] else (envelopeOf op).toList ++ arrivals rest := by
  unfold arrivals
  rw [List.takeWhile_cons]
  cases hends : EndsReader op with
  | true =>
      rfl
  | false =>
      rw [Bool.not_false, if_pos rfl, if_neg Bool.false_ne_true, List.filterMap_cons]
      cases envelopeOf op <;> rfl

section Records

variable {s t : Transport} {n : Nat}

/-- The steps of a call leave the arrivals and the registrations alone. -/
structure SameRecords (s t : Transport) : Prop where
  reading : t.reading = s.reading
  arrived : t.arrived = s.arrived
  msgSeq : t.msgSeq = s.msgSeq
  starts : forall n, (t.log n).map CallLog.start = (s.log n).map CallLog.start

theorem SameRecords.of_log (hreading : t.reading = s.reading) (harrived : t.arrived = s.arrived)
    (hseq : t.msgSeq = s.msgSeq) (hlog : t.log = s.log) : SameRecords s t :=
  ⟨hreading, harrived, hseq, fun _ => by rw [hlog]⟩

theorem SameRecords.refl (s : Transport) : SameRecords s s :=
  .of_log rfl rfl rfl rfl

theorem sameRecords_take (s : Transport) (n : Nat) (call : Call) (item : QueueItem)
    (rest : List QueueItem) : SameRecords s (s.take n call item rest) := by
  have hstarts : forall m, ((s.log.modify n fun log =>
      { log with taken := log.taken ++ [item] }) m).map CallLog.start =
        (s.log m).map CallLog.start := by
    intro m
    by_cases hm : m = n
    · rw [hm, InFlight.modify_self, Option.map_map]
      rfl
    · rw [InFlight.modify_of_ne _ _ hm]
  unfold take
  dsimp only
  split <;> exact ⟨rfl, rfl, rfl, hstarts⟩

theorem sameRecords_dispatch (s : Transport) (env : Envelope) :
    SameRecords s (s.dispatch env) := by
  unfold dispatch
  split
  · split_ifs
    · exact .of_log rfl rfl rfl rfl
    · exact .refl s
  · exact .refl s

theorem sameRecords_step (s : Transport) (op : TransportOp) (hregister : Registers op = false)
    (hends : EndsReader op = false) (henvelope : envelopeOf op = none) :
    SameRecords s (s.step op) := by
  cases op with
  | register kind => cases hregister
  | sent n =>
      unfold step
      dsimp only
      split
      · split_ifs
        · exact .of_log rfl rfl rfl rfl
        · exact .refl s
      · exact .refl s
  | sendFails n =>
      unfold step
      dsimp only
      split
      · split_ifs
        · exact .of_log rfl rfl rfl rfl
        · exact .refl s
      · exact .refl s
  | takes n =>
      unfold step
      dsimp only
      split
      · split
        · exact sameRecords_take s n _ _ _
        · exact .refl s
      · exact .refl s
  | timesOut n =>
      unfold step
      dsimp only
      split
      · split_ifs
        · exact .of_log rfl rfl rfl rfl
        · exact .refl s
      · exact .refl s
  | cancelled n =>
      unfold step
      dsimp only
      split
      · exact .of_log rfl rfl rfl rfl
      · exact .refl s
  | frame raw =>
      cases raw with
      | malformed =>
          unfold step
          dsimp only
          split_ifs <;> exact .refl s
      | scalar => cases hends
      | object env => cases henvelope
  | readerEnds => cases hends
  | onEvent payloadType => exact .of_log rfl rfl rfl rfl

theorem sameRecords_read {env : Envelope} (hends : EndsReader (.frame (.object env)) = false) :
    SameRecords { s with arrived := s.arrived ++ [env] } (s.read (.object env)) := by
  unfold read
  dsimp only
  cases hid : env.clientMsgId with
  | missing => exact sameRecords_dispatch _ env
  | other => exact sameRecords_dispatch _ env
  | unhashable =>
      rw [EndsReader, hid] at hends
      cases hends
  | text id =>
      dsimp only
      split
      · exact .of_log rfl rfl rfl rfl
      · exact sameRecords_dispatch _ env

theorem step_of_endsReader {op : TransportOp} (hends : EndsReader op = true) :
    s.step op = if s.reading then s.endReader else s := by
  cases op with
  | frame raw =>
      cases raw with
      | malformed => cases hends
      | scalar => rfl
      | object env =>
          have hid : env.clientMsgId = .unhashable := of_decide_eq_true hends
          simp only [step, read, hid]
  | readerEnds => rfl
  | register kind => cases hends
  | sent n => cases hends
  | sendFails n => cases hends
  | takes n => cases hends
  | timesOut n => cases hends
  | cancelled n => cases hends
  | onEvent payloadType => cases hends

/-- What one operation puts on record: a registration, or a frame that the loop reads on
from; the end of the loop is for good. -/
theorem step_records (s : Transport) (op : TransportOp) :
    (s.step op).reading = (s.reading && !EndsReader op) ∧
      (s.step op).arrived =
        (if s.reading && !EndsReader op then s.arrived ++ (envelopeOf op).toList else s.arrived) ∧
      (s.step op).msgSeq = s.msgSeq + (if Registers op then 1 else 0) ∧
      forall n, (Registers op = true -> n ≠ s.msgSeq + 1) ->
        ((s.step op).log n).map CallLog.start = (s.log n).map CallLog.start := by
  by_cases hregister : Registers op = true
  · cases op with
    | register kind =>
        refine ⟨(Bool.and_true _).symm, ?_, rfl, ?_⟩
        · change s.arrived = if _ then s.arrived ++ [] else s.arrived
          rw [List.append_nil, ite_self]
        · intro n hn
          exact congrArg _ (InFlight.put_of_ne _ _ (hn rfl))
    | _ => cases hregister
  rw [Bool.not_eq_true] at hregister
  rw [hregister, if_neg Bool.false_ne_true, Nat.add_zero]
  by_cases hends : EndsReader op = true
  · rw [step_of_endsReader hends, hends, Bool.not_true, Bool.and_false, if_neg Bool.false_ne_true]
    cases hreading : s.reading with
    | false => exact ⟨hreading, rfl, rfl, fun _ _ => rfl⟩
    | true => exact ⟨rfl, rfl, rfl, fun _ _ => rfl⟩
  rw [Bool.not_eq_true] at hends
  rw [hends, Bool.not_false, Bool.and_true]
  cases henvelope : envelopeOf op with
  | none =>
      have h := sameRecords_step s op hregister hends henvelope
      refine ⟨h.reading, ?_, h.msgSeq, fun n _ => h.starts n⟩
      rw [h.arrived, Option.toList_none, List.append_nil, ite_self]
  | some env =>
      have hop : op = .frame (.object env) := by
        unfold envelopeOf at henvelope
        split at henvelope
        · rw [Option.some.inj henvelope]
        · cases henvelope
      subst hop
      unfold step
      dsimp only
      cases hreading : s.reading with
      | false => exact ⟨hreading, rfl, rfl, fun _ _ => rfl⟩
      | true =>
          have h := sameRecords_read hends (s := s)
          exact ⟨h.reading.trans hreading, h.arrived, h.msgSeq, fun n _ => h.starts n⟩

/-!
# Records of a run
-/

theorem run_reading (s : Transport) (ops : List TransportOp) :
    (runFrom step s ops).reading = (s.reading && !ops.any EndsReader) := by
  induction ops generalizing s with
  | nil =>
      exact (Bool.and_true _).symm
  | cons op rest ih =>
      rw [runFrom_cons, ih, (step_records s op).1, List.any_cons, Bool.not_or, Bool.and_assoc]

theorem run_arrived (s : Transport) (ops : List TransportOp) :
    (runFrom step s ops).arrived =
      if s.reading then s.arrived ++ arrivals ops else s.arrived := by
  induction ops generalizing s with
  | nil =>
      change s.arrived = if _ then s.arrived ++ [] else s.arrived
      rw [List.append_nil, ite_self]
  | cons op rest ih =>
      rcases step_records s op with ⟨hreading, harrived, -, -⟩
      rw [runFrom_cons, ih, hreading, harrived, arrivals_cons]
      cases s.reading <;> cases EndsReader op <;> simp

theorem run_msgSeq (s : Transport) (ops : List TransportOp) :
    (runFrom step s ops).msgSeq = s.msgSeq + ops.countP Registers := by
  induction ops generalizing s with
  | nil =>
      rfl
  | cons op rest ih =>
      rw [runFrom_cons, ih, (step_records s op).2.2.1, List.countP_cons, Nat.add_assoc]
      exact congrArg _ (Nat.add_comm _ _)

theorem run_starts (s : Transport) (ops : List TransportOp) {n : Nat} (hn : n ≤ s.msgSeq) :
    ((runFrom step s ops).log n).map CallLog.start = (s.log n).map CallLog.start := by
  induction ops generalizing s with
  | nil =>
      rfl
  | cons op rest ih =>
      rcases step_records s op with ⟨-, -, hseq, hstarts⟩
      rw [runFrom_cons, ih (s.step op) (by omega)]
      exact hstarts n fun _ => by omega

theorem run_registered (ops : List TransportOp) {n : Nat}
    (hlog : ((runFrom step connected ops).log n).isSome) :
    exists before kind after, ops = before ++ .register kind :: after ∧
      n = before.countP Registers + 1 := by
  induction ops using List.reverseRecOn with
  | nil =>
      cases hlog
  | append_singleton rest op ih =>
      rw [runFrom_append] at hlog
      rcases step_records (runFrom step connected rest) op with ⟨-, -, -, hstarts⟩
      by_cases hnew : Registers op = true ∧ n = (runFrom step connected rest).msgSeq + 1
      · rcases hnew with ⟨hregister, rfl⟩
        cases op with
        | register kind =>
            refine ⟨rest, kind, [], rfl, ?_⟩
            rw [run_msgSeq, connected, Nat.zero_add]
        | _ => cases hregister
      · have hold : ((runFrom step connected rest).log n).isSome := by
          have hsame := congrArg Option.isSome
            (hstarts n fun hregister heq => hnew ⟨hregister, heq⟩)
          rw [Option.isSome_map, Option.isSome_map] at hsame
          rw [← hsame]
          exact hlog
        rcases ih hold with ⟨before, kind, after, hsplit, hn⟩
        exact ⟨before, kind, after ++ [op], by rw [hsplit]; simp, hn⟩

theorem run_logged (before after : List TransportOp) (kind : CallKind) :
    exists log, (runFrom step connected (before ++ .register kind :: after)).log
        (before.countP Registers + 1) = some log ∧
      log.start = ((runFrom step connected before).arrived.length,
        (runFrom step connected before).reading) := by
  have hseq : (runFrom step connected before).msgSeq = before.countP Registers := by
    rw [run_msgSeq, connected, Nat.zero_add]
  rw [← hseq, runFrom_append, runFrom_cons]
  have hsame := run_starts ((runFrom step connected before).register kind) after
    (n := (runFrom step connected before).msgSeq + 1) (Nat.le_refl _)
  have hput := InFlight.put_self (runFrom step connected before).log
    ((runFrom step connected before).msgSeq + 1)
    { since := (runFrom step connected before).arrived.length
      early := (runFrom step connected before).reading
      taken := [] }
  change _ = Option.map CallLog.start ((runFrom step connected before).log.put _ _ _) at hsame
  rw [hput] at hsame
  rcases Option.map_eq_some_iff.mp hsame with ⟨log, hlog, hstart⟩
  exact ⟨log, hlog, hstart⟩

theorem owed_eq_owedTo (before after : List TransportOp) (kind : CallKind) {log : CallLog}
    (hstart : log.start = ((runFrom step connected before).arrived.length,
      (runFrom step connected before).reading)) :
    (runFrom step connected (before ++ .register kind :: after)).owed
      (before.countP Registers + 1) log = owedTo before after := by
  have hreading : (runFrom step connected before).reading = !before.any EndsReader :=
    run_reading connected before
  have hsince : log.since = (runFrom step connected before).arrived.length :=
    congrArg Prod.fst hstart
  have hearly : log.early = !before.any EndsReader :=
    (congrArg Prod.snd hstart).trans hreading
  have harrived : (runFrom step connected (before ++ .register kind :: after)).arrived.drop
      log.since = if before.any EndsReader then [] else arrivals after := by
    rw [runFrom_append, runFrom_cons, run_arrived, hsince]
    change (if (runFrom step connected before).reading then
      (runFrom step connected before).arrived ++ arrivals after
        else (runFrom step connected before).arrived).drop _ = _
    rw [hreading]
    cases before.any EndsReader <;> simp
  have hended : (runFrom step connected (before ++ .register kind :: after)).reading =
      (!before.any EndsReader && !after.any EndsReader) := by
    rw [runFrom_append, runFrom_cons, run_reading]
    change ((runFrom step connected before).reading && _) = _
    rw [hreading]
  unfold owed framesFor owedTo
  rw [harrived, hended, hearly]
  cases before.any EndsReader <;> cases after.any EndsReader <;> simp

end Records
theorem Correlated.own_frames {s : Transport} (h : s.Correlated) {n : Nat} {log : CallLog}
    (hlog : s.log n = some log) {env : Envelope} (henv : .envelope env ∈ log.taken) (m : Nat) :
    env.clientMsgId = .text (msgId m) <-> m = n := by
  have howed := (h.taken n log hlog).subset henv
  have hid : env.clientMsgId = .text (msgId n) := by
    rcases List.mem_append.mp howed with hframe | herror
    · rcases List.mem_map.mp hframe with ⟨env', hkept, heq⟩
      cases heq
      exact of_decide_eq_true (List.mem_filter.mp hkept).2
    · split_ifs at herror
      · cases List.mem_singleton.mp herror
      · cases herror
  rw [hid, FrameId.text.injEq]
  constructor
  · intro heq
    exact (msgId_injective heq).symm
  · intro heq
    rw [heq]

/-- A call is owed the frames with its id that arrive between its registration and the
end of the reader loop, in order, and then the error of that end.  After any interleaving
what it has taken and what is in its queue are just that while it is in progress, and what
an ended call took is the beginning of it; only its own frames reach a call; and without
calls the table is empty. -/
theorem frames_correlated (ops : List TransportOp) :
    (forall before kind after, ops = before ++ .register kind :: after ->
      exists log, (runFrom step connected ops).log (before.countP Registers + 1) = some log ∧
        log.taken <+: owedTo before after ∧
        forall call, (runFrom step connected ops).calls (before.countP Registers + 1) =
          some call -> log.taken ++ call.queue = owedTo before after) ∧
      (forall n, ((runFrom step connected ops).calls n).isSome ∨
          ((runFrom step connected ops).log n).isSome ->
        exists before kind after, ops = before ++ .register kind :: after ∧
          n = before.countP Registers + 1) ∧
      (forall n log env, (runFrom step connected ops).log n = some log ->
        .envelope env ∈ log.taken -> forall m, env.clientMsgId = .text (msgId m) <-> m = n) ∧
      ((forall n, (runFrom step connected ops).calls n = none) ->
        (runFrom step connected ops).pending = []) := by
  have h : (runFrom step connected ops).Correlated :=
    runFrom_inv Correlated (fun _ op hs => hs.step op) correlated_connected ops
  refine ⟨?_, ?_, fun n log env hlog henv m => h.own_frames hlog henv m, h.pending_eq_nil⟩
  · intro before kind after hops
    subst hops
    rcases run_logged before after kind with ⟨log, hlog, hstart⟩
    have howed := owed_eq_owedTo before after kind hstart
    refine ⟨log, hlog, howed ▸ h.taken _ log hlog, ?_⟩
    intro call hcall
    rcases h.queued _ call hcall with ⟨log', hlog', hqueued⟩
    rw [hlog] at hlog'
    cases hlog'
    rw [hqueued, howed]
  · rintro n (hcall | hlog)
    · rcases Option.isSome_iff_exists.mp hcall with ⟨call, hcall⟩
      rcases h.queued n call hcall with ⟨log, hlog, -⟩
      exact run_registered ops (by rw [hlog]; rfl)
    · exact run_registered ops hlog

end Transport
end CTraderCorrelation
end Broker
end Shamarx
