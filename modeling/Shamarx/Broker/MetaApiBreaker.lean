import Shamarx.Foundation.Runs
import Shamarx.Foundation.TaskLock
import Shamarx.Foundation.Weights
import Mathlib.Algebra.Order.Field.Rat
import Mathlib.Tactic.Linarith

/-!
# The reconnect breaker of the MetaApi client

`MetaApiMT5.initialize` checks its circuit breaker and the throttle of forced calls
first, may then sleep, waits for a lock and acts only under it.  Calls overlap at the
sleep, at the lock and at every await of the SDK.
-/

namespace Shamarx
namespace Broker
namespace MetaApiBreaker

open Foundation

/-!
# The client
-/

def cbThreshold : Nat :=
  3

def cbBaseSleepS : ℚ :=
  30

def cbMaxSleepS : ℚ :=
  600

def minForcedReinitIntervalS : ℚ :=
  5

def backoffS (failures : Nat) : ℚ :=
  min (cbBaseSleepS * 2 ^ (failures - cbThreshold)) cbMaxSleepS

/-- A call of `initialize` that has passed the breaker: a forced one at the throttle
sleep, one waiting for the lock, a forced one closing the stale connection, or one that
attempts to connect. -/
inductive InitCall where
  | sleeping (wake : ℚ)
  | waiting (force : Bool)
  | closing
  | attempting (force : Bool)
  | done
  deriving DecidableEq

/-- The fields of the client, the lock, and the calls in the order in which they came.
`forcedAttemptAt` is when the last forced attempt started. -/
structure Client where
  now : ℚ
  initialized : Bool
  connection : Bool
  consecutiveFailures : Nat
  circuitBreakerUntil : Option ℚ
  lastForcedInitAt : ℚ
  lock : TaskLock
  calls : List InitCall
  forcedAttemptAt : Option ℚ

def Client.new (now : ℚ) : Client :=
  { now := now
    initialized := false
    connection := false
    consecutiveFailures := 0
    circuitBreakerUntil := none
    lastForcedInitAt := 0
    lock := TaskLock.new
    calls := []
    forcedAttemptAt := none }

/-- A call comes in; the call with this number wakes from the throttle sleep, gets the
lock it has waited for, has closed the stale connection, has a new connection object,
succeeds or fails; a ping of the keepalive loop fails; time passes. -/
inductive InitOp where
  | initializes (force : Bool)
  | wake (i : Nat)
  | resume (i : Nat)
  | closed (i : Nat)
  | connects (i : Nat)
  | succeeds (i : Nat)
  | attemptFails (i : Nat)
  | pingFails
  | advance (seconds : ℚ)
  deriving DecidableEq

namespace Client

/-- The breaker is open: its time is set and has not come. -/
def Open (s : Client) : Prop :=
  match s.circuitBreakerUntil with
  | some t => s.now < t
  | none => False

instance (s : Client) : Decidable s.Open := by
  unfold Open
  split <;> infer_instance

def Throttled (s : Client) (force : Bool) : Prop :=
  force = true ∧ s.now - s.lastForcedInitAt < minForcedReinitIntervalS

instance (s : Client) (force : Bool) : Decidable (s.Throttled force) :=
  inferInstanceAs (Decidable (_ ∧ _))

def move (s : Client) (i : Nat) (c : InitCall) : Client :=
  { s with calls := s.calls.set i c }

def startAttempt (s : Client) (i : Nat) (force : Bool) : Client :=
  { s.move i (.attempting force) with
    forcedAttemptAt := if force then some s.now else s.forcedAttemptAt }

def underLock (s : Client) (i : Nat) (force : Bool) : Client :=
  if s.initialized = true ∧ force = false then
    { s.move i .done with lock := s.lock.release }
  else if force = true then
    let reset := { s with lastForcedInitAt := s.now, initialized := false }
    if s.connection then reset.move i .closing else reset.startAttempt i true
  else s.startAttempt i false

def askLock (s : Client) (i : Nat) (force : Bool) : Client :=
  if s.lock.Free then { s with lock := s.lock.take }.underLock i force
  else { s.move i (.waiting force) with lock := s.lock.enqueue i }

def initializes (s : Client) (force : Bool) : Client :=
  if s.Open then s
  else if s.Throttled force then
    { s with
      calls := s.calls ++
        [.sleeping (s.now + (minForcedReinitIntervalS - (s.now - s.lastForcedInitAt)))] }
  else { s with calls := s.calls ++ [InitCall.waiting force] }.askLock s.calls.length force

def succeeds (s : Client) (i : Nat) : Client :=
  { s.move i .done with
    initialized := true
    connection := true
    consecutiveFailures := 0
    circuitBreakerUntil := none
    lock := s.lock.release }

def attemptFails (s : Client) (i : Nat) : Client :=
  let failures := s.consecutiveFailures + 1
  let failed := { s.move i .done with consecutiveFailures := failures, lock := s.lock.release }
  if cbThreshold ≤ failures then
    { failed with
      circuitBreakerUntil := some (s.now + backoffS failures)
      connection := false
      initialized := false }
  else failed

end Client

def initStep (s : Client) : InitOp -> Client
  | .initializes force => s.initializes force
  | .wake i =>
      match s.calls[i]? with
      | some (.sleeping wake) => if wake ≤ s.now then s.askLock i true else s
      | _ => s
  | .resume i =>
      match s.calls[i]? with
      | some (.waiting force) =>
          if s.lock.Wakes i then { s with lock := s.lock.resume }.underLock i force else s
      | _ => s
  | .closed i =>
      match s.calls[i]? with
      | some .closing => { s with connection := false }.startAttempt i true
      | _ => s
  | .connects i =>
      match s.calls[i]? with
      | some (.attempting _) => { s with connection := true }
      | _ => s
  | .succeeds i =>
      match s.calls[i]? with
      | some (.attempting _) => s.succeeds i
      | _ => s
  | .attemptFails i =>
      match s.calls[i]? with
      | some (.attempting _) => s.attemptFails i
      | _ => s
  | .pingFails => { s with initialized := false }
  | .advance seconds => if 0 ≤ seconds then { s with now := s.now + seconds } else s

/-- The attempt that a call with the lock starts at once, with its `force`. -/
def startsUnderLock (s : Client) (force : Bool) : Option Bool :=
  if s.initialized = true ∧ force = false then none
  else if force = true ∧ s.connection = true then none
  else some force

def starts (s : Client) : InitOp -> Option Bool
  | .initializes force =>
      if s.Open ∨ s.Throttled force ∨ ¬ s.lock.Free then none else startsUnderLock s force
  | .wake i =>
      match s.calls[i]? with
      | some (.sleeping wake) =>
          if wake ≤ s.now ∧ s.lock.Free then startsUnderLock s true else none
      | _ => none
  | .resume i =>
      match s.calls[i]? with
      | some (.waiting force) => if s.lock.Wakes i then startsUnderLock s force else none
      | _ => none
  | .closed i =>
      match s.calls[i]? with
      | some .closing => some true
      | _ => none
  | _ => none

/-- An attempt starts only while the breaker is not open, and a forced one only five
seconds after the last forced one. -/
def Allowed (s : Client) (op : InitOp) : Prop :=
  match starts s op with
  | none => True
  | some force => ¬ s.Open ∧ (force = true ->
      match s.forcedAttemptAt with
      | some t => t + minForcedReinitIntervalS ≤ s.now
      | none => True)

instance (s : Client) (op : InitOp) : Decidable (Allowed s op) := by
  unfold Allowed
  repeat' split
  all_goals infer_instance

/-!
# Orderly calls
-/

def running : InitCall -> Nat
  | .done => 0
  | _ => 1

def ForcedBeforeLock (c : InitCall) : Prop :=
  match c with
  | .sleeping _ => True
  | .waiting force => force = true
  | _ => False

instance (c : InitCall) : Decidable (ForcedBeforeLock c) := by
  unfold ForcedBeforeLock
  split <;> infer_instance

/-- An unforced call that finds the client initialized and the lock free. -/
def ReturnsAtOnce (s : Client) (force : Bool) : Prop :=
  force = false ∧ s.initialized = true ∧ s.lock.Free

instance (s : Client) (force : Bool) : Decidable (ReturnsAtOnce s force) :=
  inferInstanceAs (Decidable (_ ∧ _))

/-- The last forced attempt started with its forced call, or is five seconds old. -/
def AttemptSettled (s : Client) : Prop :=
  match s.forcedAttemptAt with
  | some t => t + minForcedReinitIntervalS ≤
      max s.now (s.lastForcedInitAt + minForcedReinitIntervalS)
  | none => True

instance (s : Client) : Decidable (AttemptSettled s) := by
  unfold AttemptSettled
  split <;> infer_instance

/-- A call that passes the breaker is the only one running, or leaves one failure to spare
for each of those that run.  A forced one passes the throttle alone, and five seconds after
an attempt that a slow close of the stale connection has put off; and no other forced call
comes during such a close. -/
def Orderly (s : Client) : InitOp -> Prop
  | .initializes force => s.Open ∨ ReturnsAtOnce s force ∨
      (total running s.calls = 0 ∨
        s.consecutiveFailures + (total running s.calls + 1) ≤ cbThreshold) ∧
      (force = true -> (forall c, c ∈ s.calls -> ¬ ForcedBeforeLock c) ∧ AttemptSettled s)
  | .closed i => s.calls[i]? = some .closing -> s.now = s.lastForcedInitAt ∨
      forall c, c ∈ s.calls -> ¬ ForcedBeforeLock c
  | _ => True

instance (s : Client) (op : InitOp) : Decidable (Orderly s op) := by
  unfold Orderly
  split <;> infer_instance

/-!
# The breaker
-/

section Breaker

/-- A call that has passed the breaker and not yet acted on it. -/
def BeforeAttempt (c : InitCall) : Prop :=
  match c with
  | .sleeping _ => True
  | .waiting _ => True
  | .closing => True
  | _ => False

/-- While the breaker is open no call is still to act, and the calls that run cannot open
it before the last of them. -/
structure BreakerInv (isOpen : Prop) (failures : Nat) (calls : List InitCall) : Prop where
  waits : isOpen -> forall c, c ∈ calls -> ¬ BeforeAttempt c
  few : total running calls ≤ 1 ∨ failures + total running calls ≤ cbThreshold

def Client.BreakerInv (s : Client) : Prop :=
  MetaApiBreaker.BreakerInv s.Open s.consecutiveFailures s.calls

variable {s : Client} {isOpen : Prop} {failures i : Nat} {calls : List InitCall}
  {old new : InitCall}

theorem mem_set_cases {c : InitCall} (h : c ∈ calls.set i new) : c = new ∨ c ∈ calls :=
  (List.mem_or_eq_of_mem_set h).symm

theorem BreakerInv.move (h : BreakerInv isOpen failures calls) (hi : calls[i]? = some old)
    (hclosed : ¬ isOpen) (new : InitCall) (hrunning : running new ≤ running old) :
    BreakerInv isOpen failures (calls.set i new) where
  waits := fun hopen => absurd hopen hclosed
  few := by
    have hset := total_set hi running new
    rcases h.few with hone | hfew
    · left
      omega
    · right
      omega

theorem BreakerInv.append (hclosed : ¬ isOpen) (hnew : running new = 1)
    (hfew : total running calls = 0 ∨ failures + (total running calls + 1) ≤ cbThreshold) :
    BreakerInv isOpen failures (calls ++ [new]) where
  waits := fun hopen => absurd hopen hclosed
  few := by
    rw [total_append, total_cons, total_nil, hnew]
    rcases hfew with hnone | hfew
    · left
      omega
    · right
      omega

theorem not_beforeAttempt_of_total (calls : List InitCall) (h : total running calls = 0)
    {c : InitCall} (hc : c ∈ calls) : ¬ BeforeAttempt c := by
  intro hbefore
  have hpos : 0 < running c := by
    cases c with
    | done => exact absurd hbefore id
    | sleeping _ => exact Nat.one_pos
    | waiting _ => exact Nat.one_pos
    | closing => exact Nat.one_pos
    | attempting _ => exact Nat.one_pos
  rw [<- h] at hpos
  exact Nat.not_lt_of_le (weight_le_total running hc) hpos

theorem BreakerInv.not_open (h : BreakerInv isOpen failures calls) (hi : calls[i]? = some old)
    (hbefore : BeforeAttempt old) : ¬ isOpen :=
  fun hopen => h.waits hopen old (List.mem_of_getElem? hi) hbefore

theorem running_of_beforeAttempt {c : InitCall} (h : BeforeAttempt c) : running c = 1 := by
  cases c with
  | attempting _ => exact absurd h id
  | done => exact absurd h id
  | sleeping _ => rfl
  | waiting _ => rfl
  | closing => rfl

theorem underLock_breakerInv (h : s.BreakerInv) (hi : s.calls[i]? = some old)
    (hbefore : BeforeAttempt old) (force : Bool) : (s.underLock i force).BreakerInv := by
  have hclosed := h.not_open hi hbefore
  have hrunning := running_of_beforeAttempt hbefore
  have hmove : forall c, running c ≤ 1 -> (s.move i c).BreakerInv := by
    intro c hc
    exact BreakerInv.move h hi hclosed c (by omega)
  unfold Client.underLock
  split_ifs
  · exact hmove .done (Nat.zero_le _)
  · exact hmove .closing (Nat.le_refl _)
  · exact hmove (.attempting true) (Nat.le_refl _)
  · exact hmove (.attempting false) (Nat.le_refl _)

theorem askLock_breakerInv (h : s.BreakerInv) (hi : s.calls[i]? = some old)
    (hbefore : BeforeAttempt old) (force : Bool) : (s.askLock i force).BreakerInv := by
  unfold Client.askLock
  split_ifs
  · exact underLock_breakerInv (s := { s with lock := s.lock.take }) h hi hbefore force
  · exact BreakerInv.move h hi (h.not_open hi hbefore) _
      (Nat.le_of_eq (running_of_beforeAttempt hbefore).symm)

theorem set_concat_last (calls : List InitCall) (old new : InitCall) :
    (calls ++ [old]).set calls.length new = calls ++ [new] := by
  rw [List.set_append_right _ _ (Nat.le_refl _), Nat.sub_self, List.set_cons_zero]

theorem BreakerInv.append_done (h : BreakerInv isOpen failures calls) (hclosed : ¬ isOpen) :
    BreakerInv isOpen failures (calls ++ [.done]) where
  waits := fun hopen => absurd hopen hclosed
  few := by
    rw [total_append, total_cons, total_nil]
    exact h.few

theorem initializes_breakerInv (h : s.BreakerInv) {force : Bool}
    (hop : Orderly s (.initializes force)) : (s.initializes force).BreakerInv := by
  unfold Client.initializes
  split_ifs with hopen hthrottled
  · exact h
  · rcases hop with hopen' | hreturns | ⟨hfew, -⟩
    · exact absurd hopen' hopen
    · rw [hthrottled.1] at hreturns
      exact absurd hreturns.1.symm Bool.false_ne_true
    · exact BreakerInv.append hopen rfl hfew
  · rcases hop with hopen' | hreturns | ⟨hfew, -⟩
    · exact absurd hopen' hopen
    · rcases hreturns with ⟨hforce, hinitialized, hfree⟩
      unfold Client.askLock
      rw [if_pos hfree]
      unfold Client.underLock
      rw [if_pos ⟨hinitialized, hforce⟩]
      unfold Client.move Client.BreakerInv
      dsimp only
      rw [set_concat_last]
      exact BreakerInv.append_done h hopen
    · exact askLock_breakerInv (s := { s with calls := s.calls ++ [InitCall.waiting force] })
        (BreakerInv.append hopen rfl hfew) List.getElem?_concat_length trivial force

theorem open_advance {seconds : ℚ} (hpos : 0 ≤ seconds)
    (hopen : { s with now := s.now + seconds }.Open) : s.Open := by
  unfold Client.Open at hopen ⊢
  split at hopen
  · next t ht =>
      have hset : s.circuitBreakerUntil = some t := ht
      have hlater : s.now + seconds < t := hopen
      rw [hset]
      show s.now < t
      linarith
  · exact absurd hopen id

theorem succeeds_breakerInv (h : s.BreakerInv) {force : Bool}
    (hi : s.calls[i]? = some (.attempting force)) : (s.succeeds i).BreakerInv where
  waits := fun hopen => absurd hopen id
  few := by
    have hset := total_set hi running .done
    have hdone : running .done = 0 := rfl
    have hattempting : running (.attempting force) = 1 := rfl
    have hcalls : (s.succeeds i).calls = s.calls.set i .done := rfl
    have hfailures : (s.succeeds i).consecutiveFailures = 0 := rfl
    rw [hcalls, hfailures]
    rcases h.few with hone | hfew
    · left
      omega
    · right
      omega

theorem attemptFails_breakerInv (h : s.BreakerInv) {force : Bool}
    (hi : s.calls[i]? = some (.attempting force)) : (s.attemptFails i).BreakerInv := by
  have hset := total_set hi running .done
  have hdone : running .done = 0 := rfl
  have hattempting : running (.attempting force) = 1 := rfl
  have hthreshold : cbThreshold = 3 := rfl
  unfold Client.attemptFails
  dsimp only
  split_ifs with hfailures
  · -- the breaker opens: the call that failed was the last
    rcases h.few with hone | hfew
    · constructor
      · intro _ c hc
        exact not_beforeAttempt_of_total (s.calls.set i .done) (by omega) hc
      · left
        unfold Client.move
        dsimp only
        omega
    · constructor
      · intro _ c hc
        exact not_beforeAttempt_of_total (s.calls.set i .done) (by omega) hc
      · left
        unfold Client.move
        dsimp only
        omega
  · constructor
    · intro hopen c hc
      rcases mem_set_cases hc with rfl | hold
      · exact id
      · exact h.waits hopen c hold
    · unfold Client.move
      dsimp only
      rcases h.few with hone | hfew
      · left
        omega
      · right
        omega

theorem initStep_breakerInv (h : s.BreakerInv) {op : InitOp} (hop : Orderly s op) :
    (initStep s op).BreakerInv := by
  cases op with
  | initializes force => exact initializes_breakerInv h hop
  | wake i =>
      simp only [initStep]
      split
      · next wake hi =>
          split_ifs
          · exact askLock_breakerInv h hi trivial true
          · exact h
      · exact h
  | resume i =>
      simp only [initStep]
      split
      · next force hi =>
          split_ifs
          · exact underLock_breakerInv (s := { s with lock := s.lock.resume }) h hi trivial force
          · exact h
      · exact h
  | closed i =>
      simp only [initStep]
      split
      · next hi =>
          exact BreakerInv.move h hi (h.not_open hi trivial) (.attempting true) (Nat.le_refl _)
      · exact h
  | connects i =>
      simp only [initStep]
      split <;> exact h
  | succeeds i =>
      simp only [initStep]
      split
      · next force hi => exact succeeds_breakerInv h hi
      · exact h
  | attemptFails i =>
      simp only [initStep]
      split
      · next force hi => exact attemptFails_breakerInv h hi
      · exact h
  | pingFails => exact h
  | advance seconds =>
      simp only [initStep]
      split_ifs with hpos
      · exact ⟨fun hopen => h.waits (open_advance hpos hopen), h.few⟩
      · exact h

end Breaker

/-!
# The throttle
-/

section Throttle

def Holds (c : InitCall) : Prop :=
  match c with
  | .closing => True
  | .attempting _ => True
  | _ => False

/-- Five seconds after the last forced call took the lock and after the last forced
attempt. -/
def ForcedDue (lastForced : ℚ) (forcedAttemptAt : Option ℚ) (time : ℚ) : Prop :=
  lastForced + minForcedReinitIntervalS ≤ time ∧
    forall t, forcedAttemptAt = some t -> t + minForcedReinitIntervalS ≤ time

theorem ForcedDue.mono {lastForced : ℚ} {forcedAttemptAt : Option ℚ} {time later : ℚ}
    (h : ForcedDue lastForced forcedAttemptAt time) (hle : time ≤ later) :
    ForcedDue lastForced forcedAttemptAt later :=
  ⟨h.1.trans hle, fun t ht => (h.2 t ht).trans hle⟩

/-- One call has the lock, and one forced call is on its way to it, five seconds after
the last. -/
structure ThrottleInv (now lastForced : ℚ) (forcedAttemptAt : Option ℚ)
    (calls : List InitCall) : Prop where
  holder : forall (i j : Nat) (c d : InitCall), calls[i]? = some c -> Holds c ->
    calls[j]? = some d -> Holds d -> i = j
  lone : forall (i j : Nat) (c d : InitCall), calls[i]? = some c -> ForcedBeforeLock c ->
    calls[j]? = some d -> ForcedBeforeLock d -> i = j
  sleeping : forall wake, InitCall.sleeping wake ∈ calls ->
    ForcedDue lastForced forcedAttemptAt wake
  waiting : InitCall.waiting true ∈ calls -> ForcedDue lastForced forcedAttemptAt now
  closing : InitCall.closing ∈ calls -> lastForced ≤ now ∧ forall t, forcedAttemptAt = some t ->
    t + minForcedReinitIntervalS ≤ lastForced

structure Client.ThrottleInv (s : Client) : Prop where
  calls : MetaApiBreaker.ThrottleInv s.now s.lastForcedInitAt s.forcedAttemptAt s.calls
  locked : forall c, c ∈ s.calls -> Holds c -> s.lock.locked = true

variable {s : Client} {now lastForced : ℚ} {forcedAttemptAt : Option ℚ} {calls : List InitCall}
  {i : Nat} {old new : InitCall}

theorem ThrottleInv.append (h : ThrottleInv now lastForced forcedAttemptAt calls)
    (new : InitCall) (hholds : ¬ Holds new)
    (hlone : ForcedBeforeLock new -> forall c, c ∈ calls -> ¬ ForcedBeforeLock c)
    (hsleeping : forall wake, new = .sleeping wake -> ForcedDue lastForced forcedAttemptAt wake)
    (hwaiting : new = .waiting true -> ForcedDue lastForced forcedAttemptAt now) :
    ThrottleInv now lastForced forcedAttemptAt (calls ++ [new]) where
  holder := by
    intro i j c d hi hc hj hd
    rcases getElem?_concat_cases hi with ⟨-, rfl⟩ | ⟨-, hi⟩
    · exact absurd hc hholds
    · rcases getElem?_concat_cases hj with ⟨-, rfl⟩ | ⟨-, hj⟩
      · exact absurd hd hholds
      · exact h.holder i j c d hi hc hj hd
  lone := by
    intro i j c d hi hc hj hd
    rcases getElem?_concat_cases hi with ⟨hilen, rfl⟩ | ⟨-, hi⟩
    · rcases getElem?_concat_cases hj with ⟨hjlen, -⟩ | ⟨-, hj⟩
      · rw [hilen, hjlen]
      · exact absurd hd (hlone hc d (List.mem_of_getElem? hj))
    · rcases getElem?_concat_cases hj with ⟨-, heq⟩ | ⟨-, hj⟩
      · rw [heq] at hd
        exact absurd hc (hlone hd c (List.mem_of_getElem? hi))
      · exact h.lone i j c d hi hc hj hd
  sleeping := by
    intro wake hmem
    rcases List.mem_append.mp hmem with hold | hnew
    · exact h.sleeping wake hold
    · exact hsleeping wake (List.mem_singleton.mp hnew).symm
  waiting := by
    intro hmem
    rcases List.mem_append.mp hmem with hold | hnew
    · exact h.waiting hold
    · exact hwaiting (List.mem_singleton.mp hnew).symm
  closing := by
    intro hmem
    rcases List.mem_append.mp hmem with hold | hnew
    · exact h.closing hold
    · rw [<- List.mem_singleton.mp hnew] at hholds
      exact absurd trivial hholds

theorem ThrottleInv.set (h : ThrottleInv now lastForced forcedAttemptAt calls)
    (hi : calls[i]? = some old) (new : InitCall)
    (hholds : Holds new -> forall j c, j ≠ i -> calls[j]? = some c -> ¬ Holds c)
    (hforced : ForcedBeforeLock new -> ForcedBeforeLock old)
    (hsleeping : forall wake, new ≠ .sleeping wake)
    (hwaiting : new = .waiting true -> ForcedDue lastForced forcedAttemptAt now)
    (hclosing : new = .closing -> lastForced ≤ now ∧ forall t, forcedAttemptAt = some t ->
      t + minForcedReinitIntervalS ≤ lastForced) :
    ThrottleInv now lastForced forcedAttemptAt (calls.set i new) where
  holder := by
    intro j k c d hj hc hk hd
    rcases getElem?_set_cases hj with ⟨hji, rfl⟩ | ⟨hji, hj⟩
    · rcases getElem?_set_cases hk with ⟨hki, -⟩ | ⟨hki, hk⟩
      · rw [hji, hki]
      · exact absurd hd (hholds hc k d hki hk)
    · rcases getElem?_set_cases hk with ⟨hki, heq⟩ | ⟨-, hk⟩
      · rw [heq] at hd
        exact absurd hc (hholds hd j c hji hj)
      · exact h.holder j k c d hj hc hk hd
  lone := by
    have hold : forall (j : Nat) (c : InitCall), (calls.set i new)[j]? = some c ->
        ForcedBeforeLock c -> exists c', calls[j]? = some c' ∧ ForcedBeforeLock c' := by
      intro j c hj hc
      rcases getElem?_set_cases hj with ⟨rfl, rfl⟩ | ⟨-, hj⟩
      · exact ⟨old, hi, hforced hc⟩
      · exact ⟨c, hj, hc⟩
    intro j k c d hj hc hk hd
    rcases hold j c hj hc with ⟨c', hj', hc'⟩
    rcases hold k d hk hd with ⟨d', hk', hd'⟩
    exact h.lone j k c' d' hj' hc' hk' hd'
  sleeping := by
    intro wake hmem
    rcases mem_set_cases hmem with heq | hmem
    · exact absurd heq.symm (hsleeping wake)
    · exact h.sleeping wake hmem
  waiting := by
    intro hmem
    rcases mem_set_cases hmem with heq | hmem
    · exact hwaiting heq.symm
    · exact h.waiting hmem
  closing := by
    intro hmem
    rcases mem_set_cases hmem with heq | hmem
    · exact hclosing heq.symm
    · exact h.closing hmem

theorem ThrottleInv.done (h : ThrottleInv now lastForced forcedAttemptAt calls)
    (hi : calls[i]? = some old) :
    ThrottleInv now lastForced forcedAttemptAt (calls.set i .done) :=
  h.set hi .done (fun hf => absurd hf id) (fun hf => absurd hf id) (fun _ heq => by cases heq)
    (fun heq => by cases heq) (fun heq => by cases heq)

/-- The times of forced calls change while none closes, and what is due stays so or no forced
call is on its way. -/
theorem ThrottleInv.retime (h : ThrottleInv now lastForced forcedAttemptAt calls)
    (lastForced' : ℚ) (attemptAt' : Option ℚ)
    (hdue : (forall time, ForcedDue lastForced forcedAttemptAt time ->
        ForcedDue lastForced' attemptAt' time) ∨
      forall c, c ∈ calls -> ¬ ForcedBeforeLock c)
    (hclosing : InitCall.closing ∉ calls) : ThrottleInv now lastForced' attemptAt' calls where
  holder := h.holder
  lone := h.lone
  sleeping := by
    intro wake hmem
    rcases hdue with hkept | hnone
    · exact hkept wake (h.sleeping wake hmem)
    · exact absurd trivial (hnone _ hmem)
  waiting := by
    intro hmem
    rcases hdue with hkept | hnone
    · exact hkept now (h.waiting hmem)
    · exact absurd rfl (hnone _ hmem)
  closing := fun hmem => absurd hmem hclosing

theorem ThrottleInv.forcedTakes (h : ThrottleInv now lastForced forcedAttemptAt calls)
    (hi : calls[i]? = some old) (hforced : ForcedBeforeLock old)
    (hfree : forall c, c ∈ calls -> ¬ Holds c)
    (hdue : ForcedDue lastForced forcedAttemptAt now) :
    ThrottleInv now now forcedAttemptAt (calls.set i .closing) ∧
      ThrottleInv now now (some now) (calls.set i (.attempting true)) := by
  have hdone := h.done hi
  have hget : (calls.set i .done)[i]? = some InitCall.done :=
    List.getElem?_set_self (List.getElem?_eq_some_iff.mp hi).1
  have hnone : forall c, c ∈ calls.set i .done -> ¬ ForcedBeforeLock c ∧ ¬ Holds c := by
    intro c hc
    rcases List.getElem?_of_mem hc with ⟨j, hj⟩
    rcases getElem?_set_cases hj with ⟨-, rfl⟩ | ⟨hne, hj⟩
    · exact ⟨id, id⟩
    · exact ⟨fun hf => hne (h.lone j i c old hj hf hi hforced), hfree c (List.mem_of_getElem? hj)⟩
  have halone : forall j c, j ≠ i -> (calls.set i .done)[j]? = some c -> ¬ Holds c :=
    fun j c _ hj => (hnone c (List.mem_of_getElem? hj)).2
  have hnoclosing : InitCall.closing ∉ calls.set i .done :=
    fun hmem => (hnone _ hmem).2 trivial
  have hnoforced : forall c, c ∈ calls.set i .done -> ¬ ForcedBeforeLock c :=
    fun c hc => (hnone c hc).1
  constructor
  · have htimes := hdone.retime now forcedAttemptAt (Or.inr hnoforced) hnoclosing
    have hset := htimes.set hget .closing (fun _ => halone) (fun hf => absurd hf id)
      (fun _ heq => by cases heq) (fun heq => by cases heq) (fun _ => ⟨le_refl now, hdue.2⟩)
    rw [List.set_set] at hset
    exact hset
  · have htimes := hdone.retime now (some now) (Or.inr hnoforced) hnoclosing
    have hset := htimes.set hget (.attempting true) (fun _ => halone)
      (fun hf => absurd hf id) (fun _ heq => by cases heq) (fun heq => by cases heq)
      (fun heq => by cases heq)
    rw [List.set_set] at hset
    exact hset

theorem ThrottleInv.forcedCloses (h : ThrottleInv now lastForced forcedAttemptAt calls)
    (hi : calls[i]? = some .closing)
    (hturn : now = lastForced ∨ forall c, c ∈ calls -> ¬ ForcedBeforeLock c) :
    ThrottleInv now lastForced (some now) (calls.set i (.attempting true)) := by
  have hget : (calls.set i .done)[i]? = some InitCall.done :=
    List.getElem?_set_self (List.getElem?_eq_some_iff.mp hi).1
  have halone : forall j c, j ≠ i -> (calls.set i .done)[j]? = some c -> ¬ Holds c := by
    intro j c hne hj hholds
    rw [List.getElem?_set_ne hne.symm] at hj
    exact hne (h.holder j i c .closing hj hholds hi trivial)
  have hnoclosing : InitCall.closing ∉ calls.set i .done := by
    intro hmem
    rcases List.getElem?_of_mem hmem with ⟨j, hj⟩
    rcases getElem?_set_cases hj with ⟨-, heq⟩ | ⟨hne, -⟩
    · cases heq
    · exact halone j .closing hne hj trivial
  have htimes : ThrottleInv now lastForced (some now) (calls.set i .done) := by
    refine (h.done hi).retime lastForced (some now) ?_ hnoclosing
    rcases hturn with rfl | hnone
    · refine Or.inl fun time hdue => ⟨hdue.1, ?_⟩
      intro t ht
      rw [<- Option.some.inj ht]
      exact hdue.1
    · right
      intro c hc
      rcases mem_set_cases hc with rfl | hold
      · exact id
      · exact hnone c hold
  have hset := htimes.set hget (.attempting true) (fun _ => halone)
    (fun hf => absurd hf id) (fun _ heq => by cases heq) (fun heq => by cases heq)
    (fun heq => by cases heq)
  rw [List.set_set] at hset
  exact hset

theorem mem_move {c d : InitCall} (h : d ∈ (s.move i c).calls) : d = c ∨ d ∈ s.calls :=
  mem_set_cases h

/-- What a call under the lock may rely on: nobody else has it, and a forced call comes
five seconds after the last. -/
structure Entitled (s : Client) (i : Nat) (force : Bool) : Prop where
  waits : exists old, s.calls[i]? = some old ∧ BeforeAttempt old ∧
    (force = true -> ForcedBeforeLock old ∧
      ForcedDue s.lastForcedInitAt s.forcedAttemptAt s.now)
  free : forall c, c ∈ s.calls -> ¬ Holds c
  locked : s.lock.locked = true

theorem underLock_throttleInv (h : s.ThrottleInv) {force : Bool} (hcall : Entitled s i force) :
    (s.underLock i force).ThrottleInv := by
  rcases hcall.waits with ⟨old, hi, -, hforced⟩
  unfold Client.underLock
  split_ifs with hreturns hforce hconnection
  · refine ⟨h.calls.done hi, ?_⟩
    intro c hc hholds
    rcases mem_move hc with rfl | hold
    · exact absurd hholds id
    · exact absurd hholds (hcall.free c hold)
  · rcases hforced hforce with ⟨hbefore, hdue⟩
    exact ⟨(h.calls.forcedTakes hi hbefore hcall.free hdue).1, fun _ _ _ => hcall.locked⟩
  · rcases hforced hforce with ⟨hbefore, hdue⟩
    exact ⟨(h.calls.forcedTakes hi hbefore hcall.free hdue).2, fun _ _ _ => hcall.locked⟩
  · refine ⟨?_, fun _ _ _ => hcall.locked⟩
    exact h.calls.set hi _ (fun _ j c _ hj => hcall.free c (List.mem_of_getElem? hj))
      (fun hf => absurd hf id) (fun _ heq => by cases heq) (fun heq => by cases heq)
      (fun heq => by cases heq)

theorem Client.ThrottleInv.free (h : s.ThrottleInv) (hunlocked : s.lock.locked = false)
    (c : InitCall) (hc : c ∈ s.calls) : ¬ Holds c := by
  intro hholds
  rw [h.locked c hc hholds] at hunlocked
  cases hunlocked

theorem askLock_throttleInv (h : s.ThrottleInv) {force : Bool} (hi : s.calls[i]? = some old)
    (hbefore : BeforeAttempt old)
    (hforced : force = true -> ForcedBeforeLock old ∧
      ForcedDue s.lastForcedInitAt s.forcedAttemptAt s.now) :
    (s.askLock i force).ThrottleInv := by
  unfold Client.askLock
  split_ifs with hfree
  · exact underLock_throttleInv (s := { s with lock := s.lock.take })
      ⟨h.calls, fun _ _ _ => rfl⟩ ⟨⟨old, hi, hbefore, hforced⟩, h.free hfree.1, rfl⟩
  · constructor
    · apply h.calls.set hi _ (fun hf => absurd hf id) _ (fun _ heq => by cases heq) _
        (fun heq => by cases heq)
      · exact fun hf => (hforced hf).1
      · intro heq
        cases heq
        exact (hforced rfl).2
    · intro c hc hhold
      rcases mem_move hc with rfl | hold
      · exact absurd hhold id
      · exact h.locked c hold hhold

theorem AttemptSettled.due (h : AttemptSettled s) {time : ℚ}
    (hlock : s.lastForcedInitAt + minForcedReinitIntervalS ≤ time) (hnow : s.now ≤ time) :
    ForcedDue s.lastForcedInitAt s.forcedAttemptAt time := by
  refine ⟨hlock, ?_⟩
  intro t ht
  unfold AttemptSettled at h
  rw [ht] at h
  exact h.trans (max_le hnow hlock)

theorem not_throttled {force : Bool} (h : ¬ s.Throttled force) (hforce : force = true)
    (hsettled : AttemptSettled s) : ForcedDue s.lastForcedInitAt s.forcedAttemptAt s.now := by
  have hle : minForcedReinitIntervalS ≤ s.now - s.lastForcedInitAt :=
    le_of_not_gt fun hlt => h ⟨hforce, hlt⟩
  exact hsettled.due (by linarith) (le_refl s.now)

theorem throttled_due {force : Bool} (h : s.Throttled force) (hsettled : AttemptSettled s) :
    ForcedDue s.lastForcedInitAt s.forcedAttemptAt
      (s.now + (minForcedReinitIntervalS - (s.now - s.lastForcedInitAt))) := by
  have hlt := h.2
  exact hsettled.due (by linarith) (by linarith)

theorem initializes_throttleInv (h : s.ThrottleInv) {force : Bool}
    (hop : Orderly s (.initializes force)) : (s.initializes force).ThrottleInv := by
  have hlone : ¬ s.Open -> force = true ->
      (forall c, c ∈ s.calls -> ¬ ForcedBeforeLock c) ∧ AttemptSettled s := by
    intro hopen hforce
    rcases hop with hopen' | hreturns | ⟨-, hlone⟩
    · exact absurd hopen' hopen
    · rw [hforce] at hreturns
      exact absurd hreturns.1.symm Bool.false_ne_true
    · exact hlone hforce
  unfold Client.initializes
  split_ifs with hopen hthrottled
  · exact h
  · constructor
    · rcases hlone hopen hthrottled.1 with ⟨hnone, hsettled⟩
      apply h.calls.append _ id (fun _ => hnone) _ (fun heq => by cases heq)
      intro wake heq
      cases heq
      exact throttled_due hthrottled hsettled
    · intro c hc hholds
      rcases List.mem_append.mp hc with hold | hnew
      · exact h.locked c hold hholds
      · rw [List.mem_singleton.mp hnew] at hholds
        exact absurd hholds id
  · apply askLock_throttleInv (s := { s with calls := s.calls ++ [InitCall.waiting force] }) _
      (List.getElem?_concat_length (a := InitCall.waiting force))
    · trivial
    · exact fun hforce => ⟨hforce, not_throttled hthrottled hforce (hlone hopen hforce).2⟩
    · constructor
      · apply h.calls.append (.waiting force) id (fun hforce => (hlone hopen hforce).1)
          (fun _ heq => by cases heq)
        intro heq
        cases heq
        exact not_throttled hthrottled rfl (hlone hopen rfl).2
      · intro c hc hholds
        rcases List.mem_append.mp hc with hold | hnew
        · exact h.locked c hold hholds
        · rw [List.mem_singleton.mp hnew] at hholds
          exact absurd hholds id

theorem release_throttleInv (h : s.ThrottleInv) {force : Bool}
    (hi : s.calls[i]? = some (.attempting force)) (c : InitCall) (hc : c ∈ s.calls.set i .done) :
    ¬ Holds c := by
  intro hholds
  rcases List.getElem?_of_mem hc with ⟨j, hj⟩
  rcases getElem?_set_cases hj with ⟨-, rfl⟩ | ⟨hne, hj⟩
  · exact hholds
  · exact hne (h.calls.holder j i c (.attempting force) hj hholds hi trivial)

theorem initStep_throttleInv (h : s.ThrottleInv) {op : InitOp} (hop : Orderly s op) :
    (initStep s op).ThrottleInv := by
  cases op with
  | initializes force => exact initializes_throttleInv h hop
  | wake i =>
      simp only [initStep]
      split
      · next wake hi =>
          split_ifs with hdue
          · apply askLock_throttleInv h hi trivial
            intro _
            exact ⟨trivial, (h.calls.sleeping wake (List.mem_of_getElem? hi)).mono hdue⟩
          · exact h
      · exact h
  | resume i =>
      simp only [initStep]
      split
      · next force hi =>
          split_ifs with hwakes
          · apply underLock_throttleInv (s := { s with lock := s.lock.resume })
            · exact ⟨h.calls, fun _ _ _ => rfl⟩
            · refine ⟨⟨_, hi, trivial, ?_⟩, h.free hwakes.1, rfl⟩
              rintro rfl
              exact ⟨rfl, h.calls.waiting (List.mem_of_getElem? hi)⟩
          · exact h
      · exact h
  | closed i =>
      simp only [initStep]
      split
      · next hi =>
          have hlocked := h.locked .closing (List.mem_of_getElem? hi) trivial
          exact ⟨h.calls.forcedCloses hi (hop hi), fun _ _ _ => hlocked⟩
      · exact h
  | connects i =>
      simp only [initStep]
      split
      · exact ⟨h.calls, h.locked⟩
      · exact h
  | succeeds i =>
      simp only [initStep]
      split
      · next force hi =>
          exact ⟨h.calls.done hi, fun c hc hholds =>
            absurd hholds (release_throttleInv h hi c hc)⟩
      · exact h
  | attemptFails i =>
      simp only [initStep]
      split
      · next force hi =>
          simp only [Client.attemptFails]
          split_ifs <;> exact ⟨h.calls.done hi, fun c hc hholds =>
            absurd hholds (release_throttleInv h hi c hc)⟩
      · exact h
  | pingFails => exact ⟨h.calls, h.locked⟩
  | advance seconds =>
      simp only [initStep]
      split_ifs with hpos
      · have hlater : s.now ≤ s.now + seconds := le_add_of_nonneg_right hpos
        refine ⟨{ h.calls with waiting := ?_, closing := ?_ }, h.locked⟩
        · exact fun hmem => (h.calls.waiting hmem).mono hlater
        · exact fun hmem => (h.calls.closing hmem).imp_left fun hle => hle.trans hlater
      · exact h

end Throttle

/-!
# Attempts
-/

section Attempts

variable {s : Client}

theorem ForcedDue.gap (h : ForcedDue s.lastForcedInitAt s.forcedAttemptAt s.now) :
    match s.forcedAttemptAt with
    | some t => t + minForcedReinitIntervalS ≤ s.now
    | none => True := by
  split
  · next t ht =>
      exact h.2 t ht
  · trivial

theorem startsUnderLock_eq {force force' : Bool} (h : startsUnderLock s force = some force') :
    force' = force := by
  unfold startsUnderLock at h
  split_ifs at h
  exact (Option.some.inj h).symm

theorem allowed_of_inv (hbreaker : s.BreakerInv) (h : s.ThrottleInv) {op : InitOp}
    (hop : Orderly s op) : Allowed s op := by
  unfold Allowed
  split
  · trivial
  · next force hstarts =>
      cases op with
      | initializes force' =>
          simp only [starts] at hstarts
          split_ifs at hstarts with hno
          rw [not_or, not_or] at hno
          rw [startsUnderLock_eq hstarts]
          refine ⟨hno.1, ?_⟩
          rintro rfl
          rcases hop with hopen | hreturns | ⟨-, hlone⟩
          · exact absurd hopen hno.1
          · exact absurd hreturns.1.symm Bool.false_ne_true
          · exact (not_throttled hno.2.1 rfl (hlone rfl).2).gap
      | wake i =>
          simp only [starts] at hstarts
          split at hstarts
          · next wake hi =>
              split_ifs at hstarts with hready
              have hdue := h.calls.sleeping wake (List.mem_of_getElem? hi)
              exact ⟨hbreaker.not_open hi trivial, fun _ => (hdue.mono hready.1).gap⟩
          · cases hstarts
      | resume i =>
          simp only [starts] at hstarts
          split at hstarts
          · next force' hi =>
              split_ifs at hstarts
              refine ⟨hbreaker.not_open hi trivial, ?_⟩
              rintro rfl
              rw [<- startsUnderLock_eq hstarts] at hi
              exact (h.calls.waiting (List.mem_of_getElem? hi)).gap
          · cases hstarts
      | closed i =>
          simp only [starts] at hstarts
          split at hstarts
          · next hi =>
              refine ⟨hbreaker.not_open hi trivial, fun _ => ?_⟩
              split
              · next t ht =>
                  rcases h.calls.closing (List.mem_of_getElem? hi) with ⟨hpast, hgap⟩
                  exact (hgap t ht).trans hpast
              · trivial
          · cases hstarts
      | connects _ => cases hstarts
      | succeeds _ => cases hstarts
      | attemptFails _ => cases hstarts
      | pingFails => cases hstarts
      | advance _ => cases hstarts

theorem breakerInv_new (now : ℚ) : (Client.new now).BreakerInv :=
  ⟨fun hopen => absurd hopen id, Or.inl (Nat.zero_le _)⟩

theorem throttleInv_new (now : ℚ) : (Client.new now).ThrottleInv := by
  refine ⟨⟨?_, ?_, ?_, ?_, ?_⟩, ?_⟩
  · intro i j c d hi
    cases hi
  · intro i j c d hi
    cases hi
  · intro wake hmem
    cases hmem
  · intro hmem
    cases hmem
  · intro hmem
    cases hmem
  · intro c hc
    cases hc

/-- In every run of orderly calls no attempt starts while the breaker is open, and forced
attempts start at least five seconds apart. -/
theorem breaker_holds_when_calls_are_orderly (now : ℚ) (ops : List InitOp)
    (horderly : EveryStep initStep Orderly (.new now) ops) :
    EveryStep initStep Allowed (.new now) ops := by
  apply everyStep_of_inv (fun s => s.BreakerInv ∧ s.ThrottleInv) _
    (fun s op h hop => allowed_of_inv h.1 h.2 hop) _ horderly
  · exact fun s op h hop => ⟨initStep_breakerInv h.1 hop, initStep_throttleInv h.2 hop⟩
  · exact ⟨breakerInv_new now, throttleInv_new now⟩

/-- Three calls in turn open the breaker; a fourth is refused, and one that comes after
the backoff connects.  The next forced call closes that connection for three seconds, and
the last one comes five seconds after its attempt. -/
theorem breaker_opens_and_closes :
    EveryStep initStep Allowed (.new 100)
      [.initializes false, .initializes true, .initializes false, .attemptFails 0, .resume 1,
        .attemptFails 1, .resume 2, .attemptFails 2, .initializes true, .advance 30,
        .initializes true, .connects 3, .succeeds 3, .advance 10, .initializes true, .advance 3,
        .closed 4, .connects 4, .succeeds 4, .advance 5, .initializes true, .closed 5] :=
  breaker_holds_when_calls_are_orderly 100 _ (by decide +kernel)

/-- Four calls at once: the third failure opens the breaker, and the fourth call, which
has passed it, attempts all the same. -/
theorem fourth_call_attempts_while_the_breaker_is_open :
    ¬ EveryStep initStep Allowed (.new 100)
      [.initializes false, .initializes false, .initializes false, .initializes false,
        .attemptFails 0, .resume 1, .attemptFails 1, .resume 2, .attemptFails 2, .resume 3] := by
  decide +kernel

end Attempts

end MetaApiBreaker
end Broker
end Shamarx
