import Mathlib.Data.List.TakeWhile
import Shamarx.Broker.PlaceOrder
import Shamarx.Orchestrator.Evaluate

/-!
# Order legs of an account

The strategy service sends one order for each leg of a signal, retries a failed
request, and closes what it cannot keep.  A leg is judged by what the broker
holds for it in the end.
-/

namespace Shamarx
namespace Live

open Foundation
open Broker
open Orchestrator

/-!
# The retry wrapper
-/

def maxAttempts : Nat := 3

def isClientError : Option Nat -> Bool
  | some status => decide (400 ≤ status ∧ status < 500)
  | none => false

/-- `attempts k` is what happens to the request of attempt `k`; no response is
the error the last attempt left. -/
def placeOrderForAccountWithRetry (orderType : Broker.OrderType) (attempts : Nat -> HttpAttempt) :
    Nat -> Nat -> Book -> Book × Option OrderResponse
  | 0, _, book => (book, none)
  | left + 1, attempt, book =>
      match postOrder orderType book (attempts attempt) with
      | (book', .ok response) => (book', some response)
      | (book', .error status) =>
          if isClientError status then (book', none)
          else placeOrderForAccountWithRetry orderType attempts left (attempt + 1) book'

/-- The request that ends the retries comes back with an accepted order. -/
def AttemptsHeard (orderType : Broker.OrderType) (attempts : Nat -> HttpAttempt) :
    Nat -> Nat -> Prop
  | 0, _ => False
  | left + 1, attempt =>
      match attempts attempt with
      | .unreached status =>
          isClientError status = false ∧ AttemptsHeard orderType attempts left (attempt + 1)
      | .answered order => order.Heard orderType
      | .lost _ status =>
          isClientError status = false ∧ AttemptsHeard orderType attempts left (attempt + 1)

/-- No request is carried out unheard, up to the one that ends the retries. -/
def AttemptsQuiet (orderType : Broker.OrderType) (attempts : Nat -> HttpAttempt) :
    Nat -> Nat -> Prop
  | 0, _ => True
  | left + 1, attempt =>
      match attempts attempt with
      | .unreached status =>
          isClientError status = false -> AttemptsQuiet orderType attempts left (attempt + 1)
      | .answered order => order.Quiet orderType
      | .lost order status =>
          (order.Quiet orderType ∧ ¬ order.Heard orderType) ∧
            (isClientError status = false ->
              AttemptsQuiet orderType attempts left (attempt + 1))

theorem retry_reports (orderType : Broker.OrderType) (attempts : Nat -> HttpAttempt)
    (left attempt : Nat) (book : Book) :
    Reports book.ids
      (placeOrderForAccountWithRetry orderType attempts left attempt book).1.ids
      ((placeOrderForAccountWithRetry orderType attempts left attempt book).2.bind
        (acceptedId orderType))
      (AttemptsHeard orderType attempts left attempt)
      (AttemptsQuiet orderType attempts left attempt) := by
  induction left generalizing attempt book with
  | zero =>
      exact Reports.silent book.ids
  | succ left ih =>
      cases hattempt : attempts attempt with
      | unreached status =>
          cases hstatus : isClientError status with
          | true =>
              simpa [placeOrderForAccountWithRetry, AttemptsHeard, AttemptsQuiet, hattempt,
                postOrder, hstatus] using Reports.silent book.ids
          | false =>
              simpa [placeOrderForAccountWithRetry, AttemptsHeard, AttemptsQuiet, hattempt,
                postOrder, hstatus] using ih (attempt + 1) book
      | answered order =>
          simpa [placeOrderForAccountWithRetry, AttemptsHeard, AttemptsQuiet, hattempt,
            postOrder] using placeAccountOrder_reports orderType book order
      | lost order status =>
          have hlost := (placeAccountOrder_reports orderType book order).lost
          cases hstatus : isClientError status with
          | true =>
              simpa [placeOrderForAccountWithRetry, AttemptsHeard, AttemptsQuiet, hattempt,
                postOrder, hstatus] using hlost
          | false =>
              simpa [placeOrderForAccountWithRetry, AttemptsHeard, AttemptsQuiet, hattempt,
                postOrder, hstatus] using
                hlost.followedBy (ih (attempt + 1) (placeAccountOrder orderType book order).1)

/-!
# Market legs
-/

inductive DupeLookup where
  | clear
  | dupe
  | throws
  deriving DecidableEq, Repr

/-- What happens around one leg: the duplicate lookup, the order requests, the
database writes, and whether a compensating close is carried out. -/
structure LegEnv where
  lookup : DupeLookup
  attempts : Nat -> HttpAttempt
  persists : Bool
  closes : Bool
  firstId : Nat
  firstId_pos : 0 < firstId

inductive LegVerdict where
  | placed (mt5Ticket : Option Nat)
  | failed
  deriving DecidableEq, Repr

structure LegState where
  book : Book
  verdict : LegVerdict

def LegEnv.emptyBook (env : LegEnv) : Book :=
  Book.empty env.firstId env.firstId_pos

/-- The order responses of the execution service carry no entry price. -/
def responseEntryPrice (_ : OrderResponse) : Option ℚ := none

def slippageFrac (signal : SmcLiveSignal) (order : OrderResponse) : ℚ :=
  let slPoints := |signal.entryPrice - signal.slPrice|
  let fillPrice := match responseEntryPrice order with
    | some price => if 0 < price then price else signal.entryPrice
    | none => signal.entryPrice
  let slippage := |fillPrice - signal.entryPrice|
  if 0 < slPoints then slippage / slPoints else 0

def bestEffortCloseForAccount (env : LegEnv) (book : Book) (mt5Ticket : Option Nat) : Book :=
  match mt5Ticket with
  | none => book
  | some ticket => if env.closes then book.closePosition ticket else book

/-- One pass of the leg loop, for a leg whose lookup does not throw. -/
def handleLeg (signal : SmcLiveSignal) (env : LegEnv) : LegState :=
  if env.lookup = .dupe then { book := env.emptyBook, verdict := .failed }
  else
    match placeOrderForAccountWithRetry .market env.attempts maxAttempts 1 env.emptyBook with
    | (book, none) => { book := book, verdict := .failed }
    | (book, some order) =>
        match positiveTicket order with
        | none => { book := book, verdict := .failed }
        | some ticket =>
            if 30 / 100 < slippageFrac signal order then
              { book := bestEffortCloseForAccount env book (some ticket), verdict := .failed }
            else if env.persists then { book := book, verdict := .placed (some ticket) }
            else
              { book := bestEffortCloseForAccount env book (some ticket), verdict := .failed }

def LegVerdict.isPlaced : LegVerdict -> Bool
  | .placed _ => true
  | .failed => false

def rollBackLeg (env : LegEnv) (state : LegState) : LegState :=
  match state.verdict with
  | .placed mt5Ticket =>
      { book := bestEffortCloseForAccount env state.book mt5Ticket, verdict := .failed }
  | .failed => state

/-- A throwing lookup ends the loop; the legs from there on are never handled. -/
def handledLegs (legs : List LegEnv) : List LegEnv :=
  legs.takeWhile fun env => env.lookup != .throws

structure LegsOutcome where
  states : List LegState
  successfulLegs : Option Nat

def placedCount (signal : SmcLiveSignal) (legs : List LegEnv) : Nat :=
  legs.countP fun env => (handleLeg signal env).verdict.isPlaced

def legEnvs (signal : SmcLiveSignal) (env : Nat -> LegEnv) : List LegEnv :=
  (List.range signal.legs.length).map env

/-- `placeOrderForAccount`, with `env k` around leg `k`; no leg count is the
exception of a lookup. -/
def placeOrderForAccount (signal : SmcLiveSignal) (env : Nat -> LegEnv) : LegsOutcome :=
  let legs := legEnvs signal env
  let handled := handledLegs legs
  let states := handled.map (handleLeg signal)
  let placed := placedCount signal handled
  if handled.length < legs.length then { states := states, successfulLegs := none }
  else if 0 < placed ∧ placed < legs.length then
    { states := handled.map fun env => rollBackLeg env (handleLeg signal env)
      successfulLegs := some 0 }
  else { states := states, successfulLegs := some placed }

/-- At most one position or resting order, and none behind a failed leg. -/
def LegSound (state : LegState) : Prop :=
  state.book.items.length ≤ 1 ∧ (state.verdict = .failed -> state.book.items = [])

theorem legSound_failed (book : Book) :
    LegSound { book := book, verdict := .failed } ↔ book.items = [] := by
  constructor
  · rintro ⟨-, hnone⟩
    exact hnone rfl
  · intro hnil
    refine ⟨?_, fun _ => hnil⟩
    rw [hnil]
    exact Nat.zero_le 1

theorem legSound_placed (book : Book) (mt5Ticket : Option Nat) :
    LegSound { book := book, verdict := .placed mt5Ticket } ↔ book.items.length ≤ 1 := by
  constructor
  · intro h
    exact h.1
  · intro hle
    refine ⟨hle, ?_⟩
    intro hfailed
    cases hfailed

theorem legSound_closed {env : LegEnv} {book : Book} {ticket : Nat} (h : ticket ∈ book.ids) :
    LegSound { book := bestEffortCloseForAccount env book (some ticket), verdict := .failed } ↔
      book.ids = [ticket] ∧ env.closes = true := by
  rw [legSound_failed]
  cases hcloses : env.closes with
  | true =>
      simp [bestEffortCloseForAccount, hcloses, book.items_closePosition_eq_nil_iff h]
  | false =>
      have hne : book.items ≠ [] := by
        intro hnil
        simp [Book.ids, hnil] at h
      simp [bestEffortCloseForAccount, hcloses, hne]

/-!
A leg is heard when its order comes back with a ticket, and quiet when nothing
is carried out besides.
-/

def LegEnv.Heard (env : LegEnv) : Prop :=
  env.lookup ≠ .dupe ∧ AttemptsHeard .market env.attempts maxAttempts 1

def LegEnv.Quiet (env : LegEnv) : Prop :=
  env.lookup ≠ .dupe -> AttemptsQuiet .market env.attempts maxAttempts 1

def LegEnv.Kept (env : LegEnv) : Prop :=
  env.Heard ∧ env.persists = true

theorem slippageFrac_eq_zero (signal : SmcLiveSignal) (order : OrderResponse) :
    slippageFrac signal order = 0 := by
  simp [slippageFrac, responseEntryPrice]

section Leg

variable (signal : SmcLiveSignal) (env : LegEnv)

/-- The two ways the requests of a leg end: without a ticket, or with the ticket of
an order that the broker holds. -/
theorem retry_cases (hdupe : env.lookup ≠ .dupe) :
    (¬ env.Heard ∧ exists book result,
      placeOrderForAccountWithRetry .market env.attempts maxAttempts 1 env.emptyBook =
        (book, result) ∧
      result.bind positiveTicket = none ∧ (book.items = [] ↔ env.Quiet)) ∨
    (env.Heard ∧ exists book order ticket,
      placeOrderForAccountWithRetry .market env.attempts maxAttempts 1 env.emptyBook =
        (book, some order) ∧
      positiveTicket order = some ticket ∧ ticket ∈ book.ids ∧
      (book.ids = [ticket] ↔ env.Quiet)) := by
  have hrep := retry_reports .market env.attempts maxAttempts 1 env.emptyBook
  have hnil : env.emptyBook.ids = [] := rfl
  rw [hnil] at hrep
  cases hout : placeOrderForAccountWithRetry .market env.attempts maxAttempts 1
      env.emptyBook with
  | mk book result =>
      rw [hout] at hrep
      cases hid : result.bind (acceptedId .market) with
      | none =>
          left
          rw [hid] at hrep
          refine ⟨fun h => absurd (hrep.heard.mpr h.2) (by simp), book, result, rfl, hid, ?_⟩
          have hquiet := hrep.quiet_iff
          simpa [Book.ids, LegEnv.Quiet, hdupe] using hquiet
      | some ticket =>
          right
          rw [hid] at hrep
          rcases Option.bind_eq_some_iff.mp hid with ⟨order, rfl, horder⟩
          refine ⟨⟨hdupe, hrep.heard.mp ⟨ticket, rfl⟩⟩, book, order, ticket, rfl, horder,
            hrep.mem_of_answer, ?_⟩
          simpa [LegEnv.Quiet, hdupe] using hrep.quiet_iff

/-- The two ways a leg ends: unheard and failed, or heard under a ticket that is
kept or closed again. -/
theorem handleLeg_cases :
    (¬ env.Heard ∧ exists book, handleLeg signal env = { book := book, verdict := .failed } ∧
      (book.items = [] ↔ env.Quiet)) ∨
    (env.Heard ∧ exists book ticket, ticket ∈ book.ids ∧ (book.ids = [ticket] ↔ env.Quiet) ∧
      handleLeg signal env =
        if env.persists then { book := book, verdict := .placed (some ticket) }
        else { book := bestEffortCloseForAccount env book (some ticket),
               verdict := .failed }) := by
  by_cases hdupe : env.lookup = .dupe
  · left
    refine ⟨fun h => h.1 hdupe, env.emptyBook, by simp [handleLeg, hdupe], ?_⟩
    simp [LegEnv.Quiet, hdupe, LegEnv.emptyBook, Book.empty]
  · rcases retry_cases env hdupe with
      ⟨hheard, book, result, hout, hticket, hquiet⟩ |
        ⟨hheard, book, order, ticket, hout, hticket, hmem, hquiet⟩
    · left
      refine ⟨hheard, book, ?_, hquiet⟩
      cases result with
      | none =>
          simp [handleLeg, hdupe, hout]
      | some order =>
          have hnone : positiveTicket order = none := hticket
          simp [handleLeg, hdupe, hout, hnone]
    · right
      refine ⟨hheard, book, ticket, hmem, hquiet, ?_⟩
      have hslip : ¬ (30 / 100 : ℚ) < slippageFrac signal order := by
        rw [slippageFrac_eq_zero]
        norm_num
      simp [handleLeg, hdupe, hout, hticket, hslip]

theorem isPlaced_handleLeg : (handleLeg signal env).verdict.isPlaced = true ↔ env.Kept := by
  rcases handleLeg_cases signal env with
    ⟨hheard, book, hleg, -⟩ | ⟨hheard, book, ticket, -, -, hleg⟩
  · simp [hleg, LegVerdict.isPlaced, LegEnv.Kept, hheard]
  · cases hpersists : env.persists <;>
      simp [hleg, LegVerdict.isPlaced, LegEnv.Kept, hheard, hpersists]

theorem legSound_handleLeg : LegSound (handleLeg signal env) ↔
    env.Quiet ∧ (env.Heard -> env.persists = false -> env.closes = true) := by
  rcases handleLeg_cases signal env with
    ⟨hheard, book, hleg, hquiet⟩ | ⟨hheard, book, ticket, hmem, hquiet, hleg⟩
  · rw [hleg, legSound_failed, hquiet]
    simp [hheard]
  · rw [hleg, ← hquiet]
    cases hpersists : env.persists with
    | true =>
        rw [if_pos rfl, legSound_placed, book.length_le_one_iff hmem]
        simp
    | false =>
        rw [if_neg (by simp), legSound_closed hmem]
        simp [hheard]

theorem legSound_rollBackLeg : LegSound (rollBackLeg env (handleLeg signal env)) ↔
    env.Quiet ∧ (env.Heard -> env.closes = true) := by
  rcases handleLeg_cases signal env with
    ⟨hheard, book, hleg, hquiet⟩ | ⟨hheard, book, ticket, hmem, hquiet, hleg⟩
  · rw [hleg, rollBackLeg, legSound_failed, hquiet]
    simp [hheard]
  · have hclosed : rollBackLeg env (handleLeg signal env) =
        { book := bestEffortCloseForAccount env book (some ticket), verdict := .failed } := by
      rw [hleg]
      cases env.persists <;> rfl
    rw [hclosed, legSound_closed hmem, hquiet]
    simp [hheard]

end Leg

/-!
# All legs of a signal
-/

/-- Some leg is not kept, so the service closes the ones that are. -/
def RollsBack (legs : List LegEnv) : Prop :=
  (forall env, env ∈ legs -> env.lookup ≠ .throws) ∧ exists env, env ∈ legs ∧ ¬ env.Kept

/-- No order of a handled leg is carried out unheard, and every compensating
close is carried out. -/
def LegsAccounted (legs : List LegEnv) : Prop :=
  forall env, env ∈ handledLegs legs ->
    env.Quiet ∧ (env.Heard -> (env.persists = false ∨ RollsBack legs) -> env.closes = true)

theorem handledLegs_eq_self {legs : List LegEnv}
    (h : forall env, env ∈ legs -> env.lookup ≠ .throws) : handledLegs legs = legs := by
  rw [handledLegs, List.takeWhile_eq_self_iff]
  intro env henv
  simpa using h env henv

theorem handledLegs_length_lt {legs : List LegEnv}
    (h : ¬ forall env, env ∈ legs -> env.lookup ≠ .throws) :
    (handledLegs legs).length < legs.length := by
  have hpre : handledLegs legs <+: legs := List.takeWhile_prefix _
  refine lt_of_le_of_ne hpre.length_le fun heq => h ?_
  have hself := hpre.eq_of_length heq
  rw [handledLegs, List.takeWhile_eq_self_iff] at hself
  intro env henv
  simpa using hself env henv

theorem placedCount_pos_iff (signal : SmcLiveSignal) (legs : List LegEnv) :
    0 < placedCount signal legs ↔ exists env, env ∈ legs ∧ env.Kept := by
  simp [placedCount, List.countP_pos_iff, isPlaced_handleLeg]

theorem placedCount_lt_iff (signal : SmcLiveSignal) (legs : List LegEnv) :
    placedCount signal legs < legs.length ↔ exists env, env ∈ legs ∧ ¬ env.Kept := by
  have hle : placedCount signal legs ≤ legs.length := List.countP_le_length
  have hall : placedCount signal legs = legs.length ↔ forall env, env ∈ legs -> env.Kept := by
    simp [placedCount, isPlaced_handleLeg]
  rw [lt_iff_le_and_ne, Ne, hall]
  simp [hle]

theorem market_legs_sound_iff (signal : SmcLiveSignal) (env : Nat -> LegEnv) :
    (forall state, state ∈ (placeOrderForAccount signal env).states -> LegSound state) ↔
      LegsAccounted (legEnvs signal env) := by
  generalize hlegs : legEnvs signal env = legs
  by_cases hthrow : forall leg, leg ∈ legs -> leg.lookup ≠ .throws
  · have hself := handledLegs_eq_self hthrow
    by_cases hpart : 0 < placedCount signal legs ∧ placedCount signal legs < legs.length
    · have hback : RollsBack legs := ⟨hthrow, (placedCount_lt_iff signal legs).mp hpart.2⟩
      simp only [placeOrderForAccount, hlegs, hself, lt_irrefl, if_false, if_pos hpart,
        LegsAccounted, hback, or_true, forall_const, List.forall_mem_map,
        legSound_rollBackLeg]
    · simp only [placeOrderForAccount, hlegs, hself, lt_irrefl, if_false, if_neg hpart,
        LegsAccounted, List.forall_mem_map, legSound_handleLeg]
      refine forall₂_congr fun leg hleg => and_congr_right fun _ => ?_
      refine forall_congr' fun hheard => ?_
      constructor
      · rintro h (hlost | hback)
        · exact h hlost
        · by_contra hopen
          have hkept : leg.Kept :=
            ⟨hheard, by_contra fun hnot => hopen (h (Bool.eq_false_of_not_eq_true hnot))⟩
          exact hpart ⟨(placedCount_pos_iff signal legs).mpr ⟨leg, hleg, hkept⟩,
            (placedCount_lt_iff signal legs).mpr hback.2⟩
      · intro h hlost
        exact h (Or.inl hlost)
  · have hshort := handledLegs_length_lt hthrow
    have hback : ¬ RollsBack legs := fun h => hthrow h.1
    simp only [placeOrderForAccount, hlegs, if_pos hshort, LegsAccounted, hback, or_false,
      List.forall_mem_map, legSound_handleLeg]

/-!
# Retrace legs

The limit orders of the retrace entry are parked one by one; there is nothing
to close again.
-/

def handleRetraceLeg (env : LegEnv) : LegState :=
  match placeOrderForAccountWithRetry .limit env.attempts maxAttempts 1 env.emptyBook with
  | (book, none) => { book := book, verdict := .failed }
  | (book, some res) =>
      let instantFill := res.status = .filled ∧ (positiveTicket res).isSome = true
      if res.status ≠ .pending ∧ ¬ instantFill then { book := book, verdict := .failed }
      else if env.persists then
        { book := book, verdict := .placed (if instantFill then res.mt5Ticket else none) }
      else { book := book, verdict := .failed }

def placeRetraceOrderForAccount (signal : SmcLiveSignal) (env : Nat -> LegEnv) : LegsOutcome :=
  let states := (legEnvs signal env).map handleRetraceLeg
  { states := states
    successfulLegs := some (states.countP fun state => state.verdict.isPlaced) }

/-- No order of a leg is carried out unheard, and every order that is heard is
written down. -/
def RetraceAccounted (legs : List LegEnv) : Prop :=
  forall env, env ∈ legs ->
    AttemptsQuiet .limit env.attempts maxAttempts 1 ∧
      (AttemptsHeard .limit env.attempts maxAttempts 1 -> env.persists = true)

theorem acceptedId_limit_eq_none_iff (res : OrderResponse) :
    acceptedId .limit res = none ↔
      res.status ≠ .pending ∧ ¬ (res.status = .filled ∧ (positiveTicket res).isSome = true) := by
  cases hstatus : res.status with
  | filled =>
      cases hticket : positiveTicket res <;> simp [acceptedId, hstatus, hticket]
  | pending =>
      simp [acceptedId, hstatus]
  | rejected =>
      simp [acceptedId, hstatus]

theorem legSound_handleRetraceLeg (env : LegEnv) : LegSound (handleRetraceLeg env) ↔
    AttemptsQuiet .limit env.attempts maxAttempts 1 ∧
      (AttemptsHeard .limit env.attempts maxAttempts 1 -> env.persists = true) := by
  have hrep := retry_reports .limit env.attempts maxAttempts 1 env.emptyBook
  have hnil : env.emptyBook.ids = [] := rfl
  rw [hnil] at hrep
  cases hout : placeOrderForAccountWithRetry .limit env.attempts maxAttempts 1
      env.emptyBook with
  | mk book result =>
      rw [hout] at hrep
      cases hid : result.bind (acceptedId .limit) with
      | none =>
          rw [hid] at hrep
          have hheard : ¬ AttemptsHeard .limit env.attempts maxAttempts 1 :=
            fun h => absurd (hrep.heard.mpr h) (by simp)
          have hleg : handleRetraceLeg env = { book := book, verdict := .failed } := by
            cases result with
            | none =>
                simp [handleRetraceLeg, hout]
            | some res =>
                have hskip := (acceptedId_limit_eq_none_iff res).mp hid
                simp only [handleRetraceLeg, hout]
                rw [if_pos hskip]
          rw [hleg, legSound_failed]
          simpa [Book.ids, hheard] using hrep.quiet_iff
      | some id =>
          rw [hid] at hrep
          have hmem : id ∈ book.ids := hrep.mem_of_answer
          have hheard := hrep.heard.mp ⟨id, rfl⟩
          have hquiet : book.ids = [id] ↔ AttemptsQuiet .limit env.attempts maxAttempts 1 :=
            hrep.quiet_iff
          have hne : book.items ≠ [] := by
            intro hempty
            simp [Book.ids, hempty] at hmem
          rcases Option.bind_eq_some_iff.mp hid with ⟨res, rfl, hres⟩
          have hkeep := mt (acceptedId_limit_eq_none_iff res).mpr (by simp [hres])
          simp only [handleRetraceLeg, hout]
          rw [if_neg hkeep]
          cases hpersists : env.persists with
          | true =>
              rw [if_pos rfl, legSound_placed, book.length_le_one_iff hmem, hquiet]
              simp
          | false =>
              rw [if_neg (by simp), legSound_failed]
              simp [hne, hheard]

/-- Every leg of a signal ends with at most one position or resting order, and
with none when it failed, exactly when no order is carried out unheard, the
compensating closes are carried out and the limit orders are written down. -/
theorem legs_sound_iff_accounted (signal : SmcLiveSignal) (env : Nat -> LegEnv) :
    ((forall state, state ∈ (placeOrderForAccount signal env).states -> LegSound state) ↔
      LegsAccounted (legEnvs signal env)) ∧
    ((forall state, state ∈ (placeRetraceOrderForAccount signal env).states ->
      LegSound state) ↔ RetraceAccounted (legEnvs signal env)) := by
  refine ⟨market_legs_sound_iff signal env, ?_⟩
  simp only [placeRetraceOrderForAccount, List.forall_mem_map, legSound_handleRetraceLeg,
    RetraceAccounted]

/-!
# A response lost after the fill
-/

def filledOnce : BrokerOrder :=
  .metaApi { ready := true, first := .result true, reconnects := true, second := .result true }

/-- The first response times out at the strategy service, the second arrives. -/
def lostThenFilled : Nat -> HttpAttempt := fun attempt =>
  if attempt = 1 then .lost filledOnce none else .answered filledOnce

def lostLeg : LegEnv :=
  { lookup := .clear
    attempts := lostThenFilled
    persists := true
    closes := true
    firstId := 1
    firstId_pos := Nat.one_pos }

def oneLegSignal : SmcLiveSignal :=
  { symbol := .XAUUSD
    side := .buy
    entryPrice := 2000
    slPrice := 1990
    tpPrice := 2040
    totalLot := 1 / 100
    legs := [{ lotSize := 1 / 100, tpPrice := 2040, setupTags := [.smc, .runner] }]
    mode := .reversal
    h1SweepTime := 1700000000000
    reason :=
      { mode := .reversal, direction := .buy, symbol := .XAUUSD, d1Adx := 0, d1Bias := .neutral,
        session := .london, ladder := false }
    smcContext := none }

/-- The retry opens a second position for a leg that counts as one trade. -/
theorem lost_response_opens_twice :
    ¬ forall state, state ∈ (placeOrderForAccount oneLegSignal fun _ => lostLeg).states ->
      LegSound state := by
  intro hsound
  have hlens : ((placeOrderForAccount oneLegSignal fun _ => lostLeg).states.map fun state =>
      state.book.items.length) = [2] := by
    decide +kernel
  have hmem : 2 ∈ (placeOrderForAccount oneLegSignal fun _ => lostLeg).states.map fun state =>
      state.book.items.length := by
    rw [hlens]
    exact List.mem_singleton.mpr rfl
  rcases List.mem_map.mp hmem with ⟨state, hstate, hlen⟩
  have hle := (hsound state hstate).1
  omega

end Live
end Shamarx
