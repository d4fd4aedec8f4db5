import Shamarx.Live.OrderLegs
import Shamarx.Live.PositionMonitor

/-!
# Trade rows of an order

The same legs with the rows they write: a leg that is kept has an open row, a
leg closed for its slippage an audit row.  An order is all or nothing when every
leg ends with an open row over one position, or none leaves either.
-/

namespace Shamarx
namespace Live

open Foundation
open Broker
open Orchestrator

/-- What happens around the writes of one leg, besides its order requests: the fill
price of the response and which of the calls go through. -/
structure RowEnv where
  leg : LegEnv
  entryPrice : Option ℚ
  candidateInsert : Bool
  tradeInsert : Bool
  publish : Bool
  auditInsert : Bool
  updates : Bool

structure RowState where
  book : Book
  row : Option TradeStatus
  placed : Option Nat

def fillSlippageFrac (signal : SmcLiveSignal) (entryPrice : Option ℚ) : ℚ :=
  let slPoints := |signal.entryPrice - signal.slPrice|
  let fillPrice := match entryPrice with
    | some price => if 0 < price then price else signal.entryPrice
    | none => signal.entryPrice
  let slippage := |fillPrice - signal.entryPrice|
  if 0 < slPoints then slippage / slPoints else 0

def ExcessiveSlippage (signal : SmcLiveSignal) (env : RowEnv) : Prop :=
  30 / 100 < fillSlippageFrac signal env.entryPrice

instance (signal : SmcLiveSignal) (env : RowEnv) : Decidable (ExcessiveSlippage signal env) :=
  inferInstanceAs (Decidable (_ < _))

/-- The row of a leg that the broker filled: the audit row of a close for slippage,
or the open row, which stays when only the publication fails. -/
def persistLeg (signal : SmcLiveSignal) (env : RowEnv) (book : Book) (ticket : Nat) : RowState :=
  let closed := bestEffortCloseForAccount env.leg book (some ticket)
  if ExcessiveSlippage signal env then
    { book := closed
      row := if env.auditInsert then some .closed else none
      placed := none }
  else if env.candidateInsert && env.tradeInsert then
    if env.publish then { book := book, row := some .open_, placed := some ticket }
    else { book := closed, row := some .open_, placed := none }
  else { book := closed, row := none, placed := none }

def handleLegRows (signal : SmcLiveSignal) (env : RowEnv) : RowState :=
  if env.leg.lookup = .dupe then { book := env.leg.emptyBook, row := none, placed := none }
  else
    match placeOrderForAccountWithRetry .market env.leg.attempts maxAttempts 1
        env.leg.emptyBook with
    | (book, none) => { book := book, row := none, placed := none }
    | (book, some order) =>
        match positiveTicket order with
        | none => { book := book, row := none, placed := none }
        | some ticket => persistLeg signal env book ticket

/-- The rollback knows the legs that were recorded as placed. -/
def rollBackRows (env : RowEnv) (state : RowState) : RowState :=
  match state.placed with
  | some ticket =>
      { book := bestEffortCloseForAccount env.leg state.book (some ticket)
        row := if env.updates then some .closed else state.row
        placed := none }
  | none => state

def rowEnvs (signal : SmcLiveSignal) (env : Nat -> RowEnv) : List RowEnv :=
  (List.range signal.legs.length).map env

def handledRows (legs : List RowEnv) : List RowEnv :=
  legs.takeWhile fun env => env.leg.lookup != .throws

def recordedCount (signal : SmcLiveSignal) (legs : List RowEnv) : Nat :=
  legs.countP fun env => (handleLegRows signal env).placed.isSome

structure RowsOutcome where
  states : List RowState
  successfulLegs : Option Nat

def placeOrderRows (signal : SmcLiveSignal) (env : Nat -> RowEnv) : RowsOutcome :=
  let legs := rowEnvs signal env
  let handled := handledRows legs
  let placed := recordedCount signal handled
  if handled.length < legs.length then
    { states := handled.map (handleLegRows signal), successfulLegs := none }
  else if 0 < placed ∧ placed < legs.length then
    { states := handled.map fun env => rollBackRows env (handleLegRows signal env)
      successfulLegs := some 0 }
  else { states := handled.map (handleLegRows signal), successfulLegs := some placed }

/-- Every leg has its open row and its position, or nothing is left of any. -/
def AllOrNothing (signal : SmcLiveSignal) (outcome : RowsOutcome) : Prop :=
  (outcome.successfulLegs = some signal.legs.length ∧
      outcome.states.length = signal.legs.length ∧
      forall state, state ∈ outcome.states ->
        state.row = some .open_ ∧ state.book.items.length = 1) ∨
    (outcome.successfulLegs = some 0 ∧
      forall state, state ∈ outcome.states ->
        state.row ≠ some .open_ ∧ state.book.items = [])

instance (signal : SmcLiveSignal) (outcome : RowsOutcome) :
    Decidable (AllOrNothing signal outcome) :=
  inferInstanceAs (Decidable (_ ∨ _))

/-!
# The model of the legs below

Without a fill price in the response a leg does here what it does in the model
of the order legs, where the three writes are one.
-/

def RowEnv.toLegEnv (env : RowEnv) : LegEnv :=
  { env.leg with persists := env.candidateInsert && env.tradeInsert && env.publish }

def RowState.toLegState (state : RowState) : LegState :=
  { book := state.book
    verdict := match state.placed with
      | some ticket => .placed (some ticket)
      | none => .failed }

theorem handleLegRows_refines (signal : SmcLiveSignal) (env : RowEnv)
    (hprice : env.entryPrice = none) :
    (handleLegRows signal env).toLegState = handleLeg signal env.toLegEnv := by
  have hslip : ¬ ExcessiveSlippage signal env := by
    simp [ExcessiveSlippage, fillSlippageFrac, hprice]
    norm_num
  unfold handleLegRows handleLeg
  by_cases hdupe : env.leg.lookup = .dupe
  · rw [if_pos hdupe, if_pos (show env.toLegEnv.lookup = .dupe from hdupe)]
    rfl
  · rw [if_neg hdupe, if_neg (show ¬ env.toLegEnv.lookup = .dupe from hdupe)]
    rcases retry_cases env.leg hdupe with
      ⟨-, book, result, hout, hticket, -⟩ | ⟨-, book, order, ticket, hout, hticket, -, -⟩
    · have hout' : placeOrderForAccountWithRetry .market env.toLegEnv.attempts maxAttempts 1
          env.toLegEnv.emptyBook = (book, result) := hout
      rw [hout, hout']
      cases result with
      | none =>
          rfl
      | some order =>
          have hnone : positiveTicket order = none := hticket
          simp only [hnone]
          rfl
    · have hout' : placeOrderForAccountWithRetry .market env.toLegEnv.attempts maxAttempts 1
          env.toLegEnv.emptyBook = (book, some order) := hout
      have hzero : ¬ (30 / 100 : ℚ) < slippageFrac signal order := by
        rw [slippageFrac_eq_zero]
        norm_num
      rw [hout, hout']
      simp only [hticket]
      rw [if_neg hzero, persistLeg, if_neg hslip]
      cases hcandidate : env.candidateInsert <;> cases htrade : env.tradeInsert <;>
        cases hpublish : env.publish <;>
        simp [RowState.toLegState, RowEnv.toLegEnv, hcandidate, htrade, hpublish,
          bestEffortCloseForAccount]

/-!
# One leg
-/

/-- The leg is filled within the slippage limit and its open row is written. -/
def Inserted (signal : SmcLiveSignal) (env : RowEnv) : Prop :=
  env.leg.Heard ∧ ¬ ExcessiveSlippage signal env ∧ env.candidateInsert = true ∧
    env.tradeInsert = true

def Recorded (signal : SmcLiveSignal) (env : RowEnv) : Prop :=
  Inserted signal env ∧ env.publish = true

def Unannounced (signal : SmcLiveSignal) (env : RowEnv) : Prop :=
  Inserted signal env ∧ env.publish = false

section Leg

variable (signal : SmcLiveSignal) (env : RowEnv)

theorem handleLegRows_cases :
    (¬ env.leg.Heard ∧ exists book,
      handleLegRows signal env = { book := book, row := none, placed := none } ∧
      (book.items = [] ↔ env.leg.Quiet)) ∨
    (env.leg.Heard ∧ exists book ticket, ticket ∈ book.ids ∧
      (book.ids = [ticket] ↔ env.leg.Quiet) ∧
      handleLegRows signal env = persistLeg signal env book ticket) := by
  by_cases hdupe : env.leg.lookup = .dupe
  · left
    refine ⟨fun h => h.1 hdupe, env.leg.emptyBook, by simp [handleLegRows, hdupe], ?_⟩
    simp [LegEnv.Quiet, hdupe, LegEnv.emptyBook, Book.empty]
  · rcases retry_cases env.leg hdupe with
      ⟨hheard, book, result, hout, hticket, hquiet⟩ |
        ⟨hheard, book, order, ticket, hout, hticket, hmem, hquiet⟩
    · left
      refine ⟨hheard, book, ?_, hquiet⟩
      cases result with
      | none =>
          simp [handleLegRows, hdupe, hout]
      | some order =>
          have hnone : positiveTicket order = none := hticket
          simp [handleLegRows, hdupe, hout, hnone]
    · right
      refine ⟨hheard, book, ticket, hmem, hquiet, ?_⟩
      simp [handleLegRows, hdupe, hout, hticket]

/-- How a leg ends, when its compensating close is carried out: recorded under its
ticket, or closed again with an open row left exactly when it is unannounced. -/
theorem handleLegRows_ends (hcloses : env.leg.closes = true) :
    (Recorded signal env ∧ exists book ticket, ticket ∈ book.ids ∧
      (book.ids = [ticket] ↔ env.leg.Quiet) ∧
      handleLegRows signal env =
        { book := book, row := some .open_, placed := some ticket }) ∨
    (¬ Recorded signal env ∧ (handleLegRows signal env).placed = none ∧
      ((handleLegRows signal env).book.items = [] ↔ env.leg.Quiet) ∧
      ((handleLegRows signal env).row = some .open_ ↔ Unannounced signal env)) := by
  rcases handleLegRows_cases signal env with
    ⟨hheard, book, hleg, hquiet⟩ | ⟨hheard, book, ticket, hmem, hquiet, hleg⟩
  · right
    rw [hleg]
    refine ⟨fun h => hheard h.1.1, rfl, hquiet, ?_⟩
    simp [Unannounced, Inserted, hheard]
  · have hclosed : (bestEffortCloseForAccount env.leg book (some ticket)).items = [] ↔
        env.leg.Quiet := by
      rw [← hquiet, ← book.items_closePosition_eq_nil_iff hmem]
      simp [bestEffortCloseForAccount, hcloses]
    rw [hleg]
    unfold persistLeg
    by_cases hslip : ExcessiveSlippage signal env
    · right
      rw [if_pos hslip]
      refine ⟨fun h => h.1.2.1 hslip, rfl, hclosed, ?_⟩
      cases env.auditInsert <;> simp [Unannounced, Inserted, hslip]
    · rw [if_neg hslip]
      cases hinsert : env.candidateInsert && env.tradeInsert with
      | false =>
          right
          have hnot : ¬ Inserted signal env := by
            rintro ⟨-, -, hcandidate, htrade⟩
            rw [hcandidate, htrade] at hinsert
            cases hinsert
          rw [if_neg (by simp)]
          refine ⟨fun h => hnot h.1, rfl, hclosed, ?_⟩
          simp [Unannounced, hnot]
      | true =>
          rw [Bool.and_eq_true] at hinsert
          have hrow : Inserted signal env := ⟨hheard, hslip, hinsert⟩
          rw [if_pos rfl]
          cases hpublish : env.publish with
          | true =>
              left
              exact ⟨⟨hrow, hpublish⟩, book, ticket, hmem, hquiet, rfl⟩
          | false =>
              right
              refine ⟨?_, rfl, hclosed, ?_⟩
              · rintro ⟨-, hpublished⟩
                rw [hpublish] at hpublished
                cases hpublished
              · simp [Unannounced, hrow, hpublish]

theorem placed_isSome_iff (hcloses : env.leg.closes = true) :
    (handleLegRows signal env).placed.isSome = true ↔ Recorded signal env := by
  rcases handleLegRows_ends signal env hcloses with
    ⟨hrec, book, ticket, -, -, hleg⟩ | ⟨hrec, hnone, -, -⟩
  · simp [hleg, hrec]
  · simp [hnone, hrec]

/-- The leg has its order carried out only where it is heard, and is not left with
an open row over a closed position. -/
def Settled : Prop :=
  env.leg.Quiet ∧ ¬ Unannounced signal env

variable {signal env}

theorem Recorded.not_unannounced (hrec : Recorded signal env) : ¬ Unannounced signal env := by
  rintro ⟨-, hpublish⟩
  rw [hrec.2] at hpublish
  cases hpublish

theorem recorded_whole_iff (hcloses : env.leg.closes = true) (hrec : Recorded signal env) :
    ((handleLegRows signal env).row = some .open_ ∧
      (handleLegRows signal env).book.items.length = 1) ↔ Settled signal env := by
  rcases handleLegRows_ends signal env hcloses with
    ⟨-, book, ticket, hmem, hquiet, hleg⟩ | ⟨hnot, -⟩
  · have hpos : 0 < book.items.length := by
      have hids := List.length_pos_of_mem hmem
      rwa [Book.ids, List.length_map] at hids
    have hone : book.items.length = 1 ↔ book.items.length ≤ 1 := by omega
    rw [hleg, Settled, ← hquiet, ← book.length_le_one_iff hmem, hone]
    simp [hrec.not_unannounced]
  · exact absurd hrec hnot

theorem unrecorded_clear_iff (hcloses : env.leg.closes = true)
    (hrec : ¬ Recorded signal env) :
    ((handleLegRows signal env).row ≠ some .open_ ∧
      (handleLegRows signal env).book.items = []) ↔ Settled signal env := by
  rcases handleLegRows_ends signal env hcloses with ⟨hyes, -⟩ | ⟨-, -, hquiet, hrow⟩
  · exact absurd hyes hrec
  · rw [Ne, hrow, hquiet, Settled, and_comm]

theorem rolledBack_clear_iff (hcloses : env.leg.closes = true) (hupdates : env.updates = true) :
    ((rollBackRows env (handleLegRows signal env)).row ≠ some .open_ ∧
      (rollBackRows env (handleLegRows signal env)).book.items = []) ↔ Settled signal env := by
  by_cases hrec : Recorded signal env
  · rcases handleLegRows_ends signal env hcloses with
      ⟨-, book, ticket, hmem, hquiet, hleg⟩ | ⟨hnot, -⟩
    · rw [hleg, Settled, ← hquiet, ← book.items_closePosition_eq_nil_iff hmem]
      simp [rollBackRows, bestEffortCloseForAccount, hcloses, hupdates, hrec.not_unannounced]
    · exact absurd hrec hnot
  · rcases handleLegRows_ends signal env hcloses with ⟨hyes, -⟩ | ⟨-, hnone, -, -⟩
    · exact absurd hyes hrec
    · have hsame : rollBackRows env (handleLegRows signal env) = handleLegRows signal env := by
        unfold rollBackRows
        rw [hnone]
      rw [hsame]
      exact unrecorded_clear_iff hcloses hrec

end Leg

/-!
# All legs
-/

/-- Every compensating close and status update goes through. -/
def Compensates (legs : List RowEnv) : Prop :=
  forall env, env ∈ legs -> env.leg.closes = true ∧ env.updates = true

theorem handledRows_eq_self_iff (legs : List RowEnv) :
    handledRows legs = legs ↔ forall env, env ∈ legs -> env.leg.lookup ≠ .throws := by
  rw [handledRows, List.takeWhile_eq_self_iff]
  simp

theorem handledRows_length_lt {legs : List RowEnv}
    (h : ¬ forall env, env ∈ legs -> env.leg.lookup ≠ .throws) :
    (handledRows legs).length < legs.length := by
  have hpre : handledRows legs <+: legs := List.takeWhile_prefix _
  refine lt_of_le_of_ne hpre.length_le fun heq => h ?_
  exact (handledRows_eq_self_iff legs).mp (hpre.eq_of_length heq)

theorem recordedCount_eq_length_iff {signal : SmcLiveSignal} {legs : List RowEnv}
    (hcomp : Compensates legs) :
    recordedCount signal legs = legs.length ↔
      forall env, env ∈ legs -> Recorded signal env := by
  rw [recordedCount, List.countP_eq_length]
  exact forall₂_congr fun env henv => placed_isSome_iff signal env (hcomp env henv).1

theorem recordedCount_eq_zero_iff {signal : SmcLiveSignal} {legs : List RowEnv}
    (hcomp : Compensates legs) :
    recordedCount signal legs = 0 ↔ forall env, env ∈ legs -> ¬ Recorded signal env := by
  rw [recordedCount, List.countP_eq_zero]
  exact forall₂_congr fun env henv => not_congr (placed_isSome_iff signal env (hcomp env henv).1)

section Order

variable {signal : SmcLiveSignal} {env : Nat -> RowEnv}

theorem rowEnvs_length : (rowEnvs signal env).length = signal.legs.length := by
  simp [rowEnvs]

theorem placeOrderRows_throws
    (h : ¬ forall leg, leg ∈ rowEnvs signal env -> leg.leg.lookup ≠ .throws) :
    (placeOrderRows signal env).successfulLegs = none := by
  unfold placeOrderRows
  dsimp only
  rw [if_pos (handledRows_length_lt h)]

theorem placeOrderRows_handled
    (h : forall leg, leg ∈ rowEnvs signal env -> leg.leg.lookup ≠ .throws) :
    placeOrderRows signal env =
      if 0 < recordedCount signal (rowEnvs signal env) ∧
          recordedCount signal (rowEnvs signal env) < signal.legs.length then
        { states := (rowEnvs signal env).map fun leg =>
            rollBackRows leg (handleLegRows signal leg)
          successfulLegs := some 0 }
      else
        { states := (rowEnvs signal env).map (handleLegRows signal)
          successfulLegs := some (recordedCount signal (rowEnvs signal env)) } := by
  unfold placeOrderRows
  dsimp only
  rw [(handledRows_eq_self_iff _).mpr h, if_neg (lt_irrefl _), rowEnvs_length]

theorem allOrNothing_rolledBack (hcomp : Compensates (rowEnvs signal env))
    (hsome : signal.legs.length ≠ 0) :
    AllOrNothing signal
        { states := (rowEnvs signal env).map fun leg =>
            rollBackRows leg (handleLegRows signal leg)
          successfulLegs := some 0 } ↔
      forall leg, leg ∈ rowEnvs signal env -> Settled signal leg := by
  have hne : ¬ some 0 = some signal.legs.length := by
    intro h
    exact hsome (Option.some.inj h).symm
  simp only [AllOrNothing, hne, false_and, false_or, true_and, List.forall_mem_map]
  exact forall₂_congr fun leg hleg =>
    rolledBack_clear_iff (hcomp leg hleg).1 (hcomp leg hleg).2

theorem allOrNothing_unrecorded (hcomp : Compensates (rowEnvs signal env))
    (hnone : forall leg, leg ∈ rowEnvs signal env -> ¬ Recorded signal leg)
    (hsome : signal.legs.length ≠ 0) :
    AllOrNothing signal
        { states := (rowEnvs signal env).map (handleLegRows signal)
          successfulLegs := some 0 } ↔
      forall leg, leg ∈ rowEnvs signal env -> Settled signal leg := by
  have hne : ¬ some 0 = some signal.legs.length := by
    intro h
    exact hsome (Option.some.inj h).symm
  simp only [AllOrNothing, hne, false_and, false_or, true_and, List.forall_mem_map]
  exact forall₂_congr fun leg hleg =>
    unrecorded_clear_iff (hcomp leg hleg).1 (hnone leg hleg)

theorem allOrNothing_recorded (hcomp : Compensates (rowEnvs signal env))
    (hall : forall leg, leg ∈ rowEnvs signal env -> Recorded signal leg) :
    AllOrNothing signal
        { states := (rowEnvs signal env).map (handleLegRows signal)
          successfulLegs := some signal.legs.length } ↔
      forall leg, leg ∈ rowEnvs signal env -> Settled signal leg := by
  have hwhole : (forall leg, leg ∈ rowEnvs signal env ->
      (handleLegRows signal leg).row = some .open_ ∧
        (handleLegRows signal leg).book.items.length = 1) ↔
      forall leg, leg ∈ rowEnvs signal env -> Settled signal leg :=
    forall₂_congr fun leg hleg => recorded_whole_iff (hcomp leg hleg).1 (hall leg hleg)
  simp only [AllOrNothing, true_and, List.length_map, rowEnvs_length, List.forall_mem_map]
  rw [hwhole]
  constructor
  · rintro (hsettled | ⟨hzero, -⟩)
    · exact hsettled
    · have hempty : rowEnvs signal env = [] := by
        rw [← List.length_eq_zero_iff, rowEnvs_length]
        exact Option.some.inj hzero
      simp [hempty]
  · exact Or.inl

/-- Where the compensations go through, an order is all or nothing exactly when no
duplicate lookup throws, no order is carried out unheard, and no leg whose row is
written fails to publish it. -/
theorem order_all_or_nothing_iff (signal : SmcLiveSignal) (env : Nat -> RowEnv)
    (hcomp : Compensates (rowEnvs signal env)) :
    AllOrNothing signal (placeOrderRows signal env) ↔
      forall leg, leg ∈ rowEnvs signal env ->
        leg.leg.lookup ≠ .throws ∧ leg.leg.Quiet ∧ ¬ Unannounced signal leg := by
  by_cases hthrow : forall leg, leg ∈ rowEnvs signal env -> leg.leg.lookup ≠ .throws
  · have hgoal : (forall leg, leg ∈ rowEnvs signal env ->
        leg.leg.lookup ≠ .throws ∧ leg.leg.Quiet ∧ ¬ Unannounced signal leg) ↔
          forall leg, leg ∈ rowEnvs signal env -> Settled signal leg :=
      forall₂_congr fun leg hleg => and_iff_right (hthrow leg hleg)
    have hle : recordedCount signal (rowEnvs signal env) ≤ signal.legs.length := by
      rw [← rowEnvs_length]
      exact List.countP_le_length
    rw [hgoal, placeOrderRows_handled hthrow]
    by_cases hpart : 0 < recordedCount signal (rowEnvs signal env) ∧
        recordedCount signal (rowEnvs signal env) < signal.legs.length
    · rw [if_pos hpart]
      exact allOrNothing_rolledBack hcomp (by omega)
    · rw [if_neg hpart]
      by_cases hall : recordedCount signal (rowEnvs signal env) = signal.legs.length
      · rw [hall]
        rw [← rowEnvs_length, recordedCount_eq_length_iff hcomp] at hall
        exact allOrNothing_recorded hcomp hall
      · have hzero : recordedCount signal (rowEnvs signal env) = 0 := by omega
        have hsome : signal.legs.length ≠ 0 := by omega
        rw [hzero]
        exact allOrNothing_unrecorded hcomp ((recordedCount_eq_zero_iff hcomp).mp hzero) hsome
  · constructor
    · intro hdone
      have hnone := placeOrderRows_throws hthrow
      rcases hdone with ⟨hcount, -⟩ | ⟨hcount, -⟩
      · rw [hnone] at hcount
        cases hcount
      · rw [hnone] at hcount
        cases hcount
    · intro hsettled
      exact absurd (fun leg hleg => (hsettled leg hleg).1) hthrow

end Order

/-!
# A publication lost after the insert
-/

/-- The order is filled at the first request and every write goes through, the
publication apart. -/
def filledRow (publish : Bool) : RowEnv :=
  { leg :=
      { lookup := .clear
        attempts := fun _ => .answered filledOnce
        persists := true
        closes := true
        firstId := 1
        firstId_pos := Nat.one_pos }
    entryPrice := none
    candidateInsert := true
    tradeInsert := true
    publish := publish
    auditInsert := true
    updates := true }

theorem filledRow_compensates (publish : Bool) :
    Compensates (rowEnvs oneLegSignal fun _ => filledRow publish) := by
  intro leg hleg
  rcases List.mem_map.mp hleg with ⟨k, -, rfl⟩
  exact ⟨rfl, rfl⟩

theorem published_order_is_whole :
    Compensates (rowEnvs oneLegSignal fun _ => filledRow true) ∧
      AllOrNothing oneLegSignal (placeOrderRows oneLegSignal fun _ => filledRow true) := by
  refine ⟨filledRow_compensates true, ?_⟩
  apply (order_all_or_nothing_iff oneLegSignal _ (filledRow_compensates true)).mpr
  intro leg hleg
  rcases List.mem_map.mp hleg with ⟨k, -, rfl⟩
  refine ⟨?_, ?_, ?_⟩
  · decide
  · intro _
    simp [filledRow, maxAttempts, AttemptsQuiet, filledOnce, BrokerOrder.Quiet,
      MetaApiOrder.Quiet, MetaApiCall.Quiet, MetaApiCall.Resent]
  · rintro ⟨-, hpublish⟩
    cases hpublish

/-- The position is closed again and the open row of the trade stays. -/
theorem unpublished_row_stays_open :
    Compensates (rowEnvs oneLegSignal fun _ => filledRow false) ∧
      ¬ AllOrNothing oneLegSignal (placeOrderRows oneLegSignal fun _ => filledRow false) := by
  refine ⟨filledRow_compensates false, ?_⟩
  decide +kernel

end Live
end Shamarx
