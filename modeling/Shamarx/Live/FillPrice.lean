import Shamarx.Live.TradeRows

/-!
# The fill price on its way to the slippage guard

The broker reports a fill with its price; the adapter answers with an
`OrderResponse`, which crosses the wire as JSON, and the strategy service looks
`entryPrice` up in what it receives.
-/

namespace Shamarx
namespace Live

open Broker
open Orchestrator

/-!
# Answers on the wire
-/

inductive FillReport where
  | ctrader (executionPrice positionPrice : Option ℚ)
  | metaApi (price : ℚ)
  | mt5 (fill : ℚ)

/-- `deal.get('executionPrice') or position.get('price')`, where zero counts as
missing. -/
def ctraderFillPrice (executionPrice positionPrice : Option ℚ) : Option ℚ :=
  match executionPrice with
  | some price => if price = 0 then positionPrice else some price
  | none => positionPrice

def FillReport.price : FillReport -> Option ℚ
  | .ctrader executionPrice positionPrice => ctraderFillPrice executionPrice positionPrice
  | .metaApi price => some price
  | .mt5 fill => some fill

inductive AnswerText where
  | orderId (id : Option Nat)
  | status (status : OrderStatus)
  | orderFilledAt (price : Option ℚ)
  | filledViaMetaApi
  | filledAt (price : ℚ)
  | reason

inductive WireValue where
  | null
  | number (value : ℚ)
  | text (text : AnswerText)

abbrev Wire : Type := List (String × WireValue)

def FillReport.message : FillReport -> AnswerText
  | .ctrader executionPrice positionPrice =>
      .orderFilledAt (ctraderFillPrice executionPrice positionPrice)
  | .metaApi _ => .filledViaMetaApi
  | .mt5 fill => .filledAt fill

def answerMessage (report : FillReport) (response : OrderResponse) : AnswerText :=
  match response.status with
  | .filled => report.message
  | _ => .reason

def orderResponseJson (response : OrderResponse) (message : AnswerText) : Wire :=
  [("orderId", .text (.orderId response.orderId)),
   ("mt5Ticket",
     match response.mt5Ticket with
     | some ticket => .number ticket
     | none => .null),
   ("status", .text (.status response.status)),
   ("message", .text message)]

def receivedNumber (field : String) (received : Wire) : Option ℚ :=
  match received.lookup field with
  | some (.number value) => some value
  | _ => none

def receivedTicket (received : Wire) : Option Nat :=
  match receivedNumber "mt5Ticket" received with
  | some value => if 0 < value then some value.num.toNat else none
  | none => none

theorem receivedEntryPrice_json (response : OrderResponse) (message : AnswerText) :
    receivedNumber "entryPrice" (orderResponseJson response message) = none := rfl

/-!
# The leg loop over what is received
-/

def RowEnv.received (env : RowEnv) (report : FillReport) (response : OrderResponse) : RowEnv :=
  { env with
    entryPrice :=
      receivedNumber "entryPrice" (orderResponseJson response (answerMessage report response)) }

def handleLegAnswered (signal : SmcLiveSignal) (env : RowEnv) (report : FillReport) : RowState :=
  if env.leg.lookup = .dupe then { book := env.leg.emptyBook, row := none, placed := none }
  else
    match placeOrderForAccountWithRetry .market env.leg.attempts maxAttempts 1
        env.leg.emptyBook with
    | (book, none) => { book := book, row := none, placed := none }
    | (book, some response) =>
        match receivedTicket (orderResponseJson response (answerMessage report response)) with
        | none => { book := book, row := none, placed := none }
        | some ticket => persistLeg signal (env.received report response) book ticket

/-- The leg takes the emergency-close branch. -/
def emergencyClose (signal : SmcLiveSignal) (env : RowEnv) (report : FillReport) : Bool :=
  if env.leg.lookup = .dupe then false
  else
    match placeOrderForAccountWithRetry .market env.leg.attempts maxAttempts 1
        env.leg.emptyBook with
    | (_, none) => false
    | (_, some response) =>
        match receivedTicket (orderResponseJson response (answerMessage report response)) with
        | none => false
        | some _ => decide (ExcessiveSlippage signal (env.received report response))

def tradeEntryPrice (signal : SmcLiveSignal) : ℚ :=
  signal.entryPrice

/-- The price is further from the entry than the guard allows. -/
def FillTooFar (signal : SmcLiveSignal) (price : ℚ) : Prop :=
  30 / 100 * |signal.entryPrice - signal.slPrice| < |price - signal.entryPrice|

instance (signal : SmcLiveSignal) (price : ℚ) : Decidable (FillTooFar signal price) :=
  inferInstanceAs (Decidable (_ < _))

/-- Where the answer of a fill arrives, a fill too far from the entry is closed and
leaves no open row, and the row of an accepted leg is within the limit of the fill. -/
def GuardEffective (signal : SmcLiveSignal) (env : RowEnv) (report : FillReport) : Prop :=
  env.leg.Heard -> forall price, report.price = some price ->
    (FillTooFar signal price ->
        emergencyClose signal env report = true ∧
          (env.leg.closes = true ->
            (handleLegAnswered signal env report).row ≠ some .open_ ∧
              (handleLegAnswered signal env report).book.items = [])) ∧
      ((handleLegAnswered signal env report).placed.isSome = true ->
        |tradeEntryPrice signal - price| ≤ 30 / 100 * |signal.entryPrice - signal.slPrice|)

theorem not_excessiveSlippage (signal : SmcLiveSignal) (env : RowEnv)
    (hprice : env.entryPrice = none) : ¬ ExcessiveSlippage signal env := by
  unfold ExcessiveSlippage fillSlippageFrac
  rw [hprice]
  simp only [sub_self, abs_zero, zero_div, ite_self]
  norm_num

theorem emergencyClose_eq_false (signal : SmcLiveSignal) (env : RowEnv) (report : FillReport) :
    emergencyClose signal env report = false := by
  unfold emergencyClose
  split_ifs
  · rfl
  · split
    · rfl
    · next response _ =>
        split
        · rfl
        · apply decide_eq_false
          apply not_excessiveSlippage
          exact receivedEntryPrice_json response (answerMessage report response)

/-- The guard does what it is there for exactly when it is not needed. -/
theorem slippage_guard_effective_iff {signal : SmcLiveSignal} {env : RowEnv}
    (hheard : env.leg.Heard) (report : FillReport) :
    GuardEffective signal env report ↔
      forall price, report.price = some price -> ¬ FillTooFar signal price := by
  constructor
  · intro heffective price hprice hfar
    have hclosed := ((heffective hheard price hprice).1 hfar).1
    rw [emergencyClose_eq_false] at hclosed
    cases hclosed
  · intro hnear _ price hprice
    refine ⟨fun hfar => absurd hfar (hnear price hprice), ?_⟩
    intro _
    rw [abs_sub_comm]
    exact not_lt.mp (hnear price hprice)

/-!
# A gold leg
-/

/-- The leg of a signal at 2000 with its stop at 1990, filled at the first request;
every write and every close goes through. -/
theorem filledRow_heard : (filledRow true).leg.Heard := by
  refine ⟨by decide, ?_⟩
  simp [filledRow, maxAttempts, AttemptsHeard, filledOnce, BrokerOrder.Heard, MetaApiOrder.Heard,
    MetaApiCall.Heard]

theorem near_fill_is_guarded :
    GuardEffective oneLegSignal (filledRow true) (.metaApi 2002) := by
  apply (slippage_guard_effective_iff filledRow_heard (.metaApi 2002)).mpr
  intro price hprice
  cases hprice
  decide +kernel

/-- The broker fills at half the stop distance from the entry, and the leg is kept. -/
theorem far_fill_is_kept :
    ¬ GuardEffective oneLegSignal (filledRow true) (.metaApi 2005) ∧
      (handleLegAnswered oneLegSignal (filledRow true) (.metaApi 2005)).row = some .open_ ∧
      (handleLegAnswered oneLegSignal (filledRow true) (.metaApi 2005)).book.items.length = 1 := by
  refine ⟨?_, by decide +kernel, by decide +kernel⟩
  intro heffective
  have hclosed := (heffective filledRow_heard 2005 rfl).1 (by decide +kernel)
  rw [emergencyClose_eq_false] at hclosed
  cases hclosed.1

end Live
end Shamarx
