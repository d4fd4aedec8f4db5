import Mathlib.Data.List.Nodup
import Mathlib.Data.Option.Basic
import Shamarx.Foundation.Reports
import Shamarx.Foundation.Scan

/-!
# Order placement in the execution service

One order request of a leg, from the route down to the broker.  What the broker
does with a send and what the caller hears of it are separate inputs: a send may
be carried out and its answer still get lost.
-/

namespace Shamarx
namespace Broker

open Foundation

inductive OrderType where
  | market
  | limit
  deriving DecidableEq, Repr

structure BookItem where
  id : Nat
  resting : Bool
  deriving DecidableEq, Repr

structure Book where
  items : List BookItem
  nextId : Nat
  nextId_pos : 0 < nextId
  items_lt : forall item, item ∈ items -> item.id < nextId
  ids_nodup : (items.map BookItem.id).Nodup

namespace Book

def ids (book : Book) : List Nat :=
  book.items.map BookItem.id

def empty (nextId : Nat) (h : 0 < nextId) : Book :=
  { items := []
    nextId := nextId
    nextId_pos := h
    items_lt := by simp
    ids_nodup := List.nodup_nil }

theorem ids_lt (book : Book) {id : Nat} (h : id ∈ book.ids) : id < book.nextId := by
  rcases List.mem_map.mp h with ⟨item, hitem, rfl⟩
  exact book.items_lt item hitem

def execute (book : Book) (resting : Bool) : Book :=
  { items := book.items ++ [{ id := book.nextId, resting := resting }]
    nextId := book.nextId + 1
    nextId_pos := Nat.succ_pos book.nextId
    items_lt := by
      intro item hitem
      rcases List.mem_append.mp hitem with hold | hnew
      · exact Nat.lt_succ_of_lt (book.items_lt item hold)
      · rw [List.mem_singleton.mp hnew]
        exact Nat.lt_succ_self book.nextId
    ids_nodup := by
      rw [List.map_append]
      refine List.Nodup.append book.ids_nodup (List.nodup_singleton _) ?_
      intro id hid hnew
      have hlt := book.ids_lt hid
      have heq : id = book.nextId := List.mem_singleton.mp hnew
      omega }

@[simp] theorem ids_execute (book : Book) (resting : Bool) :
    (book.execute resting).ids = book.ids ++ [book.nextId] := by
  simp [ids, execute]

def closePosition (book : Book) (ticket : Nat) : Book :=
  { book with
    items := book.items.filter fun item => item.id != ticket
    items_lt := fun item h => book.items_lt item (List.mem_of_mem_filter h)
    ids_nodup := book.ids_nodup.sublist (List.Sublist.map _ List.filter_sublist) }

theorem length_le_one_iff (book : Book) {id : Nat} (h : id ∈ book.ids) :
    book.items.length ≤ 1 ↔ book.ids = [id] := by
  have hlen : book.ids.length = book.items.length := List.length_map _
  constructor
  · intro hle
    have hpos := List.length_pos_of_mem h
    rcases List.length_eq_one_iff.mp (show book.ids.length = 1 by omega) with ⟨a, ha⟩
    rw [ha] at h ⊢
    rw [List.mem_singleton.mp h]
  · intro hids
    rw [← hlen, hids]
    exact Nat.le_refl 1

theorem items_closePosition_eq_nil_iff (book : Book) {id : Nat} (h : id ∈ book.ids) :
    (book.closePosition id).items = [] ↔ book.ids = [id] := by
  have hall : (book.closePosition id).items = [] ↔ forall i, i ∈ book.ids -> i = id := by
    simp [closePosition, ids, List.filter_eq_nil_iff]
  rw [hall]
  constructor
  · intro heq
    have hrep := List.eq_replicate_of_mem heq
    have hone : book.ids.length ≤ 1 := by
      have hnodup : book.ids.Nodup := book.ids_nodup
      rw [hrep, List.nodup_replicate] at hnodup
      exact hnodup
    rw [ids, List.length_map] at hone
    exact (book.length_le_one_iff h).mp hone
  · intro hids i hi
    rw [hids] at hi
    exact List.mem_singleton.mp hi

end Book

inductive OrderStatus where
  | filled
  | pending
  | rejected
  deriving DecidableEq, Repr

structure OrderResponse where
  orderId : Option Nat
  mt5Ticket : Option Nat
  status : OrderStatus
  deriving DecidableEq, Repr

def rejection : OrderResponse :=
  { orderId := none, mt5Ticket := none, status := .rejected }

/-!
# MetaApi
-/

/-- How one `create_market_*_order` call ends.  A result without a position id
still comes from a filled order. -/
inductive MetaApiCall where
  | result (positionListed : Bool)
  | raised (executed reconnectable : Bool)
  deriving DecidableEq, Repr

structure MetaApiOrder where
  ready : Bool
  first : MetaApiCall
  reconnects : Bool
  second : MetaApiCall
  deriving DecidableEq, Repr

/-- One send; an error tells whether a reconnect is worth trying. -/
def metaApiSend (book : Book) : MetaApiCall -> Book × Except Bool OrderResponse
  | .result positionListed =>
      (book.execute false,
        .ok
          { orderId := some book.nextId
            mt5Ticket := if positionListed then some book.nextId else none
            status := .filled })
  | .raised executed reconnectable =>
      (if executed then book.execute false else book, .error reconnectable)

def withReconnect (book : Book) (first : MetaApiCall) (reconnects : Bool)
    (second : MetaApiCall) : Book × Except Bool OrderResponse :=
  match metaApiSend book first with
  | (book', .ok response) => (book', .ok response)
  | (book', .error reconnectable) =>
      if reconnectable && reconnects then metaApiSend book' second
      else (book', .error reconnectable)

def metaApiPlaceOrder (book : Book) (order : MetaApiOrder) : Book × OrderResponse :=
  if order.ready then
    match withReconnect book order.first order.reconnects order.second with
    | (book', .ok response) => (book', response)
    | (book', .error _) => (book', rejection)
  else (book, rejection)

/-!
# cTrader
-/

inductive ExecutionType where
  | accepted
  | filled
  | replaced
  | cancelled
  | expired
  | rejected
  | partialFill
  | other
  deriving DecidableEq, Repr

inductive CTraderFrame where
  | event (executionType : ExecutionType) (positionListed : Bool)
  | error
  deriving DecidableEq, Repr

/-- The frames the broker emits for the order, and how many of them arrive
before the deadline. -/
structure CTraderOrder where
  ready : Bool
  frames : List CTraderFrame
  arrived : Nat
  deriving DecidableEq, Repr

def CTraderFrame.opens : CTraderFrame -> Bool
  | .event .filled _ => true
  | .event .partialFill _ => true
  | _ => false

def CTraderFrame.parks : CTraderFrame -> Bool
  | .event .accepted _ => true
  | _ => false

/-- The broker's side of the order: a fill opens a position, and an accepted
limit order rests. -/
def ctraderBook (orderType : OrderType) (book : Book) (frames : List CTraderFrame) : Book :=
  if frames.any CTraderFrame.opens then book.execute false
  else if orderType = .limit ∧ frames.any CTraderFrame.parks = true then book.execute true
  else book

def orderTerminal : ExecutionType -> Bool
  | .filled => true
  | .cancelled => true
  | .expired => true
  | .rejected => true
  | _ => false

def orderDone : OrderType -> ExecutionType -> Bool
  | .market, t => orderTerminal t
  | .limit, t => orderTerminal t || t == .accepted

/-- `request_until`; none is an error frame or the timeout. -/
def requestUntil (done : ExecutionType -> Bool) :
    List CTraderFrame -> Option (ExecutionType × Bool)
  | [] => none
  | .error :: _ => none
  | .event t positionListed :: rest =>
      if done t then some (t, positionListed) else requestUntil done rest

def ctraderPlaceOrder (orderType : OrderType) (book : Book) (order : CTraderOrder) :
    Book × OrderResponse :=
  if order.ready then
    (ctraderBook orderType book order.frames,
      match orderType,
        requestUntil (orderDone orderType) (order.frames.take order.arrived) with
      | .limit, some (.accepted, _) =>
          { orderId := some book.nextId, mt5Ticket := none, status := .pending }
      | _, some (.filled, true) =>
          { orderId := some book.nextId, mt5Ticket := some book.nextId, status := .filled }
      | _, _ => rejection)
  else (book, rejection)

/-!
# MT5 through the terminal manager
-/

/-- How the manager's order request ends.  A refusal by the terminal, a bridge
timeout and a failed request all end as a rejection. -/
inductive Mt5Order where
  | filled
  | failed (executed : Bool)
  deriving DecidableEq, Repr

def mt5PlaceOrder (book : Book) : Mt5Order -> Book × OrderResponse
  | .filled =>
      (book.execute false,
        { orderId := some book.nextId, mt5Ticket := some book.nextId, status := .filled })
  | .failed executed => (if executed then book.execute false else book, rejection)

/-!
# The route and the HTTP request
-/

inductive BrokerOrder where
  | metaApi (order : MetaApiOrder)
  | ctrader (order : CTraderOrder)
  | mt5 (order : Mt5Order)
  deriving DecidableEq, Repr

def placeAccountOrder (orderType : OrderType) (book : Book) :
    BrokerOrder -> Book × OrderResponse
  | .metaApi order => metaApiPlaceOrder book order
  | .ctrader order => ctraderPlaceOrder orderType book order
  | .mt5 order => mt5PlaceOrder book order

/-- One HTTP request of the strategy service: it may never reach the route, and
its response may get lost after the route has run.  The status is that of the
error response, if there is one. -/
inductive HttpAttempt where
  | unreached (status : Option Nat)
  | answered (order : BrokerOrder)
  | lost (order : BrokerOrder) (status : Option Nat)
  deriving DecidableEq, Repr

def postOrder (orderType : OrderType) (book : Book) :
    HttpAttempt -> Book × Except (Option Nat) OrderResponse
  | .unreached status => (book, .error status)
  | .answered order =>
      ((placeAccountOrder orderType book order).1,
        .ok (placeAccountOrder orderType book order).2)
  | .lost order status => ((placeAccountOrder orderType book order).1, .error status)

/-!
# What an answer acknowledges

The id of the position or resting order that the service takes a response for.
-/

def positiveTicket (response : OrderResponse) : Option Nat :=
  match response.mt5Ticket with
  | some ticket => if 0 < ticket then some ticket else none
  | none => none

def acceptedId : OrderType -> OrderResponse -> Option Nat
  | .market, response => positiveTicket response
  | .limit, response =>
      match response.status with
      | .pending => some (response.orderId.getD 0)
      | .filled => positiveTicket response
      | .rejected => none

/-- An exception acknowledges nothing. -/
def answeredId (orderType : OrderType) : Except err OrderResponse -> Option Nat
  | .ok response => acceptedId orderType response
  | .error _ => none

@[simp] theorem acceptedId_rejection (orderType : OrderType) :
    acceptedId orderType rejection = none := by
  cases orderType <;> rfl

theorem acceptedId_filled (orderType : OrderType) {id : Nat} (h : 0 < id)
    (orderId : Option Nat) :
    acceptedId orderType { orderId := orderId, mt5Ticket := some id, status := .filled } =
      some id := by
  cases orderType <;> simp [acceptedId, positiveTicket, h]

/-- A send is heard when its fill comes back with a position id. -/
def MetaApiCall.Heard : MetaApiCall -> Prop
  | .result positionListed => positionListed = true
  | .raised _ _ => False

def MetaApiCall.Quiet : MetaApiCall -> Prop
  | .result positionListed => positionListed = true
  | .raised executed _ => executed = false

def MetaApiCall.Resent (reconnects : Bool) : MetaApiCall -> Prop
  | .result _ => False
  | .raised _ reconnectable => reconnectable = true ∧ reconnects = true

def MetaApiOrder.Heard (order : MetaApiOrder) : Prop :=
  order.ready = true ∧ (order.first.Heard ∨
    (order.first.Resent order.reconnects ∧ order.second.Heard))

def MetaApiOrder.Quiet (order : MetaApiOrder) : Prop :=
  order.ready = true -> order.first.Quiet ∧
    (order.first.Resent order.reconnects -> order.second.Quiet)

/-- The success frame that ends the wait: a fill with its position id, or for a
limit order its acceptance. -/
def CTraderFrame.Success (orderType : OrderType) : CTraderFrame -> Prop
  | .event .filled positionListed => positionListed = true
  | .event .accepted _ => orderType = .limit
  | _ => False

/-- A frame that neither ends the wait nor raises. -/
def CTraderFrame.Passing (orderType : OrderType) : CTraderFrame -> Prop
  | .event t _ => orderDone orderType t = false
  | .error => False

def CTraderOrder.Heard (orderType : OrderType) (order : CTraderOrder) : Prop :=
  order.ready = true ∧ ReachesHit (CTraderFrame.Success orderType)
    (CTraderFrame.Passing orderType) (order.frames.take order.arrived)

def CTraderOrder.Executed (orderType : OrderType) (order : CTraderOrder) : Prop :=
  order.ready = true ∧ (order.frames.any CTraderFrame.opens = true ∨
    (orderType = .limit ∧ order.frames.any CTraderFrame.parks = true))

def BrokerOrder.Heard (orderType : OrderType) : BrokerOrder -> Prop
  | .metaApi order => order.Heard
  | .ctrader order => order.Heard orderType
  | .mt5 order => order = .filled

/-- Every send of the order that the broker carries out is heard. -/
def BrokerOrder.Quiet (orderType : OrderType) : BrokerOrder -> Prop
  | .metaApi order => order.Quiet
  | .ctrader order => order.Executed orderType -> order.Heard orderType
  | .mt5 order => order ≠ .failed true

/-!
# The adapters report what they do
-/

section Adapters

variable (orderType : OrderType) (book : Book)

theorem metaApiSend_reports (call : MetaApiCall) :
    Reports book.ids (metaApiSend book call).1.ids
      (answeredId orderType (metaApiSend book call).2) call.Heard call.Quiet := by
  cases call with
  | result positionListed =>
      cases positionListed with
      | true =>
          have hid := acceptedId_filled orderType book.nextId_pos (some book.nextId)
          simpa [metaApiSend, answeredId, hid, MetaApiCall.Heard, MetaApiCall.Quiet] using
            Reports.answered book.ids book.nextId
      | false =>
          cases orderType <;>
            simpa [metaApiSend, answeredId, acceptedId, positiveTicket, MetaApiCall.Heard,
              MetaApiCall.Quiet] using Reports.unheard book.ids book.nextId
  | raised executed reconnectable =>
      cases executed with
      | true =>
          simpa [metaApiSend, answeredId, MetaApiCall.Heard, MetaApiCall.Quiet] using
            Reports.unheard book.ids book.nextId
      | false =>
          simpa [metaApiSend, answeredId, MetaApiCall.Heard, MetaApiCall.Quiet] using
            Reports.silent book.ids

theorem withReconnect_reports (first : MetaApiCall) (reconnects : Bool)
    (second : MetaApiCall) :
    Reports book.ids (withReconnect book first reconnects second).1.ids
      (answeredId orderType (withReconnect book first reconnects second).2)
      (first.Heard ∨ (first.Resent reconnects ∧ second.Heard))
      (first.Quiet ∧ (first.Resent reconnects -> second.Quiet)) := by
  have hfirst := metaApiSend_reports orderType book first
  cases first with
  | result positionListed =>
      simpa [withReconnect, metaApiSend, MetaApiCall.Resent] using hfirst
  | raised executed reconnectable =>
      by_cases hagain : reconnectable = true ∧ reconnects = true
      · have hsecond := metaApiSend_reports orderType
          (metaApiSend book (.raised executed reconnectable)).1 second
        have hboth := hfirst.followedBy hsecond
        simpa [withReconnect, metaApiSend, MetaApiCall.Resent, MetaApiCall.Heard, hagain.1,
          hagain.2] using hboth
      · have hcond : (reconnectable && reconnects) = false := by
          rw [Bool.and_eq_false_iff]
          cases reconnectable <;> cases reconnects <;> simp_all
        simpa [withReconnect, metaApiSend, MetaApiCall.Resent, MetaApiCall.Heard, hagain,
          hcond] using hfirst

theorem metaApiPlaceOrder_reports (order : MetaApiOrder) :
    Reports book.ids (metaApiPlaceOrder book order).1.ids
      (acceptedId orderType (metaApiPlaceOrder book order).2) order.Heard order.Quiet := by
  have hcalls := withReconnect_reports orderType book order.first order.reconnects order.second
  by_cases hready : order.ready = true
  · cases hout : withReconnect book order.first order.reconnects order.second with
    | mk book' result =>
        rw [hout] at hcalls
        cases result with
        | ok response =>
            simpa [metaApiPlaceOrder, hready, hout, MetaApiOrder.Heard, MetaApiOrder.Quiet,
              answeredId] using hcalls
        | error reconnectable =>
            simpa [metaApiPlaceOrder, hready, hout, MetaApiOrder.Heard, MetaApiOrder.Quiet,
              answeredId] using hcalls
  · simpa [metaApiPlaceOrder, hready, MetaApiOrder.Heard, MetaApiOrder.Quiet] using
      Reports.silent book.ids

theorem mt5PlaceOrder_reports (order : Mt5Order) :
    Reports book.ids (mt5PlaceOrder book order).1.ids
      (acceptedId orderType (mt5PlaceOrder book order).2) (order = .filled)
      (order ≠ .failed true) := by
  cases order with
  | filled =>
      have hid := acceptedId_filled orderType book.nextId_pos (some book.nextId)
      simpa [mt5PlaceOrder, hid] using Reports.answered book.ids book.nextId
  | failed executed =>
      cases executed with
      | true =>
          simpa [mt5PlaceOrder] using Reports.unheard book.ids book.nextId
      | false =>
          simpa [mt5PlaceOrder] using Reports.silent book.ids

/-!
The wait of `request_until` returns a success exactly when a success frame
arrives with only passing frames before it.
-/

/-- The result of the wait that the client turns into an accepted order. -/
def WaitSucceeds (orderType : OrderType) : Option (ExecutionType × Bool) -> Prop
  | some (.accepted, _) => orderType = .limit
  | some (.filled, positionListed) => positionListed = true
  | _ => False

theorem success_event_iff (t : ExecutionType) (positionListed : Bool) :
    (CTraderFrame.event t positionListed).Success orderType ↔
      WaitSucceeds orderType (some (t, positionListed)) := by
  cases t <;> simp [CTraderFrame.Success, WaitSucceeds]

theorem orderDone_of_success {orderType : OrderType} {t : ExecutionType}
    {positionListed : Bool} (h : (CTraderFrame.event t positionListed).Success orderType) :
    orderDone orderType t = true := by
  cases t <;> cases orderType <;> simp_all [CTraderFrame.Success, orderDone, orderTerminal]

theorem waitSucceeds_requestUntil_iff (frames : List CTraderFrame) :
    WaitSucceeds orderType (requestUntil (orderDone orderType) frames) ↔
      ReachesHit (CTraderFrame.Success orderType) (CTraderFrame.Passing orderType) frames := by
  induction frames with
  | nil =>
      simp [requestUntil, WaitSucceeds]
  | cons frame rest ih =>
      rw [reachesHit_cons]
      cases frame with
      | error =>
          simp [requestUntil, WaitSucceeds, CTraderFrame.Success, CTraderFrame.Passing]
      | event t positionListed =>
          by_cases hdone : orderDone orderType t = true
          · rw [success_event_iff]
            simp [requestUntil, hdone, CTraderFrame.Passing]
          · have hfails : ¬ (CTraderFrame.event t positionListed).Success orderType :=
              fun hs => hdone (orderDone_of_success hs)
            simp only [requestUntil, if_neg hdone, hfails, false_or]
            rw [ih]
            simp [CTraderFrame.Passing, hdone]

theorem executed_of_heard {orderType : OrderType} {order : CTraderOrder}
    (h : order.Heard orderType) : order.Executed orderType := by
  rcases h with ⟨hready, hreach⟩
  rcases hreach.exists_hit with ⟨frame, hframe, hsuccess⟩
  have hin : frame ∈ order.frames := List.mem_of_mem_take hframe
  refine ⟨hready, ?_⟩
  cases frame with
  | error =>
      exact absurd hsuccess id
  | event t positionListed =>
      cases t with
      | filled =>
          exact Or.inl (List.any_eq_true.mpr ⟨_, hin, rfl⟩)
      | accepted =>
          exact Or.inr ⟨hsuccess, List.any_eq_true.mpr ⟨_, hin, rfl⟩⟩
      | replaced | cancelled | expired | rejected | partialFill | other =>
          exact absurd hsuccess id

theorem ids_ctraderBook (order : CTraderOrder) (hready : order.ready = true) :
    (order.Executed orderType ->
      (ctraderBook orderType book order.frames).ids = book.ids ++ [book.nextId]) ∧
    (¬ order.Executed orderType -> (ctraderBook orderType book order.frames).ids = book.ids) := by
  unfold ctraderBook CTraderOrder.Executed
  by_cases hopens : order.frames.any CTraderFrame.opens = true
  · simp [hopens, hready]
  · by_cases hparks : orderType = .limit ∧ order.frames.any CTraderFrame.parks = true
    · simp [hopens, hparks, hready]
    · simp only [if_neg hopens, if_neg hparks]
      exact ⟨fun h => absurd h.2 (not_or_intro hopens hparks), fun _ => trivial⟩

theorem acceptedId_ctrader (order : CTraderOrder) (hready : order.ready = true) :
    (order.Heard orderType ->
      acceptedId orderType (ctraderPlaceOrder orderType book order).2 = some book.nextId) ∧
    (¬ order.Heard orderType ->
      acceptedId orderType (ctraderPlaceOrder orderType book order).2 = none) := by
  unfold CTraderOrder.Heard
  rw [← waitSucceeds_requestUntil_iff]
  simp only [hready, true_and, ctraderPlaceOrder, if_true]
  generalize requestUntil (orderDone orderType) (order.frames.take order.arrived) = outcome
  have hpos := book.nextId_pos
  cases outcome with
  | none =>
      simp [WaitSucceeds]
  | some final =>
      rcases final with ⟨t, positionListed⟩
      cases t <;> cases positionListed <;> cases orderType <;>
        simp [WaitSucceeds, acceptedId, positiveTicket, rejection, hpos]

theorem ctraderPlaceOrder_reports (order : CTraderOrder) :
    Reports book.ids (ctraderPlaceOrder orderType book order).1.ids
      (acceptedId orderType (ctraderPlaceOrder orderType book order).2)
      (order.Heard orderType) (order.Executed orderType -> order.Heard orderType) := by
  by_cases hready : order.ready = true
  · have hbook : (ctraderPlaceOrder orderType book order).1 =
        ctraderBook orderType book order.frames := by
      simp [ctraderPlaceOrder, hready]
    have hids := ids_ctraderBook orderType book order hready
    have hid := acceptedId_ctrader orderType book order hready
    rw [hbook]
    by_cases hexec : order.Executed orderType
    · rw [hids.1 hexec]
      by_cases hheard : order.Heard orderType
      · rw [hid.1 hheard]
        exact (Reports.answered book.ids book.nextId).congr (by simp [hheard])
          (by simp [hheard])
      · rw [hid.2 hheard]
        exact (Reports.unheard book.ids book.nextId).congr (by simp [hheard])
          (by simp [hheard, hexec])
    · have hheard : ¬ order.Heard orderType := fun h => hexec (executed_of_heard h)
      rw [hids.2 hexec, hid.2 hheard]
      exact (Reports.silent book.ids).congr (by simp [hheard]) (by simp [hexec])
  · have hheard : ¬ order.Heard orderType := fun h => hready h.1
    have hexec : ¬ order.Executed orderType := fun h => hready h.1
    simp only [ctraderPlaceOrder, if_neg hready, acceptedId_rejection]
    exact (Reports.silent book.ids).congr (by simp [hheard]) (by simp [hexec])

theorem placeAccountOrder_reports (order : BrokerOrder) :
    Reports book.ids (placeAccountOrder orderType book order).1.ids
      (acceptedId orderType (placeAccountOrder orderType book order).2)
      (order.Heard orderType) (order.Quiet orderType) := by
  cases order with
  | metaApi order =>
      exact metaApiPlaceOrder_reports orderType book order
  | ctrader order =>
      exact ctraderPlaceOrder_reports orderType book order
  | mt5 order =>
      exact mt5PlaceOrder_reports orderType book order

end Adapters

end Broker
end Shamarx
