import Mathlib.Data.Rat.Defs
import Shamarx.Broker.PlaceOrder

/-!
# Modification of a position in the execution service

A request for a new stop and target, from the HTTP client down to the adapters and
back.  The MetaApi adapter turns every exception into a response; the cTrader
adapter returns a dictionary that lacks required fields of the response model.
-/

namespace Shamarx
namespace Broker

inductive ModifyStatus where
  | modified
  | rejected
  | ok
  deriving DecidableEq, Repr

/-- The texts of the responses: the levels sent, or the exception. -/
inductive ModifyMessage where
  | levels (slPrice tpPrice : ℚ)
  | exception
  deriving DecidableEq

/-- What a handler returns, before the response model looks at it. -/
structure ModifyResult where
  ticket : Option Nat
  status : Option ModifyStatus
  message : Option ModifyMessage
  deriving DecidableEq

structure ClosePositionResponse where
  ticket : Nat
  status : ModifyStatus
  message : ModifyMessage
  deriving DecidableEq

def internalServerError : Nat := 500

def validateResponse (result : ModifyResult) : Except Nat ClosePositionResponse :=
  match result.ticket, result.status, result.message with
  | some ticket, some status, some message => .ok ⟨ticket, status, message⟩
  | _, _, _ => .error internalServerError

structure ModifyRequest where
  ticket : Nat
  slPrice : ℚ
  tpPrice : ℚ

/-!
# MetaApi
-/

/-- How one `modify_position` call of the connection ends: it returns when the broker
accepts, and raises when the broker refuses or the connection fails. -/
inductive MetaApiModifyCall where
  | accepted
  | raised (reconnectable : Bool)
  deriving DecidableEq, Repr

structure MetaApiModify where
  ready : Bool
  first : MetaApiModifyCall
  reconnects : Bool
  second : MetaApiModifyCall
  deriving DecidableEq, Repr

/-- `_with_reconnect` around the call; false is the exception it leaves. -/
def MetaApiModify.accepts (m : MetaApiModify) : Bool :=
  m.ready &&
    match m.first with
    | .accepted => true
    | .raised reconnectable => reconnectable && m.reconnects && m.second == .accepted

def metaApiModifyPosition (request : ModifyRequest) (m : MetaApiModify) : ModifyResult :=
  if m.accepts then
    { ticket := some request.ticket
      status := some .modified
      message := some (.levels request.slPrice request.tpPrice) }
  else
    { ticket := some request.ticket, status := some .rejected, message := some .exception }

/-!
# cTrader
-/

structure CTraderModify where
  ready : Bool
  frames : List CTraderFrame
  deriving DecidableEq, Repr

def amendDone : ExecutionType -> Bool
  | .replaced => true
  | .cancelled => true
  | .rejected => true
  | _ => false

def CTraderFrame.replaces : CTraderFrame -> Bool
  | .event .replaced _ => true
  | _ => false

/-- The broker amends the position when it answers that the order was replaced. -/
def CTraderModify.accepts (m : CTraderModify) : Bool :=
  m.ready && m.frames.any CTraderFrame.replaces

/-- The execution type of the last event is not looked at; none is an exception. -/
def ctraderModifyPosition (m : CTraderModify) : Option ModifyResult :=
  if m.ready then
    (requestUntil amendDone m.frames).map fun _ =>
      { ticket := none, status := some .ok, message := none }
  else none

/-!
# The route and the client
-/

/-- What becomes of a request: it fails before the adapter, or an adapter handles
it. -/
inductive ModifyOutcome where
  | unreached (status : Nat)
  | metaApi (m : MetaApiModify)
  | ctrader (m : CTraderModify)
  deriving DecidableEq, Repr

def ModifyOutcome.accepted : ModifyOutcome -> Bool
  | .unreached _ => false
  | .metaApi m => m.accepts
  | .ctrader m => m.accepts

def modifyAccountPosition (request : ModifyRequest) :
    ModifyOutcome -> Except Nat ClosePositionResponse
  | .unreached status => .error status
  | .metaApi m => validateResponse (metaApiModifyPosition request m)
  | .ctrader m =>
      match ctraderModifyPosition m with
      | some result => validateResponse result
      | none => .error internalServerError

/-- `BrokerHttpClient.modify` does not read the response; it throws on an error
status. -/
def modifyThrows (request : ModifyRequest) (outcome : ModifyOutcome) : Bool :=
  match modifyAccountPosition request outcome with
  | .ok _ => false
  | .error _ => true

theorem metaApi_modify_answers (request : ModifyRequest) (m : MetaApiModify) :
    modifyThrows request (.metaApi m) = false := by
  simp only [modifyThrows, modifyAccountPosition, metaApiModifyPosition]
  split_ifs <;> rfl

theorem ctrader_modify_throws (request : ModifyRequest) (m : CTraderModify) :
    modifyThrows request (.ctrader m) = true := by
  simp only [modifyThrows, modifyAccountPosition, ctraderModifyPosition]
  split_ifs
  · cases requestUntil amendDone m.frames <;> rfl
  · rfl

end Broker
end Shamarx
