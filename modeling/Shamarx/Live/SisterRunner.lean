import Shamarx.Foundation.InFlight
import Shamarx.Foundation.Runs
import Shamarx.Live.MonitorPasses
import Shamarx.Live.PositionManager
import Shamarx.Live.SweepExecution

/-!
# Break-even for the sister runner

When the first leg of a ladder closes at its target, the monitor moves the stop of the
runner to break-even.  No column links the two rows: the runner is looked up by account,
symbol, side, entry price and a window of five seconds.

The rows are here in the order of their insertion, and the index stands for the id.  The
search, the request to the broker and the update of the row are steps of their own, between
which the other writers of the table go on.
-/

namespace Shamarx
namespace Live
namespace SisterRunner

open Foundation
open Engine
open Broker
open Orchestrator
open SweepExecution (retraceFrac)

deriving instance DecidableEq for OpenTrade

/-!
# Rows
-/

structure Order where
  number : Nat
  accountId : Option String
  signal : SmcLiveSignal
  deriving DecidableEq

structure LegOrigin where
  order : Order
  leg : SmcLiveSignalLeg
  deriving DecidableEq

inductive EntryType where
  | market
  | retraceLimit
  deriving DecidableEq

/-- A row of the trade table.  Its origin is history: none stands for the rows of other
writers. -/
structure LegRow where
  origin : Option LegOrigin
  entryType : EntryType
  accountId : Option String
  trade : OpenTrade
  limitPrice : Option ℚ
  mt5Ticket : Option Nat
  status : TradeStatus
  createdAt : Int
  management : StoredState
  deriving DecidableEq

def trailKeyOf (leg : SmcLiveSignalLeg) : TrailKey :=
  if SetupTag.tp1 ∈ leg.setupTags then .tp1 else .runner

/-- The limit of a retrace order: half of the way back to the stop. -/
def retraceLimitPrice (signal : SmcLiveSignal) : ℚ :=
  roundTo 100000
    (signal.side.ahead signal.entryPrice
      (-(|signal.entryPrice - signal.slPrice| * retraceFrac)))

/-- How the order of a leg came out, where a row is written for it. -/
inductive Placement where
  | market (ticket : Nat)
  | parked
  | filledAtOnce (ticket : Nat)

namespace Placement

def entryType : Placement -> EntryType
  | .market _ => .market
  | _ => .retraceLimit

def ticket : Placement -> Option Nat
  | .market ticket => some ticket
  | .parked => none
  | .filledAtOnce ticket => some ticket

def status : Placement -> TradeStatus
  | .parked => .pending
  | _ => .open_

def entryPrice (signal : SmcLiveSignal) (placement : Placement) : ℚ :=
  match placement.entryType with
  | .market => signal.entryPrice
  | .retraceLimit => retraceLimitPrice signal

def limitPrice (signal : SmcLiveSignal) (placement : Placement) : Option ℚ :=
  match placement.entryType with
  | .market => none
  | .retraceLimit => some (retraceLimitPrice signal)

end Placement

/-- The row that `placeOrderForAccount`, its legacy variant or
`placeRetraceOrderForAccount` writes for a leg. -/
def placedRow (order : Order) (leg : SmcLiveSignalLeg) (placement : Placement) (now : Int) :
    LegRow :=
  let entryPrice := placement.entryPrice order.signal
  { origin := some { order := order, leg := leg }
    entryType := placement.entryType
    accountId := order.accountId
    trade :=
      { symbol := order.signal.symbol
        side := order.signal.side
        lotSize := leg.lotSize
        entryPrice := entryPrice
        slPrice := order.signal.slPrice
        tpPrice := leg.tpPrice }
    limitPrice := placement.limitPrice order.signal
    mt5Ticket := placement.ticket
    status := placement.status
    createdAt := now
    management :=
      { breakevenActivated := some false
        peakFavorablePrice := some entryPrice
        originalSlPrice := some order.signal.slPrice
        trailKey := some (trailKeyOf leg) } }

/-- A filled limit: the row takes the price of its own fill. -/
def promotedRow (positionId : Nat) (executionPrice : Option ℚ) (row : LegRow) : LegRow :=
  if row.status = .pending ∧ row.entryType = .retraceLimit then
    let fillPrice := match executionPrice with
      | some price => if 0 < price then price else row.limitPrice.getD 0
      | none => row.limitPrice.getD 0
    { row with
      status := .open_
      mt5Ticket := some positionId
      trade := { row.trade with entryPrice := fillPrice }
      management := { row.management with peakFavorablePrice := some fillPrice } }
  else row

def endedRow (row : LegRow) : LegRow :=
  { row with status := MonitorPasses.endedStatus row.status }

def managedTradeOf (row : LegRow) : ManagedTrade :=
  { side := row.trade.side
    entryPrice := row.trade.entryPrice
    slPrice := row.trade.slPrice
    tpPrice := row.trade.tpPrice
    state := row.management }

def managedRow (written : ManagedTrade) (row : LegRow) : LegRow :=
  { row with
    trade := { row.trade with slPrice := written.slPrice, tpPrice := written.tpPrice }
    management := written.state }

/-!
# The search for the sister
-/

def SisterMatch (closed row : LegRow) : Prop :=
  row.trade.symbol = closed.trade.symbol ∧ row.trade.side = closed.trade.side ∧
    row.trade.entryPrice = closed.trade.entryPrice ∧ row.status = .open_ ∧
    row.mt5Ticket ≠ none ∧ row.accountId = closed.accountId ∧
    closed.createdAt - 5000 ≤ row.createdAt ∧ row.createdAt ≤ closed.createdAt + 5000

instance (closed row : LegRow) : Decidable (SisterMatch closed row) :=
  inferInstanceAs (Decidable (_ ∧ _ ∧ _ ∧ _ ∧ _ ∧ _ ∧ _ ∧ _))

def sisterCandidates (rows : List LegRow) (id : Nat) (closed : LegRow) : List (LegRow × Nat) :=
  rows.zipIdx.filter fun row => decide (row.2 ≠ id ∧ SisterMatch closed row.1)

/-- `findFirst` without an order: the number stands for the choice of the database. -/
def findFirst (choice : Nat) (found : List (LegRow × Nat)) : Option (LegRow × Nat) :=
  found[choice % found.length]?

def sisterOf (rows : List LegRow) (choice id : Nat) (closed : LegRow) : Option (LegRow × Nat) :=
  if closed.management.trailKey = some .tp1 then
    (findFirst choice (sisterCandidates rows id closed)).filter fun sister =>
      decide (sister.1.management.trailKey = some .runner ∧
        sister.1.management.breakevenActivated ≠ some true)
  else none

def breakevenStop (sister : LegRow) : ℚ :=
  let originalSl := sister.management.originalSlPrice.getD sister.trade.slPrice
  sister.trade.side.ahead sister.trade.entryPrice
    (|sister.trade.entryPrice - originalSl| * (1 / 10))

def sisterRequest (sister : LegRow) : ModifyRequest :=
  { ticket := sister.mt5Ticket.getD 0
    slPrice := breakevenStop sister
    tpPrice := sister.trade.tpPrice }

/-- The row after its update, which writes the state that the search had read. -/
def protectedRow (sister row : LegRow) : LegRow :=
  { row with
    trade := { row.trade with slPrice := breakevenStop sister }
    management := { sister.management with breakevenActivated := some true } }

/-!
# Runs
-/

structure Selection where
  closedId : Nat
  facts : CloseFacts
  closed : LegRow
  sister : LegRow
  sisterId : Nat

inductive CallPhase where
  | managing (id : Nat) (symbol : Instrument) (ticket : Nat) (read : ManagedTrade)
  | searching (closedId : Nat) (facts : CloseFacts)
  | moving (selection : Selection)
  | writing (selection : Selection)

/-- The last two fields are history: what each finalization booked, and the requests that
were sent for sisters. -/
structure SisterRun where
  rows : List LegRow
  calls : InFlight CallPhase
  finalized : List (Nat × CloseFacts)
  moves : List Selection

def SisterRun.empty : SisterRun :=
  { rows := []
    calls := .empty
    finalized := []
    moves := [] }

inductive SisterOp where
  | place (order : Order) (leg : SmcLiveSignalLeg) (placement : Placement) (now : Int)
  | insertOther (row : LegRow)
  | promote (id positionId : Nat) (executionPrice : Option ℚ)
  | endElsewhere (id : Nat)
  | readManaged (call id : Nat)
  | writeManaged (call : Nat) (broker : BrokerPosition) (candle : BacktestCandle)
      (outcome : ModifyOutcome)
  | finalize (call id : Nat) (read : OpenTrade) (fin : FinalizeEnv)
  | search (call choice : Nat)
  | move (call : Nat) (outcome : ModifyOutcome)
  | write (call : Nat) (updates : Bool)

namespace SisterRun

def modify (s : SisterRun) (id : Nat) (change : LegRow -> LegRow) : SisterRun :=
  { s with rows := s.rows.modify id change }

def enter (s : SisterRun) (call : Nat) (phase : CallPhase) : SisterRun :=
  { s with calls := s.calls.put call phase }

def leave (s : SisterRun) (call : Nat) : SisterRun :=
  { s with calls := s.calls.drop call }

def close (s : SisterRun) (call id : Nat) (facts : CloseFacts) (publishes : Bool) : SisterRun :=
  let s := { s.modify id (fun row => { row with status := .closed }) with
    finalized := s.finalized ++ [(id, facts)] }
  if publishes = true ∧ normalizedExit facts.exitReason = .tp then
    s.enter call (.searching id facts)
  else s

/-- The closed trade whose runner the call is about to look up. -/
def searchedFor (s : SisterRun) (call : Nat) : Option Nat :=
  match s.calls call with
  | some (.searching id _) => some id
  | _ => none

def selected (s : SisterRun) (call : Nat) : Option Nat :=
  match s.calls call with
  | some (.moving selection) => some selection.sisterId
  | _ => none

end SisterRun

/-- The manager writes unless nothing has changed or the broker call throws. -/
def ManagerWrites (symbol : Instrument) (ticket : Nat) (read : ManagedTrade)
    (broker : BrokerPosition) (candle : BacktestCandle) (outcome : ModifyOutcome) : Prop :=
  let pos := managedPosition read broker
  let updated := updatedPosition symbol read broker candle
  updated ≠ pos ∧
    (NeedsModify symbol pos updated ->
      modifyThrows (modifyRequest ticket updated) outcome = false)

instance (symbol : Instrument) (ticket : Nat) (read : ManagedTrade) (broker : BrokerPosition)
    (candle : BacktestCandle) (outcome : ModifyOutcome) :
    Decidable (ManagerWrites symbol ticket read broker candle outcome) :=
  inferInstanceAs (Decidable (_ ∧ (_ -> _)))

def sisterStep (s : SisterRun) : SisterOp -> SisterRun
  | .place order leg placement now =>
      if leg ∈ order.signal.legs then
        { s with rows := s.rows ++ [placedRow order leg placement now] }
      else s
  | .insertOther row => { s with rows := s.rows ++ [{ row with origin := none }] }
  | .promote id positionId executionPrice => s.modify id (promotedRow positionId executionPrice)
  | .endElsewhere id => s.modify id endedRow
  | .readManaged call id =>
      match s.calls call, s.rows[id]? with
      | none, some row =>
          match row.status, row.mt5Ticket with
          | .open_, some ticket =>
              s.enter call (.managing id row.trade.symbol ticket (managedTradeOf row))
          | _, _ => s
      | _, _ => s
  | .writeManaged call broker candle outcome =>
      match s.calls call with
      | some (.managing id symbol ticket read) =>
          if ManagerWrites symbol ticket read broker candle outcome then
            (s.modify id (managedRow (writtenTrade read broker
              (updatedPosition symbol read broker candle)))).leave call
          else s.leave call
      | _ => s
  | .finalize call id read fin =>
      match s.calls call, s.rows[id]? with
      | none, some _ =>
          if fin.updates = true then
            s.close call id (finalizeFacts read fin.history fin.now) fin.publishes
          else s
      | _, _ => s
  | .search call choice =>
      match s.calls call with
      | some (.searching id facts) =>
          match s.rows[id]? with
          | some closed =>
              match sisterOf s.rows choice id closed with
              | some sister =>
                  s.enter call (.moving
                    { closedId := id
                      facts := facts
                      closed := closed
                      sister := sister.1
                      sisterId := sister.2 })
              | none => s.leave call
          | none => s.leave call
      | _ => s
  | .move call outcome =>
      match s.calls call with
      | some (.moving selection) =>
          let s := { s with moves := s.moves ++ [selection] }
          if modifyThrows (sisterRequest selection.sister) outcome = true then s.leave call
          else s.enter call (.writing selection)
      | _ => s
  | .write call updates =>
      match s.calls call with
      | some (.writing selection) =>
          if updates = true then
            (s.modify selection.sisterId (protectedRow selection.sister)).leave call
          else s.leave call
      | _ => s

def run (ops : List SisterOp) : SisterRun :=
  runFrom sisterStep .empty ops

/-!
# Booked take-profits
-/

def ReportsTakeProfit (answer : Option CloseInfo) : Prop :=
  decodeReason (answer.bind CloseInfo.reason) = "TP"

instance (answer : Option CloseInfo) : Decidable (ReportsTakeProfit answer) :=
  inferInstanceAs (Decidable (_ = _))

inductive TakeProfitGround (read : OpenTrade) (answer : Option CloseInfo) : Prop where
  | reported (h : ReportsTakeProfit answer)
  | inferred (price : ℚ) (hclose : answer.bind CloseInfo.closePrice = some price)
      (hnear : inferExitReason price read.slPrice read.tpPrice = "TP")
  | estimated
      (hmissing : answer.bind CloseInfo.closePrice = none ∨
        (answer.bind fun info => info.realizedPnl.or info.pnl) = none)
      (hahead : read.side.AtLeast
        ((answer.bind CloseInfo.closePrice).getD ((read.slPrice + read.tpPrice) / 2))
        read.entryPrice)

section Booked

variable {read : OpenTrade} {answer : Option CloseInfo} {now : Int}

theorem normalizedExit_eq_tp {reason : String} (h : normalizedExit reason = .tp) :
    reason.startsWith "TP" = true := by
  unfold normalizedExit at h
  split_ifs at h with hsl htp
  exact htp

theorem mentions_of_startsWith {text : String} (h : text.startsWith "TP" = true) :
    mentions text.toUpper "TP" = true := by
  have hprefix : "TP".toList <+: text.toList := String.startsWith_string_iff.mp h
  have hupper : text.toUpper.toList = text.toList.map Char.toUpper := by
    simp [String.toUpper]
  have hmapped : "TP".toList.map Char.toUpper <+: text.toList.map Char.toUpper :=
    hprefix.map Char.toUpper
  refine decide_eq_true ?_
  rw [hupper]
  exact hmapped.isInfix

theorem reportsTakeProfit_of_decoded
    (h : normalizedExit (decodeReason (answer.bind CloseInfo.reason)) = .tp) :
    ReportsTakeProfit answer := by
  have hstart := normalizedExit_eq_tp h
  unfold ReportsTakeProfit
  unfold decodeReason at hstart ⊢
  cases hreason : answer.bind CloseInfo.reason with
  | none =>
      rw [hreason] at hstart
      simp at hstart
  | some text =>
      rw [hreason] at hstart
      dsimp only at hstart ⊢
      split_ifs at hstart ⊢ with hempty htp hsl
      · simp at hstart
      · rfl
      · simp at hstart
      · rw [mentions_of_startsWith hstart] at htp
        simp at htp

theorem inferExitReason_eq_tp {price sl tp : ℚ}
    (h : normalizedExit (inferExitReason price sl tp) = .tp) :
    inferExitReason price sl tp = "TP" := by
  have hstart := normalizedExit_eq_tp h
  unfold inferExitReason at hstart ⊢
  dsimp only at hstart ⊢
  split_ifs at hstart ⊢ with hspan htp hsl
  · simp at hstart
  · rfl
  · simp at hstart
  · simp at hstart

/-- An estimate keeps the reason, or names a take-profit for a price ahead of the entry. -/
theorem estimatedFacts_tp {price : Option ℚ} {reason : String} {closedAt : Int}
    (h : normalizedExit (estimatedFacts read price reason closedAt).exitReason = .tp) :
    normalizedExit reason = .tp ∨
      read.side.AtLeast (price.getD ((read.slPrice + read.tpPrice) / 2)) read.entryPrice := by
  unfold estimatedFacts at h
  dsimp only at h
  split_ifs at h with hclosed hwon
  · right
    cases hside : read.side with
    | buy =>
        rw [hside] at hwon
        exact of_decide_eq_true hwon
    | sell =>
        rw [hside] at hwon
        exact of_decide_eq_true hwon
  · have hstart := String.startsWith_string_iff.mp (normalizedExit_eq_tp h)
    exact absurd hstart (by decide)
  · exact Or.inl h

theorem ground_of_reason {price : ℚ} (hclose : answer.bind CloseInfo.closePrice = some price)
    (h : normalizedExit
      (if decodeReason (answer.bind CloseInfo.reason) = "TP" ∨
          decodeReason (answer.bind CloseInfo.reason) = "SL"
        then decodeReason (answer.bind CloseInfo.reason)
        else inferExitReason price read.slPrice read.tpPrice) = .tp) :
    TakeProfitGround read answer := by
  split_ifs at h with hdecoded
  · exact .reported (reportsTakeProfit_of_decoded h)
  · exact .inferred price hclose (inferExitReason_eq_tp h)

theorem takeProfitGround (h : normalizedExit (finalizeFacts read answer now).exitReason = .tp) :
    TakeProfitGround read answer := by
  unfold finalizeFacts at h
  dsimp only at h
  cases hclose : answer.bind CloseInfo.closePrice with
  | none =>
      rw [hclose] at h
      dsimp only at h
      rcases estimatedFacts_tp h with hreason | hahead
      · exact .reported (reportsTakeProfit_of_decoded hreason)
      · refine .estimated (Or.inl hclose) ?_
        rw [hclose]
        exact hahead
  | some price =>
      rw [hclose] at h
      dsimp only at h
      cases hpnl : answer.bind fun info => info.realizedPnl.or info.pnl with
      | some amount =>
          rw [hpnl] at h
          exact ground_of_reason hclose h
      | none =>
          rw [hpnl] at h
          rcases estimatedFacts_tp h with hreason | hahead
          · exact ground_of_reason hclose hreason
          · refine .estimated (Or.inr hpnl) ?_
            rw [hclose]
            exact hahead

theorem finalizeFacts_reported (h : ReportsTakeProfit answer) :
    (finalizeFacts read answer now).exitReason = "TP" := by
  unfold ReportsTakeProfit at h
  unfold finalizeFacts
  dsimp only
  rw [h]
  cases answer.bind CloseInfo.closePrice with
  | none =>
      simp [estimatedFacts]
  | some price =>
      cases answer.bind fun info => info.realizedPnl.or info.pnl with
      | none =>
          simp [estimatedFacts]
      | some amount =>
          simp

end Booked

end SisterRunner
end Live
end Shamarx
