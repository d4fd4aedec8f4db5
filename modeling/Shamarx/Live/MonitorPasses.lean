import Shamarx.Foundation.InFlight
import Shamarx.Foundation.Runs
import Shamarx.Live.PositionMonitor
import Shamarx.Orchestrator.Evaluate

/-!
# Overlapping reconcile passes

Each stored candle of any pair starts a pass over all pairs.  A pass reads the
positions of a pair from the broker, then the open trades from the table, and
goes through them; it gives up the process at each of these requests and inside
the finalization of a trade.  All passes share one map of missed sightings.
-/

namespace Shamarx
namespace Live
namespace MonitorPasses

open Foundation
open Engine
open Broker
open Orchestrator

/-!
# The trade table
-/

structure MonitorRow where
  account : Option String
  mt5Ticket : Option Nat
  status : TradeStatus
  trade : OpenTrade
  booked : Option CloseFacts

structure TradeTable where
  rows : InsertionMap Nat MonitorRow
  nodup : (rows.map Prod.fst).Nodup

namespace TradeTable

def empty : TradeTable :=
  { rows := [], nodup := List.nodup_nil }

def get (table : TradeTable) (tradeId : Nat) : Option MonitorRow :=
  table.rows.get tradeId

def set (table : TradeTable) (tradeId : Nat) (row : MonitorRow) : TradeTable :=
  { rows := table.rows.set tradeId row
    nodup := InsertionMap.nodup_set table.nodup tradeId row }

def modify (table : TradeTable) (tradeId : Nat) (change : MonitorRow -> MonitorRow) :
    TradeTable :=
  match table.get tradeId with
  | some row => table.set tradeId (change row)
  | none => table

end TradeTable

structure MonitorConfig where
  engine : EngineEnv
  fanOutEnabled : Bool
  pairs : List Instrument

/-- What one iteration of a pass covers: a pair, of one account under fan-out. -/
structure Scope where
  account : Option String
  symbol : Instrument
  deriving DecidableEq

def MonitorRow.scope (cfg : MonitorConfig) (row : MonitorRow) : Option Scope :=
  if cfg.fanOutEnabled then
    row.account.map fun account => { account := some account, symbol := row.trade.symbol }
  else some { account := none, symbol := row.trade.symbol }

def Queried (cfg : MonitorConfig) (scope : Scope) (row : MonitorRow) : Prop :=
  row.scope cfg = some scope ∧ row.status = .open_ ∧ row.mt5Ticket ≠ none

instance (cfg : MonitorConfig) (scope : Scope) (row : MonitorRow) :
    Decidable (Queried cfg scope row) :=
  inferInstanceAs (Decidable (_ ∧ _ ∧ _))

def TradeTable.openTrades (cfg : MonitorConfig) (table : TradeTable) (scope : Scope) :
    List (Nat × MonitorRow) :=
  table.rows.filter fun entry => decide (Queried cfg scope entry.2)

/-!
# Passes in flight
-/

/-- A successful read of the broker's positions: the number of M15 closes before
it, and the tickets. -/
structure BrokerRead where
  close : Nat
  tickets : List Nat
  deriving DecidableEq

inductive FinalizeStage where
  | asking
  | updating (facts : CloseFacts)
  | publishing (facts : CloseFacts)

inductive PassPhase where
  | between
  | answered (scope : Scope) (read : BrokerRead)
  | working (scope : Scope) (read : BrokerRead) (todo : List (Nat × MonitorRow))
  | finalizing (scope : Scope) (read : BrokerRead) (todo : List (Nat × MonitorRow))
      (trade : Nat × MonitorRow) (stage : FinalizeStage)

structure Pass where
  scopes : List Scope
  phase : PassPhase

/-- The reads of each scope, newest first, and the reported exits are a record of
what has happened. -/
structure MonitorRun where
  closes : Nat
  table : TradeTable
  absenceCounts : InsertionMap Nat Nat
  orchestrator : LiveSmcOrchestrator
  passes : InFlight Pass
  reads : Scope -> List BrokerRead
  exits : List (Nat × ReportedExit)

def startMonitor (o : LiveSmcOrchestrator) (table : TradeTable) : MonitorRun :=
  { closes := 0
    table := table
    absenceCounts := []
    orchestrator := o
    passes := .empty
    reads := fun _ => []
    exits := [] }

def passScopes (cfg : MonitorConfig) (accounts : List String) : List Scope :=
  if cfg.fanOutEnabled then
    accounts.flatMap fun account => cfg.pairs.map fun symbol =>
      { account := some account, symbol := symbol }
  else cfg.pairs.map fun symbol => { account := none, symbol := symbol }

/-- An M15 close; the start of a pass by a stored candle or by hand; the answers a
pass waits for; one trade of its loop; and what other services do to the table. -/
inductive MonitorOp where
  | m15Close
  | reconcileAll (id : Nat) (accounts : List String)
  | read (id : Nat) (tickets : Option (List Nat))
  | query (id : Nat) (answers : Bool)
  | visit (id : Nat)
  | history (id : Nat) (info : Option CloseInfo) (now : Int)
  | update (id : Nat) (succeeds : Bool)
  | publish (id : Nat) (succeeds : Bool)
  | insertTrade (tradeId : Nat) (row : MonitorRow)
  | promoteEntry (tradeId : Nat) (ticket : Nat)
  | endElsewhere (tradeId : Nat)

namespace MonitorRun

def misses (s : MonitorRun) (tradeId : Nat) : Nat :=
  (s.absenceCounts.get tradeId).getD 0

def move (s : MonitorRun) (id : Nat) (scopes : List Scope) (phase : PassPhase) : MonitorRun :=
  { s with passes := s.passes.put id { scopes := scopes, phase := phase } }

/-- `fetchOpenPositions`; a failed one leaves the scope to the next pass. -/
def read (s : MonitorRun) (id : Nat) (scope : Scope) (rest : List Scope)
    (tickets : Option (List Nat)) : MonitorRun :=
  match tickets with
  | none => s.move id rest .between
  | some found =>
      let answer := { close := s.closes, tickets := found }
      { s.move id rest (.answered scope answer) with
        reads := fun sc => if sc = scope then answer :: s.reads sc else s.reads sc }

def visit (s : MonitorRun) (id : Nat) (scopes : List Scope) (scope : Scope)
    (read : BrokerRead) (trade : Nat × MonitorRow) (todo : List (Nat × MonitorRow)) :
    MonitorRun :=
  if Listed read.tickets trade.2.mt5Ticket then
    { s.move id scopes (.working scope read todo) with
      absenceCounts := s.absenceCounts.erase trade.1 }
  else if s.misses trade.1 + 1 < absenceConfirmations then
    { s.move id scopes (.working scope read todo) with
      absenceCounts := s.absenceCounts.set trade.1 (s.misses trade.1 + 1) }
  else
    { s.move id scopes (.finalizing scope read todo trade .asking) with
      absenceCounts := s.absenceCounts.erase trade.1 }

def closeRow (s : MonitorRun) (tradeId : Nat) (facts : CloseFacts) : TradeTable :=
  s.table.modify tradeId fun row => { row with status := .closed, booked := some facts }

def exitOf (trade : Nat × MonitorRow) (facts : CloseFacts) : ReportedExit :=
  { symbol := trade.2.trade.symbol
    exitReason := normalizedExit facts.exitReason
    exitTime := facts.closedAt
    pnl := facts.pnl }

def report (cfg : MonitorConfig) (s : MonitorRun) (trade : Nat × MonitorRow)
    (facts : CloseFacts) : MonitorRun :=
  let e := exitOf trade facts
  { s with
    orchestrator :=
      (s.orchestrator.recordExit cfg.engine e.symbol e.exitReason e.exitTime (some e.pnl)).1
    exits := s.exits ++ [(trade.1, e)] }

end MonitorRun

/-- What another service makes of a row whose position or order is gone. -/
def endedStatus : TradeStatus -> TradeStatus
  | .pending => .cancelled
  | .open_ => .closed
  | .closed => .closed
  | .cancelled => .cancelled

def endedRow (row : MonitorRow) : MonitorRow :=
  { row with status := endedStatus row.status }

def promotedRow (ticket : Nat) (row : MonitorRow) : MonitorRow :=
  if row.status = .pending then { row with status := .open_, mt5Ticket := some ticket } else row

/-- One step between awaits.  A step of a pass that is not there does nothing. -/
def monitorStep (cfg : MonitorConfig) (s : MonitorRun) : MonitorOp -> MonitorRun
  | .m15Close => { s with closes := s.closes + 1 }
  | .reconcileAll id accounts =>
      match s.passes id with
      | none => s.move id (passScopes cfg accounts) .between
      | some _ => s
  | .read id tickets =>
      match s.passes id with
      | some { scopes := scope :: rest, phase := .between } => s.read id scope rest tickets
      | some { scopes := [], phase := .between } => { s with passes := s.passes.drop id }
      | _ => s
  | .query id answers =>
      match s.passes id with
      | some { scopes := scopes, phase := .answered scope read } =>
          if answers then
            s.move id scopes (.working scope read (s.table.openTrades cfg scope))
          else s.move id scopes .between
      | _ => s
  | .visit id =>
      match s.passes id with
      | some { scopes := scopes, phase := .working scope read (trade :: todo) } =>
          s.visit id scopes scope read trade todo
      | some { scopes := scopes, phase := .working _ _ [] } => s.move id scopes .between
      | _ => s
  | .history id info now =>
      match s.passes id with
      | some { scopes := scopes, phase := .finalizing scope read todo trade .asking } =>
          s.move id scopes (.finalizing scope read todo trade
            (.updating (finalizeFacts trade.2.trade info now)))
      | _ => s
  | .update id succeeds =>
      match s.passes id with
      | some { scopes := scopes, phase := .finalizing scope read todo trade (.updating facts) } =>
          if succeeds ∧ (s.table.get trade.1).isSome then
            { s.move id scopes (.finalizing scope read todo trade (.publishing facts)) with
              table := s.closeRow trade.1 (writtenFacts facts) }
          else s.move id scopes (.working scope read todo)
      | _ => s
  | .publish id succeeds =>
      match s.passes id with
      | some
          { scopes := scopes
            phase := .finalizing scope read todo trade (.publishing facts) } =>
          if succeeds then
            (s.move id scopes (.working scope read todo)).report cfg trade facts
          else s.move id scopes (.working scope read todo)
      | _ => s
  | .insertTrade tradeId row =>
      match s.table.get tradeId with
      | none => { s with table := s.table.set tradeId row }
      | some _ => s
  | .promoteEntry tradeId ticket =>
      { s with table := s.table.modify tradeId (promotedRow ticket) }
  | .endElsewhere tradeId => { s with table := s.table.modify tradeId endedRow }

def MonitorOp.pass? : MonitorOp -> Option Nat
  | .reconcileAll id _ => some id
  | .read id _ => some id
  | .query id _ => some id
  | .visit id => some id
  | .history id _ _ => some id
  | .update id _ => some id
  | .publish id _ => some id
  | .m15Close => none
  | .insertTrade _ _ => none
  | .promoteEntry _ _ => none
  | .endElsewhere _ => none

def MonitorRun.nextFinalized (s : MonitorRun) : MonitorOp -> Option (Nat × MonitorRow)
  | .visit id =>
      match s.passes id with
      | some { scopes := _, phase := .working _ read (trade :: _) } =>
          if ¬ Listed read.tickets trade.2.mt5Ticket ∧
              absenceConfirmations ≤ s.misses trade.1 + 1 then some trade
          else none
      | _ => none
  | _ => none

/-!
# Rows of the table
-/

section Table

variable {table : TradeTable} {tradeId other : Nat}

@[simp] theorem get_set_row (row : MonitorRow) :
    (table.set tradeId row).get tradeId = some row :=
  InsertionMap.get_set_self table.rows tradeId row

theorem get_set_row_of_ne (row : MonitorRow) (hne : other ≠ tradeId) :
    (table.set tradeId row).get other = table.get other :=
  InsertionMap.get_set_of_ne table.rows row hne

theorem get_modify (change : MonitorRow -> MonitorRow) :
    (table.modify tradeId change).get tradeId = (table.get tradeId).map change := by
  unfold TradeTable.modify
  split
  · next row hrow =>
      rw [get_set_row, hrow]
      rfl
  · next hnone =>
      rw [hnone]
      rfl

theorem get_modify_of_ne (change : MonitorRow -> MonitorRow) (hne : other ≠ tradeId) :
    (table.modify tradeId change).get other = table.get other := by
  unfold TradeTable.modify
  split
  · exact get_set_row_of_ne _ hne
  · rfl

def TradeTable.Closed (table : TradeTable) (tradeId : Nat) : Prop :=
  exists row, table.get tradeId = some row ∧ row.status = .closed

theorem closed_modify {change : MonitorRow -> MonitorRow}
    (hchange : forall row, row.status = .closed -> (change row).status = .closed)
    (h : table.Closed other) : (table.modify tradeId change).Closed other := by
  rcases h with ⟨row, hrow, hstatus⟩
  by_cases heq : other = tradeId
  · subst heq
    refine ⟨change row, ?_, hchange row hstatus⟩
    rw [get_modify, hrow]
    rfl
  · exact ⟨row, (get_modify_of_ne change heq).trans hrow, hstatus⟩

end Table

/-!
# What a step can do
-/

inductive MonitorMove (cfg : MonitorConfig) (s : MonitorRun) : MonitorOp -> MonitorRun -> Prop where
  | idle {op : MonitorOp} : MonitorMove cfg s op s
  | m15Close : MonitorMove cfg s .m15Close { s with closes := s.closes + 1 }
  | started {id : Nat} {accounts : List String} (free : s.passes id = none) :
      MonitorMove cfg s (.reconcileAll id accounts)
        (s.move id (passScopes cfg accounts) .between)
  | emptied {id : Nat} {tickets : Option (List Nat)}
      (pass : s.passes id = some { scopes := [], phase := .between }) :
      MonitorMove cfg s (.read id tickets) { s with passes := s.passes.drop id }
  | unread {id : Nat} {scope : Scope} {rest : List Scope}
      (pass : s.passes id = some { scopes := scope :: rest, phase := .between }) :
      MonitorMove cfg s (.read id none) (s.move id rest .between)
  | read {id : Nat} {scope : Scope} {rest : List Scope} {tickets : List Nat}
      (pass : s.passes id = some { scopes := scope :: rest, phase := .between }) :
      MonitorMove cfg s (.read id (some tickets)) (s.read id scope rest (some tickets))
  | queried {id : Nat} {scopes : List Scope} {scope : Scope} {read : BrokerRead}
      (pass : s.passes id = some { scopes := scopes, phase := .answered scope read }) :
      MonitorMove cfg s (.query id true)
        (s.move id scopes (.working scope read (s.table.openTrades cfg scope)))
  | unqueried {id : Nat} {scopes : List Scope} {scope : Scope} {read : BrokerRead}
      (pass : s.passes id = some { scopes := scopes, phase := .answered scope read }) :
      MonitorMove cfg s (.query id false) (s.move id scopes .between)
  | sighted {id : Nat} {scopes : List Scope} {scope : Scope} {read : BrokerRead}
      {trade : Nat × MonitorRow} {todo : List (Nat × MonitorRow)}
      (pass : s.passes id =
        some { scopes := scopes, phase := .working scope read (trade :: todo) })
      (listed : Listed read.tickets trade.2.mt5Ticket) :
      MonitorMove cfg s (.visit id)
        { s.move id scopes (.working scope read todo) with
          absenceCounts := s.absenceCounts.erase trade.1 }
  | missed {id : Nat} {scopes : List Scope} {scope : Scope} {read : BrokerRead}
      {trade : Nat × MonitorRow} {todo : List (Nat × MonitorRow)}
      (pass : s.passes id =
        some { scopes := scopes, phase := .working scope read (trade :: todo) })
      (unlisted : ¬ Listed read.tickets trade.2.mt5Ticket)
      (few : s.misses trade.1 + 1 < absenceConfirmations) :
      MonitorMove cfg s (.visit id)
        { s.move id scopes (.working scope read todo) with
          absenceCounts := s.absenceCounts.set trade.1 (s.misses trade.1 + 1) }
  | confirmed {id : Nat} {scopes : List Scope} {scope : Scope} {read : BrokerRead}
      {trade : Nat × MonitorRow} {todo : List (Nat × MonitorRow)}
      (pass : s.passes id =
        some { scopes := scopes, phase := .working scope read (trade :: todo) })
      (next : s.nextFinalized (.visit id) = some trade) :
      MonitorMove cfg s (.visit id)
        { s.move id scopes (.finalizing scope read todo trade .asking) with
          absenceCounts := s.absenceCounts.erase trade.1 }
  | looped {id : Nat} {scopes : List Scope} {scope : Scope} {read : BrokerRead}
      (pass : s.passes id = some { scopes := scopes, phase := .working scope read [] }) :
      MonitorMove cfg s (.visit id) (s.move id scopes .between)
  | asked {id : Nat} {scopes : List Scope} {scope : Scope} {read : BrokerRead}
      {trade : Nat × MonitorRow} {todo : List (Nat × MonitorRow)} {info : Option CloseInfo}
      {now : Int}
      (pass : s.passes id =
        some { scopes := scopes, phase := .finalizing scope read todo trade .asking }) :
      MonitorMove cfg s (.history id info now)
        (s.move id scopes (.finalizing scope read todo trade
          (.updating (finalizeFacts trade.2.trade info now))))
  | updated {id : Nat} {scopes : List Scope} {scope : Scope} {read : BrokerRead}
      {trade : Nat × MonitorRow} {todo : List (Nat × MonitorRow)} {facts : CloseFacts}
      {succeeds : Bool}
      (pass : s.passes id =
        some { scopes := scopes, phase := .finalizing scope read todo trade (.updating facts) })
      (found : (s.table.get trade.1).isSome) :
      MonitorMove cfg s (.update id succeeds)
        { s.move id scopes (.finalizing scope read todo trade (.publishing facts)) with
          table := s.closeRow trade.1 (writtenFacts facts) }
  | abandoned {op : MonitorOp} {id : Nat} {scopes : List Scope} {scope : Scope}
      {read : BrokerRead} {trade : Nat × MonitorRow} {todo : List (Nat × MonitorRow)}
      {stage : FinalizeStage} (own : op.pass? = some id)
      (pass : s.passes id =
        some { scopes := scopes, phase := .finalizing scope read todo trade stage }) :
      MonitorMove cfg s op (s.move id scopes (.working scope read todo))
  | reported {id : Nat} {scopes : List Scope} {scope : Scope} {read : BrokerRead}
      {trade : Nat × MonitorRow} {todo : List (Nat × MonitorRow)} {facts : CloseFacts}
      {succeeds : Bool}
      (pass : s.passes id =
        some
          { scopes := scopes
            phase := .finalizing scope read todo trade (.publishing facts) }) :
      MonitorMove cfg s (.publish id succeeds)
        ((s.move id scopes (.working scope read todo)).report cfg trade facts)
  | inserted {tradeId : Nat} {row : MonitorRow} (free : s.table.get tradeId = none) :
      MonitorMove cfg s (.insertTrade tradeId row)
        { s with table := s.table.set tradeId row }
  | promoted {tradeId ticket : Nat} :
      MonitorMove cfg s (.promoteEntry tradeId ticket)
        { s with table := s.table.modify tradeId (promotedRow ticket) }
  | ended {tradeId : Nat} :
      MonitorMove cfg s (.endElsewhere tradeId)
        { s with table := s.table.modify tradeId endedRow }

theorem monitorStep_move (cfg : MonitorConfig) (s : MonitorRun) (op : MonitorOp) :
    MonitorMove cfg s op (monitorStep cfg s op) := by
  cases op with
  | m15Close =>
      exact .m15Close
  | reconcileAll id accounts =>
      unfold monitorStep
      dsimp only
      split
      · next hfree =>
          exact .started hfree
      · exact .idle
  | read id tickets =>
      unfold monitorStep
      dsimp only
      split
      · next scope rest hpass =>
          cases tickets with
          | none =>
              exact .unread hpass
          | some found =>
              exact .read hpass
      · next hpass =>
          exact .emptied hpass
      · exact .idle
  | query id answers =>
      unfold monitorStep
      dsimp only
      split
      · next scopes scope read hpass =>
          cases answers with
          | true =>
              exact .queried hpass
          | false =>
              exact .unqueried hpass
      · exact .idle
  | visit id =>
      unfold monitorStep
      dsimp only
      split
      · next scopes scope read trade todo hpass =>
          unfold MonitorRun.visit
          split_ifs with hlisted hfew
          · exact .sighted hpass hlisted
          · exact .missed hpass hlisted hfew
          · apply MonitorMove.confirmed hpass
            simp only [MonitorRun.nextFinalized, hpass]
            exact if_pos ⟨hlisted, Nat.le_of_not_lt hfew⟩
      · next scopes scope read hpass =>
          exact .looped hpass
      · exact .idle
  | history id info now =>
      unfold monitorStep
      dsimp only
      split
      · next scopes scope read todo trade hpass =>
          exact .asked hpass
      · exact .idle
  | update id succeeds =>
      unfold monitorStep
      dsimp only
      split
      · next scopes scope read todo trade facts hpass =>
          split_ifs with hdone
          · exact .updated hpass hdone.2
          · exact .abandoned rfl hpass
      · exact .idle
  | publish id succeeds =>
      unfold monitorStep
      dsimp only
      split
      · next scopes scope read todo trade facts hpass =>
          split_ifs
          · exact .reported hpass
          · exact .abandoned rfl hpass
      · exact .idle
  | insertTrade tradeId row =>
      unfold monitorStep
      dsimp only
      split
      · next hfree =>
          exact .inserted hfree
      · exact .idle
  | promoteEntry tradeId ticket =>
      exact .promoted
  | endElsewhere tradeId =>
      exact .ended

theorem MonitorMove.closed {cfg : MonitorConfig} {s s' : MonitorRun} {op : MonitorOp}
    (hmove : MonitorMove cfg s op s') {t : Nat} (h : s.table.Closed t) : s'.table.Closed t := by
  cases hmove with
  | updated hpass hfound =>
      exact closed_modify (fun _ _ => rfl) h
  | @inserted tradeId row hfree =>
      rcases h with ⟨found, hfound, hstatus⟩
      have hne : t ≠ tradeId := by
        intro heq
        rw [heq, hfree] at hfound
        cases hfound
      exact ⟨found, (get_set_row_of_ne row hne).trans hfound, hstatus⟩
  | promoted =>
      apply closed_modify _ h
      intro row hrow
      rw [promotedRow, if_neg (by rw [hrow]; decide)]
      exact hrow
  | ended =>
      apply closed_modify _ h
      intro row hrow
      rw [endedRow, hrow]
      rfl
  | _ =>
      exact h

theorem working_of_nextFinalized {s : MonitorRun} {op : MonitorOp} {trade : Nat × MonitorRow}
    (h : s.nextFinalized op = some trade) :
    exists id scopes scope read todo, op = .visit id ∧
      s.passes id = some { scopes := scopes, phase := .working scope read (trade :: todo) } ∧
      ¬ Listed read.tickets trade.2.mt5Ticket ∧
      absenceConfirmations ≤ s.misses trade.1 + 1 := by
  cases op with
  | visit id =>
      unfold MonitorRun.nextFinalized at h
      dsimp only at h
      split at h
      · next scopes scope read found todo hpass =>
          split_ifs at h with hthird
          cases h
          exact ⟨id, scopes, scope, read, todo, rfl, hpass, hthird⟩
      · cases h
  | _ =>
      cases h

/-!
# Steps of one pass
-/

theorem MonitorMove.passes_of_ne {cfg : MonitorConfig} {s s' : MonitorRun} {op : MonitorOp}
    (hmove : MonitorMove cfg s op s') {other : Nat} (hne : op.pass? ≠ some other) :
    s'.passes other = s.passes other := by
  have hput : forall id pass, some id ≠ some other ->
      s.passes.put id pass other = s.passes other := by
    intro id pass hid
    exact InFlight.put_of_ne _ _ fun heq => hid (congrArg some heq.symm)
  cases hmove with
  | idle =>
      rfl
  | m15Close =>
      rfl
  | inserted hfree =>
      rfl
  | promoted =>
      rfl
  | ended =>
      rfl
  | emptied hpass =>
      exact InFlight.drop_of_ne _ fun heq => hne (congrArg some heq.symm)
  | abandoned hown hpass =>
      rw [hown] at hne
      exact hput _ _ hne
  | _ =>
      exact hput _ _ hne

def OnPassZero (op : MonitorOp) : Prop :=
  op.pass? = some 0 ∨ op.pass? = none

instance (op : MonitorOp) : Decidable (OnPassZero op) :=
  inferInstanceAs (Decidable (_ ∨ _))

theorem MonitorMove.passZero {cfg : MonitorConfig} {s s' : MonitorRun} {op : MonitorOp}
    (hmove : MonitorMove cfg s op s') (hop : OnPassZero op)
    (hnone : forall other, other ≠ 0 -> s.passes other = none) :
    forall other, other ≠ 0 -> s'.passes other = none := by
  intro other hother
  rw [hmove.passes_of_ne]
  · exact hnone other hother
  · intro heq
    rcases hop with hzero | hnopass
    · rw [hzero] at heq
      exact hother (Option.some.inj heq).symm
    · rw [hnopass] at heq
      cases heq

/-!
# A gold trade whose ticket is missing
-/

def fourPairs : MonitorConfig :=
  { engine := documentedEnv
    fanOutEnabled := false
    pairs := [.XAUUSD, .EURUSD, .GBPUSD, .USDJPY] }

def goldTable : TradeTable :=
  TradeTable.empty.set 1
    { account := none
      mt5Ticket := some 7
      status := .open_
      trade := goldTrade
      booked := none }

def goldMonitor : MonitorRun :=
  startMonitor (LiveSmcOrchestrator.create standardRiskCfg) goldTable

def missOfGold (id : Nat) : List MonitorOp :=
  [.reconcileAll id [], .read id (some []), .query id true, .visit id]

/-- The rest of the pass, in which the other pairs have no open trade. -/
def restOfPass (id : Nat) : List MonitorOp :=
  .visit id :: ([0, 1, 2].flatMap fun _ => [.read id (some []), .query id true, .visit id]) ++
    [.read id none]

end MonitorPasses
end Live
end Shamarx
