import Shamarx.Broker.CloseFacts
import Shamarx.Orchestrator.State

/-!
# The position monitor

A reconcile pass compares the open trades of one account and symbol with the
tickets the broker lists.  A ticket that stays missing is finalized, and each
finalized trade is reported to the orchestrator as an exit.
-/

namespace Shamarx
namespace Live

open Foundation
open Engine
open Broker
open Orchestrator

inductive TradeStatus where
  | pending
  | open_
  | closed
  | cancelled
  deriving DecidableEq, Repr

structure TradeRow where
  id : Nat
  mt5Ticket : Option Nat
  status : TradeStatus
  trade : OpenTrade
  booked : Option CloseFacts

structure AccountBook where
  rows : List TradeRow
  absenceCounts : InsertionMap Nat Nat

def emptyBook : AccountBook :=
  { rows := [], absenceCounts := [] }

structure FinalizeEnv where
  history : Option CloseInfo
  now : Int
  updates : Bool
  publishes : Bool

structure ReportedExit where
  symbol : Instrument
  exitReason : ExitKind
  exitTime : Int
  pnl : ℚ

def normalizedExit (exitReason : String) : ExitKind :=
  if exitReason.startsWith "SL" then .sl
  else if exitReason.startsWith "TP" then .tp
  else .other

def AccountBook.closeRow (book : AccountBook) (tradeId : Nat) (facts : CloseFacts) :
    AccountBook :=
  { book with
    rows := book.rows.map fun row =>
      if row.id = tradeId then { row with status := .closed, booked := some facts } else row }

/-- `finalizeClosedTrade`: a failed update leaves the row open, and a failed
publish leaves it closed and unreported. -/
def finalizeClosedTrade (book : AccountBook) (row : TradeRow) (fin : FinalizeEnv) :
    AccountBook × Option ReportedExit :=
  let facts := finalizeFacts row.trade fin.history fin.now
  if fin.updates then
    (book.closeRow row.id (writtenFacts facts),
      if fin.publishes then
        some
          { symbol := row.trade.symbol
            exitReason := normalizedExit facts.exitReason
            exitTime := facts.closedAt
            pnl := facts.pnl }
      else none)
  else (book, none)

def absenceConfirmations : Nat := 3

def Listed (tickets : List Nat) : Option Nat -> Prop
  | some ticket => ticket ≠ 0 ∧ ticket ∈ tickets
  | none => False

instance (tickets : List Nat) (ticket : Option Nat) : Decidable (Listed tickets ticket) :=
  match ticket with
  | some t => inferInstanceAs (Decidable (t ≠ 0 ∧ t ∈ tickets))
  | none => inferInstanceAs (Decidable False)

def reconcileTrade (tickets : List Nat) (fin : Nat -> FinalizeEnv) (book : AccountBook)
    (row : TradeRow) : AccountBook × Option ReportedExit :=
  if Listed tickets row.mt5Ticket then
    ({ book with absenceCounts := book.absenceCounts.erase row.id }, none)
  else
    let misses := (book.absenceCounts.get row.id).getD 0 + 1
    if misses < absenceConfirmations then
      ({ book with absenceCounts := book.absenceCounts.set row.id misses }, none)
    else
      finalizeClosedTrade { book with absenceCounts := book.absenceCounts.erase row.id } row
        (fin row.id)

def reconcileTrades (tickets : List Nat) (fin : Nat -> FinalizeEnv) (book : AccountBook) :
    List TradeRow -> AccountBook × List ReportedExit
  | [] => (book, [])
  | row :: rest =>
      let out := reconcileTrade tickets fin book row
      let later := reconcileTrades tickets fin out.1 rest
      (later.1, out.2.toList ++ later.2)

def openRows (book : AccountBook) (symbol : Instrument) : List TradeRow :=
  book.rows.filter fun row =>
    decide (row.trade.symbol = symbol ∧ row.status = .open_ ∧ row.mt5Ticket ≠ none)

/-- What the broker of one account answers during a pass; a failed position
request has no tickets. -/
structure PassEnv where
  tickets : Instrument -> Option (List Nat)
  fin : Nat -> FinalizeEnv

/-- A failed position request leaves the pair for the next pass. -/
def reconcilePairForAccount (env : PassEnv) (book : AccountBook) (symbol : Instrument) :
    AccountBook × List ReportedExit :=
  match env.tickets symbol with
  | none => (book, [])
  | some tickets => reconcileTrades tickets env.fin book (openRows book symbol)

def reconcileAccount (env : PassEnv) (book : AccountBook) :
    List Instrument -> AccountBook × List ReportedExit
  | [] => (book, [])
  | symbol :: rest =>
      let out := reconcilePairForAccount env book symbol
      let later := reconcileAccount env out.1 rest
      (later.1, out.2 ++ later.2)

def reportExits (env : EngineEnv) (o : LiveSmcOrchestrator) (exits : List ReportedExit) :
    LiveSmcOrchestrator :=
  exits.foldl (fun o e => (o.recordExit env e.symbol e.exitReason e.exitTime (some e.pnl)).1) o

/-!
# Exits and booked rows
-/

def finalizedPnls (book : AccountBook) (symbol : Instrument) : List ℚ :=
  book.rows.filterMap fun row =>
    if row.trade.symbol = symbol then row.booked.map CloseFacts.pnl else none

end Live
end Shamarx
