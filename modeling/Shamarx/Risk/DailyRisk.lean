import Mathlib.Data.Rat.Defs
import Mathlib.Algebra.Order.Ring.Rat
import Shamarx.Foundation.DayBook
import Shamarx.Foundation.InFlight
import Shamarx.Foundation.Runs

/-!
# The daily risk row

`getRiskState` and `handleTradeClosed` find or create the row of the day and write
back what they have read.  Every prisma call takes effect at once when it settles,
and the two methods overlap at their awaits.  A day is a local calendar day.
-/

namespace Shamarx
namespace Risk

open Foundation
open Foundation.DayBook

/-!
# The table and the calls
-/

structure RiskRow where
  id : Nat
  date : Int
  dailyPnl : ℚ
  consecutiveLosses : Nat
  openPositionCount : Nat
  dailyLossLimitHit : Bool
  consecutiveLossLimitHit : Bool
  deriving DecidableEq

def RiskRow.dayRow (r : RiskRow) : DayRow Int ℚ :=
  { day := r.date, total := r.dailyPnl, streak := r.consecutiveLosses }

abbrev CloseEvent := Entry Int ℚ

/-- A call before the prisma call it waits for, or a `getRiskState` that has its row
and waits for account and configuration.  Close events are numbered as they arrive. -/
inductive RiskCall where
  | finding (today : Int)
  | findingYesterday (today : Int)
  | creating (today : Int) (consecutiveLosses : Nat)
  | judging (row : RiskRow)
  | flagging (id : Nat) (dailyLossLimitHit consecutiveLossLimitHit : Bool)
      (openPositions : Nat)
  | findingForClose (serial : Nat) (event : CloseEvent)
  | creatingForClose (serial : Nat) (event : CloseEvent)
  | booking (row : RiskRow) (serial : Nat) (event : CloseEvent)

structure AccountInfo where
  balance : ℚ
  openPositions : Nat

structure RiskConfig where
  maxDailyLossPercent : ℚ
  maxConsecutiveLosses : Nat

/-- The table with the calls in flight.  The last three fields record the days on which
calls were made, the close events in the order of their arrival, and how many of them
have been written down. -/
structure RiskService where
  day : Int
  rows : List RiskRow
  nextId : Nat
  calls : InFlight RiskCall
  nextCall : Nat
  activeDays : List Int
  arrived : List CloseEvent
  booked : Nat

def RiskService.start (day : Int) : RiskService :=
  { day := day
    rows := []
    nextId := 0
    calls := InFlight.empty
    nextCall := 0
    activeDays := []
    arrived := []
    booked := 0 }

inductive RiskOp where
  | passDays (n : Nat)
  | getRiskState
  | tradeClosed (pnl : ℚ)
  | settle (call : Nat)
  | judge (call : Nat) (account : Option AccountInfo) (config : Option RiskConfig)

namespace RiskService

def find (s : RiskService) (date : Int) : Option RiskRow :=
  s.rows.find? fun r => decide (r.date = date)

def update (s : RiskService) (id : Nat) (f : RiskRow -> RiskRow) : RiskService :=
  { s with rows := s.rows.map fun r => if r.id = id then f r else r }

/-- The row `create` returns, with the defaults of the schema. -/
def newRow (s : RiskService) (date : Int) (consecutiveLosses : Nat) : RiskRow :=
  { id := s.nextId
    date := date
    dailyPnl := 0
    consecutiveLosses := consecutiveLosses
    openPositionCount := 0
    dailyLossLimitHit := false
    consecutiveLossLimitHit := false }

def create (s : RiskService) (date : Int) (consecutiveLosses : Nat) : RiskService :=
  { s with
    rows := s.rows ++ [s.newRow date consecutiveLosses]
    nextId := s.nextId + 1 }

/-- A call starts: it takes the day and sends its first `findFirst`. -/
def begin (s : RiskService) (c : RiskCall) : RiskService :=
  { s with
    calls := s.calls.put s.nextCall c
    nextCall := s.nextCall + 1
    activeDays := s.activeDays ++ [s.day] }

def advance (s : RiskService) (call : Nat) (c : RiskCall) : RiskService :=
  { s with calls := s.calls.put call c }

def finish (s : RiskService) (call : Nat) : RiskService :=
  { s with calls := s.calls.drop call }

def tradeClosed (s : RiskService) (pnl : ℚ) : RiskService :=
  let event : CloseEvent := { day := s.day, amount := pnl }
  { s.begin (.findingForClose s.arrived.length event) with arrived := s.arrived ++ [event] }

/-- The update of `handleTradeClosed`, computed from the row it has read. -/
def bookRow (read : RiskRow) (pnl : ℚ) (r : RiskRow) : RiskRow :=
  { r with
    dailyPnl := read.dailyPnl + pnl
    consecutiveLosses := if pnl < 0 then read.consecutiveLosses + 1 else 0 }

def flagRow (dailyLossLimitHit consecutiveLossLimitHit : Bool) (openPositions : Nat)
    (r : RiskRow) : RiskRow :=
  { r with
    dailyLossLimitHit := dailyLossLimitHit
    consecutiveLossLimitHit := consecutiveLossLimitHit
    openPositionCount := openPositions }

def settle (s : RiskService) (call : Nat) : RiskService :=
  match s.calls call with
  | some (.finding today) =>
      match s.find today with
      | some row => s.advance call (.judging row)
      | none => s.advance call (.findingYesterday today)
  | some (.findingYesterday today) =>
      s.advance call
        (.creating today (((s.find (today - 1)).map RiskRow.consecutiveLosses).getD 0))
  | some (.creating today losses) =>
      (s.create today losses).advance call (.judging (s.newRow today losses))
  | some (.flagging id daily consecutive openPositions) =>
      (s.update id (flagRow daily consecutive openPositions)).finish call
  | some (.findingForClose serial event) =>
      match s.find event.day with
      | some row => s.advance call (.booking row serial event)
      | none => s.advance call (.creatingForClose serial event)
  | some (.creatingForClose serial event) =>
      (s.create event.day 0).advance call (.booking (s.newRow event.day 0) serial event)
  | some (.booking row _ event) =>
      { (s.update row.id (bookRow row event.amount)).finish call with booked := s.booked + 1 }
  | some (.judging _) => s
  | none => s

def dailyPnlPercent (row : RiskRow) (account : AccountInfo) : ℚ :=
  if 0 < account.balance then row.dailyPnl / account.balance * 100 else 0

/-- `getRiskState` once account and configuration are read: the flags are written when
they have changed.  A failed account request leaves the default account. -/
def judge (s : RiskService) (call : Nat) (account : Option AccountInfo)
    (config : Option RiskConfig) : RiskService :=
  match s.calls call with
  | some (.judging row) =>
      let account := account.getD { balance := 10000, openPositions := 0 }
      let config := config.getD { maxDailyLossPercent := 3, maxConsecutiveLosses := 3 }
      let dailyLossLimitHit :=
        decide (dailyPnlPercent row account ≤ -config.maxDailyLossPercent)
      let consecutiveLossLimitHit :=
        decide (config.maxConsecutiveLosses ≤ row.consecutiveLosses)
      if dailyLossLimitHit ≠ row.dailyLossLimitHit ∨
          consecutiveLossLimitHit ≠ row.consecutiveLossLimitHit then
        s.advance call
          (.flagging row.id dailyLossLimitHit consecutiveLossLimitHit account.openPositions)
      else s.finish call
  | _ => s

end RiskService

def riskStep (s : RiskService) : RiskOp -> RiskService
  | .passDays n => { s with day := s.day + n }
  | .getRiskState => s.begin (.finding s.day)
  | .tradeClosed pnl => s.tradeClosed pnl
  | .settle call => s.settle call
  | .judge call account config => s.judge call account config

/-!
# Exact rows
-/

def losing (pnl : ℚ) : Bool :=
  decide (pnl < 0)

/-- No call that was started is still in flight. -/
def Quiescent (s : RiskService) : Prop :=
  forall call, call < s.nextCall -> (s.calls call).isNone

instance (s : RiskService) : Decidable (Quiescent s) :=
  Nat.decidableBallLT _ _

/-- One row for each day with a call, with the profit of the close events of that day
and the losing run at the end of all close events up to that day; for the latest row
these are all there are. -/
structure DailyExact (s : RiskService) : Prop where
  one : forall d, d ∈ s.activeDays -> (s.rows.map RiskRow.date).count d = 1
  active : forall r, r ∈ s.rows -> r.date ∈ s.activeDays
  dailyPnl : forall r, r ∈ s.rows -> r.dailyPnl = dayTotal s.arrived r.date
  consecutiveLosses : forall r, r ∈ s.rows ->
    r.consecutiveLosses = streakOf losing (upTo s.arrived r.date)
  latest : latestStreak (s.rows.map RiskRow.dayRow) = streakOf losing s.arrived

/-- A row is opened for a day after all others, with the streak of the latest row or
while a close without a loss, of that day or before, is still to be written down. -/
def OpensInTurn (s : RiskService) (date : Int) (consecutiveLosses : Nat) : Prop :=
  (forall r, r ∈ s.rows -> r.date < date) ∧
    (consecutiveLosses = latestStreak (s.rows.map RiskRow.dayRow) ∨
      EndsBy losing (s.arrived.drop s.booked) date)

/-- A close event is written down when all before it have been, on the latest row and
with nothing written to it since it was read. -/
def BooksInTurn (s : RiskService) (read : RiskRow) (serial : Nat) : Prop :=
  serial = s.booked ∧
    s.rows.getLast?.map (fun r => (r.id, r.dailyPnl, r.consecutiveLosses)) =
      some (read.id, read.dailyPnl, read.consecutiveLosses)

instance (due : List CloseEvent) (date : Int) : Decidable (EndsBy losing due date) :=
  inferInstanceAs (Decidable (exists e, e ∈ due ∧ _))

instance (s : RiskService) (date : Int) (losses : Nat) : Decidable (OpensInTurn s date losses) :=
  inferInstanceAs (Decidable (_ ∧ _))

instance (s : RiskService) (read : RiskRow) (serial : Nat) :
    Decidable (BooksInTurn s read serial) :=
  inferInstanceAs (Decidable (_ ∧ _))

/-- The rows that this step opens and books are in turn. -/
def InTurn (s : RiskService) : RiskOp -> Prop
  | .settle call =>
      match s.calls call with
      | some (.creating today losses) => OpensInTurn s today losses
      | some (.creatingForClose _ event) => OpensInTurn s event.day 0
      | some (.booking row serial _) => BooksInTurn s row serial
      | _ => True
  | _ => True

instance (s : RiskService) (op : RiskOp) : Decidable (InTurn s op) := by
  unfold InTurn
  repeat' split
  all_goals infer_instance

end Risk
end Shamarx
