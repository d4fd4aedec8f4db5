import Shamarx.Foundation.InsertionMap
import Shamarx.Foundation.Months
import Shamarx.Foundation.Rounding
import Shamarx.Foundation.Tallies

/-!
# The journal

The trades of a user by day, and the totals of a month by day and by week.
-/

namespace Shamarx
namespace Journal

open Foundation

/-!
# Rows
-/

structure JournalEntry (json : Type) where
  tags : List String
  reflectionNote : Option String
  entryContext : Option json
  exitContext : Option json
  setupSummary : String
  outcome : Option String

structure JournalTrade (json : Type) where
  id : String
  userId : String
  symbol : String
  side : String
  setupTags : Option (List String)
  lotSize : ℚ
  entryPrice : ℚ
  closePrice : Option ℚ
  slPrice : ℚ
  originalSlPrice : Option ℚ
  tpPrice : ℚ
  pnl : Option ℚ
  exitReason : Option String
  status : String
  createdAt : Int
  closedAt : Option Int
  sweptLevel : Option ℚ
  sweepCandleTime : Option Int
  d1Bias : Option String
  journalEntry : Option (JournalEntry json)

variable {json : Type}

def tradesBetween (table : List (JournalTrade json)) (userId : String) (start stop : Int) :
    List (JournalTrade json) :=
  table.filter fun t => decide (start ≤ t.createdAt ∧ t.createdAt < stop ∧ t.userId = userId)

structure Returned (rows answer : List (JournalTrade json)) : Prop where
  all : answer.Perm rows
  ordered : answer.Pairwise fun t u => t.createdAt ≤ u.createdAt

/-!
# A day
-/

inductive JournalMode where
  | continuation
  | reversal
  deriving DecidableEq, Repr

structure DayTrade (json : Type) where
  id : String
  symbol : String
  side : String
  mode : JournalMode
  lotSize : ℚ
  entryPrice : ℚ
  closePrice : Option ℚ
  slPrice : ℚ
  originalSlPrice : Option ℚ
  tpPrice : ℚ
  pnl : Option ℚ
  exitReason : Option String
  status : String
  openedAt : Int
  closedAt : Option Int
  sweptLevel : Option ℚ
  sweepCandleTime : Option Int
  d1Bias : Option String
  journal : JournalEntry json

structure DayTotals where
  tradesCount : Nat
  realizedPnl : ℚ
  winsCount : Nat
  lossesCount : Nat
  deriving DecidableEq, Repr

structure DayView (json : Type) where
  date : Int
  dayNote : Option String
  trades : List (DayTrade json)
  dayTotals : DayTotals

def noEntry : JournalEntry json :=
  { tags := [], reflectionNote := none, entryContext := none, exitContext := none
    setupSummary := "", outcome := none }

def dayTrade (t : JournalTrade json) : DayTrade json :=
  { id := t.id
    symbol := t.symbol
    side := t.side
    mode := if "CONTINUATION" ∈ t.setupTags.getD [] then .continuation else .reversal
    lotSize := t.lotSize
    entryPrice := t.entryPrice
    closePrice := t.closePrice
    slPrice := t.slPrice
    originalSlPrice := t.originalSlPrice
    tpPrice := t.tpPrice
    pnl := t.pnl
    exitReason := t.exitReason
    status := t.status
    openedAt := t.createdAt
    closedAt := t.closedAt
    sweptLevel := t.sweptLevel
    sweepCandleTime := t.sweepCandleTime
    d1Bias := t.d1Bias
    journal := t.journalEntry.getD noEntry }

def dayQuery (table : List (JournalTrade json)) (userId : String) (date : Int) :
    List (JournalTrade json) :=
  tradesBetween table userId (dayStart date) (dayStart (date + 1))

def getDay (date : Int) (trades : List (JournalTrade json)) (dayNote : Option String) :
    DayView json :=
  let tradeRows := trades.map dayTrade
  let realized := (tradeRows.map fun t => t.pnl.getD 0).sum
  let wins := tradeRows.filter fun t =>
    decide (1 / 2 < t.pnl.getD 0 ∧ t.exitReason ≠ some "FORCED_CLOSE")
  let losses := tradeRows.filter fun t =>
    decide (t.pnl.getD 0 < -(1 / 2) ∧ t.exitReason ≠ some "FORCED_CLOSE")
  { date := date
    dayNote := dayNote
    trades := tradeRows
    dayTotals :=
      { tradesCount := tradeRows.length
        realizedPnl := roundTo 100 realized
        winsCount := wins.length
        lossesCount := losses.length } }

/-!
# A month
-/

structure Month where
  year : Nat
  month : Nat
  year_le : year ≤ 9999
  month_pos : 1 ≤ month
  month_le : month ≤ 12
  deriving DecidableEq, Repr

def Month.start (m : Month) : Int :=
  utcDate m.year (m.month - 1) 1

def Month.stop (m : Month) : Int :=
  utcDate m.year m.month 1

def Month.daysInMonth (m : Month) : Nat :=
  (dayOfMonth (utcDate m.year m.month 0)).toNat

structure DayAggregate extends DayTotals where
  date : Int
  hasDayNote : Bool
  hasReflections : Bool
  hasOpenTrades : Bool
  deriving DecidableEq, Repr

structure MonthTotals extends DayTotals where
  winRatePct : Int
  deriving DecidableEq, Repr

structure WeekAggregate where
  weekStart : Int
  tradesCount : Nat
  realizedPnl : ℚ
  isPartial : Bool
  deriving DecidableEq, Repr

structure MonthView where
  month : Month
  days : List DayAggregate
  monthTotals : MonthTotals
  weeklyTotals : List WeekAggregate
  deriving DecidableEq, Repr

def blankDay (noteDates : List Int) (date : Int) : DayAggregate :=
  { date := date, tradesCount := 0, realizedPnl := 0, winsCount := 0, lossesCount := 0
    hasDayNote := decide (date ∈ noteDates), hasReflections := false, hasOpenTrades := false }

def countOutcome (d : DayAggregate) (p : ℚ) (exitReason : Option String) : DayAggregate :=
  if exitReason ≠ some "FORCED_CLOSE" then
    if 1 / 2 < p then { d with winsCount := d.winsCount + 1 }
    else if p < -(1 / 2) then { d with lossesCount := d.lossesCount + 1 }
    else d
  else d

def reflects (entry : JournalEntry json) : Bool :=
  decide (0 < entry.tags.length ∨ (entry.reflectionNote ≠ none ∧ entry.reflectionNote ≠ some ""))

def absorbTrade (d : DayAggregate) (t : JournalTrade json) : DayAggregate :=
  let p := t.pnl.getD 0
  let d := { d with
    tradesCount := d.tradesCount + 1
    realizedPnl := d.realizedPnl + p
    hasOpenTrades := d.hasOpenTrades || decide (t.status ≠ "CLOSED") }
  let d := countOutcome d p t.exitReason
  { d with hasReflections := d.hasReflections || t.journalEntry.elim false reflects }

def roundDay (d : DayAggregate) : DayAggregate :=
  { d with realizedPnl := roundTo 100 d.realizedPnl }

def monthQuery (table : List (JournalTrade json)) (userId : String) (m : Month) :
    List (JournalTrade json) :=
  tradesBetween table userId (dayStart m.start) (dayStart m.stop)

def tradeDay (t : JournalTrade json) : Int :=
  dayOf t.createdAt

def monthDays (m : Month) (trades : List (JournalTrade json)) (noteDates : List Int) :
    List DayAggregate :=
  let days := (List.range m.daysInMonth).map fun i : Nat =>
    blankDay noteDates (utcDate m.year (m.month - 1) (i + 1))
  (absorbAll tradeDay DayAggregate.date absorbTrade days trades).map roundDay

def totalsOverDays (days : List DayAggregate) : MonthTotals :=
  let totalWins := (days.map fun d => d.winsCount).sum
  let totalLosses := (days.map fun d => d.lossesCount).sum
  { tradesCount := (days.map fun d => d.tradesCount).sum
    realizedPnl := roundTo 100 (days.map fun d => d.realizedPnl).sum
    winsCount := totalWins
    lossesCount := totalLosses
    winRatePct :=
      if 0 < totalWins + totalLosses then
        roundHalfUp ((totalWins : ℚ) / (totalWins + totalLosses : Nat) * 100)
      else 0 }

/-- A week that reaches out of the month is partial. -/
def blankWeek (m : Month) (weekStart : Int) : WeekAggregate :=
  { weekStart := weekStart
    tradesCount := 0
    realizedPnl := 0
    isPartial := decide (weekStart < m.start ∨ m.stop < weekStart + 7) }

def weekStep (m : Month) (weeks : InsertionMap Int WeekAggregate) (d : DayAggregate) :
    InsertionMap Int WeekAggregate :=
  if d.tradesCount = 0 ∧ d.realizedPnl = 0 then weeks
  else
    let daysSinceMonday := (weekdayOf d.date + 6) % 7
    let weekStart := d.date - daysSinceMonday
    let w := (weeks.get weekStart).getD (blankWeek m weekStart)
    weeks.set weekStart
      { w with
        tradesCount := w.tradesCount + d.tradesCount
        realizedPnl := roundTo 100 (w.realizedPnl + d.realizedPnl) }

def weekMap (m : Month) (days : List DayAggregate) : InsertionMap Int WeekAggregate :=
  days.foldl (weekStep m) []

def getMonthAggregate (m : Month) (trades : List (JournalTrade json)) (noteDates : List Int) :
    MonthView :=
  let days := monthDays m trades noteDates
  { month := m
    days := days
    monthTotals := totalsOverDays days
    weeklyTotals := ((weekMap m days).map Prod.snd).mergeSort fun a b =>
      decide (a.weekStart ≤ b.weekStart) }

end Journal
end Shamarx
