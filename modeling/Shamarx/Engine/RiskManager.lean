import Shamarx.Engine.Instruments
import Shamarx.Foundation.Rounding

/-!
# Risk manager

The drawdown, loss-streak and daily-loss brakes of one pair, with the lot
sizing that reads them and the snapshot that persists them.  Dates are instants;
the source compares their first ten characters, that is, their UTC days.  The
local-time calls of the source are read in a UTC environment.
-/

namespace Shamarx
namespace Engine

open Foundation

structure EngineConfig where
  symbol : Instrument
  initialBalance : ℚ
  riskPercent : ℚ
  maxDailyLossPercent : ℚ
  maxConsecutiveLosses : Nat
  maxOpenPositions : Nat

inductive ExitReason where
  | sl
  | tp
  | breakeven
  | forcedClose
  deriving DecidableEq, Repr

structure TradeLogEntry where
  date : Int
  pnl : ℚ
  isLoss : Bool
  deriving DecidableEq

structure RiskManager where
  config : EngineConfig
  balance : ℚ
  equity : ℚ
  dailyPnl : ℚ
  consecutiveLosses : Nat
  consecutiveWins : Nat
  lastTradeDate : Option Int
  weeklyPeakEquity : ℚ
  currentWeekNumber : Int
  pauseUntilDate : Option Int
  consecutiveLossPauseUntil : Option Int
  awaitingPostPauseTrade : Bool
  overallPeakEquity : ℚ
  tradeLog : List TradeLogEntry
  equityDdPauseUntil : Option Int
  lastDdTierTriggered : Nat
  rolling7DayPauseUntil : Option Int
  hardKilled : Bool

namespace RiskManager

def weeklyDdThreshold : ℚ := 8
def weeklyDdPauseDays : Nat := 5
def tradeLogKeep : Nat := 30
def hardKillDdPercent : ℚ := 40

def create (config : EngineConfig) : RiskManager :=
  { config := config
    balance := config.initialBalance
    equity := config.initialBalance
    dailyPnl := 0
    consecutiveLosses := 0
    consecutiveWins := 0
    lastTradeDate := none
    weeklyPeakEquity := config.initialBalance
    currentWeekNumber := -1
    pauseUntilDate := none
    consecutiveLossPauseUntil := none
    awaitingPostPauseTrade := false
    overallPeakEquity := config.initialBalance
    tradeLog := []
    equityDdPauseUntil := none
    lastDdTierTriggered := 0
    rolling7DayPauseUntil := none
    hardKilled := false }

/-!
# Date helpers
-/

/-- The day loop of `addTradingDays`: one calendar day per round, counting the
weekdays still to add. -/
def addTradingDaysLoop : Nat -> Int -> Nat -> Int
  | 0, d, _ => d
  | _ + 1, d, 0 => d
  | fuel + 1, d, remaining + 1 =>
      if IsWeekend (d + 1) then addTradingDaysLoop fuel (d + 1) (remaining + 1)
      else addTradingDaysLoop fuel (d + 1) remaining

/-- Three rounds of the loop always meet a weekday. -/
def addTradingDays (d : Int) (days : Nat) : Int :=
  addTradingDaysLoop (3 * days) d days

def getISOWeek (currentDate : Int) : Int :=
  let d := dayOf currentDate
  let dayOfYear := d - yearStart (yearOf d) + 1
  (dayOfYear + 6) / 7

def maybeResetDaily (rm : RiskManager) (currentDate : Int) : RiskManager :=
  match rm.lastTradeDate with
  | some last =>
      if dayOf currentDate ≠ dayOf last then { rm with dailyPnl := 0 } else rm
  | none => rm

def maybeResetWeekly (rm : RiskManager) (currentDate : Int) : RiskManager :=
  let weekNum := getISOWeek currentDate
  if weekNum ≠ rm.currentWeekNumber then
    { rm with currentWeekNumber := weekNum, weeklyPeakEquity := rm.equity }
  else rm

def Paused (day : Int) : Option Int -> Prop
  | some pauseEnd => day < pauseEnd
  | none => False

instance (day : Int) (pause : Option Int) : Decidable (Paused day pause) :=
  match pause with
  | some pauseEnd => inferInstanceAs (Decidable (day < pauseEnd))
  | none => inferInstanceAs (Decidable False)

/-!
# Drawdown and loss counters
-/

def getEquityDdPercent (rm : RiskManager) : ℚ :=
  if 0 < rm.overallPeakEquity then
    (rm.overallPeakEquity - rm.equity) / rm.overallPeakEquity * 100
  else 0

/-- Losses of the last seven days; with no date there is nothing to compare. -/
def getRolling7DayLosses (rm : RiskManager) : Option Int -> Nat
  | some day => (rm.tradeLog.filter fun t => t.isLoss && decide (day - t.date ≤ 7)).length
  | none => 0

inductive TradingMode where
  | aggressive
  | normal
  | defensive
  deriving DecidableEq, Repr

def getTradingMode (rm : RiskManager) : TradingMode :=
  let ddPercent := rm.getEquityDdPercent
  let rolling7dLosses := rm.getRolling7DayLosses (rm.lastTradeDate.map dayOf)
  if 15 ≤ ddPercent then .defensive
  else if 4 ≤ rm.consecutiveLosses then .defensive
  else if 5 ≤ rolling7dLosses then .defensive
  else if ddPercent < 5 ∧ 2 ≤ rm.consecutiveWins then .aggressive
  else .normal

/-!
# Trade gate
-/

/-- The part of `canTrade` after the pauses: daily loss, loss streak, cap. -/
def canTradeLimits (rm : RiskManager) (day : Int) (openPositionCount : Nat) :
    RiskManager × Bool :=
  if PercentAtMost rm.dailyPnl rm.balance (-rm.config.maxDailyLossPercent) then (rm, false)
  else if rm.awaitingPostPauseTrade = false ∧
      rm.config.maxConsecutiveLosses ≤ rm.consecutiveLosses then
    let excess := rm.consecutiveLosses - rm.config.maxConsecutiveLosses
    let pauseDays := if 2 ≤ excess then 5 else if 1 ≤ excess then 3 else 1
    ({ rm with consecutiveLossPauseUntil := some (addTradingDays day pauseDays) }, false)
  else if rm.config.maxOpenPositions ≤ openPositionCount then (rm, false)
  else (rm, true)

def canTradeStreak (rm : RiskManager) (day : Int) (openPositionCount : Nat) :
    RiskManager × Bool :=
  if Paused day rm.consecutiveLossPauseUntil then (rm, false)
  else if rm.consecutiveLossPauseUntil.isSome then
    canTradeLimits
      { rm with consecutiveLossPauseUntil := none, awaitingPostPauseTrade := true }
      day openPositionCount
  else canTradeLimits rm day openPositionCount

def canTradeRolling (rm : RiskManager) (day : Int) (openPositionCount : Nat) :
    RiskManager × Bool :=
  if Paused day rm.rolling7DayPauseUntil then (rm, false)
  else if 4 ≤ rm.getRolling7DayLosses (some day) then
    ({ rm with rolling7DayPauseUntil := some (addTradingDays day 5) }, false)
  else canTradeStreak rm day openPositionCount

def canTradePauses (rm : RiskManager) (day : Int) (openPositionCount : Nat) :
    RiskManager × Bool :=
  if Paused day rm.pauseUntilDate then (rm, false)
  else if Paused day rm.equityDdPauseUntil then (rm, false)
  else canTradeRolling { rm with equityDdPauseUntil := none } day openPositionCount

def canTrade (rm : RiskManager) (currentDate : Int) (openPositionCount : Nat) :
    RiskManager × Bool :=
  if rm.hardKilled then (rm, false)
  else
    canTradePauses ((rm.maybeResetDaily currentDate).maybeResetWeekly currentDate)
      (dayOf currentDate) openPositionCount

/-!
# Lot sizing
-/

def getRegimeMultiplier : Option DetailedRegime -> ℚ
  | none => 1
  | some .strongTrend => 12 / 10
  | some .weakTrend => 9 / 10
  | some .ranging => 7 / 10
  | some .volatile => 6 / 10
  | some .transitioning => 8 / 10

def getQualityMultiplier : Option ℚ -> ℚ
  | none => 1
  | some quality =>
      if 75 ≤ quality then 13 / 10
      else if 65 ≤ quality then 115 / 100
      else if 55 ≤ quality then 1
      else if 45 ≤ quality then 85 / 100
      else if 35 ≤ quality then 7 / 10
      else 5 / 10

def getConfidenceMultiplier : Option ℚ -> ℚ
  | none => 1
  | some confidence =>
      if 70 ≤ confidence then 12 / 10
      else if 60 ≤ confidence then 11 / 10
      else if 50 ≤ confidence then 1
      else if 40 ≤ confidence then 9 / 10
      else if 30 ≤ confidence then 8 / 10
      else 7 / 10

def getDdMultiplier (ddPercent : ℚ) : ℚ :=
  if ddPercent < 10 then 1
  else if ddPercent < 20 then 1 / 2
  else if ddPercent < 30 then 1 / 4
  else 1 / 10

def effectiveRisk (rm : RiskManager) (qualityScore : Option ℚ)
    (regime : Option DetailedRegime) (engineConfidence : Option ℚ) : ℚ :=
  let scaled :=
    rm.config.riskPercent * getRegimeMultiplier regime *
      getQualityMultiplier qualityScore * getConfidenceMultiplier engineConfidence *
      getDdMultiplier rm.getEquityDdPercent
  let scaled :=
    if rm.getTradingMode = .defensive ∧ rm.consecutiveWins < 3 then scaled * (1 / 2)
    else scaled
  max (1 / 2) (min 4 scaled)

/-- Dollar risk of one lot: a JPY quote is divided by the current price. -/
def usdPerLot (symbol : Instrument) (slPoints : ℚ) (currentPrice : Option ℚ) : ℚ :=
  let raw := slPoints * (getInstrumentConfig symbol).lotSizeUnits
  match currentPrice with
  | some price => if symbol.isJpyPair ∧ price ≠ 0 then raw / price else raw
  | none => raw

def calculateLotSize (rm : RiskManager) (slPoints : ℚ) (qualityScore : Option ℚ)
    (regime : Option DetailedRegime) (engineConfidence currentPrice : Option ℚ) : ℚ :=
  let risk := rm.effectiveRisk qualityScore regime engineConfidence
  let riskAmount := rm.balance * (risk / 100)
  let perLot := usdPerLot rm.config.symbol slPoints currentPrice
  let idealLot := riskAmount / perLot
  let lotSize := roundTo 100 (max (1 / 100) (min 1 idealLot))
  if PercentAbove (lotSize * perLot) rm.balance (risk * (110 / 100)) then 0 else lotSize

/-!
# Recording a trade
-/

def recordStreak (rm : RiskManager) (pnl : ℚ) (exitReason : Option ExitReason) :
    RiskManager :=
  if exitReason = some .breakeven then { rm with consecutiveLosses := 0 }
  else if exitReason = some .tp then
    { rm with consecutiveLosses := 0, consecutiveWins := rm.consecutiveWins + 1 }
  else if pnl < 0 then
    { rm with consecutiveLosses := rm.consecutiveLosses + 1, consecutiveWins := 0 }
  else rm

def raisePeaks (rm : RiskManager) : RiskManager :=
  let rm :=
    if rm.weeklyPeakEquity < rm.equity then { rm with weeklyPeakEquity := rm.equity }
    else rm
  if rm.overallPeakEquity < rm.equity then
    { rm with overallPeakEquity := rm.equity, lastDdTierTriggered := 0 }
  else rm

def drawdownBrakes (rm : RiskManager) (day : Int) : RiskManager :=
  let ddPercent := rm.getEquityDdPercent
  let rm := if hardKillDdPercent ≤ ddPercent then { rm with hardKilled := true } else rm
  if 35 ≤ ddPercent ∧ rm.lastDdTierTriggered < 35 then
    { rm with lastDdTierTriggered := 35, equityDdPauseUntil := some (addTradingDays day 30) }
  else if 25 ≤ ddPercent ∧ rm.lastDdTierTriggered < 25 then
    { rm with lastDdTierTriggered := 25, equityDdPauseUntil := some (addTradingDays day 7) }
  else if 15 ≤ ddPercent ∧ rm.lastDdTierTriggered < 15 then
    { rm with lastDdTierTriggered := 15, equityDdPauseUntil := some (addTradingDays day 3) }
  else rm

def weeklyBrake (rm : RiskManager) (day : Int) : RiskManager :=
  if PercentAtLeast (rm.weeklyPeakEquity - rm.equity) rm.weeklyPeakEquity
      weeklyDdThreshold then
    { rm with pauseUntilDate := some (addTradingDays day weeklyDdPauseDays) }
  else rm

def recordTrade (rm : RiskManager) (pnl : ℚ) (tradeDate : Int)
    (exitReason : Option ExitReason) : RiskManager :=
  let rm := (rm.maybeResetDaily tradeDate).maybeResetWeekly tradeDate
  let day := dayOf tradeDate
  let rm : RiskManager :=
    { rm with
      awaitingPostPauseTrade := false
      balance := rm.balance + pnl
      equity := rm.balance + pnl
      dailyPnl := rm.dailyPnl + pnl
      tradeLog := rm.tradeLog ++
        [{ date := day, pnl := pnl,
           isLoss := decide (pnl < 0 ∧ exitReason ≠ some .breakeven) }] }
  let rm := (rm.recordStreak pnl exitReason).raisePeaks
  { (rm.drawdownBrakes day).weeklyBrake day with lastTradeDate := some tradeDate }

/-!
# Snapshot and restore
-/

/-- The persisted fields.  Restoring reads a partial snapshot, so every field is
an option; a field that is `null` and one that is absent read the same. -/
structure Snapshot where
  balance : Option ℚ
  equity : Option ℚ
  dailyPnl : Option ℚ
  consecutiveLosses : Option Nat
  consecutiveWins : Option Nat
  lastTradeDate : Option Int
  weeklyPeakEquity : Option ℚ
  currentWeekNumber : Option Int
  pauseUntilDate : Option Int
  consecutiveLossPauseUntil : Option Int
  awaitingPostPauseTrade : Option Bool
  overallPeakEquity : Option ℚ
  tradeLog : Option (List TradeLogEntry)
  equityDdPauseUntil : Option Int
  lastDdTierTriggered : Option Nat
  rolling7DayPauseUntil : Option Int
  hardKilled : Option Bool
  deriving DecidableEq

def lastN (n : Nat) (xs : List entry) : List entry :=
  xs.drop (xs.length - n)

def snapshot (rm : RiskManager) : Snapshot :=
  { balance := some rm.balance
    equity := some rm.equity
    dailyPnl := some rm.dailyPnl
    consecutiveLosses := some rm.consecutiveLosses
    consecutiveWins := some rm.consecutiveWins
    lastTradeDate := rm.lastTradeDate
    weeklyPeakEquity := some rm.weeklyPeakEquity
    currentWeekNumber := some rm.currentWeekNumber
    pauseUntilDate := rm.pauseUntilDate
    consecutiveLossPauseUntil := rm.consecutiveLossPauseUntil
    awaitingPostPauseTrade := some rm.awaitingPostPauseTrade
    overallPeakEquity := some rm.overallPeakEquity
    tradeLog := some (lastN tradeLogKeep rm.tradeLog)
    equityDdPauseUntil := rm.equityDdPauseUntil
    lastDdTierTriggered := some rm.lastDdTierTriggered
    rolling7DayPauseUntil := rm.rolling7DayPauseUntil
    hardKilled := some rm.hardKilled }

def restore (rm : RiskManager) (snap : Snapshot) : RiskManager :=
  { config := rm.config
    balance := snap.balance.getD rm.balance
    equity := snap.equity.getD rm.equity
    dailyPnl := snap.dailyPnl.getD 0
    consecutiveLosses := snap.consecutiveLosses.getD 0
    consecutiveWins := snap.consecutiveWins.getD 0
    lastTradeDate := snap.lastTradeDate
    weeklyPeakEquity := snap.weeklyPeakEquity.getD rm.weeklyPeakEquity
    currentWeekNumber := snap.currentWeekNumber.getD (-1)
    pauseUntilDate := snap.pauseUntilDate
    consecutiveLossPauseUntil := snap.consecutiveLossPauseUntil
    awaitingPostPauseTrade := snap.awaitingPostPauseTrade.getD false
    overallPeakEquity := snap.overallPeakEquity.getD rm.overallPeakEquity
    tradeLog := snap.tradeLog.getD []
    equityDdPauseUntil := snap.equityDdPauseUntil
    lastDdTierTriggered := snap.lastDdTierTriggered.getD 0
    rolling7DayPauseUntil := snap.rolling7DayPauseUntil
    hardKilled := snap.hardKilled.getD false }

end RiskManager
end Engine
end Shamarx
