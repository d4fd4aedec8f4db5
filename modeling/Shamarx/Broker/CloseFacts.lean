import Shamarx.Engine.Instruments
import Shamarx.Foundation.Rounding
import Mathlib.Data.List.Infix
import Mathlib.Data.List.Sort
import Mathlib.Tactic.NormNum

/-!
# Booking of broker closes

Three adapters encode the closing deals of a position and one decoder books
them.  A deal of any broker has a price, a profit, a commission, a swap and an
instant in milliseconds after the epoch.
-/

namespace Shamarx
namespace Broker

open Foundation
open Engine

structure ClosingDeal where
  price : ℚ
  profit : ℚ
  commission : ℚ
  swap : ℚ
  time : Int

def ClosingDeal.net (d : ClosingDeal) : ℚ :=
  d.profit + d.commission + d.swap

def IsLatest (deals : List ClosingDeal) (d : ClosingDeal) : Prop :=
  d ∈ deals ∧ forall e, e ∈ deals -> e.time ≤ d.time

def totalNet (deals : List ClosingDeal) : ℚ :=
  (deals.map ClosingDeal.net).sum

/-!
# The answer of a history request
-/

/-- A close time on the wire: a digit string or an ISO text. -/
inductive TimeText where
  | digits (n : Nat)
  | iso (t : Int)

/-- The JSON body, with the fields of both response shapes. -/
structure CloseInfo where
  closePrice : Option ℚ
  realizedPnl : Option ℚ
  pnl : Option ℚ
  closeTime : Option TimeText
  reason : Option String

/-!
# MetaApi
-/

inductive DealEntry where
  | in_
  | out
  | inOut
  | outBy
  deriving DecidableEq, Repr

/-- A reversal and a close by the opposite position close as well. -/
def DealEntry.Closes (e : DealEntry) : Prop :=
  e ≠ .in_

instance (e : DealEntry) : Decidable e.Closes :=
  inferInstanceAs (Decidable (_ ≠ _))

structure MetaApiDeal where
  entryType : DealEntry
  price : ℚ
  profit : ℚ
  commission : ℚ
  swap : ℚ
  time : Int
  reason : String
  time_pos : 0 < time

def MetaApiDeal.closing (d : MetaApiDeal) : ClosingDeal :=
  { price := d.price, profit := d.profit, commission := d.commission, swap := d.swap,
    time := d.time }

def closingMetaApiDeals (deals : List MetaApiDeal) : List MetaApiDeal :=
  deals.filter fun d => decide (d.entryType = .out)

def mentions (text word : String) : Bool :=
  decide (word.toList <:+: text.toList)

def metaApiReason (reason : String) : String :=
  let raw := reason.toUpper
  if mentions raw "SL" then "SL"
  else if mentions raw "TP" then "TP"
  else if mentions raw "CLIENT" || mentions raw "EXPERT" || mentions raw "MOBILE" then "MANUAL"
  else "CLOSED"

def sortedByTime (deals : List MetaApiDeal) : List MetaApiDeal :=
  deals.insertionSort fun a b => a.time ≤ b.time

def metaApiCloseInfo (deals : List MetaApiDeal) : Option CloseInfo :=
  let closing := closingMetaApiDeals deals
  (sortedByTime closing).getLast?.map fun deal =>
    { closePrice := some deal.price
      realizedPnl := some (roundCents (closing.map fun d => d.closing.net).sum)
      pnl := none
      closeTime := some (.iso deal.time)
      reason := some (metaApiReason deal.reason) }

/-!
# cTrader

The deals of the account are asked for from seven days before the request on.
-/

/-- Money fields are integers in units of `10 ^ -moneyDigits`. -/
structure ClosePositionDetail where
  grossProfit : Int
  commission : Option Int
  swap : Int
  closeReason : Option String

structure CTraderDeal where
  positionId : Nat
  closePositionDetail : Option ClosePositionDetail
  moneyDigits : Nat
  commission : Int
  executionPrice : ℚ
  executionTimestamp : Nat
  time_pos : 0 < executionTimestamp

def CTraderDeal.money (d : CTraderDeal) (amount : Int) : ℚ :=
  (amount : ℚ) / 10 ^ d.moneyDigits

def CTraderDeal.closingOf (ticket : Nat) (d : CTraderDeal) : Option ClosingDeal :=
  if d.positionId = ticket then
    d.closePositionDetail.map fun cpd =>
      { price := d.executionPrice
        profit := d.money cpd.grossProfit
        commission := d.money (cpd.commission.getD d.commission)
        swap := d.money cpd.swap
        time := d.executionTimestamp }
  else none

def sevenDaysMs : Int := 7 * 24 * 3600 * 1000

def dealList (now : Int) (deals : List CTraderDeal) : List CTraderDeal :=
  deals.filter fun d =>
    decide (now - sevenDaysMs ≤ d.executionTimestamp ∧ (d.executionTimestamp : Int) ≤ now)

/-- The first closing deal of the position; commission and swap travel beside
the gross profit and are not added to it. -/
def ctraderCloseInfo (ticket : Nat) (deals : List CTraderDeal) (now : Int) :
    Option CloseInfo :=
  (dealList now deals).findSome? fun d =>
    if d.positionId = ticket then
      d.closePositionDetail.map fun cpd =>
        { closePrice := some d.executionPrice
          realizedPnl := none
          pnl := some (d.money cpd.grossProfit)
          closeTime := some (.digits d.executionTimestamp)
          reason := some (cpd.closeReason.getD "UNKNOWN") }
    else none

/-!
# MT5 through the bridge

The expert advisor walks the deals in the terminal's order, keeps the price and
time of the last closing one and sends the time in seconds.
-/

structure Mt5Deal where
  entry : DealEntry
  price : ℚ
  profit : ℚ
  commission : ℚ
  swap : ℚ
  timeSeconds : Nat
  reason : String
  time_pos : 0 < timeSeconds

def Mt5Deal.closing (d : Mt5Deal) : ClosingDeal :=
  { price := d.price, profit := d.profit, commission := d.commission, swap := d.swap,
    time := d.timeSeconds * 1000 }

structure Mt5Summary where
  pnl : ℚ
  closePrice : ℚ
  closeTime : Nat
  reason : String

def opHistoryStep (acc : Mt5Summary) (d : Mt5Deal) : Mt5Summary :=
  { pnl := acc.pnl + (d.profit + d.commission + d.swap)
    closePrice := d.price
    closeTime := d.timeSeconds
    reason :=
      if d.reason = "DEAL_REASON_SL" then "SL"
      else if d.reason = "DEAL_REASON_TP" then "TP"
      else acc.reason }

def closingMt5Deals (deals : List Mt5Deal) : List Mt5Deal :=
  deals.filter fun d => decide (d.entry = .out)

def mt5CloseInfo (deals : List Mt5Deal) : Option CloseInfo :=
  let closing := closingMt5Deals deals
  if closing = [] then none
  else
    let sum := closing.foldl opHistoryStep ⟨0, 0, 0, "CLOSED"⟩
    some
      { closePrice := some (roundAwayTo 100000 sum.closePrice)
        realizedPnl := some (roundAwayTo 100 sum.pnl)
        pnl := none
        closeTime := some (.digits sum.closeTime)
        reason := some sum.reason }

/-!
# The decoder
-/

structure OpenTrade where
  symbol : Instrument
  side : Side
  lotSize : ℚ
  entryPrice : ℚ
  slPrice : ℚ
  tpPrice : ℚ

def inferExitReason (closePrice slPrice tpPrice : ℚ) : String :=
  let span := |tpPrice - slPrice|
  let tol := span * (25 / 100)
  if span ≤ 0 then "CLOSED"
  else if |closePrice - tpPrice| ≤ tol then "TP"
  else if |closePrice - slPrice| ≤ tol then "SL"
  else "CLOSED"

/-- Reason text of the answer, folded to the two exits the engine knows. -/
def decodeReason (raw : Option String) : String :=
  match raw with
  | none => "CLOSED"
  | some text =>
      let r := text.toUpper
      if text = "" then "CLOSED"
      else if mentions r "TP" || mentions r "TAKE" then "TP"
      else if mentions r "SL" || mentions r "STOP" then "SL"
      else text

/-- A digit string counts as milliseconds; times up to the epoch are dropped. -/
def decodeTime (raw : Option TimeText) (now : Int) : Int :=
  let t := match raw with
    | some (.digits n) => some (n : Int)
    | some (.iso t) => some t
    | none => none
  match t with
  | some t => if 0 < t then t else now
  | none => now

structure CloseFacts where
  closePrice : ℚ
  pnl : ℚ
  exitReason : String
  closedAt : Int

def OpenTrade.midGuess (trade : OpenTrade) : ℚ :=
  (trade.slPrice + trade.tpPrice) / 2

def OpenTrade.profitAt (trade : OpenTrade) (price : ℚ) : ℚ :=
  let diff := match trade.side with
    | .buy => price - trade.entryPrice
    | .sell => trade.entryPrice - price
  let lotUnits := if trade.symbol = .XAUUSD then 100 else 100000
  let rawPnl := diff * trade.lotSize * lotUnits
  roundTo 100 (if trade.symbol.isJpyPair then rawPnl / price else rawPnl)

def estimatedFacts (trade : OpenTrade) (closePrice : Option ℚ) (exitReason : String)
    (closedAt : Int) : CloseFacts :=
  let price := closePrice.getD trade.midGuess
  let won := match trade.side with
    | .buy => decide (trade.entryPrice ≤ price)
    | .sell => decide (price ≤ trade.entryPrice)
  { closePrice := price
    pnl := trade.profitAt price
    exitReason :=
      if exitReason = "CLOSED" then (if won then "TP_EST" else "SL_EST") else exitReason
    closedAt := closedAt }

def finalizeFacts (trade : OpenTrade) (h : Option CloseInfo) (now : Int) : CloseFacts :=
  let closePrice := h.bind CloseInfo.closePrice
  let pnl := h.bind fun info => info.realizedPnl.or info.pnl
  let decoded := decodeReason (h.bind CloseInfo.reason)
  let closedAt := decodeTime (h.bind CloseInfo.closeTime) now
  let exitReason :=
    match closePrice with
    | some price =>
        if decoded = "TP" ∨ decoded = "SL" then decoded
        else inferExitReason price trade.slPrice trade.tpPrice
    | none => decoded
  match closePrice, pnl with
  | some price, some amount =>
      { closePrice := price, pnl := amount, exitReason := exitReason, closedAt := closedAt }
  | _, _ => estimatedFacts trade closePrice exitReason closedAt

def writtenFacts (facts : CloseFacts) : CloseFacts :=
  { facts with
    closePrice := roundTo 100000 facts.closePrice
    pnl := roundTo 100 facts.pnl }

/-!
# Faithful booking
-/

/-- What the broker of the account has on record: MetaApi and MT5 list the deals of
the position, cTrader those of the account. -/
inductive BrokerHistory where
  | metaApi (deals : List MetaApiDeal)
  | ctrader (ticket : Nat) (deals : List CTraderDeal)
  | mt5 (deals : List Mt5Deal)

/-- The closing deals of the position, whether its adapter sees them or not. -/
def BrokerHistory.closingDeals : BrokerHistory -> List ClosingDeal
  | .metaApi deals => (deals.filter fun d => decide d.entryType.Closes).map MetaApiDeal.closing
  | .ctrader ticket deals => deals.filterMap (CTraderDeal.closingOf ticket)
  | .mt5 deals => (deals.filter fun d => decide d.entry.Closes).map Mt5Deal.closing

/-- The answer of the account's adapter; the execution service and the monitor read
one clock. -/
def BrokerHistory.answer (now : Int) : BrokerHistory -> Option CloseInfo
  | .metaApi deals => metaApiCloseInfo deals
  | .ctrader ticket deals => ctraderCloseInfo ticket deals now
  | .mt5 deals => mt5CloseInfo deals

/-- What the default connection, MetaApi or the mock, has for the ticket. -/
structure DefaultReport where
  closePrice : ℚ
  realizedPnl : ℚ
  closeTime : Int
  exitReason : String
  time_pos : 0 < closeTime

def DefaultReport.info (r : DefaultReport) : CloseInfo :=
  { closePrice := some r.closePrice
    realizedPnl := some r.realizedPnl
    pnl := none
    closeTime := some (.iso r.closeTime)
    reason := some r.exitReason }

/-- Without an answer of the account's adapter the default connection is asked. -/
def bookedFacts (trade : OpenTrade) (history : BrokerHistory)
    (fallback : Option DefaultReport) (now : Int) : CloseFacts :=
  writtenFacts
    (finalizeFacts trade ((history.answer now).or (fallback.map DefaultReport.info)) now)

/-- Price and instant of a latest closing deal, and the total to the cent. -/
def BookedFaithfully (deals : List ClosingDeal) (facts : CloseFacts) : Prop :=
  (exists d, IsLatest deals d ∧ facts.closePrice = d.price ∧ facts.closedAt = d.time) ∧
    |facts.pnl - totalNet deals| ≤ 1 / 200

/-- A price, a profit and an instant that give a latest closing deal and the total once
they are on the grid of the row. -/
def Agree (deals : List ClosingDeal) (price amount : ℚ) (time : Int) : Prop :=
  (exists d, IsLatest deals d ∧ roundTo 100000 price = d.price ∧ time = d.time) ∧
    |roundTo 100 amount - totalNet deals| ≤ 1 / 200

/-- When a close that the account's adapter does not see is booked faithfully: the
default connection has one that agrees with it, or has none and the guess does. -/
def FallbackFaithful (trade : OpenTrade) (deals : List ClosingDeal)
    (fallback : Option DefaultReport) (now : Int) : Prop :=
  match fallback with
  | some report => Agree deals report.closePrice report.realizedPnl report.closeTime
  | none => Agree deals trade.midGuess (trade.profitAt trade.midGuess) now

/-- When a close is booked faithfully.  MetaApi: the deals out, of which the last by time
gives price and instant, agree with all closing deals.  cTrader: the first closing deal
of the last seven days does, with its gross profit.  MT5: never, once it sees a deal.  An
adapter that sees none leaves it to the default connection. -/
def AdapterFaithful (trade : OpenTrade) (history : BrokerHistory)
    (fallback : Option DefaultReport) (now : Int) : Prop :=
  match history with
  | .metaApi deals =>
      match (sortedByTime (closingMetaApiDeals deals)).getLast? with
      | some last =>
          Agree history.closingDeals last.price
            (roundCents ((closingMetaApiDeals deals).map fun d => d.closing.net).sum) last.time
      | none => FallbackFaithful trade history.closingDeals fallback now
  | .ctrader ticket deals =>
      match ((dealList now deals).filterMap (CTraderDeal.closingOf ticket)).head? with
      | some first => Agree history.closingDeals first.price first.profit first.time
      | none => FallbackFaithful trade history.closingDeals fallback now
  | .mt5 deals =>
      closingMt5Deals deals = [] ∧ FallbackFaithful trade history.closingDeals fallback now

/-!
# From an answer to the row
-/

section Booking

variable {trade : OpenTrade} {history : BrokerHistory} {fallback : Option DefaultReport}
  {now : Int}

theorem booked_iff_agree {info : CloseInfo} {price amount : ℚ} {time : Int}
    (hanswer : (history.answer now).or (fallback.map DefaultReport.info) = some info)
    (hprice : info.closePrice = some price) (hamount : info.realizedPnl.or info.pnl = some amount)
    (htime : decodeTime info.closeTime now = time) :
    BookedFaithfully history.closingDeals (bookedFacts trade history fallback now) ↔
      Agree history.closingDeals price amount time := by
  have hfacts : (bookedFacts trade history fallback now).closePrice = roundTo 100000 price ∧
      (bookedFacts trade history fallback now).pnl = roundTo 100 amount ∧
      (bookedFacts trade history fallback now).closedAt = time := by
    simp [bookedFacts, writtenFacts, finalizeFacts, hanswer, hprice, hamount, htime]
  rw [BookedFaithfully, hfacts.1, hfacts.2.1, hfacts.2.2]
  exact Iff.rfl

theorem booked_iff_fallback (hanswer : history.answer now = none) :
    BookedFaithfully history.closingDeals (bookedFacts trade history fallback now) ↔
      FallbackFaithful trade history.closingDeals fallback now := by
  cases fallback with
  | some report =>
      have hinfo : (history.answer now).or ((some report).map DefaultReport.info) =
          some report.info := by
        rw [hanswer]
        rfl
      exact booked_iff_agree hinfo rfl rfl (if_pos report.time_pos)
  | none =>
      have hfacts : (bookedFacts trade history none now).closePrice =
            roundTo 100000 trade.midGuess ∧
          (bookedFacts trade history none now).pnl =
            roundTo 100 (trade.profitAt trade.midGuess) ∧
          (bookedFacts trade history none now).closedAt = now := by
        simp [bookedFacts, writtenFacts, finalizeFacts, hanswer, estimatedFacts, decodeTime]
      rw [BookedFaithfully, hfacts.1, hfacts.2.1, hfacts.2.2]
      exact Iff.rfl

end Booking

/-!
# MetaApi books the last deal out
-/

theorem sortedByTime_last {deals : List MetaApiDeal} {last : MetaApiDeal}
    (h : (sortedByTime deals).getLast? = some last) :
    last ∈ deals ∧ forall e, e ∈ deals -> e.time ≤ last.time := by
  have hsorted : (sortedByTime deals).Pairwise fun a b => a.time ≤ b.time := by
    have : Std.Total fun a b : MetaApiDeal => a.time ≤ b.time :=
      ⟨fun a b => le_total a.time b.time⟩
    have : IsTrans MetaApiDeal fun a b => a.time ≤ b.time :=
      ⟨fun _ _ _ hab hbc => le_trans hab hbc⟩
    exact List.pairwise_insertionSort _ deals
  rcases List.getLast?_eq_some_iff.mp h with ⟨init, hsplit⟩
  have hmem : forall e, e ∈ deals ↔ e ∈ init ++ [last] := by
    intro e
    rw [← hsplit]
    exact (List.mem_insertionSort _).symm
  rw [hsplit, List.pairwise_append] at hsorted
  refine ⟨(hmem last).mpr (by simp), fun e he => ?_⟩
  rcases List.mem_append.mp ((hmem e).mp he) with hinit | hlast
  · exact hsorted.2.2 e hinit last (List.mem_singleton.mpr rfl)
  · rw [List.mem_singleton.mp hlast]

theorem metaApi_booked_iff (trade : OpenTrade) (deals : List MetaApiDeal)
    (fallback : Option DefaultReport) (now : Int) :
    BookedFaithfully (BrokerHistory.metaApi deals).closingDeals
        (bookedFacts trade (.metaApi deals) fallback now) ↔
      AdapterFaithful trade (.metaApi deals) fallback now := by
  cases hlast : (sortedByTime (closingMetaApiDeals deals)).getLast? with
  | none =>
      simp only [AdapterFaithful, hlast]
      apply booked_iff_fallback
      simp only [BrokerHistory.answer, metaApiCloseInfo, hlast, Option.map_none]
  | some last =>
      simp only [AdapterFaithful, hlast]
      apply booked_iff_agree
      · simp only [BrokerHistory.answer, metaApiCloseInfo, hlast, Option.map_some, Option.some_or]
        rfl
      · rfl
      · rfl
      · exact if_pos last.time_pos

theorem metaApi_booked_of_out (trade : OpenTrade) (deals : List MetaApiDeal)
    (fallback : Option DefaultReport) (now : Int)
    (hout : forall d, d ∈ deals -> d.entryType.Closes -> d.entryType = .out)
    {last : MetaApiDeal} {d : ClosingDeal}
    (hlast : (sortedByTime (closingMetaApiDeals deals)).getLast? = some last)
    (hd : IsLatest (BrokerHistory.metaApi deals).closingDeals d)
    (hprice : roundTo 100000 last.price = d.price) :
    BookedFaithfully (BrokerHistory.metaApi deals).closingDeals
      (bookedFacts trade (.metaApi deals) fallback now) := by
  have hsame : (deals.filter fun d => decide d.entryType.Closes) = closingMetaApiDeals deals := by
    apply List.filter_congr
    intro deal hdeal
    rw [decide_eq_decide]
    constructor
    · exact hout deal hdeal
    · intro hentry
      rw [DealEntry.Closes, hentry]
      exact DealEntry.noConfusion
  have hdeals : (BrokerHistory.metaApi deals).closingDeals =
      (closingMetaApiDeals deals).map MetaApiDeal.closing := by
    rw [BrokerHistory.closingDeals, hsame]
  rcases sortedByTime_last hlast with ⟨hmem, hmax⟩
  have htime : last.time = d.time := by
    have hd' := hd
    rw [hdeals] at hd'
    apply le_antisymm
    · exact hd'.2 last.closing (List.mem_map_of_mem hmem)
    · rcases List.mem_map.mp hd'.1 with ⟨raw, hraw, rfl⟩
      exact hmax raw hraw
  have hsum : ((closingMetaApiDeals deals).map fun d => d.closing.net).sum =
      totalNet (BrokerHistory.metaApi deals).closingDeals := by
    rw [totalNet, hdeals, List.map_map]
    rfl
  rw [metaApi_booked_iff]
  simp only [AdapterFaithful, hlast]
  refine ⟨⟨d, hd, hprice, htime⟩, ?_⟩
  rw [roundTo_roundCents, hsum]
  exact abs_roundCents_sub_le _

/-!
# cTrader books the first listed deal
-/

theorem ctraderCloseInfo_eq (ticket : Nat) (deals : List CTraderDeal) (now : Int) :
    match ((dealList now deals).filterMap (CTraderDeal.closingOf ticket)).head? with
    | some first =>
        exists info, ctraderCloseInfo ticket deals now = some info ∧
          info.closePrice = some first.price ∧ info.realizedPnl.or info.pnl = some first.profit ∧
          decodeTime info.closeTime now = first.time
    | none => ctraderCloseInfo ticket deals now = none := by
  unfold ctraderCloseInfo
  induction dealList now deals with
  | nil =>
      rfl
  | cons d rest ih =>
      rw [List.findSome?_cons]
      by_cases hpos : d.positionId = ticket
      · cases hdetail : d.closePositionDetail with
        | none =>
            rw [List.filterMap_cons_none (by simp [CTraderDeal.closingOf, hdetail]), if_pos hpos]
            exact ih
        | some cpd =>
            rw [List.filterMap_cons_some (by rw [CTraderDeal.closingOf, if_pos hpos, hdetail]; rfl),
              if_pos hpos]
            exact ⟨_, rfl, rfl, rfl, if_pos (Int.natCast_pos.mpr d.time_pos)⟩
      · rw [List.filterMap_cons_none (by rw [CTraderDeal.closingOf, if_neg hpos]), if_neg hpos]
        exact ih

theorem ctrader_booked_iff (trade : OpenTrade) (ticket : Nat) (deals : List CTraderDeal)
    (fallback : Option DefaultReport) (now : Int) :
    BookedFaithfully (BrokerHistory.ctrader ticket deals).closingDeals
        (bookedFacts trade (.ctrader ticket deals) fallback now) ↔
      AdapterFaithful trade (.ctrader ticket deals) fallback now := by
  have hinfo := ctraderCloseInfo_eq ticket deals now
  cases hfirst : ((dealList now deals).filterMap (CTraderDeal.closingOf ticket)).head? with
  | none =>
      simp only [hfirst] at hinfo
      simp only [AdapterFaithful, hfirst]
      exact booked_iff_fallback hinfo
  | some first =>
      simp only [hfirst] at hinfo
      simp only [AdapterFaithful, hfirst]
      rcases hinfo with ⟨info, hinfo, hprice, hamount, htime⟩
      refine booked_iff_agree ?_ hprice hamount htime
      rw [BrokerHistory.answer, hinfo, Option.some_or]

theorem closingOf_time {ticket : Nat} {d : CTraderDeal} {c : ClosingDeal}
    (h : CTraderDeal.closingOf ticket d = some c) : c.time = d.executionTimestamp := by
  unfold CTraderDeal.closingOf at h
  split_ifs at h
  rcases Option.map_eq_some_iff.mp h with ⟨cpd, -, rfl⟩
  rfl

/-- A position whose closes are all older than the window is not booked faithfully,
whatever they were, unless the default connection knows its ticket. -/
theorem ctrader_old_close_misbooked (trade : OpenTrade) (ticket : Nat) (deals : List CTraderDeal)
    (now : Int)
    (hold : forall d, d ∈ (BrokerHistory.ctrader ticket deals).closingDeals ->
      d.time < now - sevenDaysMs) :
    ¬ BookedFaithfully (BrokerHistory.ctrader ticket deals).closingDeals
      (bookedFacts trade (.ctrader ticket deals) none now) := by
  have hnone : (dealList now deals).filterMap (CTraderDeal.closingOf ticket) = [] := by
    apply List.filterMap_eq_nil_iff.mpr
    intro d hd
    rcases List.mem_filter.mp hd with ⟨hmem, hwindow⟩
    cases hclosing : CTraderDeal.closingOf ticket d with
    | none =>
        rfl
    | some c =>
        have hearly := hold c (List.mem_filterMap.mpr ⟨d, hmem, hclosing⟩)
        rw [closingOf_time hclosing] at hearly
        exact absurd (of_decide_eq_true hwindow).1 (not_le.mpr hearly)
  rw [ctrader_booked_iff, AdapterFaithful, hnone]
  rintro ⟨⟨d, hd, -, htime⟩, -⟩
  have hearly := hold d hd.1
  unfold sevenDaysMs at hearly
  omega

/-!
# MT5 books a time in 1970
-/

theorem mt5_never_faithful (trade : OpenTrade) (deals : List Mt5Deal)
    (fallback : Option DefaultReport) (now : Int) (hclosing : closingMt5Deals deals ≠ []) :
    ¬ BookedFaithfully (BrokerHistory.mt5 deals).closingDeals
      (bookedFacts trade (.mt5 deals) fallback now) := by
  rcases List.eq_nil_or_concat (closingMt5Deals deals) with hnil | ⟨init, last, hsplit⟩
  · exact absurd hnil hclosing
  · have htime : (bookedFacts trade (.mt5 deals) fallback now).closedAt = last.timeSeconds := by
      simp [bookedFacts, writtenFacts, finalizeFacts, BrokerHistory.answer, mt5CloseInfo,
        hsplit, List.foldl_append, opHistoryStep, decodeTime, last.time_pos]
    rintro ⟨⟨d, hd, -, hdtime⟩, -⟩
    have hlast : last ∈ closingMt5Deals deals := by
      rw [hsplit]
      simp
    have hin : last.closing ∈ (BrokerHistory.mt5 deals).closingDeals := by
      rcases List.mem_filter.mp hlast with ⟨hmem, hout⟩
      refine List.mem_map_of_mem (List.mem_filter.mpr ⟨hmem, ?_⟩)
      rw [decide_eq_true_eq] at hout ⊢
      rw [DealEntry.Closes, hout]
      exact DealEntry.noConfusion
    have hle := hd.2 _ hin
    rw [← hdtime, htime] at hle
    have hpos := last.time_pos
    simp only [Mt5Deal.closing] at hle
    omega

theorem mt5_booked_iff (trade : OpenTrade) (deals : List Mt5Deal)
    (fallback : Option DefaultReport) (now : Int) :
    BookedFaithfully (BrokerHistory.mt5 deals).closingDeals
        (bookedFacts trade (.mt5 deals) fallback now) ↔
      AdapterFaithful trade (.mt5 deals) fallback now := by
  by_cases hclosing : closingMt5Deals deals = []
  · refine (booked_iff_fallback ?_).trans (iff_and_self.mpr fun _ => hclosing)
    rw [BrokerHistory.answer, mt5CloseInfo, if_pos hclosing]
  · exact iff_of_false (mt5_never_faithful trade deals fallback now hclosing)
      fun hfaithful => hclosing hfaithful.1

/-- A close is booked faithfully exactly when the condition of its adapter holds. -/
theorem booked_faithfully_iff (trade : OpenTrade) (history : BrokerHistory)
    (fallback : Option DefaultReport) (now : Int) :
    BookedFaithfully history.closingDeals (bookedFacts trade history fallback now) ↔
      AdapterFaithful trade history fallback now := by
  cases history with
  | metaApi deals =>
      exact metaApi_booked_iff trade deals fallback now
  | ctrader ticket deals =>
      exact ctrader_booked_iff trade ticket deals fallback now
  | mt5 deals =>
      exact mt5_booked_iff trade deals fallback now

/-!
# Two partial closes of a gold position
-/

def goldTrade : OpenTrade :=
  { symbol := .XAUUSD, side := .buy, lotSize := 10 / 100, entryPrice := 2000,
    slPrice := 1990, tpPrice := 2040 }

def ctraderPartials : BrokerHistory :=
  .ctrader 100
    [{ positionId := 100
       closePositionDetail := some ⟨5000, some (-350), 0, none⟩
       moneyDigits := 2, commission := 0, executionPrice := 2010
       executionTimestamp := 1700000000000, time_pos := by decide },
     { positionId := 100
       closePositionDetail := some ⟨10000, some (-350), 0, none⟩
       moneyDigits := 2, commission := 0, executionPrice := 2020
       executionTimestamp := 1700000600000, time_pos := by decide }]

/-- The first deal's gross 50 is booked where the position made 143 net. -/
theorem ctrader_partials_misbooked :
    ctraderPartials.closingDeals ≠ [] ∧
      ¬ BookedFaithfully ctraderPartials.closingDeals
        (bookedFacts goldTrade ctraderPartials none 1700001000000) := by
  have hne : ctraderPartials.closingDeals ≠ [] := by
    intro hnil
    cases hnil
  refine ⟨hne, ?_⟩
  rintro ⟨-, htotal⟩
  have hpnl : (bookedFacts goldTrade ctraderPartials none 1700001000000).pnl = 50 := by
    decide +kernel
  have hsum : totalNet ctraderPartials.closingDeals = 143 := by
    decide +kernel
  rw [hpnl, hsum] at htotal
  norm_num at htotal

end Broker
end Shamarx
