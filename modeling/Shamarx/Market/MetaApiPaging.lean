import Mathlib.Data.Rat.Defs
import Shamarx.Foundation.KeyedRows
import Shamarx.Foundation.Timestamps

/-!
# Paging through MetaApi's candles

The market-data service answers a request with the last thousand candles at or
before its start time.  The loop moves that time to the oldest candle of each page
until the asked range is covered, then sorts the candles by the text of their time
and keeps one per text.
-/

namespace Shamarx
namespace Market
namespace MetaApiPaging

open Foundation
open KeyedRows

structure WireCandle where
  time : Stamp
  open_ : ℚ
  high : ℚ
  low : ℚ
  close : ℚ
  tickVolume : Option ℚ
  whole : time.microsecond = 0

structure CandleData where
  symbol : String
  timeframe : String
  openTime : List Char
  open_ : ℚ
  high : ℚ
  low : ℚ
  close : ℚ
  volume : ℚ
  deriving DecidableEq

/-- The arguments of a call, and what the service writes after the seconds of a time. -/
structure Query where
  symbol : String
  timeframe : String
  start : Stamp
  end_ : Stamp
  ending : String

def candleData (q : Query) (c : WireCandle) : CandleData :=
  { symbol := q.symbol
    timeframe := q.timeframe
    openTime := Stamp.isoText q.ending c.time
    open_ := c.open_
    high := c.high
    low := c.low
    close := c.close
    volume := c.tickVolume.getD 0 }

def InRange (q : Query) (c : WireCandle) : Prop :=
  q.start ≤ c.time ∧ c.time ≤ q.end_

instance (q : Query) (c : WireCandle) : Decidable (InRange q c) :=
  inferInstanceAs (Decidable (_ ∧ _))

def startTime (cursor : Stamp) : List Char :=
  Stamp.isoText ".000Z" cursor

def pageLimit : Nat := 1000

/-- The loop from a cursor, with the candles collected before it; a none means that the
fuel ran out. -/
def collectPages (service : List Char -> List WireCandle) (q : Query) :
    Nat -> Stamp -> List CandleData -> Option (List CandleData)
  | 0, _, _ => none
  | fuel + 1, currentEnd, allCandles =>
      match service (startTime currentEnd) with
      | [] => some allCandles
      | oldest :: rest =>
          let data := oldest :: rest
          let pageCandles := (data.filter fun c => decide (InRange q c)).map (candleData q)
          let allCandles := allCandles ++ pageCandles
          if oldest.time ≤ q.start then some allCandles
          else if currentEnd ≤ oldest.time then some allCandles
          else if data.length < pageLimit then some allCandles
          else collectPages service q fuel oldest.time allCandles

def getHistoricalCandles (service : List Char -> List WireCandle) (q : Query) (fuel : Nat) :
    Option (List CandleData) :=
  (collectPages service q fuel q.end_ []).map fun allCandles =>
    keepFirst CandleData.openTime [] (sortByKey CandleData.openTime allCandles)

/-!
# The service
-/

/-- Each page is the last candles at or before the cursor of its request. -/
def Serves (service : List Char -> List WireCandle) (history : List WireCandle) : Prop :=
  forall cursor, service (startTime cursor) = pageBefore WireCandle.time pageLimit history cursor

/-- A service that goes by the text of the request. -/
def textService (history : List WireCandle) (text : List Char) : List WireCandle :=
  (history.filter fun c => decide (startTime c.time ≤ text)).rtake pageLimit

/-- No candle lies in the fraction of a second that the request drops. -/
theorem startTime_le_iff (c : WireCandle) (cursor : Stamp) :
    startTime c.time ≤ startTime cursor <-> c.time ≤ cursor := by
  rw [<- not_lt, <- not_lt, startTime, startTime, Stamp.isoText_lt_iff, Stamp.lt_iff, c.whole]
  constructor
  · intro h hlt
    rcases hlt with hlt | hfraction
    · exact h hlt
    · exact Nat.not_lt_zero _ hfraction.2
  · intro h hlt
    exact h (Or.inl hlt)

theorem textService_serves (history : List WireCandle) :
    Serves (textService history) history := by
  intro cursor
  unfold textService pageBefore upTo
  congr 2
  funext c
  exact decide_eq_decide.mpr (startTime_le_iff c cursor)

/-!
# The collected candles
-/

section Collect

variable {service : List Char -> List WireCandle} {history : List WireCandle} {q : Query}

/-- What holds between two pages: only candles of the range are collected, and those
that are not lie at or before the cursor. -/
structure CollectedTo (q : Query) (history : List WireCandle) (cursor : Stamp)
    (allCandles : List CandleData) : Prop where
  sound : forall d, d ∈ allCandles -> exists c, c ∈ history ∧ InRange q c ∧ candleData q c = d
  complete : forall c, c ∈ history -> InRange q c -> c.time ≤ cursor ∨
    candleData q c ∈ allCandles

structure Collected (q : Query) (history : List WireCandle) (allCandles : List CandleData) :
    Prop where
  sound : forall d, d ∈ allCandles -> exists c, c ∈ history ∧ InRange q c ∧ candleData q c = d
  complete : forall c, c ∈ history -> InRange q c -> candleData q c ∈ allCandles

theorem collectedTo_start (q : Query) (history : List WireCandle) :
    CollectedTo q history q.end_ [] := by
  constructor
  · intro d hd
    cases hd
  · intro c _ hrange
    exact Or.inl hrange.2


def withPage (q : Query) (allCandles : List CandleData) (data : List WireCandle) :
    List CandleData :=
  allCandles ++ (data.filter fun c => decide (InRange q c)).map (candleData q)

theorem mem_withPage {allCandles : List CandleData} {data : List WireCandle} {c : WireCandle}
    (hc : c ∈ data) (hrange : InRange q c) :
    candleData q c ∈ withPage q allCandles data := by
  apply List.mem_append_right
  exact List.mem_map_of_mem (List.mem_filter.mpr ⟨hc, decide_eq_true hrange⟩)

variable {cursor : Stamp} {allCandles : List CandleData}

theorem CollectedTo.withPage_sound (h : CollectedTo q history cursor allCandles)
    {data : List WireCandle} (hdata : forall c, c ∈ data -> c ∈ history) :
    forall d, d ∈ withPage q allCandles data ->
      exists c, c ∈ history ∧ InRange q c ∧ candleData q c = d := by
  intro d hd
  rcases List.mem_append.mp hd with hold | hnew
  · exact h.sound d hold
  · rcases List.mem_map.mp hnew with ⟨c, hc, heq⟩
    have hkept := List.mem_filter.mp hc
    exact ⟨c, hdata c hkept.1, of_decide_eq_true hkept.2, heq⟩

theorem CollectedTo.withPage_cases (h : CollectedTo q history cursor allCandles)
    (hasc : Ascending WireCandle.time history) {c : WireCandle} (hc : c ∈ history)
    (hrange : InRange q c) :
    candleData q c ∈
        withPage q allCandles (pageBefore WireCandle.time pageLimit history cursor) ∨
      ((pageBefore WireCandle.time pageLimit history cursor).length = pageLimit ∧
        forall p, p ∈ pageBefore WireCandle.time pageLimit history cursor ->
          c.time < p.time) := by
  rcases h.complete c hc hrange with hle | hold
  · rcases mem_page_or_earlier pageLimit hasc hc hle with hpage | hearlier
    · exact Or.inl (mem_withPage hpage hrange)
    · exact Or.inr hearlier
  · exact Or.inl (List.mem_append_left _ hold)

theorem CollectedTo.finish (h : CollectedTo q history cursor allCandles)
    (hasc : Ascending WireCandle.time history)
    (hlast : forall c, c ∈ history -> InRange q c ->
      (pageBefore WireCandle.time pageLimit history cursor).length = pageLimit ->
      (forall p, p ∈ pageBefore WireCandle.time pageLimit history cursor ->
        c.time < p.time) -> False) :
    Collected q history
      (withPage q allCandles (pageBefore WireCandle.time pageLimit history cursor)) := by
  constructor
  · exact h.withPage_sound fun c hc => (mem_pageBefore hc).1
  · intro c hc hrange
    rcases h.withPage_cases hasc hc hrange with hmem | ⟨hfull, hearlier⟩
    · exact hmem
    · exact (hlast c hc hrange hfull hearlier).elim

theorem exists_later_of_full {oldest : WireCandle} {rest : List WireCandle}
    (hasc : Ascending WireCandle.time (oldest :: rest))
    (hfull : pageLimit ≤ (oldest :: rest).length) :
    exists p, p ∈ oldest :: rest ∧ oldest.time < p.time := by
  cases rest with
  | nil =>
      exact absurd hfull (by simp [pageLimit])
  | cons second rest' =>
      refine ⟨second, List.mem_cons_of_mem _ List.mem_cons_self, ?_⟩
      exact (List.pairwise_cons.mp hasc).1 second List.mem_cons_self

/-- Each round ends with all candles of the range, or moves the cursor and keeps what
holds between two pages. -/
theorem collectPages_complete (hserves : Serves service history)
    (hasc : Ascending WireCandle.time history) (fuel : Nat) :
    forall (cursor : Stamp) (allCandles : List CandleData),
      (upTo WireCandle.time history cursor).length < fuel ->
      CollectedTo q history cursor allCandles ->
      exists collected, collectPages service q fuel cursor allCandles = some collected ∧
        Collected q history collected := by
  induction fuel with
  | zero =>
      intro cursor allCandles hfuel
      omega
  | succ fuel ih =>
      intro cursor allCandles hfuel hcollected
      have hpage := hserves cursor
      have hfinish := hcollected.finish hasc
      have hpageAsc := hasc.pageBefore pageLimit cursor
      have hmem : forall c, c ∈ pageBefore WireCandle.time pageLimit history cursor ->
          c ∈ history ∧ c.time ≤ cursor := fun c hc => mem_pageBefore hc
      have hcases := fun c => hcollected.withPage_cases hasc (c := c)
      have hsound := hcollected.withPage_sound fun c hc => (hmem c hc).1
      unfold collectPages
      rw [hpage]
      generalize pageBefore WireCandle.time pageLimit history cursor = data at *
      cases data with
      | nil =>
          refine ⟨_, rfl, ?_⟩
          simpa [withPage] using hfinish fun c _ _ hfull _ => by cases hfull
      | cons oldest rest =>
          dsimp only
          have holdest : oldest ∈ oldest :: rest := List.mem_cons_self
          split_ifs with hstart hstuck hshort
          · refine ⟨_, rfl, hfinish ?_⟩
            intro c _ hrange _ hearlier
            exact absurd (hearlier oldest holdest) (not_lt.mpr (hstart.trans hrange.1))
          · refine ⟨_, rfl, hfinish ?_⟩
            intro c _ _ hfull _
            rcases exists_later_of_full hpageAsc hfull.ge with ⟨p, hp, hlater⟩
            exact absurd (hstuck.trans_lt hlater) (not_lt.mpr (hmem p hp).2)
          · refine ⟨_, rfl, hfinish ?_⟩
            intro c _ _ hfull _
            omega
          · apply ih
            · rcases exists_later_of_full hpageAsc (not_lt.mp hshort) with ⟨p, hp, hlater⟩
              have hfewer := length_upTo_lt (hmem p hp).1 hlater (hmem p hp).2
              omega
            · constructor
              · exact hsound
              · intro c hc hrange
                rcases hcases c hc hrange with hin | ⟨_, hearlier⟩
                · exact Or.inr hin
                · exact Or.inl (hearlier oldest holdest).le

end Collect

/-!
# The answer
-/

section Answer

variable {history : List WireCandle} {q : Query} {collected : List CandleData}

theorem ascending_candleData (hasc : Ascending WireCandle.time history) (q : Query) :
    Ascending CandleData.openTime (history.map (candleData q)) := by
  unfold Ascending
  rw [List.pairwise_map]
  apply hasc.imp
  intro a b hlt
  change Stamp.isoText q.ending a.time < Stamp.isoText q.ending b.time
  rw [Stamp.isoText_lt_iff]
  rcases (Stamp.lt_iff a.time b.time).mp hlt with hclock | ⟨_, hfraction⟩
  · exact hclock
  · rw [b.whole] at hfraction
    exact absurd hfraction (Nat.not_lt_zero _)

/-- Candles of one history with one text are one candle, so the sort and the removal of
duplicates lose none. -/
theorem mem_answer (hasc : Ascending WireCandle.time history)
    (h : Collected q history collected) (d : CandleData) :
    d ∈ keepFirst CandleData.openTime [] (sortByKey CandleData.openTime collected) <->
      d ∈ (history.filter fun c => decide (InRange q c)).map (candleData q) := by
  have hiff : forall d, d ∈ collected <->
      d ∈ (history.filter fun c => decide (InRange q c)).map (candleData q) := by
    intro d
    rw [List.mem_map]
    constructor
    · intro hd
      rcases h.sound d hd with ⟨c, hc, hrange, heq⟩
      exact ⟨c, List.mem_filter.mpr ⟨hc, decide_eq_true hrange⟩, heq⟩
    · intro hd
      rcases hd with ⟨c, hc, heq⟩
      have hkept := List.mem_filter.mp hc
      rw [<- heq]
      exact h.complete c hkept.1 (of_decide_eq_true hkept.2)
  have hrangeAsc := ascending_candleData (hasc.filter _ fun c => decide (InRange q c)) q
  rw [<- hiff]
  constructor
  · intro hd
    exact (mem_sortByKey _).mp ((keepFirst_sublist _ _ _).subset hd)
  · intro hd
    have hkey : d.openTime ∈
        (keepFirst CandleData.openTime []
          (sortByKey CandleData.openTime collected)).map CandleData.openTime := by
      rw [mem_keys_keepFirst]
      exact ⟨List.mem_map_of_mem ((mem_sortByKey _).mpr hd), List.not_mem_nil⟩
    rcases List.mem_map.mp hkey with ⟨d', hd', heq⟩
    have hcollected : d' ∈ collected :=
      (mem_sortByKey _).mp ((keepFirst_sublist _ _ _).subset hd')
    rw [<- hrangeAsc.eq_of_key _ ((hiff d').mp hcollected) ((hiff d).mp hd) heq]
    exact hd'

end Answer

/-- With fuel for one round per candle and one more, the loop ends and the answer is the
candles of the range in ascending order. -/
theorem historical_candles_complete {service : List Char -> List WireCandle}
    {history : List WireCandle} (hserves : Serves service history)
    (hasc : Ascending WireCandle.time history) (q : Query) {fuel : Nat}
    (hfuel : history.length < fuel) :
    getHistoricalCandles service q fuel =
        some ((history.filter fun c => decide (InRange q c)).map (candleData q)) ∧
      Ascending CandleData.openTime
        ((history.filter fun c => decide (InRange q c)).map (candleData q)) := by
  have hrangeAsc := ascending_candleData (hasc.filter _ fun c => decide (InRange q c)) q
  have henough : (upTo WireCandle.time history q.end_).length < fuel :=
    (List.length_filter_le _ _).trans_lt hfuel
  rcases collectPages_complete hserves hasc fuel q.end_ [] henough
    (collectedTo_start q history) with ⟨collected, hcollect, hcollected⟩
  refine ⟨?_, hrangeAsc⟩
  rw [getHistoricalCandles, hcollect, Option.map_some]
  congr 1
  exact eq_of_ascending _ (ascending_keepFirst_sortByKey _ collected) hrangeAsc
    (mem_answer hasc hcollected)

/-!
# More than a page of minutes
-/

def minuteOfDay (m : Nat) : Stamp :=
  { year := 2025, month := 1, day := 2, hour := m / 60 % 24, minute := m % 60, second := 0
    microsecond := 0
    year_bounds := by decide
    month_bounds := by decide
    day_bounds := by decide
    hour_lt := Nat.mod_lt _ (by decide)
    minute_lt := Nat.mod_lt _ (by decide)
    second_lt := by decide
    microsecond_lt := by decide }

def minuteCandle (m : Nat) : WireCandle :=
  { time := minuteOfDay m
    open_ := 2000 + m
    high := 2002 + m
    low := 1998 + m
    close := 2001 + m
    tickVolume := none
    whole := rfl }

def minuteHistory : List WireCandle :=
  (List.range 1100).map minuteCandle

def minuteQuery : Query :=
  { symbol := "XAUUSD"
    timeframe := "M1"
    start := minuteOfDay 0
    end_ := minuteOfDay 1099
    ending := ".000Z" }

theorem minuteOfDay_lt {a b : Nat} (h : a < b) (hb : b < 1440) :
    minuteOfDay a < minuteOfDay b := by
  have hclock : a / 60 % 24 < b / 60 % 24 ∨ a / 60 % 24 = b / 60 % 24 ∧ a % 60 < b % 60 := by
    omega
  rw [Stamp.lt_iff_key]
  simpa [Stamp.key, Stamp.clock, minuteOfDay, List.cons_lt_cons_iff] using hclock

theorem minuteOfDay_le {a b : Nat} (h : a ≤ b) (hb : b < 1440) :
    minuteOfDay a ≤ minuteOfDay b := by
  rcases Nat.eq_or_lt_of_le h with rfl | hlt
  · exact le_rfl
  · exact (minuteOfDay_lt hlt hb).le

theorem minuteHistory_ascending : Ascending WireCandle.time minuteHistory := by
  unfold Ascending minuteHistory
  rw [List.pairwise_map]
  apply List.Pairwise.imp_of_mem _ List.pairwise_lt_range
  intro a b _ hb hlt
  have hbound := List.mem_range.mp hb
  exact minuteOfDay_lt hlt (by omega)

theorem minuteHistory_length : minuteHistory.length = 1100 := by
  rw [minuteHistory, List.length_map, List.length_range]

theorem minuteHistory_inRange {c : WireCandle} (hc : c ∈ minuteHistory) :
    InRange minuteQuery c := by
  rcases List.mem_map.mp hc with ⟨m, hm, rfl⟩
  have hbound := List.mem_range.mp hm
  exact ⟨minuteOfDay_le (Nat.zero_le m) (by omega), minuteOfDay_le (by omega) (by omega)⟩

/-- The first page starts a hundred minutes after midnight, and a second one brings these. -/
theorem two_pages_of_minutes :
    (textService minuteHistory (startTime minuteQuery.end_)).length = pageLimit ∧
      getHistoricalCandles (textService minuteHistory) minuteQuery 1101 =
        some (minuteHistory.map (candleData minuteQuery)) := by
  have hupTo : upTo WireCandle.time minuteHistory minuteQuery.end_ = minuteHistory := by
    apply List.filter_eq_self.mpr
    intro c hc
    exact decide_eq_true (minuteHistory_inRange hc).2
  have hall : (minuteHistory.filter fun c => decide (InRange minuteQuery c)) = minuteHistory := by
    apply List.filter_eq_self.mpr
    intro c hc
    exact decide_eq_true (minuteHistory_inRange hc)
  constructor
  · rw [textService_serves, pageBefore, hupTo, List.rtake, List.length_drop,
      minuteHistory_length]
    rfl
  · have hfuel : minuteHistory.length < 1101 := by
      rw [minuteHistory_length]
      decide
    have hanswer := (historical_candles_complete (textService_serves minuteHistory)
      minuteHistory_ascending minuteQuery hfuel).1
    rw [hall] at hanswer
    exact hanswer

end MetaApiPaging
end Market
end Shamarx
