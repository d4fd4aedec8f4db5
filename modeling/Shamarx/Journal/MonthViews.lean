import Mathlib.Data.List.Induction
import Shamarx.Foundation.Weekdays
import Shamarx.Journal.JournalService

/-!
# The views of the journal

The month shows of each day what the day's own view shows, and its weeks share out its
trades.
-/

namespace Shamarx
namespace Journal

open Foundation

def tradePnl {json : Type} (t : JournalTrade json) : ℚ :=
  t.pnl.getD 0

def tradeWeek {json : Type} (t : JournalTrade json) : Int :=
  mondayOf (tradeDay t)

def OfMonth {json : Type} (userId : String) (m : Month) (t : JournalTrade json) : Prop :=
  t.userId = userId ∧ m.start ≤ tradeDay t ∧ tradeDay t < m.stop

instance {json : Type} (userId : String) (m : Month) (t : JournalTrade json) :
    Decidable (OfMonth userId m t) :=
  inferInstanceAs (Decidable (_ ∧ _ ∧ _))

def tradesOfWeek {json : Type} (table : List (JournalTrade json)) (userId : String) (m : Month)
    (monday : Int) : List (JournalTrade json) :=
  table.filter fun t => decide (OfMonth userId m t ∧ tradeWeek t = monday)

def InWeek {json : Type} (t : JournalTrade json) (w : WeekAggregate) : Prop :=
  w.weekStart ≤ tradeDay t ∧ tradeDay t < w.weekStart + 7

structure ViewsAgree {json : Type} (table : List (JournalTrade json)) (userId : String)
    (m : Month) (view : MonthView) : Prop where
  dates : forall d, d ∈ view.days.map DayAggregate.date <-> m.start ≤ d ∧ d < m.stop
  dates_ascending : (view.days.map DayAggregate.date).Pairwise (· < ·)
  days : forall day, day ∈ view.days -> forall trades dayNote,
    Returned (dayQuery table userId day.date) trades ->
      day.toDayTotals = (getDay day.date trades dayNote).dayTotals
  totals : view.monthTotals.toDayTotals =
    { tradesCount := (view.days.map fun day => day.tradesCount).sum
      realizedPnl := (view.days.map fun day => day.realizedPnl).sum
      winsCount := (view.days.map fun day => day.winsCount).sum
      lossesCount := (view.days.map fun day => day.lossesCount).sum }
  weeks_ascending : (view.weeklyTotals.map WeekAggregate.weekStart).Pairwise (· < ·)
  mondays : forall w, w ∈ view.weeklyTotals -> weekdayOf w.weekStart = 1
  weeks : forall w, w ∈ view.weeklyTotals ->
    w.tradesCount = (tradesOfWeek table userId m w.weekStart).length ∧
      w.realizedPnl = ((tradesOfWeek table userId m w.weekStart).map tradePnl).sum
  covered : forall t, t ∈ table -> OfMonth userId m t -> exists w, w ∈ view.weeklyTotals ∧
    InWeek t w ∧ forall v, v ∈ view.weeklyTotals -> InWeek t v -> v = w
  weekCounts : (view.weeklyTotals.map WeekAggregate.tradesCount).sum =
    view.monthTotals.tradesCount
  weekPnls : (view.weeklyTotals.map WeekAggregate.realizedPnl).sum = view.monthTotals.realizedPnl

section Views

variable {json : Type} {table trades : List (JournalTrade json)} {userId : String} {m : Month}
  {noteDates : List Int}

/-!
# Dates of a month
-/

def monthDates (m : Month) : List Int :=
  (List.range m.daysInMonth).map fun i : Nat => m.start + i

theorem daysInMonth_eq (m : Month) : (m.daysInMonth : Int) = m.stop - m.start := by
  have hdays := dayOfMonth_utcDate_zero m.year (m.month - 1)
  rw [sub_add_cancel] at hdays
  unfold Month.daysInMonth Month.start Month.stop
  omega

theorem mem_monthDates {d : Int} : d ∈ monthDates m <-> m.start ≤ d ∧ d < m.stop := by
  have hdays := daysInMonth_eq m
  unfold monthDates
  rw [List.mem_map]
  constructor
  · intro hmem
    rcases hmem with ⟨i, hi, rfl⟩
    rw [List.mem_range] at hi
    omega
  · intro hd
    exact ⟨(d - m.start).toNat, List.mem_range.mpr (by omega), by omega⟩

theorem monthDates_ascending (m : Month) : (monthDates m).Pairwise (· < ·) := by
  unfold monthDates
  rw [List.pairwise_map]
  refine List.pairwise_lt_range.imp ?_
  intro i j hij
  omega

theorem nodup_monthDates (m : Month) : (monthDates m).Nodup :=
  (monthDates_ascending m).imp ne_of_lt

/-!
# Trades of a day
-/

theorem dayStart_le_iff (d t : Int) : dayStart d ≤ t <-> d ≤ dayOf t := by
  unfold dayStart dayOf msPerDay
  omega

theorem lt_dayStart_iff (t d : Int) : t < dayStart d <-> dayOf t < d := by
  rw [<- not_le, <- not_le, dayStart_le_iff]

theorem monthQuery_eq (table : List (JournalTrade json)) (userId : String) (m : Month) :
    monthQuery table userId m = table.filter fun t => decide (OfMonth userId m t) := by
  unfold monthQuery tradesBetween
  apply List.filter_congr
  intro t _
  rw [decide_eq_decide, dayStart_le_iff, lt_dayStart_iff]
  unfold OfMonth tradeDay
  tauto

theorem mem_monthQuery {t : JournalTrade json} :
    t ∈ monthQuery table userId m <-> t ∈ table ∧ OfMonth userId m t := by
  rw [monthQuery_eq, List.mem_filter, decide_eq_true_iff]

theorem itemsOf_monthQuery (table : List (JournalTrade json)) (userId : String) (m : Month)
    (monday : Int) :
    itemsOf tradeWeek (monthQuery table userId m) monday =
      tradesOfWeek table userId m monday := by
  unfold itemsOf tradesOfWeek
  rw [monthQuery_eq, List.filter_filter]
  apply List.filter_congr
  intro t _
  rw [<- Bool.decide_and, decide_eq_decide]
  exact and_comm

theorem tradeDay_mem (h : Returned (monthQuery table userId m) trades) :
    forall t, t ∈ trades -> tradeDay t ∈ monthDates m := by
  intro t ht
  exact mem_monthDates.mpr (mem_monthQuery.mp (h.all.mem_iff.mp ht)).2.2

theorem dayQuery_eq (table : List (JournalTrade json)) (userId : String) {d : Int}
    (hd : d ∈ monthDates m) :
    dayQuery table userId d = itemsOf tradeDay (monthQuery table userId m) d := by
  rw [mem_monthDates] at hd
  unfold dayQuery itemsOf monthQuery tradesBetween
  rw [List.filter_filter]
  apply List.filter_congr
  intro t _
  rw [<- Bool.decide_and, decide_eq_decide, dayStart_le_iff, lt_dayStart_iff, dayStart_le_iff,
    lt_dayStart_iff]
  unfold tradeDay
  constructor
  · intro h
    exact ⟨by omega, by omega, by omega, h.2.2⟩
  · intro h
    exact ⟨by omega, by omega, h.2.2.2⟩

/-!
# Totals of a day
-/

def CountsAsWin (t : JournalTrade json) : Prop :=
  1 / 2 < tradePnl t ∧ t.exitReason ≠ some "FORCED_CLOSE"

def CountsAsLoss (t : JournalTrade json) : Prop :=
  tradePnl t < -(1 / 2) ∧ t.exitReason ≠ some "FORCED_CLOSE"

instance (t : JournalTrade json) : Decidable (CountsAsWin t) :=
  inferInstanceAs (Decidable (1 / 2 < tradePnl t ∧ t.exitReason ≠ some "FORCED_CLOSE"))

instance (t : JournalTrade json) : Decidable (CountsAsLoss t) :=
  inferInstanceAs (Decidable (tradePnl t < -(1 / 2) ∧ t.exitReason ≠ some "FORCED_CLOSE"))

def totalsOf (trades : List (JournalTrade json)) : DayTotals :=
  { tradesCount := trades.length
    realizedPnl := (trades.map tradePnl).sum
    winsCount := trades.countP fun t => decide (CountsAsWin t)
    lossesCount := trades.countP fun t => decide (CountsAsLoss t) }

def DayTotals.rounded (totals : DayTotals) : DayTotals :=
  { totals with realizedPnl := roundTo 100 totals.realizedPnl }

theorem totalsOf_perm {other : List (JournalTrade json)} (h : trades.Perm other) :
    totalsOf trades = totalsOf other := by
  unfold totalsOf
  rw [h.length_eq, (h.map tradePnl).sum_eq, h.countP_eq, h.countP_eq]

theorem getDay_dayTotals (date : Int) (trades : List (JournalTrade json))
    (dayNote : Option String) :
    (getDay date trades dayNote).dayTotals = (totalsOf trades).rounded := by
  unfold getDay totalsOf DayTotals.rounded
  dsimp only
  rw [List.length_map, List.map_map, List.filter_map, List.length_map, List.filter_map,
    List.length_map, List.countP_eq_length_filter, List.countP_eq_length_filter]
  rfl

def DayTotals.plus (a b : DayTotals) : DayTotals :=
  { tradesCount := a.tradesCount + b.tradesCount
    realizedPnl := a.realizedPnl + b.realizedPnl
    winsCount := a.winsCount + b.winsCount
    lossesCount := a.lossesCount + b.lossesCount }

theorem DayTotals.plus_assoc (a b c : DayTotals) : (a.plus b).plus c = a.plus (b.plus c) := by
  simp only [DayTotals.plus, add_assoc]

theorem totalsOf_cons (t : JournalTrade json) (trades : List (JournalTrade json)) :
    totalsOf (t :: trades) = (totalsOf [t]).plus (totalsOf trades) := by
  simp only [totalsOf, DayTotals.plus, List.length_cons, List.length_nil, List.map_cons,
    List.map_nil, List.sum_cons, List.sum_nil, List.countP_cons, List.countP_nil, zero_add,
    add_comm]

@[simp] theorem absorbTrade_date (d : DayAggregate) (t : JournalTrade json) :
    (absorbTrade d t).date = d.date := by
  unfold absorbTrade countOutcome
  dsimp only
  split_ifs <;> rfl

theorem countOutcome_totals (d : DayAggregate) (t : JournalTrade json) :
    (countOutcome d (tradePnl t) t.exitReason).toDayTotals =
      { d.toDayTotals with
        winsCount := d.winsCount + if CountsAsWin t then 1 else 0
        lossesCount := d.lossesCount + if CountsAsLoss t then 1 else 0 } := by
  unfold countOutcome
  by_cases hreason : t.exitReason ≠ some "FORCED_CLOSE"
  · rw [if_pos hreason]
    by_cases hwin : 1 / 2 < tradePnl t
    · have hcounts : CountsAsWin t := ⟨hwin, hreason⟩
      have hnotLoss : ¬ CountsAsLoss t := by
        intro hloss
        linarith [hloss.1]
      rw [if_pos hwin, if_pos hcounts, if_neg hnotLoss]
      rfl
    · have hnotWin : ¬ CountsAsWin t := fun h => hwin h.1
      rw [if_neg hwin, if_neg hnotWin]
      by_cases hloss : tradePnl t < -(1 / 2)
      · have hcounts : CountsAsLoss t := ⟨hloss, hreason⟩
        rw [if_pos hloss, if_pos hcounts]
        rfl
      · have hnotLoss : ¬ CountsAsLoss t := fun h => hloss h.1
        rw [if_neg hloss, if_neg hnotLoss]
        rfl
  · have hnotWin : ¬ CountsAsWin t := fun h => hreason h.2
    have hnotLoss : ¬ CountsAsLoss t := fun h => hreason h.2
    rw [if_neg hreason, if_neg hnotWin, if_neg hnotLoss]
    rfl

theorem absorbTrade_totals (d : DayAggregate) (t : JournalTrade json) :
    (absorbTrade d t).toDayTotals = d.toDayTotals.plus (totalsOf [t]) := by
  unfold absorbTrade
  dsimp only
  rw [show t.pnl.getD 0 = tradePnl t from rfl, countOutcome_totals]
  simp [totalsOf, DayTotals.plus, List.countP_singleton]

theorem foldl_absorbTrade (trades : List (JournalTrade json)) (d : DayAggregate) :
    (trades.foldl absorbTrade d).date = d.date ∧
      (trades.foldl absorbTrade d).toDayTotals = d.toDayTotals.plus (totalsOf trades) := by
  induction trades generalizing d with
  | nil =>
      exact ⟨rfl, by simp [totalsOf, DayTotals.plus]⟩
  | cons t rest ih =>
      rw [List.foldl_cons, (ih _).1, (ih _).2, absorbTrade_totals, absorbTrade_date,
        totalsOf_cons t rest, DayTotals.plus_assoc]
      exact ⟨rfl, rfl⟩

/-!
# Days of a month
-/

def dayOfTrades (noteDates : List Int) (trades : List (JournalTrade json)) (date : Int) :
    DayAggregate :=
  roundDay ((itemsOf tradeDay trades date).foldl absorbTrade (blankDay noteDates date))

@[simp] theorem dayOfTrades_date (noteDates : List Int) (trades : List (JournalTrade json))
    (date : Int) : (dayOfTrades noteDates trades date).date = date :=
  (foldl_absorbTrade _ _).1

theorem dayOfTrades_totals (noteDates : List Int) (trades : List (JournalTrade json))
    (date : Int) :
    (dayOfTrades noteDates trades date).toDayTotals =
      (totalsOf (itemsOf tradeDay trades date)).rounded := by
  have htotals := (foldl_absorbTrade (itemsOf tradeDay trades date) (blankDay noteDates date)).2
  have hblank : (blankDay noteDates date).toDayTotals.plus
      (totalsOf (itemsOf tradeDay trades date)) = totalsOf (itemsOf tradeDay trades date) := by
    simp [blankDay, DayTotals.plus]
  rw [hblank] at htotals
  rw [<- htotals]
  rfl

theorem monthDays_eq (m : Month) (trades : List (JournalTrade json)) (noteDates : List Int) :
    monthDays m trades noteDates = (monthDates m).map (dayOfTrades noteDates trades) := by
  have hdate : forall i : Nat, utcDate m.year (m.month - 1) (i + 1) = m.start + i := by
    intro i
    unfold Month.start utcDate
    dsimp only
    omega
  unfold monthDays monthDates
  dsimp only
  rw [absorbAll_eq absorbTrade_date, List.map_map, List.map_map, List.map_map]
  apply List.map_congr_left
  intro i _
  simp only [Function.comp_apply, hdate]
  rfl

theorem dates_monthDays (m : Month) (trades : List (JournalTrade json)) (noteDates : List Int) :
    (monthDays m trades noteDates).map DayAggregate.date = monthDates m := by
  rw [monthDays_eq, List.map_map]
  refine (List.map_congr_left ?_).trans (List.map_id _)
  intro date _
  exact dayOfTrades_date noteDates trades date

theorem monthDays_totals (h : Returned (monthQuery table userId m) trades) {day : DayAggregate}
    (hday : day ∈ monthDays m trades noteDates) {dayTrades : List (JournalTrade json)}
    (hreturned : Returned (dayQuery table userId day.date) dayTrades)
    (dayNote : Option String) :
    day.toDayTotals = (getDay day.date dayTrades dayNote).dayTotals := by
  rw [monthDays_eq] at hday
  rcases List.mem_map.mp hday with ⟨date, hdate, rfl⟩
  rw [dayOfTrades_date] at hreturned ⊢
  have hsame : dayTrades.Perm (itemsOf tradeDay trades date) := by
    have hperm := hreturned.all
    rw [dayQuery_eq table userId hdate] at hperm
    exact hperm.trans (h.all.symm.filter _)
  rw [dayOfTrades_totals, getDay_dayTotals, totalsOf_perm hsame]

/-!
# Amounts
-/

def tradeAmount (t : JournalTrade json) : Nat × ℚ :=
  (1, tradePnl t)

def dayAmount (d : DayAggregate) : Nat × ℚ :=
  (d.tradesCount, d.realizedPnl)

def weekAmount (w : WeekAggregate) : Nat × ℚ :=
  (w.tradesCount, w.realizedPnl)

def dayWeek (d : DayAggregate) : Int :=
  mondayOf d.date

theorem sum_tradeAmount (trades : List (JournalTrade json)) :
    (trades.map tradeAmount).sum = (trades.length, (trades.map tradePnl).sum) := by
  unfold tradeAmount
  rw [sum_map_pair]
  simp

theorem dayAmount_dayOfTrades (hcents : forall t, t ∈ trades -> OnTick 100 (tradePnl t))
    (noteDates : List Int) (date : Int) :
    dayAmount (dayOfTrades noteDates trades date) = tally tradeDay tradeAmount trades date := by
  have hday : OnTick 100 ((itemsOf tradeDay trades date).map tradePnl).sum := by
    apply onTick_sum
    intro x hx
    rcases List.mem_map.mp hx with ⟨t, ht, rfl⟩
    exact hcents t (List.mem_of_mem_filter ht)
  have hround := hday.roundTo_eq (by norm_num)
  unfold dayAmount tally
  rw [dayOfTrades_totals, sum_tradeAmount]
  unfold DayTotals.rounded totalsOf
  dsimp only
  rw [hround]

theorem sum_days (hdays : forall t, t ∈ trades -> tradeDay t ∈ monthDates m)
    (hcents : forall t, t ∈ trades -> OnTick 100 (tradePnl t)) :
    ((monthDays m trades noteDates).map dayAmount).sum = (trades.map tradeAmount).sum := by
  rw [<- sum_tally_of_mem (nodup_monthDates m) hdays, monthDays_eq, List.map_map]
  refine congrArg List.sum (List.map_congr_left ?_)
  intro date _
  exact dayAmount_dayOfTrades hcents noteDates date

theorem tally_days (hdays : forall t, t ∈ trades -> tradeDay t ∈ monthDates m)
    (hcents : forall t, t ∈ trades -> OnTick 100 (tradePnl t)) (k : Int) :
    tally dayWeek dayAmount (monthDays m trades noteDates) k =
      tally tradeWeek tradeAmount trades k := by
  have hdates : itemsOf dayWeek (monthDays m trades noteDates) k =
      (itemsOf mondayOf (monthDates m) k).map (dayOfTrades noteDates trades) := by
    unfold itemsOf
    rw [monthDays_eq, List.filter_map]
    refine congrArg _ (List.filter_congr ?_)
    intro date _
    rw [Function.comp_apply, dayWeek, dayOfTrades_date]
  have hweek : (trades.filter fun t => decide (tradeDay t ∈ itemsOf mondayOf (monthDates m) k)) =
      itemsOf tradeWeek trades k := by
    apply List.filter_congr
    intro t ht
    rw [decide_eq_decide, itemsOf, List.mem_filter, decide_eq_true_iff]
    exact and_iff_right (hdays t ht)
  have hsum : ((itemsOf mondayOf (monthDates m) k).map (tally tradeDay tradeAmount trades)).sum =
      tally tradeWeek tradeAmount trades k := by
    have hnodup : (itemsOf mondayOf (monthDates m) k).Nodup := (nodup_monthDates m).filter _
    rw [sum_tally hnodup, hweek]
    rfl
  rw [tally, hdates, List.map_map]
  refine (congrArg List.sum (List.map_congr_left ?_)).trans hsum
  intro date _
  exact dayAmount_dayOfTrades hcents noteDates date

/-!
# The loop over the days
-/

theorem sub_daysSinceMonday (d : Int) : d - (weekdayOf d + 6) % 7 = mondayOf d := by
  unfold weekdayOf mondayOf
  omega

theorem weekdayOf_mondayOf (d : Int) : weekdayOf (mondayOf d) = 1 := by
  unfold weekdayOf mondayOf
  omega

structure WeeksTally (days : List DayAggregate) (weeks : InsertionMap Int WeekAggregate) :
    Prop where
  nodup : (weeks.map Prod.fst).Nodup
  entries : forall k w, weeks.get k = some w ->
    w.weekStart = k ∧ weekdayOf k = 1 ∧ OnTick 100 w.realizedPnl
  amounts : forall k, (weeks.get k).elim 0 weekAmount = tally dayWeek dayAmount days k

theorem weeksTally_start : WeeksTally [] [] where
  nodup := List.nodup_nil
  entries k w h := by cases h
  amounts k := rfl

theorem WeeksTally.entry {days : List DayAggregate} {weeks : InsertionMap Int WeekAggregate}
    (h : WeeksTally days weeks) (m : Month) (k : Int) :
    ((weeks.get k).getD (blankWeek m k)).weekStart = k ∧
      OnTick 100 ((weeks.get k).getD (blankWeek m k)).realizedPnl ∧
      weekAmount ((weeks.get k).getD (blankWeek m k)) = tally dayWeek dayAmount days k := by
  have hamount := h.amounts k
  cases hget : weeks.get k with
  | none =>
      rw [hget] at hamount
      exact ⟨rfl, onTick_zero 100, hamount⟩
  | some w =>
      rw [hget] at hamount
      have hentry := h.entries k w hget
      exact ⟨hentry.1, hentry.2.2, hamount⟩

theorem WeeksTally.step {days : List DayAggregate} {weeks : InsertionMap Int WeekAggregate}
    (h : WeeksTally days weeks) (m : Month) {d : DayAggregate} (hcents : OnTick 100 d.realizedPnl) :
    WeeksTally (days ++ [d]) (weekStep m weeks d) := by
  unfold weekStep
  by_cases hempty : d.tradesCount = 0 ∧ d.realizedPnl = 0
  · have hzero : dayAmount d = 0 := Prod.ext hempty.1 hempty.2
    rw [if_pos hempty]
    refine ⟨h.nodup, h.entries, ?_⟩
    intro k
    rw [tally_concat, hzero, ite_self, add_zero]
    exact h.amounts k
  · rw [if_neg hempty]
    dsimp only
    rw [sub_daysSinceMonday]
    rcases h.entry m (mondayOf d.date) with ⟨hstart, honTick, hamount⟩
    generalize (weeks.get (mondayOf d.date)).getD (blankWeek m (mondayOf d.date)) = w at *
    have hround := (honTick.add hcents).roundTo_eq (by norm_num)
    rw [hround]
    refine ⟨InsertionMap.nodup_set h.nodup _ _, ?_, ?_⟩
    · intro k v hget
      by_cases hk : k = mondayOf d.date
      · rw [hk, InsertionMap.get_set_self] at hget
        cases hget
        rw [hk]
        exact ⟨hstart, weekdayOf_mondayOf _, honTick.add hcents⟩
      · rw [InsertionMap.get_set_of_ne _ _ hk] at hget
        exact h.entries k v hget
    · intro k
      rw [tally_concat]
      by_cases hk : k = mondayOf d.date
      · rw [hk, InsertionMap.get_set_self, <- hamount, dayWeek, if_pos rfl]
        rfl
      · rw [InsertionMap.get_set_of_ne _ _ hk, if_neg (Ne.symm hk : dayWeek d ≠ k), add_zero]
        exact h.amounts k

theorem weeksTally_weekMap (m : Month) {days : List DayAggregate}
    (hcents : forall d, d ∈ days -> OnTick 100 d.realizedPnl) :
    WeeksTally days (weekMap m days) := by
  induction days using List.reverseRecOn with
  | nil =>
      exact weeksTally_start
  | append_singleton days d ih =>
      unfold weekMap
      rw [List.foldl_append]
      refine (ih ?_).step m (hcents d (by simp))
      intro e he
      exact hcents e (List.mem_append_left _ he)

theorem onTick_monthDays {d : DayAggregate} (hd : d ∈ monthDays m trades noteDates) :
    OnTick 100 d.realizedPnl := by
  rw [monthDays_eq] at hd
  rcases List.mem_map.mp hd with ⟨date, _, rfl⟩
  exact onTick_roundTo 100 _

theorem weeksTally_monthDays (m : Month) (trades : List (JournalTrade json))
    (noteDates : List Int) :
    WeeksTally (monthDays m trades noteDates) (weekMap m (monthDays m trades noteDates)) :=
  weeksTally_weekMap m fun _ hd => onTick_monthDays hd

/-!
# Weeks of a month
-/

theorem weeklyTotals_perm (m : Month) (trades : List (JournalTrade json))
    (noteDates : List Int) :
    (getMonthAggregate m trades noteDates).weeklyTotals.Perm
      ((weekMap m (monthDays m trades noteDates)).map Prod.snd) :=
  List.mergeSort_perm _ _

theorem mem_weeklyTotals {w : WeekAggregate} :
    w ∈ (getMonthAggregate m trades noteDates).weeklyTotals <->
      (weekMap m (monthDays m trades noteDates)).get w.weekStart = some w := by
  have htally := weeksTally_monthDays m trades noteDates
  rw [(weeklyTotals_perm m trades noteDates).mem_iff, List.mem_map]
  constructor
  · intro h
    rcases h with ⟨⟨k, v⟩, hentry, rfl⟩
    have hget := InsertionMap.get_of_mem htally.nodup hentry
    rw [(htally.entries k v hget).1]
    exact hget
  · intro h
    exact ⟨(w.weekStart, w), InsertionMap.mem_of_get h, rfl⟩

theorem weeklyTotals_ascending (m : Month) (trades : List (JournalTrade json))
    (noteDates : List Int) :
    ((getMonthAggregate m trades noteDates).weeklyTotals.map WeekAggregate.weekStart).Pairwise
      (· < ·) := by
  have htally := weeksTally_monthDays m trades noteDates
  have hkeys : (weekMap m (monthDays m trades noteDates)).map (WeekAggregate.weekStart ∘ Prod.snd) =
      (weekMap m (monthDays m trades noteDates)).map Prod.fst := by
    apply List.map_congr_left
    intro entry hentry
    exact (htally.entries entry.1 entry.2 (InsertionMap.get_of_mem htally.nodup hentry)).1
  have hnodup : ((getMonthAggregate m trades noteDates).weeklyTotals.map
      WeekAggregate.weekStart).Nodup := by
    rw [((weeklyTotals_perm m trades noteDates).map WeekAggregate.weekStart).nodup_iff,
      List.map_map, hkeys]
    exact htally.nodup
  have hsorted : ((getMonthAggregate m trades noteDates).weeklyTotals.map
      WeekAggregate.weekStart).Pairwise (· ≤ ·) := by
    rw [List.pairwise_map]
    refine (List.pairwise_mergeSort ?_ ?_ _).imp of_decide_eq_true
    · intro a b c hab hbc
      exact decide_eq_true (le_trans (of_decide_eq_true hab) (of_decide_eq_true hbc))
    · intro a b
      rw [Bool.or_eq_true, decide_eq_true_iff, decide_eq_true_iff]
      exact le_total _ _
  exact (hsorted.and hnodup).imp fun h => lt_of_le_of_ne h.1 h.2

theorem mondays (m : Month) (trades : List (JournalTrade json)) (noteDates : List Int)
    {w : WeekAggregate} (hw : w ∈ (getMonthAggregate m trades noteDates).weeklyTotals) :
    weekdayOf w.weekStart = 1 :=
  ((weeksTally_monthDays m trades noteDates).entries _ w (mem_weeklyTotals.mp hw)).2.1

theorem inWeek_iff {t : JournalTrade json} {w : WeekAggregate}
    (hmonday : weekdayOf w.weekStart = 1) : InWeek t w <-> w.weekStart = tradeWeek t := by
  unfold InWeek tradeWeek mondayOf
  unfold weekdayOf at hmonday
  omega

section Weeks

variable (hdays : forall t, t ∈ trades -> tradeDay t ∈ monthDates m)
  (hcents : forall t, t ∈ trades -> OnTick 100 (tradePnl t))

include hdays hcents

theorem weekAmount_eq {w : WeekAggregate}
    (hw : w ∈ (getMonthAggregate m trades noteDates).weeklyTotals) :
    weekAmount w = tally tradeWeek tradeAmount trades w.weekStart := by
  rw [mem_weeklyTotals] at hw
  rw [<- tally_days hdays hcents, <- (weeksTally_monthDays m trades noteDates).amounts, hw]
  rfl

theorem exists_week {t : JournalTrade json} (ht : t ∈ trades) :
    exists w, w ∈ (getMonthAggregate m trades noteDates).weeklyTotals ∧
      w.weekStart = tradeWeek t := by
  have htally := weeksTally_monthDays m trades noteDates
  have hamount := htally.amounts (tradeWeek t)
  rw [tally_days hdays hcents, tally, sum_tradeAmount] at hamount
  cases hget : (weekMap m (monthDays m trades noteDates)).get (tradeWeek t) with
  | none =>
      rw [hget] at hamount
      have hcount : 0 = (itemsOf tradeWeek trades (tradeWeek t)).length :=
        congrArg Prod.fst hamount
      have hmem : t ∈ itemsOf tradeWeek trades (tradeWeek t) :=
        List.mem_filter.mpr ⟨ht, decide_eq_true rfl⟩
      rw [List.length_eq_zero_iff.mp hcount.symm] at hmem
      cases hmem
  | some w =>
      have hstart := (htally.entries _ w hget).1
      refine ⟨w, mem_weeklyTotals.mpr ?_, hstart⟩
      rw [hstart]
      exact hget

theorem exists_only_week {t : JournalTrade json} (ht : t ∈ trades) :
    exists w, w ∈ (getMonthAggregate m trades noteDates).weeklyTotals ∧ InWeek t w ∧
      forall v, v ∈ (getMonthAggregate m trades noteDates).weeklyTotals -> InWeek t v -> v = w := by
  rcases exists_week hdays hcents ht with ⟨w, hw, hstart⟩
  refine ⟨w, hw, (inWeek_iff (mondays m trades noteDates hw)).mpr hstart, ?_⟩
  intro v hv hin
  have hsame := (inWeek_iff (mondays m trades noteDates hv)).mp hin
  have hget := mem_weeklyTotals.mp hv
  rw [hsame, <- hstart, mem_weeklyTotals.mp hw] at hget
  exact (Option.some.inj hget).symm

theorem week_figures {other : List (JournalTrade json)} (hperm : trades.Perm other)
    {w : WeekAggregate} (hw : w ∈ (getMonthAggregate m trades noteDates).weeklyTotals) :
    w.tradesCount = (itemsOf tradeWeek other w.weekStart).length ∧
      w.realizedPnl = ((itemsOf tradeWeek other w.weekStart).map tradePnl).sum := by
  have hsame : (itemsOf tradeWeek trades w.weekStart).Perm
      (itemsOf tradeWeek other w.weekStart) := hperm.filter _
  have hamount := weekAmount_eq hdays hcents hw
  rw [tally, sum_tradeAmount, hsame.length_eq, (hsame.map tradePnl).sum_eq] at hamount
  exact ⟨congrArg Prod.fst hamount, congrArg Prod.snd hamount⟩

theorem sum_weeks :
    ((getMonthAggregate m trades noteDates).weeklyTotals.map weekAmount).sum =
      (trades.map tradeAmount).sum := by
  have hnodup : ((getMonthAggregate m trades noteDates).weeklyTotals.map
      WeekAggregate.weekStart).Nodup :=
    (weeklyTotals_ascending m trades noteDates).imp ne_of_lt
  have hall : forall t, t ∈ trades -> tradeWeek t ∈
      (getMonthAggregate m trades noteDates).weeklyTotals.map WeekAggregate.weekStart := by
    intro t ht
    rcases exists_week hdays hcents ht with ⟨w, hw, hstart⟩
    exact List.mem_map.mpr ⟨w, hw, hstart⟩
  rw [<- sum_tally_of_mem hnodup hall, List.map_map]
  refine congrArg List.sum (List.map_congr_left ?_)
  intro w hw
  exact weekAmount_eq hdays hcents hw

end Weeks

theorem monthTotals_eq (m : Month) (trades : List (JournalTrade json)) (noteDates : List Int) :
    (getMonthAggregate m trades noteDates).monthTotals.toDayTotals =
      { tradesCount := ((monthDays m trades noteDates).map fun day => day.tradesCount).sum
        realizedPnl := ((monthDays m trades noteDates).map fun day => day.realizedPnl).sum
        winsCount := ((monthDays m trades noteDates).map fun day => day.winsCount).sum
        lossesCount := ((monthDays m trades noteDates).map fun day => day.lossesCount).sum } := by
  have hsum : OnTick 100 ((monthDays m trades noteDates).map fun day => day.realizedPnl).sum := by
    apply onTick_sum
    intro x hx
    rcases List.mem_map.mp hx with ⟨day, hday, rfl⟩
    exact onTick_monthDays hday
  have hround := hsum.roundTo_eq (by norm_num)
  unfold getMonthAggregate totalsOverDays
  dsimp only
  rw [hround]

theorem month_amount (m : Month) (trades : List (JournalTrade json)) (noteDates : List Int) :
    ((getMonthAggregate m trades noteDates).monthTotals.tradesCount,
      (getMonthAggregate m trades noteDates).monthTotals.realizedPnl) =
        ((monthDays m trades noteDates).map dayAmount).sum := by
  unfold dayAmount
  rw [monthTotals_eq, sum_map_pair]

/-- The views agree, for any order in which the database returns trades of one time. -/
theorem journal_views_agree (table : List (JournalTrade json)) (userId : String) (m : Month)
    (trades : List (JournalTrade json)) (noteDates : List Int)
    (hcents : forall t, t ∈ table -> t.userId = userId -> OnTick 100 (tradePnl t))
    (hreturned : Returned (monthQuery table userId m) trades) :
    ViewsAgree table userId m (getMonthAggregate m trades noteDates) := by
  have hdays := tradeDay_mem hreturned
  have htradeCents : forall t, t ∈ trades -> OnTick 100 (tradePnl t) := by
    intro t ht
    have hmem := mem_monthQuery.mp (hreturned.all.mem_iff.mp ht)
    exact hcents t hmem.1 hmem.2.1
  have hsums : ((getMonthAggregate m trades noteDates).weeklyTotals.map weekAmount).sum =
      ((getMonthAggregate m trades noteDates).monthTotals.tradesCount,
        (getMonthAggregate m trades noteDates).monthTotals.realizedPnl) := by
    rw [sum_weeks hdays htradeCents, month_amount, sum_days hdays htradeCents]
  unfold weekAmount at hsums
  rw [sum_map_pair, Prod.mk.injEq] at hsums
  have hdates := dates_monthDays m trades noteDates
  exact
    { dates := by
        intro d
        change d ∈ (monthDays m trades noteDates).map DayAggregate.date <-> _
        rw [hdates, mem_monthDates]
      dates_ascending := by
        change ((monthDays m trades noteDates).map DayAggregate.date).Pairwise (· < ·)
        rw [hdates]
        exact monthDates_ascending m
      days := by
        intro day hday dayTrades dayNote hday'
        exact monthDays_totals hreturned hday hday' dayNote
      totals := monthTotals_eq m trades noteDates
      weeks_ascending := weeklyTotals_ascending m trades noteDates
      mondays := by
        intro w hw
        exact mondays m trades noteDates hw
      weeks := by
        intro w hw
        rw [<- itemsOf_monthQuery]
        exact week_figures hdays htradeCents hreturned.all hw
      covered := by
        intro t ht hmonth
        exact exists_only_week hdays htradeCents
          (hreturned.all.mem_iff.mpr (mem_monthQuery.mpr ⟨ht, hmonth⟩))
      weekCounts := hsums.1
      weekPnls := hsums.2 }

end Views

def june2026 : Month :=
  { year := 2026, month := 6, year_le := by norm_num, month_pos := by norm_num
    month_le := by norm_num }

def tradeOn (userId : String) (createdAt : Int) (pnl : Option ℚ) (exitReason : Option String) :
    JournalTrade Unit :=
  { id := "", userId := userId, symbol := "EURUSD", side := "BUY", setupTags := none
    lotSize := 1 / 100, entryPrice := 116 / 100, closePrice := none, slPrice := 115 / 100
    originalSlPrice := none, tpPrice := 117 / 100, pnl := pnl, exitReason := exitReason
    status := "CLOSED", createdAt := createdAt, closedAt := none, sweptLevel := none
    sweepCandleTime := none, d1Bias := none, journalEntry := none }

def juneTrades : List (JournalTrade Unit) :=
  [tradeOn "user-1" (dayStart 20611) (some (5 / 2)) (some "TP"),
    tradeOn "user-1" (dayStart 20612) (some 8) (some "FORCED_CLOSE"),
    tradeOn "user-1" (dayStart 20612 + 1) (some (-2)) (some "SL"),
    tradeOn "user-2" (dayStart 20612 + 2) (some (1 / 3)) (some "TP")]

theorem journal_views_agree_june :
    ViewsAgree juneTrades "user-1" june2026
      (getMonthAggregate june2026 (monthQuery juneTrades "user-1" june2026) []) := by
  refine journal_views_agree juneTrades "user-1" june2026 _ [] ?_ ?_
  · intro t ht huser
    simp only [juneTrades, List.mem_cons, List.not_mem_nil, or_false] at ht
    rcases ht with rfl | rfl | rfl | rfl
    · exact ⟨250, by norm_num [tradePnl, tradeOn]⟩
    · exact ⟨800, by norm_num [tradePnl, tradeOn]⟩
    · exact ⟨-200, by norm_num [tradePnl, tradeOn]⟩
    · exact absurd huser (by decide)
  · exact ⟨List.Perm.refl _, by decide +kernel⟩

end Journal
end Shamarx
