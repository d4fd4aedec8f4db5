import Mathlib.Algebra.Order.BigOperators.Group.List
import Mathlib.Algebra.Order.Ring.Rat
import Mathlib.Data.List.Sort
import Shamarx.Foundation.AppendOnly
import Shamarx.Foundation.Calendar
import Shamarx.Foundation.InFlight
import Shamarx.Foundation.Runs
import Shamarx.Engine.Instruments

/-!
# Daily bars

Every minute the candle service polls M15 and H1 bars from the broker and then
resamples the H1 bars of the day before into its D1 bar.  The candle table is
append-only, so the first D1 bar of a day stays.
-/

namespace Shamarx
namespace Market

open Foundation
open Engine

inductive Timeframe where
  | m1
  | m5
  | m15
  | h1
  | h4
  | d1
  deriving DecidableEq, Repr

def timeframeMs : Timeframe -> Int
  | .m1 => msPerMinute
  | .m5 => 5 * msPerMinute
  | .m15 => 15 * msPerMinute
  | .h1 => msPerHour
  | .h4 => 4 * msPerHour
  | .d1 => msPerDay

/-- A bar as the execution service answers it; its symbol and timeframe are those of
the request. -/
structure CandleDto where
  openTime : Int
  open_ : ℚ
  high : ℚ
  low : ℚ
  close : ℚ
  volume : ℚ
  deriving DecidableEq

structure CandleRow where
  symbol : Instrument
  timeframe : Timeframe
  bar : CandleDto
  deriving DecidableEq

def CandleRow.key (r : CandleRow) : Instrument × Timeframe × Int :=
  (r.symbol, r.timeframe, r.bar.openTime)

def closedRows (now : Int) (symbol : Instrument) (timeframe : Timeframe)
    (candles : List CandleDto) : List CandleRow :=
  (candles.filter fun c => c.openTime + timeframeMs timeframe ≤ now).map fun c =>
    { symbol := symbol, timeframe := timeframe, bar := c }

def InDay (symbol : Instrument) (start : Int) (r : CandleRow) : Prop :=
  r.symbol = symbol ∧ r.timeframe = .h1 ∧ start ≤ r.bar.openTime ∧
    r.bar.openTime < start + msPerDay

instance (symbol : Instrument) (start : Int) (r : CandleRow) : Decidable (InDay symbol start r) :=
  inferInstanceAs (Decidable (_ ∧ _ ∧ _ ∧ _))

def h1Of (symbol : Instrument) (start : Int) (rows : List CandleRow) : List CandleDto :=
  ((rows.filter (InDay symbol start)).map CandleRow.bar).insertionSort
    fun a b => a.openTime ≤ b.openTime

def resampled (symbol : Instrument) (start : Int) : List CandleDto -> Option CandleRow
  | [] => none
  | first :: rest =>
      some
        { symbol := symbol
          timeframe := .d1
          bar :=
            { openTime := start
              open_ := first.open_
              high := (rest.map CandleDto.high).foldl max first.high
              low := (rest.map CandleDto.low).foldl min first.low
              close := ((first :: rest).getLast (List.cons_ne_nil first rest)).close
              volume := ((first :: rest).map CandleDto.volume).sum } }

/-!
# Polls and resamplings
-/

inductive ResamplePhase where
  | reading (symbol : Instrument) (start : Int)
  | read (symbol : Instrument) (start : Int) (h1 : List CandleDto)

/-- `inTime` is the rows that were created before the end of the day after their own;
no code reads it. -/
structure MarketRun where
  now : Int
  rows : List CandleRow
  inTime : List CandleRow
  resamples : InFlight ResamplePhase

def MarketRun.opened (now : Int) (rows : List CandleRow) : MarketRun :=
  { now := now, rows := rows, inTime := rows, resamples := .empty }

/-- A row created now comes before the end of the day after its own. -/
def InTime (now : Int) (r : CandleRow) : Prop :=
  now < dayStart (dayOf r.bar.openTime + 2)

instance (now : Int) (r : CandleRow) : Decidable (InTime now r) :=
  inferInstanceAs (Decidable (_ < _))

def MarketRun.store (s : MarketRun) (rows : List CandleRow) : MarketRun :=
  let stored := createMany CandleRow.key s.rows rows
  { s with
    rows := stored
    inTime := s.inTime ++ (stored.drop s.rows.length).filter (InTime s.now) }

/-- A poll that fails stores nothing and is no step. -/
inductive MarketOp where
  | clock (ms : Nat)
  | poll (symbol : Instrument) (timeframe : Timeframe) (candles : List CandleDto)
  | resample (id : Nat) (symbol : Instrument)
  | read (id : Nat)
  | write (id : Nat)
  | fail (id : Nat)

/-- `pollCandles` asks for these timeframes only. -/
def Polled (timeframe : Timeframe) : Prop :=
  timeframe = .m15 ∨ timeframe = .h1

instance (timeframe : Timeframe) : Decidable (Polled timeframe) :=
  inferInstanceAs (Decidable (_ ∨ _))

def marketStep (s : MarketRun) : MarketOp -> MarketRun
  | .clock ms => { s with now := s.now + ms }
  | .poll symbol timeframe candles =>
      if Polled timeframe then
        s.store (closedRows s.now symbol timeframe candles)
      else s
  | .resample id symbol =>
      match s.resamples id with
      | none =>
          { s with
            resamples := s.resamples.put id (.reading symbol (dayStart (dayOf s.now - 1))) }
      | some _ => s
  | .read id =>
      match s.resamples id with
      | some (.reading symbol start) =>
          { s with resamples := s.resamples.put id (.read symbol start (h1Of symbol start s.rows)) }
      | _ => s
  | .write id =>
      match s.resamples id with
      | some (.read symbol start h1) =>
          { s.store (resampled symbol start h1).toList with resamples := s.resamples.drop id }
      | _ => s
  | .fail id => { s with resamples := s.resamples.drop id }

/-!
# Late bars
-/

def Resampled (history : List CandleRow) (rows : List CandleRow) (d : CandleRow) : Prop :=
  d ∈ rows ∧ d ∉ history ∧ d.timeframe = .d1

instance (history rows : List CandleRow) (d : CandleRow) : Decidable (Resampled history rows d) :=
  inferInstanceAs (Decidable (_ ∧ _ ∧ _))

/-- Every D1 row that a resampling has left is that of the H1 rows of its day that are
there by the end of the following day. -/
def DailyBarsEqual (history : List CandleRow) (s : MarketRun) : Prop :=
  forall d, Resampled history s.rows d ->
    resampled d.symbol d.bar.openTime (h1Of d.symbol d.bar.openTime s.inTime) = some d

/-- No bar that a poll adds in time belongs to a day that has been resampled, and a
resampling that adds a row has read the bars that are there in time when it writes. -/
def NoLateBar (history : List CandleRow) (s : MarketRun) : MarketOp -> Prop
  | .poll symbol timeframe candles =>
      forall r, r ∈ closedRows s.now symbol timeframe candles -> InTime s.now r ->
        (forall old, old ∈ s.rows -> old.key ≠ r.key) ->
          forall d, Resampled history s.rows d -> ¬ InDay d.symbol d.bar.openTime r
  | .write id =>
      match s.resamples id with
      | some (.read symbol start h1) =>
          forall d, resampled symbol start h1 = some d ->
            (forall old, old ∈ s.rows -> old.key ≠ d.key) -> h1Of symbol start s.inTime = h1
      | _ => True
  | _ => True

variable {history : List CandleRow} {s : MarketRun}

theorem store_eq (s : MarketRun) (rows : List CandleRow) :
    exists fresh,
      s.store rows =
          { s with
            rows := s.rows ++ fresh
            inTime := s.inTime ++ fresh.filter (InTime s.now) } ∧
        forall r, r ∈ fresh -> r ∈ rows ∧ forall old, old ∈ s.rows -> old.key ≠ r.key := by
  rcases exists_createMany_eq_append CandleRow.key s.rows rows with ⟨fresh, hrows, hfresh⟩
  refine ⟨fresh, ?_, hfresh⟩
  unfold MarketRun.store
  dsimp only
  rw [hrows, List.drop_left]

theorem h1Of_append {symbol : Instrument} {start : Int} {fresh : List CandleRow}
    (h : forall r, r ∈ fresh -> ¬ InDay symbol start r) (rows : List CandleRow) :
    h1Of symbol start (rows ++ fresh) = h1Of symbol start rows := by
  have hnone : fresh.filter (fun r => decide (InDay symbol start r)) = [] := by
    rw [List.filter_eq_nil_iff]
    intro r hr hin
    exact h r hr (of_decide_eq_true hin)
  unfold h1Of
  rw [List.filter_append, hnone, List.append_nil]

theorem resampled_shape {symbol : Instrument} {start : Int} {h1 : List CandleDto} {d : CandleRow}
    (h : resampled symbol start h1 = some d) :
    d.symbol = symbol ∧ d.timeframe = .d1 ∧ d.bar.openTime = start ∧
      d.bar.volume = (h1.map CandleDto.volume).sum := by
  cases h1 with
  | nil =>
      cases h
  | cons first rest =>
      cases h
      exact ⟨rfl, rfl, rfl, rfl⟩

theorem mem_closedRows {now : Int} {symbol : Instrument} {timeframe : Timeframe}
    {candles : List CandleDto} {r : CandleRow}
    (h : r ∈ closedRows now symbol timeframe candles) :
    r.symbol = symbol ∧ r.timeframe = timeframe ∧ r.bar ∈ candles := by
  rcases List.mem_map.mp h with ⟨c, hc, rfl⟩
  exact ⟨rfl, rfl, List.mem_of_mem_filter hc⟩

theorem poll_keeps {symbol : Instrument} {timeframe : Timeframe} {candles : List CandleDto}
    (hs : DailyBarsEqual history s) (hop : NoLateBar history s (.poll symbol timeframe candles)) :
    DailyBarsEqual history (marketStep s (.poll symbol timeframe candles)) := by
  simp only [marketStep]
  split_ifs with hpolled
  · rcases store_eq s (closedRows s.now symbol timeframe candles) with ⟨fresh, hstore, hfresh⟩
    rw [hstore]
    rintro d ⟨hmem, hnew, hd1⟩
    have hold : d ∈ s.rows := by
      rcases List.mem_append.mp hmem with hold | hin
      · exact hold
      · have htf := (mem_closedRows (hfresh d hin).1).2.1
        rw [← htf, Polled, hd1] at hpolled
        rcases hpolled with hm15 | hh1
        · cases hm15
        · cases hh1
    have hleft : Resampled history s.rows d := ⟨hold, hnew, hd1⟩
    dsimp only
    rw [h1Of_append]
    · exact hs d hleft
    · intro r hr
      rcases List.mem_filter.mp hr with ⟨hmem, htime⟩
      exact hop r (hfresh r hmem).1 (of_decide_eq_true htime) (hfresh r hmem).2 d hleft
  · exact hs

theorem write_keeps {id : Nat} (hs : DailyBarsEqual history s)
    (hop : NoLateBar history s (.write id)) :
    DailyBarsEqual history (marketStep s (.write id)) := by
  simp only [marketStep]
  split
  · next symbol start h1 hcall =>
      simp only [NoLateBar, hcall] at hop
      rcases store_eq s (resampled symbol start h1).toList with ⟨fresh, hstore, hfresh⟩
      have hd1 : forall r, r ∈ fresh -> resampled symbol start h1 = some r := by
        intro r hr
        exact Option.mem_toList.mp (hfresh r hr).1
      have hbars : forall (symbol' : Instrument) (start' : Int),
          h1Of symbol' start' (s.inTime ++ fresh.filter (InTime s.now)) =
            h1Of symbol' start' s.inTime := by
        intro symbol' start'
        apply h1Of_append
        intro r hr hin
        have htf := (resampled_shape (hd1 r (List.mem_of_mem_filter hr))).2.1
        rw [hin.2.1] at htf
        cases htf
      rw [hstore]
      rintro d ⟨hmem, hnew, hdaily⟩
      dsimp only
      rw [hbars]
      rcases List.mem_append.mp hmem with hold | hin
      · exact hs d ⟨hold, hnew, hdaily⟩
      · rcases resampled_shape (hd1 d hin) with ⟨rfl, -, rfl, -⟩
        rw [hop d (hd1 d hin) (hfresh d hin).2]
        exact hd1 d hin
  · exact hs

theorem marketStep_keeps {op : MarketOp} (hs : DailyBarsEqual history s)
    (hop : NoLateBar history s op) : DailyBarsEqual history (marketStep s op) := by
  cases op with
  | poll symbol timeframe candles =>
      exact poll_keeps hs hop
  | write id =>
      exact write_keeps hs hop
  | resample id symbol =>
      simp only [marketStep]
      split <;> exact hs
  | read id =>
      simp only [marketStep]
      split <;> exact hs
  | clock ms =>
      exact hs
  | fail id =>
      exact hs

/-!
# What a late bar does
-/

def PositiveVolumes : MarketOp -> Prop
  | .poll _ _ candles => forall c, c ∈ candles -> 0 < c.volume
  | _ => True

def dayVolume (symbol : Instrument) (start : Int) (rows : List CandleRow) : ℚ :=
  ((h1Of symbol start rows).map CandleDto.volume).sum

theorem dayVolume_eq (symbol : Instrument) (start : Int) (rows : List CandleRow) :
    dayVolume symbol start rows =
      ((rows.filter (InDay symbol start)).map fun r => r.bar.volume).sum := by
  have hperm := (List.perm_insertionSort (fun a b : CandleDto => a.openTime ≤ b.openTime)
    ((rows.filter (InDay symbol start)).map CandleRow.bar)).map CandleDto.volume
  unfold dayVolume h1Of
  rw [hperm.sum_eq, List.map_map]
  rfl

def DayGrown (symbol : Instrument) (start : Int) (rows rows' : List CandleRow) : Prop :=
  exists more, rows'.filter (InDay symbol start) = rows.filter (InDay symbol start) ++ more ∧
    forall r, r ∈ more -> 0 < r.bar.volume

theorem DayGrown.of_eq {symbol : Instrument} {start : Int} {rows rows' : List CandleRow}
    (h : rows'.filter (InDay symbol start) = rows.filter (InDay symbol start)) :
    DayGrown symbol start rows rows' :=
  ⟨[], h.trans (List.append_nil _).symm, fun _ hr => (nomatch hr)⟩

theorem DayGrown.trans {symbol : Instrument} {start : Int} {rows rows' rows'' : List CandleRow}
    (h : DayGrown symbol start rows rows') (h' : DayGrown symbol start rows' rows'') :
    DayGrown symbol start rows rows'' := by
  rcases h with ⟨more, heq, hmore⟩
  rcases h' with ⟨more', heq', hmore'⟩
  refine ⟨more ++ more', by rw [heq', heq, List.append_assoc], ?_⟩
  intro r hr
  rcases List.mem_append.mp hr with hr | hr
  · exact hmore r hr
  · exact hmore' r hr

theorem dayGrown_append {symbol : Instrument} {start : Int} {fresh : List CandleRow}
    (hfresh : forall r, r ∈ fresh -> r.timeframe = .h1 -> 0 < r.bar.volume)
    (rows : List CandleRow) : DayGrown symbol start rows (rows ++ fresh) := by
  refine ⟨fresh.filter (InDay symbol start), List.filter_append .., ?_⟩
  intro r hr
  rcases List.mem_filter.mp hr with ⟨hmem, hday⟩
  exact hfresh r hmem (of_decide_eq_true hday).2.1

theorem DayGrown.volume_lt {symbol : Instrument} {start : Int} {rows rows' : List CandleRow}
    (h : DayGrown symbol start rows rows')
    (hne : rows'.filter (InDay symbol start) ≠ rows.filter (InDay symbol start)) :
    dayVolume symbol start rows < dayVolume symbol start rows' := by
  rcases h with ⟨more, heq, hmore⟩
  rw [dayVolume_eq, dayVolume_eq, heq, List.map_append, List.sum_append]
  apply lt_add_of_pos_right
  apply List.sum_pos
  · intro v hv
    rcases List.mem_map.mp hv with ⟨r, hr, rfl⟩
    exact hmore r hr
  · intro hnil
    apply hne
    rw [heq, List.map_eq_nil_iff.mp hnil, List.append_nil]

theorem filter_ne_of_h1Of_ne {symbol : Instrument} {start : Int} {rows rows' : List CandleRow}
    (h : h1Of symbol start rows ≠ h1Of symbol start rows') :
    rows.filter (InDay symbol start) ≠ rows'.filter (InDay symbol start) := by
  intro heq
  apply h
  rw [h1Of, heq]
  rfl

theorem DailyBarsEqual.volume (hs : DailyBarsEqual history s) {d : CandleRow}
    (hd : Resampled history s.rows d) :
    d.bar.volume = dayVolume d.symbol d.bar.openTime s.inTime :=
  (resampled_shape (hs d hd)).2.2.2

/-!
# What a resampling has read
-/

theorem InDay.inTime_iff {symbol : Instrument} {day : Int} {r : CandleRow}
    (h : InDay symbol (dayStart day) r) (now : Int) :
    InTime now r ↔ now < dayStart (day + 2) := by
  have hday : dayOf r.bar.openTime = day := by
    rcases h with ⟨-, -, hfrom, hto⟩
    unfold dayOf
    unfold dayStart msPerDay at hfrom hto
    unfold msPerDay
    omega
  unfold InTime
  rw [hday]

theorem filter_inTime {symbol : Instrument} {day now : Int} (rows : List CandleRow) :
    (rows.filter (InTime now)).filter (InDay symbol (dayStart day)) =
      if now < dayStart (day + 2) then rows.filter (InDay symbol (dayStart day)) else [] := by
  rw [List.filter_filter]
  split_ifs with hbefore
  · apply List.filter_congr
    intro r _
    by_cases hin : InDay symbol (dayStart day) r
    · simp [hin, (hin.inTime_iff now).mpr hbefore]
    · simp [hin]
  · rw [List.filter_eq_nil_iff]
    intro r _ hboth
    rw [Bool.and_eq_true, decide_eq_true_eq, decide_eq_true_eq] at hboth
    exact hbefore ((hboth.1.inTime_iff now).mp hboth.2)

/-- The rows of the day are those in time and, once the following day is over, late ones. -/
def LateAfter (s : MarketRun) (symbol : Instrument) (day : Int) : Prop :=
  DayGrown symbol (dayStart day) s.inTime s.rows ∧
    (s.now < dayStart (day + 2) ->
      s.rows.filter (InDay symbol (dayStart day)) = s.inTime.filter (InDay symbol (dayStart day)))

/-- The bars a resampling has read are those in time at some moment, or those in time
for good with late ones. -/
def ReadPast (s : MarketRun) : ResamplePhase -> Prop
  | .reading _ start => exists day, start = dayStart day
  | .read symbol start h1 =>
      exists day older, start = dayStart day ∧ h1 = h1Of symbol start older ∧
        (DayGrown symbol start older s.inTime ∨
          dayStart (day + 2) ≤ s.now ∧ DayGrown symbol start s.inTime older)

structure Reads (history : List CandleRow) (s : MarketRun) : Prop where
  kept : forall r, r ∈ history -> r ∈ s.rows
  late : forall symbol day, LateAfter s symbol day
  past : s.resamples.Forall fun _ => ReadPast s

theorem reads_opened (now : Int) (history : List CandleRow) :
    Reads history (.opened now history) where
  kept _ hr := hr
  late _ _ := ⟨.of_eq rfl, fun _ => rfl⟩
  past := InFlight.forall_empty _

theorem Reads.store (hs : Reads history s) {rows : List CandleRow}
    (hvolumes : forall r, r ∈ rows -> r.timeframe = .h1 -> 0 < r.bar.volume) :
    Reads history (s.store rows) := by
  rcases store_eq s rows with ⟨fresh, hstore, hfresh⟩
  have hpositive : forall r, r ∈ fresh -> r.timeframe = .h1 -> 0 < r.bar.volume := by
    intro r hr
    exact hvolumes r (hfresh r hr).1
  have htimely : forall r, r ∈ fresh.filter (InTime s.now) -> r.timeframe = .h1 ->
      0 < r.bar.volume := by
    intro r hr
    exact hpositive r (List.mem_of_mem_filter hr)
  rw [hstore]
  refine ⟨fun r hr => List.mem_append_left _ (hs.kept r hr), ?_, ?_⟩
  · intro symbol day
    rcases hs.late symbol day with ⟨hgrown, hsame⟩
    unfold LateAfter
    dsimp only
    by_cases hbefore : s.now < dayStart (day + 2)
    · have heq : (s.rows ++ fresh).filter (InDay symbol (dayStart day)) =
          (s.inTime ++ fresh.filter (InTime s.now)).filter (InDay symbol (dayStart day)) := by
        rw [List.filter_append, List.filter_append, filter_inTime, if_pos hbefore,
          hsame hbefore]
      exact ⟨.of_eq heq, fun _ => heq⟩
    · refine ⟨?_, fun hnow => absurd hnow hbefore⟩
      have hkept : DayGrown symbol (dayStart day) (s.inTime ++ fresh.filter (InTime s.now))
          s.inTime := by
        apply DayGrown.of_eq
        rw [List.filter_append, filter_inTime, if_neg hbefore, List.append_nil]
      exact hkept.trans (hgrown.trans (dayGrown_append hpositive s.rows))
  · refine InFlight.Forall.imp hs.past ?_
    intro id phase hphase
    cases phase with
    | reading symbol start =>
        exact hphase
    | read symbol start h1 =>
        rcases hphase with ⟨day, older, rfl, hread, hgrown⟩
        refine ⟨day, older, rfl, hread, ?_⟩
        rcases hgrown with hgrown | ⟨hafter, hgrown⟩
        · exact Or.inl (hgrown.trans (dayGrown_append htimely s.inTime))
        · refine Or.inr ⟨hafter, DayGrown.trans (.of_eq ?_) hgrown⟩
          rw [List.filter_append, filter_inTime, if_neg (not_lt.mpr hafter), List.append_nil]

theorem Reads.clock (hs : Reads history s) (ms : Nat) :
    Reads history { s with now := s.now + ms } := by
  refine ⟨hs.kept, ?_, ?_⟩
  · intro symbol day
    rcases hs.late symbol day with ⟨hgrown, hsame⟩
    refine ⟨hgrown, ?_⟩
    dsimp only
    intro hbefore
    exact hsame (by omega)
  · refine InFlight.Forall.imp hs.past ?_
    intro id phase hphase
    cases phase with
    | reading symbol start =>
        exact hphase
    | read symbol start h1 =>
        rcases hphase with ⟨day, older, hstart, hread, hgrown⟩
        refine ⟨day, older, hstart, hread, hgrown.imp_right ?_⟩
        rintro ⟨hafter, hgrown⟩
        refine ⟨?_, hgrown⟩
        dsimp only
        omega

theorem Reads.read (hs : Reads history s) {id : Nat} {symbol : Instrument} {start : Int}
    (hcall : s.resamples id = some (.reading symbol start)) :
    ReadPast s (.read symbol start (h1Of symbol start s.rows)) := by
  rcases hs.past id _ hcall with ⟨day, rfl⟩
  rcases hs.late symbol day with ⟨hgrown, hsame⟩
  refine ⟨day, s.rows, rfl, rfl, ?_⟩
  by_cases hbefore : s.now < dayStart (day + 2)
  · exact Or.inl (.of_eq (hsame hbefore).symm)
  · exact Or.inr ⟨not_lt.mp hbefore, hgrown⟩

theorem marketStep_reads {op : MarketOp} (hs : Reads history s) (hvolumes : PositiveVolumes op) :
    Reads history (marketStep s op) := by
  cases op with
  | poll symbol timeframe candles =>
      simp only [marketStep]
      split_ifs
      · apply hs.store
        intro r hr _
        exact hvolumes r.bar (mem_closedRows hr).2.2
      · exact hs
  | write id =>
      simp only [marketStep]
      split
      · next symbol start h1 _ =>
          have hstored : Reads history (s.store (resampled symbol start h1).toList) := by
            apply hs.store
            intro r hr hh1
            rw [(resampled_shape (Option.mem_toList.mp hr)).2.1] at hh1
            cases hh1
          exact ⟨hstored.kept, hstored.late, hstored.past.drop id⟩
      · exact hs
  | resample id symbol =>
      simp only [marketStep]
      split
      · exact ⟨hs.kept, hs.late, hs.past.put ⟨_, rfl⟩⟩
      · exact hs
  | read id =>
      simp only [marketStep]
      split
      · next symbol start hcall =>
          exact ⟨hs.kept, hs.late, hs.past.put (hs.read hcall)⟩
      · exact hs
  | clock ms =>
      exact hs.clock ms
  | fail id =>
      exact ⟨hs.kept, hs.late, hs.past.drop id⟩

theorem poll_loses {symbol : Instrument} {timeframe : Timeframe} {candles : List CandleDto}
    (hs : DailyBarsEqual history s)
    (hvolumes : PositiveVolumes (.poll symbol timeframe candles))
    (hlate : ¬ NoLateBar history s (.poll symbol timeframe candles)) :
    ¬ DailyBarsEqual history (marketStep s (.poll symbol timeframe candles)) := by
  intro hafter
  apply hlate
  intro r hr htime hfree d hd hin
  have hpolled : Polled timeframe := Or.inr ((mem_closedRows hr).2.1.symm.trans hin.2.1)
  rcases store_eq s (closedRows s.now symbol timeframe candles) with ⟨fresh, hstore, hfresh⟩
  have hstep : marketStep s (.poll symbol timeframe candles) =
      { s with
        rows := s.rows ++ fresh
        inTime := s.inTime ++ fresh.filter (InTime s.now) } := by
    rw [← hstore]
    exact if_pos hpolled
  rw [hstep] at hafter
  -- the late bar or one of the same time in the same poll
  have hadded : exists new, new ∈ fresh.filter (InTime s.now) ∧
      InDay d.symbol d.bar.openTime new := by
    rcases exists_key_of_mem_createMany CandleRow.key s.rows hr with ⟨new, hnew, hkey⟩
    have hrows : createMany CandleRow.key s.rows (closedRows s.now symbol timeframe candles) =
        s.rows ++ fresh := congrArg MarketRun.rows hstore
    rw [hrows] at hnew
    rcases List.mem_append.mp hnew with hold | hnew
    · exact absurd hkey (hfree new hold)
    · have hsymbol : new.symbol = r.symbol := congrArg Prod.fst hkey
      have htf : new.timeframe = r.timeframe := congrArg (fun k => k.2.1) hkey
      have hopen : new.bar.openTime = r.bar.openTime := congrArg (fun k => k.2.2) hkey
      refine ⟨new, List.mem_filter.mpr ⟨hnew, decide_eq_true ?_⟩, ?_⟩
      · rw [InTime, hopen]
        exact htime
      · rw [InDay, hsymbol, htf, hopen]
        exact hin
  have hmore : dayVolume d.symbol d.bar.openTime s.inTime <
      dayVolume d.symbol d.bar.openTime (s.inTime ++ fresh.filter (InTime s.now)) := by
    apply DayGrown.volume_lt
    · apply dayGrown_append
      intro new hnew _
      exact hvolumes new.bar
        (mem_closedRows (hfresh new (List.mem_of_mem_filter hnew)).1).2.2
    · rcases hadded with ⟨new, hnew, hday⟩
      rw [List.filter_append]
      intro hnone
      have hnil := List.append_right_eq_self.mp hnone
      rw [List.filter_eq_nil_iff] at hnil
      exact hnil new hnew (decide_eq_true hday)
  have hvolume := hafter.volume ⟨List.mem_append_left _ hd.1, hd.2⟩
  dsimp only at hvolume
  rw [← hs.volume hd, ← hvolume] at hmore
  exact lt_irrefl _ hmore

theorem ReadPast.volume_ne {symbol : Instrument} {start : Int} {h1 : List CandleDto}
    (h : ReadPast s (.read symbol start h1)) (hne : h1Of symbol start s.inTime ≠ h1) :
    (h1.map CandleDto.volume).sum ≠ dayVolume symbol start s.inTime := by
  rcases h with ⟨day, older, rfl, rfl, hgrown⟩
  have hfilter := filter_ne_of_h1Of_ne hne
  rcases hgrown with hgrown | ⟨-, hgrown⟩
  · exact (hgrown.volume_lt hfilter).ne
  · exact (hgrown.volume_lt hfilter.symm).ne'

theorem write_loses {id : Nat} (hreads : Reads history s)
    (hlate : ¬ NoLateBar history s (.write id)) :
    ¬ DailyBarsEqual history (marketStep s (.write id)) := by
  intro hafter
  simp only [NoLateBar] at hlate
  split at hlate
  · next symbol start h1 hcall =>
      apply hlate
      intro d hd hfree
      by_contra hne
      apply (hreads.past id _ hcall).volume_ne hne
      rcases store_eq s (resampled symbol start h1).toList with ⟨fresh, hstore, hfresh⟩
      have hadded : d ∈ fresh := by
        rcases exists_key_of_mem_createMany CandleRow.key s.rows
          (Option.mem_toList.mpr hd) with ⟨new, hnew, hkey⟩
        have hrows : createMany CandleRow.key s.rows (resampled symbol start h1).toList =
            s.rows ++ fresh := congrArg MarketRun.rows hstore
        rw [hrows] at hnew
        rcases List.mem_append.mp hnew with hold | hnew
        · exact absurd hkey (hfree new hold)
        · have hsame := Option.mem_toList.mp (hfresh new hnew).1
          rw [hd] at hsame
          exact Option.some.inj hsame ▸ hnew
      have hstep : marketStep s (.write id) =
          { s with
            rows := s.rows ++ fresh
            inTime := s.inTime ++ fresh.filter (InTime s.now)
            resamples := s.resamples.drop id } := by
        simp only [marketStep, hcall, hstore]
      rw [hstep] at hafter
      rcases resampled_shape hd with ⟨rfl, hd1, rfl, hvolume⟩
      have hnow := hafter.volume (d := d) ⟨List.mem_append_right _ hadded,
        fun hhistory => hfree d (hreads.kept d hhistory) rfl, hd1⟩
      have hsame : h1Of d.symbol d.bar.openTime (s.inTime ++ fresh.filter (InTime s.now)) =
          h1Of d.symbol d.bar.openTime s.inTime := by
        apply h1Of_append
        intro r hr hin
        have htf := (resampled_shape
          (Option.mem_toList.mp (hfresh r (List.mem_of_mem_filter hr)).1)).2.1
        rw [hin.2.1] at htf
        cases htf
      dsimp only at hnow
      rw [dayVolume, hsame] at hnow
      rw [← hvolume]
      exact hnow
  · exact hlate trivial

theorem marketStep_loses {op : MarketOp} (hs : DailyBarsEqual history s)
    (hreads : Reads history s) (hvolumes : PositiveVolumes op)
    (hlate : ¬ NoLateBar history s op) : ¬ DailyBarsEqual history (marketStep s op) := by
  cases op with
  | poll symbol timeframe candles =>
      exact poll_loses hs hvolumes hlate
  | write id =>
      exact write_loses hreads hlate
  | _ =>
      exact absurd trivial hlate

/-- Without late bars every D1 row that a resampling leaves is that of the H1 rows there
by the end of the following day, and where all bars have traded the first late bar ends
it. -/
theorem daily_bars_equal_without_late_bars (now : Int) (history : List CandleRow)
    (ops : List MarketOp) :
    (EveryStep marketStep (NoLateBar history) (.opened now history) ops ->
        DailyBarsEqual history (runFrom marketStep (.opened now history) ops)) ∧
      (forall op, EveryStep marketStep (NoLateBar history) (.opened now history) ops ->
        (forall o, o ∈ ops ++ [op] -> PositiveVolumes o) ->
          ¬ NoLateBar history (runFrom marketStep (.opened now history) ops) op ->
            ¬ DailyBarsEqual history
              (runFrom marketStep (.opened now history) (ops ++ [op]))) := by
  have hequal (hops : EveryStep marketStep (NoLateBar history) (.opened now history) ops) :
      DailyBarsEqual history (runFrom marketStep (.opened now history) ops) := by
    refine EveryStep.run_inv (DailyBarsEqual history) (fun _ _ => marketStep_keeps) ?_ hops
    rintro d ⟨hmem, hnew, -⟩
    exact absurd hmem hnew
  refine ⟨hequal, ?_⟩
  intro op hops hvolumes hlate
  have hreads : Reads history (runFrom marketStep (.opened now history) ops) := by
    apply runFrom_inv_of_mem (Reads history)
    · intro s o ho hs
      exact marketStep_reads hs (hvolumes o (List.mem_append_left _ ho))
    · exact reads_opened now history
  rw [runFrom_append]
  exact marketStep_loses (hequal hops) hreads
    (hvolumes op (List.mem_append_right _ List.mem_cons_self)) hlate

/-!
# The last hour of a day
-/

def hourBar (hour : Int) : CandleDto :=
  { openTime := hour * msPerHour
    open_ := 110 / 100
    high := 112 / 100
    low := 109 / 100
    close := 111 / 100
    volume := 1000 }

def eurDay (volume : ℚ) : CandleRow :=
  { symbol := .EURUSD
    timeframe := .d1
    bar :=
      { openTime := 0
        open_ := 110 / 100
        high := 112 / 100
        low := 109 / 100
        close := 111 / 100
        volume := volume } }

/-- Both bars are there when the day after begins, and a third comes when it is over. -/
theorem day_resampled_after_its_last_bar :
    Resampled [] (runFrom marketStep (.opened msPerDay [])
        [.poll .EURUSD .h1 [hourBar 22, hourBar 23], .resample 0 .EURUSD, .read 0, .write 0,
          .clock 86400000, .poll .EURUSD .h1 [hourBar 21]]).rows (eurDay 2000) ∧
      DailyBarsEqual [] (runFrom marketStep (.opened msPerDay [])
        [.poll .EURUSD .h1 [hourBar 22, hourBar 23], .resample 0 .EURUSD, .read 0, .write 0,
          .clock 86400000, .poll .EURUSD .h1 [hourBar 21]]) := by
  refine ⟨by decide +kernel, (daily_bars_equal_without_late_bars msPerDay [] _).1 ?_⟩
  refine ⟨?_, trivial, trivial, fun d _ _ => rfl, trivial, ?_, trivial⟩
  · intro r _ _ _ d hd
    cases hd.1
  · intro r hr htime
    rcases List.mem_singleton.mp hr with rfl
    exact absurd htime (by decide +kernel)

/-- The last bar comes a minute after midnight; the first tick has written the D1 bar. -/
theorem late_bar_is_left_out :
    ¬ DailyBarsEqual [] (runFrom marketStep (.opened msPerDay [])
        [.poll .EURUSD .h1 [hourBar 22], .resample 0 .EURUSD, .read 0, .write 0,
          .clock 60000, .poll .EURUSD .h1 [hourBar 22, hourBar 23], .resample 1 .EURUSD,
          .read 1, .write 1]) := by
  intro h
  have hday := h (eurDay 1000) (by decide +kernel)
  revert hday
  decide +kernel

end Market
end Shamarx
