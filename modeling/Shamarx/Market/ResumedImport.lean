import Shamarx.Market.ImportParts

/-!
# Resumed imports

The resume point of a run is the earliest of the checkpoints of its timeframes.
What it skips may never have been imported: a checkpoint says how far a timeframe has
come, not from where, and a timeframe without one does not count.
-/

namespace Shamarx
namespace Market

open Foundation

def InRange (run : ImportRun) (d : Int) : Prop :=
  run.start ≤ run.end_ ∧ dayOf run.start ≤ d ∧ d ≤ dayOf run.end_

instance (run : ImportRun) (d : Int) : Decidable (InRange run d) :=
  inferInstanceAs (Decidable (_ ∧ _ ∧ _))

def rowsIn (run : ImportRun) (timeframe : Timeframe) (s : ImportStore) : List ImportedCandle :=
  s.candles.filter fun r =>
    r.symbol = run.symbol ∧ r.timeframe = timeframe ∧ InRange run (dayOf r.bar.openTime)

/-- Inside its days, the run leaves the rows which one run over an empty table that
does not resume inserts there. -/
def Complete (feed : Feed) (s : ImportStore) (run : ImportRun) : Prop :=
  forall timeframe, timeframe ∈ run.timeframes ->
    (rowsIn run timeframe (importStep feed s run)).Perm
      (rowsIn run timeframe (importSymbol feed false run .empty).1)

instance (feed : Feed) (s : ImportStore) (run : ImportRun) : Decidable (Complete feed s run) :=
  inferInstanceAs (Decidable (forall timeframe, timeframe ∈ run.timeframes -> _))

def HasDay (s : ImportStore) (p : CandlePart) : Prop :=
  exists r, r ∈ s.candles ∧ partOf r = p

def Skipped (s : ImportStore) (run : ImportRun) (d : Int) : Prop :=
  exists earliest, resumePoint s run.symbol run.timeframes = some earliest ∧
    run.start < earliest ∧ d ≤ dayOf earliest

/-- Each day of the run that is skipped, has traded and is no Saturday is stored in
each of its timeframes. -/
def SkippedDaysStored (feed : Feed) (s : ImportStore) (run : ImportRun) : Prop :=
  forall d, InRange run d -> Skipped s run d -> weekdayOf d ≠ 6 ->
    fetchDay feed run.symbol d ≠ [] ->
      forall timeframe, timeframe ∈ run.timeframes -> HasDay s (run.symbol, timeframe, d)

/-!
# One run
-/

variable {feed : Feed} {run : ImportRun} {s : ImportStore} {d : Int}

theorem mem_downloadedDays {start : Int} :
    d ∈ downloadedDays start run <->
      (start ≤ run.end_ ∧ dayOf start ≤ d ∧ d ≤ dayOf run.end_) ∧ weekdayOf d ≠ 6 := by
  unfold downloadedDays
  split_ifs with hend
  · constructor
    · intro hd
      cases hd
    · rintro ⟨⟨hle, -⟩, -⟩
      exact absurd hend (not_lt.mpr hle)
  · rw [mem_importDays, and_iff_right (not_lt.mp hend)]

theorem skipped_iff {earliest : Int}
    (hpoint : resumePoint s run.symbol run.timeframes = some earliest) :
    Skipped s run d <-> run.start < earliest ∧ d ≤ dayOf earliest := by
  constructor
  · rintro ⟨found, hsome, hrest⟩
    rw [hpoint] at hsome
    cases hsome
    exact hrest
  · intro hrest
    exact ⟨earliest, hpoint, hrest⟩

theorem mem_downloadedDays_resumed :
    d ∈ downloadedDays (resumeStart s run) run <->
      d ∈ downloadedDays run.start run ∧ ¬ Skipped s run d := by
  unfold resumeStart
  cases hpoint : resumePoint s run.symbol run.timeframes with
  | none =>
      rw [and_iff_left]
      rintro ⟨earliest, hsome, -⟩
      rw [hpoint] at hsome
      cases hsome
  | some earliest =>
      dsimp only
      rw [skipped_iff hpoint]
      split_ifs with hlater
      · -- the midnight after the checkpoint is later than the requested start
        have hnext : max run.start (dayStart (dayOf (earliest + msPerDay))) =
            dayStart (dayOf earliest + 1) := by
          unfold dayStart dayOf msPerDay
          omega
        rw [hnext, mem_downloadedDays, mem_downloadedDays]
        unfold dayStart dayOf msPerDay
        omega
      · rw [and_iff_left]
        rintro ⟨hearlier, -⟩
        exact hlater hearlier

theorem rowsIn_perm_iff (run : ImportRun) {s s' : ImportStore}
    (hs : (candleSource feed).Whole s.candles)
    (hs' : (candleSource feed).Whole s'.candles) (timeframe : Timeframe) :
    (rowsIn run timeframe s).Perm (rowsIn run timeframe s') <->
      forall d, InRange run d ->
        (HasDay s (run.symbol, timeframe, d) <-> HasDay s' (run.symbol, timeframe, d)) := by
  have hperm : (rowsIn run timeframe s).Perm (rowsIn run timeframe s') <->
      forall p : CandlePart, (p.1 = run.symbol ∧ p.2.1 = timeframe ∧ InRange run p.2.2) ->
        (HasDay s p <-> HasDay s' p) :=
    hs.perm_iff hs' fun _ => decide_eq_true_iff
  rw [hperm]
  constructor
  · intro hparts d hd
    exact hparts (run.symbol, timeframe, d) ⟨rfl, rfl, hd⟩
  · rintro hdays ⟨symbol, tf, d⟩ ⟨hsymbol, htf, hd⟩
    dsimp only at hsymbol htf
    rw [hsymbol, htf]
    exact hdays d hd

theorem hasDay_imported (resume : Bool) (hs : (candleSource feed).Whole s.candles)
    {timeframe : Timeframe} (htf : timeframe ∈ run.timeframes) :
    HasDay (importSymbol feed resume run s).1 (run.symbol, timeframe, d) <->
      HasDay s (run.symbol, timeframe, d) ∨
        (d ∈ downloadedDays (startOf resume run s) run ∧ fetchDay feed run.symbol d ≠ []) := by
  have hparts := (importSymbol_whole resume run hs).2 (run.symbol, timeframe, d)
  rw [dayRows_ne_nil_iff] at hparts
  refine hparts.trans (or_congr Iff.rfl ?_)
  constructor
  · rintro ⟨⟨-, -, hd⟩, -, hne⟩
    exact ⟨hd, hne⟩
  · rintro ⟨hd, hne⟩
    exact ⟨⟨rfl, htf, hd⟩, (mem_downloadedDays.mp hd).2, hne⟩

theorem traded_of_hasDay (hs : (candleSource feed).Whole s.candles) {p : CandlePart}
    (h : HasDay s p) : weekdayOf p.2.2 ≠ 6 ∧ fetchDay feed p.1 p.2.2 ≠ [] := by
  rcases h with ⟨r, hr, rfl⟩
  exact dayRows_ne_nil_iff.mp (List.ne_nil_of_mem (hs.stored r hr))

theorem whole_empty (feed : Feed) : (candleSource feed).Whole ImportStore.empty.candles :=
  (candleSource feed).whole_nil

theorem complete_iff (hs : (candleSource feed).Whole s.candles) :
    Complete feed s run <-> SkippedDaysStored feed s run := by
  have hempty := whole_empty feed
  have hfresh : forall timeframe, timeframe ∈ run.timeframes -> forall d,
      (HasDay (importSymbol feed false run .empty).1 (run.symbol, timeframe, d) <->
        (InRange run d ∧ weekdayOf d ≠ 6) ∧ fetchDay feed run.symbol d ≠ []) := by
    intro timeframe htf d
    rw [hasDay_imported false hempty htf]
    constructor
    · rintro (⟨r, hr, -⟩ | ⟨hd, hne⟩)
      · cases hr
      · exact ⟨mem_downloadedDays.mp hd, hne⟩
    · rintro ⟨hd, hne⟩
      exact Or.inr ⟨mem_downloadedDays.mpr hd, hne⟩
  have hresumed : forall timeframe, timeframe ∈ run.timeframes -> forall d,
      (HasDay (importStep feed s run) (run.symbol, timeframe, d) <->
        HasDay s (run.symbol, timeframe, d) ∨
          (((InRange run d ∧ weekdayOf d ≠ 6) ∧ ¬ Skipped s run d) ∧
            fetchDay feed run.symbol d ≠ [])) := by
    intro timeframe htf d
    have hdays : d ∈ downloadedDays (startOf true run s) run <->
        (InRange run d ∧ weekdayOf d ≠ 6) ∧ ¬ Skipped s run d :=
      mem_downloadedDays_resumed.trans (and_congr mem_downloadedDays Iff.rfl)
    rw [importStep, hasDay_imported true hs htf, hdays]
  have hperm : forall timeframe, _ := fun timeframe =>
    rowsIn_perm_iff run (importStep_whole run hs) (importSymbol_whole false run hempty).1 timeframe
  constructor
  · intro hcomplete d hd hskipped hweek hne timeframe htf
    have hsame := (hperm timeframe).mp (hcomplete timeframe htf) d hd
    rw [hfresh timeframe htf, hresumed timeframe htf] at hsame
    rcases hsame.mpr ⟨⟨hd, hweek⟩, hne⟩ with hstored | ⟨⟨-, hnot⟩, -⟩
    · exact hstored
    · exact absurd hskipped hnot
  · intro hstored timeframe htf
    rw [hperm timeframe]
    intro d hd
    rw [hfresh timeframe htf, hresumed timeframe htf]
    constructor
    · rintro (hold | ⟨⟨hin, -⟩, hne⟩)
      · rcases traded_of_hasDay hs hold with ⟨hweek, hne⟩
        exact ⟨⟨hd, hweek⟩, hne⟩
      · exact ⟨hin, hne⟩
    · rintro ⟨⟨-, hweek⟩, hne⟩
      by_cases hskipped : Skipped s run d
      · exact Or.inl (hstored d hd hskipped hweek hne timeframe htf)
      · exact Or.inr ⟨⟨⟨hd, hweek⟩, hskipped⟩, hne⟩

/-!
# Every run
-/

/-- A sequence of resumed runs is complete after each of them exactly when every run
finds the days that it skips. -/
theorem resumed_imports_complete (feed : Feed) (runs : List ImportRun) :
    EveryStep (importStep feed) (Complete feed) .empty runs <->
      EveryStep (importStep feed) (SkippedDaysStored feed) .empty runs := by
  let Inv : ImportStore -> Prop := fun s => (candleSource feed).Whole s.candles
  constructor
  · intro hcomplete
    exact everyStep_of_inv Inv (fun _ run hs _ => importStep_whole run hs)
      (fun _ _ hs => (complete_iff hs).mp) (whole_empty feed) hcomplete
  · intro hstored
    exact everyStep_of_inv Inv (fun _ run hs _ => importStep_whole run hs)
      (fun _ _ hs => (complete_iff hs).mpr) (whole_empty feed) hstored

def midnightFile : DayFile :=
  { records := [{ time := 0, open_ := 1, close := 1, low := 1, high := 1, volume := 1 }]
    in_day := by decide
    ordered := by decide }

def inOrder : Arrivals :=
  { order := id
    perm := List.Perm.refl }

def mondayThenFriday : List ImportRun :=
  [ { symbol := .XAUUSD
      start := dayStart 4
      end_ := dayStart 4
      timeframes := [.d1]
      arrivals := inOrder },
    { symbol := .XAUUSD
      start := dayStart 1
      end_ := dayStart 4
      timeframes := [.d1]
      arrivals := inOrder } ]

theorem earlier_days_are_skipped :
    ¬ forall (feed : Feed) (symbol : FeedSymbol) (runs : List ImportRun),
      (forall run, run ∈ runs -> run.symbol = symbol) ->
        EveryStep (importStep feed) (Complete feed) .empty runs := by
  intro hclaim
  have hruns := hclaim (fun _ _ => midnightFile) .XAUUSD mondayThenFriday (by decide)
  revert hruns
  decide +kernel

theorem stored_bars_are_whole (feed : Feed) (runs : List ImportRun) {r : ImportedCandle}
    (hr : r ∈ (runFrom (importStep feed) .empty runs).candles) :
    r.bar ∈ barsOf r.timeframe (fetchDay feed r.symbol (dayOf r.bar.openTime)) := by
  have hwhole : (candleSource feed).Whole (runFrom (importStep feed) .empty runs).candles :=
    runFrom_inv (fun s : ImportStore => (candleSource feed).Whole s.candles)
      (fun _ run hs => importStep_whole run hs) (whole_empty feed) runs
  exact (mem_dayRows.mp (hwhole.stored r hr)).2.2.2

/-!
# The same import again

Runs that differ only in their end, as when an import is taken up day by day, find
what they skip.
-/

/-- A checkpoint that a timeframe has after a run is one from before it or that of a bar. -/
def CheckpointFrom (before : ImportStore) (symbol : FeedSymbol) (timeframe : Timeframe)
    (bars : List CandleDto) (t : Int) : Prop :=
  (exists old, getCheckpoint before symbol timeframe = some old ∧ old.lastOpenTime = t) ∨
    exists b, b ∈ bars ∧ b.openTime = t

theorem updateCheckpoint_self (s : ImportStore) (symbol : FeedSymbol) (timeframe : Timeframe)
    {b : CandleDto} {bars : List CandleDto} (hb : b ∈ bars) (rowsAdded : Nat)
    {c : ImportCheckpoint}
    (h : getCheckpoint (updateCheckpoint s symbol timeframe b.openTime rowsAdded) symbol timeframe =
      some c) : CheckpointFrom s symbol timeframe bars c.lastOpenTime := by
  unfold updateCheckpoint at h
  rw [getCheckpoint, InsertionMap.get_set_self] at h
  cases hold : getCheckpoint s symbol timeframe with
  | none =>
      rw [hold] at h
      cases h
      exact Or.inr ⟨b, hb, rfl⟩
  | some old =>
      rw [hold] at h
      cases h
      rcases max_choice old.lastOpenTime b.openTime with hmax | hmax
      · exact Or.inl ⟨old, hold, hmax.symm⟩
      · exact Or.inr ⟨b, hb, hmax.symm⟩

theorem checkpoint_of_importTimeframe {symbol : FeedSymbol} {m1 : List CandleDto}
    {acc : ImportStore × InsertionMap Timeframe Nat} {timeframe tf : Timeframe}
    {c : ImportCheckpoint}
    (h : getCheckpoint (importTimeframe symbol m1 acc timeframe).1 symbol tf = some c) :
    CheckpointFrom acc.1 symbol tf (barsOf tf m1) c.lastOpenTime := by
  unfold importTimeframe at h
  dsimp only at h
  cases hlast : (barsOf timeframe m1).getLast? with
  | none =>
      rw [hlast] at h
      exact Or.inl ⟨c, h, rfl⟩
  | some last =>
      rw [hlast] at h
      by_cases heq : tf = timeframe
      · subst heq
        exact updateCheckpoint_self _ symbol tf (List.mem_of_getLast? hlast) _ h
      · have hother : (symbol, tf) ≠ (symbol, timeframe) :=
          fun hpair => heq (Prod.mk.inj hpair).2
        unfold updateCheckpoint at h
        rw [getCheckpoint, InsertionMap.get_set_of_ne _ _ hother] at h
        exact Or.inl ⟨c, h, rfl⟩

theorem checkpoint_of_importTimeframes {symbol : FeedSymbol} {m1 : List CandleDto}
    {timeframes : List Timeframe} {acc : ImportStore × InsertionMap Timeframe Nat} {tf : Timeframe}
    {c : ImportCheckpoint}
    (h : getCheckpoint (timeframes.foldl (importTimeframe symbol m1) acc).1 symbol tf = some c) :
    CheckpointFrom acc.1 symbol tf (barsOf tf m1) c.lastOpenTime := by
  induction timeframes generalizing acc with
  | nil =>
      exact Or.inl ⟨c, h, rfl⟩
  | cons timeframe rest ih =>
      rcases ih h with ⟨old, hold, htime⟩ | hbar
      · rw [<- htime]
        exact checkpoint_of_importTimeframe hold
      · exact Or.inr hbar

theorem checkpoint_of_importSymbol {tf : Timeframe} {c : ImportCheckpoint}
    (h : getCheckpoint (importStep feed s run) run.symbol tf = some c) :
    (exists old, getCheckpoint s run.symbol tf = some old ∧
        old.lastOpenTime = c.lastOpenTime) ∨
      dayOf c.lastOpenTime ∈ downloadedDays (resumeStart s run) run := by
  unfold importStep importSymbol at h
  unfold downloadedDays
  simp only [if_true] at h
  split_ifs at h ⊢ with hend
  · exact Or.inl ⟨c, h, rfl⟩
  · have hnodup := nodup_importDays (resumeStart s run) run.end_
    cases hdays : importDays (resumeStart s run) run.end_ with
    | nil =>
        rw [hdays] at h
        exact Or.inl ⟨c, h, rfl⟩
    | cons day days =>
        rw [hdays] at h hnodup
        rcases checkpoint_of_importTimeframes h with hold | ⟨b, hb, htime⟩
        · exact Or.inl hold
        · rcases (mem_barsOf_allM1 hnodup).mp hb with ⟨d, hd, hbd⟩
          rw [<- htime, dayOf_of_mem_barsOf hbd]
          exact Or.inr hd

/-- Up to the checkpoint of any of the timeframes, all of them have the days from the
start. -/
structure StoredFrom (feed : Feed) (symbol : FeedSymbol) (start : Int)
    (timeframes : List Timeframe) (s : ImportStore) : Prop where
  whole : (candleSource feed).Whole s.candles
  upTo : forall tf, tf ∈ timeframes -> forall c, getCheckpoint s symbol tf = some c ->
    forall d, dayOf start ≤ d -> d ≤ dayOf c.lastOpenTime -> weekdayOf d ≠ 6 ->
      fetchDay feed symbol d ≠ [] ->
        forall timeframe, timeframe ∈ timeframes -> HasDay s (symbol, timeframe, d)

theorem StoredFrom.skipped (hs : StoredFrom feed run.symbol run.start run.timeframes s) :
    SkippedDaysStored feed s run := by
  rintro d ⟨-, hlow, -⟩ ⟨earliest, hpoint, -, hd⟩ hweek hne
  rcases List.mem_filterMap.mp (List.min?_mem hpoint) with ⟨tf, htf, hcheckpoint⟩
  rcases Option.map_eq_some_iff.mp hcheckpoint with ⟨c, hc, rfl⟩
  exact hs.upTo tf htf c hc d hlow hd hweek hne

theorem StoredFrom.next (hs : StoredFrom feed run.symbol run.start run.timeframes s) :
    StoredFrom feed run.symbol run.start run.timeframes (importStep feed s run) := by
  constructor
  · exact importStep_whole run hs.whole
  · intro tf htf c hc d hlow hd hweek hne timeframe hmem
    rw [importStep, hasDay_imported true hs.whole hmem]
    rcases checkpoint_of_importSymbol hc with ⟨old, hold, htime⟩ | hnew
    · rw [<- htime] at hd
      exact Or.inl (hs.upTo tf htf old hold d hlow hd hweek hne timeframe hmem)
    · -- the day is not after one that this run has downloaded
      rcases mem_downloadedDays_resumed.mp hnew with ⟨hasked, -⟩
      rcases mem_downloadedDays.mp hasked with ⟨⟨hstart, -, hhigh⟩, -⟩
      have hrange : InRange run d := ⟨hstart, hlow, le_trans hd hhigh⟩
      by_cases hskipped : Skipped s run d
      · exact Or.inl (hs.skipped d hrange hskipped hweek hne timeframe hmem)
      · refine Or.inr ⟨mem_downloadedDays_resumed.mpr ⟨?_, hskipped⟩, hne⟩
        exact mem_downloadedDays.mpr ⟨hrange, hweek⟩

theorem same_import_is_complete (feed : Feed) (symbol : FeedSymbol) (start : Int)
    (timeframes : List Timeframe) {runs : List ImportRun}
    (hsame : forall run, run ∈ runs ->
      run.symbol = symbol ∧ run.start = start ∧ run.timeframes = timeframes) :
    EveryStep (importStep feed) (Complete feed) .empty runs := by
  have hempty : StoredFrom feed symbol start timeframes .empty :=
    { whole := whole_empty feed
      upTo := fun _ _ _ hc => (nomatch hc) }
  revert hempty
  generalize ImportStore.empty = s
  intro hs
  induction runs generalizing s with
  | nil =>
      exact trivial
  | cons run rest ih =>
      rcases hsame run List.mem_cons_self with ⟨rfl, rfl, rfl⟩
      exact ⟨(complete_iff hs.whole).mpr hs.skipped,
        ih (fun run' hrun => hsame run' (List.mem_cons_of_mem _ hrun)) _ hs.next⟩

end Market
end Shamarx
