import Mathlib.Data.List.Pairwise
import Mathlib.Tactic.Ring
import Shamarx.Market.DukascopyImport

/-!
# Days are imported whole

A bin never spans midnight, so the bars of a download are those of its days, and
every run inserts the bars of whole days.
-/

namespace Shamarx
namespace Market

open Foundation

/-!
# Chronological bars
-/

def Earlier (b c : CandleDto) : Prop :=
  b.openTime < c.openTime

instance : Std.Irrefl Earlier :=
  ⟨fun b => lt_irrefl b.openTime⟩

instance : Std.Antisymm Earlier :=
  ⟨fun _ _ h h' => absurd h (lt_asymm h')⟩

def Chronological (bars : List CandleDto) : Prop :=
  bars.Pairwise Earlier

theorem Chronological.filter {bars : List CandleDto} (h : Chronological bars)
    (keep : CandleDto -> Bool) : Chronological (bars.filter keep) :=
  List.Pairwise.filter keep h

theorem Chronological.eq_of_mem_iff {bars bars' : List CandleDto} (h : Chronological bars)
    (h' : Chronological bars') (hmem : forall b, b ∈ bars <-> b ∈ bars') : bars = bars' :=
  List.Pairwise.eq_of_mem_iff h h' hmem

theorem Chronological.eq_of_openTime {bars : List CandleDto} (h : Chronological bars)
    {b c : CandleDto} (hb : b ∈ bars) (hc : c ∈ bars) (heq : b.openTime = c.openTime) : b = c := by
  by_contra hne
  have hsymm : Std.Symm fun b c : CandleDto => b.openTime ≠ c.openTime :=
    ⟨fun _ _ hxy => hxy.symm⟩
  have hapart : bars.Pairwise fun b c => b.openTime ≠ c.openTime := by
    apply List.Pairwise.imp _ h
    intro b c hlt
    exact ne_of_lt hlt
  exact hapart.forall hb hc hne heq

theorem Chronological.bounds {first : CandleDto} {rest : List CandleDto}
    (h : Chronological (first :: rest)) {b : CandleDto} (hb : b ∈ first :: rest) :
    first.openTime ≤ b.openTime ∧
      b.openTime ≤ ((first :: rest).getLast (List.cons_ne_nil first rest)).openTime := by
  have hle : (first :: rest).Pairwise fun b c => b.openTime ≤ c.openTime := by
    apply List.Pairwise.imp _ h
    intro b c hlt
    exact le_of_lt hlt
  constructor
  · exact hle.rel_head_of_rel_head_head hb (le_refl _)
  · exact hle.rel_getLast_of_rel_getLast_getLast hb (le_refl _)

/-!
# Bins
-/

theorem timeframeMs_pos (timeframe : Timeframe) : 0 < timeframeMs timeframe := by
  cases timeframe <;> decide

theorem timeframeMs_dvd_msPerDay (timeframe : Timeframe) : timeframeMs timeframe ∣ msPerDay := by
  cases timeframe <;> decide

theorem binStart_dayStart (timeframe : Timeframe) (d t : Int) :
    binStart (dayStart d) (timeframeMs timeframe) t =
      t / timeframeMs timeframe * timeframeMs timeframe := by
  rcases Dvd.dvd.mul_left (timeframeMs_dvd_msPerDay timeframe) d with ⟨k, hk⟩
  have hpos := timeframeMs_pos timeframe
  have hdiv : (t - timeframeMs timeframe * k) / timeframeMs timeframe =
      t / timeframeMs timeframe - k := by
    rw [sub_eq_add_neg, <- mul_neg, Int.add_mul_ediv_left _ _ (ne_of_gt hpos)]
    rfl
  rw [binStart, dayStart, hk, hdiv]
  ring

theorem dayOf_bin (timeframe : Timeframe) (t : Int) :
    dayOf (t / timeframeMs timeframe * timeframeMs timeframe) = dayOf t := by
  cases timeframe <;>
    simp only [dayOf, timeframeMs, msPerDay, msPerHour, msPerMinute] <;> omega

def binBars (timeframe : Timeframe) (start : Int) (m1 : List CandleDto) : List CandleDto :=
  m1.filter fun c => c.openTime / timeframeMs timeframe * timeframeMs timeframe = start

theorem aggregated_openTime {start : Int} {bars : List CandleDto} {b : CandleDto}
    (h : aggregated start bars = some b) : b.openTime = start ∧ bars ≠ [] := by
  cases bars with
  | nil =>
      cases h
  | cons first rest =>
      cases h
      exact ⟨rfl, List.cons_ne_nil first rest⟩

theorem exists_of_aggregated {timeframe : Timeframe} {start : Int} {m1 : List CandleDto}
    {b : CandleDto} (h : aggregated start (binBars timeframe start m1) = some b) :
    exists c, c ∈ m1 ∧ c.openTime / timeframeMs timeframe * timeframeMs timeframe = start := by
  rcases List.exists_mem_of_ne_nil _ (aggregated_openTime h).2 with ⟨c, hc⟩
  rcases List.mem_filter.mp hc with ⟨hmem, hbin⟩
  exact ⟨c, hmem, of_decide_eq_true hbin⟩

theorem mem_resample {timeframe : Timeframe} {m1 : List CandleDto} (hm1 : Chronological m1)
    {b : CandleDto} :
    b ∈ resample timeframe m1 <->
      aggregated b.openTime (binBars timeframe b.openTime m1) = some b := by
  cases m1 with
  | nil =>
      constructor
      · intro hb
        cases hb
      · intro hb
        cases hb
  | cons first rest =>
      have hpos := timeframeMs_pos timeframe
      simp only [resample, binStart_dayStart, List.mem_filterMap, List.mem_range]
      constructor
      · rintro ⟨i, -, hb⟩
        rw [(aggregated_openTime hb).1]
        exact hb
      · intro hb
        rcases exists_of_aggregated hb with ⟨c, hc, hbin⟩
        rcases hm1.bounds hc with ⟨hfirst, hlast⟩
        have hlow := Int.ediv_le_ediv hpos hfirst
        have hhigh := Int.ediv_le_ediv hpos hlast
        -- the place of the bin among those from the first one on
        refine ⟨(c.openTime / timeframeMs timeframe -
          first.openTime / timeframeMs timeframe).toNat, ?_, ?_⟩
        · rw [<- sub_mul, Int.mul_ediv_cancel _ (ne_of_gt hpos)]
          omega
        · rw [Int.toNat_of_nonneg (sub_nonneg.mpr hlow), <- add_mul, add_sub_cancel, hbin]
          exact hb

theorem exists_aggregated (start : Int) {bars : List CandleDto} (h : bars ≠ []) :
    exists b, aggregated start bars = some b := by
  cases bars with
  | nil =>
      exact absurd rfl h
  | cons first rest =>
      exact ⟨_, rfl⟩

theorem barsOf_eq_nil_iff {timeframe : Timeframe} {m1 : List CandleDto}
    (hm1 : Chronological m1) : barsOf timeframe m1 = [] <-> m1 = [] := by
  unfold barsOf
  split_ifs with htf
  · rfl
  · constructor
    · intro hnil
      by_contra hne
      rcases List.exists_mem_of_ne_nil m1 hne with ⟨c, hc⟩
      have hbin : c ∈ binBars timeframe
          (c.openTime / timeframeMs timeframe * timeframeMs timeframe) m1 :=
        List.mem_filter.mpr ⟨hc, decide_eq_true rfl⟩
      rcases exists_aggregated (c.openTime / timeframeMs timeframe * timeframeMs timeframe)
        (List.ne_nil_of_mem hbin) with ⟨b, hb⟩
      have hmem : b ∈ resample timeframe m1 := by
        rw [mem_resample hm1, (aggregated_openTime hb).1]
        exact hb
      rw [hnil] at hmem
      cases hmem
    · rintro rfl
      rfl

/-!
# Days
-/

variable {feed : Feed} {symbol : FeedSymbol} {timeframe : Timeframe} {d : Int} {b : CandleDto}

theorem parseRecord_openTime {scale : Nat} {r : BidRecord} (h : parseRecord scale d r = some b) :
    b.openTime = dayStart d + 1000 * r.time := by
  unfold parseRecord at h
  split_ifs at h
  cases h
  rfl

theorem dayOf_of_mem_fetchDay (h : b ∈ fetchDay feed symbol d) : dayOf b.openTime = d := by
  rcases List.mem_filterMap.mp h with ⟨r, hr, hb⟩
  have htime := (feed symbol d).in_day r hr
  rw [parseRecord_openTime hb, dayOf, dayStart, msPerDay]
  omega

theorem chronological_fetchDay (feed : Feed) (symbol : FeedSymbol) (d : Int) :
    Chronological (fetchDay feed symbol d) := by
  apply List.pairwise_filterMap.mpr
  apply List.Pairwise.imp _ (feed symbol d).ordered
  intro r r' hlt b hb b' hb'
  rw [Earlier, parseRecord_openTime hb, parseRecord_openTime hb']
  omega

theorem mem_importDays {start end_ : Int} :
    d ∈ importDays start end_ <->
      (dayOf start ≤ d ∧ d ≤ dayOf end_) ∧ weekdayOf d ≠ 6 := by
  simp only [importDays, List.mem_filter, List.mem_map, List.mem_range, decide_eq_true_eq]
  apply and_congr_left
  intro _
  constructor
  · rintro ⟨i, hi, rfl⟩
    omega
  · rintro ⟨hlow, hhigh⟩
    exact ⟨(d - dayOf start).toNat, by omega, by omega⟩

theorem nodup_importDays (start end_ : Int) : (importDays start end_).Nodup := by
  apply List.Nodup.filter
  apply List.Nodup.map _ List.nodup_range
  intro i j hij
  dsimp only at hij
  omega

variable {run : ImportRun} {days : List Int}

theorem mem_allM1 :
    b ∈ allM1 feed run days <-> exists d, d ∈ days ∧ b ∈ fetchDay feed run.symbol d := by
  simp only [allM1, List.mem_insertionSort, List.mem_flatMap, (run.arrivals.perm days).mem_iff]

theorem chronological_allM1 (feed : Feed) (run : ImportRun) (hdays : days.Nodup) :
    Chronological (allM1 feed run days) := by
  have htotal : Std.Total fun b c : CandleDto => b.openTime ≤ c.openTime :=
    ⟨fun b c => le_total b.openTime c.openTime⟩
  have htrans : IsTrans CandleDto fun b c => b.openTime ≤ c.openTime :=
    ⟨fun _ _ _ => le_trans⟩
  have hsorted : (allM1 feed run days).Pairwise fun b c => b.openTime ≤ c.openTime :=
    List.pairwise_insertionSort _ _
  have hapart : (allM1 feed run days).Pairwise fun b c => b.openTime ≠ c.openTime := by
    rw [allM1, (List.perm_insertionSort _ _).pairwise_iff Ne.symm,
      List.pairwise_flatMap]
    constructor
    · intro d _
      apply List.Pairwise.imp _ (chronological_fetchDay feed run.symbol d)
      intro b c hlt
      exact ne_of_lt hlt
    · apply List.Pairwise.imp _ ((run.arrivals.perm days).nodup_iff.mpr hdays)
      intro d d' hne b hb c hc heq
      apply hne
      rw [<- dayOf_of_mem_fetchDay hb, <- dayOf_of_mem_fetchDay hc, heq]
  apply List.Pairwise.imp _ (hsorted.and hapart)
  rintro b c ⟨hle, hne⟩
  exact lt_of_le_of_ne hle hne

theorem binBars_allM1 (hdays : days.Nodup) (hd : d ∈ days) {start : Int}
    (hstart : dayOf start = d) :
    binBars timeframe start (allM1 feed run days) =
      binBars timeframe start (fetchDay feed run.symbol d) := by
  apply ((chronological_allM1 feed run hdays).filter _).eq_of_mem_iff
    ((chronological_fetchDay feed run.symbol d).filter _)
  intro c
  simp only [List.mem_filter, decide_eq_true_eq]
  apply and_congr_left
  intro hbin
  constructor
  · intro hc
    rcases mem_allM1.mp hc with ⟨d', -, hc'⟩
    have hday : d = d' := by
      rw [<- hstart, <- hbin, dayOf_bin, dayOf_of_mem_fetchDay hc']
    rw [hday]
    exact hc'
  · intro hc
    exact mem_allM1.mpr ⟨d, hd, hc⟩

theorem dayOf_of_mem_barsOf (h : b ∈ barsOf timeframe (fetchDay feed symbol d)) :
    dayOf b.openTime = d := by
  unfold barsOf at h
  split_ifs at h with htf
  · exact dayOf_of_mem_fetchDay h
  · rw [mem_resample (chronological_fetchDay feed symbol d)] at h
    rcases exists_of_aggregated h with ⟨c, hc, hbin⟩
    rw [<- hbin, dayOf_bin, dayOf_of_mem_fetchDay hc]

theorem mem_barsOf_allM1 (hdays : days.Nodup) :
    b ∈ barsOf timeframe (allM1 feed run days) <->
      exists d, d ∈ days ∧ b ∈ barsOf timeframe (fetchDay feed run.symbol d) := by
  unfold barsOf
  split_ifs with htf
  · exact mem_allM1
  · constructor
    · intro hb
      rw [mem_resample (chronological_allM1 feed run hdays)] at hb
      rcases exists_of_aggregated hb with ⟨c, hc, hbin⟩
      rcases mem_allM1.mp hc with ⟨d, hd, hcd⟩
      refine ⟨d, hd, ?_⟩
      rw [mem_resample (chronological_fetchDay feed run.symbol d), <- binBars_allM1 hdays hd]
      · exact hb
      · rw [<- hbin, dayOf_bin, dayOf_of_mem_fetchDay hcd]
    · rintro ⟨d, hd, hb⟩
      have hday : dayOf b.openTime = d := by
        apply dayOf_of_mem_barsOf
        rw [barsOf, if_neg htf]
        exact hb
      rw [mem_resample (chronological_fetchDay feed run.symbol d)] at hb
      rw [mem_resample (chronological_allM1 feed run hdays), binBars_allM1 hdays hd hday]
      exact hb

theorem eq_of_mem_barsOf {b' : CandleDto} (h : b ∈ barsOf timeframe (fetchDay feed symbol d))
    (h' : b' ∈ barsOf timeframe (fetchDay feed symbol d)) (heq : b.openTime = b'.openTime) :
    b = b' := by
  unfold barsOf at h h'
  split_ifs at h h' with htf
  · exact (chronological_fetchDay feed symbol d).eq_of_openTime h h' heq
  · rw [mem_resample (chronological_fetchDay feed symbol d)] at h h'
    rw [heq, h'] at h
    exact (Option.some.inj h).symm

/-!
# The rows of a day

A part of the candle table is what one symbol and timeframe have of one day.
-/

abbrev CandlePart := FeedSymbol × Timeframe × Int

def partOf (r : ImportedCandle) : CandlePart :=
  (r.symbol, r.timeframe, dayOf r.bar.openTime)

def dayRows (feed : Feed) (p : CandlePart) : List ImportedCandle :=
  if weekdayOf p.2.2 = 6 then []
  else (barsOf p.2.1 (fetchDay feed p.1 p.2.2)).map (ImportedCandle.mk p.1 p.2.1)

theorem mem_dayRows {p : CandlePart} {r : ImportedCandle} :
    r ∈ dayRows feed p <->
      weekdayOf p.2.2 ≠ 6 ∧ r.symbol = p.1 ∧ r.timeframe = p.2.1 ∧
        r.bar ∈ barsOf p.2.1 (fetchDay feed p.1 p.2.2) := by
  rcases r with ⟨symbol, timeframe, bar⟩
  unfold dayRows
  split_ifs with hsaturday
  · constructor
    · intro hr
      cases hr
    · rintro ⟨hne, -⟩
      exact absurd hsaturday hne
  · rw [List.mem_map]
    constructor
    · rintro ⟨b, hb, heq⟩
      cases heq
      exact ⟨hsaturday, rfl, rfl, hb⟩
    · rintro ⟨-, rfl, rfl, hb⟩
      exact ⟨bar, hb, rfl⟩

theorem dayRows_ne_nil_iff {p : CandlePart} :
    dayRows feed p ≠ [] <-> weekdayOf p.2.2 ≠ 6 ∧ fetchDay feed p.1 p.2.2 ≠ [] := by
  unfold dayRows
  split_ifs with hsaturday
  · exact iff_of_false (fun hne => hne rfl) fun h => h.1 hsaturday
  · rw [Ne, List.map_eq_nil_iff, barsOf_eq_nil_iff (chronological_fetchDay feed p.1 p.2.2)]
    exact (and_iff_right hsaturday).symm

theorem partOf_of_mem_dayRows {p : CandlePart} {r : ImportedCandle} (h : r ∈ dayRows feed p) :
    partOf r = p := by
  rcases mem_dayRows.mp h with ⟨-, hsymbol, htf, hbar⟩
  rw [partOf, hsymbol, htf, dayOf_of_mem_barsOf hbar]

def candleSource (feed : Feed) :
    PartSource ImportedCandle (FeedSymbol × Timeframe × Int) CandlePart :=
  { key := ImportedCandle.key
    partOf := partOf
    rows := dayRows feed
    part_eq := fun _ _ hr => partOf_of_mem_dayRows hr
    key_inj := by
      intro p q r r' hr hr' hkey
      rcases Prod.mk.inj hkey with ⟨hsymbol, hrest⟩
      rcases Prod.mk.inj hrest with ⟨htf, htime⟩
      have hpart : p = q := by
        rw [<- partOf_of_mem_dayRows hr, <- partOf_of_mem_dayRows hr', partOf, partOf, hsymbol,
          htf, htime]
      subst hpart
      have hbar : r.bar = r'.bar :=
        eq_of_mem_barsOf (mem_dayRows.mp hr).2.2.2 (mem_dayRows.mp hr').2.2.2 htime
      rcases r with ⟨symbol, timeframe, bar⟩
      rcases r' with ⟨symbol', timeframe', bar'⟩
      cases hsymbol
      cases htf
      cases hbar
      rfl }

/-!
# What a run stores
-/

theorem bulkUpsert_batches (pieces : List (List ImportedCandle))
    (total : List ImportedCandle × Nat) :
    (pieces.foldl
      (fun (total : List ImportedCandle × Nat) batch =>
        let result := bulkUpsertCandles total.1 batch
        (result.1, total.2 + result.2)) total).1 =
      pieces.foldl (createMany ImportedCandle.key) total.1 := by
  induction pieces generalizing total with
  | nil =>
      rfl
  | cons batch rest ih =>
      rw [List.foldl_cons, ih]
      rfl

theorem importTimeframe_candles (symbol : FeedSymbol) (m1 : List CandleDto)
    (acc : ImportStore × InsertionMap Timeframe Nat) (timeframe : Timeframe) :
    (importTimeframe symbol m1 acc timeframe).1.candles =
      createMany ImportedCandle.key acc.1.candles
        ((barsOf timeframe m1).map (ImportedCandle.mk symbol timeframe)) := by
  unfold importTimeframe
  dsimp only
  cases hlast : (barsOf timeframe m1).getLast? with
  | none =>
      rw [List.getLast?_eq_none_iff.mp hlast]
      rfl
  | some last =>
      have hbatches := createMany_flatten ImportedCandle.key acc.1.candles
        (batches chunk ((barsOf timeframe m1).map (ImportedCandle.mk symbol timeframe)))
      rw [flatten_batches (by decide)] at hbatches
      rw [hbatches]
      exact bulkUpsert_batches _ (acc.1.candles, 0)

def Downloaded (symbol : FeedSymbol) (timeframes : List Timeframe) (days : List Int)
    (p : CandlePart) : Prop :=
  p.1 = symbol ∧ p.2.1 ∈ timeframes ∧ p.2.2 ∈ days

theorem covers_timeframe (feed : Feed) (run : ImportRun) (hdays : days.Nodup)
    (hweek : forall d, d ∈ days -> weekdayOf d ≠ 6) (timeframe : Timeframe) :
    (candleSource feed).Covers
      ((barsOf timeframe (allM1 feed run days)).map (ImportedCandle.mk run.symbol timeframe))
      (Downloaded run.symbol [timeframe] days) := by
  intro r
  constructor
  · intro hr
    rcases List.mem_map.mp hr with ⟨b, hb, rfl⟩
    rcases (mem_barsOf_allM1 hdays).mp hb with ⟨d, hd, hbd⟩
    exact ⟨(run.symbol, timeframe, d), ⟨rfl, List.mem_singleton.mpr rfl, hd⟩,
      mem_dayRows.mpr ⟨hweek d hd, rfl, rfl, hbd⟩⟩
  · rintro ⟨⟨symbol, tf, d⟩, ⟨hsymbol, htf, hd⟩, hr⟩
    dsimp only at hsymbol hd
    cases hsymbol
    cases List.mem_singleton.mp htf
    rcases r with ⟨symbol, tf, bar⟩
    rcases mem_dayRows.mp hr with ⟨-, hsymbol, htf, hbar⟩
    cases hsymbol
    cases htf
    exact List.mem_map_of_mem ((mem_barsOf_allM1 hdays).mpr ⟨d, hd, hbar⟩)

theorem importTimeframes_whole (hdays : days.Nodup)
    (hweek : forall d, d ∈ days -> weekdayOf d ≠ 6) (timeframes : List Timeframe)
    (acc : ImportStore × InsertionMap Timeframe Nat)
    (hacc : (candleSource feed).Whole acc.1.candles) :
    (candleSource feed).Whole
        (timeframes.foldl (importTimeframe run.symbol (allM1 feed run days)) acc).1.candles ∧
      forall p, (candleSource feed).Holds
          (timeframes.foldl (importTimeframe run.symbol (allM1 feed run days)) acc).1.candles p <->
        (candleSource feed).Holds acc.1.candles p ∨
          (Downloaded run.symbol timeframes days p ∧ dayRows feed p ≠ []) := by
  induction timeframes generalizing acc with
  | nil =>
      refine ⟨hacc, ?_⟩
      intro p
      constructor
      · exact Or.inl
      · rintro (hold | ⟨⟨-, hmem, -⟩, -⟩)
        · exact hold
        · cases hmem
  | cons timeframe rest ih =>
      rw [List.foldl_cons]
      have hcovers := covers_timeframe feed run hdays hweek timeframe
      have hwhole := hacc.inserted hcovers
      have hholds := hacc.holds_createMany hcovers
      have hcandles := importTimeframe_candles run.symbol (allM1 feed run days) acc timeframe
      rw [show (candleSource feed).key = ImportedCandle.key from rfl, <- hcandles] at hwhole hholds
      rcases ih _ hwhole with ⟨hrest, hparts⟩
      refine ⟨hrest, ?_⟩
      intro p
      rw [hparts p, hholds p, or_assoc]
      apply or_congr Iff.rfl
      constructor
      · rintro (⟨⟨hsymbol, htf, hd⟩, hne⟩ | ⟨⟨hsymbol, htf, hd⟩, hne⟩)
        · exact ⟨⟨hsymbol, List.mem_cons.mpr (Or.inl (List.mem_singleton.mp htf)), hd⟩, hne⟩
        · exact ⟨⟨hsymbol, List.mem_cons_of_mem _ htf, hd⟩, hne⟩
      · rintro ⟨⟨hsymbol, htf, hd⟩, hne⟩
        rcases List.mem_cons.mp htf with hhead | htail
        · exact Or.inl ⟨⟨hsymbol, List.mem_singleton.mpr hhead, hd⟩, hne⟩
        · exact Or.inr ⟨⟨hsymbol, htail, hd⟩, hne⟩

def downloadedDays (start : Int) (run : ImportRun) : List Int :=
  if run.end_ < start then [] else importDays start run.end_

def startOf (resume : Bool) (run : ImportRun) (s : ImportStore) : Int :=
  if resume then resumeStart s run else run.start

theorem importSymbol_whole (resume : Bool) (run : ImportRun) {s : ImportStore}
    (hs : (candleSource feed).Whole s.candles) :
    (candleSource feed).Whole (importSymbol feed resume run s).1.candles ∧
      forall p, (candleSource feed).Holds (importSymbol feed resume run s).1.candles p <->
        (candleSource feed).Holds s.candles p ∨
          (Downloaded run.symbol run.timeframes
            (downloadedDays (startOf resume run s) run) p ∧ dayRows feed p ≠ []) := by
  have hnothing : forall p, (candleSource feed).Holds s.candles p <->
      (candleSource feed).Holds s.candles p ∨
        (Downloaded run.symbol run.timeframes [] p ∧ dayRows feed p ≠ []) := by
    intro p
    constructor
    · exact Or.inl
    · rintro (hold | ⟨⟨-, -, hmem⟩, -⟩)
      · exact hold
      · cases hmem
  unfold importSymbol downloadedDays
  rw [show (if resume = true then resumeStart s run else run.start) = startOf resume run s
    from rfl]
  dsimp only
  split_ifs with hend
  · exact ⟨hs, hnothing⟩
  · have hnodup := nodup_importDays (startOf resume run s) run.end_
    have hweek : forall d, d ∈ importDays (startOf resume run s) run.end_ -> weekdayOf d ≠ 6 :=
      fun d hd => (mem_importDays.mp hd).2
    cases hdays : importDays (startOf resume run s) run.end_ with
    | nil =>
        exact ⟨hs, hnothing⟩
    | cons day days =>
        rw [hdays] at hnodup hweek
        exact importTimeframes_whole hnodup hweek run.timeframes (s, []) hs

theorem importStep_whole {s : ImportStore} (run : ImportRun)
    (hs : (candleSource feed).Whole s.candles) :
    (candleSource feed).Whole (importStep feed s run).candles :=
  (importSymbol_whole true run hs).1

end Market
end Shamarx
