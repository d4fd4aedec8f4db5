import Shamarx.Backtest.WalkForward
import Shamarx.Foundation.SingleUse

/-!
# One trade for each fair value gap

The fill engine takes the first gap of the queue that passes all its tests, and the loop
then marks the first gap of that direction.  The two are the same gap exactly when the
gaps of a direction fill in the order of the queue.
-/

namespace Shamarx
namespace Backtest

open Foundation
open Engine

/-!
# The fill engine on a queue
-/

section FillEngine

variable {args : EvaluatorArgs} {gaps older newer : List FairValueGap}
  {gap zone : FairValueGap} {bar : FillBar} {signal : SetupSignal}

theorem fillSignal_spec (h : fillSignal args bar gap = some signal) :
    signal.side = gap.direction ∧ Retirable gap.direction args.idx gap := by
  unfold fillSignal at h
  simp only [Option.bind_eq_bind, Option.bind_eq_some_iff, Option.guard_eq_some'] at h
  rcases h with ⟨_, htraded, _, hopen, _, -, _, -, _, -, _, -, _, -, hsignal⟩
  exact ⟨by rw [<- Option.some.inj hsignal], htraded, rfl, hopen⟩

theorem fills_iff (hbar : fillBarOf args = some bar) :
    Fills args gap <-> exists signal, fillSignal args bar gap = some signal := by
  unfold Fills
  rw [hbar, Option.bind_some, Option.isSome_iff_exists]

theorem Fills.retirable (h : Fills args gap) : Retirable gap.direction args.idx gap := by
  cases hbar : fillBarOf args with
  | none =>
      simp [Fills, hbar] at h
  | some bar =>
      rcases (fills_iff hbar).mp h with ⟨signal, hsignal⟩
      exact (fillSignal_spec hsignal).2

theorem evaluateFVGEntry_eq_some (h : evaluateFVGEntry args gaps = some signal) :
    exists older zone newer, FirstMatch (Fills args) gaps older zone newer ∧
      signal.side = zone.direction := by
  unfold evaluateFVGEntry at h
  rcases Option.bind_eq_some_iff.mp h with ⟨bar, hbar, hfind⟩
  rcases List.findSome?_eq_some_iff.mp hfind with ⟨older, zone, newer, hsplit, hzone, hbefore⟩
  refine ⟨older, zone, newer, ⟨hsplit, (fills_iff hbar).mpr ⟨signal, hzone⟩, ?_⟩,
    (fillSignal_spec hzone).1⟩
  intro gap hgap hfills
  rcases (fills_iff hbar).mp hfills with ⟨other, hother⟩
  rw [hbefore gap hgap] at hother
  cases hother

theorem evaluateFVGEntry_eq_none (h : evaluateFVGEntry args gaps = none) :
    forall gap, gap ∈ gaps -> ¬ Fills args gap := by
  intro gap hgap hfills
  unfold evaluateFVGEntry at h
  cases hbar : fillBarOf args with
  | none =>
      simp [Fills, hbar] at hfills
  | some bar =>
      rw [hbar] at h
      rcases (fills_iff hbar).mp hfills with ⟨signal, hsignal⟩
      rw [List.findSome?_eq_none_iff.mp h gap hgap] at hsignal
      cases hsignal

def AllOpen (i : Nat) (gaps : List FairValueGap) : Prop :=
  forall gap, gap ∈ gaps -> gap.traded = false ∧ ¬ gap.Expired i

def InTurn (args : EvaluatorArgs) (gaps : List FairValueGap) : Prop :=
  forall older zone newer, FirstMatch (Fills args) gaps older zone newer ->
    forall gap, gap ∈ older -> gap.direction ≠ zone.direction

theorem retirable_iff (hopen : AllOpen args.idx gaps) (hgap : gap ∈ gaps) (side : Side) :
    Retirable side args.idx gap <-> gap.direction = side :=
  ⟨fun h => h.2.1, fun h => ⟨(hopen gap hgap).1, h, (hopen gap hgap).2⟩⟩

theorem marked_iff (hopen : AllOpen args.idx gaps)
    (h : FirstMatch (Fills args) gaps older zone newer) :
    gaps.find? (fun gap => decide (Retirable zone.direction args.idx gap)) = some zone <->
      forall gap, gap ∈ older -> gap.direction ≠ zone.direction := by
  rw [h.find?_weaker_iff h.holds.retirable]
  apply forall₂_congr
  intro gap hgap
  rw [retirable_iff hopen]
  rw [h.split]
  exact List.mem_append_left _ hgap

end FillEngine

/-!
# The queue
-/

section Queue

variable {candles : List BacktestCandle} {ind : IndicatorState} {i : Nat}
  {gaps : List FairValueGap}

theorem mem_detectFVGs {gap : FairValueGap} (h : gap ∈ detectFVGs candles ind i) :
    gap.createdAtIndex = i := by
  unfold detectFVGs at h
  split at h
  · cases h
  · split at h
    · split at h
      · cases h
      · split at h
        · unfold gapsBetween at h
          rcases List.mem_append.mp h with h | h
          all_goals
            split at h
            · rw [List.mem_singleton.mp h]
              rfl
            · cases h
        · cases h
    · cases h

theorem nodup_gapsBetween (prev2 curr : BacktestCandle) (i : Nat) :
    ((gapsBetween prev2 curr i).map FairValueGap.key).Nodup := by
  unfold gapsBetween
  split
  all_goals
    split
    all_goals simp [newGap, FairValueGap.key]

theorem nodup_detectFVGs : ((detectFVGs candles ind i).map FairValueGap.key).Nodup := by
  unfold detectFVGs
  split
  · exact List.nodup_nil
  · split
    · split
      · exact List.nodup_nil
      · split
        · exact nodup_gapsBetween _ _ _
        · exact List.nodup_nil
    · exact List.nodup_nil

/-- An untraded gap with this key is in the queue. -/
def OpenGap (gaps : List FairValueGap) (k : Nat × Side) : Prop :=
  exists gap, gap ∈ gaps ∧ gap.traded = false ∧ gap.key = k

/-- The gaps of the queue were made before bar `n`, at most one in each direction of
a bar. -/
structure Distinguished (n : Nat) (gaps : List FairValueGap) : Prop where
  early : forall gap, gap ∈ gaps -> gap.createdAtIndex < n
  distinct : (gaps.map FairValueGap.key).Nodup

theorem Distinguished.maintain (h : Distinguished i gaps) :
    Distinguished (i + 1) (maintainGaps candles ind i gaps) where
  early := by
    intro gap hgap
    rcases List.mem_append.mp (List.mem_filter.mp hgap).1 with hold | hnew
    · exact Nat.lt_succ_of_lt (h.early gap hold)
    · rw [mem_detectFVGs hnew]
      exact Nat.lt_succ_self i
  distinct := by
    have hall : ((gaps ++ detectFVGs candles ind i).map FairValueGap.key).Nodup := by
      rw [List.map_append]
      apply h.distinct.append nodup_detectFVGs
      intro k hold hnew
      rcases List.mem_map.mp hold with ⟨gap, hgap, rfl⟩
      rcases List.mem_map.mp hnew with ⟨fresh, hfresh, hkey⟩
      have hbar : fresh.createdAtIndex = gap.createdAtIndex := congrArg Prod.fst hkey
      rw [mem_detectFVGs hfresh] at hbar
      exact absurd (h.early gap hgap) (by rw [<- hbar]; exact Nat.lt_irrefl i)
    exact hall.sublist (List.filter_sublist.map _)

theorem allOpen_maintainGaps : AllOpen i (maintainGaps candles ind i gaps) := by
  intro gap hgap
  exact of_decide_eq_true (List.mem_filter.mp hgap).2

theorem OpenGap.of_maintain {k : Nat × Side} (h : OpenGap (maintainGaps candles ind i gaps) k) :
    OpenGap gaps k ∨ k.1 = i := by
  rcases h with ⟨gap, hgap, htraded, rfl⟩
  rcases List.mem_append.mp (List.mem_filter.mp hgap).1 with hold | hnew
  · exact Or.inl ⟨gap, hold, htraded, rfl⟩
  · exact Or.inr (mem_detectFVGs hnew)

theorem map_key_retireGap (side : Side) (i : Nat) (gaps : List FairValueGap) :
    (retireGap side i gaps).map FairValueGap.key = gaps.map FairValueGap.key := by
  apply map_key_markFirst
  intro gap
  rfl

theorem Distinguished.retire {n : Nat} (h : Distinguished n gaps) (side : Side) :
    Distinguished n (retireGap side i gaps) where
  early := by
    intro gap hgap
    have hkey : gap.key ∈ (retireGap side i gaps).map FairValueGap.key :=
      List.mem_map.mpr ⟨gap, hgap, rfl⟩
    rw [map_key_retireGap] at hkey
    rcases List.mem_map.mp hkey with ⟨before, hbefore, heq⟩
    have hbar : before.createdAtIndex = gap.createdAtIndex := congrArg Prod.fst heq
    rw [<- hbar]
    exact h.early before hbefore
  distinct := by
    rw [map_key_retireGap]
    exact h.distinct

theorem OpenGap.of_retire {n : Nat} {older newer : List FairValueGap} {zone : FairValueGap}
    {side : Side} (hgaps : Distinguished n gaps)
    (hfirst : FirstMatch (Retirable side i) gaps older zone newer) {k : Nat × Side}
    (h : OpenGap (retireGap side i gaps) k) : OpenGap gaps k ∧ k ≠ zone.key := by
  rcases h with ⟨gap, hgap, htraded, rfl⟩
  have hother : gap ∈ older ++ newer := by
    rw [retireGap, hfirst.markFirst_eq] at hgap
    rcases List.mem_append.mp hgap with hold | hrest
    · exact List.mem_append_left _ hold
    · rcases List.mem_cons.mp hrest with rfl | hnew
      · cases htraded
      · exact List.mem_append_right _ hnew
  refine ⟨⟨gap, ?_, htraded, rfl⟩, hfirst.key_ne hgaps.distinct hother⟩
  rw [hfirst.split]
  rcases List.mem_append.mp hother with hold | hnew
  · exact List.mem_append_left _ hold
  · exact List.mem_append_right _ (List.mem_cons_of_mem _ hnew)

end Queue

/-!
# What a bar does to the gaps

Of the steps of a bar only the maintenance of the queue and the fill engine write the
gaps and their history.
-/

namespace WalkForward

def EngineRun.gaps (s : EngineRun) : List FairValueGap × List GapFill :=
  (s.activeFVGs, s.fills)

def EngineRun.market (s : EngineRun) : Option RegimeState × List FairValueGap × List GapFill :=
  (s.regimeState, s.gaps)

section Frame

variable {w : Walk} {s : EngineRun} {bar : BacktestCandle × Nat}

theorem market_dateStep (s : EngineRun) (t : Int) : (dateStep s t).market = s.market := by
  unfold dateStep
  split <;> rfl

theorem market_settleAll {settle : EnginePosition -> EngineRun -> EngineRun}
    (hsettle : forall p s, (settle p s).market = s.market) (s : EngineRun) :
    (settleAll settle s).market = s.market := by
  unfold settleAll
  induction s.openPositions with
  | nil =>
      rfl
  | cons p rest ih =>
      rw [List.foldr_cons, hsettle, ih]

theorem market_maxBarsSettle (w : Walk) (bar : BacktestCandle × Nat) (p : EnginePosition)
    (s : EngineRun) : (maxBarsSettle w bar p s).market = s.market := by
  unfold maxBarsSettle
  split <;> rfl

theorem market_afterExit (w : Walk) (i : Nat) (side : Side) (exitReason : ExitReason)
    (s : EngineRun) : (afterExit w i side exitReason s).market = s.market := by
  unfold afterExit
  dsimp only
  split <;> rfl

theorem market_exitSettle (w : Walk) (bar : BacktestCandle × Nat) (p : EnginePosition)
    (s : EngineRun) : (exitSettle w bar p s).market = s.market := by
  unfold exitSettle
  split
  · rfl
  · rw [market_afterExit]
    rfl

theorem market_scaleInStep (w : Walk) (rs : RegimeState) (bar : BacktestCandle × Nat)
    (s : EngineRun) : (scaleInStep w rs bar s).market = s.market := by
  unfold scaleInStep checkScaleIns
  split_ifs <;> rfl

theorem market_enterStep (w : Walk) (rs : RegimeState) (args : EvaluatorArgs)
    (tradingMode : RiskManager.TradingMode) (bar : BacktestCandle × Nat) (signal : SetupSignal)
    (s : EngineRun) : (enterStep w rs args tradingMode bar signal s).market = s.market := by
  unfold enterStep
  dsimp only
  split_ifs <;> rfl

/-- The queue that the fill engine of a bar sees. -/
def queueAt (w : Walk) (s : EngineRun) (bar : BacktestCandle × Nat) : List FairValueGap :=
  maintainGaps w.m15Candles w.m15Indicators bar.2 s.activeFVGs

theorem market_tradeStep (w : Walk) (s : EngineRun) (bar : BacktestCandle × Nat) :
    (tradeStep w s bar).market =
      (some (regimeOf w (dateStep s bar.1.openTime) bar.1.openTime), queueAt w s bar,
        s.fills) := by
  have hdate : (dateStep s bar.1.openTime).gaps = s.gaps :=
    congrArg Prod.snd (market_dateStep s bar.1.openTime)
  unfold tradeStep
  dsimp only
  rw [market_scaleInStep, market_settleAll (market_exitSettle w bar),
    market_settleAll (market_maxBarsSettle w bar)]
  have hfst : (dateStep s bar.1.openTime).activeFVGs = s.activeFVGs := congrArg Prod.fst hdate
  have hsnd : (dateStep s bar.1.openTime).fills = s.fills := congrArg Prod.snd hdate
  unfold manageStep gapStep EngineRun.market EngineRun.gaps queueAt
  rw [hfst, hsnd]

theorem gaps_tradeStep (w : Walk) (s : EngineRun) (bar : BacktestCandle × Nat) :
    (tradeStep w s bar).gaps = (queueAt w s bar, s.fills) :=
  congrArg Prod.snd (market_tradeStep w s bar)

/-- The arguments with which a bar calls the fill engine, if no gate stops it before and
the trend engine has no setup. -/
def fillCall (w : Walk) (s : EngineRun) (bar : BacktestCandle × Nat) : Option EvaluatorArgs :=
  let rs := regimeOf w s bar.1.openTime
  let s := tradeStep w s bar
  if (bar.2 : Int) ≤ s.cooldownUntil ∨ (bar.2 : Int) ≤ s.slCooldownUntil then none
  else if w.inNewsBlackout bar.1.openTime = true then none
  else
    let gate := s.riskManager.canTrade (dayStart (dayOf bar.1.openTime)) s.openPositions.length
    let args := evaluatorArgs w rs { s with riskManager := gate.1 } bar
    if gate.2 = false then none
    else
      match trendSignal args with
      | some _ => none
      | none => some args

def fillGaps (args : EvaluatorArgs) (gaps : List FairValueGap × List GapFill) :
    List FairValueGap × List GapFill :=
  match evaluateFVGEntry args gaps.1 with
  | none => gaps
  | some signal =>
      (retireGap signal.side args.idx gaps.1,
        gaps.2 ++
          [{ bar := args.idx
             zone := gaps.1.find? fun gap => decide (Fills args gap)
             marked := gaps.1.find? fun gap =>
               decide (Retirable signal.side args.idx gap) }])

theorem gaps_fillStep (args : EvaluatorArgs) (s : EngineRun) :
    (fillStep args s).1.gaps = fillGaps args s.gaps := by
  unfold fillStep fillGaps EngineRun.gaps
  cases evaluateFVGEntry args s.activeFVGs with
  | none =>
      rfl
  | some signal =>
      rfl

theorem gaps_signalStep (w : Walk) (args : EvaluatorArgs)
    (tradingMode : RiskManager.TradingMode) (s : EngineRun) :
    (signalStep w args tradingMode s).1.gaps =
      match trendSignal args with
      | some _ => s.gaps
      | none => fillGaps args s.gaps := by
  unfold signalStep
  cases trendSignal args with
  | some signal =>
      rfl
  | none =>
      exact gaps_fillStep args s

theorem gaps_setupStep (w : Walk) (rs : RegimeState) (bar : BacktestCandle × Nat)
    (s : EngineRun) :
    (setupStep w rs bar s).gaps =
      match trendSignal (evaluatorArgs w rs s bar) with
      | some _ => s.gaps
      | none => fillGaps (evaluatorArgs w rs s bar) s.gaps := by
  rw [<- gaps_signalStep w _ s.riskManager.getTradingMode]
  unfold setupStep
  dsimp only
  split
  · rfl
  · exact congrArg Prod.snd (market_enterStep w rs _ _ bar _ _)

theorem gaps_barStep (w : Walk) (s : EngineRun) (bar : BacktestCandle × Nat) :
    (barStep w s bar).gaps =
      match fillCall w s bar with
      | none => (queueAt w s bar, s.fills)
      | some args => fillGaps args (queueAt w s bar, s.fills) := by
  rw [<- gaps_tradeStep]
  unfold barStep gateStep fillCall
  dsimp only
  split_ifs
  · rfl
  · rfl
  · rfl
  · rw [gaps_setupStep]
    cases trendSignal _ with
    | some signal =>
        rfl
    | none =>
        rfl

theorem idx_of_fillCall {args : EvaluatorArgs} (h : fillCall w s bar = some args) :
    args.idx = bar.2 := by
  unfold fillCall at h
  dsimp only at h
  split_ifs at h
  split at h
  · cases h
  · rw [<- Option.some.inj h]
    rfl

end Frame

/-!
# Runs
-/

def triggered (fills : List GapFill) : List (Nat × Side) :=
  fills.filterMap fun fill => fill.zone.map FairValueGap.key

/-- The gap that was marked is the one whose zone triggered the signal. -/
def MarksItsZone (fill : GapFill) : Prop :=
  fill.zone.isSome = true ∧ fill.marked = fill.zone

instance (fill : GapFill) : Decidable (MarksItsZone fill) :=
  inferInstanceAs (Decidable (_ ∧ _))

/-- If the bar gets to the fill engine, the gap that fills is the first of its direction
in the queue. -/
def FillsInTurn (w : Walk) (s : EngineRun) (bar : BacktestCandle × Nat) : Prop :=
  forall args, fillCall w s bar = some args -> InTurn args (queueAt w s bar)

section Runs

variable {w : Walk} {s : EngineRun} {i n : Nat} {candle : BacktestCandle}
  {args : EvaluatorArgs} {gaps : List FairValueGap} {fills : List GapFill}

theorem triggered_concat (fills : List GapFill) (i : Nat) (zone : FairValueGap)
    (marked : Option FairValueGap) :
    triggered (fills ++ [{ bar := i, zone := some zone, marked := marked }]) =
      triggered fills ++ [zone.key] := by
  simp [triggered]

theorem fillGaps_cases (args : EvaluatorArgs) (gaps : List FairValueGap)
    (fills : List GapFill) :
    ((forall gap, gap ∈ gaps -> ¬ Fills args gap) ∧
        fillGaps args (gaps, fills) = (gaps, fills)) ∨
      exists older zone newer, FirstMatch (Fills args) gaps older zone newer ∧
        fillGaps args (gaps, fills) =
          (retireGap zone.direction args.idx gaps,
            fills ++
              [{ bar := args.idx
                 zone := some zone
                 marked := gaps.find? fun gap =>
                   decide (Retirable zone.direction args.idx gap) }]) := by
  cases hentry : evaluateFVGEntry args gaps with
  | none =>
      refine Or.inl ⟨evaluateFVGEntry_eq_none hentry, ?_⟩
      simp only [fillGaps, hentry]
  | some signal =>
      rcases evaluateFVGEntry_eq_some hentry with ⟨older, zone, newer, hfirst, hside⟩
      refine Or.inr ⟨older, zone, newer, hfirst, ?_⟩
      simp only [fillGaps, hentry, hside, hfirst.find?_eq]

def fillOf (args : EvaluatorArgs) (gaps : List FairValueGap) (zone : FairValueGap) : GapFill :=
  { bar := args.idx
    zone := some zone
    marked := gaps.find? fun gap => decide (Retirable zone.direction args.idx gap) }

structure QuietBar (w : Walk) (s : EngineRun) (bar : BacktestCandle × Nat) : Prop where
  active : (barStep w s bar).activeFVGs = queueAt w s bar
  fills : (barStep w s bar).fills = s.fills
  none_fills : forall args, fillCall w s bar = some args ->
    forall gap, gap ∈ queueAt w s bar -> ¬ Fills args gap

structure FillingBar (w : Walk) (s : EngineRun) (bar : BacktestCandle × Nat)
    (args : EvaluatorArgs) (older : List FairValueGap) (zone : FairValueGap)
    (newer : List FairValueGap) : Prop where
  call : fillCall w s bar = some args
  first : FirstMatch (Fills args) (queueAt w s bar) older zone newer
  active : (barStep w s bar).activeFVGs = retireGap zone.direction args.idx (queueAt w s bar)
  fills : (barStep w s bar).fills = s.fills ++ [fillOf args (queueAt w s bar) zone]

theorem barStep_cases (w : Walk) (s : EngineRun) (bar : BacktestCandle × Nat) :
    QuietBar w s bar ∨
      exists args older zone newer, FillingBar w s bar args older zone newer := by
  have hgaps := gaps_barStep w s bar
  cases hcall : fillCall w s bar with
  | none =>
      simp only [hcall] at hgaps
      refine Or.inl ⟨congrArg Prod.fst hgaps, congrArg Prod.snd hgaps, ?_⟩
      intro args hargs
      rw [hcall] at hargs
      cases hargs
  | some args =>
      simp only [hcall] at hgaps
      rcases fillGaps_cases args (queueAt w s bar) s.fills with
        ⟨hnone, hsame⟩ | ⟨older, zone, newer, hfirst, hfilled⟩
      · rw [hsame] at hgaps
        refine Or.inl ⟨congrArg Prod.fst hgaps, congrArg Prod.snd hgaps, ?_⟩
        intro other hother
        rw [hcall] at hother
        rw [<- Option.some.inj hother]
        exact hnone
      · rw [hfilled] at hgaps
        exact Or.inr ⟨args, older, zone, newer, hcall, hfirst, congrArg Prod.fst hgaps,
          congrArg Prod.snd hgaps⟩

theorem FillingBar.marks_iff {bar : BacktestCandle × Nat} {older newer : List FairValueGap}
    {zone : FairValueGap} (h : FillingBar w s bar args older zone newer) :
    MarksItsZone (fillOf args (queueAt w s bar) zone) <->
      forall gap, gap ∈ older -> gap.direction ≠ zone.direction := by
  have hopen : AllOpen args.idx (queueAt w s bar) := by
    rw [idx_of_fillCall h.call]
    exact allOpen_maintainGaps
  rw [<- marked_iff hopen h.first]
  exact and_iff_right rfl

theorem fillsInTurn_iff {bar : BacktestCandle × Nat} :
    FillsInTurn w s bar <-> forall args older zone newer,
      FillingBar w s bar args older zone newer ->
        MarksItsZone (fillOf args (queueAt w s bar) zone) := by
  constructor
  · intro hturn args older zone newer h
    exact h.marks_iff.mpr (hturn args h.call older zone newer h.first)
  · intro hmarks args hcall older zone newer hfirst
    rcases barStep_cases w s bar with hquiet | ⟨args', older', zone', newer', h⟩
    · have hmem : zone ∈ queueAt w s bar := by
        rw [hfirst.split]
        exact List.mem_append_right _ List.mem_cons_self
      exact absurd hfirst.holds (hquiet.none_fills args hcall zone hmem)
    · have hsame : args' = args := Option.some.inj (h.call.symm.trans hcall)
      subst hsame
      have hzone : zone' = zone :=
        Option.some.inj (h.first.find?_eq.symm.trans hfirst.find?_eq)
      subst hzone
      exact (FillingBar.mk hcall hfirst h.active h.fills).marks_iff.mp
        (hmarks args' older' zone' newer' h)

/-!
# The queue and the history along a run
-/

structure Booked (n : Nat) (s : EngineRun) : Prop where
  queue : Distinguished n s.activeFVGs
  past : forall k, k ∈ triggered s.fills -> k.1 < n

/-- No gap that has triggered a signal is open, and each was the one marked. -/
structure Orderly (s : EngineRun) : Prop where
  single : SingleUse (OpenGap s.activeFVGs) InFlight.empty InFlight.empty (triggered s.fills)
  marks : forall fill, fill ∈ s.fills -> MarksItsZone fill

theorem FillingBar.zone_mem {bar : BacktestCandle × Nat} {older newer : List FairValueGap}
    {zone : FairValueGap} (h : FillingBar w s bar args older zone newer) :
    zone ∈ queueAt w s bar := by
  rw [h.first.split]
  exact List.mem_append_right _ List.mem_cons_self

theorem FillingBar.triggered_eq {bar : BacktestCandle × Nat} {older newer : List FairValueGap}
    {zone : FairValueGap} (h : FillingBar w s bar args older zone newer) :
    triggered (barStep w s bar).fills = triggered s.fills ++ [zone.key] := by
  rw [h.fills]
  exact triggered_concat s.fills _ _ _

theorem Booked.barStep (h : Booked i s) (w : Walk) (candle : BacktestCandle) :
    Booked (i + 1) (barStep w s (candle, i)) := by
  have hqueue : Distinguished (i + 1) (queueAt w s (candle, i)) := h.queue.maintain
  have hpast : forall k, k ∈ triggered s.fills -> k.1 < i + 1 :=
    fun k hk => Nat.lt_succ_of_lt (h.past k hk)
  rcases barStep_cases w s (candle, i) with hquiet | ⟨args, older, zone, newer, hfill⟩
  · exact ⟨by rw [hquiet.active]; exact hqueue, by rw [hquiet.fills]; exact hpast⟩
  · refine ⟨by rw [hfill.active]; exact hqueue.retire _, ?_⟩
    rw [hfill.triggered_eq]
    intro k hk
    rcases List.mem_append.mp hk with hold | hnew
    · exact hpast k hold
    · rw [List.mem_singleton.mp hnew]
      exact hqueue.early zone hfill.zone_mem

theorem Booked.single_queueAt (h : Booked i s) (w : Walk) (candle : BacktestCandle)
    (hsingle : SingleUse (OpenGap s.activeFVGs) InFlight.empty InFlight.empty
      (triggered s.fills)) :
    SingleUse (OpenGap (queueAt w s (candle, i))) InFlight.empty InFlight.empty
      (triggered s.fills) := by
  apply hsingle.renew
  intro k hused hopen
  rcases hopen.of_maintain with hold | hnew
  · exact hold
  · exact absurd (h.past k hused) (by rw [hnew]; exact Nat.lt_irrefl i)

theorem Orderly.barStep (h : Orderly s) (hbooked : Booked i s)
    (hturn : FillsInTurn w s (candle, i)) : Orderly (barStep w s (candle, i)) := by
  have hsingle := hbooked.single_queueAt w candle h.single
  rcases barStep_cases w s (candle, i) with hquiet | ⟨args, older, zone, newer, hfill⟩
  · exact ⟨by rw [hquiet.active, hquiet.fills]; exact hsingle,
      by rw [hquiet.fills]; exact h.marks⟩
  · have hmarks := fillsInTurn_iff.mp hturn args older zone newer hfill
    have hqueue : Distinguished (i + 1) (queueAt w s (candle, i)) := hbooked.queue.maintain
    -- the gap that fills is also the first that can be marked
    have hfirst : FirstMatch (Retirable zone.direction args.idx) (queueAt w s (candle, i)) older
        zone newer := by
      refine ⟨hfill.first.split, hfill.first.holds.retirable, ?_⟩
      exact (hfill.first.find?_weaker_iff hfill.first.holds.retirable).mp hmarks.2
    constructor
    · rw [hfill.active, hfill.triggered_eq]
      apply hsingle.serve
      · exact ⟨zone, hfill.zone_mem, hfirst.holds.1, rfl⟩
      · exact InFlight.forall_empty _
      · exact InFlight.forall_empty _
      · intro k _ hopen
        exact (hopen.of_retire hqueue hfirst).1
      · intro hopen
        exact (hopen.of_retire hqueue hfirst).2 rfl
    · rw [hfill.fills]
      intro fill hmem
      rcases List.mem_append.mp hmem with hold | hnew
      · exact h.marks fill hold
      · rw [List.mem_singleton.mp hnew]
        exact hmarks

theorem fillsInTurn_of_marks {bar : BacktestCandle × Nat}
    (h : forall fill, fill ∈ (barStep w s bar).fills -> MarksItsZone fill) :
    (forall fill, fill ∈ s.fills -> MarksItsZone fill) ∧ FillsInTurn w s bar := by
  constructor
  · intro fill hmem
    apply h
    rcases barStep_cases w s bar with hquiet | ⟨args, older, zone, newer, hfill⟩
    · rw [hquiet.fills]
      exact hmem
    · rw [hfill.fills]
      exact List.mem_append_left _ hmem
  · rw [fillsInTurn_iff]
    intro args older zone newer hfill
    apply h
    rw [hfill.fills]
    exact List.mem_append_right _ List.mem_cons_self

theorem run_succ (w : Walk) {n : Nat} (hn : n < w.m15Candles.length) :
    run w (n + 1) = barStep w (run w n) (w.m15Candles[n], n) := by
  have hlen : n < w.bars.length := by
    rw [Walk.bars, List.length_zipIdx]
    exact hn
  have hbar : w.bars[n] = (w.m15Candles[n], n) := by
    simp [Walk.bars]
  unfold run
  rw [List.take_succ_eq_append_getElem hlen, runFrom_append, hbar]
  rfl

theorem run_of_length_le (w : Walk) {n : Nat} (hn : w.m15Candles.length ≤ n) :
    run w (n + 1) = run w n := by
  have hlen : w.bars.length ≤ n := by
    rw [Walk.bars, List.length_zipIdx]
    exact hn
  unfold run
  rw [List.take_of_length_le (Nat.le_succ_of_le hlen), List.take_of_length_le hlen]

theorem booked_run (w : Walk) (n : Nat) : Booked n (run w n) := by
  induction n with
  | zero =>
      refine ⟨⟨?_, List.nodup_nil⟩, ?_⟩
      · intro gap hgap
        cases hgap
      · intro k hk
        cases hk
  | succ n ih =>
      rcases Nat.lt_or_ge n w.m15Candles.length with hn | hn
      · rw [run_succ w hn]
        exact ih.barStep w _
      · rw [run_of_length_le w hn]
        exact ⟨⟨fun gap hgap => Nat.lt_succ_of_lt (ih.queue.early gap hgap), ih.queue.distinct⟩,
          fun k hk => Nat.lt_succ_of_lt (ih.past k hk)⟩

/-- In the first bars of a run, gaps fill in the order of the queue on each bar. -/
def FillInTurnUntil (w : Walk) (n : Nat) : Prop :=
  forall i, i < n -> forall hi : i < w.m15Candles.length,
    FillsInTurn w (run w i) (w.m15Candles[i], i)

theorem orderly_run (hturn : FillInTurnUntil w n) : Orderly (run w n) := by
  induction n with
  | zero =>
      refine ⟨SingleUse.start _, ?_⟩
      intro fill hmem
      cases hmem
  | succ n ih =>
      have hbefore : Orderly (run w n) := ih fun i hi => hturn i (Nat.lt_succ_of_lt hi)
      rcases Nat.lt_or_ge n w.m15Candles.length with hn | hn
      · rw [run_succ w hn]
        exact hbefore.barStep (booked_run w n) (hturn n (Nat.lt_succ_self n) hn)
      · rw [run_of_length_le w hn]
        exact hbefore

theorem fillInTurn_of_marks
    (hmarks : forall fill, fill ∈ (run w n).fills -> MarksItsZone fill) :
    FillInTurnUntil w n := by
  induction n with
  | zero =>
      intro i hi
      exact absurd hi (Nat.not_lt_zero i)
  | succ n ih =>
      rcases Nat.lt_or_ge n w.m15Candles.length with hn | hn
      · rw [run_succ w hn] at hmarks
        rcases fillsInTurn_of_marks hmarks with ⟨hbefore, hlast⟩
        intro i hi hlen
        rcases Nat.lt_succ_iff_lt_or_eq.mp hi with hlt | rfl
        · exact ih hbefore i hlt hlen
        · exact hlast
      · rw [run_of_length_le w hn] at hmarks
        intro i hi hlen
        have hlt : i < n := Nat.lt_of_lt_of_le hlen hn
        exact ih hmarks i hlt hlen

/-- In the first bars of any run, no gap has triggered two signals and the gap marked after
each signal is the one that triggered it, exactly when on each of these bars the gap that
fills is the first of its direction in the queue. -/
theorem gap_traded_once_iff (w : Walk) (n : Nat) :
    ((triggered (run w n).fills).Nodup ∧
        forall fill, fill ∈ (run w n).fills -> MarksItsZone fill) <->
      FillInTurnUntil w n := by
  constructor
  · intro h
    exact fillInTurn_of_marks h.2
  · intro hturn
    have h := orderly_run hturn
    exact ⟨h.single.once, h.marks⟩

end Runs

/-!
# A gap that fills out of turn

A jump leaves two bullish gaps, on its bar and on the next.  Bars 50 and 52 dip into the
higher zone of the second and stay above the first.
-/

def jumpStart : Int :=
  utc 2026 1 5 0 0

def jumpMiddle (i : Nat) : ℚ :=
  if i < 47 then (if i % 2 = 0 then 20000 else 20010) else if i = 47 then 20060 else 20075

/-- A rising bar of 40 points, ten more on a dip. -/
def jumpBar (i : Nat) : BacktestCandle :=
  { openTime := jumpStart + i * (15 * msPerMinute)
    open_ := jumpMiddle i - 10
    high := jumpMiddle i + 20
    low := jumpMiddle i - (if i = 50 ∨ i = 52 then 30 else 20)
    close := jumpMiddle i + 10 }

def slowH1Bar (i : Nat) : BacktestCandle :=
  let middle : ℚ := 20000 + 3 * (i / 2 : Nat) + (if i % 2 = 0 then 0 else 13)
  { openTime := jumpStart + (i - 31) * msPerHour
    open_ := middle
    high := middle + 10
    low := middle - 10
    close := middle }

def winterHours : LocalHours
  | .london, t => hourOf t
  | .newYork, t => hourOf (t - 5 * msPerHour)

def jumpWalk : Walk :=
  { libs :=
      { indicators := documentedIndicators
        computeBB := fun _ => []
        getLocalHour := winterHours }
    config :=
      { symbol := .NAS100
        initialBalance := 10000
        riskPercent := 1
        maxDailyLossPercent := 5
        maxConsecutiveLosses := 3
        maxOpenPositions := 5 }
    version := .v55b
    m15Candles := (List.range 53).map jumpBar
    h1Candles := (List.range 31).map slowH1Bar
    d1Candles := [] }

/-- The gap of bar 48 triggers the signals of bars 50 and 52; after the first of them the
gap of bar 47 is marked. -/
theorem gap_traded_twice :
    exists w : Walk, ¬ (triggered (run w w.m15Candles.length).fills).Nodup ∧
      exists fill, fill ∈ (run w w.m15Candles.length).fills ∧ ¬ MarksItsZone fill := by
  refine ⟨jumpWalk, ?_⟩
  decide +kernel

end WalkForward
end Backtest
end Shamarx
