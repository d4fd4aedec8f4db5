import Mathlib.Data.List.Forall2
import Shamarx.Backtest.SmcEngine
import Shamarx.Engine.IndicatorCausality

/-!
# What the backtest knows

Two inputs that agree on every bar closed so far.  The run does the same on both as long
as sweep detection reads closed bars; it takes the D1 bar that contains the time of the
M15 bar, and so reads one that is still open.
-/

namespace Shamarx
namespace Backtest

open Foundation
open Engine
open Orchestrator (EngineEnv PrecomputedIndicators documentedEnv goldBar goldD1Bar)

/-!
# Histories that agree so far
-/

def m15Length : Int := 15 * msPerMinute

/-- The same bar times, and the same bars as far as they have closed at `T`. -/
def AgreeAt (length T : Int) (xs ys : List BacktestCandle) : Prop :=
  List.Forall₂
    (fun x y => x.openTime = y.openTime ∧ (x.openTime + length ≤ T -> x = y)) xs ys

def ClosedAt (length T : Int) (candles : List BacktestCandle) (n : Nat) : Prop :=
  forall c, c ∈ candles.take n -> c.openTime + length ≤ T

instance (length T : Int) (xs ys : List BacktestCandle) : Decidable (AgreeAt length T xs ys) :=
  inferInstanceAs (Decidable (List.Forall₂ _ xs ys))

instance (length T : Int) (candles : List BacktestCandle) (n : Nat) :
    Decidable (ClosedAt length T candles n) :=
  inferInstanceAs (Decidable (forall c, c ∈ candles.take n -> c.openTime + length ≤ T))

section Histories

variable {length T : Int} {xs ys : List BacktestCandle} {n : Nat}

theorem AgreeAt.take_eq (h : AgreeAt length T xs ys) (hclosed : ClosedAt length T xs n) :
    xs.take n = ys.take n := by
  induction h generalizing n with
  | nil =>
      rfl
  | cons hhead htail ih =>
      cases n with
      | zero =>
          rfl
      | succ n =>
          rw [ClosedAt, List.take_succ_cons, List.forall_mem_cons] at hclosed
          rw [List.take_succ_cons, List.take_succ_cons, hhead.2 hclosed.1, ih hclosed.2]

theorem ClosedAt.mono {m : Nat} (h : ClosedAt length T xs n) (hle : m ≤ n) :
    ClosedAt length T xs m :=
  fun c hc => h c (List.take_subset_take_left xs hle hc)

theorem AgreeAt.times (h : AgreeAt length T xs ys) :
    xs.map BacktestCandle.openTime = ys.map BacktestCandle.openTime := by
  induction h with
  | nil =>
      rfl
  | cons hhead htail ih =>
      rw [List.map_cons, List.map_cons, hhead.1, ih]

theorem AgreeAt.length_eq (h : AgreeAt length T xs ys) : xs.length = ys.length :=
  List.Forall₂.length_eq h

theorem d1IdxAt_congr (htimes : xs.map BacktestCandle.openTime = ys.map BacktestCandle.openTime)
    (t : Int) : d1IdxAt xs t = d1IdxAt ys t := by
  have hlength : xs.length = ys.length := by
    rw [<- List.length_map BacktestCandle.openTime, htimes, List.length_map]
  rw [d1IdxAt, d1IdxAt, htimes, hlength]

theorem indexForTime_congr
    (htimes : xs.map BacktestCandle.openTime = ys.map BacktestCandle.openTime) (t : Int) :
    indexForTime xs t = indexForTime ys t := by
  rw [indexForTime, indexForTime, d1IdxAt_congr htimes]

theorem valueAt_congr {values values' : List (Option ℚ)} {i : Nat}
    (h : values.take n = values'.take n) (hi : i < n) : valueAt values i = valueAt values' i := by
  rw [<- valueAt_take values hi, h, valueAt_take values' hi]

theorem getElem?_congr {items items' : List item} {i : Nat}
    (h : items.take n = items'.take n) (hi : i < n) : items[i]? = items'[i]? := by
  rw [<- List.getElem?_take_of_lt hi, h, List.getElem?_take_of_lt hi]

end Histories

/-!
# The D1 lookups
-/

section D1

variable {xs ys : List BacktestCandle} {ind ind' : IndicatorState} {t : Int}

structure SameD1 (xs ys : List BacktestCandle) (ind ind' : IndicatorState) (t : Int) : Prop where
  index : d1IdxAt xs t = d1IdxAt ys t
  length : xs.length = ys.length
  read : forall idx, d1IdxAt ys t = some idx ->
    xs.take (idx + 1) = ys.take (idx + 1) ∧ ind.take (idx + 1) = ind'.take (idx + 1)

theorem SameD1.d1AdxAt (h : SameD1 xs ys ind ind' t) :
    d1AdxAt xs (some ind) t = d1AdxAt ys (some ind') t := by
  unfold Backtest.d1AdxAt
  rw [h.index]
  cases hidx : d1IdxAt ys t with
  | none =>
      rfl
  | some idx =>
      have hadx := congrArg IndicatorState.adx14 (h.read idx hidx).2
      dsimp only
      rw [valueAt_congr hadx (Nat.lt_succ_self idx)]

theorem SameD1.getD1Bias (h : SameD1 xs ys ind ind' t) :
    getD1Bias xs ind t = getD1Bias ys ind' t := by
  rw [Engine.getD1Bias, Engine.getD1Bias, h.index]
  cases hidx : d1IdxAt ys t with
  | none =>
      rfl
  | some idx =>
      rcases h.read idx hidx with ⟨hbars, hind⟩
      have hema := congrArg IndicatorState.ema50 hind
      have hback : idx - 5 < idx + 1 := by omega
      dsimp only
      rw [valueAt_congr hema (Nat.lt_succ_self idx), valueAt_congr hema hback,
        getElem?_congr hbars (Nat.lt_succ_self idx)]

theorem SameD1.isContinuationSafe (h : SameD1 xs ys ind ind' t) (bias : D1Bias) :
    isContinuationSafe xs (some ind) t bias = isContinuationSafe ys (some ind') t bias := by
  rw [Engine.isContinuationSafe, Engine.isContinuationSafe, h.index, h.length]
  cases hidx : d1IdxAt ys t with
  | none =>
      rfl
  | some idx =>
      rcases h.read idx hidx with ⟨hbars, hind⟩
      have hadx := congrArg IndicatorState.adx14 hind
      have hback : idx - 3 < idx + 1 := by omega
      dsimp only
      rw [valueAt_congr hadx (Nat.lt_succ_self idx), valueAt_congr hadx hback,
        valueAt_congr (congrArg IndicatorState.ema20 hind) (Nat.lt_succ_self idx),
        valueAt_congr (congrArg IndicatorState.ema50 hind) (Nat.lt_succ_self idx),
        getElem?_congr hbars (Nat.lt_succ_self idx)]

end D1

/-!
# Detection
-/

structure AgreeOn (T : Int) (a b : BacktestInput) : Prop where
  m15 : AgreeAt m15Length T a.m15 b.m15
  h1 : AgreeAt msPerHour T a.h1 b.h1
  d1 : AgreeAt msPerDay T a.d1 b.d1

/-- The number of D1 bars up to the one that the lookups find. -/
def d1Read (inp : BacktestInput) (t : Int) : Nat :=
  match d1IdxAt inp.d1 t with
  | none => 0
  | some idx => idx + 1

/-- The number of H1 bars up to the sweep bar, or up to the one after it for pairs that
check the displacement. -/
def h1Read (cfg : SmcPairConfig) (h1Idx : Int) : Nat :=
  if cfg.useAnchorSweeps = true ∧ 0 < cfg.anchorDisplacementAtr.getD 0 then h1Idx.toNat + 1
  else h1Idx.toNat

/-- If the bar starts a detection, what the detection reads has closed at `T`. -/
def ReadsClosed (cfg : SmcPairConfig) (inp : BacktestInput) (T : Int) (s : SmcRun)
    (bar : BacktestCandle × Nat) : Prop :=
  NewH1 s (indexForTime inp.h1 bar.1.openTime) ->
    ClosedAt msPerHour T inp.h1 (h1Read cfg (indexForTime inp.h1 bar.1.openTime)) ∧
      ClosedAt msPerDay T inp.d1 (d1Read inp bar.1.openTime)

instance (cfg : SmcPairConfig) (inp : BacktestInput) (T : Int) (s : SmcRun)
    (bar : BacktestCandle × Nat) : Decidable (ReadsClosed cfg inp T s bar) :=
  inferInstanceAs (Decidable (_ -> _ ∧ _))

section Detection

variable {lib : TechnicalIndicators} {a b : BacktestInput} {T t : Int} {cfg : SmcPairConfig}

theorem sameD1_of_closed (hlib : CausalIndicators lib) (h : AgreeAt msPerDay T a.d1 b.d1)
    (hclosed : ClosedAt msPerDay T a.d1 (d1Read a t)) :
    SameD1 a.d1 b.d1 (computeIndicators lib a.d1) (computeIndicators lib b.d1) t where
  index := d1IdxAt_congr h.times t
  length := h.length_eq
  read := by
    intro idx hidx
    rw [d1Read, d1IdxAt_congr h.times, hidx] at hclosed
    have hbars := h.take_eq hclosed
    exact ⟨hbars, hlib.take_eq hbars⟩

theorem d1_congr (hlib : CausalIndicators lib) (h : AgreeAt msPerDay T a.d1 b.d1)
    (hclosed : ClosedAt msPerDay T a.d1 (d1Read a t)) :
    d1BiasAt a.d1 (inputIndicators lib a).d1 t = d1BiasAt b.d1 (inputIndicators lib b).d1 t ∧
    d1AdxAt a.d1 (inputIndicators lib a).d1 t = d1AdxAt b.d1 (inputIndicators lib b).d1 t ∧
    forall bias, isContinuationSafe a.d1 (inputIndicators lib a).d1 t bias =
      isContinuationSafe b.d1 (inputIndicators lib b).d1 t bias := by
  have hsame := sameD1_of_closed hlib h hclosed
  rw [inputIndicators, inputIndicators]
  dsimp only
  rw [hsame.length]
  by_cases hsome : 0 < b.d1.length
  · rw [if_pos hsome, if_pos hsome]
    exact ⟨hsame.getD1Bias, hsame.d1AdxAt, hsame.isContinuationSafe⟩
  · rw [if_neg hsome, if_neg hsome]
    exact ⟨rfl, rfl, fun _ => rfl⟩

theorem detectedSetup_congr (hlib : CausalIndicators lib) (h : AgreeOn T a b) {h1Idx : Int}
    (hfirst : 1 ≤ h1Idx) (hh1 : ClosedAt msPerHour T a.h1 (h1Read cfg h1Idx))
    (hd1 : ClosedAt msPerDay T a.d1 (d1Read a t)) :
    detectedSetup cfg a (inputIndicators lib a) t (h1Idx - 1).toNat =
      detectedSetup cfg b (inputIndicators lib b) t (h1Idx - 1).toNat := by
  rcases d1_congr hlib h.d1 hd1 with ⟨hbias, hadx, hsafe⟩
  have hidx : (h1Idx - 1).toNat + 1 = h1Idx.toNat := by omega
  have hswept : h1Idx.toNat ≤ h1Read cfg h1Idx := by
    unfold h1Read
    split_ifs
    · exact Nat.le_succ _
    · exact Nat.le_refl _
  have hbars := h.h1.take_eq (hh1.mono hswept)
  have hdetect : forall bias adx,
      detectSweep a.h1 (inputIndicators lib a).h1 (h1Idx - 1).toNat bias adx cfg a.d1
          (inputIndicators lib a).d1 t =
        detectSweep b.h1 (inputIndicators lib b).h1 (h1Idx - 1).toNat bias adx cfg b.d1
          (inputIndicators lib b).d1 t := by
    intro bias adx
    apply detectSweep_congr a.h1_ordered b.h1_ordered
    · rw [hidx]
      exact hbars
    · rw [hidx]
      exact hlib.take_eq hbars
    · intro hanchor hdisp
      rw [h1Read, if_pos ⟨hanchor, hdisp⟩] at hh1
      rw [hidx]
      exact getElem?_congr (h.h1.take_eq hh1) (Nat.lt_succ_self _)
    · unfold ModeRejected
      rw [hsafe]
  rw [detectedSetup, detectedSetup, hbias, hadx, hdetect]

end Detection

/-!
# The run
-/

theorem settle_lastProcessedH1 (symbol : Instrument) (cfg : SmcPairConfig)
    (bar : BacktestCandle × Nat) (managed : List SimulatedPosition) (s : SmcRun) :
    (managed.foldr (settle symbol cfg bar) s).lastProcessedH1 = s.lastProcessedH1 := by
  induction managed with
  | nil =>
      rfl
  | cons p rest ih =>
      rw [List.foldr_cons, settle]
      split
      · exact ih
      · exact ih

section Run

variable {lib : TechnicalIndicators} {a b : BacktestInput} {T : Int} {symbol : Instrument}
  {cfg : SmcPairConfig} {s : SmcRun} {bar : BacktestCandle × Nat}

theorem detectStep_congr (hlib : CausalIndicators lib) (h : AgreeOn T a b)
    (hread : ReadsClosed cfg a T s bar) :
    detectStep cfg a (inputIndicators lib a) s bar =
      detectStep cfg b (inputIndicators lib b) s bar := by
  have hindex := indexForTime_congr h.h1.times bar.1.openTime
  rw [detectStep, detectStep, hindex]
  by_cases hnew : NewH1 s (indexForTime b.h1 bar.1.openTime)
  · rw [if_pos hnew, if_pos hnew]
    rw [ReadsClosed, hindex] at hread
    rcases hread hnew with ⟨hh1, hd1⟩
    rw [detectedSetup_congr hlib h hnew.2.1 hh1 hd1]
  · rw [if_neg hnew, if_neg hnew]

theorem entryBarOf_congr (hlib : CausalIndicators lib) (h : AgreeOn T a b)
    (hclosed : ClosedAt m15Length T a.m15 (bar.2 + 1)) :
    entryBarOf (inputIndicators lib a) bar = entryBarOf (inputIndicators lib b) bar := by
  have hind := hlib.take_eq (h.m15.take_eq hclosed)
  rw [entryBarOf, entryBarOf, inputIndicators, inputIndicators]
  dsimp only
  rw [valueAt_congr (congrArg IndicatorState.atr14 hind) (Nat.lt_succ_self _),
    getElem?_congr (congrArg IndicatorState.rsi14 hind) (Nat.lt_succ_self _)]

theorem smcStep_congr (hlib : CausalIndicators lib) (h : AgreeOn T a b)
    (hclosed : ClosedAt m15Length T a.m15 (bar.2 + 1)) (hread : ReadsClosed cfg a T s bar) :
    smcStep symbol cfg a (inputIndicators lib a) s bar =
      smcStep symbol cfg b (inputIndicators lib b) s bar := by
  have hexit : ReadsClosed cfg a T (exitStep symbol cfg s bar) bar := by
    have hlast : (exitStep symbol cfg s bar).lastProcessedH1 = s.lastProcessedH1 :=
      settle_lastProcessedH1 symbol cfg bar _ _
    intro hnew
    rw [NewH1, hlast] at hnew
    exact hread hnew
  have hindex := indexForTime_congr h.h1.times bar.1.openTime
  rw [smcStep, smcStep, detectStep_congr hlib h hexit, entryBarOf_congr hlib h hclosed,
    expireStep, expireStep, hindex]

theorem smcRun_congr (hlib : CausalIndicators lib) (h : AgreeOn T a b)
    {bars : List (BacktestCandle × Nat)}
    (hclosed : forall bar, bar ∈ bars -> ClosedAt m15Length T a.m15 (bar.2 + 1))
    (hread : EveryStep (smcStep symbol cfg a (inputIndicators lib a)) (ReadsClosed cfg a T) s
      bars) :
    runFrom (smcStep symbol cfg a (inputIndicators lib a)) s bars =
      runFrom (smcStep symbol cfg b (inputIndicators lib b)) s bars := by
  refine runFrom_related Eq ?_ rfl ((everyStep_of_mem s hclosed).and hread)
  rintro s _ bar rfl ⟨hbar, hdetect⟩
  exact smcStep_congr hlib h hbar hdetect

end Run

/-- The detections on the first bars read nothing that is open at `T`. -/
def ReadsOnlyClosed (env : EngineEnv) (config : EngineConfig) (inp : BacktestInput) (bars : Nat)
    (T : Int) : Prop :=
  forall cfg, getSmcPairConfig env.overrides config.symbol = some cfg -> 30 ≤ inp.h1.length ->
    EveryStep (smcStep config.symbol cfg inp (inputIndicators env.indicators inp))
      (ReadsClosed cfg inp T) (.start config) (inp.m15.zipIdx.take bars)

/-- On two inputs that agree on all bars closed at the close of bar `i`, the same
positions are opened on the bars up to it, if no detection so far read an open bar. -/
theorem opens_same {env : EngineEnv} {config : EngineConfig} {a b : BacktestInput} {i : Nat}
    {bar : BacktestCandle} (hlib : CausalIndicators env.indicators)
    (hbar : a.m15[i]? = some bar) (hagree : AgreeOn (bar.openTime + m15Length) a b)
    (hread : ReadsOnlyClosed env config a (i + 1) (bar.openTime + m15Length)) :
    openedOn env config a (i + 1) = openedOn env config b (i + 1) := by
  rw [openedOn, openedOn, hagree.h1.length_eq]
  cases hcfg : getSmcPairConfig env.overrides config.symbol with
  | none =>
      rfl
  | some cfg =>
      dsimp only
      split_ifs with hfew
      · rfl
      · have hclosed : ClosedAt m15Length (bar.openTime + m15Length) a.m15 (i + 1) := by
          intro c hc
          exact add_le_add_left (a.m15_ordered.le_of_take hbar hc) m15Length
        have hbars : a.m15.zipIdx.take (i + 1) = b.m15.zipIdx.take (i + 1) := by
          have hcut := Online.of_zipIdx.take a.m15 (i + 1)
          rw [hagree.m15.take_eq hclosed, Online.of_zipIdx.take b.m15 (i + 1)] at hcut
          exact hcut.symm
        have hsteps := hread cfg hcfg (by rw [hagree.h1.length_eq]; exact not_lt.mp hfew)
        have hrun := smcRun_congr hlib hagree (fun entry hentry => hclosed.mono ?_) hsteps
        · rw [smcRun, smcRun, hrun, hbars]
        · rw [<- Nat.sub_zero (i + 1), <- Online.of_zipIdx.take] at hentry
          have hindex := List.snd_lt_of_mem_zipIdx hentry
          rw [List.length_take] at hindex
          omega

/-!
# A gold morning
-/

def goldConfig : EngineConfig :=
  { symbol := .XAUUSD
    initialBalance := 10000
    riskPercent := 15 / 10
    maxDailyLossPercent := 4
    maxConsecutiveLosses := 5
    maxOpenPositions := 4 }

/-- The quarter of seven o'clock that opens the sweep of the hour before, and the ones
after it. -/
def morningBar (quarter : Nat) (high : ℚ) : BacktestCandle :=
  { openTime := dayStart 20503 + 7 * msPerHour + quarter * m15Length
    open_ := 2004
    high := high
    low := 2002
    close := 2004 }

def closedDays : List BacktestCandle :=
  (List.range 31).map fun i => { goldD1Bar i with openTime := dayStart (20472 + i) }

def sweepDay (high : ℚ) : BacktestCandle :=
  { openTime := dayStart 20503, open_ := 2016, high := high, low := 2006, close := 2016 }

def goldHours : List BacktestCandle :=
  (List.range 60).map (goldBar 58)

def plainMorning : BacktestInput :=
  { m15 := [morningBar 0 2006, morningBar 1 2006]
    h1 := goldHours
    d1 := closedDays
    m15_ordered := by decide
    h1_ordered := by decide +kernel
    d1_ordered := by decide +kernel }

/-- The second quarter and the rest of the hour come out differently. -/
def otherMorning : BacktestInput :=
  { plainMorning with
    m15 := [morningBar 0 2006, morningBar 1 2020]
    h1 := goldHours.take 59 ++ [{ goldBar 58 59 with high := 2020 }]
    m15_ordered := by decide
    h1_ordered := by decide +kernel }

theorem mornings_open_same :
    openedOn documentedEnv goldConfig plainMorning 1 =
      openedOn documentedEnv goldConfig otherMorning 1 := by
  have hbar : plainMorning.m15[0]? = some (morningBar 0 2006) := rfl
  refine opens_same documentedIndicators_causal hbar
    ⟨by decide +kernel, by decide +kernel, by decide +kernel⟩ ?_
  intro cfg hcfg _
  have hgold : cfg = xauusdSmcConfig := (Option.some.inj hcfg).symm
  subst hgold
  decide +kernel

def quietDay : BacktestInput :=
  { plainMorning with
    m15 := [morningBar 0 2006]
    d1 := closedDays ++ [sweepDay 2026]
    m15_ordered := by decide
    d1_ordered := by decide +kernel }

/-- In the afternoon gold rises far above. -/
def wildDay : BacktestInput :=
  { quietDay with
    d1 := closedDays ++ [sweepDay 2100]
    d1_ordered := by decide +kernel }

/-- The rest of the day decides at seven whether a position is opened. -/
theorem open_day_decides :
    ¬ (forall a b i bar, CausalIndicators documentedEnv.indicators -> a.m15[i]? = some bar ->
      AgreeOn (bar.openTime + m15Length) a b ->
        openedOn documentedEnv goldConfig a (i + 1) =
          openedOn documentedEnv goldConfig b (i + 1)) := by
  intro h
  have hagree : AgreeOn ((morningBar 0 2006).openTime + m15Length) quietDay wildDay :=
    ⟨by decide +kernel, by decide +kernel, by decide +kernel⟩
  have hsame := h quietDay wildDay 0 (morningBar 0 2006) documentedIndicators_causal rfl hagree
  have hopens : (openedOn documentedEnv goldConfig quietDay 1).toOption.map List.length =
      some 2 := by
    decide +kernel
  have hnone : (openedOn documentedEnv goldConfig wildDay 1).toOption.map List.length =
      some 0 := by
    decide +kernel
  rw [hsame, hnone] at hopens
  cases hopens

end Backtest
end Shamarx
