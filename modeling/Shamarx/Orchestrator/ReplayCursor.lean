import Shamarx.Orchestrator.EvaluateLemmas
import Shamarx.Engine.Locality

/-!
# Replay by cursor

The replay engine passes the full arrays with a cursor instead of slices.  Every
detector that works by index sees the same bars either way; the D1 bias and the
continuation filter search the full D1 array by time, and the length check of
the structure-break gate reads the full H1 array.
-/

namespace Shamarx
namespace Orchestrator

open Foundation
open Engine

/-!
# The cursor of the replay engine

At each M15 event the cursor moves over the M15 bars opened by then and over the
H1 and D1 bars closed by then.
-/

def advance (bars : List BacktestCandle) (visible : BacktestCandle -> Bool) (cur : Nat) :
    Nat :=
  cur + ((bars.drop cur).takeWhile visible).length

theorem advance_le {bars : List BacktestCandle} (visible : BacktestCandle -> Bool) {cur : Nat}
    (h : cur ≤ bars.length) : advance bars visible cur ≤ bars.length := by
  have hlen := List.IsPrefix.length_le (List.takeWhile_prefix visible (l := bars.drop cur))
  rw [List.length_drop] at hlen
  unfold advance
  omega

def replayAdvance (b : CandleBundle) (cur : Cursor b) (evMs : Int) : Cursor b :=
  { m15 := advance b.m15 (fun c => decide (c.openTime ≤ evMs)) cur.m15
    h1 := advance b.h1 (fun c => decide (c.openTime + msPerHour ≤ evMs + 1)) cur.h1
    d1 := advance b.d1 (fun c => decide (c.openTime + msPerDay ≤ evMs + 1)) cur.d1
    m15_le := advance_le _ cur.m15_le
    h1_le := advance_le _ cur.h1_le
    d1_le := advance_le _ cur.d1_le }

def replayCursor (b : CandleBundle) (events : List Int) : Cursor b :=
  events.foldl (replayAdvance b)
    { m15 := 0
      h1 := 0
      d1 := 0
      m15_le := Nat.zero_le _
      h1_le := Nat.zero_le _
      d1_le := Nat.zero_le _ }

/-!
# Slices
-/

def CandleBundle.cut (b : CandleBundle) (cur : Cursor b) : CandleBundle :=
  { m15 := b.m15.take cur.m15, h1 := b.h1.take cur.h1, d1 := b.d1.take cur.d1 }

def PrecomputedIndicators.cut (pre : PrecomputedIndicators) {b : CandleBundle}
    (cur : Cursor b) : PrecomputedIndicators :=
  { m15 := pre.m15.take cur.m15
    h1 := pre.h1.take cur.h1
    d1 := pre.d1.map fun ind => ind.take cur.d1 }

/-- The frame of the slice call, with the bias and ADX of the cursor call. -/
def Frame.cut (f : Frame) (d1Len : Nat) : Frame :=
  { f with
    candles :=
      { m15 := f.candles.m15.take f.m15Len
        h1 := f.candles.h1.take f.h1Len
        d1 := f.candles.d1.take d1Len }
    m15Indicators := f.m15Indicators.take f.m15Len
    h1Indicators := f.h1Indicators.take f.h1Len
    d1Indicators := f.d1Indicators.map fun ind => ind.take d1Len }

structure Frame.InRange (f : Frame) : Prop where
  m15_pos : 30 ≤ f.m15Len
  h1_pos : 30 ≤ f.h1Len
  m15_le : f.m15Len ≤ f.candles.m15.length
  h1_le : f.h1Len ≤ f.candles.h1.length

/-- The continuation filter gives both calls the same answer. -/
def SameFilter (cfg : SmcPairConfig) (f : Frame) (d1Len : Nat) : Prop :=
  ModeRejected (f.cut d1Len).candles.d1 (f.cut d1Len).d1Indicators f.lastM15.openTime
      f.liveD1Bias f.liveD1Adx cfg ↔
    ModeRejected f.candles.d1 f.d1Indicators f.lastM15.openTime f.liveD1Bias f.liveD1Adx cfg

/-- Both H1 lengths are on one side of the bound of the structure-break gate. -/
def SameBosLength (cfg : SmcPairConfig) (f : Frame) : Prop :=
  cfg.useBosGate = true ->
    ((f.candles.h1.take f.h1Len).length <
        cfg.bosGateSwingLookback.getD cfg.recentSwingLookbackH1 + 2 ↔
      f.candles.h1.length < cfg.bosGateSwingLookback.getD cfg.recentSwingLookbackH1 + 2)

/-!
# Detection on the slice
-/

theorem admittedSetup_cut {cfg : SmcPairConfig} {f : Frame} {d1Len idx : Nat}
    (hord : InTimeOrder f.candles.h1) (hfilter : SameFilter cfg f d1Len)
    (hidx : idx + 1 < f.h1Len) (actioned : List Int) :
    admittedSetup cfg (f.cut d1Len) actioned idx = admittedSetup cfg f actioned idx := by
  have hdetect : detectSweep (f.cut d1Len).candles.h1 (f.cut d1Len).h1Indicators idx
      f.liveD1Bias f.liveD1Adx cfg (f.cut d1Len).candles.d1 (f.cut d1Len).d1Indicators
      f.lastM15.openTime =
        detectSweep f.candles.h1 f.h1Indicators idx f.liveD1Bias f.liveD1Adx cfg
          f.candles.d1 f.d1Indicators f.lastM15.openTime :=
    detectSweep_take hord hidx f.h1Indicators f.liveD1Bias f.liveD1Adx cfg hfilter
  unfold admittedSetup
  change (if f.liveD1Adx < cfg.d1AdxFloor then none else
    (detectSweep (f.cut d1Len).candles.h1 (f.cut d1Len).h1Indicators idx
      f.liveD1Bias f.liveD1Adx cfg (f.cut d1Len).candles.d1 (f.cut d1Len).d1Indicators
      f.lastM15.openTime).bind _) = _
  rw [hdetect]
  rfl

theorem findH1IdxAfter_take {candles : List BacktestCandle} {n maxIdx : Nat}
    (h : maxIdx < n) (after : Int) :
    findH1IdxAfter (candles.take n) after maxIdx = findH1IdxAfter candles after maxIdx := by
  unfold findH1IdxAfter
  refine congrArg (fun found => Option.getD found maxIdx) (scanUp_congr fun k _ hk => ?_)
  rw [List.getElem?_take_of_lt (by omega)]

theorem detectStep_cut {cfg : SmcPairConfig} {f : Frame} {d1Len : Nat}
    (hrange : f.InRange) (hord : InTimeOrder f.candles.h1)
    (hfilter : SameFilter cfg f d1Len) (s : OrchestratorState) :
    detectStep cfg (f.cut d1Len) s = detectStep cfg f s := by
  have hpos := hrange.h1_pos
  have hlt : f.h1Len - 2 < f.h1Len := by omega
  have hlast : (f.cut d1Len).candles.h1[(f.cut d1Len).h1Len - 2]? =
      f.candles.h1[f.h1Len - 2]? :=
    List.getElem?_take_of_lt hlt
  have hafter : forall after, findH1IdxAfter (f.cut d1Len).candles.h1 after
      ((f.cut d1Len).h1Len - 2) = findH1IdxAfter f.candles.h1 after (f.h1Len - 2) :=
    fun after => findH1IdxAfter_take hlt after
  have hfound : forall first, (List.range' first (f.h1Len - 2 + 1 - first)).filterMap
      (admittedSetup cfg (f.cut d1Len) s.actionedSweeps) =
        (List.range' first (f.h1Len - 2 + 1 - first)).filterMap
          (admittedSetup cfg f s.actionedSweeps) := by
    intro first
    apply List.filterMap_congr
    intro idx hidx
    rw [List.mem_range'_1] at hidx
    exact admittedSetup_cut hord hfilter (by omega) s.actionedSweeps
  unfold detectStep
  simp only [hlast, hafter]
  split
  · rfl
  · split_ifs
    · rfl
    · exact congrArg
        (fun found => ({ s with
          pending := s.pending ++ found
          lastProcessedH1Time := _ } : OrchestratorState)) (hfound _)

/-!
# The queue pass on the slice
-/

theorem m15AtrOf_cut {f : Frame} (hrange : f.InRange) (d1Len : Nat) :
    m15AtrOf (f.cut d1Len) = m15AtrOf f := by
  have hpos := hrange.m15_pos
  have hlt : f.m15Len - 1 < f.m15Len := by omega
  exact valueAt_take f.m15Indicators.atr14 hlt

theorem planEntry_cut {f : Frame} (hrange : f.InRange) (d1Len : Nat) (symbol : Instrument)
    (cfg : SmcPairConfig) (setup : PendingSetup) :
    planEntry symbol cfg (f.cut d1Len) setup = planEntry symbol cfg f setup := by
  have hbuffer : slBufferOf cfg (f.cut d1Len) setup = slBufferOf cfg f setup := by
    rw [slBufferOf, slBufferOf, m15AtrOf_cut hrange]
  unfold planEntry
  rw [hbuffer]
  rfl

theorem entryGates_cut {cfg : SmcPairConfig} {f : Frame} (hrange : f.InRange)
    (hbos : SameBosLength cfg f) (d1Len : Nat) (setup : PendingSetup) (entryPrice : ℚ) :
    entryGates cfg (f.cut d1Len) setup entryPrice = entryGates cfg f setup entryPrice := by
  have hm15 := hrange.m15_pos
  have hh1 := hrange.h1_pos
  have hm15lt : f.m15Len - 1 < f.m15Len := by omega
  have hh1lt : f.h1Len - 1 < f.h1Len := by omega
  have hfvg := hasSupportingFvg_take hm15lt hrange.m15_le setup.direction entryPrice
    (cfg.fvgGateMaxDistanceAtr.getD (15 / 10)) f.m15Indicators.atr14
  have hob := hasSupportingOb_take hh1lt hrange.h1_le setup.direction entryPrice
    (cfg.obGateMaxDistanceAtr.getD 2) f.h1Indicators.atr14
  have hbosGate : runGate cfg.useBosGate
      (hasBosAfter (f.candles.h1.take f.h1Len) setup.direction setup.detectedAtH1Idx
        (f.h1Len - 1) (cfg.bosGateSwingLookback.getD cfg.recentSwingLookbackH1)) =
      runGate cfg.useBosGate
        (hasBosAfter f.candles.h1 setup.direction setup.detectedAtH1Idx (f.h1Len - 1)
          (cfg.bosGateSwingLookback.getD cfg.recentSwingLookbackH1)) := by
    cases hon : cfg.useBosGate with
    | false =>
        rfl
    | true =>
        rw [hasBosAfter_take hh1lt (hbos hon)]
  unfold entryGates
  simp only [Frame.cut, IndicatorState.take] at hbosGate ⊢
  rw [hfvg, hob, hbosGate]

theorem originGates_cut {cfg : SmcPairConfig} {f : Frame} (hrange : f.InRange)
    (d1Len : Nat) (setup : PendingSetup) {swing : Nat} (hswing : swing < f.h1Len) :
    originGates cfg (f.cut d1Len) setup swing = originGates cfg f setup swing := by
  unfold originGates
  simp only [Frame.cut, IndicatorState.take, hasFreshObAtSweptLevel_take hswing,
    sweptMoveLeftFvg_take hswing hrange.h1_le, sweptLevelWasItselfABos_take hswing]

theorem structureGates_cut {cfg : SmcPairConfig} {f : Frame} (hrange : f.InRange)
    (hbos : SameBosLength cfg f) (d1Len : Nat) {setup : PendingSetup}
    (hidx : setup.detectedAtH1Idx < f.h1Len) (entryPrice : ℚ) :
    structureGates cfg (f.cut d1Len) setup entryPrice =
      structureGates cfg f setup entryPrice := by
  have hswept : sweptIdxOf cfg (f.cut d1Len) setup = sweptIdxOf cfg f setup :=
    findSweptSwingIdx_take (le_of_lt hidx) _ _ _
  unfold structureGates
  rw [entryGates_cut hrange hbos, hswept]
  split
  · rfl
  · split_ifs
    · split
      · rfl
      · rfl
      · next swing hfound =>
          have hlt := findSweptSwingIdx_lt hfound
          rw [originGates_cut hrange d1Len setup (by omega)]
    · rfl

theorem judge_cut {env : EngineEnv} {symbol : Instrument} {cfg : SmcPairConfig} {f : Frame}
    (hrange : f.InRange) (hbos : SameBosLength cfg f) (d1Len : Nat) (ctx : LiveContext)
    (actioned : List Int) {setup : PendingSetup} (hidx : setup.detectedAtH1Idx < f.h1Len) :
    judge env symbol cfg (f.cut d1Len) ctx actioned setup =
      judge env symbol cfg f ctx actioned setup := by
  have hcontext : forall gates,
      smcContextOf (f.cut d1Len) setup gates = smcContextOf f setup gates := by
    intro gates
    unfold smcContextOf
    simp only [Frame.cut, List.getElem?_take_of_lt hidx]
  have hsignal : forall p gates lot,
      buildSignal symbol cfg (f.cut d1Len) setup p gates lot =
        buildSignal symbol cfg f setup p gates lot := by
    intro p gates lot
    unfold buildSignal
    rw [hcontext]
    rfl
  have hfire : forall p, sizeAndFire env symbol cfg (f.cut d1Len) ctx setup p =
      sizeAndFire env symbol cfg f ctx setup p := by
    intro p
    simp only [sizeAndFire, structureGates_cut hrange hbos d1Len hidx, hsignal]
  unfold judge
  simp only [planEntry_cut hrange, m15AtrOf_cut hrange, hfire]

theorem fireLoop_congr {f g : PendingSetup -> Verdict} {queue : List PendingSetup}
    (h : forall p, p ∈ queue -> f p = g p) : fireLoop f queue = fireLoop g queue := by
  induction queue with
  | nil =>
      rfl
  | cons setup older ih =>
      have hhead := h setup List.mem_cons_self
      have htail := ih fun p hp => h p (List.mem_cons_of_mem setup hp)
      rw [fireLoop, fireLoop, hhead, htail]

theorem gateStep_cut {env : EngineEnv} {symbol : Instrument} {cfg : SmcPairConfig}
    {f : Frame} (hrange : f.InRange) (hbos : SameBosLength cfg f) (d1Len : Nat)
    (ctx : LiveContext) {s : OrchestratorState}
    (hidx : forall p, p ∈ s.pending -> p.detectedAtH1Idx < f.h1Len) :
    gateStep env symbol cfg (f.cut d1Len) ctx s = gateStep env symbol cfg f ctx s := by
  have hfire : forall rm : RiskManager,
      fireStep env symbol cfg (f.cut d1Len) ctx { s with riskManager := rm } =
        fireStep env symbol cfg f ctx { s with riskManager := rm } := by
    intro rm
    unfold fireStep
    rw [fireLoop_congr fun p hp =>
      judge_cut hrange hbos d1Len ctx s.actionedSweeps (hidx p (List.mem_reverse.mp hp))]
  unfold gateStep
  simp only [hfire]
  rfl

theorem evaluateState_cut {env : EngineEnv} {symbol : Instrument} {cfg : SmcPairConfig}
    {f : Frame} {d1Len : Nat} (hrange : f.InRange) (hord : InTimeOrder f.candles.h1)
    (hfilter : SameFilter cfg f d1Len) (hbos : SameBosLength cfg f) (ctx : LiveContext)
    {s : OrchestratorState} (hidx : forall p, p ∈ s.pending -> p.detectedAtH1Idx < f.h1Len) :
    evaluateState env symbol cfg (f.cut d1Len) ctx s =
      evaluateState env symbol cfg f ctx s := by
  unfold evaluateState
  rw [detectStep_cut hrange hord hfilter]
  change gateStep env symbol cfg (f.cut d1Len) ctx (expireStep f (detectStep cfg f s)) = _
  apply gateStep_cut hrange hbos d1Len ctx
  intro p hp
  have hpos := hrange.h1_pos
  rcases mem_detectStep_pending (mem_expireStep_pending.mp hp).1 with hold | ⟨idx, hle, hmade⟩
  · exact hidx p hold
  · rw [hmade.1]
    omega

/-!
# Cursor path and slice path
-/

/-- The cursor call decides and leaves the state as the call on the slices. -/
def CursorFaithful (env : EngineEnv) (o : LiveSmcOrchestrator) (symbol : Instrument)
    (b : CandleBundle) (ctx : LiveContext) (pre : PrecomputedIndicators) (cur : Cursor b) :
    Prop :=
  evaluate env o symbol b ctx (some pre) (some cur) =
    evaluate env o symbol (b.cut cur) ctx (some (pre.cut cur)) none

/-- The two D1 lookups answer on the full arrays as on the slices: the bias, and
for a trending day with the filter on also the continuation check. -/
def SameD1Lookups (cfg : SmcPairConfig) (b : CandleBundle) (pre : PrecomputedIndicators)
    (cur : Cursor b) (t : Int) : Prop :=
  forall ind, pre.d1 = some ind ->
    getD1Bias (b.d1.take cur.d1) (ind.take cur.d1) t = getD1Bias b.d1 ind t ∧
      (cfg.autoModeFilter ≠ some false -> cfg.trendingD1Adx ≤ adxBefore pre.d1 cur.d1 ->
        isContinuationSafe (b.d1.take cur.d1) (some (ind.take cur.d1)) t
            (getD1Bias b.d1 ind t) =
          isContinuationSafe b.d1 (some ind) t (getD1Bias b.d1 ind t))

/-- Nothing beyond the cursor is read: the D1 lookups agree, both H1 lengths are
on one side of the structure-break bound, and queued setups index visible bars. -/
def CursorBlind (env : EngineEnv) (o : LiveSmcOrchestrator) (symbol : Instrument)
    (b : CandleBundle) (pre : PrecomputedIndicators) (cur : Cursor b) : Prop :=
  forall cfg lastM15, getSmcPairConfig env.overrides symbol = some cfg ->
    b.m15[cur.m15 - 1]? = some lastM15 -> 30 ≤ cur.m15 -> 30 ≤ cur.h1 ->
    SameD1Lookups cfg b pre cur lastM15.openTime ∧
      (cfg.useBosGate = true ->
        (cur.h1 < cfg.bosGateSwingLookback.getD cfg.recentSwingLookbackH1 + 2 ↔
          b.h1.length < cfg.bosGateSwingLookback.getD cfg.recentSwingLookbackH1 + 2)) ∧
      forall p, p ∈ (o.getOrCreateState symbol).pending -> p.detectedAtH1Idx < cur.h1

theorem adxBefore_cut (d1Indicators : Option IndicatorState) (d1Len : Nat) :
    adxBefore (d1Indicators.map fun ind => ind.take d1Len) d1Len =
      adxBefore d1Indicators d1Len := by
  cases d1Indicators with
  | none =>
      rfl
  | some ind =>
      cases d1Len with
      | zero =>
          rfl
      | succ m =>
          exact congrArg (fun v => Option.getD v 0)
            (valueAt_take ind.adx14 (Nat.lt_succ_self m))

@[simp] theorem cut_full_m15 (b : CandleBundle) (cur : Cursor b) :
    (Cursor.full (b.cut cur)).m15 = cur.m15 := by
  simp [Cursor.full, CandleBundle.cut, cur.m15_le]

@[simp] theorem cut_full_h1 (b : CandleBundle) (cur : Cursor b) :
    (Cursor.full (b.cut cur)).h1 = cur.h1 := by
  simp [Cursor.full, CandleBundle.cut, cur.h1_le]

@[simp] theorem cut_full_d1 (b : CandleBundle) (cur : Cursor b) :
    (Cursor.full (b.cut cur)).d1 = cur.d1 := by
  simp [Cursor.full, CandleBundle.cut, cur.d1_le]

theorem makeFrame_cut {cfg : SmcPairConfig} {b : CandleBundle} {pre : PrecomputedIndicators}
    {cur : Cursor b} {lastM15 : BacktestCandle}
    (hd1 : SameD1Lookups cfg b pre cur lastM15.openTime) :
    makeFrame (b.cut cur) (pre.cut cur) (Cursor.full (b.cut cur)) lastM15 =
      (makeFrame b pre cur lastM15).cut cur.d1 := by
  have hbias : (makeFrame (b.cut cur) (pre.cut cur) (Cursor.full (b.cut cur))
      lastM15).liveD1Bias = (makeFrame b pre cur lastM15).liveD1Bias := by
    cases hind : pre.d1 with
    | none =>
        simp [makeFrame, PrecomputedIndicators.cut, hind]
    | some ind =>
        simpa [makeFrame, PrecomputedIndicators.cut, CandleBundle.cut, hind] using
          (hd1 ind hind).1
  have hadx : (makeFrame (b.cut cur) (pre.cut cur) (Cursor.full (b.cut cur))
      lastM15).liveD1Adx = (makeFrame b pre cur lastM15).liveD1Adx := by
    simp only [makeFrame, cut_full_d1, PrecomputedIndicators.cut]
    exact adxBefore_cut pre.d1 cur.d1
  simp only [makeFrame, Frame.cut, cut_full_m15, cut_full_h1] at hbias hadx ⊢
  rw [hbias, hadx]
  rfl

theorem sameFilter_of_lookups {cfg : SmcPairConfig} {b : CandleBundle}
    {pre : PrecomputedIndicators} {cur : Cursor b} {lastM15 : BacktestCandle}
    (hd1 : SameD1Lookups cfg b pre cur lastM15.openTime) :
    SameFilter cfg (makeFrame b pre cur lastM15) cur.d1 := by
  cases hind : pre.d1 with
  | none =>
      simp [SameFilter, ModeRejected, makeFrame, Frame.cut, hind, isContinuationSafe]
  | some ind =>
      unfold SameFilter ModeRejected
      refine and_congr_right fun hfilter => and_congr_right fun hmode => ?_
      have htrend : cfg.trendingD1Adx ≤ adxBefore pre.d1 cur.d1 := by
        unfold sweepMode at hmode
        split_ifs at hmode with htrend
        exact htrend
      have hsafe := (hd1 ind hind).2 hfilter htrend
      simp only [makeFrame, Frame.cut, hind, Option.map_some]
      rw [hsafe]

/-- With time-ordered H1 bars, a call that reads nothing beyond the cursor is the
call on the slices. -/
theorem cursor_path_eq_slice_path (env : EngineEnv) (o : LiveSmcOrchestrator)
    (symbol : Instrument) (b : CandleBundle) (ctx : LiveContext)
    (pre : PrecomputedIndicators) (cur : Cursor b) (hord : InTimeOrder b.h1)
    (hblind : CursorBlind env o symbol b pre cur) :
    CursorFaithful env o symbol b ctx pre cur := by
  unfold CursorFaithful evaluate evaluateAt
  simp only [Option.getD_some, Option.getD_none, cut_full_m15, cut_full_h1, callIndicators]
  split_ifs with hguard
  · rfl
  · have hm15 : 30 ≤ cur.m15 := by omega
    have hh1 : 30 ≤ cur.h1 := by omega
    have hm15lt : cur.m15 - 1 < cur.m15 := by omega
    split
    · rfl
    · next cfg hcfg =>
        have hlast : (b.cut cur).m15[cur.m15 - 1]? = b.m15[cur.m15 - 1]? :=
          List.getElem?_take_of_lt hm15lt
        rw [hlast]
        split
        · rfl
        · next lastM15 hbar =>
            rcases hblind cfg lastM15 hcfg hbar hm15 hh1 with ⟨hd1, hbos, hidx⟩
            have hrange : (makeFrame b pre cur lastM15).InRange :=
              { m15_pos := hm15
                h1_pos := hh1
                m15_le := cur.m15_le
                h1_le := cur.h1_le }
            have hbosFrame : SameBosLength cfg (makeFrame b pre cur lastM15) := by
              intro hon
              have hlen : (b.h1.take cur.h1).length = cur.h1 := by
                rw [List.length_take]
                exact min_eq_left cur.h1_le
              change (b.h1.take cur.h1).length < _ ↔ _
              rw [hlen]
              exact hbos hon
            rw [makeFrame_cut hd1, evaluateState_cut hrange hord (sameFilter_of_lookups hd1)
              hbosFrame ctx hidx]

/-!
# A day still open

Sixty closed flat days and one that is still open at the replayed event.
-/

def flatD1Bar (i : Nat) : BacktestCandle :=
  { openTime := dayStart (20443 + i), open_ := 2000, high := 2010, low := 1990, close := 2000 }

def openDayBar (close : ℚ) : BacktestCandle :=
  { openTime := dayStart 20503, open_ := 2000, high := max 2010 close, low := 1990,
    close := close }

def replayBundle (todayClose : ℚ) : CandleBundle :=
  { m15 := flatM15 2004 2 (goldStart + 60 * msPerHour)
    h1 := (List.range 60).map (goldBar 58)
    d1 := (List.range 60).map flatD1Bar ++ [openDayBar todayClose] }

def replayIndicators (todayClose : ℚ) : PrecomputedIndicators :=
  callIndicators documentedEnv (replayBundle todayClose) none

def replayCursorNow (todayClose : ℚ) : Cursor (replayBundle todayClose) :=
  replayCursor (replayBundle todayClose)
    ((replayBundle todayClose).m15.map BacktestCandle.openTime)

def queuedOrchestrator : LiveSmcOrchestrator :=
  let o := LiveSmcOrchestrator.create standardRiskCfg
  o.setState .XAUUSD
    { o.freshState .XAUUSD with
      pending := [goldSetup]
      lastProcessedH1Time := some goldSetup.sweepTime }

theorem goldBars_inTimeOrder (sweepAt n : Nat) :
    InTimeOrder ((List.range n).map (goldBar sweepAt)) := by
  unfold InTimeOrder
  rw [List.pairwise_map]
  apply List.pairwise_lt_range.imp
  intro hab
  simp only [goldBar, msPerHour]
  omega

set_option maxRecDepth 20000 in
/-- With the open day flat the D1 lookups agree, and so do the two calls. -/
theorem cursor_path_on_flat_open_day :
    CursorBlind documentedEnv queuedOrchestrator .XAUUSD (replayBundle 2000)
        (replayIndicators 2000) (replayCursorNow 2000) ∧
      CursorFaithful documentedEnv queuedOrchestrator .XAUUSD (replayBundle 2000) goldContext
        (replayIndicators 2000) (replayCursorNow 2000) := by
  have hblind : CursorBlind documentedEnv queuedOrchestrator .XAUUSD (replayBundle 2000)
      (replayIndicators 2000) (replayCursorNow 2000) := by
    intro cfg lastM15 hcfg hlast _ _
    have hcfg' : cfg = xauusdSmcConfig := (Option.some.inj hcfg).symm
    have htime : lastM15.openTime = goldStart + 60 * msPerHour := by
      have hbar : (replayBundle 2000).m15[(replayCursorNow 2000).m15 - 1]?.map
          BacktestCandle.openTime = some (goldStart + 60 * msPerHour) := by
        decide +kernel
      rw [hlast] at hbar
      exact Option.some.inj hbar
    subst hcfg'
    refine ⟨?_, ?_, ?_⟩
    · intro ind hind
      have hind' : ind = computeIndicators documentedIndicators (replayBundle 2000).d1 :=
        (Option.some.inj hind).symm
      subst hind'
      rw [htime]
      refine ⟨by decide +kernel, fun _ htrend => ?_⟩
      exact absurd htrend (by decide +kernel)
    · intro hon
      cases hon
    · intro p hp
      have hp' : p = goldSetup := List.mem_singleton.mp hp
      rw [hp']
      decide +kernel
  exact ⟨hblind, cursor_path_eq_slice_path documentedEnv queuedOrchestrator .XAUUSD _
    goldContext _ _ (goldBars_inTimeOrder 58 60) hblind⟩

def signalBias : Except EngineError (Option SmcLiveSignal) -> Option D1Bias
  | .ok (some signal) => some signal.reason.d1Bias
  | _ => none

set_option maxRecDepth 20000 in
/-- A jump inside the open day makes the replayed signal bullish; on the closed
days the bias is neutral. -/
theorem open_day_leaks_into_replay :
    (InTimeOrder (replayBundle 2400).m15 ∧ InTimeOrder (replayBundle 2400).h1 ∧
        InTimeOrder (replayBundle 2400).d1) ∧
      ¬ CursorFaithful documentedEnv queuedOrchestrator .XAUUSD (replayBundle 2400) goldContext
        (replayIndicators 2400) (replayCursorNow 2400) := by
  refine ⟨⟨?_, goldBars_inTimeOrder 58 60, ?_⟩, ?_⟩
  · unfold InTimeOrder
    decide +kernel
  · unfold InTimeOrder
    decide +kernel
  · intro hsame
    have hfull : signalBias (evaluate documentedEnv queuedOrchestrator .XAUUSD
        (replayBundle 2400) goldContext (some (replayIndicators 2400))
        (some (replayCursorNow 2400))).2 = some .bullish := by
      decide +kernel
    have hsliced : signalBias (evaluate documentedEnv queuedOrchestrator .XAUUSD
        ((replayBundle 2400).cut (replayCursorNow 2400)) goldContext
        (some ((replayIndicators 2400).cut (replayCursorNow 2400))) none).2 =
          some .neutral := by
      decide +kernel
    rw [← hsame, hfull] at hsliced
    cases hsliced

end Orchestrator
end Shamarx
