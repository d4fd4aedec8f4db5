import Shamarx.Engine.Locality

/-!
# Zones a detector should report

What a scan for gaps and order blocks is meant to give, stated on the candles, and how far
the detectors give it.
-/

namespace Shamarx
namespace Engine

open Foundation

def windowEnd (candles : List BacktestCandle) (endIdx : Option Nat) : Nat :=
  min (endIdx.getD (candles.length - 1)) (candles.length - 1)

def Reenters (candles : List BacktestCandle) (z : Zone) (k : Nat) : Prop :=
  exists c, candles[k]? = some c ∧
    ((z.isBullish = true ∧ c.low ≤ z.top) ∨ (z.isBullish = false ∧ z.bottom ≤ c.high))

section Mitigation

variable {candles : List BacktestCandle} {z : Zone} {lo e k : Nat}

def mitigationProbe (candles : List BacktestCandle) (z : Zone) (k : Nat) : Option Nat := do
  let c <- candles[k]?
  if z.isBullish then if c.low ≤ z.top then some k else none
  else if z.bottom ≤ c.high then some k else none

theorem mitigationProbe_eq_some_iff {x : Nat} :
    mitigationProbe candles z k = some x <-> x = k ∧ Reenters candles z k := by
  unfold mitigationProbe Reenters
  cases candles[k]? with
  | none =>
      simp
  | some c =>
      cases z.isBullish with
      | false =>
          by_cases hin : z.bottom ≤ c.high <;> simp [hin, eq_comm]
      | true =>
          by_cases hin : c.low ≤ z.top <;> simp [hin, eq_comm]

theorem mitigationProbe_isSome_iff (candles : List BacktestCandle) (z : Zone) (k : Nat) :
    (mitigationProbe candles z k).isSome = true <-> Reenters candles z k := by
  rw [Option.isSome_iff_exists]
  simp only [mitigationProbe_eq_some_iff, exists_eq_left]

theorem mitigationIdx_eq : mitigationIdx candles z lo e =
    scanUp lo (e + 1) (mitigationProbe candles z) :=
  rfl

theorem mitigationIdx_iff : mitigationIdx candles z lo e = some k <->
    IsLeast { j | lo ≤ j ∧ j ≤ e ∧ Reenters candles z j } k := by
  rw [mitigationIdx_eq, scanUp_iff_isLeast lo (e + 1) (mitigationProbe_isSome_iff candles z)]
  simp only [Nat.lt_add_one_iff, mitigationProbe_eq_some_iff]
  constructor
  · intro h
    rcases h with ⟨j, hleast, rfl, _⟩
    exact hleast
  · intro h
    exact ⟨k, h, rfl, h.1.2.2⟩

theorem mitigationIdx_isSome_iff : (mitigationIdx candles z lo e).isSome = true <->
    exists j, lo ≤ j ∧ j ≤ e ∧ Reenters candles z j := by
  rw [mitigationIdx_eq, scanUp_isSome_iff lo (e + 1) (mitigationProbe_isSome_iff candles z)]
  simp only [Nat.lt_add_one_iff]

end Mitigation

/-!
# Fair value gaps
-/

inductive GapZone (prev next : BacktestCandle) (candleTime : Int) : Zone -> Prop
  | up (h : prev.high < next.low) :
      GapZone prev next candleTime
        { top := next.low, bottom := prev.high, candleTime := candleTime, isBullish := true }
  | down (h : next.high < prev.low) :
      GapZone prev next candleTime
        { top := prev.low, bottom := next.high, candleTime := candleTime, isBullish := false }

def GapAt (candles : List BacktestCandle) (i : Nat) : Prop :=
  exists prev next, candles[i - 1]? = some prev ∧ candles[i + 1]? = some next ∧
    (prev.high < next.low ∨ next.high < prev.low)

/-- The entry due for the gap around candle `i` when `e` is the last bar. -/
structure IsGapEntry (candles : List BacktestCandle) (e i : Nat) (f : Fvg) : Prop where
  index : f.candleIdx = i
  zone : exists prev c next, candles[i - 1]? = some prev ∧ candles[i]? = some c ∧
    candles[i + 1]? = some next ∧ GapZone prev next c.openTime f.zone
  height : f.height = f.zone.top - f.zone.bottom
  mitigated : f.mitigatedAtIdx.isSome = true <->
    exists k, i + 2 ≤ k ∧ k ≤ e ∧ Reenters candles f.zone k
  first : forall k, f.mitigatedAtIdx = some k ->
    IsLeast { j | i + 2 ≤ j ∧ j ≤ e ∧ Reenters candles f.zone j } k

/-- The list has the one entry due for each gap up to the last bar, in order. -/
structure ExactGaps (candles : List BacktestCandle) (e : Nat) (found : List Fvg) : Prop where
  ascending : found.Pairwise fun f g => f.candleIdx < g.candleIdx
  sound : forall f, f ∈ found ->
    1 ≤ f.candleIdx ∧ f.candleIdx + 1 ≤ e ∧ IsGapEntry candles e f.candleIdx f
  complete : forall i, 1 ≤ i -> i + 1 ≤ e -> GapAt candles i ->
    exists f, f ∈ found ∧ f.candleIdx = i

section Gaps

variable {candles : List BacktestCandle} {atr : List (Option ℚ)} {e i : Nat} {f : Fvg}

theorem makeFvg_spec {bottom top : ℚ} {up : Bool}
    (h : makeFvg candles i bottom top up e = some f) :
    exists c, candles[i]? = some c ∧ f =
      { zone := { top := top, bottom := bottom, candleTime := c.openTime, isBullish := up }
        candleIdx := i
        mitigatedAtIdx := mitigationIdx candles
          { top := top, bottom := bottom, candleTime := c.openTime, isBullish := up } (i + 2) e
        height := top - bottom } := by
  unfold makeFvg at h
  cases hc : candles[i]? with
  | none =>
      rw [hc] at h
      cases h
  | some c =>
      rw [hc] at h
      cases h
      exact ⟨c, rfl, rfl⟩

theorem passesAtrFilter_zero (f : Fvg) (atr : List (Option ℚ)) :
    passesAtrFilter f 0 atr = true := by
  unfold passesAtrFilter
  rw [if_pos (Or.inl le_rfl)]

theorem isGapEntry_makeFvg {prev next : BacktestCandle} {bottom top : ℚ} {up : Bool}
    (hprev : candles[i - 1]? = some prev) (hnext : candles[i + 1]? = some next)
    (hzone : forall t, GapZone prev next t
      { top := top, bottom := bottom, candleTime := t, isBullish := up })
    (h : makeFvg candles i bottom top up e = some f) : IsGapEntry candles e i f := by
  rcases makeFvg_spec h with ⟨c, hc, rfl⟩
  exact
    { index := rfl
      zone := ⟨prev, c, next, hprev, hc, hnext, hzone c.openTime⟩
      height := rfl
      mitigated := mitigationIdx_isSome_iff
      first := fun k hk => mitigationIdx_iff.mp hk }

theorem isGapEntry_of_fvgAt (h : fvgAt candles 0 atr e i = some f) : IsGapEntry candles e i f := by
  unfold fvgAt at h
  cases hprev : candles[i - 1]? with
  | none =>
      rw [hprev] at h
      cases h
  | some prev =>
      cases hnext : candles[i + 1]? with
      | none =>
          rw [hprev, hnext] at h
          cases h
      | some next =>
          simp only [hprev, hnext, Option.bind_eq_bind, Option.bind_some, passesAtrFilter_zero,
            if_true, Option.bind_fun_some] at h
          split_ifs at h with hup hdown
          · exact isGapEntry_makeFvg hprev hnext (fun _ => GapZone.up hup) h
          · exact isGapEntry_makeFvg hprev hnext (fun _ => GapZone.down hdown) h

theorem GapAt.exists_fvgAt (hgap : GapAt candles i) (hi : i < candles.length)
    (atr : List (Option ℚ)) (e : Nat) : exists f, fvgAt candles 0 atr e i = some f := by
  rcases hgap with ⟨prev, next, hprev, hnext, hgap⟩
  have hmake : forall bottom top up, exists f, makeFvg candles i bottom top up e = some f := by
    intro bottom top up
    unfold makeFvg
    rw [List.getElem?_eq_getElem hi]
    exact ⟨_, rfl⟩
  unfold fvgAt
  simp only [hprev, hnext, Option.bind_eq_bind, Option.bind_some, passesAtrFilter_zero, if_true,
    Option.bind_fun_some]
  split_ifs with hup hdown
  · exact hmake _ _ _
  · exact hmake _ _ _
  · exact absurd hgap (not_or.mpr ⟨hup, hdown⟩)

theorem mem_detectFvgs_iff {options : DetectFvgsOptions}
    (hlookback : options.lookback = none) (hmin : options.minHeightAtrFraction = none) :
    f ∈ detectFvgs candles options <->
      exists i, 2 ≤ i ∧ i + 1 ≤ windowEnd candles options.endIdx ∧
        fvgAt candles 0 options.atr (windowEnd candles options.endIdx) i = some f := by
  unfold detectFvgs windowEnd
  rw [hlookback, hmin]
  simp only [Option.getD_none, Nat.sub_self, Nat.max_eq_left (Nat.zero_le 1), List.mem_filterMap,
    List.mem_range'_1]
  constructor
  · intro h
    rcases h with ⟨i, hi, hf⟩
    exact ⟨i, by omega, by omega, hf⟩
  · intro h
    rcases h with ⟨i, hlo, hhi, hf⟩
    exact ⟨i, by omega, hf⟩

theorem detectFvgs_ascending {options : DetectFvgsOptions}
    (hmin : options.minHeightAtrFraction = none) :
    (detectFvgs candles options).Pairwise fun f g => f.candleIdx < g.candleIdx := by
  unfold detectFvgs
  rw [hmin]
  exact pairwise_filterMap_range' (fun i f h => (isGapEntry_of_fvgAt h).index) _ _

theorem detectFvgs_sound {options : DetectFvgsOptions}
    (hlookback : options.lookback = none) (hmin : options.minHeightAtrFraction = none)
    (h : f ∈ detectFvgs candles options) :
    2 ≤ f.candleIdx ∧ f.candleIdx + 1 ≤ windowEnd candles options.endIdx ∧
      IsGapEntry candles (windowEnd candles options.endIdx) f.candleIdx f := by
  rcases (mem_detectFvgs_iff hlookback hmin).mp h with ⟨i, hlo, hhi, hf⟩
  have hentry := isGapEntry_of_fvgAt hf
  rw [hentry.index]
  exact ⟨hlo, hhi, hentry⟩

theorem detectFvgs_prefix {other : List BacktestCandle} {endIdx : Option Nat}
    (hsame : other.take (windowEnd candles endIdx + 1) =
      candles.take (windowEnd candles endIdx + 1)) :
    detectFvgs other { endIdx := some (windowEnd candles endIdx) } =
      detectFvgs candles { endIdx := endIdx } := by
  have hend : detectFvgs candles { endIdx := endIdx } =
      detectFvgs candles { endIdx := some (windowEnd candles endIdx) } := by
    simp only [detectFvgs, windowEnd, Option.getD_some, min_assoc, min_self]
  have hlen := congrArg List.length hsame
  rw [List.length_take, List.length_take] at hlen
  rw [hend]
  cases candles with
  | nil =>
      have hnil : other = [] := by
        rw [List.length_nil, Nat.min_zero] at hlen
        exact List.length_eq_zero_iff.mp (by omega)
      rw [hnil]
  | cons c rest =>
      have hwindow : windowEnd (c :: rest) endIdx + 1 ≤ (c :: rest).length := by
        unfold windowEnd
        rw [List.length_cons]
        omega
      have hother : windowEnd (c :: rest) endIdx + 1 ≤ other.length := by omega
      have hcut := detectFvgs_take (Nat.lt_succ_self _) hother none []
      rw [<- hcut, hsame, detectFvgs_take (Nat.lt_succ_self _) hwindow none []]

end Gaps

/-- Every gap up to the last bar is reported once, as it stands there, whatever follows. -/
def DetectsExactly (candles : List BacktestCandle) (endIdx : Option Nat) : Prop :=
  ExactGaps candles (windowEnd candles endIdx) (detectFvgs candles { endIdx := endIdx }) ∧
    forall other : List BacktestCandle,
      other.take (windowEnd candles endIdx + 1) = candles.take (windowEnd candles endIdx + 1) ->
        detectFvgs other { endIdx := some (windowEnd candles endIdx) } =
          detectFvgs candles { endIdx := endIdx }

/-- Detection is exact unless there is a gap around the second candle of the series. -/
theorem detectsExactly_iff (candles : List BacktestCandle) (endIdx : Option Nat) :
    DetectsExactly candles endIdx <-> windowEnd candles endIdx < 2 ∨ ¬ GapAt candles 1 := by
  constructor
  · intro h
    by_contra hnot
    rw [not_or, not_lt, not_not] at hnot
    rcases h.1.complete 1 le_rfl hnot.1 hnot.2 with ⟨f, hf, hindex⟩
    have hlate := (detectFvgs_sound rfl rfl hf).1
    omega
  · intro h
    refine ⟨?_, fun other hsame => detectFvgs_prefix hsame⟩
    constructor
    · exact detectFvgs_ascending rfl
    · intro f hf
      have hsound := detectFvgs_sound rfl rfl hf
      exact ⟨by omega, hsound.2⟩
    · intro i hlo hhi hgap
      have hi : i < candles.length := by
        rcases hgap with ⟨prev, next, _, hnext, _⟩
        have hin := (List.getElem?_eq_some_iff.mp hnext).1
        omega
      have hsecond : i ≠ 1 := by
        intro heq
        rw [heq] at hhi hgap
        rcases h with h | h
        · omega
        · exact h hgap
      rcases hgap.exists_fvgAt hi [] (windowEnd candles endIdx) with ⟨f, hf⟩
      refine ⟨f, (mem_detectFvgs_iff rfl rfl).mpr ⟨i, by omega, hhi, hf⟩, ?_⟩
      exact (isGapEntry_of_fvgAt hf).index

def secondCandleGap : List BacktestCandle :=
  [⟨0, 1, 2, 1, 2⟩, ⟨msPerHour, 2, 5, 2, 5⟩, ⟨2 * msPerHour, 5, 6, 4, 6⟩]

/-- The one gap of the series is not reported. -/
theorem not_detectsExactly_secondCandleGap : ¬ DetectsExactly secondCandleGap none := by
  intro h
  have hgap : GapAt secondCandleGap 1 :=
    ⟨_, _, rfl, rfl, Or.inl (by decide +kernel)⟩
  rcases h.1.complete 1 le_rfl (by decide +kernel) hgap with ⟨f, hf, _⟩
  have hnone : detectFvgs secondCandleGap { endIdx := none } = [] := by
    decide +kernel
  rw [hnone] at hf
  cases hf

/-!
# Order blocks
-/

/-- How far a candle moves away from an earlier one, against the earlier one's direction. -/
def moveAway (c fwd : BacktestCandle) : ℚ :=
  if c.close < c.open_ then fwd.high - c.low else c.high - fwd.low

def Opposing (candles : List BacktestCandle) (options : DetectObOptions) (i : Nat)
    (c : BacktestCandle) (due : ℚ) : Prop :=
  exists localAtr, candles[i]? = some c ∧ nullishAt options.atr i = some localAtr ∧
    ¬ (c.close = c.open_ ∨ (localAtr ≤ 0 ∧ 0 < options.displacementAtrMult.getD (15 / 10))) ∧
    due = options.displacementAtrMult.getD (15 / 10) * localAtr

def Displaces (candles : List BacktestCandle) (options : DetectObOptions) (i k : Nat) : Prop :=
  exists c due fwd, Opposing candles options i c due ∧ candles[k]? = some fwd ∧
    due ≤ moveAway c fwd

def Confirms (candles : List BacktestCandle) (options : DetectObOptions) (i k : Nat) : Prop :=
  IsLeast { j | i < j ∧ j ≤ i + options.lookForwardMax.getD 4 ∧
    j ≤ windowEnd candles options.endIdx ∧ Displaces candles options i j } k

def blockZone (c : BacktestCandle) : Zone :=
  { top := c.high, bottom := c.low, candleTime := c.openTime
    isBullish := decide (c.close < c.open_) }

/-- The mitigation of a block is the first re-entry behind the bar that confirmed it. -/
def MitigatedAfterImpulse (candles : List BacktestCandle) (options : DetectObOptions)
    (ob : OrderBlock) : Prop :=
  exists k, Confirms candles options ob.candleIdx k ∧
    (forall m, ob.mitigatedAtIdx = some m -> k < m) ∧
    (ob.mitigatedAtIdx.isSome = true <->
      exists m, k < m ∧ m ≤ windowEnd candles options.endIdx ∧ Reenters candles ob.zone m)

/-- No candle between a block and the bar that confirms it comes back to the block. -/
def QuietUntilConfirmed (candles : List BacktestCandle) (options : DetectObOptions) : Prop :=
  forall i c k, 1 ≤ i -> candles[i]? = some c -> Confirms candles options i k ->
    forall m, i + 2 ≤ m -> m ≤ k -> ¬ Reenters candles (blockZone c) m

section Blocks

variable {candles : List BacktestCandle} {options : DetectObOptions} {c : BacktestCandle}
  {i : Nat} {ob : OrderBlock}

def confirmProbe (candles : List BacktestCandle) (c : BacktestCandle) (due : ℚ) (e i k : Nat) :
    Option OrderBlock := do
  let fwd <- candles[k]?
  if due ≤ moveAway c fwd then
    some (makeOb candles c i (decide (c.close < c.open_)) (moveAway c fwd) e)
  else none

theorem confirmProbe_eq_some_iff {due : ℚ} {e k : Nat} :
    confirmProbe candles c due e i k = some ob <->
      exists fwd, candles[k]? = some fwd ∧ due ≤ moveAway c fwd ∧
        ob = makeOb candles c i (decide (c.close < c.open_)) (moveAway c fwd) e := by
  unfold confirmProbe
  rw [Option.bind_eq_bind, Option.bind_eq_some_iff]
  refine exists_congr fun fwd => and_congr_right fun _ => ?_
  split_ifs with hdue
  · rw [Option.some_inj, eq_comm, and_iff_right hdue]
  · exact iff_of_false (fun h => by cases h) fun h => hdue h.1

theorem displaces_iff {due : ℚ} (h : Opposing candles options i c due) (k : Nat) :
    Displaces candles options i k <->
      exists fwd, candles[k]? = some fwd ∧ due ≤ moveAway c fwd := by
  constructor
  · intro hdisp
    rcases hdisp with ⟨c', due', fwd, ⟨localAtr', hc', hatr', _, hdue'⟩, hfwd, hmove⟩
    rcases h with ⟨localAtr, hc, hatr, _, hdue⟩
    rw [hc] at hc'
    rw [hatr] at hatr'
    cases hc'
    cases hatr'
    rw [hdue, <- hdue']
    exact ⟨fwd, hfwd, hmove⟩
  · intro hfar
    rcases hfar with ⟨fwd, hfwd, hmove⟩
    exact ⟨c, due, fwd, h, hfwd, hmove⟩

theorem confirmProbe_isSome_iff {due : ℚ} (h : Opposing candles options i c due) (e k : Nat) :
    (confirmProbe candles c due e i k).isSome = true <-> Displaces candles options i k := by
  rw [Option.isSome_iff_exists, displaces_iff h]
  simp only [confirmProbe_eq_some_iff]
  constructor
  · intro hhit
    rcases hhit with ⟨_, fwd, hfwd, hmove, _⟩
    exact ⟨fwd, hfwd, hmove⟩
  · intro hfar
    rcases hfar with ⟨fwd, hfwd, hmove⟩
    exact ⟨_, fwd, hfwd, hmove, rfl⟩

theorem obAt_eq_some_iff {lookForward e : Nat} :
    obAt candles lookForward (options.displacementAtrMult.getD (15 / 10)) options.atr e i =
        some ob <->
      exists c due, Opposing candles options i c due ∧
        scanUp (i + 1) (min (i + lookForward) e + 1) (confirmProbe candles c due e i) =
          some ob := by
  unfold obAt
  constructor
  · intro h
    rcases Option.bind_eq_some_iff.mp h with ⟨c, hc, h⟩
    rcases Option.bind_eq_some_iff.mp h with ⟨localAtr, hatr, h⟩
    by_cases hguard : c.close = c.open_ ∨
        (localAtr ≤ 0 ∧ 0 < options.displacementAtrMult.getD (15 / 10))
    · rw [if_pos hguard] at h
      cases h
    · rw [if_neg hguard] at h
      exact ⟨c, _, ⟨localAtr, hc, hatr, hguard, rfl⟩, h⟩
  · intro h
    rcases h with ⟨c, due, ⟨localAtr, hc, hatr, hguard, rfl⟩, h⟩
    rw [hc, hatr, Option.bind_eq_bind, Option.bind_some, Option.bind_eq_bind, Option.bind_some,
      if_neg hguard]
    exact h

theorem scanUp_confirmProbe_iff {due : ℚ} (h : Opposing candles options i c due) (e : Nat) :
    scanUp (i + 1)
        (min (i + options.lookForwardMax.getD 4) (windowEnd candles options.endIdx) + 1)
        (confirmProbe candles c due e i) = some ob <->
      exists k fwd, Confirms candles options i k ∧ candles[k]? = some fwd ∧
        ob = makeOb candles c i (decide (c.close < c.open_)) (moveAway c fwd) e := by
  rw [scanUp_iff_isLeast _ _ (confirmProbe_isSome_iff h e)]
  simp only [confirmProbe_eq_some_iff, Nat.succ_le_iff, Nat.lt_add_one_iff, le_min_iff, and_assoc]
  constructor
  · intro hscan
    rcases hscan with ⟨k, hleast, fwd, hfwd, _, hob⟩
    exact ⟨k, fwd, hleast, hfwd, hob⟩
  · intro hfound
    rcases hfound with ⟨k, fwd, hleast, hfwd, hob⟩
    rcases (displaces_iff h k).mp hleast.1.2.2.2 with ⟨fwd', hfwd', hmove⟩
    rw [hfwd] at hfwd'
    cases hfwd'
    exact ⟨k, hleast, fwd, hfwd, hmove, hob⟩

theorem mem_detectOrderBlocks_iff : ob ∈ detectOrderBlocks candles options <->
    exists i c due k fwd, 1 ≤ i ∧ Opposing candles options i c due ∧
      Confirms candles options i k ∧ candles[k]? = some fwd ∧
      ob = makeOb candles c i (decide (c.close < c.open_)) (moveAway c fwd)
        (windowEnd candles options.endIdx) := by
  unfold detectOrderBlocks
  rw [List.mem_filterMap]
  constructor
  · intro h
    rcases h with ⟨i, hi, h⟩
    rcases obAt_eq_some_iff.mp h with ⟨c, due, hopp, hscan⟩
    rcases (scanUp_confirmProbe_iff hopp _).mp hscan with ⟨k, fwd, hconf, hfwd, hob⟩
    rw [List.mem_range'_1] at hi
    exact ⟨i, c, due, k, fwd, hi.1, hopp, hconf, hfwd, hob⟩
  · intro h
    rcases h with ⟨i, c, due, k, fwd, hi, hopp, hconf, hfwd, hob⟩
    refine ⟨i, ?_, obAt_eq_some_iff.mpr ⟨c, due, hopp, ?_⟩⟩
    · have hlate := hconf.1.1
      have hreach : k ≤ windowEnd candles options.endIdx := hconf.1.2.2.1
      unfold windowEnd at hreach
      rw [List.mem_range'_1]
      omega
    · exact (scanUp_confirmProbe_iff hopp _).mpr ⟨k, fwd, hconf, hfwd, hob⟩

theorem detectOrderBlocks_ascending (candles : List BacktestCandle) (options : DetectObOptions) :
    (detectOrderBlocks candles options).Pairwise fun a b => a.candleIdx < b.candleIdx := by
  refine pairwise_filterMap_range' ?_ _ _
  intro i ob h
  rcases obAt_eq_some_iff.mp h with ⟨c, due, _, hscan⟩
  rcases scanUp_eq_some_iff.mp hscan with ⟨k, _, _, hhit, _⟩
  rcases confirmProbe_eq_some_iff.mp hhit with ⟨fwd, _, _, rfl⟩
  rfl

theorem mitigatedAtIdx_of_mem (h : ob ∈ detectOrderBlocks candles options) :
    exists c k, 1 ≤ ob.candleIdx ∧ candles[ob.candleIdx]? = some c ∧
      Confirms candles options ob.candleIdx k ∧ ob.zone = blockZone c ∧
      ob.mitigatedAtIdx = mitigationIdx candles (blockZone c) (ob.candleIdx + 2)
        (windowEnd candles options.endIdx) := by
  rcases mem_detectOrderBlocks_iff.mp h with ⟨i, c, due, k, fwd, hi, hopp, hconf, _, rfl⟩
  rcases hopp with ⟨localAtr, hc, _⟩
  exact ⟨c, k, hi, hc, hconf, rfl, rfl⟩

theorem Confirms.exists_block {k : Nat} (h : Confirms candles options i k) (hi : 1 ≤ i) :
    exists ob, ob ∈ detectOrderBlocks candles options ∧ ob.candleIdx = i := by
  rcases h.1.2.2.2 with ⟨c, due, fwd, hopp, hfwd, _⟩
  exact ⟨_, mem_detectOrderBlocks_iff.mpr ⟨i, c, due, k, fwd, hi, hopp, h, hfwd, rfl⟩, rfl⟩

end Blocks

/-- The blocks are mitigated behind their impulse only, if and only if the candles are quiet
until each block is confirmed. -/
theorem mitigatedAfterImpulse_iff (candles : List BacktestCandle) (options : DetectObOptions) :
    (forall ob, ob ∈ detectOrderBlocks candles options ->
        MitigatedAfterImpulse candles options ob) <->
      QuietUntilConfirmed candles options := by
  constructor
  · intro h i c k hi hc hconf m hlo hhi hre
    rcases hconf.exists_block hi with ⟨ob, hob, rfl⟩
    rcases mitigatedAtIdx_of_mem hob with ⟨c', _, _, hc', _, _, hmit⟩
    rw [hc] at hc'
    cases hc'
    rcases h ob hob with ⟨k', hconf', hafter, _⟩
    have hsome : (mitigationIdx candles (blockZone c) (ob.candleIdx + 2)
        (windowEnd candles options.endIdx)).isSome = true :=
      mitigationIdx_isSome_iff.mpr ⟨m, hlo, hhi.trans hconf.1.2.2.1, hre⟩
    rcases Option.isSome_iff_exists.mp hsome with ⟨first, hfirst⟩
    have hearly : first ≤ m :=
      (mitigationIdx_iff.mp hfirst).2 ⟨hlo, hhi.trans hconf.1.2.2.1, hre⟩
    have hlate := hafter first (hmit.trans hfirst)
    rw [hconf'.unique hconf] at hlate
    omega
  · intro h ob hob
    rcases mitigatedAtIdx_of_mem hob with ⟨c, k, hi, hc, hconf, hzone, hmit⟩
    have hbehind : forall m, ob.candleIdx + 2 ≤ m -> Reenters candles (blockZone c) m -> k < m := by
      intro m hlo hre
      by_contra hle
      exact h ob.candleIdx c k hi hc hconf m hlo (not_lt.mp hle) hre
    refine ⟨k, hconf, ?_, ?_⟩
    · intro m hm
      rw [hmit, mitigationIdx_iff] at hm
      exact hbehind m hm.1.1 hm.1.2.2
    · rw [hmit, hzone, mitigationIdx_isSome_iff]
      constructor
      · intro hre
        rcases hre with ⟨m, hlo, hhi, hre⟩
        exact ⟨m, hbehind m hlo hre, hhi, hre⟩
      · intro hre
        rcases hre with ⟨m, hlo, hhi, hre⟩
        have hpast := hconf.1.1
        exact ⟨m, by omega, hhi, hre⟩

def slowImpulse : List BacktestCandle :=
  [⟨0, 10, 11, 9, 10⟩, ⟨msPerHour, 10, 11, 8, 9⟩, ⟨2 * msPerHour, 9, 10, 9, 10⟩,
    ⟨3 * msPerHour, 10, 11, 10, 11⟩, ⟨4 * msPerHour, 11, 14, 12, 14⟩]

def slowImpulseOptions : DetectObOptions :=
  { atr := [some 3, some 3, some 3, some 3, some 3] }

/-- The block counts as mitigated before the impulse that makes it one. -/
theorem not_mitigatedAfterImpulse_slowImpulse :
    ¬ forall ob, ob ∈ detectOrderBlocks slowImpulse slowImpulseOptions ->
      MitigatedAfterImpulse slowImpulse slowImpulseOptions ob := by
  intro h
  have hblock : exists ob, ob ∈ detectOrderBlocks slowImpulse slowImpulseOptions ∧
      ob.candleIdx = 1 ∧ ob.mitigatedAtIdx = some 3 := by
    decide +kernel
  rcases hblock with ⟨ob, hob, hindex, hmit⟩
  rcases h ob hob with ⟨k, hconf, hafter, _⟩
  have hlate := hconf.1.1
  have hearly := hafter 3 hmit
  have hk : k = 2 := by omega
  rcases hconf.1.2.2.2 with ⟨c, due, fwd, ⟨localAtr, hc, hatr, _, hdue⟩, hfwd, hmove⟩
  rw [hindex] at hc hatr
  rw [hk] at hfwd
  cases hc
  cases hatr
  cases hfwd
  rw [hdue] at hmove
  exact absurd hmove (by decide +kernel)

end Engine
end Shamarx
