import Shamarx.Orchestrator.CatchUp

/-!
# The bar a setup names

A setup keeps the index of its sweep in the window of the call that found it, beside the
time of the bar.  Later calls read the window at that index.  It is the bar of the sweep as
long as the window starts where it started then.
-/

namespace Shamarx
namespace Orchestrator

open Foundation
open Engine

/-!
# What a call looks at
-/

def callFrame (env : EngineEnv) (b : CandleBundle)
    (precomputed : Option PrecomputedIndicators) : Option Frame :=
  if b.m15.length < 30 ∨ b.h1.length < 30 then none
  else
    b.m15[b.m15.length - 1]?.map
      (makeFrame b (callIndicators env b precomputed) (Cursor.full b))

def CallOf (env : EngineEnv) (symbol : Instrument) (b : CandleBundle)
    (precomputed : Option PrecomputedIndicators) (cfg : SmcPairConfig) (f : Frame) : Prop :=
  getSmcPairConfig env.overrides symbol = some cfg ∧ callFrame env b precomputed = some f

def foundSetups (cfg : SmcPairConfig) (f : Frame) (s : OrchestratorState) : List PendingSetup :=
  (unprocessedIdxs f.candles.h1 f.h1Len s.lastProcessedH1Time).filterMap
    (admittedSetup cfg f s.actionedSweeps)

/-- The setups that the pass over the queue judges: up to the first that ends it. -/
def judgedBy (judgeOf : PendingSetup -> Verdict) : List PendingSetup -> List PendingSetup
  | [] => []
  | setup :: older =>
      match judgeOf setup with
      | .keep => setup :: judgedBy judgeOf older
      | .drop => setup :: judgedBy judgeOf older
      | .fire _ => [setup]
      | .throw _ => [setup]

/-- The setups that a call judges: none before the trade gates are passed. -/
def judgedSetups (env : EngineEnv) (symbol : Instrument) (cfg : SmcPairConfig) (f : Frame)
    (ctx : LiveContext) (s : OrchestratorState) : List PendingSetup :=
  let s := expireStep f (detectStep cfg f s)
  if 0 < s.cooldownBarsRemaining ∨ EntryClosed cfg f.lastM15.openTime ∨
      (s.riskManager.canTrade f.lastM15.openTime ctx.totalOpenPositions).2 = false then []
  else judgedBy (judge env symbol cfg f ctx s.actionedSweeps) s.pending.reverse

structure ReachesGates (symbol : Instrument) (cfg : SmcPairConfig) (f : Frame) (ctx : LiveContext)
    (actionedSweeps : List Int) (setup : PendingSetup) : Prop where
  side_free : setup.direction ∉ ctx.openDirections
  unactioned : setup.sweepTime ∉ actionedSweeps
  slPoints_pos : 0 < (planEntry symbol cfg f setup).slPoints
  not_loose : ¬ LooseStop cfg setup (planEntry symbol cfg f setup)
  protective : SlProtective setup (planEntry symbol cfg f setup)
  not_wide : ¬ WideStop cfg (m15AtrOf f) (planEntry symbol cfg f setup)

def BeforeBosPass (cfg : SmcPairConfig) (f : Frame) (setup : PendingSetup) (entryPrice : ℚ) :
    Prop :=
  (runGate cfg.useFvgGate
    (hasSupportingFvg f.candles.m15 setup.direction entryPrice
      (cfg.fvgGateMaxDistanceAtr.getD (15 / 10)) f.m15Indicators.atr14 (f.m15Len - 1))).isSome ∧
  (runGate cfg.useObGate
    (hasSupportingOb f.candles.h1 setup.direction entryPrice
      (cfg.obGateMaxDistanceAtr.getD 2) f.h1Indicators.atr14 (f.h1Len - 1))).isSome

/-- The gate on the break of structure or the ones on the swept level are evaluated, at the
index of the setup. -/
def GatesAtIndex (cfg : SmcPairConfig) (f : Frame) (setup : PendingSetup) (entryPrice : ℚ) :
    Prop :=
  (cfg.useBosGate = true ∧ BeforeBosPass cfg f setup entryPrice) ∨
    (needsSweptIdx cfg = true ∧ (entryGates cfg f setup entryPrice).isSome)

def FiresSetup (env : EngineEnv) (o : LiveSmcOrchestrator) (symbol : Instrument)
    (b : CandleBundle) (precomputed : Option PrecomputedIndicators) (ctx : LiveContext)
    (setup : PendingSetup) (signal : SmcLiveSignal) : Prop :=
  exists cfg f, CallOf env symbol b precomputed cfg f ∧
    setup ∈ judgedSetups env symbol cfg f ctx (o.getOrCreateState symbol) ∧
    judge env symbol cfg f ctx (o.getOrCreateState symbol).actionedSweeps setup = .fire signal

def GatesSetup (env : EngineEnv) (o : LiveSmcOrchestrator) (symbol : Instrument)
    (b : CandleBundle) (precomputed : Option PrecomputedIndicators) (ctx : LiveContext)
    (setup : PendingSetup) : Prop :=
  exists cfg f, CallOf env symbol b precomputed cfg f ∧
    setup ∈ judgedSetups env symbol cfg f ctx (o.getOrCreateState symbol) ∧
    ReachesGates symbol cfg f ctx (o.getOrCreateState symbol).actionedSweeps setup ∧
    GatesAtIndex cfg f setup (planEntry symbol cfg f setup).entryPrice

/-!
# The call as it returns
-/

theorem fireLoop_fired_iff {judgeOf : PendingSetup -> Verdict} {queue : List PendingSetup}
    {signal : SmcLiveSignal} :
    (fireLoop judgeOf queue).2 = .ok (some signal) ↔
      exists setup, setup ∈ judgedBy judgeOf queue ∧ judgeOf setup = .fire signal := by
  induction queue with
  | nil =>
      simp [fireLoop, judgedBy]
  | cons setup older ih =>
      cases hjudge : judgeOf setup with
      | keep =>
          simp [fireLoop, judgedBy, hjudge, ih]
      | drop =>
          simp [fireLoop, judgedBy, hjudge, ih]
      | fire found =>
          simp [fireLoop, judgedBy, hjudge]
      | throw e =>
          simp [fireLoop, judgedBy, hjudge]

theorem mem_judgedBy {judgeOf : PendingSetup -> Verdict} {queue : List PendingSetup}
    {setup : PendingSetup} (h : setup ∈ judgedBy judgeOf queue) : setup ∈ queue := by
  induction queue with
  | nil =>
      exact h
  | cons first older ih =>
      rw [judgedBy] at h
      split at h
      · exact List.mem_cons.mpr ((List.mem_cons.mp h).imp_right ih)
      · exact List.mem_cons.mpr ((List.mem_cons.mp h).imp_right ih)
      · exact List.mem_cons.mpr (Or.inl (List.mem_singleton.mp h))
      · exact List.mem_cons.mpr (Or.inl (List.mem_singleton.mp h))

theorem mem_judgedSetups {env : EngineEnv} {symbol : Instrument} {cfg : SmcPairConfig}
    {f : Frame} {ctx : LiveContext} {s : OrchestratorState} {setup : PendingSetup}
    (h : setup ∈ judgedSetups env symbol cfg f ctx s) :
    setup ∈ s.pending ++ foundSetups cfg f s := by
  rw [foundSetups, <- detectStep_pending]
  unfold judgedSetups at h
  dsimp only at h
  split_ifs at h
  · cases h
  · exact List.mem_of_mem_filter (List.mem_reverse.mp (mem_judgedBy h))

theorem evaluateState_fired_iff {env : EngineEnv} {symbol : Instrument} {cfg : SmcPairConfig}
    {f : Frame} {ctx : LiveContext} {s : OrchestratorState} {signal : SmcLiveSignal} :
    (evaluateState env symbol cfg f ctx s).2 = .ok (some signal) ↔
      exists setup, setup ∈ judgedSetups env symbol cfg f ctx s ∧
        judge env symbol cfg f ctx s.actionedSweeps setup = .fire signal := by
  have hactioned : (expireStep f (detectStep cfg f s)).actionedSweeps = s.actionedSweeps :=
    detectStep_actionedSweeps cfg f s
  rw [evaluateState, judgedSetups, gateStep, <- hactioned]
  dsimp only
  generalize expireStep f (detectStep cfg f s) = q
  by_cases hcooldown : 0 < q.cooldownBarsRemaining
  · simp [hcooldown]
  · by_cases hclosed : EntryClosed cfg f.lastM15.openTime
    · simp [hcooldown, hclosed]
    · cases hgate : (q.riskManager.canTrade f.lastM15.openTime ctx.totalOpenPositions).2 with
      | false =>
          simp [hcooldown, hclosed]
      | true =>
          rw [if_neg hcooldown, if_neg hclosed, if_pos rfl, if_neg (by simp [hcooldown, hclosed])]
          exact fireLoop_fired_iff

section Call

variable {env : EngineEnv} {symbol : Instrument} {b : CandleBundle}
  {precomputed : Option PrecomputedIndicators} {cfg : SmcPairConfig} {f : Frame}

theorem CallOf.h1_eq (h : CallOf env symbol b precomputed cfg f) : f.candles.h1 = b.h1 := by
  rcases h with ⟨-, hframe⟩
  unfold callFrame at hframe
  split_ifs at hframe
  rcases Option.map_eq_some_iff.mp hframe with ⟨lastM15, -, rfl⟩
  rfl

theorem CallOf.evaluate_eq (h : CallOf env symbol b precomputed cfg f) (o : LiveSmcOrchestrator)
    (ctx : LiveContext) :
    evaluate env o symbol b ctx precomputed none =
      (o.setState symbol (evaluateState env symbol cfg f ctx (o.getOrCreateState symbol)).1,
        (evaluateState env symbol cfg f ctx (o.getOrCreateState symbol)).2) := by
  rcases h with ⟨hcfg, hframe⟩
  unfold callFrame at hframe
  split_ifs at hframe with hguard
  rcases Option.map_eq_some_iff.mp hframe with ⟨lastM15, hlast, rfl⟩
  have hcursor : ¬ ((Cursor.full b).m15 < 30 ∨ (Cursor.full b).h1 < 30) := hguard
  have hbar : b.m15[(Cursor.full b).m15 - 1]? = some lastM15 := hlast
  rw [evaluate, Option.getD_none, evaluateAt, if_neg hcursor, hcfg]
  dsimp only
  rw [hbar]

theorem evaluate_of_not_call (h : forall cfg f, ¬ CallOf env symbol b precomputed cfg f)
    (o : LiveSmcOrchestrator) (ctx : LiveContext) :
    (evaluate env o symbol b ctx precomputed none).1.getOrCreateState symbol =
        o.getOrCreateState symbol ∧
      forall signal, (evaluate env o symbol b ctx precomputed none).2 ≠ .ok (some signal) := by
  rw [evaluate, Option.getD_none]
  by_cases hguard : (Cursor.full b).m15 < 30 ∨ (Cursor.full b).h1 < 30
  · rw [evaluateAt, if_pos hguard]
    exact ⟨rfl, fun _ hfired => by cases hfired⟩
  · cases hcfg : getSmcPairConfig env.overrides symbol with
    | none =>
        rw [evaluateAt, if_neg hguard, hcfg]
        exact ⟨rfl, fun _ hfired => by cases hfired⟩
    | some cfg =>
        have hguard' : ¬ (b.m15.length < 30 ∨ b.h1.length < 30) := hguard
        have hlt : b.m15.length - 1 < b.m15.length := by omega
        have hframe : callFrame env b precomputed =
            some (makeFrame b (callIndicators env b precomputed) (Cursor.full b)
              b.m15[b.m15.length - 1]) := by
          rw [callFrame, if_neg hguard', List.getElem?_eq_getElem hlt]
          rfl
        exact absurd ⟨hcfg, hframe⟩ (h cfg _)

theorem evaluate_fired_iff {o : LiveSmcOrchestrator} {ctx : LiveContext}
    {signal : SmcLiveSignal} :
    (evaluate env o symbol b ctx precomputed none).2 = .ok (some signal) ↔
      exists setup, FiresSetup env o symbol b precomputed ctx setup signal := by
  constructor
  · intro hfired
    by_cases hcall : exists cfg f, CallOf env symbol b precomputed cfg f
    · rcases hcall with ⟨cfg, f, hcall⟩
      rw [hcall.evaluate_eq] at hfired
      rcases evaluateState_fired_iff.mp hfired with ⟨setup, hmem, hjudge⟩
      exact ⟨setup, cfg, f, hcall, hmem, hjudge⟩
    · have hnone := (evaluate_of_not_call (fun cfg f h => hcall ⟨cfg, f, h⟩) o ctx).2 signal
      exact absurd hfired hnone
  · intro hfires
    rcases hfires with ⟨setup, cfg, f, hcall, hmem, hjudge⟩
    rw [hcall.evaluate_eq]
    exact evaluateState_fired_iff.mpr ⟨setup, hmem, hjudge⟩

end Call

/-!
# Where a setup was found
-/

structure FoundSetup where
  symbol : Instrument
  setup : PendingSetup
  closed : Nat

structure SweepRun where
  orchestrator : LiveSmcOrchestrator
  closed : Instrument -> Nat
  found : List FoundSetup

inductive SweepOp where
  | evaluate (symbol : Instrument) (newBars : Nat) (m15 d1 : List BacktestCandle)
      (ctx : LiveContext) (precomputed : Option PrecomputedIndicators)
  | recordEntry (symbol : Instrument) (h1SweepTime : Int)
  | recordExit (symbol : Instrument) (exitReason : ExitKind) (exitTime : Int)
      (pnl : Option ℚ)
  | restart

def startSweeps (cfg : DefaultRiskCfg) : SweepRun :=
  { orchestrator := LiveSmcOrchestrator.create cfg, closed := fun _ => 0, found := [] }

def foundBy (env : EngineEnv) (o : LiveSmcOrchestrator) (symbol : Instrument)
    (b : CandleBundle) (precomputed : Option PrecomputedIndicators) : List PendingSetup :=
  match getSmcPairConfig env.overrides symbol, callFrame env b precomputed with
  | some cfg, some f => foundSetups cfg f (o.getOrCreateState symbol)
  | _, _ => []

def sweepStep (env : EngineEnv) (hist : Instrument -> Nat -> BacktestCandle) (r : SweepRun) :
    SweepOp -> SweepRun
  | .evaluate symbol newBars m15 d1 ctx precomputed =>
      let n := r.closed symbol + newBars
      let b := callBundle hist symbol n m15 d1
      { orchestrator := (evaluate env r.orchestrator symbol b ctx precomputed none).1
        closed := fun s => if s = symbol then n else r.closed s
        found := r.found ++ (foundBy env r.orchestrator symbol b precomputed).map fun setup =>
          { symbol := symbol, setup := setup, closed := n } }
  | .recordEntry symbol h1SweepTime =>
      { r with orchestrator := r.orchestrator.recordEntry symbol h1SweepTime }
  | .recordExit symbol exitReason exitTime pnl =>
      { r with
        orchestrator :=
          (LiveSmcOrchestrator.recordExit env r.orchestrator symbol exitReason exitTime pnl).1 }
  | .restart => { r with orchestrator := r.orchestrator.restart }

def NamesSweep (hist : Instrument -> Nat -> BacktestCandle) (symbol : Instrument)
    (p : PendingSetup) (n : Nat) : Prop :=
  exists bar, (rollingWindow (hist symbol) n)[p.detectedAtH1Idx]? = some bar ∧
    bar.openTime = p.sweepTime

structure Traced (hist : Instrument -> Nat -> BacktestCandle) (r : SweepRun) : Prop where
  queued : forall symbol p, p ∈ (r.orchestrator.getOrCreateState symbol).pending ->
    exists n, FoundSetup.mk symbol p n ∈ r.found
  names : forall symbol p n, FoundSetup.mk symbol p n ∈ r.found ->
    n ≤ r.closed symbol ∧ NamesSweep hist symbol p n

/-!
# The bar at the index of a setup
-/

theorem NamesSweep.bar {hist : Instrument -> Nat -> BacktestCandle} {symbol : Instrument}
    {p : PendingSetup} {n : Nat} (h : NamesSweep hist symbol p n) :
    n - h1Buffer + p.detectedAtH1Idx < n ∧
      p.sweepTime = (hist symbol (n - h1Buffer + p.detectedAtH1Idx)).openTime := by
  rcases h with ⟨bar, hbar, htime⟩
  rcases rollingWindow_getElem? hbar with ⟨hlt, rfl⟩
  exact ⟨hlt, htime.symm⟩

theorem openTime_inj {hist : Nat -> BacktestCandle} (hord : TimeOrdered hist) {i j : Nat}
    (h : (hist i).openTime = (hist j).openTime) : i = j := by
  have hij := (openTime_lt_iff hord i j).mpr
  have hji := (openTime_lt_iff hord j i).mpr
  omega

theorem rollingWindow_bar (hist : Nat -> BacktestCandle) {n i : Nat}
    (h : n - h1Buffer + i < n) :
    (rollingWindow hist n)[i]? = some (hist (n - h1Buffer + i)) := by
  rw [rollingWindow, List.getElem?_drop, closedBars_getElem? hist h]

theorem NamesSweep.later_bar {hist : Instrument -> Nat -> BacktestCandle} {symbol : Instrument}
    {p : PendingSetup} {n later : Nat} (h : NamesSweep hist symbol p n) (hle : n ≤ later) :
    (rollingWindow (hist symbol) later)[p.detectedAtH1Idx]? =
      some (hist symbol (later - h1Buffer + p.detectedAtH1Idx)) := by
  have hlt := h.bar.1
  exact rollingWindow_bar _ (by omega)

theorem NamesSweep.later_iff {hist : Instrument -> Nat -> BacktestCandle}
    {symbol : Instrument} (hord : TimeOrdered (hist symbol)) {p : PendingSetup} {n later : Nat}
    (h : NamesSweep hist symbol p n) (hle : n ≤ later) :
    NamesSweep hist symbol p later ↔ later ≤ h1Buffer ∨ n = later := by
  have htime := h.bar.2
  constructor
  · intro hlater
    have hsame : n - h1Buffer + p.detectedAtH1Idx = later - h1Buffer + p.detectedAtH1Idx :=
      openTime_inj hord (htime.symm.trans hlater.bar.2)
    omega
  · intro hroll
    refine ⟨_, h.later_bar hle, ?_⟩
    have hstart : later - h1Buffer = n - h1Buffer := by omega
    rw [htime, hstart]

/-!
# Queued setups are traced
-/

section Queue

variable {env : EngineEnv} {hist : Instrument -> Nat -> BacktestCandle}
  {o : LiveSmcOrchestrator} {symbol : Instrument} {b : CandleBundle}
  {precomputed : Option PrecomputedIndicators} {ctx : LiveContext} {p : PendingSetup}

theorem foundBy_of_call {cfg : SmcPairConfig} {f : Frame}
    (h : CallOf env symbol b precomputed cfg f) (o : LiveSmcOrchestrator) :
    foundBy env o symbol b precomputed = foundSetups cfg f (o.getOrCreateState symbol) := by
  rw [foundBy, h.1, h.2]

theorem foundBy_namesSweep {n : Nat} {m15 d1 : List BacktestCandle}
    (h : p ∈ foundBy env o symbol (callBundle hist symbol n m15 d1) precomputed) :
    NamesSweep hist symbol p n := by
  unfold foundBy at h
  split at h
  · next cfg f hcfg hframe =>
      rcases List.mem_filterMap.mp h with ⟨idx, -, hadmit⟩
      rcases admittedSetup_madeAt hadmit with ⟨hdet, -, bar, hbar, htime⟩
      rw [CallOf.h1_eq ⟨hcfg, hframe⟩, <- hdet] at hbar
      exact ⟨bar, hbar, htime.symm⟩
  · cases h

theorem mem_pending_evaluate
    (h : p ∈ ((evaluate env o symbol b ctx precomputed none).1.getOrCreateState symbol).pending) :
    p ∈ (o.getOrCreateState symbol).pending ++ foundBy env o symbol b precomputed := by
  by_cases hcall : exists cfg f, CallOf env symbol b precomputed cfg f
  · rcases hcall with ⟨cfg, f, hcall⟩
    rw [hcall.evaluate_eq, o.getOrCreateState_setState] at h
    rw [foundBy_of_call hcall]
    exact (evaluateState_pending_sublist env symbol cfg f ctx _).subset h
  · rw [(evaluate_of_not_call (fun cfg f h => hcall ⟨cfg, f, h⟩) o ctx).1] at h
    exact List.mem_append_left _ h

theorem StateMove.mem_pending {op : OrchestratorOp} {s : OrchestratorState}
    (hmove : StateMove env o symbol op s) (hp : p ∈ s.pending) :
    p ∈ (o.getOrCreateState symbol).pending ∨
      exists b ctx precomputed, exists cursor : Option (Cursor b),
        op = .evaluate symbol b ctx precomputed cursor := by
  cases hmove with
  | untouched =>
      exact Or.inl hp
  | evaluated =>
      exact Or.inr ⟨_, _, _, _, rfl⟩
  | entered t =>
      exact Or.inl (List.mem_of_mem_filter hp)
  | exited kind t pnl =>
      exact Or.inl hp
  | restarted =>
      rw [restoreState_pending] at hp
      exact Or.inl hp

end Queue

theorem startSweeps_traced (hist : Instrument -> Nat -> BacktestCandle)
    (cfg : DefaultRiskCfg) : Traced hist (startSweeps cfg) where
  queued symbol p hp := by
    cases hp
  names symbol p n hfound := by
    cases hfound

theorem Traced.of_pending_subset {hist : Instrument -> Nat -> BacktestCandle} {r : SweepRun}
    (h : Traced hist r) {o : LiveSmcOrchestrator}
    (hsub : forall symbol p, p ∈ (o.getOrCreateState symbol).pending ->
      p ∈ (r.orchestrator.getOrCreateState symbol).pending) :
    Traced hist { r with orchestrator := o } where
  queued symbol p hp := h.queued symbol p (hsub symbol p hp)
  names := h.names

theorem Traced.evaluate {env : EngineEnv} {hist : Instrument -> Nat -> BacktestCandle}
    {r : SweepRun} (h : Traced hist r) (symbol : Instrument) (newBars : Nat)
    (m15 d1 : List BacktestCandle) (ctx : LiveContext)
    (precomputed : Option PrecomputedIndicators) :
    Traced hist (sweepStep env hist r (.evaluate symbol newBars m15 d1 ctx precomputed)) where
  queued other p hp := by
    by_cases hne : other = symbol
    · subst hne
      rcases List.mem_append.mp (mem_pending_evaluate hp) with hold | hnew
      · rcases h.queued other p hold with ⟨n, hn⟩
        exact ⟨n, List.mem_append_left _ hn⟩
      · exact ⟨_, List.mem_append_right _ (List.mem_map_of_mem hnew)⟩
    · have hp' : p ∈ ((evaluateAt env r.orchestrator symbol
          (callBundle hist symbol (r.closed symbol + newBars) m15 d1) ctx precomputed
          (Cursor.full _)).1.getOrCreateState other).pending := hp
      rw [evaluateAt_getOrCreateState_of_ne env r.orchestrator hne] at hp'
      rcases h.queued other p hp' with ⟨n, hn⟩
      exact ⟨n, List.mem_append_left _ hn⟩
  names other p n hfound := by
    have hgrows : r.closed other ≤ (sweepStep env hist r
        (.evaluate symbol newBars m15 d1 ctx precomputed)).closed other := by
      simp only [sweepStep]
      split_ifs with hsame
      · rw [hsame]
        omega
      · exact le_refl _
    rcases List.mem_append.mp hfound with hold | hnew
    · rcases h.names other p n hold with ⟨hle, hnames⟩
      exact ⟨hle.trans hgrows, hnames⟩
    · rcases List.mem_map.mp hnew with ⟨setup, hsetup, heq⟩
      cases heq
      refine ⟨?_, foundBy_namesSweep hsetup⟩
      simp [sweepStep]

theorem sweepStep_traced {env : EngineEnv} {hist : Instrument -> Nat -> BacktestCandle}
    {r : SweepRun} (op : SweepOp) (h : Traced hist r) : Traced hist (sweepStep env hist r op) := by
  have hkeeps : forall call : OrchestratorOp,
      (forall symbol b ctx precomputed, forall cursor : Option (Cursor b),
        call ≠ .evaluate symbol b ctx precomputed cursor) ->
      Traced hist { r with orchestrator := orchestratorStep env r.orchestrator call } := by
    intro call hcall
    refine h.of_pending_subset fun symbol p hp => ?_
    rcases (orchestratorStep_move env r.orchestrator call symbol).mem_pending hp with
      hold | ⟨b, ctx, precomputed, cursor, hop⟩
    · exact hold
    · exact absurd hop (hcall _ _ _ _ _)
  cases op with
  | evaluate symbol newBars m15 d1 ctx precomputed =>
      exact h.evaluate symbol newBars m15 d1 ctx precomputed
  | recordEntry symbol t =>
      exact hkeeps (.recordEntry symbol t) (by simp)
  | recordExit symbol kind t pnl =>
      exact hkeeps (.recordExit symbol kind t pnl) (by simp)
  | restart =>
      exact hkeeps .restart (by simp)

/-!
# The context of a signal
-/

/-- Every context of a returned signal names the sweep of the signal, and the gates are
evaluated at the bar of the sweep. -/
def NamesOwnSweep (env : EngineEnv) (hist : Instrument -> Nat -> BacktestCandle)
    (r : SweepRun) : SweepOp -> Prop
  | .evaluate symbol newBars m15 d1 ctx precomputed =>
      let b := callBundle hist symbol (r.closed symbol + newBars) m15 d1
      (forall signal context,
        (evaluate env r.orchestrator symbol b ctx precomputed none).2 = .ok (some signal) ->
        signal.smcContext = some context -> context.sweepCandleTime = signal.h1SweepTime) ∧
      forall setup, GatesSetup env r.orchestrator symbol b precomputed ctx setup ->
        exists bar, b.h1[setup.detectedAtH1Idx]? = some bar ∧ bar.openTime = setup.sweepTime
  | _ => True

def UsesIndex (env : EngineEnv) (o : LiveSmcOrchestrator) (symbol : Instrument)
    (b : CandleBundle) (precomputed : Option PrecomputedIndicators) (ctx : LiveContext)
    (setup : PendingSetup) : Prop :=
  (exists signal, FiresSetup env o symbol b precomputed ctx setup signal) ∨
    GatesSetup env o symbol b precomputed ctx setup

/-- The buffer does not roll yet, or no bar has closed since the queued setups that the call
uses were found. -/
def IndexCurrent (env : EngineEnv) (hist : Instrument -> Nat -> BacktestCandle)
    (r : SweepRun) : SweepOp -> Prop
  | .evaluate symbol newBars m15 d1 ctx precomputed =>
      let n := r.closed symbol + newBars
      n ≤ h1Buffer ∨
        forall setup, setup ∈ (r.orchestrator.getOrCreateState symbol).pending ->
          UsesIndex env r.orchestrator symbol (callBundle hist symbol n m15 d1) precomputed ctx
            setup ->
          FoundSetup.mk symbol setup n ∈ r.found
  | _ => True

section Context

variable {env : EngineEnv} {hist : Instrument -> Nat -> BacktestCandle}
  {symbol : Instrument} {precomputed : Option PrecomputedIndicators} {ctx : LiveContext}
  {setup : PendingSetup} {signal : SmcLiveSignal}

theorem UsesIndex.mem {o : LiveSmcOrchestrator} {b : CandleBundle}
    (h : UsesIndex env o symbol b precomputed ctx setup) :
    setup ∈ (o.getOrCreateState symbol).pending ++ foundBy env o symbol b precomputed := by
  rcases h with ⟨signal, cfg, f, hcall, hmem, -⟩ | ⟨cfg, f, hcall, hmem, -⟩
  · rw [foundBy_of_call hcall]
    exact mem_judgedSetups hmem
  · rw [foundBy_of_call hcall]
    exact mem_judgedSetups hmem

theorem FiresSetup.context_iff {o : LiveSmcOrchestrator} {b : CandleBundle}
    (h : FiresSetup env o symbol b precomputed ctx setup signal) {bar : BacktestCandle}
    (hbar : b.h1[setup.detectedAtH1Idx]? = some bar) :
    (forall context, signal.smcContext = some context ->
      context.sweepCandleTime = signal.h1SweepTime) ↔ bar.openTime = setup.sweepTime := by
  rcases h with ⟨cfg, f, hcall, -, hfire⟩
  rcases (judge_fired hfire).built with ⟨gates, rfl⟩
  rw [<- hcall.h1_eq] at hbar
  simp [buildSignal, smcContextOf, hbar]

variable {r : SweepRun} {newBars : Nat} {m15 d1 : List BacktestCandle}

theorem Traced.bar (hr : Traced hist r)
    (hmem : setup ∈ (r.orchestrator.getOrCreateState symbol).pending ++
      foundBy env r.orchestrator symbol
        (callBundle hist symbol (r.closed symbol + newBars) m15 d1) precomputed) :
    exists bar, (rollingWindow (hist symbol)
      (r.closed symbol + newBars))[setup.detectedAtH1Idx]? = some bar := by
  rcases List.mem_append.mp hmem with hold | hnew
  · rcases hr.queued symbol setup hold with ⟨n, hfound⟩
    rcases hr.names symbol setup n hfound with ⟨hle, hnames⟩
    exact ⟨_, hnames.later_bar (by omega)⟩
  · rcases foundBy_namesSweep hnew with ⟨bar, hbar, -⟩
    exact ⟨bar, hbar⟩

theorem Traced.namesSweep_iff (hr : Traced hist r) (hord : TimeOrdered (hist symbol))
    (hmem : setup ∈ (r.orchestrator.getOrCreateState symbol).pending ++
      foundBy env r.orchestrator symbol
        (callBundle hist symbol (r.closed symbol + newBars) m15 d1) precomputed) :
    NamesSweep hist symbol setup (r.closed symbol + newBars) ↔
      r.closed symbol + newBars ≤ h1Buffer ∨
        (setup ∈ (r.orchestrator.getOrCreateState symbol).pending ->
          FoundSetup.mk symbol setup (r.closed symbol + newBars) ∈ r.found) := by
  by_cases hqueued : setup ∈ (r.orchestrator.getOrCreateState symbol).pending
  · rcases hr.queued symbol setup hqueued with ⟨n, hfound⟩
    rcases hr.names symbol setup n hfound with ⟨hle, hnames⟩
    have hlater := hnames.later_iff hord (show n ≤ r.closed symbol + newBars by omega)
    constructor
    · intro hnow
      rcases hlater.mp hnow with hroll | hsame
      · exact Or.inl hroll
      · rw [hsame] at hfound
        exact Or.inr fun _ => hfound
    · intro hcurrent
      rcases hcurrent with hroll | hsame
      · exact hlater.mpr (Or.inl hroll)
      · exact (hr.names symbol setup _ (hsame hqueued)).2
  · have hnow := foundBy_namesSweep ((List.mem_append.mp hmem).resolve_left hqueued)
    exact ⟨fun _ => Or.inr fun h => absurd h hqueued, fun _ => hnow⟩

theorem Traced.namesOwnSweep_iff (hr : Traced hist r) (hord : TimeOrdered (hist symbol)) :
    NamesOwnSweep env hist r (.evaluate symbol newBars m15 d1 ctx precomputed) ↔
      IndexCurrent env hist r (.evaluate symbol newBars m15 d1 ctx precomputed) := by
  constructor
  · intro hown
    rcases hown with ⟨hcontext, hgates⟩
    by_cases hroll : r.closed symbol + newBars ≤ h1Buffer
    · exact Or.inl hroll
    · refine Or.inr fun setup hqueued huses => ?_
      rcases hr.bar huses.mem with ⟨bar, hbar⟩
      have hnames : NamesSweep hist symbol setup (r.closed symbol + newBars) := by
        rcases huses with ⟨signal, hfires⟩ | hgated
        · have hsignal := hcontext signal
          exact ⟨bar, hbar, (hfires.context_iff hbar).mp fun context =>
            hsignal context (evaluate_fired_iff.mpr ⟨setup, hfires⟩)⟩
        · exact hgates setup hgated
      exact ((hr.namesSweep_iff hord huses.mem).mp hnames).resolve_left hroll hqueued
  · intro hcurrent
    have hnames : forall setup, UsesIndex env r.orchestrator symbol
        (callBundle hist symbol (r.closed symbol + newBars) m15 d1) precomputed ctx setup ->
        NamesSweep hist symbol setup (r.closed symbol + newBars) := by
      intro setup huses
      exact (hr.namesSweep_iff hord huses.mem).mpr
        (hcurrent.imp_right fun hfound hqueued => hfound setup hqueued huses)
    constructor
    · intro signal context hfired hcontext
      rcases evaluate_fired_iff.mp hfired with ⟨setup, hfires⟩
      rcases hnames setup (Or.inl ⟨signal, hfires⟩) with ⟨bar, hbar, htime⟩
      exact (hfires.context_iff hbar).mpr htime context hcontext
    · intro setup hgated
      exact hnames setup (Or.inr hgated)

end Context

/-- The contexts of a run name their sweeps, and its gates look at them, as long as no setup
is used that was found before the last bars closed, once the buffer rolls. -/
theorem contexts_name_sweeps_iff (env : EngineEnv) (hist : Instrument -> Nat -> BacktestCandle)
    (hord : forall symbol, TimeOrdered (hist symbol)) (cfg : DefaultRiskCfg)
    (ops : List SweepOp) :
    EveryStep (sweepStep env hist) (NamesOwnSweep env hist) (startSweeps cfg) ops ↔
      EveryStep (sweepStep env hist) (IndexCurrent env hist) (startSweeps cfg) ops := by
  refine everyStep_iff (Traced hist) (fun r op hr => ?_)
    (fun r op hr _ => sweepStep_traced op hr) (startSweeps_traced hist cfg) ops
  cases op with
  | evaluate symbol newBars m15 d1 ctx precomputed =>
      exact hr.namesOwnSweep_iff (hord symbol)
  | recordEntry symbol t =>
      exact Iff.rfl
  | recordExit symbol kind t pnl =>
      exact Iff.rfl
  | restart =>
      exact Iff.rfl

/-!
# A setup that waits for the next bar
-/

/-- Flat bars of every symbol; one wicks above the others. -/
def wickHistory (sweepAt : Nat) (_ : Instrument) (i : Nat) : BacktestCandle :=
  goldBar sweepAt i

theorem wickHistory_timeOrdered (sweepAt : Nat) (s : Instrument) :
    TimeOrdered (wickHistory sweepAt s) := by
  intro i j hij
  simp only [wickHistory, goldBar, msPerHour]
  omega

/-- A call right after the close of bar `n - 1`, near the top of the range. -/
def wickCall (n newBars : Nat) : SweepOp :=
  .evaluate .XAUUSD newBars (flatM15 2004 2 (goldStart + n * msPerHour)) goldD1 goldContext none

def contextOf (out : Except EngineError (Option SmcLiveSignal)) : Option (Int × Int) :=
  match out with
  | .ok (some signal) =>
      signal.smcContext.map fun context => (signal.h1SweepTime, context.sweepCandleTime)
  | _ => none

theorem contextOf_eq_some {out : Except EngineError (Option SmcLiveSignal)} {t u : Int}
    (h : contextOf out = some (t, u)) :
    exists signal context, out = .ok (some signal) ∧ signal.smcContext = some context ∧
      signal.h1SweepTime = t ∧ context.sweepCandleTime = u := by
  unfold contextOf at h
  split at h
  · next signal =>
      rcases Option.map_eq_some_iff.mp h with ⟨context, hcontext, hpair⟩
      cases hpair
      exact ⟨signal, context, rfl, hcontext, rfl, rfl⟩
  · cases h

set_option maxRecDepth 20000 in
/-- A setup that fires in the call that finds it has its own sweep in the context, with 514
bars closed. -/
theorem context_of_fresh_setup :
    EveryStep (sweepStep documentedEnv (wickHistory 512))
        (NamesOwnSweep documentedEnv (wickHistory 512)) (startSweeps standardRiskCfg)
        [wickCall 514 514] ∧
      contextOf (evaluate documentedEnv (LiveSmcOrchestrator.create standardRiskCfg) .XAUUSD
          (callBundle (wickHistory 512) .XAUUSD 514
            (flatM15 2004 2 (goldStart + (514 : Nat) * msPerHour)) goldD1)
          goldContext none none).2 =
        some (goldStart + 512 * msPerHour, goldStart + 512 * msPerHour) := by
  refine ⟨?_, by decide +kernel⟩
  refine (contexts_name_sweeps_iff documentedEnv (wickHistory 512) (wickHistory_timeOrdered 512)
    standardRiskCfg _).mpr ⟨Or.inr fun setup hqueued _ => ?_, trivial⟩
  cases hqueued

set_option maxRecDepth 20000 in
/-- Bar 511 is swept and found with 513 bars closed.  One bar later the setup fires, and its
context has the time of bar 512. -/
theorem context_names_next_bar :
    (forall s, TimeOrdered (wickHistory 511 s)) ∧
      ¬ EveryStep (sweepStep documentedEnv (wickHistory 511))
        (NamesOwnSweep documentedEnv (wickHistory 511)) (startSweeps standardRiskCfg)
        [wickCall 513 513, wickCall 514 1] := by
  refine ⟨wickHistory_timeOrdered 511, ?_⟩
  intro hevery
  rcases hevery with ⟨-, ⟨hcontext, -⟩, -⟩
  have hfires : contextOf (evaluate documentedEnv
      (sweepStep documentedEnv (wickHistory 511) (startSweeps standardRiskCfg)
        (wickCall 513 513)).orchestrator .XAUUSD
      (callBundle (wickHistory 511) .XAUUSD
        ((sweepStep documentedEnv (wickHistory 511) (startSweeps standardRiskCfg)
          (wickCall 513 513)).closed .XAUUSD + 1)
        (flatM15 2004 2 (goldStart + (514 : Nat) * msPerHour)) goldD1)
      goldContext none none).2 =
        some (goldStart + 511 * msPerHour, goldStart + 512 * msPerHour) := by
    decide +kernel
  rcases contextOf_eq_some hfires with ⟨signal, context, hfired, hsome, htime, hname⟩
  have hsame := hcontext signal context hfired hsome
  rw [htime, hname] at hsame
  exact absurd hsame (by decide)

end Orchestrator
end Shamarx
