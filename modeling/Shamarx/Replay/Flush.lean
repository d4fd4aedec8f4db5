import Shamarx.Replay.Conservation

/-!
# The flush at the end of a replay

The bundle holds the bars of the whole last day, the timeline ends with its first
bar, and the flush closes at the last bar of the bundle.  A position that is still
open then has been carried past the bars between the two without a look at them.
-/

namespace Shamarx
namespace Replay

open Foundation
open Engine
open Orchestrator

variable {env : EngineEnv} {cfg : ReplayConfig} {candles : ReplayCandles} {run : ReplayRun}
  {ev : ReplayEvent}

/-!
# Loaded candles
-/

theorem loadCandles_get (cfg : ReplayConfig) (store : Instrument -> StoredCandles) :
    forall symbol bundle, (loadCandles cfg store).entries.get symbol = some bundle ->
      bundle = loadBundle cfg (store symbol) := by
  refine runFrom_inv (fun candles : ReplayCandles => forall symbol bundle,
    candles.entries.get symbol = some bundle -> bundle = loadBundle cfg (store symbol)) ?_ ?_ _
  · intro candles pair hcandles symbol bundle hget
    by_cases hsame : symbol = pair
    · subst hsame
      rw [ReplayCandles.add, InsertionMap.get_set_self] at hget
      exact (Option.some.inj hget).symm
    · rw [ReplayCandles.add, InsertionMap.get_set_of_ne _ _ hsame] at hget
      exact hcandles symbol bundle hget
  · intro symbol bundle hget
    cases hget

theorem fetchTimeframe_sorted (rows : List BacktestCandle) (start end_ : Int) :
    (fetchTimeframe rows start end_).Pairwise fun a b => a.openTime ≤ b.openTime :=
  List.pairwise_insertionSort _ _

theorem openTime_le_last {store : Instrument -> StoredCandles} {symbol : Instrument}
    {bundle : CandleBundle} {bar last : BacktestCandle}
    (hget : (loadCandles cfg store).entries.get symbol = some bundle) (hbar : bar ∈ bundle.m15)
    (hlast : (loadCandles cfg store).lastM15 symbol = some last) :
    bar.openTime ≤ last.openTime := by
  rw [ReplayCandles.lastM15, hget, Option.bind_some] at hlast
  have hsorted : bundle.m15.Pairwise fun a b => a.openTime ≤ b.openTime := by
    rw [loadCandles_get cfg store symbol bundle hget]
    exact fetchTimeframe_sorted _ _ _
  rcases List.getLast?_eq_some_iff.mp hlast with ⟨front, hfront⟩
  rw [hfront] at hsorted hbar
  rcases List.mem_append.mp hbar with hearlier | hsame
  · exact (List.pairwise_append.mp hsorted).2.2 bar hearlier last (List.mem_singleton_self last)
  · rw [List.mem_singleton.mp hsame]

/-!
# Processed bars
-/

theorem entryStep_processed (env : EngineEnv) (cfg : ReplayConfig) (bundle : CandleBundle)
    (run : ReplayRun) (ev : ReplayEvent) :
    (entryStep env cfg bundle run ev).processed = run.processed := by
  have hmove := entryStep_move env cfg bundle run ev
  generalize entryStep env cfg bundle run ev = next at hmove ⊢
  cases hmove <;> rfl

theorem replayStep_processed {bundle : CandleBundle}
    (hget : candles.entries.get ev.symbol = some bundle)
    (hnone : (replayStep env cfg candles run ev).error = none) :
    run.error = none ∧ (replayStep env cfg candles run ev).processed = run.processed ++ [ev] := by
  unfold replayStep at hnone ⊢
  split_ifs at hnone ⊢ with herror hpair
  · rw [hnone] at herror
    cases herror
  · rw [Option.not_isSome_iff_eq_none] at herror
    refine ⟨herror, ?_⟩
    rw [hget]
    dsimp only
    rw [entryStep_processed]
    exact noteExits_processed env ev.symbol _ _
  · rw [hget] at hnone
    cases hnone

theorem run_processed {events : List ReplayEvent}
    (hget : forall ev, ev ∈ events -> exists bundle, candles.entries.get ev.symbol = some bundle)
    (hnone : (runFrom (replayStep env cfg candles) run events).error = none) :
    run.error = none ∧
      (runFrom (replayStep env cfg candles) run events).processed = run.processed ++ events := by
  induction events generalizing run with
  | nil =>
      exact ⟨hnone, (List.append_nil _).symm⟩
  | cons ev rest ih =>
      rcases hget ev List.mem_cons_self with ⟨bundle, hbundle⟩
      rcases ih (fun ev hev => hget ev (List.mem_cons_of_mem _ hev)) hnone with ⟨hstep, hrest⟩
      rcases replayStep_processed hbundle hstep with ⟨hrun, hprocessed⟩
      refine ⟨hrun, ?_⟩
      rw [runFrom_cons, hrest, hprocessed, List.append_assoc, List.singleton_append]

theorem replayLoop_processed (hnone : (replayLoop env cfg candles).error = none) :
    (replayLoop env cfg candles).processed = buildTimeline candles cfg.startMs cfg.endMs := by
  have hrun := run_processed (fun ev hev => by
    rcases mem_buildTimeline.mp hev with ⟨-, bundle, hget, -⟩
    exact ⟨bundle, hget⟩) hnone
  exact hrun.2

/-!
# Flushed positions
-/

theorem mem_flush_closed {symbols : List Instrument} {c : ClosedPosition} :
    c ∈ (runFrom (flushStep candles) run symbols).closed ↔
      c ∈ run.closed ∨ exists k last p, k ∈ symbols ∧ candles.lastM15 k = some last ∧
        p ∈ run.broker.positions.get k ∧
        c = SimulatedBroker.closePosition p last.close last.openTime .forcedClose := by
  induction symbols generalizing run with
  | nil =>
      simp [runFrom]
  | cons symbol rest ih =>
      rw [runFrom_cons, ih]
      constructor
      · rintro (hclosed | ⟨k, last, p, hk, hlast, hp, rfl⟩)
        · unfold flushStep at hclosed
          split at hclosed
          · exact Or.inl hclosed
          · next last hlast =>
              rcases List.mem_append.mp hclosed with hold | hnew
              · exact Or.inl hold
              · rcases List.mem_map.mp hnew with ⟨p, hp, rfl⟩
                exact Or.inr ⟨symbol, last, p, List.mem_cons_self, hlast, hp, rfl⟩
        · rw [flushStep_get] at hp
          split_ifs at hp
          · cases hp
          · exact Or.inr ⟨k, last, p, List.mem_cons_of_mem _ hk, hlast, hp, rfl⟩
      · rintro (hclosed | ⟨k, last, p, hk, hlast, hp, rfl⟩)
        · refine Or.inl ?_
          unfold flushStep
          split
          · exact hclosed
          · exact List.mem_append_left _ hclosed
        · by_cases hsame : k = symbol
          · subst hsame
            refine Or.inl ?_
            unfold flushStep
            rw [hlast]
            exact List.mem_append_right _ (List.mem_map.mpr ⟨p, hp, rfl⟩)
          · refine Or.inr ⟨k, last, p, (List.mem_cons.mp hk).resolve_left hsame, hlast, ?_, rfl⟩
            rw [flushStep_get, if_neg (fun h => hsame h.1)]
            exact hp

/-- No position that the flush closed had a bar of its symbol, after its entry bar and
up to its recorded close, that no call of `processCandle` has seen. -/
def HonestFlush (candles : ReplayCandles) (processed : List ReplayEvent)
    (closed : List ClosedPosition) : Prop :=
  forall c, c ∈ closed -> c.exitReason = .forcedClose ->
    forall bundle bar, candles.entries.get c.symbol = some bundle -> bar ∈ bundle.m15 ->
      c.entryTime < bar.openTime -> bar.openTime ≤ c.closedAt ->
        { symbol := c.symbol, candle := bar } ∈ processed

/-- No symbol with an open position has a bar after the end of the timeline. -/
def NoLateBars (candles : ReplayCandles) (endMs : Int) (broker : SimulatedBroker) : Prop :=
  forall symbol, broker.positions.get symbol ≠ [] ->
    forall bundle bar, candles.entries.get symbol = some bundle -> bar ∈ bundle.m15 ->
      bar.openTime ≤ endMs

/-- No position that the flush closed had a bar of its symbol, after its entry bar and
up to its recorded close, that reached its stop and that no call of `processCandle`
has seen. -/
def StopsSeen (candles : ReplayCandles) (processed : List ReplayEvent)
    (closed : List ClosedPosition) : Prop :=
  forall c, c ∈ closed -> c.exitReason = .forcedClose ->
    forall bundle bar, candles.entries.get c.symbol = some bundle -> bar ∈ bundle.m15 ->
      c.entryTime < bar.openTime -> bar.openTime ≤ c.closedAt ->
        SimulatedBroker.SlHit bar c.toSimulatedPosition ->
          { symbol := c.symbol, candle := bar } ∈ processed

/-- No bar after the end of the timeline reaches the stop of an open position. -/
def NoLateStops (candles : ReplayCandles) (endMs : Int) (broker : SimulatedBroker) : Prop :=
  forall symbol p, p ∈ broker.positions.get symbol ->
    forall bundle bar, candles.entries.get symbol = some bundle -> bar ∈ bundle.m15 ->
      SimulatedBroker.SlHit bar p -> bar.openTime ≤ endMs

theorem counted_bars_seen_iff {store : Instrument -> StoredCandles}
    (Counts : BacktestCandle -> SimulatedPosition -> Prop)
    (hnone : (replayLoop env cfg (loadCandles cfg store)).error = none) :
    (forall c, c ∈ (replayFlushed env cfg (loadCandles cfg store)).closed ->
        c.exitReason = .forcedClose ->
          forall bundle bar, (loadCandles cfg store).entries.get c.symbol = some bundle ->
            bar ∈ bundle.m15 -> c.entryTime < bar.openTime -> bar.openTime ≤ c.closedAt ->
              Counts bar c.toSimulatedPosition -> { symbol := c.symbol, candle := bar } ∈
                (replayLoop env cfg (loadCandles cfg store)).processed) ↔
      forall symbol p,
        p ∈ (replayLoop env cfg (loadCandles cfg store)).broker.positions.get symbol ->
        forall bundle bar, (loadCandles cfg store).entries.get symbol = some bundle ->
          bar ∈ bundle.m15 -> Counts bar p -> bar.openTime ≤ cfg.endMs := by
  have hkept := replayLoop_kept env cfg (loadCandles cfg store)
  rw [replayLoop_processed hnone]
  constructor
  · intro hseen symbol p hp bundle bar hget hbar hcounts
    rcases hkept.places.filed symbol p hp with ⟨hsymbol, ⟨hpair, hsome⟩, hwindow⟩
    rcases Option.isSome_iff_exists.mp hsome with ⟨last, hlast⟩
    by_contra hlate
    have hclosed := mem_flush_closed.mpr (Or.inr ⟨symbol, last, p, hpair, hlast, hp, rfl⟩)
    have hevent := hseen _ hclosed rfl bundle bar (hsymbol ▸ hget) hbar
      (Int.lt_of_le_of_lt hwindow.2 (Int.not_le.mp hlate)) (openTime_le_last hget hbar hlast)
      hcounts
    exact hlate (mem_buildTimeline.mp hevent).1.2
  · intro hlate c hc hforced bundle bar hget hbar hafter hbefore hcounts
    rcases mem_flush_closed.mp hc with hold | ⟨symbol, last, p, hpair, hlast, hp, rfl⟩
    · rw [hkept.closed hnone] at hold
      exact absurd hforced (hkept.natural c hold)
    · rcases hkept.places.filed symbol p hp with ⟨hsymbol, -, hwindow⟩
      have hget' : (loadCandles cfg store).entries.get symbol = some bundle := hsymbol ▸ hget
      refine mem_buildTimeline.mpr ⟨⟨?_, ?_⟩, bundle, hget, hbar⟩
      · exact Int.le_of_lt (Int.lt_of_le_of_lt hwindow.1 hafter)
      · exact hlate symbol p hp bundle bar hget' hbar hcounts

/-- A replay on loaded candles carries no position past a bar exactly when no position
that is open before the flush has a later bar of its symbol in the bundle, and past
its stop exactly when none of these bars reaches the stop. -/
theorem honest_flush_iff_no_late_bars {env : EngineEnv} {cfg : ReplayConfig}
    {store : Instrument -> StoredCandles} {result : ReplayResult}
    (hresult : replay env cfg (loadCandles cfg store) = .ok result) :
    (HonestFlush (loadCandles cfg store) (replayLoop env cfg (loadCandles cfg store)).processed
        result.closed ↔
      NoLateBars (loadCandles cfg store) cfg.endMs
        (replayLoop env cfg (loadCandles cfg store)).broker) ∧
      (StopsSeen (loadCandles cfg store) (replayLoop env cfg (loadCandles cfg store)).processed
          result.closed ↔
        NoLateStops (loadCandles cfg store) cfg.endMs
          (replayLoop env cfg (loadCandles cfg store)).broker) := by
  rcases replay_ok hresult with ⟨hnone, rfl⟩
  have hbars := counted_bars_seen_iff (fun _ _ => True) hnone
  refine ⟨?_, counted_bars_seen_iff SimulatedBroker.SlHit hnone⟩
  constructor
  · intro hhonest symbol hopen bundle bar hget hbar
    rcases List.exists_mem_of_ne_nil _ hopen with ⟨p, hp⟩
    refine hbars.mp ?_ symbol p hp bundle bar hget hbar trivial
    exact fun c hc hforced bundle bar hget hbar hafter hbefore _ =>
      hhonest c hc hforced bundle bar hget hbar hafter hbefore
  · intro hlate c hc hforced bundle bar hget hbar hafter hbefore
    refine hbars.mpr ?_ c hc hforced bundle bar hget hbar hafter hbefore trivial
    exact fun symbol p hp bundle bar hget hbar _ =>
      hlate symbol (List.ne_nil_of_mem hp) bundle bar hget hbar

set_option maxRecDepth 20000 in
/-- With no bars after the signal the gold replay flushes honestly. -/
theorem gold_flush_without_late_bars :
    exists result,
      replay documentedEnv (goldReplayCfg none)
        (loadCandles (goldReplayCfg none) fun _ => goldStored []) = .ok result ∧
      HonestFlush (loadCandles (goldReplayCfg none) fun _ => goldStored [])
        (replayLoop documentedEnv (goldReplayCfg none)
          (loadCandles (goldReplayCfg none) fun _ => goldStored [])).processed
        result.closed := by
  have hnone : (replayLoop documentedEnv (goldReplayCfg none)
      (loadCandles (goldReplayCfg none) fun _ => goldStored [])).error = none := by
    decide +kernel
  have hearly : forall bar, bar ∈ (loadBundle (goldReplayCfg none) (goldStored [])).m15 ->
      bar.openTime ≤ (goldReplayCfg none).endMs := by
    decide +kernel
  have hresult := replay_of_no_error hnone
  refine ⟨_, hresult, (honest_flush_iff_no_late_bars hresult).1.mpr ?_⟩
  intro symbol _ bundle bar hget hbar
  rw [loadCandles_get _ _ symbol bundle hget] at hbar
  exact hearly bar hbar

theorem goldCandles_get :
    (goldCandles none).entries.get .XAUUSD =
      some (loadBundle (goldReplayCfg none) (goldStored [goldStopBar])) := rfl

set_option maxRecDepth 20000 in
theorem gold_loop_ends :
    (replayLoop documentedEnv (goldReplayCfg none) (goldCandles none)).error = none := by
  decide +kernel

set_option maxRecDepth 20000 in
theorem goldStopBar_loaded :
    goldStopBar ∈ (loadBundle (goldReplayCfg none) (goldStored [goldStopBar])).m15 := by
  decide +kernel

theorem goldStopBar_not_processed :
    { symbol := .XAUUSD, candle := goldStopBar } ∉
      (replayLoop documentedEnv (goldReplayCfg none) (goldCandles none)).processed := by
  rw [replayLoop_processed gold_loop_ends]
  intro hin
  have hlate : ¬ goldStopBar.openTime ≤ (goldReplayCfg none).endMs := by
    decide
  exact hlate (mem_buildTimeline.mp hin).1.2

set_option maxRecDepth 20000 in
theorem gold_flushed_through_stop :
    exists c, c ∈ (replayFlushed documentedEnv (goldReplayCfg none) (goldCandles none)).closed ∧
      (c.symbol = .XAUUSD ∧ c.exitReason = .forcedClose ∧ c.entryTime < goldStopBar.openTime ∧
        goldStopBar.openTime ≤ c.closedAt ∧
        SimulatedBroker.SlHit goldStopBar c.toSimulatedPosition) := by
  decide +kernel

/-- Two positions of the gold replay are closed at a bar that had reached their stop
and that was never processed. -/
theorem stop_reached_but_not_processed :
    exists result, replay documentedEnv (goldReplayCfg none) (goldCandles none) = .ok result ∧
      ¬ StopsSeen (goldCandles none)
        (replayLoop documentedEnv (goldReplayCfg none) (goldCandles none)).processed
        result.closed ∧
      ¬ HonestFlush (goldCandles none)
        (replayLoop documentedEnv (goldReplayCfg none) (goldCandles none)).processed
        result.closed := by
  rcases gold_flushed_through_stop with ⟨c, hc, hsymbol, hforced, hafter, hbefore, hstop⟩
  refine ⟨_, replay_of_no_error gold_loop_ends, ?_⟩
  rw [ReplayRun.result_closed]
  have hget := hsymbol ▸ goldCandles_get
  have hunseen : { symbol := c.symbol, candle := goldStopBar } ∉
      (replayLoop documentedEnv (goldReplayCfg none) (goldCandles none)).processed := by
    rw [hsymbol]
    exact goldStopBar_not_processed
  constructor
  · intro hseen
    exact hunseen (hseen c hc hforced _ goldStopBar hget goldStopBar_loaded hafter hbefore hstop)
  · intro hhonest
    exact hunseen (hhonest c hc hforced _ goldStopBar hget goldStopBar_loaded hafter hbefore)

end Replay
end Shamarx
