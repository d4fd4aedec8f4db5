import Shamarx.Orchestrator.SignalShape
import Shamarx.Replay.BrokerLemmas
import Shamarx.Replay.ReplayEngine

/-!
# Conservation of positions and money

Every event of a replay keeps the books of the broker and adds its exits to the
closed list of the run.  The flush reaches every symbol with an open position, so
in the end all that was ever filled is closed, once, and paid.
-/

namespace Shamarx
namespace Replay

open Foundation
open Engine
open Orchestrator

variable {env : EngineEnv} {cfg : ReplayConfig} {candles : ReplayCandles}

/-!
# Exits and entries of an event
-/

theorem noteExits_broker (env : EngineEnv) (symbol : Instrument) (exits : List ClosedPosition)
    (run : ReplayRun) : (exits.foldl (noteExit env symbol) run).broker = run.broker := by
  induction exits generalizing run with
  | nil =>
      rfl
  | cons exit rest ih =>
      rw [List.foldl_cons, ih]
      unfold noteExit
      split_ifs <;> rfl

theorem noteExits_processed (env : EngineEnv) (symbol : Instrument) (exits : List ClosedPosition)
    (run : ReplayRun) : (exits.foldl (noteExit env symbol) run).processed = run.processed := by
  induction exits generalizing run with
  | nil =>
      rfl
  | cons exit rest ih =>
      rw [List.foldl_cons, ih]
      unfold noteExit
      split_ifs <;> rfl

theorem noteExits_closed {symbol : Instrument} {exits : List ClosedPosition} {run : ReplayRun}
    (h : (exits.foldl (noteExit env symbol) run).error = none) :
    run.error = none ∧
      (exits.foldl (noteExit env symbol) run).closed = run.closed ++ exits := by
  induction exits generalizing run with
  | nil =>
      exact ⟨h, (List.append_nil _).symm⟩
  | cons exit rest ih =>
      rcases ih h with ⟨hnone, hclosed⟩
      rw [List.foldl_cons, hclosed]
      unfold noteExit at hnone ⊢
      split_ifs at hnone ⊢ with herror
      · rw [hnone] at herror
        cases herror
      · rw [Option.not_isSome_iff_eq_none] at herror
        exact ⟨herror, by rw [List.append_assoc, List.singleton_append]⟩

theorem exitStep_broker (env : EngineEnv) (cfg : ReplayConfig) (run : ReplayRun)
    (ev : ReplayEvent) :
    (exitStep env cfg run ev).broker =
      (SimulatedBroker.processCandle cfg.brokerSetup run.broker ev.symbol ev.candle).1 :=
  noteExits_broker env ev.symbol _ _

/-- What the second half of an event can do: nothing, an error, or the order for a
signal on the event's symbol. -/
inductive EntryMove (env : EngineEnv) (cfg : ReplayConfig) (bundle : CandleBundle)
    (run : ReplayRun) (ev : ReplayEvent) : ReplayRun -> Prop where
  | waited : EntryMove env cfg bundle run ev run
  | evaluated (orchestrator : LiveSmcOrchestrator) (error : Option EngineError)
      (hrun : run.error = none) :
      EntryMove env cfg bundle run ev { run with orchestrator := orchestrator, error := error }
  | ordered (orchestrator : LiveSmcOrchestrator) (signal : SmcLiveSignal)
      (hrun : run.error = none)
      (hsignal : (evaluateEvent env cfg bundle run ev).2 = .ok (some signal)) :
      EntryMove env cfg bundle run ev
        (orderStep cfg { run with orchestrator := orchestrator } ev signal)

theorem entryStep_move (env : EngineEnv) (cfg : ReplayConfig) (bundle : CandleBundle)
    (run : ReplayRun) (ev : ReplayEvent) :
    EntryMove env cfg bundle run ev (entryStep env cfg bundle run ev) := by
  unfold entryStep
  dsimp only
  split_ifs with hguard
  · exact .waited
  · rw [not_or, Option.not_isSome_iff_eq_none] at hguard
    split
    · next e he =>
        exact .evaluated _ _ hguard.1
    · next he =>
        exact .evaluated _ _ hguard.1
    · next signal he =>
        exact .ordered _ signal hguard.1 he

theorem atLeast_of_ahead {side : Side} {a b : ℚ} (h : Ahead side a b) : side.AtLeast b a := by
  cases side with
  | buy =>
      exact h
  | sell =>
      exact h

/-- What every signal of the evaluation has: its stop on the protective side, and a leg. -/
structure Protected (signal : SmcLiveSignal) : Prop where
  stop : signal.side.AtLeast signal.entryPrice signal.slPrice
  legs : signal.legs ≠ []

theorem protected_of_evaluate {o : LiveSmcOrchestrator} {symbol : Instrument} {b : CandleBundle}
    {ctx : LiveContext} {precomputed : Option PrecomputedIndicators} {cursor : Option (Cursor b)}
    {signal : SmcLiveSignal}
    (h : (evaluate env o symbol b ctx precomputed cursor).2 = .ok (some signal)) :
    Protected signal := by
  rcases evaluate_fired h with ⟨p, cfg, lastM15, setup, -, -, hfire, -⟩
  have hfired := judge_fired hfire
  rcases hfired.built with ⟨gates, rfl⟩
  constructor
  · have hahead := (stop_ahead hfired.protective).roundTo (priceScale_pos symbol)
    exact atLeast_of_ahead hahead
  · unfold buildSignal
    dsimp only
    split_ifs
    · exact List.cons_ne_nil _ _
    · exact List.cons_ne_nil _ _

/-!
# The loop
-/

def Flushable (cfg : ReplayConfig) (candles : ReplayCandles) (symbol : Instrument) : Prop :=
  symbol ∈ cfg.pairs ∧ (candles.lastM15 symbol).isSome

def InWindow (cfg : ReplayConfig) (t : Int) : Prop :=
  cfg.startMs ≤ t ∧ t ≤ cfg.endMs

structure LoopKept (cfg : ReplayConfig) (candles : ReplayCandles) (run : ReplayRun) : Prop where
  books : run.broker.Accounted cfg.initialBalance
  places : run.broker.Housed (Flushable cfg candles) (InWindow cfg)
  closed : run.error = none -> run.closed = run.broker.closed
  natural : forall c, c ∈ run.broker.closed -> c.exitReason ≠ .forcedClose

theorem LoopKept.start (cfg : ReplayConfig) (candles : ReplayCandles) :
    LoopKept cfg candles (.start cfg) where
  books := SimulatedBroker.create_accounted cfg.initialBalance
  places := SimulatedBroker.create_housed cfg.initialBalance
  closed := fun _ => rfl
  natural := by
    intro c hc
    cases hc

variable {run : ReplayRun} {ev : ReplayEvent}

theorem LoopKept.exitStep (h : LoopKept cfg candles run) (hwindow : InWindow cfg ev.candle.openTime)
    (env : EngineEnv) : LoopKept cfg candles (exitStep env cfg run ev) := by
  have hbroker := exitStep_broker env cfg run ev
  have hbooked := SimulatedBroker.processCandle_closed cfg.brokerSetup run.broker ev.symbol
    ev.candle
  constructor
  · rw [hbroker]
    exact h.books.processCandle cfg.brokerSetup ev.symbol ev.candle
  · rw [hbroker]
    exact h.places.processCandle hwindow cfg.brokerSetup ev.symbol
  · intro hnone
    rcases noteExits_closed hnone with ⟨hrun, hclosed⟩
    rw [hbroker, hbooked, ← h.closed hrun]
    exact hclosed
  · intro c hc
    rw [hbroker, hbooked] at hc
    rcases List.mem_append.mp hc with hold | hnew
    · exact h.natural c hold
    · exact SimulatedBroker.processCandle_not_forced hnew

theorem LoopKept.entryStep (h : LoopKept cfg candles run) (hwindow : InWindow cfg ev.candle.openTime)
    (hflush : Flushable cfg candles ev.symbol) (env : EngineEnv) (bundle : CandleBundle) :
    LoopKept cfg candles (entryStep env cfg bundle run ev) := by
  have hmove := entryStep_move env cfg bundle run ev
  generalize Replay.entryStep env cfg bundle run ev = next at hmove ⊢
  cases hmove with
  | waited =>
      exact h
  | evaluated orchestrator error hrun =>
      exact ⟨h.books, h.places, fun _ => h.closed hrun, h.natural⟩
  | ordered orchestrator signal hrun hsignal =>
      have hsymbol := (evaluate_signal_shape hsignal).1
      have hbooked := SimulatedBroker.placeOrder_closed cfg.brokerSetup run.broker signal
        ev.candle.openTime
      constructor
      · exact h.books.placeOrder cfg.brokerSetup signal ev.candle.openTime
      · exact h.places.placeOrder (by rw [hsymbol]; exact hflush) hwindow cfg.brokerSetup
      · intro _
        exact (h.closed hrun).trans hbooked.symm
      · intro c hc
        exact h.natural c (hbooked ▸ hc)

theorem event_of_timeline (hev : ev ∈ buildTimeline candles cfg.startMs cfg.endMs) :
    InWindow cfg ev.candle.openTime ∧ (candles.lastM15 ev.symbol).isSome := by
  rcases mem_buildTimeline.mp hev with ⟨hwindow, bundle, hget, hbar⟩
  refine ⟨hwindow, ?_⟩
  rw [ReplayCandles.lastM15, hget, Option.bind_some, List.getLast?_isSome]
  exact List.ne_nil_of_mem hbar

theorem LoopKept.replayStep (h : LoopKept cfg candles run)
    (hev : ev ∈ buildTimeline candles cfg.startMs cfg.endMs) (env : EngineEnv) :
    LoopKept cfg candles (replayStep env cfg candles run ev) := by
  rcases event_of_timeline hev with ⟨hwindow, hlast⟩
  rw [Replay.replayStep]
  by_cases herror : run.error.isSome
  · rw [if_pos herror]
    exact h
  · rw [if_neg herror]
    cases candles.entries.get ev.symbol with
    | none =>
        exact h
    | some bundle =>
        dsimp only
        split_ifs with hpair
        · exact (h.exitStep hwindow env).entryStep hwindow ⟨hpair, hlast⟩ env bundle
        · exact ⟨h.books, h.places, fun hnone => (nomatch hnone), h.natural⟩

theorem replayLoop_kept (env : EngineEnv) (cfg : ReplayConfig) (candles : ReplayCandles) :
    LoopKept cfg candles (replayLoop env cfg candles) :=
  runFrom_inv_of_mem (LoopKept cfg candles) (fun _ _ hev h => h.replayStep hev env)
    (LoopKept.start cfg candles)

/-!
# The flush
-/

structure FlushKept (cfg : ReplayConfig) (run : ReplayRun) : Prop where
  books : run.broker.Accounted cfg.initialBalance
  closed : run.closed = run.broker.closed

theorem FlushKept.flushStep (h : FlushKept cfg run) (candles : ReplayCandles)
    (symbol : Instrument) : FlushKept cfg (flushStep candles run symbol) := by
  unfold Replay.flushStep
  split
  · exact h
  · exact ⟨h.books.closeAllForSymbol symbol _ _, congrArg (· ++ _) h.closed⟩

theorem flushStep_get (candles : ReplayCandles) (run : ReplayRun) (symbol k : Instrument) :
    (flushStep candles run symbol).broker.positions.get k =
      if k = symbol ∧ (candles.lastM15 symbol).isSome then [] else run.broker.positions.get k := by
  unfold flushStep
  cases hlast : candles.lastM15 symbol with
  | none =>
      rw [if_neg (by simp)]
  | some last =>
      change (run.broker.positions.delete symbol).get k = _
      by_cases hk : k = symbol
      · rw [hk, Buckets.get_delete_self, if_pos (by simp)]
      · rw [Buckets.get_delete_of_ne hk, if_neg (by simp [hk])]

theorem flush_get (candles : ReplayCandles) (run : ReplayRun) (symbols : List Instrument)
    (k : Instrument) :
    (runFrom (flushStep candles) run symbols).broker.positions.get k =
      if k ∈ symbols ∧ (candles.lastM15 k).isSome then [] else run.broker.positions.get k := by
  induction symbols generalizing run with
  | nil =>
      rw [if_neg (by simp)]
      rfl
  | cons symbol rest ih =>
      rw [runFrom_cons, ih, flushStep_get]
      by_cases hk : k = symbol
      · subst hk
        by_cases hlast : (candles.lastM15 k).isSome <;> simp [hlast]
      · simp [hk]

theorem replayFlushed_empty (env : EngineEnv) (cfg : ReplayConfig) (candles : ReplayCandles) :
    (replayFlushed env cfg candles).broker.positions.items = [] := by
  apply Buckets.items_eq_nil
  intro k
  rw [replayFlushed, flush_get]
  split_ifs with hflush
  · rfl
  · apply List.eq_nil_iff_forall_not_mem.mpr
    intro p hp
    exact hflush ((replayLoop_kept env cfg candles).places.filed k p hp).2.1

/-!
# The result
-/

theorem replay_ok {result : ReplayResult} (h : replay env cfg candles = .ok result) :
    (replayLoop env cfg candles).error = none ∧
      result = (replayFlushed env cfg candles).result cfg := by
  unfold replay at h
  split at h
  · cases h
  · next hnone =>
      cases h
      exact ⟨hnone, rfl⟩

theorem replay_of_no_error (h : (replayLoop env cfg candles).error = none) :
    replay env cfg candles = .ok ((replayFlushed env cfg candles).result cfg) := by
  rw [replay, h]

theorem replayFlushed_kept (h : (replayLoop env cfg candles).error = none) :
    FlushKept cfg (replayFlushed env cfg candles) := by
  have hkept := replayLoop_kept env cfg candles
  exact runFrom_inv (FlushKept cfg) (fun _ symbol hrun => hrun.flushStep candles symbol)
    ⟨hkept.books, hkept.closed h⟩ cfg.pairs

/-- What the books of a finished replay should show: the closed list of the result is the
one of the broker and holds each position that was ever filled once, nothing is open, the
balance is the initial one and the results, every trade is a win or a loss, and the
reported maximum is the largest open count of the run. -/
structure Conserves (cfg : ReplayConfig) (broker : SimulatedBroker) (result : ReplayResult) :
    Prop where
  closed : result.closed = broker.closed
  filled : (result.closed.map ClosedPosition.opening).Perm
    (broker.created.map SimulatedPosition.opening)
  once : (result.closed.map fun c => c.id).Nodup
  flat : broker.totalOpenCount = 0
  money : result.finalBalance.Equals
    (.finite cfg.initialBalance + (result.closed.map ClosedPosition.pnl).sum)
  counted : result.metrics.tradesCount = result.metrics.winsCount + result.metrics.lossesCount
  trades : result.metrics.tradesCount = result.closed.length
  peak : IsGreatest {m | m ∈ broker.moments} result.maxConcurrent

/-- The sum of the results depends on what they are, and all the rest holds in any case. -/
theorem conserves_iff {result : ReplayResult} (hresult : replay env cfg candles = .ok result) :
    Conserves cfg (replayFlushed env cfg candles).broker result <->
      .nan ∉ result.closed.map ClosedPosition.pnl ∧ result.finalBalance ≠ .nan := by
  rcases replay_ok hresult with ⟨hnone, rfl⟩
  have hkept := replayFlushed_kept hnone
  have hempty := replayFlushed_empty env cfg candles
  generalize (replayFlushed env cfg candles) = run at hkept hempty ⊢
  have hperm : (run.broker.closed.map ClosedPosition.opening).Perm
      (run.broker.created.map SimulatedPosition.opening) := by
    have hbooks := hkept.books.positions
    rw [hempty] at hbooks
    exact hbooks
  have hids : (run.broker.closed.map fun c => c.id).Perm
      (List.range run.broker.created.length) := by
    have hmap := hperm.map SimulatedPosition.id
    rw [List.map_map, List.map_map] at hmap
    rw [← hkept.books.numbered]
    exact hmap
  have hsigns : (run.result cfg).metrics.winsCount + (run.result cfg).metrics.lossesCount =
      (run.result cfg).metrics.tradesCount <->
        .nan ∉ run.broker.closed.map ClosedPosition.pnl := by
    have hcount := Number.signs_add_up_iff (run.broker.closed.map ClosedPosition.pnl)
    rw [List.filter_map, List.filter_map, List.length_map, List.length_map, List.length_map]
      at hcount
    exact hcount
  rw [ReplayRun.result_closed, hkept.closed]
  constructor
  · intro h
    exact ⟨hsigns.mp h.counted.symm, h.money.2⟩
  · rintro ⟨hnumbers, hbalance⟩
    constructor
    · exact hkept.closed
    · rw [ReplayRun.result_closed, hkept.closed]
      exact hperm
    · rw [ReplayRun.result_closed, hkept.closed]
      exact hids.nodup_iff.mpr List.nodup_range
    · rw [SimulatedBroker.totalOpenCount, Buckets.count_eq, hempty]
      rfl
    · refine ⟨?_, hbalance⟩
      rw [ReplayRun.result_closed, hkept.closed]
      exact hkept.books.money
    · exact (hsigns.mpr hnumbers).symm
    · rw [ReplayRun.result_closed, hkept.closed]
      rfl
    · exact hkept.books.peak

end Replay
end Shamarx
