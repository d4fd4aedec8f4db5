import Shamarx.Foundation.Runs
import Shamarx.Orchestrator.Evaluate

/-!
# The persistence scheduler

The orchestrator state is written behind: callers mark it dirty, a debounce
timer and a backstop interval flush it, and a flush in flight keeps others from
starting.  Position exits reach the orchestrator without a mark.
-/

namespace Shamarx
namespace Live

open Foundation
open Engine
open Orchestrator

/-- A flush between its start and its end: what it serialized, and whether the
state write has reached the store.  The telemetry write follows. -/
structure Flush where
  snapshot : InsertionMap Instrument StateSnapshot
  landed : Bool

/-- The timers are on or off; the store holds the value of the state key. -/
structure Scheduler where
  orchestrator : LiveSmcOrchestrator
  persistDirty : Bool
  persistDebounceTimer : Bool
  persistIntervalTimer : Bool
  persistInFlight : Option Flush
  stored : Option (InsertionMap Instrument StateSnapshot)

namespace Scheduler

def start (o : LiveSmcOrchestrator) (stored : Option (InsertionMap Instrument StateSnapshot)) :
    Scheduler :=
  { orchestrator := o
    persistDirty := false
    persistDebounceTimer := false
    persistIntervalTimer := true
    persistInFlight := none
    stored := stored }

def markPersistDirty (s : Scheduler) : Scheduler :=
  { s with persistDirty := true, persistDebounceTimer := true }

def flushOrchestratorState (s : Scheduler) : Scheduler :=
  if s.persistDirty = false ∨ s.persistInFlight.isSome = true then s
  else
    { s with
      persistDirty := false
      persistInFlight := some { snapshot := s.orchestrator.serialize, landed := false } }

end Scheduler

/-- One turn of the event loop.  The evaluations mark in the turn that calls the
orchestrator; a telemetry event marks without calling it. -/
inductive SchedulerOp where
  | evaluate (symbol : Instrument) (b : CandleBundle) (ctx : LiveContext)
  | recordEntry (symbol : Instrument) (h1SweepTime : Int)
  | pushEvent
  | recordExit (symbol : Instrument) (exitReason : ExitKind) (exitTime : Int)
      (pnl : Option ℚ)
  | debounceFires
  | intervalTick
  | moduleDestroy
  | stateWritten
  | feedWritten

def schedulerStep (env : EngineEnv) (s : Scheduler) : SchedulerOp -> Scheduler
  | .evaluate symbol b ctx =>
      match evaluate env s.orchestrator symbol b ctx none none with
      | (o, .ok _) => { s with orchestrator := o }.markPersistDirty
      | (o, .error _) => { s with orchestrator := o }
  | .recordEntry symbol h1SweepTime =>
      { s with orchestrator := s.orchestrator.recordEntry symbol h1SweepTime }.markPersistDirty
  | .pushEvent => s.markPersistDirty
  | .recordExit symbol exitReason exitTime pnl =>
      { s with
        orchestrator := (s.orchestrator.recordExit env symbol exitReason exitTime pnl).1 }
  | .debounceFires =>
      if s.persistDebounceTimer then
        { s with persistDebounceTimer := false }.flushOrchestratorState
      else s
  | .intervalTick => if s.persistIntervalTimer then s.flushOrchestratorState else s
  | .moduleDestroy =>
      { s with persistDebounceTimer := false, persistIntervalTimer := false }.flushOrchestratorState
  | .stateWritten =>
      match s.persistInFlight with
      | none => s
      | some flush =>
          { s with
            stored := some flush.snapshot
            persistInFlight := some { flush with landed := true } }
  | .feedWritten =>
      match s.persistInFlight with
      | none => s
      | some flush => if flush.landed then { s with persistInFlight := none } else s

/-!
# What a turn can do
-/

/-- The turn marks the state dirty; an evaluation that throws does not get there. -/
def Marks (env : EngineEnv) (s : Scheduler) : SchedulerOp -> Prop
  | .evaluate symbol b ctx =>
      exists signal, (evaluate env s.orchestrator symbol b ctx none none).2 = .ok signal
  | .recordEntry _ _ => True
  | .pushEvent => True
  | _ => False

inductive Move (marks : Prop) (s s' : Scheduler) : Prop where
  | marked (hdirty : s'.persistDirty = true) (hflight : s'.persistInFlight = s.persistInFlight)
      (hstored : s'.stored = s.stored)
  | unmarked (hmarks : ¬ marks) (hdirty : s'.persistDirty = s.persistDirty)
      (hflight : s'.persistInFlight = s.persistInFlight) (hstored : s'.stored = s.stored)
  | started (hfree : s.persistInFlight = none)
      (horch : s'.orchestrator = s.orchestrator)
      (hflight : s'.persistInFlight =
        some { snapshot := s.orchestrator.serialize, landed := false })
      (hstored : s'.stored = s.stored)
  | landed (hmarks : ¬ marks) (flush : Flush) (hflush : s.persistInFlight = some flush)
      (horch : s'.orchestrator = s.orchestrator) (hdirty : s'.persistDirty = s.persistDirty)
      (hflight : s'.persistInFlight = some { flush with landed := true })
      (hstored : s'.stored = some flush.snapshot)
  | finished (hmarks : ¬ marks) (flush : Flush) (hflush : s.persistInFlight = some flush)
      (hlanded : flush.landed = true) (horch : s'.orchestrator = s.orchestrator)
      (hdirty : s'.persistDirty = s.persistDirty) (hflight : s'.persistInFlight = none)
      (hstored : s'.stored = s.stored)

theorem move_flush {marks : Prop} (hmarks : ¬ marks) {s t : Scheduler}
    (horch : t.orchestrator = s.orchestrator) (hdirty : t.persistDirty = s.persistDirty)
    (hflight : t.persistInFlight = s.persistInFlight) (hstored : t.stored = s.stored) :
    Move marks s t.flushOrchestratorState := by
  by_cases hskip : t.persistDirty = false ∨ t.persistInFlight.isSome = true
  · rw [Scheduler.flushOrchestratorState, if_pos hskip]
    exact .unmarked hmarks hdirty hflight hstored
  · rw [Scheduler.flushOrchestratorState, if_neg hskip]
    have hfree : t.persistInFlight = none := by
      simpa using (not_or.mp hskip).2
    exact .started (hflight ▸ hfree) horch (by rw [horch]) hstored

theorem schedulerStep_move (env : EngineEnv) (s : Scheduler) (op : SchedulerOp) :
    Move (Marks env s op) s (schedulerStep env s op) := by
  cases op with
  | evaluate symbol b ctx =>
      cases hout : evaluate env s.orchestrator symbol b ctx none none with
      | mk o result =>
          cases result with
          | ok signal =>
              simp only [schedulerStep, hout]
              exact .marked rfl rfl rfl
          | error e =>
              simp only [schedulerStep, hout]
              refine .unmarked ?_ rfl rfl rfl
              rintro ⟨signal, hok⟩
              rw [hout] at hok
              cases hok
  | recordEntry symbol h1SweepTime =>
      exact .marked rfl rfl rfl
  | pushEvent =>
      exact .marked rfl rfl rfl
  | recordExit symbol exitReason exitTime pnl =>
      exact .unmarked id rfl rfl rfl
  | debounceFires =>
      simp only [schedulerStep]
      split
      · exact move_flush id rfl rfl rfl rfl
      · exact .unmarked id rfl rfl rfl
  | intervalTick =>
      simp only [schedulerStep]
      split
      · exact move_flush id rfl rfl rfl rfl
      · exact .unmarked id rfl rfl rfl
  | moduleDestroy =>
      exact move_flush id rfl rfl rfl rfl
  | stateWritten =>
      cases hflight : s.persistInFlight with
      | none =>
          simp only [schedulerStep, hflight]
          exact .unmarked id rfl rfl rfl
      | some flush =>
          simp only [schedulerStep, hflight]
          exact .landed id flush hflight rfl rfl rfl rfl
  | feedWritten =>
      cases hflight : s.persistInFlight with
      | none =>
          simp only [schedulerStep, hflight]
          exact .unmarked id rfl rfl rfl
      | some flush =>
          simp only [schedulerStep, hflight]
          split
          · rename_i hlanded
            exact .finished id flush hflight hlanded rfl rfl rfl rfl
          · exact .unmarked id rfl rfl rfl

/-!
# Covered changes

A change made with the dirty flag clear and without a mark stays uncovered
until a later mark.
-/

def CoveredAfter (env : EngineEnv) (s : Scheduler) (covered : Prop) (op : SchedulerOp) :
    Prop :=
  Marks env s op ∨ (covered ∧ (s.persistDirty = true ∨
    (schedulerStep env s op).orchestrator.serialize = s.orchestrator.serialize))

def ChangesCovered (env : EngineEnv) : Scheduler -> Prop -> List SchedulerOp -> Prop
  | _, covered, [] => covered
  | s, covered, op :: rest =>
      ChangesCovered env (schedulerStep env s op) (CoveredAfter env s covered op) rest

/-- The store will be or is brought up to the orchestrator. -/
def Synced (s : Scheduler) : Prop :=
  match s.persistInFlight with
  | none => s.stored = some s.orchestrator.serialize
  | some flush => flush.snapshot = s.orchestrator.serialize

/-- A landed flush is in the store, and a covered state is dirty or synced. -/
structure SchedulerInv (s : Scheduler) (covered : Prop) : Prop where
  landed : forall flush, s.persistInFlight = some flush -> flush.landed = true ->
    s.stored = some flush.snapshot
  synced : covered -> s.persistDirty = true ∨ Synced s

theorem schedulerStep_inv {env : EngineEnv} {s : Scheduler} {covered : Prop}
    (h : SchedulerInv s covered) (op : SchedulerOp) :
    SchedulerInv (schedulerStep env s op) (CoveredAfter env s covered op) := by
  cases schedulerStep_move env s op with
  | marked hdirty hflight hstored =>
      refine ⟨?_, fun _ => Or.inl hdirty⟩
      rw [hflight, hstored]
      exact h.landed
  | unmarked hmarks hdirty hflight hstored =>
      constructor
      · rw [hflight, hstored]
        exact h.landed
      · rintro (hmark | ⟨hcovered, hsame⟩)
        · exact absurd hmark hmarks
        · rcases hsame with hd | hserial
          · exact Or.inl (hdirty.trans hd)
          · rcases h.synced hcovered with hd | hsync
            · exact Or.inl (hdirty.trans hd)
            · right
              unfold Synced at hsync ⊢
              rw [hflight, hstored, hserial]
              exact hsync
  | started hfree horch hflight hstored =>
      refine ⟨?_, fun _ => Or.inr ?_⟩
      · intro flush hflush hlanded
        rw [hflight, Option.some.injEq] at hflush
        rw [← hflush] at hlanded
        cases hlanded
      · rw [Synced, hflight, horch]
  | landed hmarks flush hflush horch hdirty hflight hstored =>
      constructor
      · intro flush' hflush' _
        rw [hflight, Option.some.injEq] at hflush'
        rw [hstored, ← hflush']
      · rintro (hmark | ⟨hcovered, -⟩)
        · exact absurd hmark hmarks
        · rcases h.synced hcovered with hd | hsync
          · exact Or.inl (hdirty.trans hd)
          · right
            rw [Synced, hflush] at hsync
            rw [Synced, hflight, horch]
            exact hsync
  | finished hmarks flush hflush hlanded horch hdirty hflight hstored =>
      constructor
      · intro flush' hflush'
        rw [hflight] at hflush'
        cases hflush'
      · rintro (hmark | ⟨hcovered, -⟩)
        · exact absurd hmark hmarks
        · rcases h.synced hcovered with hd | hsync
          · exact Or.inl (hdirty.trans hd)
          · right
            rw [Synced, hflush] at hsync
            rw [Synced, hflight, hstored, horch, h.landed flush hflush hlanded, hsync]

theorem schedulerInv_run {env : EngineEnv} {s : Scheduler} {covered : Prop}
    (h : SchedulerInv s covered) (ops : List SchedulerOp) :
    SchedulerInv (runFrom (schedulerStep env) s ops) (ChangesCovered env s covered ops) := by
  induction ops generalizing s covered with
  | nil =>
      exact h
  | cons op rest ih =>
      exact ih (schedulerStep_inv h op)

/-!
# Flush calls
-/

def FlushCall (s : Scheduler) : SchedulerOp -> Prop
  | .intervalTick => s.persistIntervalTimer = true
  | .moduleDestroy => True
  | _ => False

/-- The call returns at once, or the flush it starts has ended within `later`. -/
def Completes (env : EngineEnv) (s : Scheduler) (call : SchedulerOp)
    (later : List SchedulerOp) : Prop :=
  (s.persistDirty = false ∨ s.persistInFlight.isSome = true) ∨
    exists front back, later = front ++ back ∧
      (runFrom (schedulerStep env) (schedulerStep env s call) front).persistInFlight = none

/-- No turn of the list changes the orchestrator. -/
def Unmutated (env : EngineEnv) (s : Scheduler) (ops : List SchedulerOp) : Prop :=
  EveryStep (schedulerStep env)
    (fun s op => (schedulerStep env s op).orchestrator = s.orchestrator) s ops

/-- Once the call has completed, and with no mutation after it started, the
store holds the serialized orchestrator. -/
def PersistedAfter (env : EngineEnv) (s : Scheduler) (call : SchedulerOp)
    (later : List SchedulerOp) : Prop :=
  Unmutated env (schedulerStep env s call) later -> Completes env s call later ->
    (runFrom (schedulerStep env) (schedulerStep env s call) later).stored =
      some (runFrom (schedulerStep env) (schedulerStep env s call) later).orchestrator.serialize

/-- Before the call every change is covered, and a flush still in flight has
stored its snapshot with nothing marked since. -/
def CallCovered (env : EngineEnv) (start : Scheduler) (front : List SchedulerOp) : Prop :=
  ChangesCovered env start (start.stored = some start.orchestrator.serialize) front ∧
    forall flush, (runFrom (schedulerStep env) start front).persistInFlight = some flush ->
      flush.landed = true ∧ (runFrom (schedulerStep env) start front).persistDirty = false

structure Current (s : Scheduler) : Prop where
  stored : s.stored = some s.orchestrator.serialize
  flight : forall flush, s.persistInFlight = some flush ->
    flush.snapshot = s.orchestrator.serialize

/-- The flush in flight carries the current state, or it has ended. -/
structure Carrying (s : Scheduler) : Prop where
  flight : forall flush, s.persistInFlight = some flush ->
    flush.snapshot = s.orchestrator.serialize ∧
      (flush.landed = true -> s.stored = some s.orchestrator.serialize)
  ended : s.persistInFlight = none -> s.stored = some s.orchestrator.serialize

theorem current_step {env : EngineEnv} {s : Scheduler} {op : SchedulerOp} (h : Current s)
    (hsame : (schedulerStep env s op).orchestrator = s.orchestrator) :
    Current (schedulerStep env s op) := by
  cases schedulerStep_move env s op with
  | marked _ hflight hstored | unmarked _ _ hflight hstored =>
      constructor
      · rw [hstored, hsame]
        exact h.stored
      · rw [hflight, hsame]
        exact h.flight
  | started _ _ hflight hstored =>
      constructor
      · rw [hstored, hsame]
        exact h.stored
      · intro flush hflush
        rw [hflight, Option.some.injEq] at hflush
        rw [← hflush, hsame]
  | landed _ flush hflush _ _ hflight hstored =>
      have hsnap := h.flight flush hflush
      constructor
      · rw [hstored, hsame, hsnap]
      · intro flush' hflush'
        rw [hflight, Option.some.injEq] at hflush'
        rw [← hflush', hsame]
        exact hsnap
  | finished _ _ _ _ _ _ hflight hstored =>
      constructor
      · rw [hstored, hsame]
        exact h.stored
      · intro flush' hflush'
        rw [hflight] at hflush'
        cases hflush'

theorem carrying_step {env : EngineEnv} {s : Scheduler} {op : SchedulerOp} (h : Carrying s)
    (hsame : (schedulerStep env s op).orchestrator = s.orchestrator) :
    Carrying (schedulerStep env s op) := by
  cases schedulerStep_move env s op with
  | marked _ hflight hstored | unmarked _ _ hflight hstored =>
      constructor
      · rw [hflight, hstored, hsame]
        exact h.flight
      · rw [hflight, hstored, hsame]
        exact h.ended
  | started _ _ hflight _ =>
      constructor
      · intro flush hflush
        rw [hflight, Option.some.injEq] at hflush
        rw [← hflush, hsame]
        exact ⟨rfl, fun hlanded => by cases hlanded⟩
      · intro hnone
        rw [hflight] at hnone
        cases hnone
  | landed _ flush hflush _ _ hflight hstored =>
      have hsnap := (h.flight flush hflush).1
      constructor
      · intro flush' hflush'
        rw [hflight, Option.some.injEq] at hflush'
        rw [← hflush', hstored, hsame]
        exact ⟨hsnap, fun _ => by rw [hsnap]⟩
      · intro hnone
        rw [hflight] at hnone
        cases hnone
  | finished _ flush hflush hlanded _ _ hflight hstored =>
      constructor
      · intro flush' hflush'
        rw [hflight] at hflush'
        cases hflush'
      · intro _
        rw [hstored, hsame]
        exact (h.flight flush hflush).2 hlanded

theorem Carrying.current {s : Scheduler} (h : Carrying s) (hnone : s.persistInFlight = none) :
    Current s where
  stored := h.ended hnone
  flight := by
    intro flush hflush
    rw [hnone] at hflush
    cases hflush

theorem flushCall_step (env : EngineEnv) {s : Scheduler} {call : SchedulerOp}
    (hcall : FlushCall s call) :
    exists t : Scheduler, schedulerStep env s call = t.flushOrchestratorState ∧
      t.orchestrator = s.orchestrator ∧ t.persistDirty = s.persistDirty ∧
      t.persistInFlight = s.persistInFlight ∧ t.stored = s.stored := by
  cases call with
  | intervalTick =>
      have htimer : s.persistIntervalTimer = true := hcall
      exact ⟨s, by simp [schedulerStep, htimer], rfl, rfl, rfl, rfl⟩
  | moduleDestroy =>
      exact ⟨_, rfl, rfl, rfl, rfl, rfl⟩
  | evaluate _ _ _ | recordEntry _ _ | pushEvent | recordExit _ _ _ _ | debounceFires
  | stateWritten | feedWritten =>
      exact absurd hcall id

theorem current_of_skipped {s : Scheduler} {covered : Prop} (hinv : SchedulerInv s covered)
    (hcovered : covered)
    (hflight : forall flush, s.persistInFlight = some flush ->
      flush.landed = true ∧ s.persistDirty = false)
    (hskip : s.persistDirty = false ∨ s.persistInFlight.isSome = true) : Current s := by
  have hclean : s.persistDirty = false := by
    rcases hskip with hclean | hbusy
    · exact hclean
    · rcases Option.isSome_iff_exists.mp hbusy with ⟨flush, hflush⟩
      exact (hflight flush hflush).2
  have hsync : Synced s := by
    rcases hinv.synced hcovered with hdirty | hsync
    · rw [hclean] at hdirty
      cases hdirty
    · exact hsync
  cases hfl : s.persistInFlight with
  | none =>
      rw [Synced, hfl] at hsync
      refine ⟨hsync, ?_⟩
      intro flush hflush
      rw [hfl] at hflush
      cases hflush
  | some flush =>
      rw [Synced, hfl] at hsync
      constructor
      · rw [hinv.landed flush hfl (hflight flush hfl).1, hsync]
      · intro flush' hflush'
        rw [hfl, Option.some.injEq] at hflush'
        rw [← hflush']
        exact hsync

theorem persistedAfter_of_inv {env : EngineEnv} {s : Scheduler} {covered : Prop}
    (hinv : SchedulerInv s covered) (hcovered : covered)
    (hflight : forall flush, s.persistInFlight = some flush ->
      flush.landed = true ∧ s.persistDirty = false)
    {call : SchedulerOp} (hcall : FlushCall s call) (later : List SchedulerOp) :
    PersistedAfter env s call later := by
  intro hunmutated hcompletes
  rcases flushCall_step env hcall with ⟨t, hstep, horch, hdirty, hfl, hstored⟩
  rw [hstep] at hunmutated ⊢
  by_cases hskip : s.persistDirty = false ∨ s.persistInFlight.isSome = true
  · have hcur := current_of_skipped hinv hcovered hflight hskip
    have hsame : t.flushOrchestratorState = t := by
      rw [Scheduler.flushOrchestratorState, hdirty, hfl, if_pos hskip]
    rw [hsame] at hunmutated ⊢
    have ht : Current t := by
      constructor
      · rw [hstored, horch]
        exact hcur.stored
      · rw [hfl, horch]
        exact hcur.flight
    exact (hunmutated.run_inv Current (fun _ _ => current_step) ht).stored
  · have hstarted : Carrying t.flushOrchestratorState := by
      rw [Scheduler.flushOrchestratorState, hdirty, hfl, if_neg hskip]
      constructor
      · intro flush hflush
        rw [Option.some.injEq] at hflush
        rw [← hflush]
        exact ⟨rfl, fun hlanded => by cases hlanded⟩
      · intro hnone
        cases hnone
    rcases hcompletes with hret | ⟨front, back, rfl, hdone⟩
    · exact absurd hret hskip
    · rw [hstep] at hdone
      rcases everyStep_append.mp hunmutated with ⟨hfront, hback⟩
      have hcarry := hfront.run_inv Carrying (fun _ _ => carrying_step) hstarted
      have hcur := hback.run_inv Current (fun _ _ => current_step) (hcarry.current hdone)
      rw [runFrom_append]
      exact hcur.stored

/-- In every run whose flush calls find all changes covered, each of them leaves
the serialized orchestrator in the store. -/
theorem flush_calls_persist_over_runs (env : EngineEnv) (o : LiveSmcOrchestrator)
    (stored : Option (InsertionMap Instrument StateSnapshot)) (ops : List SchedulerOp)
    (hcovered : forall front call back, ops = front ++ call :: back ->
      FlushCall (runFrom (schedulerStep env) (Scheduler.start o stored) front) call ->
      CallCovered env (Scheduler.start o stored) front) :
    forall front call later back, ops = front ++ call :: (later ++ back) ->
      FlushCall (runFrom (schedulerStep env) (Scheduler.start o stored) front) call ->
      PersistedAfter env (runFrom (schedulerStep env) (Scheduler.start o stored) front) call
        later := by
  intro front call later back hops hcall
  rcases hcovered front call (later ++ back) hops hcall with ⟨hchanges, hflight⟩
  have hstart : SchedulerInv (Scheduler.start o stored)
      ((Scheduler.start o stored).stored =
        some (Scheduler.start o stored).orchestrator.serialize) := by
    refine ⟨?_, fun hsync => Or.inr hsync⟩
    intro flush hflush
    cases hflush
  exact persistedAfter_of_inv (schedulerInv_run hstart front) hchanges hflight hcall later

/-!
# An entry and an exit
-/

def emptyStart : Scheduler :=
  Scheduler.start (LiveSmcOrchestrator.create standardRiskCfg) (some [])

/-- An entry marks the state; the next tick flushes it. -/
def entryRun : List SchedulerOp :=
  [.recordEntry .XAUUSD goldStart, .intervalTick, .stateWritten, .feedWritten]

theorem entryRun_covered (front : List SchedulerOp) (call : SchedulerOp)
    (back : List SchedulerOp) (hops : entryRun = front ++ call :: back)
    (hcall : FlushCall (runFrom (schedulerStep documentedEnv) emptyStart front) call) :
    CallCovered documentedEnv emptyStart front := by
  unfold entryRun at hops
  rcases front with _ | ⟨a, _ | ⟨b, _ | ⟨c, _ | ⟨d, front⟩⟩⟩⟩
  · simp only [List.nil_append, List.cons.injEq] at hops
    rw [← hops.1] at hcall
    exact absurd hcall id
  · simp only [List.cons_append, List.nil_append, List.cons.injEq] at hops
    rw [← hops.1]
    refine ⟨Or.inl trivial, ?_⟩
    intro flush hflush
    cases hflush
  · simp only [List.cons_append, List.nil_append, List.cons.injEq] at hops
    rw [← hops.2.2.1] at hcall
    exact absurd hcall id
  · simp only [List.cons_append, List.nil_append, List.cons.injEq] at hops
    rw [← hops.2.2.2.1] at hcall
    exact absurd hcall id
  · simp at hops

theorem entry_reaches_the_store :
    (runFrom (schedulerStep documentedEnv) emptyStart entryRun).stored =
      some (runFrom (schedulerStep documentedEnv) emptyStart entryRun).orchestrator.serialize := by
  refine flush_calls_persist_over_runs documentedEnv
    (LiveSmcOrchestrator.create standardRiskCfg) (some []) entryRun entryRun_covered
    [.recordEntry .XAUUSD goldStart] .intervalTick [.stateWritten, .feedWritten] [] rfl rfl ?_ ?_
  · exact ⟨rfl, rfl, trivial⟩
  · exact Or.inr ⟨[.stateWritten, .feedWritten], [], rfl, rfl⟩

/-- A losing exit leaves no mark, so the backstop tick has nothing to flush. -/
theorem exit_misses_the_store :
    FlushCall (runFrom (schedulerStep documentedEnv) emptyStart
        [.recordExit .XAUUSD .sl goldStart (some (-100))]) .intervalTick ∧
      ¬ PersistedAfter documentedEnv (runFrom (schedulerStep documentedEnv) emptyStart
        [.recordExit .XAUUSD .sl goldStart (some (-100))]) .intervalTick [] := by
  refine ⟨rfl, ?_⟩
  intro hpersisted
  have hstored := hpersisted trivial (Or.inl (Or.inl rfl))
  have hlen : ((runFrom (schedulerStep documentedEnv) (schedulerStep documentedEnv
      (runFrom (schedulerStep documentedEnv) emptyStart
        [.recordExit .XAUUSD .sl goldStart (some (-100))]) .intervalTick) []).stored.map
          List.length) = some 0 := by
    decide +kernel
  rw [hstored] at hlen
  revert hlen
  decide +kernel

end Live
end Shamarx
