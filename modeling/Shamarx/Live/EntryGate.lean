import Shamarx.Live.CircuitBreaker
import Shamarx.Orchestrator.Calls

/-!
# The breaker in front of the entries

A candle starts an evaluation on one of three paths, and an admin can start one
by hand.  Each path has its own placement code; the shared path asks the breaker
between its signal and its orders.
-/

namespace Shamarx
namespace Live
namespace EntryGate

open Foundation
open Engine
open Orchestrator
open CircuitBreaker

inductive EntryPath where
  | evaluatePair
  | evaluatePairForAccount
  | evaluatePairSharedSignal
  deriving DecidableEq

structure EntryConfig where
  engine : EngineEnv
  breaker : BreakerSettings
  fanOutEnabled : Bool
  sharedSignalsEnabled : Bool

def EntryConfig.path (cfg : EntryConfig) : EntryPath :=
  if cfg.fanOutEnabled then
    if cfg.sharedSignalsEnabled then .evaluatePairSharedSignal else .evaluatePairForAccount
  else .evaluatePair

inductive EntryPhase where
  | fetching
  | asking (signal : SmcLiveSignal)
  | answered (signal : SmcLiveSignal) (raw : Option BreakerState)
  | placing (signal : SmcLiveSignal)

/-- The last field records the number of resets before the start, if a trip stood
then. -/
structure Evaluation where
  path : EntryPath
  symbol : Instrument
  account : Option String
  phase : EntryPhase
  pausedAt : Option Nat

/-- The breaker, the orchestrators (the canonical one under none), the
evaluations in flight, and the number of resets so far. -/
structure EntryRun where
  breaker : BreakerRun
  orchestrators : Option String -> LiveSmcOrchestrator
  evaluations : InFlight Evaluation
  resets : Nat

def startEntries (ledger : Ledger) (store : Option BreakerState)
    (orchestrators : Option String -> LiveSmcOrchestrator) : EntryRun :=
  { breaker := startBreaker ledger store
    orchestrators := orchestrators
    evaluations := .empty
    resets := 0 }

inductive EntryOp where
  | breaker (op : BreakerOp)
  | orchestrate (account : Option String) (op : OrchestratorOp)
  | candle (id : Nat) (symbol : Instrument) (account : String)
  | triggerEvaluation (id : Nat) (symbol : Instrument)
  | evaluate (id : Nat) (b : CandleBundle) (ctx : LiveContext)
  | gateRead (id : Nat)
  | gateDone (id : Nat)
  | order (id : Nat)
  | finish (id : Nat) (successfulLegs : Nat)

namespace EntryRun

def setOrchestrator (s : EntryRun) (account : Option String) (o : LiveSmcOrchestrator) :
    EntryRun :=
  { s with orchestrators := fun key => if key = account then o else s.orchestrators key }

def move (s : EntryRun) (id : Nat) (e : Evaluation) (phase : EntryPhase) : EntryRun :=
  { s with evaluations := s.evaluations.put id { e with phase := phase } }

def leave (s : EntryRun) (id : Nat) : EntryRun :=
  { s with evaluations := s.evaluations.drop id }

def startEvaluation (s : EntryRun) (id : Nat) (path : EntryPath) (symbol : Instrument)
    (account : Option String) : EntryRun :=
  { s with
    evaluations := s.evaluations.put id
      { path := path
        symbol := symbol
        account := account
        phase := .fetching
        pausedAt := if s.breaker.latched then some s.resets else none } }

/-- `isTripped` answers from the copy, or goes to Redis. -/
def askBreaker (cfg : EntryConfig) (s : EntryRun) (id : Nat) (e : Evaluation)
    (signal : SmcLiveSignal) : EntryRun :=
  match reported cfg.breaker s.breaker (.ask id) with
  | some true => s.leave id
  | some false => s.move id e (.placing signal)
  | none => s.move id e (.asking signal)

def act (cfg : EntryConfig) (s : EntryRun) (id : Nat) (e : Evaluation)
    (signal : SmcLiveSignal) : EntryRun :=
  match e.path with
  | .evaluatePair => s.move id e (.placing signal)
  | .evaluatePairForAccount => s.move id e (.placing signal)
  | .evaluatePairSharedSignal => s.askBreaker cfg id e signal

def decideEntry (cfg : EntryConfig) (s : EntryRun) (id : Nat) (e : Evaluation)
    (b : CandleBundle) (ctx : LiveContext) : EntryRun :=
  let out := Orchestrator.evaluate cfg.engine (s.orchestrators e.account) e.symbol b ctx none none
  let s := s.setOrchestrator e.account out.1
  match out.2 with
  | .ok (some signal) => s.act cfg id e signal
  | .ok none => s.leave id
  | .error _ => s.leave id

def closeGate (s : EntryRun) (id : Nat) (e : Evaluation) (signal : SmcLiveSignal)
    (raw : Option BreakerState) : EntryRun :=
  let s := { s with breaker := { s.breaker with cached := raw } }
  if flag raw then s.leave id else s.move id e (.placing signal)

def finish (s : EntryRun) (id : Nat) (e : Evaluation) (signal : SmcLiveSignal)
    (successfulLegs : Nat) : EntryRun :=
  if successfulLegs = 0 then s.leave id
  else
    (s.leave id).setOrchestrator e.account
      ((s.orchestrators e.account).recordEntry e.symbol signal.h1SweepTime)

end EntryRun

def resetsBegun : BreakerOp -> Nat
  | .resetDel _ => 1
  | _ => 0

def entryStep (cfg : EntryConfig) (s : EntryRun) : EntryOp -> EntryRun
  | .breaker op =>
      { s with
        breaker := breakerStep cfg.breaker s.breaker op
        resets := s.resets + resetsBegun op }
  | .orchestrate account op =>
      s.setOrchestrator account (orchestratorStep cfg.engine (s.orchestrators account) op)
  | .candle id symbol account =>
      match cfg.path with
      | .evaluatePairForAccount => s.startEvaluation id cfg.path symbol (some account)
      | _ => s.startEvaluation id cfg.path symbol none
  | .triggerEvaluation id symbol => s.startEvaluation id .evaluatePair symbol none
  | .evaluate id b ctx =>
      match s.evaluations id with
      | some e =>
          match e.phase with
          | .fetching => s.decideEntry cfg id e b ctx
          | _ => s
      | none => s
  | .gateRead id =>
      match s.evaluations id with
      | some e =>
          match e.phase with
          | .asking signal => s.move id e (.answered signal s.breaker.store)
          | _ => s
      | none => s
  | .gateDone id =>
      match s.evaluations id with
      | some e =>
          match e.phase with
          | .answered signal raw => s.closeGate id e signal raw
          | _ => s
      | none => s
  | .order _ => s
  | .finish id successfulLegs =>
      match s.evaluations id with
      | some e =>
          match e.phase with
          | .placing signal => s.finish id e signal successfulLegs
          | _ => s
      | none => s

def sender (s : EntryRun) : EntryOp -> Option Evaluation
  | .order id =>
      match s.evaluations id with
      | some e =>
          match e.phase with
          | .placing _ => some e
          | _ => none
      | none => none
  | _ => none

/-- No evaluation that started under a trip sends an order before a reset. -/
def EntriesPaused (s : EntryRun) (op : EntryOp) : Prop :=
  (sender s op).bind Evaluation.pausedAt ≠ some s.resets

instance (s : EntryRun) (op : EntryOp) : Decidable (EntriesPaused s op) :=
  inferInstanceAs (Decidable (_ ≠ _))

/-!
# Conditions on a step
-/

/-- The answer that the evaluation waits for. -/
def Evaluation.answer? (e : Evaluation) : Option (Option BreakerState) :=
  match e.phase with
  | .answered _ raw => some raw
  | _ => none

/-- Under a trip only the shared path starts, with the breaker enabled, and no call
acts on a stored flag that has changed since. -/
def GateSound (cfg : EntryConfig) (s : EntryRun) : EntryOp -> Prop
  | .breaker op => Undisturbed s.breaker op
  | .candle _ _ _ =>
      s.breaker.latched = true ->
        cfg.path = .evaluatePairSharedSignal ∧ cfg.breaker.enabled = true
  | .triggerEvaluation _ _ => s.breaker.latched = false
  | .gateDone id =>
      forall raw, raw ∈ (s.evaluations id).bind Evaluation.answer? ->
        flag s.breaker.store = flag raw
  | _ => True

instance (cfg : EntryConfig) (s : EntryRun) (op : EntryOp) : Decidable (GateSound cfg s op) :=
  match op with
  | .breaker op => inferInstanceAs (Decidable (Undisturbed s.breaker op))
  | .candle _ _ _ =>
      inferInstanceAs (Decidable (s.breaker.latched = true ->
        cfg.path = .evaluatePairSharedSignal ∧ cfg.breaker.enabled = true))
  | .triggerEvaluation _ _ => inferInstanceAs (Decidable (s.breaker.latched = false))
  | .gateDone id =>
      inferInstanceAs (Decidable (forall raw,
        raw ∈ (s.evaluations id).bind Evaluation.answer? -> flag s.breaker.store = flag raw))
  | .orchestrate _ _ => inferInstanceAs (Decidable True)
  | .evaluate _ _ _ => inferInstanceAs (Decidable True)
  | .gateRead _ => inferInstanceAs (Decidable True)
  | .order _ => inferInstanceAs (Decidable True)
  | .finish _ _ => inferInstanceAs (Decidable True)

/-!
# The latch between resets
-/

theorem latched_of_move {cfg : BreakerSettings} {s s' : BreakerRun} {op : BreakerOp}
    (hmove : BreakerMove cfg s op s') (hop : resetsBegun op = 0) (h : s.latched = true) :
    s'.latched = true := by
  cases hmove with
  | completed hcheck =>
      show (s.latched || _) = true
      rw [h, Bool.true_or]
  | resetBegan =>
      cases hop
  | _ =>
      exact h

/-!
# Paused evaluations
-/

/-- An evaluation that started under a trip no reset has ended: it is on the shared
path and has not come to its orders. -/
structure Held (cfg : EntryConfig) (latched : Bool) (e : Evaluation) : Prop where
  latched : latched = true
  enabled : cfg.breaker.enabled = true
  path : e.path = .evaluatePairSharedSignal
  waits : forall signal, e.phase ≠ .placing signal

def PausesHeld (cfg : EntryConfig) (latched : Bool) (resets : Nat) (e : Evaluation) : Prop :=
  (forall n, e.pausedAt = some n -> n ≤ resets) ∧
    (e.pausedAt = some resets -> Held cfg latched e)

structure GateKept (cfg : EntryConfig) (s : EntryRun) : Prop where
  latch : LatchKept s.breaker
  evaluations : s.evaluations.Forall fun _ e =>
    PausesHeld cfg s.breaker.latched s.resets e

section Moves

variable {cfg : EntryConfig} {s : EntryRun} {id : Nat} {e : Evaluation}

theorem GateKept.leave (h : GateKept cfg s) (id : Nat) : GateKept cfg (s.leave id) :=
  ⟨h.latch, h.evaluations.drop id⟩

theorem GateKept.move (h : GateKept cfg s) (he : PausesHeld cfg s.breaker.latched s.resets e)
    {phase : EntryPhase} (hphase : e.pausedAt = some s.resets -> forall signal, phase ≠ .placing signal) :
    GateKept cfg (s.move id e phase) := by
  refine ⟨h.latch, h.evaluations.put ⟨he.1, ?_⟩⟩
  intro hpaused
  exact { he.2 hpaused with waits := hphase hpaused }

theorem GateKept.setOrchestrator (h : GateKept cfg s) (account : Option String)
    (o : LiveSmcOrchestrator) : GateKept cfg (s.setOrchestrator account o) :=
  ⟨h.latch, h.evaluations⟩

theorem GateKept.startEvaluation (h : GateKept cfg s) {path : EntryPath}
    (hpath : s.breaker.latched = true ->
      path = .evaluatePairSharedSignal ∧ cfg.breaker.enabled = true)
    (symbol : Instrument) (account : Option String) :
    GateKept cfg (s.startEvaluation id path symbol account) := by
  refine ⟨h.latch, h.evaluations.put ?_⟩
  cases hlatched : s.breaker.latched with
  | true =>
      constructor
      · intro n hn
        cases hn
        exact Nat.le_refl _
      · intro _
        refine ⟨rfl, (hpath hlatched).2, (hpath hlatched).1, ?_⟩
        intro signal hphase
        cases hphase
  | false =>
      constructor
      · intro n hn
        cases hn
      · intro hpaused
        cases hpaused

theorem GateKept.askBreaker (h : GateKept cfg s) (he : PausesHeld cfg s.breaker.latched s.resets e)
    (signal : SmcLiveSignal) : GateKept cfg (s.askBreaker cfg id e signal) := by
  unfold EntryRun.askBreaker
  split
  · exact h.leave id
  · next hanswer =>
      apply h.move he
      intro hpaused
      exfalso
      have hheld := he.2 hpaused
      unfold reported at hanswer
      dsimp only at hanswer
      rw [if_pos hheld.enabled, Option.map_eq_some_iff] at hanswer
      rcases hanswer with ⟨state, hcached, hstate⟩
      rw [h.latch.cached hheld.latched state hcached] at hstate
      cases hstate
  · apply h.move he
    intro _ other hphase
    cases hphase

theorem GateKept.act (h : GateKept cfg s) (he : PausesHeld cfg s.breaker.latched s.resets e)
    (signal : SmcLiveSignal) : GateKept cfg (s.act cfg id e signal) := by
  unfold EntryRun.act
  split
  · next hpath =>
      apply h.move he
      intro hpaused
      rw [(he.2 hpaused).path] at hpath
      cases hpath
  · next hpath =>
      apply h.move he
      intro hpaused
      rw [(he.2 hpaused).path] at hpath
      cases hpath
  · exact h.askBreaker he signal

theorem GateKept.closeGate (h : GateKept cfg s) (he : PausesHeld cfg s.breaker.latched s.resets e)
    (signal : SmcLiveSignal) {raw : Option BreakerState}
    (hraw : flag s.breaker.store = flag raw) :
    GateKept cfg (s.closeGate id e signal raw) := by
  have hkept : GateKept cfg { s with breaker := { s.breaker with cached := raw } } :=
    ⟨h.latch.setCached hraw s.breaker.asks, h.evaluations⟩
  unfold EntryRun.closeGate
  dsimp only
  split_ifs with hflag
  · exact hkept.leave id
  · apply hkept.move he
    intro hpaused
    exfalso
    apply hflag
    rw [← hraw]
    exact h.latch.store (he.2 hpaused).latched

end Moves

/-!
# Whole runs
-/

theorem GateKept.breakerOp {cfg : EntryConfig} {s : EntryRun} (h : GateKept cfg s)
    {op : BreakerOp} (hop : Undisturbed s.breaker op) :
    GateKept cfg (entryStep cfg s (.breaker op)) := by
  have hmove := breakerStep_move cfg.breaker s.breaker op
  refine ⟨h.latch.step hmove hop, h.evaluations.imp ?_⟩
  intro _ e he
  constructor
  · intro n hn
    exact Nat.le_trans (he.1 n hn) (Nat.le_add_right _ _)
  · intro hpaused
    have hnone : resetsBegun op = 0 := by
      have hle := he.1 _ hpaused
      simp only [entryStep] at hle
      omega
    have hsame : e.pausedAt = some s.resets := by
      rw [hpaused]
      simp only [entryStep, hnone, Nat.add_zero]
    exact { he.2 hsame with
      latched := latched_of_move hmove hnone (he.2 hsame).latched }

theorem entryStep_gateKept {cfg : EntryConfig} {s : EntryRun} (op : EntryOp)
    (h : GateKept cfg s) (hop : GateSound cfg s op) : GateKept cfg (entryStep cfg s op) := by
  cases op with
  | breaker op =>
      exact h.breakerOp hop
  | orchestrate account op =>
      exact h.setOrchestrator account _
  | candle id symbol account =>
      unfold entryStep
      dsimp only
      split
      · exact h.startEvaluation hop symbol (some account)
      · exact h.startEvaluation hop symbol none
  | triggerEvaluation id symbol =>
      apply h.startEvaluation
      intro hlatched
      have hfree : s.breaker.latched = false := hop
      rw [hfree] at hlatched
      cases hlatched
  | evaluate id b ctx =>
      unfold entryStep
      dsimp only
      split
      · next e hcall =>
          split
          · have he := h.evaluations id e hcall
            unfold EntryRun.decideEntry
            dsimp only
            split
            · exact (h.setOrchestrator _ _).act he _
            · exact (h.setOrchestrator _ _).leave id
            · exact (h.setOrchestrator _ _).leave id
          · exact h
      · exact h
  | gateRead id =>
      unfold entryStep
      dsimp only
      split
      · next e hcall =>
          split
          · apply h.move (h.evaluations id e hcall)
            intro _ signal hphase
            cases hphase
          · exact h
      · exact h
  | gateDone id =>
      unfold entryStep
      dsimp only
      split
      · next e hcall =>
          split
          · next signal raw hphase =>
              apply h.closeGate (h.evaluations id e hcall)
              apply hop
              rw [hcall, Option.bind_some, Evaluation.answer?, hphase]
              rfl
          · exact h
      · exact h
  | order id =>
      exact h
  | finish id successfulLegs =>
      unfold entryStep
      dsimp only
      split
      · split
        · unfold EntryRun.finish
          split_ifs
          · exact h.leave id
          · exact (h.leave id).setOrchestrator _ _
        · exact h
      · exact h

theorem entriesPaused_of_kept {cfg : EntryConfig} {s : EntryRun} (op : EntryOp)
    (h : GateKept cfg s) : EntriesPaused s op := by
  intro hsent
  rw [Option.bind_eq_some_iff] at hsent
  rcases hsent with ⟨e, hsender, hpaused⟩
  cases op with
  | order id =>
      unfold sender at hsender
      dsimp only at hsender
      split at hsender
      · next found hcall =>
          split at hsender
          · next signal hphase =>
              cases hsender
              exact ((h.evaluations id e hcall).2 hpaused).waits signal hphase
          · cases hsender
      · cases hsender
  | _ =>
      cases hsender

theorem startEntries_gateKept (cfg : EntryConfig) (ledger : Ledger)
    (store : Option BreakerState) (orchestrators : Option String -> LiveSmcOrchestrator) :
    GateKept cfg (startEntries ledger store orchestrators) :=
  ⟨startBreaker_latchKept ledger store, InFlight.forall_empty _⟩

/-- In every run that starts only shared evaluations under a trip, and whose calls
act on a stored flag that is still the one they know, no evaluation that started
under a trip sends an order before a reset. -/
theorem entries_paused_over_runs (cfg : EntryConfig) (ledger : Ledger)
    (store : Option BreakerState) (orchestrators : Option String -> LiveSmcOrchestrator)
    (ops : List EntryOp)
    (hsound : EveryStep (entryStep cfg) (GateSound cfg)
      (startEntries ledger store orchestrators) ops) :
    EveryStep (entryStep cfg) EntriesPaused (startEntries ledger store orchestrators) ops := by
  apply everyStep_of_inv (GateKept cfg) _ _ _ hsound
  · intro s op h hop
    exact entryStep_gateKept op h hop
  · intro s op h _
    exact entriesPaused_of_kept op h
  · exact startEntries_gateKept cfg ledger store orchestrators

/-!
# Entries past a tripped breaker
-/

def goldEntries (fanOutEnabled sharedSignalsEnabled : Bool) : EntryConfig :=
  { engine := documentedEnv
    breaker := standardBreaker
    fanOutEnabled := fanOutEnabled
    sharedSignalsEnabled := sharedSignalsEnabled }

def freshOrchestrators : Option String -> LiveSmcOrchestrator := fun _ =>
  LiveSmcOrchestrator.create standardRiskCfg

/-- A check trips the breaker; the next candle of gold fires. -/
def trippedThenCandle : List EntryOp :=
  (fullCheck 0).map EntryOp.breaker ++
    [.candle 0 .XAUUSD "main", .evaluate 0 (twoWickWindow 60 0) goldContext, .order 0]

set_option maxRecDepth 20000 in
theorem shared_entry_waits_for_reset :
    EveryStep (entryStep (goldEntries true true)) (GateSound (goldEntries true true))
        (startEntries bleeding none freshOrchestrators) trippedThenCandle ∧
      EveryStep (entryStep (goldEntries true true)) EntriesPaused
        (startEntries bleeding none freshOrchestrators) trippedThenCandle := by
  have hsound : EveryStep (entryStep (goldEntries true true)) (GateSound (goldEntries true true))
      (startEntries bleeding none freshOrchestrators) trippedThenCandle := by
    decide +kernel
  exact ⟨hsound, entries_paused_over_runs (goldEntries true true) bleeding none
    freshOrchestrators trippedThenCandle hsound⟩

set_option maxRecDepth 20000 in
/-- The legacy path and the fan-out path place orders past the trip. -/
theorem unshared_entries_pass_the_trip :
    ¬ EveryStep (entryStep (goldEntries false false)) EntriesPaused
        (startEntries bleeding none freshOrchestrators) trippedThenCandle ∧
      ¬ EveryStep (entryStep (goldEntries true false)) EntriesPaused
        (startEntries bleeding none freshOrchestrators) trippedThenCandle := by
  constructor
  · decide +kernel
  · decide +kernel

end EntryGate
end Live
end Shamarx
