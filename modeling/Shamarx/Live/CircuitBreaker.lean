import Mathlib.Algebra.BigOperators.Group.List.Basic
import Shamarx.Foundation.Calendar
import Shamarx.Foundation.InFlight
import Shamarx.Foundation.Rounding
import Shamarx.Foundation.Runs

/-!
# The circuit breaker

The breaker keeps its state in Redis and a copy in the process.  Checks, queries
and resets interleave at their awaits: a check reads the losses, the equity and
the stored state, writes the new state and only then its copy.
-/

namespace Shamarx
namespace Live
namespace CircuitBreaker

open Foundation

structure BreakerSettings where
  enabled : Bool
  lossPct : ℚ

structure BreakerState where
  tripped : Bool
  trippedAt : Option Int
  rollingPnl : ℚ
  threshold : ℚ
  deriving DecidableEq

structure ClosedTrade where
  closedAt : Int
  pnl : Option ℚ
  exitReason : Option String
  deriving DecidableEq

/-- What the checks read: the clock, the closed trades, and the newest equity
snapshot of each enabled account. -/
structure Ledger where
  now : Int
  trades : List ClosedTrade
  snapshots : List ℚ

def rollingDays : Int := 60

def Ledger.since (l : Ledger) : Int :=
  l.now - rollingDays * msPerDay

def Counted (since : Int) (t : ClosedTrade) : Prop :=
  since ≤ t.closedAt ∧ t.exitReason ≠ some "ORPHAN" ∧ t.exitReason ≠ some "STALE_BROKER"

instance (since : Int) (t : ClosedTrade) : Decidable (Counted since t) :=
  inferInstanceAs (Decidable (_ ∧ _ ∧ _))

def windowTrades (trades : List ClosedTrade) (since : Int) : List ClosedTrade :=
  trades.filter fun t => decide (Counted since t)

def rollingPnl (trades : List ClosedTrade) (since : Int) : ℚ :=
  ((windowTrades trades since).filterMap ClosedTrade.pnl).sum

def equityBasis (snapshots : List ℚ) : ℚ :=
  if snapshots.sum = 0 then 1000 else snapshots.sum

def thresholdOf (cfg : BreakerSettings) (equity : ℚ) : ℚ :=
  -(cfg.lossPct / 100) * equity

def flag : Option BreakerState -> Bool
  | some st => st.tripped
  | none => false

def nextState (cfg : BreakerSettings) (now : Int) (pnl equity : ℚ)
    (prev : Option BreakerState) : BreakerState :=
  let breached := decide (pnl ≤ thresholdOf cfg equity)
  { tripped := flag prev || breached
    trippedAt :=
      if flag prev then prev.bind BreakerState.trippedAt
      else if breached then some now else none
    rollingPnl := roundTo 100 pnl
    threshold := roundTo 100 (thresholdOf cfg equity) }

/-!
# Calls in flight
-/

inductive CheckPhase where
  | started (since : Int)
  | summed (pnl : ℚ)
  | weighed (pnl equity : ℚ)
  | compared (pnl equity : ℚ) (prev : Option BreakerState) (now : Int)
  | stored (state : BreakerState)

inductive AskPhase where
  | waiting
  | answered (raw : Option BreakerState)

/-- The breaker of a process.  The last two fields record what has happened: a
check has completed with a trip and no reset has begun since; a reset has
completed and nothing that the checks read has changed since. -/
structure BreakerRun where
  ledger : Ledger
  store : Option BreakerState
  cached : Option BreakerState
  checks : InFlight CheckPhase
  asks : InFlight AskPhase
  resets : InFlight Unit
  latched : Bool
  resumed : Bool

def startBreaker (ledger : Ledger) (store : Option BreakerState) : BreakerRun :=
  { ledger := ledger
    store := store
    cached := none
    checks := .empty
    asks := .empty
    resets := .empty
    latched := flag store
    resumed := false }

/-- No trade closes, none leaves the window, and the equity basis stays. -/
def SameFigures (l l' : Ledger) : Prop :=
  l'.trades = l.trades ∧
    windowTrades l'.trades l'.since = windowTrades l.trades l.since ∧
    equityBasis l'.snapshots = equityBasis l.snapshots

instance (l l' : Ledger) : Decidable (SameFigures l l') :=
  inferInstanceAs (Decidable (_ ∧ _ ∧ _))

inductive BreakerOp where
  | elapse (ledger : Ledger)
  | checkStart (id : Nat)
  | checkSum (id : Nat)
  | checkWeigh (id : Nat)
  | checkCompare (id : Nat)
  | checkStore (id : Nat)
  | checkDone (id : Nat)
  | ask (id : Nat)
  | askRead (id : Nat)
  | askDone (id : Nat)
  | resetDel (id : Nat)
  | resetDone (id : Nat)

/-- One step between awaits.  A step of a call that is not there does nothing. -/
def breakerStep (cfg : BreakerSettings) (s : BreakerRun) : BreakerOp -> BreakerRun
  | .elapse ledger =>
      { s with ledger := ledger, resumed := s.resumed && decide (SameFigures s.ledger ledger) }
  | .checkStart id => { s with checks := s.checks.put id (.started s.ledger.since) }
  | .checkSum id =>
      match s.checks id with
      | some (.started since) =>
          { s with checks := s.checks.put id (.summed (rollingPnl s.ledger.trades since)) }
      | _ => s
  | .checkWeigh id =>
      match s.checks id with
      | some (.summed pnl) =>
          { s with checks := s.checks.put id (.weighed pnl (equityBasis s.ledger.snapshots)) }
      | _ => s
  | .checkCompare id =>
      match s.checks id with
      | some (.weighed pnl equity) =>
          { s with checks := s.checks.put id (.compared pnl equity s.store s.ledger.now) }
      | _ => s
  | .checkStore id =>
      match s.checks id with
      | some (.compared pnl equity prev now) =>
          let state := nextState cfg now pnl equity prev
          { s with store := some state, checks := s.checks.put id (.stored state) }
      | _ => s
  | .checkDone id =>
      match s.checks id with
      | some (.stored state) =>
          { s with
            cached := some state
            checks := s.checks.drop id
            latched := s.latched || state.tripped }
      | _ => s
  | .ask id =>
      if cfg.enabled && s.cached.isNone then { s with asks := s.asks.put id .waiting } else s
  | .askRead id =>
      match s.asks id with
      | some .waiting => { s with asks := s.asks.put id (.answered s.store) }
      | _ => s
  | .askDone id =>
      match s.asks id with
      | some (.answered raw) => { s with cached := raw, asks := s.asks.drop id }
      | _ => s
  | .resetDel id => { s with store := none, latched := false, resets := s.resets.put id () }
  | .resetDone id =>
      match s.resets id with
      | some () => { s with cached := none, resets := s.resets.drop id, resumed := true }
      | none => s

def reported (cfg : BreakerSettings) (s : BreakerRun) : BreakerOp -> Option Bool
  | .checkDone id =>
      match s.checks id with
      | some (.stored state) => some state.tripped
      | _ => none
  | .ask _ =>
      if cfg.enabled then s.cached.map BreakerState.tripped else some false
  | .askDone id =>
      match s.asks id with
      | some (.answered raw) => some (flag raw)
      | _ => none
  | _ => none

/-- A trip is reported until a reset begins, and no trip is reported after a reset
while the figures stay. -/
def DecisionHeld (cfg : BreakerSettings) (s : BreakerRun) (op : BreakerOp) : Prop :=
  (s.latched = true -> reported cfg s op ≠ some false) ∧
    (s.resumed = true -> reported cfg s op ≠ some true)

instance (cfg : BreakerSettings) (s : BreakerRun) (op : BreakerOp) :
    Decidable (DecisionHeld cfg s op) :=
  inferInstanceAs (Decidable (_ ∧ _))

/-!
# Conditions on a step
-/

/-- A call that acts on a stored state it has read or written acts while the stored
flag is still the one it knows. -/
def Undisturbed (s : BreakerRun) : BreakerOp -> Prop
  | .checkStore id =>
      match s.checks id with
      | some (.compared _ _ prev _) => flag s.store = flag prev
      | _ => True
  | .checkDone id =>
      match s.checks id with
      | some (.stored state) => flag s.store = state.tripped
      | _ => True
  | .askDone id =>
      match s.asks id with
      | some (.answered raw) => flag s.store = flag raw
      | _ => True
  | _ => True

instance (s : BreakerRun) (op : BreakerOp) : Decidable (Undisturbed s op) := by
  unfold Undisturbed
  split
  · split <;> infer_instance
  · split <;> infer_instance
  · split <;> infer_instance
  · infer_instance

section Undisturbed

variable {s : BreakerRun} {id : Nat}

theorem Undisturbed.checkStore (h : Undisturbed s (.checkStore id)) {pnl equity : ℚ}
    {prev : Option BreakerState} {now : Int}
    (hcheck : s.checks id = some (.compared pnl equity prev now)) : flag s.store = flag prev := by
  simpa only [Undisturbed, hcheck] using h

theorem Undisturbed.checkDone (h : Undisturbed s (.checkDone id)) {state : BreakerState}
    (hcheck : s.checks id = some (.stored state)) : flag s.store = state.tripped := by
  simpa only [Undisturbed, hcheck] using h

theorem Undisturbed.askDone (h : Undisturbed s (.askDone id)) {raw : Option BreakerState}
    (hask : s.asks id = some (.answered raw)) : flag s.store = flag raw := by
  simpa only [Undisturbed, hask] using h

end Undisturbed

def CheckPhase.Breaches (cfg : BreakerSettings) (l : Ledger) : CheckPhase -> Prop
  | .started since => rollingPnl l.trades since ≤ thresholdOf cfg (equityBasis l.snapshots)
  | .summed pnl => pnl ≤ thresholdOf cfg (equityBasis l.snapshots)
  | .weighed pnl equity => pnl ≤ thresholdOf cfg equity
  | .compared pnl equity _ _ => pnl ≤ thresholdOf cfg equity
  | .stored _ => False

/-- A reset completes with nothing tripped in the store, and neither the figures of
the moment nor those of a check in flight breach the threshold. -/
def ResetsClean (cfg : BreakerSettings) (s : BreakerRun) : BreakerOp -> Prop
  | .resetDone id =>
      s.resets id = some () ->
        flag s.store = false ∧ ¬ (CheckPhase.started s.ledger.since).Breaches cfg s.ledger ∧
          s.checks.Forall fun _ phase => ¬ phase.Breaches cfg s.ledger
  | _ => True

def AsksEnabled (cfg : BreakerSettings) : BreakerOp -> Prop
  | .ask _ => cfg.enabled = true
  | _ => True

instance (cfg : BreakerSettings) (op : BreakerOp) : Decidable (AsksEnabled cfg op) := by
  unfold AsksEnabled
  split <;> infer_instance

def BreakerSound (cfg : BreakerSettings) (s : BreakerRun) (op : BreakerOp) : Prop :=
  Undisturbed s op ∧ ResetsClean cfg s op ∧ AsksEnabled cfg op

/-!
# What a step can do
-/

inductive BreakerMove (cfg : BreakerSettings) (s : BreakerRun) : BreakerOp -> BreakerRun -> Prop where
  | idle {op : BreakerOp} : BreakerMove cfg s op s
  | elapsed {ledger : Ledger} :
      BreakerMove cfg s (.elapse ledger)
        { s with
          ledger := ledger
          resumed := s.resumed && decide (SameFigures s.ledger ledger) }
  | started {id : Nat} :
      BreakerMove cfg s (.checkStart id)
        { s with checks := s.checks.put id (.started s.ledger.since) }
  | moved {op : BreakerOp} {id : Nat} {before after : CheckPhase}
      (check : s.checks id = some before)
      (figures : after.Breaches cfg s.ledger -> before.Breaches cfg s.ledger) :
      BreakerMove cfg s op { s with checks := s.checks.put id after }
  | wrote {id : Nat} {pnl equity : ℚ} {prev : Option BreakerState} {now : Int}
      (check : s.checks id = some (.compared pnl equity prev now)) :
      BreakerMove cfg s (.checkStore id)
        { s with
          store := some (nextState cfg now pnl equity prev)
          checks := s.checks.put id (.stored (nextState cfg now pnl equity prev)) }
  | completed {id : Nat} {state : BreakerState} (check : s.checks id = some (.stored state)) :
      BreakerMove cfg s (.checkDone id)
        { s with
          cached := some state
          checks := s.checks.drop id
          latched := s.latched || state.tripped }
  | asked {op : BreakerOp} {asks : InFlight AskPhase} :
      BreakerMove cfg s op { s with asks := asks }
  | answered {id : Nat} {raw : Option BreakerState} (ask : s.asks id = some (.answered raw)) :
      BreakerMove cfg s (.askDone id) { s with cached := raw, asks := s.asks.drop id }
  | resetBegan {id : Nat} :
      BreakerMove cfg s (.resetDel id)
        { s with store := none, latched := false, resets := s.resets.put id () }
  | resetEnded {id : Nat} (reset : s.resets id = some ()) :
      BreakerMove cfg s (.resetDone id)
        { s with cached := none, resets := s.resets.drop id, resumed := true }

theorem breakerStep_move (cfg : BreakerSettings) (s : BreakerRun) (op : BreakerOp) :
    BreakerMove cfg s op (breakerStep cfg s op) := by
  cases op with
  | elapse ledger =>
      exact .elapsed
  | checkStart id =>
      exact .started
  | checkSum id =>
      unfold breakerStep
      dsimp only
      split
      · next since hcheck =>
          exact .moved hcheck fun h => h
      · exact .idle
  | checkWeigh id =>
      unfold breakerStep
      dsimp only
      split
      · next pnl hcheck =>
          exact .moved hcheck fun h => h
      · exact .idle
  | checkCompare id =>
      unfold breakerStep
      dsimp only
      split
      · next pnl equity hcheck =>
          exact .moved hcheck fun h => h
      · exact .idle
  | checkStore id =>
      unfold breakerStep
      dsimp only
      split
      · next pnl equity prev now hcheck =>
          exact .wrote hcheck
      · exact .idle
  | checkDone id =>
      unfold breakerStep
      dsimp only
      split
      · next state hcheck =>
          exact .completed hcheck
      · exact .idle
  | ask id =>
      unfold breakerStep
      dsimp only
      split_ifs
      · exact .asked
      · exact .idle
  | askRead id =>
      unfold breakerStep
      dsimp only
      split
      · exact .asked
      · exact .idle
  | askDone id =>
      unfold breakerStep
      dsimp only
      split
      · next raw hask =>
          exact .answered hask
      · exact .idle
  | resetDel id =>
      exact .resetBegan
  | resetDone id =>
      unfold breakerStep
      dsimp only
      split
      · next hreset =>
          exact .resetEnded hreset
      · exact .idle

/-!
# The latch
-/

/-- While latched, the store is tripped and so is any copy of it. -/
structure LatchKept (s : BreakerRun) : Prop where
  store : s.latched = true -> flag s.store = true
  cached : s.latched = true -> forall state, s.cached = some state -> state.tripped = true

theorem LatchKept.setCached {s : BreakerRun} (h : LatchKept s) {raw : Option BreakerState}
    (hraw : flag s.store = flag raw) (asks : InFlight AskPhase) :
    LatchKept { s with cached := raw, asks := asks } := by
  refine ⟨h.store, ?_⟩
  intro hlatched state hstate
  have htripped := h.store hlatched
  rw [hraw] at htripped
  cases hstate
  exact htripped

theorem flag_nextState (cfg : BreakerSettings) (now : Int) (pnl equity : ℚ)
    (prev : Option BreakerState) :
    (nextState cfg now pnl equity prev).tripped =
      (flag prev || decide (pnl ≤ thresholdOf cfg equity)) := rfl

theorem LatchKept.step {cfg : BreakerSettings} {s s' : BreakerRun} {op : BreakerOp}
    (h : LatchKept s) (hmove : BreakerMove cfg s op s') (hop : Undisturbed s op) :
    LatchKept s' := by
  cases hmove with
  | idle =>
      exact h
  | elapsed =>
      exact ⟨h.store, h.cached⟩
  | started =>
      exact ⟨h.store, h.cached⟩
  | moved hcheck hfigures =>
      exact ⟨h.store, h.cached⟩
  | asked =>
      exact ⟨h.store, h.cached⟩
  | @wrote id pnl equity prev now hcheck =>
      refine ⟨?_, h.cached⟩
      intro hlatched
      have hprev := hop.checkStore hcheck
      rw [h.store hlatched] at hprev
      show (nextState cfg now pnl equity prev).tripped = true
      rw [flag_nextState, ← hprev]
      rfl
  | @completed id state hcheck =>
      have hflag := hop.checkDone hcheck
      have htripped : (s.latched || state.tripped) = true -> state.tripped = true := by
        intro hlatched
        cases hbefore : s.latched with
        | true =>
            rw [← hflag]
            exact h.store hbefore
        | false =>
            rwa [hbefore, Bool.false_or] at hlatched
      constructor
      · intro hlatched
        exact hflag.trans (htripped hlatched)
      · intro hlatched copy hcopy
        cases hcopy
        exact htripped hlatched
  | answered hask =>
      exact h.setCached (hop.askDone hask) _
  | resetBegan =>
      constructor
      · intro hlatched
        cases hlatched
      · intro hlatched
        cases hlatched
  | resetEnded hreset =>
      refine ⟨h.store, ?_⟩
      intro _ state hstate
      cases hstate

/-!
# The reset
-/

/-- After a reset, while the figures stay: nothing is tripped, and no figures that a
check has read or will read breach the threshold. -/
structure ResumeKept (cfg : BreakerSettings) (s : BreakerRun) : Prop where
  store : s.resumed = true -> flag s.store = false
  cached : s.resumed = true -> forall state, s.cached = some state -> state.tripped = false
  ledger : s.resumed = true -> ¬ (CheckPhase.started s.ledger.since).Breaches cfg s.ledger
  checks : s.resumed = true -> s.checks.Forall fun _ phase => ¬ phase.Breaches cfg s.ledger

theorem breaches_elapse {cfg : BreakerSettings} {l l' : Ledger} (h : SameFigures l l')
    {phase : CheckPhase} (hphase : ¬ phase.Breaches cfg l) : ¬ phase.Breaches cfg l' := by
  rcases h with ⟨htrades, -, hequity⟩
  cases phase with
  | started since =>
      simp only [CheckPhase.Breaches, htrades, hequity] at hphase ⊢
      exact hphase
  | summed pnl =>
      simp only [CheckPhase.Breaches, hequity] at hphase ⊢
      exact hphase
  | weighed pnl equity =>
      exact hphase
  | compared pnl equity prev now =>
      exact hphase
  | stored state =>
      exact hphase

theorem ResumeKept.move {cfg : BreakerSettings} {s : BreakerRun} (h : ResumeKept cfg s)
    (id : Nat) {phase : CheckPhase}
    (hphase : s.resumed = true -> ¬ phase.Breaches cfg s.ledger) :
    ResumeKept cfg { s with checks := s.checks.put id phase } :=
  { h with checks := fun hresumed => (h.checks hresumed).put (hphase hresumed) }

theorem ResumeKept.elapse {cfg : BreakerSettings} {s : BreakerRun} (h : ResumeKept cfg s)
    (ledger : Ledger) :
    ResumeKept cfg
      { s with
        ledger := ledger
        resumed := s.resumed && decide (SameFigures s.ledger ledger) } := by
  have hboth : (s.resumed && decide (SameFigures s.ledger ledger)) = true ->
      s.resumed = true ∧ SameFigures s.ledger ledger := by
    intro hresumed
    rwa [Bool.and_eq_true, decide_eq_true_eq] at hresumed
  constructor
  · intro hresumed
    exact h.store (hboth hresumed).1
  · intro hresumed
    exact h.cached (hboth hresumed).1
  · intro hresumed
    rcases hboth hresumed with ⟨hbefore, hsame⟩
    have hpnl : rollingPnl ledger.trades ledger.since =
        rollingPnl s.ledger.trades s.ledger.since := by
      rw [rollingPnl, hsame.2.1]
      rfl
    have hquiet := h.ledger hbefore
    simp only [CheckPhase.Breaches] at hquiet
    show ¬ rollingPnl ledger.trades ledger.since ≤
      thresholdOf cfg (equityBasis ledger.snapshots)
    rw [hpnl, hsame.2.2]
    exact hquiet
  · intro hresumed
    rcases hboth hresumed with ⟨hbefore, hsame⟩
    exact (h.checks hbefore).imp fun _ _ hphase => breaches_elapse hsame hphase

theorem ResumeKept.step {cfg : BreakerSettings} {s s' : BreakerRun} {op : BreakerOp}
    (h : ResumeKept cfg s) (hmove : BreakerMove cfg s op s') (hop : Undisturbed s op)
    (hclean : ResetsClean cfg s op) : ResumeKept cfg s' := by
  cases hmove with
  | idle =>
      exact h
  | elapsed =>
      exact h.elapse _
  | started =>
      exact h.move _ h.ledger
  | @moved _ id before after hcheck hfigures =>
      apply h.move
      intro hresumed hbreach
      exact h.checks hresumed id before hcheck (hfigures hbreach)
  | @wrote id pnl equity prev now hcheck =>
      refine
        { h with
          store := ?_
          checks := fun hresumed => (h.checks hresumed).put not_false }
      intro hresumed
      have hprev := hop.checkStore hcheck
      have hquiet : ¬ pnl ≤ thresholdOf cfg equity := h.checks hresumed id _ hcheck
      rw [h.store hresumed] at hprev
      show (nextState cfg now pnl equity prev).tripped = false
      rw [flag_nextState, ← hprev, decide_eq_false hquiet]
      rfl
  | @completed id state hcheck =>
      refine
        { h with
          cached := ?_
          checks := fun hresumed => (h.checks hresumed).drop id }
      intro hresumed copy hcopy
      cases hcopy
      rw [← hop.checkDone hcheck]
      exact h.store hresumed
  | asked =>
      exact { h with }
  | answered hask =>
      refine { h with cached := ?_ }
      intro hresumed state hstate
      have hflag := hop.askDone hask
      rw [h.store hresumed] at hflag
      cases hstate
      exact hflag.symm
  | resetBegan =>
      exact { h with store := fun _ => rfl }
  | resetEnded hreset =>
      rcases hclean hreset with ⟨hstore, hledger, hchecks⟩
      constructor
      · intro _
        exact hstore
      · intro _ state hstate
        cases hstate
      · intro _
        exact hledger
      · intro _
        exact hchecks

/-!
# Whole runs
-/

theorem decisionHeld_of_kept {cfg : BreakerSettings} {s : BreakerRun} (op : BreakerOp)
    (hlatch : LatchKept s) (hresume : ResumeKept cfg s) (hop : Undisturbed s op)
    (henabled : AsksEnabled cfg op) : DecisionHeld cfg s op := by
  have hreport : forall b, reported cfg s op = some b ->
      b = flag s.store ∨ exists state, s.cached = some state ∧ state.tripped = b := by
    intro b hb
    cases op with
    | checkDone id =>
        unfold reported at hb
        dsimp only at hb
        split at hb
        · next state hcheck =>
            cases hb
            exact Or.inl (hop.checkDone hcheck).symm
        · cases hb
    | ask id =>
        unfold reported at hb
        have hon : cfg.enabled = true := henabled
        rw [if_pos hon, Option.map_eq_some_iff] at hb
        exact Or.inr hb
    | askDone id =>
        unfold reported at hb
        dsimp only at hb
        split at hb
        · next raw hask =>
            cases hb
            exact Or.inl (hop.askDone hask).symm
        · cases hb
    | _ =>
        cases hb
  constructor
  · intro hlatched hfalse
    rcases hreport false hfalse with hstore | ⟨state, hcached, hstate⟩
    · rw [hlatch.store hlatched] at hstore
      cases hstore
    · rw [hlatch.cached hlatched state hcached] at hstate
      cases hstate
  · intro hresumed htrue
    rcases hreport true htrue with hstore | ⟨state, hcached, hstate⟩
    · rw [hresume.store hresumed] at hstore
      cases hstore
    · rw [hresume.cached hresumed state hcached] at hstate
      cases hstate

theorem startBreaker_latchKept (ledger : Ledger) (store : Option BreakerState) :
    LatchKept (startBreaker ledger store) := by
  constructor
  · intro hlatched
    exact hlatched
  · intro _ state hstate
    cases hstate

theorem startBreaker_resumeKept (cfg : BreakerSettings) (ledger : Ledger)
    (store : Option BreakerState) : ResumeKept cfg (startBreaker ledger store) := by
  constructor <;> (intro hresumed; cases hresumed)

/-- In every interleaving whose calls act on a stored flag that is still the one
they know, and whose resets complete with no breach in the figures, a trip is
reported until a reset and no trip after it. -/
theorem breaker_decisions_held_over_runs (cfg : BreakerSettings) (ledger : Ledger)
    (store : Option BreakerState) (ops : List BreakerOp)
    (hsound : EveryStep (breakerStep cfg) (BreakerSound cfg) (startBreaker ledger store) ops) :
    EveryStep (breakerStep cfg) (DecisionHeld cfg) (startBreaker ledger store) ops := by
  apply everyStep_of_inv (fun s => LatchKept s ∧ ResumeKept cfg s) _ _ _ hsound
  · intro s op hkept hop
    have hmove := breakerStep_move cfg s op
    exact ⟨hkept.1.step hmove hop.1, hkept.2.step hmove hop.1 hop.2.1⟩
  · intro s op hkept hop
    exact decisionHeld_of_kept op hkept.1 hkept.2 hop.1 hop.2.2
  · exact ⟨startBreaker_latchKept ledger store, startBreaker_resumeKept cfg ledger store⟩

/-!
# Decisions that are not held
-/

def standardBreaker : BreakerSettings :=
  { enabled := true, lossPct := 15 }

def fullCheck (id : Nat) : List BreakerOp :=
  [.checkStart id, .checkSum id, .checkWeigh id, .checkCompare id, .checkStore id, .checkDone id]

/-- A loss of 400 dollars against an equity of 1950. -/
def bleeding : Ledger :=
  { now := dayStart 20500
    trades := [{ closedAt := dayStart 20499, pnl := some (-400), exitReason := some "SL" }]
    snapshots := [1000, 950] }

def steady : Ledger :=
  { bleeding with trades := [] }

def trippedStore : BreakerState :=
  { tripped := true, trippedAt := some (dayStart 20490), rollingPnl := -400, threshold := -585 / 2 }

/-- A trip from an earlier process is reported, reset and not reported again. -/
def resumedRun : List BreakerOp :=
  [.ask 0, .askRead 0, .askDone 0, .resetDel 0, .resetDone 0] ++ fullCheck 0 ++ [.ask 1]

theorem trip_resumed_for_good :
    EveryStep (breakerStep standardBreaker) (BreakerSound standardBreaker)
        (startBreaker steady (some trippedStore)) resumedRun ∧
      EveryStep (breakerStep standardBreaker) (DecisionHeld standardBreaker)
        (startBreaker steady (some trippedStore)) resumedRun := by
  have hundisturbed : EveryStep (breakerStep standardBreaker) Undisturbed
      (startBreaker steady (some trippedStore)) resumedRun := by
    decide +kernel
  have henabled : EveryStep (breakerStep standardBreaker)
      (fun _ op => AsksEnabled standardBreaker op)
      (startBreaker steady (some trippedStore)) resumedRun := by
    decide +kernel
  have hclean : EveryStep (breakerStep standardBreaker) (ResetsClean standardBreaker)
      (startBreaker steady (some trippedStore)) resumedRun := by
    refine ⟨trivial, trivial, trivial, trivial, ?_, trivial, trivial, trivial, trivial, trivial,
      trivial, trivial, trivial⟩
    intro _
    refine ⟨by decide +kernel, ?_, InFlight.forall_empty _⟩
    simp only [CheckPhase.Breaches]
    decide +kernel
  have hsound := hundisturbed.and (hclean.and henabled)
  exact ⟨hsound, breaker_decisions_held_over_runs standardBreaker steady (some trippedStore) _
    hsound⟩

def resetUndone : List BreakerOp :=
  fullCheck 0 ++ [.resetDel 0, .resetDone 0] ++ fullCheck 1

/-- A check that read the stored state before the trip writes after it. -/
def latchOverwritten : List BreakerOp :=
  [.checkStart 0, .checkSum 0, .checkWeigh 0, .checkCompare 0, .elapse bleeding] ++
    fullCheck 1 ++ [.checkStore 0, .checkDone 0]

/-- A reset is undone by the next check over the same losses, and a trip by a check
that overlaps it. -/
theorem reset_and_latch_undone :
    ¬ EveryStep (breakerStep standardBreaker) (DecisionHeld standardBreaker)
        (startBreaker bleeding none) resetUndone ∧
      ¬ EveryStep (breakerStep standardBreaker) (DecisionHeld standardBreaker)
        (startBreaker steady none) latchOverwritten := by
  constructor
  · decide +kernel
  · decide +kernel

end CircuitBreaker
end Live
end Shamarx
