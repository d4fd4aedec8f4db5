import Shamarx.Foundation.Runs
import Shamarx.Live.PositionMonitor
import Shamarx.Orchestrator.EvaluateLemmas

/-!
# Per-account risk brakes

With the fan-out on and shared signals off, each account is evaluated on its
own orchestrator from the registry, while the position monitor reports every
exit to the one it was injected with.
-/

namespace Shamarx
namespace Live

open Foundation
open Engine
open Orchestrator

/-- The registry with the account-scoped keys of the store, the injected
orchestrator, and the trades of each account. -/
structure FanOut where
  instances : InsertionMap String LiveSmcOrchestrator
  redis : InsertionMap String (InsertionMap Instrument StateSnapshot)
  orchestrator : LiveSmcOrchestrator
  books : InsertionMap String AccountBook

def FanOut.start (orchestrator : LiveSmcOrchestrator) : FanOut :=
  { instances := [], redis := [], orchestrator := orchestrator, books := [] }

def orchestratorFactory : LiveSmcOrchestrator :=
  LiveSmcOrchestrator.create standardRiskCfg

def restoreFromRedis (o : LiveSmcOrchestrator)
    (stored : Option (InsertionMap Instrument StateSnapshot)) : LiveSmcOrchestrator :=
  match stored with
  | none => o
  | some snapshot => o.restore (snapshot.map fun (symbol, snap) => (symbol, snap.raw))

/-- `getOrCreate`; a failed restore starts fresh. -/
def FanOut.getOrCreate (f : FanOut) (accountId : String) (restores : Bool) :
    LiveSmcOrchestrator :=
  match f.instances.get accountId with
  | some existing => existing
  | none =>
      if restores then restoreFromRedis orchestratorFactory (f.redis.get accountId)
      else orchestratorFactory

def FanOut.bookOf (f : FanOut) (accountId : String) : AccountBook :=
  (f.books.get accountId).getD emptyBook

def FanOut.persistToRedis (f : FanOut) (accountId : String) : FanOut :=
  match f.instances.get accountId with
  | none => f
  | some o => { f with redis := f.redis.set accountId o.serialize }

/-- The turns of the engine: an account's evaluation, the entry that follows a
placed order, the row of an opened trade, a reconcile pass, and the registry's
persistence, eviction and loss at a restart. -/
inductive FanOutOp where
  | evaluate (accountId : String) (symbol : Instrument) (b : CandleBundle)
      (ctx : LiveContext) (restores : Bool)
  | recordEntry (accountId : String) (symbol : Instrument) (h1SweepTime : Int)
  | openTrade (accountId : String) (id : Nat) (mt5Ticket : Option Nat)
      (status : TradeStatus) (trade : Broker.OpenTrade)
  | reconcile (accountId : String) (pairs : List Instrument) (pass : PassEnv)
  | persist (accountId : String)
  | evict (accountId : String)
  | restart

def fanOutStep (env : EngineEnv) (f : FanOut) : FanOutOp -> FanOut
  | .evaluate accountId symbol b ctx restores =>
      let o := f.getOrCreate accountId restores
      { f with
        instances := f.instances.set accountId (evaluate env o symbol b ctx none none).1 }
  | .recordEntry accountId symbol h1SweepTime =>
      match f.instances.get accountId with
      | none => f
      | some o =>
          { f with
            instances := f.instances.set accountId (o.recordEntry symbol h1SweepTime) }
  | .openTrade accountId id mt5Ticket status trade =>
      let row : TradeRow :=
        { id := id, mt5Ticket := mt5Ticket, status := status, trade := trade, booked := none }
      { f with
        books := f.books.set accountId
          { f.bookOf accountId with rows := (f.bookOf accountId).rows ++ [row] } }
  | .reconcile accountId pairs pass =>
      let out := reconcileAccount pass (f.bookOf accountId) pairs
      { f with
        books := f.books.set accountId out.1
        orchestrator := reportExits env f.orchestrator out.2 }
  | .persist accountId => f.persistToRedis accountId
  | .evict accountId => { f with instances := f.instances.erase accountId }
  | .restart => { f with instances := [] }

/-- The manager that gates the account's symbol: that of its instance, or of the
one the next evaluation creates. -/
def FanOut.gate (f : FanOut) (accountId : String) (symbol : Instrument) : RiskManager :=
  ((f.getOrCreate accountId true).getOrCreateState symbol).riskManager

def FanOut.recordedPnls (f : FanOut) (accountId : String) (symbol : Instrument) : List ℚ :=
  (f.gate accountId symbol).tradeLog.map TradeLogEntry.pnl

/-- The gate has recorded exactly the profits finalized for the account. -/
def BrakesSeeCloses (f : FanOut) (accountId : String) (symbol : Instrument) : Prop :=
  f.recordedPnls accountId symbol = finalizedPnls (f.bookOf accountId) symbol

/-!
# No instance records a trade
-/

def NoTrades (o : LiveSmcOrchestrator) : Prop :=
  forall symbol, (o.getOrCreateState symbol).riskManager.tradeLog = []

def NoStoredTrades (snapshot : InsertionMap Instrument StateSnapshot) : Prop :=
  forall symbol snap, snapshot.get symbol = some snap -> snap.riskManager.tradeLog = some []

theorem noTrades_create (cfg : DefaultRiskCfg) : NoTrades (LiveSmcOrchestrator.create cfg) := by
  intro symbol
  rfl

theorem noTrades_setState {o : LiveSmcOrchestrator} (h : NoTrades o) (symbol : Instrument)
    {s : OrchestratorState} (hs : s.riskManager.tradeLog = []) :
    NoTrades (o.setState symbol s) := by
  intro other
  by_cases hne : other = symbol
  · subst hne
    simp [LiveSmcOrchestrator.getOrCreateState, hs]
  · have hother := h other
    unfold LiveSmcOrchestrator.getOrCreateState at hother ⊢
    rw [o.getState_setState_of_ne s hne]
    exact hother

theorem noTrades_recordEntry {o : LiveSmcOrchestrator} (h : NoTrades o) (symbol : Instrument)
    (h1SweepTime : Int) : NoTrades (o.recordEntry symbol h1SweepTime) :=
  noTrades_setState h symbol (h symbol)

theorem noTrades_evaluateAt {env : EngineEnv} {o : LiveSmcOrchestrator} (h : NoTrades o)
    (symbol : Instrument) (b : CandleBundle) (ctx : LiveContext)
    (pre : Option PrecomputedIndicators) (cursor : Cursor b) :
    NoTrades (evaluateAt env o symbol b ctx pre cursor).1 := by
  unfold evaluateAt
  split_ifs
  · exact h
  · split
    · exact h
    · rename_i cfg hcfg
      dsimp only
      split
      · exact noTrades_setState h symbol (h symbol)
      · rename_i lastM15 hlast
        have hledger := evaluateState_ledger env symbol cfg
          (makeFrame b (callIndicators env b pre) cursor lastM15) ctx
          (o.getOrCreateState symbol)
        refine noTrades_setState h symbol ?_
        exact (congrArg RiskManager.Ledger.tradeLog hledger).trans (h symbol)

theorem noStoredTrades_serialize {o : LiveSmcOrchestrator} (h : NoTrades o) :
    NoStoredTrades o.serialize := by
  intro symbol snap hget
  have hmap : o.serialize.get symbol = (o.getState symbol).map OrchestratorState.snapshot :=
    InsertionMap.get_map (fun _ s => OrchestratorState.snapshot s) o.states symbol
  rw [hmap, Option.map_eq_some_iff] at hget
  rcases hget with ⟨s, hs, rfl⟩
  have hlog : s.riskManager.tradeLog = [] := by
    have hsym := h symbol
    rw [LiveSmcOrchestrator.getOrCreateState, hs] at hsym
    exact hsym
  simp [OrchestratorState.snapshot, RiskManager.snapshot, hlog, RiskManager.lastN]

theorem noTrades_restore {snapshot : InsertionMap Instrument StateSnapshot}
    (h : NoStoredTrades snapshot) (o : LiveSmcOrchestrator) :
    NoTrades (o.restore (snapshot.map fun (symbol, snap) => (symbol, snap.raw))) := by
  intro symbol
  have hget : (o.restore (snapshot.map fun (symbol, snap) => (symbol, snap.raw))).getState symbol =
      (snapshot.get symbol).map fun snap => o.restoreState symbol snap.raw := by
    have hmap := InsertionMap.get_map
      (fun symbol (snap : StateSnapshot) => o.restoreState symbol snap.raw) snapshot symbol
    rw [← hmap, LiveSmcOrchestrator.getState, LiveSmcOrchestrator.restore, List.map_map]
    rfl
  rw [LiveSmcOrchestrator.getOrCreateState, hget]
  cases hsnap : snapshot.get symbol with
  | none =>
      rfl
  | some snap =>
      simp [LiveSmcOrchestrator.restoreState, StateSnapshot.raw, RiskManager.restore,
        h symbol snap hsnap]

/-- Neither an instance nor a stored snapshot holds a recorded trade. -/
structure Unrecorded (f : FanOut) : Prop where
  instances : forall accountId o, f.instances.get accountId = some o -> NoTrades o
  redis : forall accountId snapshot, f.redis.get accountId = some snapshot ->
    NoStoredTrades snapshot

theorem unrecorded_start (orchestrator : LiveSmcOrchestrator) :
    Unrecorded (FanOut.start orchestrator) := by
  constructor <;> simp [FanOut.start]

theorem noTrades_getOrCreate {f : FanOut} (h : Unrecorded f) (accountId : String)
    (restores : Bool) : NoTrades (f.getOrCreate accountId restores) := by
  unfold FanOut.getOrCreate
  cases hget : f.instances.get accountId with
  | some o =>
      exact h.instances accountId o hget
  | none =>
      dsimp only
      split_ifs
      · unfold restoreFromRedis
        cases hstored : f.redis.get accountId with
        | none =>
            exact noTrades_create standardRiskCfg
        | some snapshot =>
            exact noTrades_restore (h.redis accountId snapshot hstored) orchestratorFactory
      · exact noTrades_create standardRiskCfg

theorem unrecorded_setInstance {f : FanOut} (h : Unrecorded f) (accountId : String)
    {o : LiveSmcOrchestrator} (ho : NoTrades o) :
    Unrecorded { f with instances := f.instances.set accountId o } where
  instances := by
    intro other o' hget
    by_cases hne : other = accountId
    · subst hne
      rw [InsertionMap.get_set_self] at hget
      cases hget
      exact ho
    · rw [InsertionMap.get_set_of_ne _ _ hne] at hget
      exact h.instances other o' hget
  redis := h.redis

theorem fanOutStep_unrecorded (env : EngineEnv) (f : FanOut) (op : FanOutOp)
    (h : Unrecorded f) : Unrecorded (fanOutStep env f op) := by
  cases op with
  | evaluate accountId symbol b ctx restores =>
      exact unrecorded_setInstance h accountId
        (noTrades_evaluateAt (noTrades_getOrCreate h accountId restores) symbol b ctx none _)
  | recordEntry accountId symbol h1SweepTime =>
      cases hget : f.instances.get accountId with
      | none =>
          simpa [fanOutStep, hget] using h
      | some o =>
          simp only [fanOutStep, hget]
          exact unrecorded_setInstance h accountId
            (noTrades_recordEntry (h.instances accountId o hget) symbol h1SweepTime)
  | openTrade accountId id mt5Ticket status trade =>
      exact ⟨h.instances, h.redis⟩
  | reconcile accountId pairs pass =>
      exact ⟨h.instances, h.redis⟩
  | persist accountId =>
      cases hget : f.instances.get accountId with
      | none =>
          simpa [fanOutStep, FanOut.persistToRedis, hget] using h
      | some o =>
          simp only [fanOutStep, FanOut.persistToRedis, hget]
          refine ⟨h.instances, ?_⟩
          intro other snapshot hsnap
          by_cases hne : other = accountId
          · subst hne
            rw [InsertionMap.get_set_self] at hsnap
            cases hsnap
            exact noStoredTrades_serialize (h.instances other o hget)
          · rw [InsertionMap.get_set_of_ne _ _ hne] at hsnap
            exact h.redis other snapshot hsnap
  | evict accountId =>
      refine ⟨?_, h.redis⟩
      intro other o hget
      exact h.instances other o (InsertionMap.get_of_get_erase hget)
  | restart =>
      refine ⟨?_, h.redis⟩
      intro other o hget
      cases hget

theorem recordedPnls_eq_nil {f : FanOut} (h : Unrecorded f) (accountId : String)
    (symbol : Instrument) : f.recordedPnls accountId symbol = [] := by
  unfold FanOut.recordedPnls FanOut.gate
  rw [noTrades_getOrCreate h accountId true symbol]
  rfl

/-- In every run, the gate of an account and symbol has recorded what was
finalized for them exactly as long as nothing was finalized. -/
theorem brakes_see_closes_iff (env : EngineEnv) (orchestrator : LiveSmcOrchestrator)
    (ops : List FanOutOp) (accountId : String) (symbol : Instrument) :
    BrakesSeeCloses (runFrom (fanOutStep env) (FanOut.start orchestrator) ops) accountId
        symbol ↔
      finalizedPnls ((runFrom (fanOutStep env) (FanOut.start orchestrator) ops).bookOf
        accountId) symbol = [] := by
  have hunrecorded := runFrom_inv Unrecorded (fanOutStep_unrecorded env)
    (unrecorded_start orchestrator) ops
  unfold BrakesSeeCloses
  rw [recordedPnls_eq_nil hunrecorded accountId symbol]
  exact eq_comm

/-!
# A stop-out that the brakes miss
-/

def stoppedOut : FinalizeEnv :=
  { history := some
      { closePrice := some 1990, realizedPnl := some (-100), pnl := none,
        closeTime := some (.iso 1700000000000), reason := some "SL" }
    now := 1700000000000
    updates := true
    publishes := true }

def vanishedPass : PassEnv :=
  { tickets := fun _ => some [], fin := fun _ => stoppedOut }

def stopOutRun : List FanOutOp :=
  [.openTrade "a1" 1 (some 7) .open_ Broker.goldTrade,
   .reconcile "a1" [.XAUUSD] vanishedPass,
   .reconcile "a1" [.XAUUSD] vanishedPass,
   .reconcile "a1" [.XAUUSD] vanishedPass]

theorem stop_out_misses_the_brakes :
    ¬ BrakesSeeCloses (runFrom (fanOutStep documentedEnv) (FanOut.start orchestratorFactory)
      stopOutRun) "a1" .XAUUSD := by
  intro hsee
  have hrecorded : (runFrom (fanOutStep documentedEnv) (FanOut.start orchestratorFactory)
      stopOutRun).recordedPnls "a1" .XAUUSD = [] := by
    decide +kernel
  have hfinal : finalizedPnls ((runFrom (fanOutStep documentedEnv)
      (FanOut.start orchestratorFactory) stopOutRun).bookOf "a1") .XAUUSD = [-100] := by
    decide +kernel
  rw [BrakesSeeCloses, hrecorded, hfinal] at hsee
  cases hsee

end Live
end Shamarx
