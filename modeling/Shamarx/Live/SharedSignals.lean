import Mathlib.Data.Finset.Card
import Shamarx.Engine.LossFree
import Shamarx.Foundation.Runs
import Shamarx.Live.PositionMonitor
import Shamarx.Orchestrator.EvaluateLemmas

/-!
# Shared signals

One canonical orchestrator computes each signal and every account executes it
on its own.  The exits of all accounts come back to the canonical orchestrator,
one report for each account's leg.
-/

namespace Shamarx
namespace Live

open Foundation
open Engine
open Orchestrator

def sharedSignalNotionalEquity : ℚ := 10000

structure NewTrade where
  id : Nat
  mt5Ticket : Option Nat
  status : TradeStatus
  trade : Broker.OpenTrade

def NewTrade.row (t : NewTrade) : TradeRow :=
  { id := t.id, mt5Ticket := t.mt5Ticket, status := t.status, trade := t.trade, booked := none }

/-- What an account does with a signal, from its own book: the rows it writes,
and whether it executed. -/
abbrev Execute := AccountBook -> SmcLiveSignal -> List NewTrade × Bool

def executeSharedSignal (execute : Execute) (signal : SmcLiveSignal) (book : AccountBook) :
    AccountBook × Bool :=
  ({ book with rows := book.rows ++ (execute book signal).1.map NewTrade.row },
    (execute book signal).2)

structure BreakerConfig where
  lossPct : ℚ
  lossPct_pos : 0 < lossPct

structure SharedConfig where
  engine : EngineEnv
  breaker : Option BreakerConfig

/-- The canonical orchestrator, the books of the enabled accounts, the breaker,
and what the evaluations have returned. -/
structure SharedRun where
  orchestrator : LiveSmcOrchestrator
  books : List AccountBook
  tripped : Bool
  returned : List (Except EngineError (Option SmcLiveSignal))

def SharedRun.start (cfg : DefaultRiskCfg) (n : Nat) : SharedRun :=
  { orchestrator := LiveSmcOrchestrator.create cfg
    books := List.replicate n emptyBook
    tripped := false
    returned := [] }

def IsOpenOn (symbol : Instrument) (row : TradeRow) : Prop :=
  row.trade.symbol = symbol ∧ row.status = .open_

instance (symbol : Instrument) (row : TradeRow) : Decidable (IsOpenOn symbol row) :=
  inferInstanceAs (Decidable (_ ∧ _))

def openDirections (books : List AccountBook) (symbol : Instrument) : List Side :=
  [.buy, .sell].filter fun side =>
    books.any fun book => book.rows.any fun row =>
      decide (IsOpenOn symbol row ∧ row.trade.side = side)

/-- The distinct symbols with an open trade, in any account. -/
def openSymbols (books : List AccountBook) : Finset Instrument :=
  (books.flatMap fun book =>
    (book.rows.filter fun row => decide (row.status = .open_)).map fun row =>
      row.trade.symbol).toFinset

def sharedContext (books : List AccountBook) (symbol : Instrument) (riskPercent : ℚ) :
    LiveContext :=
  { accountEquity := sharedSignalNotionalEquity
    openDirections := openDirections books symbol
    totalOpenPositions := (openSymbols books).card
    riskPercent := some riskPercent
    maxOpenPositions := some 4 }

/-!
# The circuit breaker
-/

/-- Realized profit of a book since an instant, without orphaned rows. -/
def rollingPnl (since : Int) (book : AccountBook) : ℚ :=
  (book.rows.filterMap fun row =>
    match row.booked with
    | some facts =>
        if row.status = .closed ∧ since ≤ facts.closedAt ∧
            facts.exitReason ∉ ["ORPHAN", "STALE_BROKER"] then some facts.pnl
        else none
    | none => none).sum

/-- The summed equity snapshots, each account having the same one, or 1000. -/
def equityBasis (accounts : Nat) (equity : Option ℚ) : ℚ :=
  let total := accounts * equity.getD 0
  if total = 0 then 1000 else total

def breakerTrips (breaker : BreakerConfig) (books : List AccountBook) (since : Int)
    (equity : Option ℚ) : Bool :=
  decide ((books.map (rollingPnl since)).sum ≤
    -(breaker.lossPct / 100) * equityBasis books.length equity)

/-!
# Runs
-/

/-- The events of a run, the same for every account: a candle with what each
account does with a signal, a reconcile pass, a row that the pending-entry
monitor promotes or cancels, a breaker check and its manual reset. -/
inductive SharedOp where
  | candle (symbol : Instrument) (b : CandleBundle) (riskPercent : ℚ) (execute : Execute)
  | reconcile (pairs : List Instrument) (pass : PassEnv)
  | pendingEntry (tradeId : Nat) (mt5Ticket : Option Nat) (status : TradeStatus)
  | breakerCheck (since : Int) (equity : Option ℚ)
  | breakerReset

def AccountBook.setEntry (book : AccountBook) (tradeId : Nat) (mt5Ticket : Option Nat)
    (status : TradeStatus) : AccountBook :=
  { book with
    rows := book.rows.map fun row =>
      if row.id = tradeId ∧ row.status = .pending then
        { row with mt5Ticket := mt5Ticket, status := status }
      else row }

def evaluatePairSharedSignal (cfg : SharedConfig) (s : SharedRun) (symbol : Instrument)
    (b : CandleBundle) (riskPercent : ℚ) (execute : Execute) : SharedRun :=
  let out := evaluate cfg.engine s.orchestrator symbol b
    (sharedContext s.books symbol riskPercent) none none
  let s := { s with orchestrator := out.1, returned := s.returned ++ [out.2] }
  match out.2 with
  | .error _ => s
  | .ok none => s
  | .ok (some signal) =>
      if cfg.breaker.isSome = true ∧ s.tripped = true then s
      else
        let results := s.books.map (executeSharedSignal execute signal)
        { s with
          books := results.map Prod.fst
          orchestrator :=
            if results.any Prod.snd then out.1.recordEntry symbol signal.h1SweepTime else out.1 }

def sharedStep (cfg : SharedConfig) (s : SharedRun) : SharedOp -> SharedRun
  | .candle symbol b riskPercent execute =>
      evaluatePairSharedSignal cfg s symbol b riskPercent execute
  | .reconcile pairs pass =>
      let results := s.books.map fun book => reconcileAccount pass book pairs
      { s with
        books := results.map Prod.fst
        orchestrator := reportExits cfg.engine s.orchestrator (results.flatMap Prod.snd) }
  | .pendingEntry tradeId mt5Ticket status =>
      { s with books := s.books.map fun book => book.setEntry tradeId mt5Ticket status }
  | .breakerCheck since equity =>
      match cfg.breaker with
      | none => s
      | some breaker =>
          { s with tripped := s.tripped || breakerTrips breaker s.books since equity }
  | .breakerReset => { s with tripped := false }

def sharedRun (cfg : SharedConfig) (seed : DefaultRiskCfg) (n : Nat) (ops : List SharedOp) :
    SharedRun :=
  runFrom (sharedStep cfg) (SharedRun.start seed n) ops

/-!
# Independence of the number of accounts
-/

structure BrakeReadings where
  lossStreak : Int
  rollingLosses : Int
  dailyPnl : ℚ
  drawdown : ℚ
  deriving DecidableEq

def brakeReadings (o : LiveSmcOrchestrator) (symbol : Instrument) (day : Int) : BrakeReadings :=
  let rm := (o.getOrCreateState symbol).riskManager
  { lossStreak := rm.consecutiveLosses
    rollingLosses := rm.getRolling7DayLosses (some day)
    dailyPnl := rm.dailyPnl
    drawdown := rm.getEquityDdPercent }

def brakeAdvance (cfg : SharedConfig) (s : SharedRun) (op : SharedOp) (symbol : Instrument)
    (day : Int) : BrakeReadings :=
  let before := brakeReadings s.orchestrator symbol day
  let after := brakeReadings (sharedStep cfg s op).orchestrator symbol day
  { lossStreak := after.lossStreak - before.lossStreak
    rollingLosses := after.rollingLosses - before.rollingLosses
    dailyPnl := after.dailyPnl - before.dailyPnl
    drawdown := after.drawdown - before.drawdown }

def ReportsLoss (s : SharedRun) : SharedOp -> Prop
  | .reconcile pairs pass =>
      exists book, book ∈ s.books ∧ exists e, e ∈ (reconcileAccount pass book pairs).2 ∧ e.pnl < 0
  | _ => False

instance (s : SharedRun) (op : SharedOp) : Decidable (ReportsLoss s op) :=
  match op with
  | .reconcile pairs pass =>
      inferInstanceAs (Decidable (exists book, book ∈ s.books ∧
        exists e, e ∈ (reconcileAccount pass book pairs).2 ∧ e.pnl < 0))
  | .candle _ _ _ _ => inferInstanceAs (Decidable False)
  | .pendingEntry _ _ _ => inferInstanceAs (Decidable False)
  | .breakerCheck _ _ => inferInstanceAs (Decidable False)
  | .breakerReset => inferInstanceAs (Decidable False)

/-- Both numbers of accounts return the same signals, and every losing pass
moves the canonical brakes equally. -/
def TenantsInvisible (cfg : SharedConfig) (seed : DefaultRiskCfg) (n m : Nat)
    (ops : List SharedOp) : Prop :=
  (sharedRun cfg seed n ops).returned = (sharedRun cfg seed m ops).returned ∧
    forall front op back, ops = front ++ op :: back ->
      ReportsLoss (sharedRun cfg seed n front) op -> forall symbol day,
        brakeAdvance cfg (sharedRun cfg seed n front) op symbol day =
          brakeAdvance cfg (sharedRun cfg seed m front) op symbol day

/-- No account reports a loss, and a breaker check sees an equity snapshot or no
net loss. -/
def Harmless (s : SharedRun) (op : SharedOp) : Prop :=
  ¬ ReportsLoss s op ∧
    match op with
    | .breakerCheck since equity =>
        equity.getD 0 ≠ 0 ∨ forall book, book ∈ s.books -> 0 ≤ rollingPnl since book
    | _ => True

instance (s : SharedRun) (op : SharedOp) : Decidable (Harmless s op) :=
  match op with
  | .breakerCheck since equity =>
      inferInstanceAs (Decidable (¬ ReportsLoss s (.breakerCheck since equity) ∧
        (equity.getD 0 ≠ 0 ∨ forall book, book ∈ s.books -> 0 ≤ rollingPnl since book)))
  | .candle symbol b riskPercent execute =>
      inferInstanceAs (Decidable
        (¬ ReportsLoss s (.candle symbol b riskPercent execute) ∧ True))
  | .reconcile pairs pass =>
      inferInstanceAs (Decidable (¬ ReportsLoss s (.reconcile pairs pass) ∧ True))
  | .pendingEntry tradeId mt5Ticket status =>
      inferInstanceAs (Decidable
        (¬ ReportsLoss s (.pendingEntry tradeId mt5Ticket status) ∧ True))
  | .breakerReset => inferInstanceAs (Decidable (¬ ReportsLoss s .breakerReset ∧ True))

/-!
# States alike up to their winnings
-/

/-- The two states differ at most in what their loss-free managers have won. -/
structure StateAlike (config : EngineConfig) (s t : OrchestratorState) : Prop where
  pending : t.pending = s.pending
  lastProcessedH1Time : t.lastProcessedH1Time = s.lastProcessedH1Time
  cooldownBarsRemaining : t.cooldownBarsRemaining = s.cooldownBarsRemaining
  actionedSweeps : t.actionedSweeps = s.actionedSweeps
  left : s.riskManager.LossFree
  left_config : s.riskManager.config = config
  right : t.riskManager.LossFree
  right_config : t.riskManager.config = config

section Evaluation

variable {config : EngineConfig} {s t : OrchestratorState}

theorem detectStep_alike (h : StateAlike config s t) (cfg : SmcPairConfig) (f : Frame) :
    StateAlike config (detectStep cfg f s) (detectStep cfg f t) := by
  unfold detectStep
  dsimp only
  rw [h.pending, h.lastProcessedH1Time, h.actionedSweeps]
  split
  · exact h
  · split_ifs
    · exact h
    · exact { h with pending := rfl, lastProcessedH1Time := rfl, actionedSweeps := rfl }

theorem expireStep_alike (h : StateAlike config s t) (f : Frame) :
    StateAlike config (expireStep f s) (expireStep f t) := by
  refine { h with pending := ?_ }
  simp [expireStep, h.pending]

theorem fireStep_alike (h : StateAlike config s t) (env : EngineEnv) (symbol : Instrument)
    (cfg : SmcPairConfig) (f : Frame) (ctx : LiveContext) :
    StateAlike config (fireStep env symbol cfg f ctx s).1 (fireStep env symbol cfg f ctx t).1 ∧
      (fireStep env symbol cfg f ctx t).2 = (fireStep env symbol cfg f ctx s).2 := by
  unfold fireStep
  dsimp only
  rw [h.pending, h.actionedSweeps]
  exact ⟨{ h with pending := rfl, actionedSweeps := rfl }, rfl⟩

theorem gateStep_alike (h : StateAlike config s t) (hloss : 0 < config.maxDailyLossPercent)
    (hstreak : 0 < config.maxConsecutiveLosses) (env : EngineEnv) (symbol : Instrument)
    (cfg : SmcPairConfig) (f : Frame) (ctx : LiveContext) :
    StateAlike config (gateStep env symbol cfg f ctx s).1 (gateStep env symbol cfg f ctx t).1 ∧
      (gateStep env symbol cfg f ctx t).2 = (gateStep env symbol cfg f ctx s).2 := by
  have hs := h.left.canTrade (h.left_config ▸ hloss) (h.left_config ▸ hstreak)
    f.lastM15.openTime ctx.totalOpenPositions
  have ht := h.right.canTrade (h.right_config ▸ hloss) (h.right_config ▸ hstreak)
    f.lastM15.openTime ctx.totalOpenPositions
  have hanswer : (t.riskManager.canTrade f.lastM15.openTime ctx.totalOpenPositions).2 =
      (s.riskManager.canTrade f.lastM15.openTime ctx.totalOpenPositions).2 := by
    rw [hs.2.2, ht.2.2, h.left_config, h.right_config]
  have hgate : StateAlike config
      { s with riskManager :=
          (s.riskManager.canTrade f.lastM15.openTime ctx.totalOpenPositions).1 }
      { t with
        cooldownBarsRemaining := s.cooldownBarsRemaining
        riskManager :=
          (t.riskManager.canTrade f.lastM15.openTime ctx.totalOpenPositions).1 } :=
    { h with
      cooldownBarsRemaining := rfl
      left := hs.1
      left_config := hs.2.1.trans h.left_config
      right := ht.1
      right_config := ht.2.1.trans h.right_config }
  unfold gateStep
  dsimp only
  rw [h.cooldownBarsRemaining, hanswer]
  split_ifs
  · exact ⟨{ h with cooldownBarsRemaining := rfl }, rfl⟩
  · exact ⟨h, rfl⟩
  · exact fireStep_alike hgate env symbol cfg f ctx
  · exact ⟨hgate, rfl⟩

theorem evaluateState_alike (h : StateAlike config s t)
    (hloss : 0 < config.maxDailyLossPercent) (hstreak : 0 < config.maxConsecutiveLosses)
    (env : EngineEnv) (symbol : Instrument) (cfg : SmcPairConfig) (f : Frame)
    (ctx : LiveContext) :
    StateAlike config (evaluateState env symbol cfg f ctx s).1
        (evaluateState env symbol cfg f ctx t).1 ∧
      (evaluateState env symbol cfg f ctx t).2 = (evaluateState env symbol cfg f ctx s).2 :=
  gateStep_alike (expireStep_alike (detectStep_alike h cfg f) f) hloss hstreak env symbol cfg f
    ctx

end Evaluation

def seedConfig (seed : DefaultRiskCfg) (symbol : Instrument) : EngineConfig :=
  ((LiveSmcOrchestrator.create seed).buildRiskManager symbol).config

structure BrainAlike (seed : DefaultRiskCfg) (o p : LiveSmcOrchestrator) : Prop where
  left_seed : o.defaultRiskCfg = seed
  right_seed : p.defaultRiskCfg = seed
  states : forall symbol,
    StateAlike (seedConfig seed symbol) (o.getOrCreateState symbol) (p.getOrCreateState symbol)

section Brain

variable {seed : DefaultRiskCfg} {o p : LiveSmcOrchestrator}

theorem brainAlike_create (hseed : 0 < seed.initialBalance) :
    BrainAlike seed (LiveSmcOrchestrator.create seed) (LiveSmcOrchestrator.create seed) where
  left_seed := rfl
  right_seed := rfl
  states := by
    intro symbol
    have hfree : (RiskManager.create (seedConfig seed symbol)).LossFree :=
      RiskManager.lossFree_create hseed
    exact
      { pending := rfl, lastProcessedH1Time := rfl, cooldownBarsRemaining := rfl,
        actionedSweeps := rfl, left := hfree, left_config := rfl, right := hfree,
        right_config := rfl }

theorem brainAlike_setState (h : BrainAlike seed o p) (symbol : Instrument)
    {s t : OrchestratorState} (hst : StateAlike (seedConfig seed symbol) s t) :
    BrainAlike seed (o.setState symbol s) (p.setState symbol t) where
  left_seed := h.left_seed
  right_seed := h.right_seed
  states := by
    intro other
    by_cases hne : other = symbol
    · subst hne
      rw [o.getOrCreateState_setState, p.getOrCreateState_setState]
      exact hst
    · rw [o.getOrCreateState_setState_of_ne s hne, p.getOrCreateState_setState_of_ne t hne]
      exact h.states other

theorem evaluateAt_alike (h : BrainAlike seed o p) (env : EngineEnv) (symbol : Instrument)
    (b : CandleBundle) (ctx : LiveContext) (pre : Option PrecomputedIndicators)
    (cursor : Cursor b) :
    BrainAlike seed (evaluateAt env o symbol b ctx pre cursor).1
        (evaluateAt env p symbol b ctx pre cursor).1 ∧
      (evaluateAt env p symbol b ctx pre cursor).2 =
        (evaluateAt env o symbol b ctx pre cursor).2 := by
  have hstate := h.states symbol
  unfold evaluateAt
  split_ifs
  · exact ⟨h, rfl⟩
  · split
    · exact ⟨h, rfl⟩
    · rename_i cfg hcfg
      dsimp only
      split
      · exact ⟨brainAlike_setState h symbol hstate, rfl⟩
      · rename_i lastM15 hlast
        have hout := evaluateState_alike hstate (by norm_num [seedConfig,
          LiveSmcOrchestrator.buildRiskManager, RiskManager.create]) (by
          norm_num [seedConfig, LiveSmcOrchestrator.buildRiskManager, RiskManager.create])
          env symbol cfg (makeFrame b (callIndicators env b pre) cursor lastM15) ctx
        exact ⟨brainAlike_setState h symbol hout.1, hout.2⟩

theorem recordEntry_alike (h : BrainAlike seed o p) (symbol : Instrument) (h1SweepTime : Int) :
    BrainAlike seed (o.recordEntry symbol h1SweepTime) (p.recordEntry symbol h1SweepTime) := by
  have hstate := h.states symbol
  refine brainAlike_setState h symbol
    { hstate with pending := ?_, actionedSweeps := ?_, cooldownBarsRemaining := rfl }
  · simp [OrchestratorState.recordEntry, hstate.pending]
  · simp [OrchestratorState.recordEntry, hstate.actionedSweeps]

/-!
# Exits that do not lose

The cooldown after a list of exits is a maximum, so repeating the list for
every further account changes only the winnings.
-/

def exitCooldown (env : EngineEnv) (symbol : Instrument) (e : ReportedExit) : Nat :=
  if e.symbol = symbol then
    match getSmcPairConfig env.overrides symbol with
    | some cfg => exitCooldownBars cfg e.exitReason
    | none => 0
  else 0

structure Cooled (config : EngineConfig) (s : OrchestratorState) (cooldown : Nat)
    (s' : OrchestratorState) : Prop where
  pending : s'.pending = s.pending
  lastProcessedH1Time : s'.lastProcessedH1Time = s.lastProcessedH1Time
  actionedSweeps : s'.actionedSweeps = s.actionedSweeps
  cooldownBarsRemaining : s'.cooldownBarsRemaining = cooldown
  lossFree : s'.riskManager.LossFree
  config_eq : s'.riskManager.config = config

theorem recordExit_cooled {config : EngineConfig} (env : EngineEnv) (o : LiveSmcOrchestrator)
    (e : ReportedExit) (hpnl : 0 ≤ e.pnl) (symbol : Instrument)
    (hfree : (o.getOrCreateState symbol).riskManager.LossFree)
    (hconfig : (o.getOrCreateState symbol).riskManager.config = config) :
    Cooled config (o.getOrCreateState symbol)
      (max (o.getOrCreateState symbol).cooldownBarsRemaining (exitCooldown env symbol e))
      ((o.recordExit env e.symbol e.exitReason e.exitTime (some e.pnl)).1.getOrCreateState
        symbol) := by
  have hsame : Cooled config (o.getOrCreateState symbol)
      (o.getOrCreateState symbol).cooldownBarsRemaining (o.getOrCreateState symbol) :=
    ⟨rfl, rfl, rfl, rfl, hfree, hconfig⟩
  unfold LiveSmcOrchestrator.recordExit
  dsimp only
  by_cases hsym : e.symbol = symbol
  · subst hsym
    cases hcfg : getSmcPairConfig env.overrides e.symbol with
    | none =>
        simpa [exitCooldown, hcfg] using hsame
    | some cfg =>
        have hrecord := hfree.recordTrade hpnl e.exitTime (some e.exitReason.forRiskManager)
        simp only [LiveSmcOrchestrator.getOrCreateState_setState]
        refine ⟨rfl, rfl, rfl, ?_, hrecord.1, hrecord.2.trans hconfig⟩
        simp [OrchestratorState.recordExit, exitCooldown, hcfg]
  · have hne : symbol ≠ e.symbol := fun h => hsym h.symm
    have hzero : exitCooldown env symbol e = 0 := if_neg hsym
    rw [hzero, Nat.max_zero]
    split
    · rw [o.getOrCreateState_setState_of_ne _ hne]
      exact hsame
    · rw [o.getOrCreateState_setState_of_ne _ hne]
      exact hsame

theorem reportExits_cooled {config : EngineConfig} (env : EngineEnv) (o : LiveSmcOrchestrator)
    (exits : List ReportedExit) (hpnl : forall e, e ∈ exits -> 0 ≤ e.pnl)
    (symbol : Instrument) (hfree : (o.getOrCreateState symbol).riskManager.LossFree)
    (hconfig : (o.getOrCreateState symbol).riskManager.config = config) :
    Cooled config (o.getOrCreateState symbol)
      ((exits.map (exitCooldown env symbol)).foldl max
        (o.getOrCreateState symbol).cooldownBarsRemaining)
      ((reportExits env o exits).getOrCreateState symbol) := by
  induction exits generalizing o with
  | nil =>
      exact ⟨rfl, rfl, rfl, rfl, hfree, hconfig⟩
  | cons e rest ih =>
      have hone := recordExit_cooled env o e (hpnl e List.mem_cons_self) symbol hfree hconfig
      have hrest := ih (o.recordExit env e.symbol e.exitReason e.exitTime (some e.pnl)).1
        (fun x hx => hpnl x (List.mem_cons_of_mem e hx)) hone.lossFree hone.config_eq
      rw [hone.cooldownBarsRemaining] at hrest
      exact
        { pending := hrest.pending.trans hone.pending
          lastProcessedH1Time := hrest.lastProcessedH1Time.trans hone.lastProcessedH1Time
          actionedSweeps := hrest.actionedSweeps.trans hone.actionedSweeps
          cooldownBarsRemaining := hrest.cooldownBarsRemaining
          lossFree := hrest.lossFree
          config_eq := hrest.config_eq }

theorem reportExits_seed (env : EngineEnv) (o : LiveSmcOrchestrator)
    (exits : List ReportedExit) :
    (reportExits env o exits).defaultRiskCfg = o.defaultRiskCfg := by
  induction exits generalizing o with
  | nil =>
      rfl
  | cons e rest ih =>
      refine (ih _).trans ?_
      unfold LiveSmcOrchestrator.recordExit
      dsimp only
      split <;> rfl

theorem foldl_max_le_iff (xs : List Nat) (c bound : Nat) :
    xs.foldl max c ≤ bound ↔ c ≤ bound ∧ forall x, x ∈ xs -> x ≤ bound := by
  induction xs generalizing c with
  | nil =>
      simp
  | cons x rest ih =>
      rw [List.foldl_cons, ih, Nat.max_le]
      simp [and_assoc]

theorem foldl_max_congr {xs ys : List Nat} (h : forall x, x ∈ xs ↔ x ∈ ys) (c : Nat) :
    xs.foldl max c = ys.foldl max c := by
  apply eq_of_forall_ge_iff
  intro bound
  rw [foldl_max_le_iff, foldl_max_le_iff]
  simp only [h]

theorem reportExits_alike (h : BrainAlike seed o p) (env : EngineEnv)
    {exits exits' : List ReportedExit} (hsame : forall e, e ∈ exits ↔ e ∈ exits')
    (hpnl : forall e, e ∈ exits -> 0 ≤ e.pnl) :
    BrainAlike seed (reportExits env o exits) (reportExits env p exits') where
  left_seed := (reportExits_seed env o exits).trans h.left_seed
  right_seed := (reportExits_seed env p exits').trans h.right_seed
  states := by
    intro symbol
    have hstate := h.states symbol
    have hl := reportExits_cooled env o exits hpnl symbol hstate.left hstate.left_config
    have hr := reportExits_cooled env p exits' (fun e he => hpnl e ((hsame e).mpr he)) symbol
      hstate.right hstate.right_config
    have hcool : (exits'.map (exitCooldown env symbol)).foldl max
          (p.getOrCreateState symbol).cooldownBarsRemaining =
        (exits.map (exitCooldown env symbol)).foldl max
          (o.getOrCreateState symbol).cooldownBarsRemaining := by
      rw [hstate.cooldownBarsRemaining]
      refine foldl_max_congr (fun x => ?_) _
      simp only [List.mem_map, hsame]
    exact
      { pending := hr.pending.trans (hstate.pending.trans hl.pending.symm)
        lastProcessedH1Time :=
          hr.lastProcessedH1Time.trans
            (hstate.lastProcessedH1Time.trans hl.lastProcessedH1Time.symm)
        cooldownBarsRemaining :=
          hr.cooldownBarsRemaining.trans (hcool.trans hl.cooldownBarsRemaining.symm)
        actionedSweeps := hr.actionedSweeps.trans (hstate.actionedSweeps.trans hl.actionedSweeps.symm)
        left := hl.lossFree
        left_config := hl.config_eq
        right := hr.lossFree
        right_config := hr.config_eq }

end Brain

/-!
# Identical accounts look like one
-/

section Replicate

variable {n : Nat} (book : AccountBook)

theorem sharedContext_replicate (hn : 0 < n) (symbol : Instrument) (riskPercent : ℚ) :
    sharedContext (List.replicate n book) symbol riskPercent =
      sharedContext [book] symbol riskPercent := by
  have hne : n ≠ 0 := Nat.pos_iff_ne_zero.mp hn
  have hdirections : openDirections (List.replicate n book) symbol =
      openDirections [book] symbol := by
    simp [openDirections, List.any_replicate, hne]
  have hsymbols : openSymbols (List.replicate n book) = openSymbols [book] := by
    ext x
    simp [openSymbols, List.mem_flatMap, List.mem_replicate, hne]
  rw [sharedContext, sharedContext, hdirections, hsymbols]

/-- The breaker compares sums that both scale with the number of accounts. -/
theorem breakerTrips_replicate (hn : 0 < n) (breaker : BreakerConfig) (since : Int) (equity : Option ℚ)
    (h : equity.getD 0 ≠ 0 ∨ 0 ≤ rollingPnl since book) :
    breakerTrips breaker (List.replicate n book) since equity =
      breakerTrips breaker [book] since equity := by
  have hpos : (0 : ℚ) < n := Nat.cast_pos.mpr hn
  have hsum : ((List.replicate n book).map (rollingPnl since)).sum =
      n * rollingPnl since book := by
    simp
  unfold breakerTrips
  rw [hsum, decide_eq_decide]
  simp only [equityBasis, List.length_replicate, List.map_cons, List.map_nil, List.sum_cons,
    List.sum_nil, add_zero, List.length_singleton, Nat.cast_one, one_mul]
  by_cases hequity : equity.getD 0 = 0
  · rcases h with hne | hnonneg
    · exact absurd hequity hne
    · have hpct := breaker.lossPct_pos
      have hprod : 0 ≤ (n : ℚ) * rollingPnl since book := mul_nonneg hpos.le hnonneg
      rw [hequity, mul_zero, if_pos rfl]
      constructor
      · intro hle
        linarith
      · intro hle
        linarith
  · have htotal : (n : ℚ) * equity.getD 0 ≠ 0 := mul_ne_zero hpos.ne' hequity
    rw [if_neg htotal, if_neg hequity, mul_left_comm]
    exact mul_le_mul_iff_right₀ hpos

theorem any_executed_replicate (hn : 0 < n) (execute : Execute) (signal : SmcLiveSignal) :
    ((List.replicate n book).map (executeSharedSignal execute signal)).any Prod.snd =
      (executeSharedSignal execute signal book).2 := by
  simp [List.any_replicate, Nat.pos_iff_ne_zero.mp hn]

theorem mem_exits_replicate (hn : 0 < n) (pass : PassEnv) (pairs : List Instrument)
    (e : ReportedExit) :
    e ∈ ((List.replicate n book).map fun book => reconcileAccount pass book pairs).flatMap
        Prod.snd ↔ e ∈ (reconcileAccount pass book pairs).2 := by
  simp [List.mem_flatMap, List.mem_replicate, Nat.pos_iff_ne_zero.mp hn]

end Replicate

/-- Two runs of identical accounts that only their winnings tell apart. -/
structure SameTenants (seed : DefaultRiskCfg) (n m : Nat) (s t : SharedRun) : Prop where
  books : exists book, s.books = List.replicate n book ∧ t.books = List.replicate m book
  tripped : t.tripped = s.tripped
  returned : t.returned = s.returned
  brain : BrainAlike seed s.orchestrator t.orchestrator

theorem sameTenants_start {seed : DefaultRiskCfg} (hseed : 0 < seed.initialBalance)
    (n m : Nat) : SameTenants seed n m (SharedRun.start seed n) (SharedRun.start seed m) where
  books := ⟨emptyBook, rfl, rfl⟩
  tripped := rfl
  returned := rfl
  brain := brainAlike_create hseed

section Step

variable {seed : DefaultRiskCfg} {n m : Nat} {s t : SharedRun}

theorem candle_sameTenants (hn : 0 < n) (hm : 0 < m) (h : SameTenants seed n m s t)
    (cfg : SharedConfig) (symbol : Instrument) (b : CandleBundle) (riskPercent : ℚ)
    (execute : Execute) :
    SameTenants seed n m (evaluatePairSharedSignal cfg s symbol b riskPercent execute)
      (evaluatePairSharedSignal cfg t symbol b riskPercent execute) := by
  rcases h.books with ⟨book, hs, ht⟩
  have hctx : sharedContext t.books symbol riskPercent =
      sharedContext s.books symbol riskPercent := by
    rw [hs, ht, sharedContext_replicate book hn, sharedContext_replicate book hm]
  have hout := evaluateAt_alike h.brain cfg.engine symbol b
    (sharedContext s.books symbol riskPercent) none (Cursor.full b)
  unfold evaluatePairSharedSignal evaluate
  dsimp only [Option.getD_none]
  rw [hctx, hout.2, h.tripped, h.returned]
  split
  · exact ⟨⟨book, hs, ht⟩, rfl, rfl, hout.1⟩
  · exact ⟨⟨book, hs, ht⟩, rfl, rfl, hout.1⟩
  · rename_i signal hsignal
    by_cases hbreaker : cfg.breaker.isSome = true ∧ s.tripped = true
    · rw [if_pos hbreaker, if_pos hbreaker]
      exact ⟨⟨book, hs, ht⟩, rfl, rfl, hout.1⟩
    · rw [if_neg hbreaker, if_neg hbreaker, hs, ht, any_executed_replicate book hn,
        any_executed_replicate book hm]
      refine ⟨⟨(executeSharedSignal execute signal book).1, by simp, by simp⟩, rfl, rfl, ?_⟩
      rw [← hs]
      dsimp only
      split_ifs
      · exact recordEntry_alike hout.1 symbol signal.h1SweepTime
      · exact hout.1

theorem sharedStep_sameTenants (hn : 0 < n) (hm : 0 < m) (cfg : SharedConfig)
    (h : SameTenants seed n m s t) (op : SharedOp) (hharmless : Harmless s op) :
    SameTenants seed n m (sharedStep cfg s op) (sharedStep cfg t op) := by
  rcases h.books with ⟨book, hs, ht⟩
  cases op with
  | candle symbol b riskPercent execute =>
      exact candle_sameTenants hn hm h cfg symbol b riskPercent execute
  | reconcile pairs pass =>
      have hmem : book ∈ s.books := by
        rw [hs]
        exact List.mem_replicate.mpr ⟨Nat.pos_iff_ne_zero.mp hn, rfl⟩
      have hpnl : forall e, e ∈ (reconcileAccount pass book pairs).2 -> 0 ≤ e.pnl := by
        intro e he
        by_contra hneg
        exact hharmless.1 ⟨book, hmem, e, he, not_le.mp hneg⟩
      refine ⟨⟨(reconcileAccount pass book pairs).1, by simp [sharedStep, hs],
        by simp [sharedStep, ht]⟩, h.tripped, h.returned, ?_⟩
      refine reportExits_alike h.brain cfg.engine ?_ ?_
      · intro e
        rw [hs, ht, mem_exits_replicate book hn, mem_exits_replicate book hm]
      · intro e he
        rw [hs, mem_exits_replicate book hn] at he
        exact hpnl e he
  | pendingEntry tradeId mt5Ticket status =>
      exact ⟨⟨book.setEntry tradeId mt5Ticket status, by simp [sharedStep, hs],
        by simp [sharedStep, ht]⟩, h.tripped, h.returned, h.brain⟩
  | breakerCheck since equity =>
      have hside : equity.getD 0 ≠ 0 ∨ 0 ≤ rollingPnl since book := by
        rcases hharmless.2 with hne | hall
        · exact Or.inl hne
        · refine Or.inr (hall book ?_)
          rw [hs]
          exact List.mem_replicate.mpr ⟨Nat.pos_iff_ne_zero.mp hn, rfl⟩
      cases hcfg : cfg.breaker with
      | none =>
          simpa [sharedStep, hcfg] using h
      | some breaker =>
          simp only [sharedStep, hcfg]
          refine ⟨⟨book, hs, ht⟩, ?_, h.returned, h.brain⟩
          rw [h.tripped, hs, ht, breakerTrips_replicate book hn breaker since equity hside,
            breakerTrips_replicate book hm breaker since equity hside]
  | breakerReset =>
      exact ⟨⟨book, hs, ht⟩, rfl, h.returned, h.brain⟩

end Step

/-- Runs with the same number of accounts, or whose steps are all harmless under
a positive seed, cannot be told apart by the canonical orchestrator. -/
theorem tenants_invisible_over_runs (cfg : SharedConfig) (seed : DefaultRiskCfg) (n m : Nat)
    (hn : 0 < n) (hm : 0 < m) (ops : List SharedOp)
    (h : n = m ∨ (0 < seed.initialBalance ∧
      EveryStep (sharedStep cfg) Harmless (SharedRun.start seed n) ops)) :
    TenantsInvisible cfg seed n m ops := by
  rcases h with rfl | ⟨hseed, hsteps⟩
  · exact ⟨rfl, fun _ _ _ _ _ _ _ => rfl⟩
  · constructor
    · have hrun := runFrom_related (SameTenants seed n m)
        (fun s t op hst hharm => sharedStep_sameTenants hn hm cfg hst op hharm)
        (sameTenants_start hseed n m) hsteps
      exact hrun.returned.symm
    · intro front op back hops hloss
      subst hops
      exact absurd hloss hsteps.at_split.1

/-!
# Two sweeps of gold

The first sweep fires a signal that every account takes with two legs.  The
second sweep comes after their exits and the cooldown.
-/

def openLegs : Execute := fun book signal =>
  (signal.legs.zipIdx.map fun (leg, i) =>
    { id := book.rows.length + i
      mt5Ticket := some (book.rows.length + i + 1)
      status := .open_
      trade :=
        { symbol := signal.symbol
          side := signal.side
          lotSize := leg.lotSize
          entryPrice := signal.entryPrice
          slPrice := signal.slPrice
          tpPrice := leg.tpPrice } }, true)

def legsClosed (closePrice pnl : Nat -> ℚ) : PassEnv :=
  { tickets := fun _ => some []
    fin := fun tradeId =>
      { history := some
          { closePrice := some (closePrice tradeId)
            realizedPnl := some (pnl tradeId)
            pnl := none
            closeTime := some (.iso (goldStart + 61 * msPerHour))
            reason := none }
        now := goldStart + 61 * msPerHour
        updates := true
        publishes := true } }

def twoSweeps (closed : PassEnv) : List SharedOp :=
  .candle .XAUUSD (twoWickWindow 60 0) (15 / 10) openLegs ::
    List.replicate 3 (.reconcile [.XAUUSD] closed) ++
      (List.range 5).map fun quarter =>
        .candle .XAUUSD (twoWickWindow 64 quarter) (15 / 10) openLegs

def takenProfit : PassEnv :=
  legsClosed (fun tradeId => if tradeId = 0 then 99917 / 50 else 98809 / 50)
    (fun tradeId => if tradeId = 0 then 3324 / 100 else 36010 / 100)

def bothStopped : PassEnv :=
  legsClosed (fun _ => 10054 / 5)
    (fun tradeId => if tradeId = 0 then -4152 / 100 else -8996 / 100)

def goldSignals : SharedConfig :=
  { engine := documentedEnv, breaker := none }

set_option maxRecDepth 20000 in
theorem tenants_invisible_after_profit :
    EveryStep (sharedStep goldSignals) Harmless (SharedRun.start standardRiskCfg 1)
        (twoSweeps takenProfit) ∧
      TenantsInvisible goldSignals standardRiskCfg 1 2 (twoSweeps takenProfit) := by
  have hharmless : EveryStep (sharedStep goldSignals) Harmless
      (SharedRun.start standardRiskCfg 1) (twoSweeps takenProfit) := by
    decide +kernel
  exact ⟨hharmless, tenants_invisible_over_runs goldSignals standardRiskCfg 1 2 (by decide)
    (by decide) _ (Or.inr ⟨by decide +kernel, hharmless⟩)⟩

def signalsFired (returned : List (Except EngineError (Option SmcLiveSignal))) : List Bool :=
  returned.map fun out =>
    match out with
    | .ok (some _) => true
    | _ => false

set_option maxRecDepth 20000 in
/-- One account loses twice and the second sweep fires.  Two accounts lose four
times, which pauses the canonical manager, and it does not. -/
theorem second_tenant_silences_signal :
    ¬ TenantsInvisible goldSignals standardRiskCfg 1 2 (twoSweeps bothStopped) := by
  intro hinvisible
  have hone : signalsFired (sharedRun goldSignals standardRiskCfg 1
      (twoSweeps bothStopped)).returned = [true, false, false, false, false, true] := by
    decide +kernel
  have htwo : signalsFired (sharedRun goldSignals standardRiskCfg 2
      (twoSweeps bothStopped)).returned = [true, false, false, false, false, false] := by
    decide +kernel
  rw [hinvisible.1, htwo] at hone
  cases hone

end Live
end Shamarx
