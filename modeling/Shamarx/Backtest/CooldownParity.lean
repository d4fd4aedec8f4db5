import Shamarx.Backtest.SmcEngine
import Shamarx.Foundation.Countdown
import Shamarx.Orchestrator.Cooldown

/-!
# Two cooldowns

The orchestrator counts the bars of a cooldown down and keeps the longer of two; the
backtest keeps the index of the last blocked bar, as the last event sets it.  Both read
the same exits and entries here, bar by bar, in the order of a replay.
-/

namespace Shamarx
namespace Backtest

open Foundation
open Engine
open Orchestrator (EngineEnv Frame LiveContext OrchestratorState LiveSmcOrchestrator ExitKind
  exitCooldownBars evaluateState evaluateState_cooldown DefaultRiskCfg standardRiskCfg
  documentedEnv goldContext goldBar)

structure ReportedExit where
  kind : ExitKind
  exitTime : Int
  pnl : Option ℚ

/-- What happens on an M15 bar: the exits before its evaluation, and the entry after it. -/
structure CooldownBar where
  exits : List ReportedExit
  frame : Frame
  ctx : LiveContext
  entry : Option Int

/-!
# The orchestrator
-/

def reportExits (cfg : SmcPairConfig) (s : OrchestratorState) (exits : List ReportedExit) :
    OrchestratorState :=
  exits.foldl (fun s e => s.recordExit cfg e.kind e.exitTime e.pnl) s

def replayBar (env : EngineEnv) (symbol : Instrument) (cfg : SmcPairConfig)
    (s : OrchestratorState) (bar : CooldownBar) : OrchestratorState :=
  let s := (evaluateState env symbol cfg bar.frame bar.ctx (reportExits cfg s bar.exits)).1
  match bar.entry with
  | some h1SweepTime => s.recordEntry h1SweepTime
  | none => s

/-!
# The backtest
-/

def settledUntil (cfg : SmcPairConfig) (i : Nat) (cooldownUntil : Int)
    (reasons : List ExitReason) : Int :=
  reasons.foldl (fun _ reason => ((i + cooldownAfter cfg reason : Nat) : Int)) cooldownUntil

def smcBar (cfg : SmcPairConfig) (i : Nat) (cooldownUntil : Int) (reasons : List ExitReason)
    (entered : Bool) : Int :=
  if entered then i + 1 else settledUntil cfg i cooldownUntil reasons

theorem settle_foldr (symbol : Instrument) (cfg : SmcPairConfig) (bar : BacktestCandle × Nat)
    (managed : List SimulatedPosition) (s : SmcRun) :
    exists trades,
      (managed.foldr (settle symbol cfg bar) s).closed = s.closed ++ trades ∧
      (managed.foldr (settle symbol cfg bar) s).cooldownUntil =
        settledUntil cfg bar.2 s.cooldownUntil (trades.map ClosedTrade.exitReason) ∧
      (managed.foldr (settle symbol cfg bar) s).opened = s.opened := by
  induction managed with
  | nil =>
      exact ⟨[], (List.append_nil _).symm, rfl, rfl⟩
  | cons p rest ih =>
      rcases ih with ⟨trades, hclosed, huntil, hopened⟩
      rw [List.foldr_cons, settle]
      split
      · exact ⟨trades, hclosed, huntil, hopened⟩
      · next trade _ =>
          refine ⟨trades ++ [trade], ?_, ?_, hopened⟩
          · dsimp only
            rw [hclosed, List.append_assoc]
          · dsimp only
            rw [settledUntil, List.map_append, List.foldl_append]
            rfl

theorem gateStep_cooldown (symbol : Instrument) (cfg : SmcPairConfig) (s : SmcRun)
    (bar : EntryBar) :
    exists legs,
      (gateStep symbol cfg s bar).opened = s.opened ++ legs ∧
      (gateStep symbol cfg s bar).closed = s.closed ∧
      (gateStep symbol cfg s bar).cooldownUntil =
        (if legs = [] then s.cooldownUntil else bar.index + 1) ∧
      ((bar.index : Int) ≤ s.cooldownUntil -> legs = []) := by
  have hnothing : exists legs, s.opened = s.opened ++ legs ∧ s.closed = s.closed ∧
      s.cooldownUntil = (if legs = [] then s.cooldownUntil else bar.index + 1) ∧
      ((bar.index : Int) ≤ s.cooldownUntil -> legs = []) :=
    ⟨([] : List SimulatedPosition), (List.append_nil _).symm, rfl, rfl, fun _ => rfl⟩
  unfold gateStep
  dsimp only
  split_ifs with hcooldown
  · exact hnothing
  · exact hnothing
  · exact hnothing
  · exact hnothing
  · exact ⟨_, rfl, rfl, rfl, fun hblocked => absurd hblocked hcooldown⟩

theorem detected_kept (inp : BacktestInput) (cfg : SmcPairConfig)
    (ind : Orchestrator.PrecomputedIndicators) (r : SmcRun) (bar : BacktestCandle × Nat) :
    (expireStep inp (detectStep cfg inp ind r bar) bar).closed = r.closed ∧
      (expireStep inp (detectStep cfg inp ind r bar) bar).opened = r.opened ∧
      (expireStep inp (detectStep cfg inp ind r bar) bar).cooldownUntil = r.cooldownUntil := by
  unfold expireStep detectStep
  dsimp only
  split_ifs <;> exact ⟨rfl, rfl, rfl⟩

/-- One step of the backtest moves the index by the exits and the entry of its bar, and
enters nothing on a bar that the index blocks. -/
theorem smcStep_cooldown (symbol : Instrument) (cfg : SmcPairConfig) (inp : BacktestInput)
    (ind : Orchestrator.PrecomputedIndicators) (s : SmcRun) (bar : BacktestCandle × Nat) :
    exists trades legs,
      (smcStep symbol cfg inp ind s bar).closed = s.closed ++ trades ∧
      (smcStep symbol cfg inp ind s bar).opened = s.opened ++ legs ∧
      (smcStep symbol cfg inp ind s bar).cooldownUntil =
        smcBar cfg bar.2 s.cooldownUntil (trades.map ClosedTrade.exitReason)
          (decide (legs ≠ [])) ∧
      ((bar.2 : Int) ≤
        settledUntil cfg bar.2 s.cooldownUntil (trades.map ClosedTrade.exitReason) ->
        legs = []) := by
  rcases settle_foldr symbol cfg bar
    (s.openPositions.map (managePosition bar.1 (getSpread symbol bar.1.openTime)))
    { s with openPositions := [] } with ⟨trades, hclosed, huntil, hopened⟩
  rcases detected_kept inp cfg ind (exitStep symbol cfg s bar) bar with
    ⟨hclosed', hopened', huntil'⟩
  rcases gateStep_cooldown symbol cfg
    (expireStep inp (detectStep cfg inp ind (exitStep symbol cfg s bar) bar) bar)
    (entryBarOf ind bar) with ⟨legs, hlegs, hkept, hgate, hblocked⟩
  rw [hopened'] at hlegs
  rw [hclosed'] at hkept
  rw [huntil'] at hgate hblocked
  refine ⟨trades, legs, hkept.trans hclosed, hlegs.trans (congrArg (· ++ legs) hopened), ?_, ?_⟩
  · refine hgate.trans ?_
    rw [show (exitStep symbol cfg s bar).cooldownUntil = _ from huntil, smcBar]
    by_cases hnone : legs = []
    · simp [hnone]
    · simp [hnone, entryBarOf]
  · intro hle
    apply hblocked
    rw [show (exitStep symbol cfg s bar).cooldownUntil = _ from huntil]
    exact hle

/-!
# What the events hold back
-/

/-- A hold of an exit or an entry: the last bar that the index blocks, and the first bar
that the counter leaves free. -/
structure Hold where
  lastBar : Nat
  free : Nat
  le : lastBar ≤ free

def exitHold (cfg : SmcPairConfig) (i : Nat) (e : ReportedExit) : Hold :=
  ⟨i + exitCooldownBars cfg e.kind, i + exitCooldownBars cfg e.kind, le_refl _⟩

def entryHold (i : Nat) : Hold :=
  ⟨i + 1, i + 2, Nat.le_succ _⟩

def lastUntil (holds : List Hold) : Int :=
  match holds.getLast? with
  | some last => last.lastBar
  | none => -1

theorem lastUntil_append (holds : List Hold) (last : Hold) :
    lastUntil (holds ++ [last]) = last.lastBar := by
  rw [lastUntil, List.getLast?_concat]

theorem settledUntil_lastUntil (cfg : SmcPairConfig) (i : Nat) (holds : List Hold)
    (exits : List ReportedExit) :
    settledUntil cfg i (lastUntil holds) (exits.map fun e => e.kind.forRiskManager) =
      lastUntil (holds ++ exits.map (exitHold cfg i)) := by
  induction exits generalizing holds with
  | nil =>
      rw [List.map_nil, List.map_nil, List.append_nil]
      rfl
  | cons e rest ih =>
      have hbars : cooldownAfter cfg e.kind.forRiskManager = exitCooldownBars cfg e.kind := by
        cases e.kind <;> rfl
      have hhead : lastUntil (holds ++ [exitHold cfg i e]) =
          ((i + cooldownAfter cfg e.kind.forRiskManager : Nat) : Int) := by
        rw [lastUntil_append, hbars]
        rfl
      have hrest := ih (holds ++ [exitHold cfg i e])
      rw [hhead, List.append_assoc] at hrest
      exact hrest

theorem countsTo_reportExits {cfg : SmcPairConfig} {i : Nat} {holds : List Hold}
    {s : OrchestratorState}
    (h : CountsTo i s.cooldownBarsRemaining (holds.map Hold.free)) (exits : List ReportedExit) :
    CountsTo i (reportExits cfg s exits).cooldownBarsRemaining
      ((holds ++ exits.map (exitHold cfg i)).map Hold.free) := by
  induction exits generalizing s holds with
  | nil =>
      rw [List.map_nil, List.append_nil]
      exact h
  | cons e rest ih =>
      have hraised : CountsTo i (s.recordExit cfg e.kind e.exitTime e.pnl).cooldownBarsRemaining
          ((holds ++ [exitHold cfg i e]).map Hold.free) := by
        rw [List.map_append]
        exact h.raise (exitCooldownBars cfg e.kind)
      have hrest := ih hraised
      rw [List.append_assoc] at hrest
      exact hrest

/-!
# Both side by side
-/

/-- The two cooldowns before a bar.  The holds since the last entry are history. -/
structure CooldownRun where
  bar : Nat
  orchestrator : OrchestratorState
  cooldownUntil : Int
  holds : List Hold

def startCooldowns (riskCfg : DefaultRiskCfg) (symbol : Instrument) : CooldownRun :=
  { bar := 0
    orchestrator := (LiveSmcOrchestrator.create riskCfg).freshState symbol
    cooldownUntil := -1
    holds := [] }

def CooldownRun.holdsAt (cfg : SmcPairConfig) (r : CooldownRun) (bar : CooldownBar) : List Hold :=
  r.holds ++ bar.exits.map (exitHold cfg r.bar)

def cooldownStep (env : EngineEnv) (symbol : Instrument) (cfg : SmcPairConfig) (r : CooldownRun)
    (bar : CooldownBar) : CooldownRun :=
  { bar := r.bar + 1
    orchestrator := replayBar env symbol cfg r.orchestrator bar
    cooldownUntil := smcBar cfg r.bar r.cooldownUntil
      (bar.exits.map fun e => e.kind.forRiskManager) bar.entry.isSome
    holds := if bar.entry.isSome then [entryHold r.bar] else r.holdsAt cfg bar }

/-- The bar is blocked by both cooldowns or by neither. -/
def BlockedAlike (cfg : SmcPairConfig) (r : CooldownRun) (bar : CooldownBar) : Prop :=
  0 < (reportExits cfg r.orchestrator bar.exits).cooldownBarsRemaining ↔
    (r.bar : Int) ≤ settledUntil cfg r.bar r.cooldownUntil
      (bar.exits.map fun e => e.kind.forRiskManager)

instance (cfg : SmcPairConfig) (r : CooldownRun) (bar : CooldownBar) :
    Decidable (BlockedAlike cfg r bar) :=
  inferInstanceAs (Decidable (_ ↔ _))

/-- As long as the index blocks the bar for the last event, some event still counts on it,
and no event outlasts the last one afterwards. -/
def HoldsAgree (cfg : SmcPairConfig) (r : CooldownRun) (bar : CooldownBar) : Prop :=
  forall last, (r.holdsAt cfg bar).getLast? = some last ->
    (r.bar = last.lastBar -> exists h, h ∈ r.holdsAt cfg bar ∧ r.bar < h.free) ∧
    (last.lastBar < r.bar -> forall h, h ∈ r.holdsAt cfg bar -> h.free ≤ r.bar)

/-- Both cooldowns follow from the holds. -/
structure FollowsHolds (r : CooldownRun) : Prop where
  counter : CountsTo r.bar r.orchestrator.cooldownBarsRemaining (r.holds.map Hold.free)
  index : r.cooldownUntil = lastUntil r.holds

theorem followsHolds_start (riskCfg : DefaultRiskCfg) (symbol : Instrument) :
    FollowsHolds (startCooldowns riskCfg symbol) where
  counter := countsTo_nil 0
  index := rfl

theorem FollowsHolds.step {env : EngineEnv} {symbol : Instrument} {cfg : SmcPairConfig}
    {r : CooldownRun} (h : FollowsHolds r) (bar : CooldownBar) :
    FollowsHolds (cooldownStep env symbol cfg r bar) := by
  have hcounter : CountsTo r.bar (reportExits cfg r.orchestrator bar.exits).cooldownBarsRemaining
      ((r.holdsAt cfg bar).map Hold.free) := countsTo_reportExits h.counter bar.exits
  have hindex := settledUntil_lastUntil cfg r.bar r.holds bar.exits
  rw [<- h.index] at hindex
  cases hentry : bar.entry with
  | none =>
      constructor
      · simp only [cooldownStep, replayBar, hentry, evaluateState_cooldown]
        exact hcounter.tick
      · simp only [cooldownStep, smcBar, hentry]
        exact hindex
  | some t =>
      constructor
      · simp only [cooldownStep, replayBar, hentry]
        exact countsTo_single (r.bar + 1) 1
      · simp only [cooldownStep, smcBar, hentry]
        rfl

theorem FollowsHolds.counter_iff {cfg : SmcPairConfig} {r : CooldownRun} (h : FollowsHolds r)
    (bar : CooldownBar) :
    0 < (reportExits cfg r.orchestrator bar.exits).cooldownBarsRemaining ↔
      exists hold, hold ∈ r.holdsAt cfg bar ∧ r.bar < hold.free := by
  rw [(countsTo_reportExits h.counter bar.exits).pos_iff]
  constructor
  · intro hcounted
    rcases hcounted with ⟨e, he, hlt⟩
    rcases List.mem_map.mp he with ⟨hold, hhold, rfl⟩
    exact ⟨hold, hhold, hlt⟩
  · intro hheld
    rcases hheld with ⟨hold, hhold, hlt⟩
    exact ⟨hold.free, List.mem_map_of_mem hhold, hlt⟩

theorem heldAlike_iff {holds : List Hold} {last : Hold} (hmem : last ∈ holds) (bar : Nat) :
    ((exists hold, hold ∈ holds ∧ bar < hold.free) ↔ bar ≤ last.lastBar) ↔
      (bar = last.lastBar -> exists hold, hold ∈ holds ∧ bar < hold.free) ∧
        (last.lastBar < bar -> forall hold, hold ∈ holds -> hold.free ≤ bar) := by
  have hle := last.le
  constructor
  · intro halike
    refine ⟨fun hbar => halike.mpr (le_of_eq hbar), fun hpast hold hhold => ?_⟩
    by_contra hfree
    have hblocked := halike.mp ⟨hold, hhold, not_le.mp hfree⟩
    omega
  · intro hagree
    rcases hagree with ⟨hon, hafter⟩
    constructor
    · intro hheld
      rcases hheld with ⟨hold, hhold, hlt⟩
      by_contra hpast
      have hfree := hafter (not_le.mp hpast) hold hhold
      omega
    · intro hblocked
      rcases Nat.lt_or_eq_of_le hblocked with hbefore | hbar
      · exact ⟨last, hmem, lt_of_lt_of_le hbefore hle⟩
      · exact hon hbar

theorem FollowsHolds.blockedAlike_iff {cfg : SmcPairConfig} {r : CooldownRun}
    (h : FollowsHolds r) (bar : CooldownBar) :
    BlockedAlike cfg r bar ↔ HoldsAgree cfg r bar := by
  rw [BlockedAlike, h.counter_iff, h.index, settledUntil_lastUntil]
  change ((exists hold, hold ∈ r.holdsAt cfg bar ∧ r.bar < hold.free) ↔
    (r.bar : Int) ≤ lastUntil (r.holdsAt cfg bar)) ↔ HoldsAgree cfg r bar
  rw [HoldsAgree]
  generalize r.holdsAt cfg bar = holds
  cases hlast : holds.getLast? with
  | none =>
      have huntil : lastUntil holds = -1 := by
        rw [lastUntil, hlast]
      rw [huntil, List.getLast?_eq_none_iff.mp hlast]
      refine iff_of_true (iff_of_false ?_ (by omega)) fun _ hfound => by cases hfound
      intro hheld
      rcases hheld with ⟨hold, hhold, -⟩
      cases hhold
  | some last =>
      have huntil : lastUntil holds = last.lastBar := by
        rw [lastUntil, hlast]
      rw [huntil, Nat.cast_le, heldAlike_iff (List.mem_of_getLast? hlast)]
      constructor
      · intro hagree found hfound
        cases hfound
        exact hagree
      · intro hagree
        exact hagree last rfl

/-- The bars of a run are blocked alike exactly if the holds agree on every bar. -/
theorem blocked_alike_iff (env : EngineEnv) (symbol : Instrument) (cfg : SmcPairConfig)
    (riskCfg : DefaultRiskCfg) (bars : List CooldownBar) :
    EveryStep (cooldownStep env symbol cfg) (BlockedAlike cfg) (startCooldowns riskCfg symbol)
        bars ↔
      EveryStep (cooldownStep env symbol cfg) (HoldsAgree cfg) (startCooldowns riskCfg symbol)
        bars :=
  everyStep_iff FollowsHolds (fun _ bar h => h.blockedAlike_iff bar) (fun _ bar h _ => h.step bar)
    (followsHolds_start riskCfg symbol) bars

def quietBar (exits : List ReportedExit) : CooldownBar :=
  { exits := exits
    frame :=
      { candles := { m15 := [], h1 := [], d1 := [] }
        m15Len := 0
        h1Len := 0
        lastM15 := goldBar 0 0
        m15Indicators := computeIndicators documentedIndicators []
        h1Indicators := computeIndicators documentedIndicators []
        d1Indicators := none
        liveD1Bias := .neutral
        liveD1Adx := 0 }
    ctx := goldContext
    entry := none }

/-- A target on one bar, and two bars after it. -/
def targetThenQuiet : List CooldownBar :=
  [quietBar [{ kind := .tp, exitTime := 0, pnl := some 50 }], quietBar [], quietBar []]

/-- The index blocks the second bar after the target, the counter leaves it free. -/
theorem target_blocked_unlike :
    ¬ EveryStep (cooldownStep documentedEnv .XAUUSD xauusdSmcConfig)
      (BlockedAlike xauusdSmcConfig) (startCooldowns standardRiskCfg .XAUUSD)
      targetThenQuiet := by
  decide +kernel

end Backtest
end Shamarx
