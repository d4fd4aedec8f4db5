import Shamarx.Foundation.InFlight
import Shamarx.Foundation.Rounding
import Shamarx.Live.SharedSignals
import Shamarx.Orchestrator.EnteredSweeps

/-!
# Overlapping executions of shared signals

The calls that evaluate one symbol interleave at their awaits.  A signal is
decided in one step; its sweep is consumed when every account has executed or
skipped it, many awaits later.
-/

namespace Shamarx
namespace Live
namespace SweepExecution

open Foundation
open Engine
open Orchestrator

/-!
# One account
-/

inductive PresetKey where
  | conservative
  | balanced
  | aggressive
  deriving DecidableEq

structure StrategyPreset where
  riskPercent : ℚ
  maxDailyLossPercent : ℚ
  maxOpenPositions : Nat
  pairs : List Instrument

def getPreset : PresetKey -> StrategyPreset
  | .conservative =>
      { riskPercent := 1 / 2
        maxDailyLossPercent := 2
        maxOpenPositions := 2
        pairs := [.EURUSD, .GBPUSD] }
  | .balanced =>
      { riskPercent := 1
        maxDailyLossPercent := 3
        maxOpenPositions := 3
        pairs := [.XAUUSD, .EURUSD, .GBPUSD, .USDJPY] }
  | .aggressive =>
      { riskPercent := 3 / 2
        maxDailyLossPercent := 5
        maxOpenPositions := 3
        pairs := [.XAUUSD, .EURUSD, .GBPUSD, .USDJPY] }

structure AccountUser where
  botEnabled : Bool
  isActive : Bool
  presetKey : PresetKey
  deriving DecidableEq

structure SharedAccount where
  id : String
  isEnabled : Bool
  ctrader : Bool
  user : Option AccountUser
  deriving DecidableEq

/-- What the gates of an account read: its open sides on the symbol, its equity,
its open rows, the profit of its day, and the risk of the engine. -/
structure AccountReadings where
  positions : List Side
  equity : ℚ
  openCount : Nat
  dayPnl : ℚ
  engineRisk : ℚ

inductive SkipReason where
  | accountOff
  | pairNotTraded
  | sameDirection
  | maxOpen
  | dailyLoss
  | minLot
  deriving DecidableEq

def minLotRiskTolerance : ℚ := 625 / 1000

def retraceFrac : ℚ := 1 / 2

def retraceLotMult : ℚ := 1 / (1 - retraceFrac)

def sizeFactor (preset : StrategyPreset) (r : AccountReadings) : ℚ :=
  (r.equity * preset.riskPercent) / (sharedSignalNotionalEquity * r.engineRisk)

def resize (signal : SmcLiveSignal) (factor lotMult : ℚ) : SmcLiveSignal :=
  let legs := signal.legs.map fun leg =>
    { leg with lotSize := max (1 / 100) (roundTo 100 (leg.lotSize * factor * lotMult)) }
  { signal with
    legs := legs
    totalLot := roundTo 100 (legs.map SmcLiveSignalLeg.lotSize).sum }

/-- `executeSharedSignalForAccount` up to its placement: the signal sized to the
account, or why the account skips it. -/
def sizeForAccount (retraceEntry : Bool) (signal : SmcLiveSignal) (account : SharedAccount)
    (r : AccountReadings) : Except SkipReason SmcLiveSignal :=
  match account.user with
  | none => .error .accountOff
  | some user =>
      if ¬ (user.botEnabled ∧ user.isActive ∧ account.isEnabled) then .error .accountOff
      else
        let preset := getPreset user.presetKey
        let lotMult := if retraceEntry ∧ account.ctrader then retraceLotMult else 1
        let factor := sizeFactor preset r
        if signal.symbol ∉ preset.pairs then .error .pairNotTraded
        else if signal.side ∈ r.positions then .error .sameDirection
        else if preset.maxOpenPositions ≤ r.openCount then .error .maxOpen
        else if r.dayPnl ≤ -(preset.maxDailyLossPercent / 100 * r.equity) then .error .dailyLoss
        else if signal.totalLot * factor * lotMult <
            signal.legs.length * (1 / 100) * minLotRiskTolerance then .error .minLot
        else .ok (resize signal factor lotMult)

/-!
# Calls in flight
-/

structure SharedCallConfig where
  engine : EngineEnv
  symbol : Instrument
  retraceEntry : Bool

structure Firing where
  serial : Nat
  signal : SmcLiveSignal

/-- A call between its awaits.  While it executes, some accounts still wait for
their gates, some have a sized signal to place, and the others are done. -/
inductive CallPhase where
  | fetching (accounts : List SharedAccount)
  | asking (firing : Firing) (accounts : List SharedAccount)
  | executing (firing : Firing) (waiting : List SharedAccount)
      (approved : List (SharedAccount × SmcLiveSignal)) (executed : Bool)

structure Placement where
  account : String
  sweepTime : Int
  serial : Nat
  deriving DecidableEq

/-- The last three fields record what has happened: how many signals were given to
calls, the placements, and the sweep times passed to `recordEntry`. -/
structure CallsRun where
  orchestrator : LiveSmcOrchestrator
  calls : InFlight CallPhase
  fired : Nat
  placements : List Placement
  entries : List Int

inductive CallOp where
  | start (id : Nat) (accounts : List SharedAccount)
  | evaluate (id : Nat) (b : CandleBundle) (openHere : List Side) (openSymbols : Nat)
      (riskPercent : ℚ)
  | gate (id : Nat) (tripped : Bool)
  | read (id : Nat) (account : String) (readings : Option AccountReadings)
  | place (id : Nat) (account : String) (successfulLegs : Nat)
  | finish (id : Nat)
  | orchestrate (op : OrchestratorOp)

def notionalContext (openHere : List Side) (openSymbols : Nat) (riskPercent : ℚ) : LiveContext :=
  { accountEquity := sharedSignalNotionalEquity
    openDirections := openHere
    totalOpenPositions := openSymbols
    riskPercent := some riskPercent
    maxOpenPositions := some 4 }

namespace CallsRun

def move (s : CallsRun) (id : Nat) (phase : CallPhase) : CallsRun :=
  { s with calls := s.calls.put id phase }

def leave (s : CallsRun) (id : Nat) : CallsRun :=
  { s with calls := s.calls.drop id }

def orchestrate (cfg : SharedCallConfig) (s : CallsRun) (op : OrchestratorOp) : CallsRun :=
  { s with orchestrator := orchestratorStep cfg.engine s.orchestrator op }

def evaluate (cfg : SharedCallConfig) (s : CallsRun) (id : Nat) (accounts : List SharedAccount)
    (b : CandleBundle) (ctx : LiveContext) : CallsRun :=
  let after := s.orchestrate cfg (.evaluate cfg.symbol b ctx none none)
  match (Orchestrator.evaluate cfg.engine s.orchestrator cfg.symbol b ctx none none).2 with
  | .ok (some signal) =>
      { after with
        calls := after.calls.put id (.asking { serial := s.fired, signal := signal } accounts)
        fired := s.fired + 1 }
  | .ok none => after.leave id
  | .error _ => after.leave id

/-- A reading that throws is caught and counts as a skip. -/
def read (cfg : SharedCallConfig) (s : CallsRun) (id : Nat) (firing : Firing)
    (waiting : List SharedAccount) (approved : List (SharedAccount × SmcLiveSignal))
    (executed : Bool) (account : SharedAccount) (readings : Option AccountReadings) : CallsRun :=
  let waiting := waiting.erase account
  match readings.map (sizeForAccount cfg.retraceEntry firing.signal account) with
  | some (.ok sized) => s.move id (.executing firing waiting ((account, sized) :: approved) executed)
  | some (.error _) => s.move id (.executing firing waiting approved executed)
  | none => s.move id (.executing firing waiting approved executed)

def place (s : CallsRun) (id : Nat) (firing : Firing) (waiting : List SharedAccount)
    (approved : List (SharedAccount × SmcLiveSignal)) (executed : Bool)
    (account : SharedAccount × SmcLiveSignal) (successfulLegs : Nat) : CallsRun :=
  let approved := approved.erase account
  if successfulLegs = 0 then s.move id (.executing firing waiting approved executed)
  else
    { s.move id (.executing firing waiting approved true) with
      placements := s.placements ++
        [{ account := account.1.id
           sweepTime := firing.signal.h1SweepTime
           serial := firing.serial }] }

/-- `recordEntry` once an account has executed; otherwise the sweep stays pending. -/
def finish (cfg : SharedCallConfig) (s : CallsRun) (id : Nat) (firing : Firing)
    (executed : Bool) : CallsRun :=
  if executed then
    { (s.leave id).orchestrate cfg (.recordEntry cfg.symbol firing.signal.h1SweepTime) with
      entries := s.entries ++ [firing.signal.h1SweepTime] }
  else s.leave id

end CallsRun

def CallOp.call? : CallOp -> Option Nat
  | .start id _ => some id
  | .evaluate id _ _ _ _ => some id
  | .gate id _ => some id
  | .read id _ _ => some id
  | .place id _ _ => some id
  | .finish id => some id
  | .orchestrate _ => none

/-- The steps of the calls, each with the call it moves on. -/
inductive CallMove (cfg : SharedCallConfig) (s : CallsRun) : CallOp -> CallsRun -> Prop where
  | idle {op : CallOp} : CallMove cfg s op s
  | started {id : Nat} {accounts : List SharedAccount} (free : s.calls id = none) :
      CallMove cfg s (.start id accounts) (s.move id (.fetching accounts))
  | fired {id : Nat} {b : CandleBundle} {openHere : List Side} {openSymbols : Nat}
      {riskPercent : ℚ} {accounts : List SharedAccount} {ctx : LiveContext}
      {signal : SmcLiveSignal} (call : s.calls id = some (.fetching accounts))
      (fires : (Orchestrator.evaluate cfg.engine s.orchestrator cfg.symbol b ctx none none).2 =
        .ok (some signal)) :
      CallMove cfg s (.evaluate id b openHere openSymbols riskPercent)
        { s.orchestrate cfg (.evaluate cfg.symbol b ctx none none) with
          calls := s.calls.put id (.asking { serial := s.fired, signal := signal } accounts)
          fired := s.fired + 1 }
  | silent {id : Nat} {b : CandleBundle} {openHere : List Side} {openSymbols : Nat}
      {riskPercent : ℚ} {accounts : List SharedAccount} {ctx : LiveContext}
      (call : s.calls id = some (.fetching accounts)) :
      CallMove cfg s (.evaluate id b openHere openSymbols riskPercent)
        ((s.orchestrate cfg (.evaluate cfg.symbol b ctx none none)).leave id)
  | suppressed {id : Nat} {firing : Firing} {accounts : List SharedAccount}
      (call : s.calls id = some (.asking firing accounts)) :
      CallMove cfg s (.gate id true) (s.leave id)
  | passed {id : Nat} {firing : Firing} {accounts : List SharedAccount}
      (call : s.calls id = some (.asking firing accounts)) :
      CallMove cfg s (.gate id false) (s.move id (.executing firing accounts [] false))
  | went {op : CallOp} {id : Nat} {firing : Firing} {waiting waiting' : List SharedAccount}
      {approved approved' : List (SharedAccount × SmcLiveSignal)} {executed : Bool}
      (own : op.call? = some id)
      (call : s.calls id = some (.executing firing waiting approved executed)) :
      CallMove cfg s op (s.move id (.executing firing waiting' approved' executed))
  | placed {id : Nat} {account : String} {successfulLegs : Nat} {firing : Firing}
      {waiting : List SharedAccount} {approved approved' : List (SharedAccount × SmcLiveSignal)}
      {executed : Bool} {found : SharedAccount × SmcLiveSignal}
      (call : s.calls id = some (.executing firing waiting approved executed)) :
      CallMove cfg s (.place id account successfulLegs)
        { s.move id (.executing firing waiting approved' true) with
          placements := s.placements ++
            [{ account := found.1.id
               sweepTime := firing.signal.h1SweepTime
               serial := firing.serial }] }
  | entered {id : Nat} {firing : Firing}
      (call : s.calls id = some (.executing firing [] [] true)) :
      CallMove cfg s (.finish id)
        { (s.leave id).orchestrate cfg (.recordEntry cfg.symbol firing.signal.h1SweepTime) with
          entries := s.entries ++ [firing.signal.h1SweepTime] }
  | givenUp {id : Nat} {firing : Firing}
      (call : s.calls id = some (.executing firing [] [] false)) :
      CallMove cfg s (.finish id) (s.leave id)
  | orchestrated {op : OrchestratorOp} :
      CallMove cfg s (.orchestrate op) (s.orchestrate cfg op)

/-- The signal that a call has not finished with, and whether an account has
executed it. -/
def CallPhase.held : CallPhase -> Option (Firing × Bool)
  | .fetching _ => none
  | .asking firing _ => some (firing, false)
  | .executing firing _ _ executed => some (firing, executed)

def CallsRun.held (s : CallsRun) : InFlight (Firing × Bool) :=
  s.calls.view CallPhase.held

def CallsRun.actioned (cfg : SharedCallConfig) (s : CallsRun) : List Int :=
  (s.orchestrator.getOrCreateState cfg.symbol).actionedSweeps

theorem held_of_call {s : CallsRun} {id : Nat} {phase : CallPhase}
    (h : s.calls id = some phase) : s.held id = phase.held := InFlight.view_eq h

theorem actioned_orchestrate (cfg : SharedCallConfig) (s : CallsRun) (op : OrchestratorOp)
    {t : Int} (h : t ∈ s.actioned cfg) : t ∈ (s.orchestrate cfg op).actioned cfg :=
  (orchestratorStep_move cfg.engine s.orchestrator op cfg.symbol).keeps_actioned h

theorem CallMove.keeps_actioned {cfg : SharedCallConfig} {s s' : CallsRun} {op : CallOp}
    (hmove : CallMove cfg s op s') {t : Int} (h : t ∈ s.actioned cfg) : t ∈ s'.actioned cfg := by
  cases hmove with
  | fired hcall hfires =>
      exact actioned_orchestrate cfg s _ h
  | silent hcall =>
      exact actioned_orchestrate cfg s _ h
  | entered hcall =>
      exact actioned_orchestrate cfg s _ h
  | orchestrated =>
      exact actioned_orchestrate cfg s _ h
  | _ =>
      exact h

/-!
# One signal at a time
-/

/-- Every entry is in the dedup set; at most one call holds a signal, whose sweep is
not entered yet; and a sweep with placements is entered, or held by the call that
placed them. -/
structure SweepsKept (cfg : SharedCallConfig) (s : CallsRun) : Prop where
  actioned : forall t, t ∈ s.entries -> t ∈ s.actioned cfg
  nodup : s.entries.Nodup
  single : forall i x j y, s.held i = some x -> s.held j = some y -> i = j
  unentered : s.held.Forall fun _ x => x.1.signal.h1SweepTime ∉ s.entries
  held_placed : s.held.Forall fun _ x => forall p, p ∈ s.placements ->
    p.sweepTime = x.1.signal.h1SweepTime -> p.serial = x.1.serial
  covered : forall p, p ∈ s.placements -> p.sweepTime ∈ s.entries ∨
    exists id firing, s.held id = some (firing, true) ∧ firing.signal.h1SweepTime = p.sweepTime
  same : forall p, p ∈ s.placements -> forall q, q ∈ s.placements ->
    p.sweepTime = q.sweepTime -> p.serial = q.serial

/-- A call evaluates while no other call has a signal it is not done with. -/
def Alone (s : CallsRun) : CallOp -> Prop
  | .evaluate id _ _ _ _ => forall other, other ≠ id -> s.held other = none
  | _ => True

section Kept

variable {cfg : SharedCallConfig} {s s' : CallsRun}

theorem SweepsKept.quiet (h : SweepsKept cfg s)
    (hactioned : forall t, t ∈ s.actioned cfg -> t ∈ s'.actioned cfg)
    (hheld : s'.held = s.held) (hplacements : s'.placements = s.placements)
    (hentries : s'.entries = s.entries) : SweepsKept cfg s' := by
  constructor
  · rw [hentries]
    exact fun t ht => hactioned t (h.actioned t ht)
  · rw [hentries]
    exact h.nodup
  · rw [hheld]
    exact h.single
  · rw [hheld, hentries]
    exact h.unentered
  · rw [hheld, hplacements]
    exact h.held_placed
  · rw [hheld, hplacements, hentries]
    exact h.covered
  · rw [hplacements]
    exact h.same

theorem SweepsKept.fires (h : SweepsKept cfg s)
    (hactioned : forall t, t ∈ s.actioned cfg -> t ∈ s'.actioned cfg) {id : Nat}
    {firing : Firing} (hnone : forall other, s.held other = none)
    (hfresh : firing.signal.h1SweepTime ∉ s.actioned cfg)
    (hheld : s'.held = s.held.put id (firing, false))
    (hplacements : s'.placements = s.placements) (hentries : s'.entries = s.entries) :
    SweepsKept cfg s' := by
  have hentered : forall p, p ∈ s.placements -> p.sweepTime ∈ s.entries := by
    intro p hp
    rcases h.covered p hp with hin | ⟨other, found, hother, -⟩
    · exact hin
    · rw [hnone other] at hother
      cases hother
  have hunentered : firing.signal.h1SweepTime ∉ s.entries := fun hin =>
    hfresh (h.actioned _ hin)
  have honly : forall i x, s.held.put id (firing, false) i = some x -> i = id := by
    intro i x hi
    rcases InFlight.put_cases hi with ⟨hid, -⟩ | ⟨-, hold⟩
    · exact hid
    · rw [hnone i] at hold
      cases hold
  constructor
  · rw [hentries]
    exact fun t ht => hactioned t (h.actioned t ht)
  · rw [hentries]
    exact h.nodup
  · rw [hheld]
    intro i x j y hi hj
    rw [honly i x hi, honly j y hj]
  · rw [hheld, hentries]
    exact h.unentered.put hunentered
  · rw [hheld, hplacements]
    refine h.held_placed.put ?_
    intro p hp hsweep
    have hin := hentered p hp
    rw [hsweep] at hin
    exact absurd hin hunentered
  · rw [hplacements, hentries]
    exact fun p hp => Or.inl (hentered p hp)
  · rw [hplacements]
    exact h.same

theorem SweepsKept.drop_single (h : SweepsKept cfg s) {id : Nat} {x : Firing × Bool}
    (hbefore : s.held id = some x) (other : Nat) : s.held.drop id other = none := by
  by_cases hne : other = id
  · rw [hne, InFlight.drop_self]
  · rw [InFlight.drop_of_ne _ hne]
    cases hother : s.held other with
    | none =>
        rfl
    | some y =>
        exact absurd (h.single other y id x hother hbefore) hne

theorem SweepsKept.leaves (h : SweepsKept cfg s)
    (hactioned : forall t, t ∈ s.actioned cfg -> t ∈ s'.actioned cfg) {id : Nat}
    {firing : Firing} (hbefore : s.held id = some (firing, false))
    (hheld : s'.held = s.held.drop id) (hplacements : s'.placements = s.placements)
    (hentries : s'.entries = s.entries) : SweepsKept cfg s' := by
  have hnone := h.drop_single hbefore
  constructor
  · rw [hentries]
    exact fun t ht => hactioned t (h.actioned t ht)
  · rw [hentries]
    exact h.nodup
  · rw [hheld]
    intro i x j y hi
    rw [hnone i] at hi
    cases hi
  · rw [hheld, hentries]
    exact h.unentered.drop id
  · rw [hheld, hplacements]
    exact h.held_placed.drop id
  · rw [hplacements, hentries]
    intro p hp
    rcases h.covered p hp with hin | ⟨other, found, hother, -⟩
    · exact Or.inl hin
    · have hsame := h.single other _ id _ hother hbefore
      rw [hsame, hbefore] at hother
      cases hother
  · rw [hplacements]
    exact h.same

theorem SweepsKept.places (h : SweepsKept cfg s)
    (hactioned : forall t, t ∈ s.actioned cfg -> t ∈ s'.actioned cfg) {id : Nat}
    {firing : Firing} {executed : Bool} {account : String}
    (hbefore : s.held id = some (firing, executed))
    (hheld : s'.held = s.held.put id (firing, true))
    (hplacements : s'.placements = s.placements ++
      [{ account := account
         sweepTime := firing.signal.h1SweepTime
         serial := firing.serial }])
    (hentries : s'.entries = s.entries) : SweepsKept cfg s' := by
  have hplaced := h.held_placed id _ hbefore
  have honly : forall i x, s.held.put id (firing, true) i = some x -> i = id := by
    intro i x hi
    rcases InFlight.put_cases hi with ⟨hid, -⟩ | ⟨-, hold⟩
    · exact hid
    · exact h.single i x id _ hold hbefore
  have hall : forall p, p ∈ s'.placements ->
      p ∈ s.placements ∨
        (p.sweepTime = firing.signal.h1SweepTime ∧ p.serial = firing.serial) := by
    intro p hp
    rw [hplacements, List.mem_append, List.mem_singleton] at hp
    rcases hp with hp | rfl
    · exact Or.inl hp
    · exact Or.inr ⟨rfl, rfl⟩
  have hserial : forall p, p ∈ s'.placements ->
      p.sweepTime = firing.signal.h1SweepTime -> p.serial = firing.serial := by
    intro p hp hsweep
    rcases hall p hp with hold | ⟨-, hnew⟩
    · exact hplaced p hold hsweep
    · exact hnew
  constructor
  · rw [hentries]
    exact fun t ht => hactioned t (h.actioned t ht)
  · rw [hentries]
    exact h.nodup
  · rw [hheld]
    intro i x j y hi hj
    rw [honly i x hi, honly j y hj]
  · rw [hheld, hentries]
    have hunentered := h.unentered id _ hbefore
    exact h.unentered.put hunentered
  · rw [hheld]
    intro i x hi
    have hid := honly i x hi
    subst hid
    rw [InFlight.put_self] at hi
    cases hi
    exact hserial
  · intro p hp
    rcases hall p hp with hold | ⟨hsweep, -⟩
    · rw [hentries, hheld]
      rcases h.covered p hold with hin | ⟨other, found, hother, hsweep⟩
      · exact Or.inl hin
      · have hid := h.single other _ id _ hother hbefore
        rw [hid, hbefore] at hother
        cases hother
        exact Or.inr ⟨id, firing, InFlight.put_self _ _ _, hsweep⟩
    · rw [hheld]
      exact Or.inr ⟨id, firing, InFlight.put_self _ _ _, hsweep.symm⟩
  · intro p hp q hq hsweep
    rcases hall p hp with hpold | ⟨hpsweep, hpserial⟩
    · rcases hall q hq with hqold | ⟨hqsweep, hqserial⟩
      · exact h.same p hpold q hqold hsweep
      · rw [hqserial]
        exact hserial p hp (hsweep.trans hqsweep)
    · rw [hpserial]
      exact (hserial q hq (hsweep.symm.trans hpsweep)).symm

theorem SweepsKept.records (h : SweepsKept cfg s)
    (hactioned : forall t, t ∈ s.actioned cfg -> t ∈ s'.actioned cfg) {id : Nat}
    {firing : Firing} (hbefore : s.held id = some (firing, true))
    (hheld : s'.held = s.held.drop id) (hplacements : s'.placements = s.placements)
    (hentries : s'.entries = s.entries ++ [firing.signal.h1SweepTime])
    (hrecorded : firing.signal.h1SweepTime ∈ s'.actioned cfg) : SweepsKept cfg s' := by
  have hnone := h.drop_single hbefore
  constructor
  · rw [hentries]
    intro t ht
    rw [List.mem_append, List.mem_singleton] at ht
    rcases ht with ht | rfl
    · exact hactioned t (h.actioned t ht)
    · exact hrecorded
  · rw [hentries]
    apply List.Nodup.append h.nodup (List.nodup_singleton _)
    intro t ht hsame
    rw [List.mem_singleton] at hsame
    rw [hsame] at ht
    exact h.unentered id _ hbefore ht
  · rw [hheld]
    intro i x j y hi
    rw [hnone i] at hi
    cases hi
  · rw [hheld]
    intro i x hi
    rw [hnone i] at hi
    cases hi
  · rw [hheld, hplacements]
    exact h.held_placed.drop id
  · rw [hplacements, hentries]
    intro p hp
    rcases h.covered p hp with hin | ⟨other, found, hother, hsweep⟩
    · exact Or.inl (List.mem_append_left _ hin)
    · have hid := h.single other _ id _ hother hbefore
      rw [hid, hbefore] at hother
      cases hother
      rw [← hsweep]
      exact Or.inl (List.mem_append_right _ (List.mem_singleton_self _))
  · rw [hplacements]
    exact h.same

end Kept

theorem SweepsKept.step {cfg : SharedCallConfig} {s s' : CallsRun} {op : CallOp}
    (h : SweepsKept cfg s) (hmove : CallMove cfg s op s') (hop : Alone s op) :
    SweepsKept cfg s' := by
  have hactioned : forall t, t ∈ s.actioned cfg -> t ∈ s'.actioned cfg :=
    fun t ht => hmove.keeps_actioned ht
  cases hmove with
  | idle =>
      exact h
  | started hfree =>
      exact h.quiet hactioned (InFlight.view_put_same (InFlight.view_absent hfree).symm) rfl rfl
  | @fired id b openHere openSymbols riskPercent accounts ctx signal hcall hfires =>
      rcases evaluate_fired hfires with ⟨p, pairCfg, lastM15, setup, -, -, hfire, -⟩
      have hnone : forall other, s.held other = none := by
        intro other
        by_cases hne : other = id
        · rw [hne]
          exact held_of_call hcall
        · exact hop other hne
      exact h.fires hactioned hnone (judge_fire_unactioned hfire) (InFlight.view_put rfl) rfl rfl
  | silent hcall =>
      exact h.quiet hactioned
        (InFlight.view_drop.trans (InFlight.drop_absent (held_of_call hcall))) rfl rfl
  | suppressed hcall =>
      exact h.leaves hactioned (held_of_call hcall) InFlight.view_drop rfl rfl
  | passed hcall =>
      exact h.quiet hactioned (InFlight.view_put_same (held_of_call hcall).symm) rfl rfl
  | went hown hcall =>
      exact h.quiet hactioned (InFlight.view_put_same (held_of_call hcall).symm) rfl rfl
  | placed hcall =>
      exact h.places hactioned (held_of_call hcall) (InFlight.view_put rfl) rfl rfl
  | entered hcall =>
      exact h.records hactioned (held_of_call hcall) InFlight.view_drop rfl rfl
        (recordEntry_actioned cfg.engine s.orchestrator cfg.symbol _)
  | givenUp hcall =>
      exact h.leaves hactioned (held_of_call hcall) InFlight.view_drop rfl rfl
  | orchestrated =>
      exact h.quiet hactioned rfl rfl rfl

end SweepExecution
end Live
end Shamarx
