import Shamarx.Foundation.Weights
import Shamarx.Live.SweepExecution

/-!
# The position cap of an account

In shared-signal mode every signal is executed for the account on its own, and the
executions for different symbols overlap at their awaits.  Each counts the open
rows once, before several awaits; its legs then become open rows one by one, or
parked rows that the pending-entry monitor opens later.
-/

namespace Shamarx
namespace Live
namespace PositionCap

open Foundation
open Engine
open Orchestrator
open SweepExecution

/-!
# Executions and rows
-/

structure CapConfig where
  account : SharedAccount
  retraceEntry : Bool

/-- `getPreset(user.presetKey).maxOpenPositions`; an account without a user never
trades. -/
def CapConfig.maxOpenPositions (cfg : CapConfig) : Nat :=
  match cfg.account.user with
  | some user => (getPreset user.presetKey).maxOpenPositions
  | none => 0

def CapConfig.useRetrace (cfg : CapConfig) : Bool :=
  cfg.retraceEntry && cfg.account.ctrader

inductive Execution where
  | reading (signal : SmcLiveSignal)
  | counted (signal : SmcLiveSignal) (openCount : Nat)
  | placing (legs left : Nat) (placed : List Nat)
  | rollingBack (placed : List Nat)
  | done
  deriving DecidableEq

/-- What one leg leaves in the trade table.  A row whose announcement throws is left
open and does not count as placed; a parked row waits for its fill. -/
inductive LegRow where
  | none
  | opened
  | unannounced
  | parked
  deriving DecidableEq

structure AccountRun where
  rows : List TradeStatus
  executions : List Execution

def AccountRun.fresh : AccountRun :=
  { rows := [], executions := [] }

inductive CapOp where
  | start (signal : SmcLiveSignal)
  | count (i : Nat)
  | gate (i : Nat) (positions : List Side) (equity dayPnl engineRisk : ℚ)
  | leg (i : Nat) (row : LegRow)
  | rollBack (i : Nat) (updates : Bool)
  | throws (i : Nat)
  | promote (row : Nat)
  | expire (row : Nat)
  | close (row : Nat)
  | restart

namespace AccountRun

def move (s : AccountRun) (i : Nat) (e : Execution) : AccountRun :=
  { s with executions := s.executions.set i e }

def setRow (s : AccountRun) (row : Nat) (status : TradeStatus) : AccountRun :=
  { s with rows := s.rows.set row status }

def addRow (s : AccountRun) (status : TradeStatus) : AccountRun :=
  { s with rows := s.rows ++ [status] }

def openCount (s : AccountRun) : Nat :=
  s.rows.count .open_

/-- After the last leg a market order that is placed in part is rolled back. -/
def afterLegs (cfg : CapConfig) (legs left : Nat) (placed : List Nat) : Execution :=
  if 0 < left then .placing legs left placed
  else if cfg.useRetrace = false ∧ 0 < placed.length ∧ placed.length < legs then
    .rollingBack placed
  else .done

/-- The rows that a leg can leave at market and as a parked limit. -/
def LegPossible (cfg : CapConfig) : LegRow -> Prop
  | .none => True
  | .opened => True
  | .unannounced => cfg.useRetrace = false
  | .parked => cfg.useRetrace = true

instance (cfg : CapConfig) (row : LegRow) : Decidable (LegPossible cfg row) := by
  cases row <;> unfold LegPossible <;> infer_instance

def placeLeg (cfg : CapConfig) (s : AccountRun) (i legs left : Nat) (placed : List Nat) :
    LegRow -> AccountRun
  | .none => s.move i (afterLegs cfg legs left placed)
  | .opened => (s.addRow .open_).move i (afterLegs cfg legs left (placed ++ [s.rows.length]))
  | .unannounced => (s.addRow .open_).move i (afterLegs cfg legs left placed)
  | .parked => (s.addRow .pending).move i (afterLegs cfg legs left (placed ++ [s.rows.length]))

def gate (cfg : CapConfig) (s : AccountRun) (i : Nat) (signal : SmcLiveSignal)
    (readings : AccountReadings) : AccountRun :=
  match sizeForAccount cfg.retraceEntry signal cfg.account readings with
  | .ok sized => s.move i (.placing sized.legs.length sized.legs.length [])
  | .error _ => s.move i .done

end AccountRun

/-- One step of the account: of one execution, of the monitors on one row, or a
restart of the engine, which leaves the rows. -/
def capStep (cfg : CapConfig) (s : AccountRun) : CapOp -> AccountRun
  | .start signal => { s with executions := s.executions ++ [.reading signal] }
  | .count i =>
      match s.executions[i]? with
      | some (.reading signal) => s.move i (.counted signal s.openCount)
      | _ => s
  | .gate i positions equity dayPnl engineRisk =>
      match s.executions[i]? with
      | some (.counted signal openCount) =>
          s.gate cfg i signal
            { positions := positions
              equity := equity
              openCount := openCount
              dayPnl := dayPnl
              engineRisk := engineRisk }
      | _ => s
  | .leg i row =>
      match s.executions[i]? with
      | some (.placing legs (left + 1) placed) =>
          if AccountRun.LegPossible cfg row then s.placeLeg cfg i legs left placed row else s
      | _ => s
  | .rollBack i updates =>
      match s.executions[i]? with
      | some (.rollingBack (row :: rest)) =>
          if updates then (s.setRow row .closed).move i (.rollingBack rest)
          else s.move i (.rollingBack rest)
      | _ => s
  | .throws i =>
      match s.executions[i]? with
      | some _ => s.move i .done
      | none => s
  | .promote row =>
      match s.rows[row]? with
      | some .pending => s.setRow row .open_
      | _ => s
  | .expire row =>
      match s.rows[row]? with
      | some .pending => s.setRow row .cancelled
      | _ => s
  | .close row =>
      match s.rows[row]? with
      | some .open_ => s.setRow row .closed
      | _ => s
  | .restart => { s with executions := [] }

/-!
# What can still become open
-/

def liveRow : TradeStatus -> Nat
  | .open_ => 1
  | .pending => 1
  | .closed => 0
  | .cancelled => 0

def legsLeft : Execution -> Nat
  | .placing _ left _ => left
  | _ => 0

def AccountRun.committed (s : AccountRun) : Nat :=
  total liveRow s.rows + total legsLeft s.executions

/-- The legs of the sized signal fit beside everything that is open or can still
become open. -/
def GateFits (cfg : CapConfig) (s : AccountRun) : CapOp -> Prop
  | .gate i positions equity dayPnl engineRisk =>
      match s.executions[i]? with
      | some (.counted signal openCount) =>
          match sizeForAccount cfg.retraceEntry signal cfg.account
              { positions := positions
                equity := equity
                openCount := openCount
                dayPnl := dayPnl
                engineRisk := engineRisk } with
          | .ok sized => s.committed + sized.legs.length ≤ cfg.maxOpenPositions
          | .error _ => True
      | _ => True
  | _ => True

instance (cfg : CapConfig) (s : AccountRun) (op : CapOp) : Decidable (GateFits cfg s op) := by
  unfold GateFits
  repeat' split
  all_goals infer_instance

variable {cfg : CapConfig} {s : AccountRun}

theorem legsLeft_afterLegs (cfg : CapConfig) (legs left : Nat) (placed : List Nat) :
    legsLeft (AccountRun.afterLegs cfg legs left placed) = left := by
  unfold AccountRun.afterLegs
  split_ifs with hleft hback
  · rfl
  · exact (Nat.eq_zero_of_not_pos hleft).symm
  · exact (Nat.eq_zero_of_not_pos hleft).symm

theorem committed_move {i : Nat} {old : Execution} (h : s.executions[i]? = some old)
    (new : Execution) :
    (s.move i new).committed + legsLeft old = s.committed + legsLeft new := by
  have hset := total_set h legsLeft new
  unfold AccountRun.committed AccountRun.move
  dsimp only
  omega

theorem committed_setRow {row : Nat} {old : TradeStatus} (h : s.rows[row]? = some old)
    (new : TradeStatus) :
    (s.setRow row new).committed + liveRow old = s.committed + liveRow new := by
  have hset := total_set h liveRow new
  unfold AccountRun.committed AccountRun.setRow
  dsimp only
  omega

theorem committed_closeRow (s : AccountRun) (row : Nat) :
    (s.setRow row .closed).committed ≤ s.committed := by
  cases hrow : s.rows[row]? with
  | none =>
      unfold AccountRun.setRow
      rw [List.set_eq_of_length_le (List.getElem?_eq_none_iff.mp hrow)]
  | some old =>
      have hset := committed_setRow hrow .closed
      have hclosed : liveRow .closed = 0 := rfl
      omega

theorem committed_addRow (s : AccountRun) (status : TradeStatus) :
    (s.addRow status).committed = s.committed + liveRow status := by
  unfold AccountRun.committed AccountRun.addRow
  dsimp only
  rw [total_append, total_cons, total_nil]
  omega

theorem committed_placeLeg {i legs left : Nat} {placed : List Nat}
    (h : s.executions[i]? = some (.placing legs (left + 1) placed)) (row : LegRow) :
    (s.placeLeg cfg i legs left placed row).committed ≤ s.committed := by
  have hleft : legsLeft (.placing legs (left + 1) placed) = left + 1 := rfl
  have hopen : liveRow .open_ = 1 := rfl
  have hpending : liveRow .pending = 1 := rfl
  cases row with
  | none =>
      have hmove := committed_move h (AccountRun.afterLegs cfg legs left placed)
      rw [legsLeft_afterLegs] at hmove
      unfold AccountRun.placeLeg
      dsimp only
      omega
  | opened =>
      have hadd := committed_addRow s .open_
      have hmove := committed_move (s := s.addRow .open_) h
        (AccountRun.afterLegs cfg legs left (placed ++ [s.rows.length]))
      rw [legsLeft_afterLegs] at hmove
      unfold AccountRun.placeLeg
      dsimp only
      omega
  | unannounced =>
      have hadd := committed_addRow s .open_
      have hmove := committed_move (s := s.addRow .open_) h
        (AccountRun.afterLegs cfg legs left placed)
      rw [legsLeft_afterLegs] at hmove
      unfold AccountRun.placeLeg
      dsimp only
      omega
  | parked =>
      have hadd := committed_addRow s .pending
      have hmove := committed_move (s := s.addRow .pending) h
        (AccountRun.afterLegs cfg legs left (placed ++ [s.rows.length]))
      rw [legsLeft_afterLegs] at hmove
      unfold AccountRun.placeLeg
      dsimp only
      omega

theorem capStep_committed (cfg : CapConfig) (s : AccountRun) (op : CapOp)
    (hop : forall i positions equity dayPnl engineRisk,
      op ≠ .gate i positions equity dayPnl engineRisk) :
    (capStep cfg s op).committed ≤ s.committed := by
  cases op with
  | start signal =>
      unfold capStep AccountRun.committed
      dsimp only
      rw [total_append, total_cons, total_nil]
      exact Nat.le_refl _
  | count i =>
      simp only [capStep]
      split
      · next signal hcall =>
          exact Nat.le_of_eq (committed_move hcall _)
      · exact Nat.le_refl _
  | gate i positions equity dayPnl engineRisk =>
      exact absurd rfl (hop i positions equity dayPnl engineRisk)
  | leg i row =>
      simp only [capStep]
      split
      · next legs left placed hcall =>
          split_ifs
          · exact committed_placeLeg hcall row
          · exact Nat.le_refl _
      · exact Nat.le_refl _
  | rollBack i updates =>
      simp only [capStep]
      split
      · next row rest hcall =>
          split_ifs
          · refine Nat.le_trans (Nat.le_of_eq ?_) (committed_closeRow s row)
            exact committed_move (s := s.setRow row .closed) hcall _
          · exact Nat.le_of_eq (committed_move hcall _)
      · exact Nat.le_refl _
  | throws i =>
      simp only [capStep]
      split
      · next e hcall =>
          exact Nat.le_of_add_right_le (Nat.le_of_eq (committed_move hcall .done))
      · exact Nat.le_refl _
  | promote row =>
      simp only [capStep]
      split
      · next hrow =>
          exact Nat.le_of_eq (Nat.add_right_cancel (committed_setRow hrow .open_))
      · exact Nat.le_refl _
  | expire row =>
      simp only [capStep]
      split
      · next hrow =>
          exact Nat.le_of_add_right_le (Nat.le_of_eq (committed_setRow hrow .cancelled))
      · exact Nat.le_refl _
  | close row =>
      simp only [capStep]
      split
      · next hrow =>
          exact Nat.le_of_add_right_le (Nat.le_of_eq (committed_setRow hrow .closed))
      · exact Nat.le_refl _
  | restart =>
      exact Nat.le_add_right _ _

theorem capStep_gate_committed {i : Nat} {signal : SmcLiveSignal} {openCount : Nat}
    {positions : List Side} {equity dayPnl engineRisk : ℚ} {sized : SmcLiveSignal}
    (hcall : s.executions[i]? = some (.counted signal openCount))
    (hsized : sizeForAccount cfg.retraceEntry signal cfg.account
      { positions := positions
        equity := equity
        openCount := openCount
        dayPnl := dayPnl
        engineRisk := engineRisk } = .ok sized) :
    (capStep cfg s (.gate i positions equity dayPnl engineRisk)).committed =
      s.committed + sized.legs.length := by
  simp only [capStep, hcall, AccountRun.gate, hsized]
  exact committed_move hcall _

theorem capStep_within (hs : s.committed ≤ cfg.maxOpenPositions) {op : CapOp}
    (hfits : GateFits cfg s op) : (capStep cfg s op).committed ≤ cfg.maxOpenPositions := by
  cases op with
  | gate i positions equity dayPnl engineRisk =>
      cases hcall : s.executions[i]? with
      | none =>
          simp only [capStep, hcall]
          exact hs
      | some e =>
          cases e with
          | counted signal openCount =>
              cases hsized : sizeForAccount cfg.retraceEntry signal cfg.account
                  { positions := positions
                    equity := equity
                    openCount := openCount
                    dayPnl := dayPnl
                    engineRisk := engineRisk } with
              | ok sized =>
                  simp only [GateFits, hcall, hsized] at hfits
                  rw [capStep_gate_committed hcall hsized]
                  exact hfits
              | error reason =>
                  simp only [capStep, hcall, AccountRun.gate, hsized]
                  exact Nat.le_trans (Nat.le_of_eq (committed_move hcall .done)) hs
          | _ =>
              simp only [capStep, hcall]
              exact hs
  | _ =>
      refine Nat.le_trans (capStep_committed cfg s _ ?_) hs
      intro i positions equity dayPnl engineRisk heq
      cases heq

/-!
# From commitments to open rows
-/

def pendingRow : TradeStatus -> Nat
  | .pending => 1
  | _ => 0

def AccountRun.outstanding (s : AccountRun) : Nat :=
  total legsLeft s.executions + total pendingRow s.rows

theorem open_add_outstanding (s : AccountRun) : s.openCount + s.outstanding = s.committed := by
  have hrows : s.openCount + total pendingRow s.rows = total liveRow s.rows := by
    unfold AccountRun.openCount
    induction s.rows with
    | nil =>
        rfl
    | cons status rest ih =>
        rw [List.count_cons, total_cons, total_cons]
        cases status <;> simp [liveRow, pendingRow] <;> omega
  unfold AccountRun.outstanding AccountRun.committed
  omega

theorem exists_leg_opening (cfg : CapConfig) (h : 0 < total legsLeft s.executions) :
    exists op, (capStep cfg s op).committed = s.committed ∧
      (capStep cfg s op).outstanding + 1 = s.outstanding := by
  rcases exists_weight_of_total_pos h with ⟨i, e, hcall, hpos⟩
  cases e with
  | placing legs left placed =>
      cases left with
      | zero =>
          cases hpos
      | succ left =>
          have hstep : capStep cfg s (.leg i .opened) =
              (s.addRow .open_).move i
                (AccountRun.afterLegs cfg legs left (placed ++ [s.rows.length])) := by
            simp only [capStep, hcall]
            rfl
          have hmove := committed_move (s := s.addRow .open_) hcall
            (AccountRun.afterLegs cfg legs left (placed ++ [s.rows.length]))
          have hset := total_set hcall legsLeft
            (AccountRun.afterLegs cfg legs left (placed ++ [s.rows.length]))
          have hleft : legsLeft (.placing legs (left + 1) placed) = left + 1 := rfl
          have hopen : liveRow .open_ = 1 := rfl
          have hrow : pendingRow .open_ = 0 := rfl
          rw [legsLeft_afterLegs, hleft] at hmove hset
          rw [committed_addRow] at hmove
          refine ⟨.leg i .opened, ?_, ?_⟩
          · rw [hstep]
            omega
          · rw [hstep]
            simp only [AccountRun.outstanding, AccountRun.move, AccountRun.addRow, total_append,
              total_cons, total_nil]
            omega
  | _ =>
      cases hpos

theorem exists_promotion (cfg : CapConfig) (h : 0 < total pendingRow s.rows) :
    exists op, (capStep cfg s op).committed = s.committed ∧
      (capStep cfg s op).outstanding + 1 = s.outstanding := by
  rcases exists_weight_of_total_pos h with ⟨row, status, hrow, hpos⟩
  cases status with
  | pending =>
      have hstep : capStep cfg s (.promote row) = s.setRow row .open_ := by
        simp only [capStep, hrow]
      have hset := total_set hrow pendingRow .open_
      have hold : pendingRow .pending = 1 := rfl
      have hnew : pendingRow .open_ = 0 := rfl
      refine ⟨.promote row, ?_, ?_⟩
      · rw [hstep]
        exact Nat.add_right_cancel (committed_setRow hrow .open_)
      · rw [hstep]
        unfold AccountRun.outstanding AccountRun.setRow
        dsimp only
        omega
  | _ =>
      cases hpos

theorem exists_run_opening_all (cfg : CapConfig) (s : AccountRun) :
    exists ops, (runFrom (capStep cfg) s ops).openCount = s.committed := by
  induction hn : s.outstanding generalizing s with
  | zero =>
      have hopen := open_add_outstanding s
      exact ⟨[], by rw [← hopen, hn]; rfl⟩
  | succ n ih =>
      have hnext : exists op, (capStep cfg s op).committed = s.committed ∧
          (capStep cfg s op).outstanding + 1 = s.outstanding := by
        by_cases hlegs : 0 < total legsLeft s.executions
        · exact exists_leg_opening cfg hlegs
        · unfold AccountRun.outstanding at hn
          exact exists_promotion cfg (by omega)
      rcases hnext with ⟨op, hsame, hfewer⟩
      rcases ih (capStep cfg s op) (by omega) with ⟨ops, hops⟩
      exact ⟨op :: ops, hops.trans hsame⟩

/-- The open rows stay within the preset's cap in every run whose gates all fit, and
no weaker rule at the gates is enough: after a gate that does not fit, some
continuation has more open rows than the cap. -/
theorem open_rows_capped_when_gates_fit (cfg : CapConfig) (ops : List CapOp) :
    (EveryStep (capStep cfg) (GateFits cfg) .fresh ops ->
        (runFrom (capStep cfg) .fresh ops).openCount ≤ cfg.maxOpenPositions) ∧
      (forall op, ¬ GateFits cfg (runFrom (capStep cfg) .fresh ops) op ->
        exists more, cfg.maxOpenPositions <
          (runFrom (capStep cfg) .fresh (ops ++ op :: more)).openCount) := by
  constructor
  · intro hfits
    have hwithin := EveryStep.run_inv (fun s => s.committed ≤ cfg.maxOpenPositions)
      (fun _ _ hs hop => capStep_within hs hop) (Nat.zero_le _) hfits
    have hopen := open_add_outstanding (runFrom (capStep cfg) .fresh ops)
    exact Nat.le_trans (Nat.le_of_add_right_le (Nat.le_of_eq hopen)) hwithin
  · intro op hmiss
    cases op with
    | gate i positions equity dayPnl engineRisk =>
        simp only [GateFits] at hmiss
        split at hmiss
        · next signal openCount hcall =>
            split at hmiss
            · next sized hsized =>
                rcases exists_run_opening_all cfg (capStep cfg (runFrom (capStep cfg) .fresh ops)
                  (.gate i positions equity dayPnl engineRisk)) with ⟨more, hmore⟩
                refine ⟨more, ?_⟩
                rw [runFrom_append, runFrom_cons, hmore, capStep_gate_committed hcall hsized]
                exact Nat.lt_of_not_le hmiss
            · exact absurd trivial hmiss
        · exact absurd trivial hmiss
    | _ =>
        exact absurd trivial hmiss

/-!
# Two symbols at once
-/

def ladderSignal (symbol : Instrument) : SmcLiveSignal :=
  { symbol := symbol
    side := .buy
    entryPrice := 11 / 10
    slPrice := 109 / 100
    tpPrice := 111 / 100
    totalLot := 1
    legs :=
      [{ lotSize := 3 / 10, tpPrice := 111 / 100, setupTags := [.smc, .tp1] },
       { lotSize := 7 / 10, tpPrice := 113 / 100, setupTags := [.smc, .runner] }]
    mode := .reversal
    h1SweepTime := 0
    reason :=
      { mode := .reversal
        direction := .buy
        symbol := symbol
        d1Adx := 25
        d1Bias := .neutral
        session := .london
        ladder := true }
    smcContext := none }

def conservativeAccount : CapConfig :=
  { account :=
      { id := "account"
        isEnabled := true
        ctrader := false
        user := some { botEnabled := true, isActive := true, presetKey := .conservative } }
    retraceEntry := false }

def executed (i : Nat) : List CapOp :=
  [.gate i [] 100000 0 (3 / 2), .leg i .opened, .leg i .opened]

/-- One signal on an account with no rows fits. -/
theorem one_signal_stays_within_the_cap :
    (runFrom (capStep conservativeAccount) .fresh
      ([.start (ladderSignal .EURUSD), .count 0] ++ executed 0)).openCount = 2 ∧
    (runFrom (capStep conservativeAccount) .fresh
      ([.start (ladderSignal .EURUSD), .count 0] ++ executed 0)).openCount ≤
        conservativeAccount.maxOpenPositions :=
  ⟨by decide +kernel, (open_rows_capped_when_gates_fit conservativeAccount _).1 (by decide +kernel)⟩

/-- The executions for two symbols both count before either places. -/
theorem two_symbols_overrun_the_cap :
    ¬ (runFrom (capStep conservativeAccount) .fresh
        ([.start (ladderSignal .EURUSD), .start (ladderSignal .GBPUSD), .count 0, .count 1] ++
          executed 0 ++ executed 1)).openCount ≤ conservativeAccount.maxOpenPositions := by
  decide +kernel

end PositionCap
end Live
end Shamarx
