import Shamarx.Engine.RiskManagerLemmas
import Shamarx.Foundation.Runs

/-!
# The hard-kill latch over whole runs

A manager is driven by any sequence of trade-gate queries, recorded trades,
lot-size queries and persistence round trips.  The overall peak is then the
running maximum of the balances, the kill switch trips at sixty percent of it,
and a tripped switch never resets.
-/

namespace Shamarx
namespace Engine

open Foundation

namespace RiskManager

inductive RiskOp where
  | canTrade (date : Int) (openPositionCount : Nat)
  | recordTrade (pnl : ℚ) (date : Int) (reason : Option ExitReason)
  | calculateLotSize (slPoints : ℚ) (qualityScore : Option ℚ)
      (regime : Option DetailedRegime) (engineConfidence currentPrice : Option ℚ)
  | snapshotRestore

/-- One operation; lot sizing only reads, and a round trip restores into a
fresh manager with the same configuration. -/
def riskStep (rm : RiskManager) : RiskOp -> RiskManager
  | .canTrade date n => (rm.canTrade date n).1
  | .recordTrade pnl date reason => rm.recordTrade pnl date reason
  | .calculateLotSize .. => rm
  | .snapshotRestore => (create rm.config).restore rm.snapshot

def riskRun (config : EngineConfig) (ops : List RiskOp) : RiskManager :=
  runFrom riskStep (create config) ops

def reachedBalances : RiskManager -> List RiskOp -> List ℚ
  | _, [] => []
  | rm, .recordTrade pnl date reason :: rest =>
      (rm.recordTrade pnl date reason).balance ::
        reachedBalances (rm.recordTrade pnl date reason) rest
  | rm, op :: rest => reachedBalances (riskStep rm op) rest

def runningMax (config : EngineConfig) (ops : List RiskOp) : ℚ :=
  (reachedBalances (create config) ops).foldl max config.initialBalance

/-!
# One step on the ledger
-/

theorem snapshotRestore_ledger (rm : RiskManager) :
    (riskStep rm .snapshotRestore).ledger =
      { rm.ledger with tradeLog := lastN tradeLogKeep rm.tradeLog } := by
  simp only [riskStep, restore, snapshot, ledger, create, Option.getD_some]

theorem peak_lt_of_not_killed {peak balance : ℚ} (hpeak : 0 < peak)
    (hdd : ¬ hardKillDdPercent ≤ (peak - balance) / peak * 100) :
    60 / 100 * peak < balance := by
  have hlt : (peak - balance) / peak * 100 < 40 := not_le.mp hdd
  have hdiv : (peak - balance) / peak < 40 / 100 := by linarith
  have hmul : peak - balance < 40 / 100 * peak := (div_lt_iff₀ hpeak).mp hdiv
  linarith

/-- What every reachable ledger satisfies. -/
structure Ledger.Sound (l : Ledger) : Prop where
  peak_pos : 0 < l.overallPeakEquity
  equity_eq : l.equity = l.balance
  alive : l.hardKilled = false -> 60 / 100 * l.overallPeakEquity < l.balance

theorem ledger_sound_record {l : Ledger} (h : l.Sound) (entry : TradeLogEntry) :
    (l.record entry).Sound := by
  have hpeak : 0 < max l.overallPeakEquity (l.balance + entry.pnl) :=
    lt_max_of_lt_left h.peak_pos
  refine ⟨hpeak, rfl, ?_⟩
  intro halive
  have hdd : ¬ hardKillDdPercent ≤ (l.book entry).raise.ddPercent := by
    intro hkill
    simp [Ledger.record, Ledger.brake, hkill] at halive
  have hdd' : ¬ hardKillDdPercent ≤
      (max l.overallPeakEquity (l.balance + entry.pnl) - (l.balance + entry.pnl)) /
        max l.overallPeakEquity (l.balance + entry.pnl) * 100 := by
    simpa only [Ledger.ddPercent, Ledger.raise, Ledger.book, hpeak, if_true] using hdd
  exact peak_lt_of_not_killed hpeak hdd'

theorem ledger_sound_step {rm : RiskManager} (h : rm.ledger.Sound) (op : RiskOp) :
    (riskStep rm op).ledger.Sound := by
  cases op with
  | canTrade date n =>
      change (rm.canTrade date n).1.ledger.Sound
      rw [canTrade_ledger]
      exact h
  | recordTrade pnl date reason =>
      change (rm.recordTrade pnl date reason).ledger.Sound
      rw [recordTrade_ledger]
      exact ledger_sound_record h _
  | calculateLotSize slPoints quality regime confidence price =>
      exact h
  | snapshotRestore =>
      rw [snapshotRestore_ledger]
      exact ⟨h.peak_pos, h.equity_eq, h.alive⟩

theorem create_ledger_sound {config : EngineConfig}
    (hpos : 0 < config.initialBalance) : (create config).ledger.Sound := by
  refine ⟨hpos, rfl, ?_⟩
  intro _
  change 60 / 100 * config.initialBalance < config.initialBalance
  linarith

theorem riskRun_ledger_sound {config : EngineConfig}
    (hpos : 0 < config.initialBalance) (ops : List RiskOp) :
    (riskRun config ops).ledger.Sound :=
  runFrom_inv (fun rm : RiskManager => rm.ledger.Sound) (fun _ op h => ledger_sound_step h op)
    (create_ledger_sound hpos) ops

/-!
# The peak is the running maximum
-/

theorem recordTrade_balance (rm : RiskManager) (pnl : ℚ) (date : Int)
    (reason : Option ExitReason) :
    (rm.recordTrade pnl date reason).balance = rm.balance + pnl :=
  congrArg Ledger.balance (recordTrade_ledger rm pnl date reason)

theorem recordTrade_peak (rm : RiskManager) (pnl : ℚ) (date : Int)
    (reason : Option ExitReason) :
    (rm.recordTrade pnl date reason).overallPeakEquity =
      max rm.overallPeakEquity (rm.recordTrade pnl date reason).balance := by
  rw [recordTrade_balance]
  exact congrArg Ledger.overallPeakEquity (recordTrade_ledger rm pnl date reason)

theorem runFrom_peak (rm : RiskManager) (ops : List RiskOp) :
    (runFrom riskStep rm ops).overallPeakEquity =
      (reachedBalances rm ops).foldl max rm.overallPeakEquity := by
  induction ops generalizing rm with
  | nil => rfl
  | cons op rest ih =>
      rw [runFrom_cons, ih]
      cases op with
      | canTrade date n =>
          have hpeak : (riskStep rm (.canTrade date n)).overallPeakEquity =
              rm.overallPeakEquity :=
            congrArg Ledger.overallPeakEquity (canTrade_ledger rm date n)
          rw [hpeak]
          rfl
      | recordTrade pnl date reason =>
          change _ = (reachedBalances _ rest).foldl max
            (max rm.overallPeakEquity (rm.recordTrade pnl date reason).balance)
          rw [← recordTrade_peak]
          rfl
      | calculateLotSize slPoints quality regime confidence price => rfl
      | snapshotRestore => rfl

/-!
# The switch latches
-/

theorem hardKilled_step {rm : RiskManager} (h : rm.hardKilled = true) (op : RiskOp) :
    (riskStep rm op).hardKilled = true := by
  cases op with
  | canTrade date n =>
      have hkeep : (rm.canTrade date n).1.hardKilled = rm.hardKilled :=
        congrArg Ledger.hardKilled (canTrade_ledger rm date n)
      exact hkeep.trans h
  | recordTrade pnl date reason =>
      have hrec : (rm.recordTrade pnl date reason).hardKilled =
          (rm.ledger.record (logEntry pnl date reason)).hardKilled :=
        congrArg Ledger.hardKilled (recordTrade_ledger rm pnl date reason)
      change (rm.recordTrade pnl date reason).hardKilled = true
      rw [hrec]
      change (rm.hardKilled || _) = true
      rw [h, Bool.true_or]
  | calculateLotSize slPoints quality regime confidence price => exact h
  | snapshotRestore => exact h

theorem recordTrade_trips {rm : RiskManager} (h : rm.ledger.Sound) (pnl : ℚ)
    (date : Int) (reason : Option ExitReason)
    (hle : (rm.recordTrade pnl date reason).balance ≤
      60 / 100 * (rm.recordTrade pnl date reason).overallPeakEquity) :
    (rm.recordTrade pnl date reason).hardKilled = true := by
  cases hkilled : (rm.recordTrade pnl date reason).hardKilled with
  | true => rfl
  | false =>
      have hsound : (rm.recordTrade pnl date reason).ledger.Sound :=
        ledger_sound_step h (.recordTrade pnl date reason)
      exact absurd hle (not_le.mpr (hsound.alive hkilled))

theorem balance_pos_of_alive {rm : RiskManager} (h : rm.ledger.Sound)
    (halive : rm.hardKilled = false) : 0 < rm.balance := by
  have hpeak : 0 < rm.overallPeakEquity := h.peak_pos
  have habove : 60 / 100 * rm.overallPeakEquity < rm.balance := h.alive halive
  linarith

theorem canTrade_only_above_kill_level {rm : RiskManager} (h : rm.ledger.Sound)
    {date : Int} {n : Nat} (hok : (rm.canTrade date n).2 = true) :
    60 / 100 * rm.overallPeakEquity < rm.balance := by
  cases hkilled : rm.hardKilled with
  | true =>
      rw [canTrade_of_hardKilled hkilled] at hok
      cases hok
  | false => exact h.alive hkilled

theorem hardKill_latch_over_runs (config : EngineConfig)
    (hpos : 0 < config.initialBalance) (ops : List RiskOp) :
    (riskRun config ops).overallPeakEquity = runningMax config ops ∧
    (forall front pnl date reason back,
      ops = front ++ RiskOp.recordTrade pnl date reason :: back ->
      (riskRun config (front ++ [RiskOp.recordTrade pnl date reason])).balance ≤
        60 / 100 * runningMax config (front ++ [RiskOp.recordTrade pnl date reason]) ->
      forall day n, ((riskRun config ops).canTrade day n).2 = false) ∧
    (forall day n, ((riskRun config ops).canTrade day n).2 = true ->
      60 / 100 * runningMax config ops < (riskRun config ops).balance ∧
      0 < (riskRun config ops).balance) := by
  have hpeak : forall os, (riskRun config os).overallPeakEquity = runningMax config os :=
    fun os => runFrom_peak (create config) os
  refine ⟨hpeak ops, ?_, ?_⟩
  · intro front pnl date reason back hops hle day n
    rw [← hpeak] at hle
    have hsplit : riskRun config (front ++ [RiskOp.recordTrade pnl date reason]) =
        (riskRun config front).recordTrade pnl date reason := by
      rw [riskRun, runFrom_append]
      rfl
    rw [hsplit] at hle
    have htrip := recordTrade_trips (riskRun_ledger_sound hpos front) pnl date reason hle
    have hlater : (riskRun config ops).hardKilled = true := by
      rw [hops, riskRun, runFrom_append]
      exact runFrom_inv (fun rm : RiskManager => rm.hardKilled = true)
        (fun _ op h => hardKilled_step h op) htrip back
    exact canTrade_of_hardKilled hlater day n
  · intro day n hok
    have hsound := riskRun_ledger_sound hpos ops
    have habove := canTrade_only_above_kill_level hsound hok
    rw [← hpeak]
    refine ⟨habove, lt_trans ?_ habove⟩
    have hpeakPos : 0 < (riskRun config ops).overallPeakEquity := hsound.peak_pos
    linarith

/-- A run of one losing trade of half the balance, then a win. -/
theorem hardKill_latch_after_half_loss :
    ((riskRun ⟨.XAUUSD, 10000, 3 / 2, 4, 5, 4⟩
        [.recordTrade (-5000) 1783555200000 (some .sl),
         .recordTrade 9000 1783641600000 (some .tp)]).canTrade 1800000000000 0).2 = false :=
  (hardKill_latch_over_runs ⟨.XAUUSD, 10000, 3 / 2, 4, 5, 4⟩ (by decide)
    [.recordTrade (-5000) 1783555200000 (some .sl),
     .recordTrade 9000 1783641600000 (some .tp)]).2.1
    [] (-5000) 1783555200000 (some .sl)
    [.recordTrade 9000 1783641600000 (some .tp)] rfl (by decide +kernel) _ _

end RiskManager
end Engine
end Shamarx
