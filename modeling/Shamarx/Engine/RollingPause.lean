import Shamarx.Engine.KeptLog
import Shamarx.Engine.PausesLengthen

/-!
# Renewed rolling pauses

The losses of the last seven days are those of eight dates, and a pause of five trading
days may be over on the eighth.  The losses that started a pause then start another one.
-/

namespace Shamarx
namespace Engine

open Foundation

namespace RiskManager

/-!
# What starts a rolling pause
-/

/-- The pauses asked before are over, and so is the last rolling pause. -/
structure StartsRolling (day : Int) (d : Deadlines) (l : Ledger) : Prop where
  not_killed : l.hardKilled = false
  weekly_over : ¬ Paused day d.weekly
  drawdown_over : ¬ Paused day d.drawdown
  rolling_over : ¬ Paused day d.rolling
  four_losses : 4 ≤ lossesSince l.tradeLog (day - 7)

/-- The gate as it starts a rolling pause, or leaves the last one as it is. -/
inductive RollingMove (day : Int) (d : Deadlines) (l : Ledger) : Deadlines -> Prop where
  | started (hstarts : StartsRolling day d l) :
      RollingMove day d l { d with drawdown := none, rolling := some (nthWeekday day 5) }
  | kept (hstarts : ¬ StartsRolling day d l) (d' : Deadlines) (hrolling : d'.rolling = d.rolling) :
      RollingMove day d l d'

theorem canTradeStreak_rolling (rm : RiskManager) (day : Int) (n : Nat) :
    (rm.canTradeStreak day n).1.deadlines.rolling = rm.deadlines.rolling := by
  rcases canTradeStreak_deadlines rm day n with hsame | ⟨-, pause, hpause⟩
  · rw [hsame]
  · rw [hpause]

theorem canTradePauses_rollingMove {rm : RiskManager} (hkilled : rm.hardKilled = false)
    (day : Int) (n : Nat) :
    RollingMove day rm.deadlines rm.ledger (rm.canTradePauses day n).1.deadlines := by
  unfold canTradePauses canTradeRolling
  split_ifs with hweekly hdrawdown hrolling hlosses
  · exact .kept (fun hstarts => hstarts.weekly_over hweekly) _ rfl
  · exact .kept (fun hstarts => hstarts.drawdown_over hdrawdown) _ rfl
  · exact .kept (fun hstarts => hstarts.rolling_over hrolling) _ rfl
  · rw [getRolling7DayLosses_eq] at hlosses
    rw [addTradingDays_eq]
    exact .started ⟨hkilled, hweekly, hdrawdown, hrolling, hlosses⟩
  · rw [getRolling7DayLosses_eq] at hlosses
    exact .kept (fun hstarts => hlosses hstarts.four_losses) _
      (canTradeStreak_rolling { rm with equityDdPauseUntil := none } day n)

theorem canTrade_rollingMove (rm : RiskManager) (date : Int) (n : Nat) :
    RollingMove (dayOf date) rm.deadlines rm.ledger (rm.canTrade date n).1.deadlines := by
  unfold canTrade
  split_ifs with hkilled
  · refine .kept (fun hstarts => ?_) _ rfl
    exact Bool.false_ne_true (hstarts.not_killed.symm.trans hkilled)
  · have hledger := resets_ledger rm date
    have halive : ((rm.maybeResetDaily date).maybeResetWeekly date).hardKilled = false := by
      rw [show ((rm.maybeResetDaily date).maybeResetWeekly date).hardKilled = _ from
        congrArg Ledger.hardKilled hledger]
      exact Bool.not_eq_true _ ▸ hkilled
    have hmove := canTradePauses_rollingMove halive (dayOf date) n
    rw [hledger, resets_deadlines] at hmove
    exact hmove

def SetsRolling (rm : RiskManager) (op : RiskOp) : Prop :=
  (riskStep rm op).rolling7DayPauseUntil ≠ rm.rolling7DayPauseUntil

instance (rm : RiskManager) (op : RiskOp) : Decidable (SetsRolling rm op) :=
  inferInstanceAs (Decidable (_ ≠ _))

theorem setsRolling_canTrade_iff {rm : RiskManager} {date : Int} {n : Nat} :
    SetsRolling rm (.canTrade date n) ↔ StartsRolling (dayOf date) rm.deadlines rm.ledger := by
  have hmove := canTrade_rollingMove rm date n
  generalize hafter : (rm.canTrade date n).1.deadlines = after at hmove
  have hrolling : (riskStep rm (.canTrade date n)).rolling7DayPauseUntil = after.rolling :=
    congrArg Deadlines.rolling hafter
  rw [SetsRolling, hrolling]
  cases hmove with
  | started hstarts =>
      refine iff_of_true ?_ hstarts
      intro hsame
      -- A pause in force is not the one that was over.
      apply hstarts.rolling_over
      rw [show rm.deadlines.rolling = _ from hsame.symm]
      exact lt_nthWeekday (dayOf date) (by decide)
  | kept hstarts d' hkept =>
      exact iff_of_false (fun hsets => hsets hkept) hstarts

/-!
# After the pause was started
-/

/-- A rolling pause that the losses of the log cannot renew: fewer than four are at most
seven days old when it ends. -/
structure RunsOut (pauseEnd : Int) (rm : RiskManager) : Prop where
  rolling : rm.rolling7DayPauseUntil = some pauseEnd
  few : lossesSince rm.tradeLog (pauseEnd - 7) < 4

theorem lossesSince_lastN_le (n : Nat) (log : List TradeLogEntry) (day : Int) :
    lossesSince (lastN n log) day ≤ lossesSince log day :=
  ((List.drop_sublist _ _).filter _).length_le

def IsTrade : RiskOp -> Prop
  | .recordTrade .. => True
  | _ => False

theorem RunsOut.not_setsRolling {pauseEnd : Int} {rm : RiskManager} (h : RunsOut pauseEnd rm)
    {op : RiskOp} (hop : ¬ IsTrade op) : ¬ SetsRolling rm op := by
  cases op with
  | canTrade date n =>
      rw [setsRolling_canTrade_iff]
      intro hstarts
      have hover := hstarts.rolling_over
      rw [show rm.deadlines.rolling = some pauseEnd from h.rolling] at hover
      have hanti := lossesSince_anti rm.tradeLog (sub_le_sub_right (not_lt.mp hover) 7)
      have hfour : 4 ≤ lossesSince rm.tradeLog (dayOf date - 7) := hstarts.four_losses
      have hfew := h.few
      omega
  | recordTrade pnl date reason =>
      exact absurd trivial hop
  | calculateLotSize slPoints quality regime confidence price =>
      exact fun hsets => hsets rfl
  | snapshotRestore =>
      exact fun hsets => hsets rfl

theorem RunsOut.riskStep {pauseEnd : Int} {rm : RiskManager} (h : RunsOut pauseEnd rm)
    {op : RiskOp} (hop : ¬ IsTrade op) : RunsOut pauseEnd (riskStep rm op) where
  rolling := by
    rw [not_not.mp (h.not_setsRolling hop)]
    exact h.rolling
  few := by
    cases op with
    | canTrade date n =>
        rw [show (RiskManager.riskStep rm (.canTrade date n)).tradeLog = rm.tradeLog from
          congrArg Ledger.tradeLog (canTrade_ledger rm date n)]
        exact h.few
    | recordTrade pnl date reason =>
        exact absurd trivial hop
    | calculateLotSize slPoints quality regime confidence price =>
        exact h.few
    | snapshotRestore =>
        exact lt_of_le_of_lt (lossesSince_lastN_le _ rm.tradeLog _) h.few

/-- No later call of the run sets the rolling pause again. -/
def NotRenewed (rm : RiskManager) (ops : List RiskOp) : Prop :=
  EveryStep riskStep (fun rm op => ¬ SetsRolling rm op) rm ops

instance (rm : RiskManager) (ops : List RiskOp) : Decidable (NotRenewed rm ops) :=
  inferInstanceAs (Decidable (EveryStep _ _ _ _))

theorem RunsOut.notRenewed {pauseEnd : Int} {rm : RiskManager} (h : RunsOut pauseEnd rm)
    {ops : List RiskOp} (hops : forall op, op ∈ ops -> ¬ IsTrade op) : NotRenewed rm ops :=
  everyStep_of_inv (RunsOut pauseEnd) (fun _ _ h hop => h.riskStep hop)
    (fun _ _ h hop => h.not_setsRolling hop) h (everyStep_of_mem rm hops)

/-- With four such losses, the call on the day the pause ends starts another one. -/
theorem startsRolling_again {day : Int} {d : Deadlines} {l : Ledger}
    (h : StartsRolling day d l) (hfour : 4 ≤ lossesSince l.tradeLog (nthWeekday day 5 - 7)) :
    StartsRolling (nthWeekday day 5)
      { d with drawdown := none, rolling := some (nthWeekday day 5) } l where
  not_killed := h.not_killed
  weekly_over := fun hpaused => h.weekly_over (hpaused.mono (le_nthWeekday day 5))
  drawdown_over := id
  rolling_over := lt_irrefl _
  four_losses := hfour

theorem dayOf_dayStart (day : Int) : dayOf (dayStart day) = day :=
  Int.mul_ediv_cancel day (by decide)

theorem InOrder.snoc {ops : List RiskOp} {op next : RiskOp} (h : InOrder (ops ++ [op]))
    {date date' : Int} (hop : op.date = some date) (hnext : next.date = some date')
    (hle : dayOf date ≤ dayOf date') : InOrder (ops ++ [op, next]) := by
  have hdates : (ops ++ [op, next]).filterMap RiskOp.date =
      (ops ++ [op]).filterMap RiskOp.date ++ [date'] := by
    rw [show ops ++ [op, next] = (ops ++ [op]) ++ [next] by simp, List.filterMap_append,
      List.filterMap_cons_some hnext, List.filterMap_nil]
  rw [InOrder, hdates, List.pairwise_append]
  refine ⟨h, List.pairwise_singleton _ _, ?_⟩
  intro earlier hearlier later hlater
  rw [List.mem_singleton.mp hlater]
  refine le_trans ?_ hle
  rcases List.mem_filterMap.mp hearlier with ⟨other, hother, hdate⟩
  exact h.datedBy_last hop other hother earlier hdate

/-!
# The pause is renewed, or runs out
-/

theorem riskRun_canTrade_ledger (config : EngineConfig) (front : List RiskOp) (date : Int)
    (n : Nat) :
    (riskRun config (front ++ [.canTrade date n])).ledger = (riskRun config front).ledger := by
  rw [riskRun_snoc]
  exact canTrade_ledger (riskRun config front) date n

theorem riskRun_started {config : EngineConfig} {front : List RiskOp} {date : Int} {n : Nat}
    (h : SetsRolling (riskRun config front) (.canTrade date n)) :
    (riskRun config (front ++ [.canTrade date n])).deadlines =
      { (riskRun config front).deadlines with
        drawdown := none, rolling := some (nthWeekday (dayOf date) 5) } := by
  have hmove := canTrade_rollingMove (riskRun config front) date n
  generalize hafter : ((riskRun config front).canTrade date n).1.deadlines = after at hmove
  rw [riskRun_snoc]
  refine Eq.trans hafter ?_
  cases hmove with
  | started hstarts =>
      rfl
  | kept hstarts d' hrolling =>
      exact absurd (setsRolling_canTrade_iff.mp h) hstarts

/-- The losses that started a pause do not renew it exactly if fewer than four of them are
dated on the latest weekday or later. -/
theorem rolling_pause_not_renewed_iff (config : EngineConfig) (front : List RiskOp) (date : Int)
    (n : Nat) (horder : InOrder (front ++ [.canTrade date n]))
    (hstart : SetsRolling (riskRun config front) (.canTrade date n)) :
    (forall back, InOrder (front ++ .canTrade date n :: back) ->
      (forall op, op ∈ back -> ¬ IsTrade op) ->
      NotRenewed (riskRun config (front ++ [.canTrade date n])) back) ↔
    lossesSince (riskRun config front).tradeLog (latestWeekday (dayOf date)) < 4 := by
  have hend : nthWeekday (dayOf date) 5 - 7 = latestWeekday (dayOf date) := by
    rw [nthWeekday_five]
    omega
  have hpaused := riskRun_started hstart
  have hledger := riskRun_canTrade_ledger config front date n
  constructor
  · intro hnever
    by_contra hfour
    -- The gate is asked again on the day the pause ends.
    let next := RiskOp.canTrade (dayStart (nthWeekday (dayOf date) 5)) 0
    have hnext : InOrder (front ++ [.canTrade date n, next]) := by
      apply horder.snoc rfl rfl
      rw [dayOf_dayStart]
      exact le_nthWeekday _ 5
    have hnot := (hnever [next] hnext fun op hop => by
      rw [List.mem_singleton.mp hop]
      exact id).1
    apply hnot
    rw [setsRolling_canTrade_iff, dayOf_dayStart, hpaused, hledger]
    apply startsRolling_again (setsRolling_canTrade_iff.mp hstart)
    rw [hend]
    exact not_lt.mp hfour
  · intro hfew back _ hback
    have hrunsOut : RunsOut (nthWeekday (dayOf date) 5)
        (riskRun config (front ++ [.canTrade date n])) := by
      constructor
      · exact congrArg Deadlines.rolling hpaused
      · rw [hend, show (riskRun config (front ++ [.canTrade date n])).tradeLog = _ from
          congrArg Ledger.tradeLog hledger]
        exact hfew
    exact hrunsOut.notRenewed hback

def lossesOfFourDays : List RiskOp :=
  [.recordTrade (-10) (dayStart 20640) (some .sl), .recordTrade (-10) (dayStart 20641) (some .sl),
    .recordTrade (-10) (dayStart 20642) (some .sl), .recordTrade (-10) (dayStart 20643) (some .sl)]

/-- The fourth loss starts a pause that they do not renew. -/
theorem lossesOfFourDays_not_renewed :
    SetsRolling (riskRun ⟨.XAUUSD, 10000, 3 / 2, 4, 5, 4⟩ lossesOfFourDays)
        (.canTrade (dayStart 20643) 0) ∧
      forall back, InOrder (lossesOfFourDays ++ .canTrade (dayStart 20643) 0 :: back) ->
        (forall op, op ∈ back -> ¬ IsTrade op) ->
        NotRenewed (riskRun ⟨.XAUUSD, 10000, 3 / 2, 4, 5, 4⟩
          (lossesOfFourDays ++ [.canTrade (dayStart 20643) 0])) back := by
  have hstart : SetsRolling (riskRun ⟨.XAUUSD, 10000, 3 / 2, 4, 5, 4⟩ lossesOfFourDays)
      (.canTrade (dayStart 20643) 0) := by
    decide +kernel
  exact ⟨hstart, (rolling_pause_not_renewed_iff ⟨.XAUUSD, 10000, 3 / 2, 4, 5, 4⟩
    lossesOfFourDays (dayStart 20643) 0 (by decide +kernel) hstart).mpr (by decide +kernel)⟩

def lossesOfOneDay : List RiskOp :=
  [.recordTrade (-10) (dayStart 20643) (some .sl), .recordTrade (-10) (dayStart 20643) (some .sl),
    .recordTrade (-10) (dayStart 20643) (some .sl), .recordTrade (-10) (dayStart 20643) (some .sl)]

/-- The pause of that Thursday is over on the next one, and is started again. -/
theorem oneDay_losses_renew :
    InOrder (lossesOfOneDay ++ [.canTrade (dayStart 20643) 0, .canTrade (dayStart 20650) 0]) ∧
      SetsRolling (riskRun ⟨.XAUUSD, 10000, 3 / 2, 4, 5, 4⟩ lossesOfOneDay)
        (.canTrade (dayStart 20643) 0) ∧
      ¬ NotRenewed
        (riskRun ⟨.XAUUSD, 10000, 3 / 2, 4, 5, 4⟩
          (lossesOfOneDay ++ [.canTrade (dayStart 20643) 0]))
        [.canTrade (dayStart 20650) 0] := by
  decide +kernel

end RiskManager
end Engine
end Shamarx
