import Mathlib.Tactic.Linarith
import Shamarx.Engine.DailyLoss

/-!
# The weekly drawdown breaker

The breaker measures from the peak of a numbered week, and the numbers count from the
first of January.  A number that changes within a calendar week sets the peak down to the
balance of that day.  As long as no such change comes below the peak, the breaker covers
the calendar week.
-/

namespace Shamarx
namespace Engine

open Foundation

namespace RiskManager

/-- A balance that the account had at some time from the day on. -/
def HeldSince (config : EngineConfig) (day : Int) (ops : List RiskOp) (held : ℚ) : Prop :=
  exists front back, ops = front ++ back ∧ (forall op, op ∈ back -> NotBefore day op) ∧
    held = (riskRun config front).balance

/-- Where a call starts a new week number, the balance is as high as any since Monday. -/
def AnchorsAtPeak (config : EngineConfig) (ops : List RiskOp) : Prop :=
  forall front op back, ops = front ++ op :: back ->
    forall date, op.date = some date ->
      getISOWeek date ≠ (riskRun config front).currentWeekNumber ->
      forall held, HeldSince config (mondayOf (dayOf date)) front held ->
        held ≤ (riskRun config front).balance

theorem AnchorsAtPeak.front {config : EngineConfig} {front back : List RiskOp}
    (h : AnchorsAtPeak config (front ++ back)) : AnchorsAtPeak config front := by
  intro before op after hops
  apply h before op (after ++ back)
  rw [hops, List.append_assoc, List.cons_append]

theorem heldSince_snoc {config : EngineConfig} {day : Int} {ops : List RiskOp} {op : RiskOp}
    {held : ℚ} (h : HeldSince config day (ops ++ [op]) held) :
    held = (riskRun config (ops ++ [op])).balance ∨
      NotBefore day op ∧ HeldSince config day ops held := by
  rcases h with ⟨front, back, hops, hback, rfl⟩
  rcases back.eq_nil_or_concat with rfl | ⟨back, last, rfl⟩
  · rw [hops, List.append_nil]
    exact Or.inl rfl
  · rw [List.concat_eq_append, <- List.append_assoc] at hops
    rcases List.append_inj' hops rfl with ⟨rfl, hlast⟩
    cases hlast
    refine Or.inr ⟨hback op ?_, front, back, rfl, ?_, rfl⟩
    · rw [List.concat_eq_append]
      exact List.mem_append_right _ List.mem_cons_self
    · intro other hother
      apply hback
      rw [List.concat_eq_append]
      exact List.mem_append_left _ hother

/-!
# The peak of the week
-/

def PeakAbove (rm : RiskManager) : Prop :=
  rm.equity = rm.balance ∧ rm.balance ≤ rm.weeklyPeakEquity

theorem PeakAbove.le_countedPeak {rm : RiskManager} (h : PeakAbove rm) (date : Int) :
    rm.balance ≤ rm.countedPeak date := by
  unfold countedPeak
  split_ifs
  · exact le_of_eq h.1.symm
  · exact h.2

theorem peakAbove_riskStep {rm : RiskManager} (h : PeakAbove rm) (op : RiskOp) :
    PeakAbove (riskStep rm op) := by
  cases op with
  | canTrade date n =>
      cases hkilled : rm.hardKilled with
      | true =>
          rw [riskStep, canTrade_eq_of_hardKilled hkilled]
          exact h
      | false =>
          have hledger := canTrade_ledger rm date n
          have hbalance : (rm.canTrade date n).1.balance = rm.balance :=
            congrArg Ledger.balance hledger
          have hpeak : (rm.canTrade date n).1.weeklyPeakEquity = rm.countedPeak date :=
            congrArg Counters.weeklyPeakEquity (canTrade_counters hkilled date n)
          constructor
          · exact (congrArg Ledger.equity hledger).trans (h.1.trans hbalance.symm)
          · rw [riskStep, hbalance, hpeak]
            exact h.le_countedPeak date
  | recordTrade pnl date reason =>
      have hledger := recordTrade_ledger rm pnl date reason
      have hpeak : (rm.recordTrade pnl date reason).weeklyPeakEquity =
          max (rm.countedPeak date) (rm.balance + pnl) :=
        congrArg Counters.weeklyPeakEquity (recordTrade_counters rm pnl date reason)
      constructor
      · exact (congrArg Ledger.equity hledger).trans (congrArg Ledger.balance hledger).symm
      · rw [riskStep, recordTrade_balance, hpeak]
        exact le_max_right _ _
  | calculateLotSize slPoints quality regime confidence price =>
      exact h
  | snapshotRestore =>
      exact h

theorem peakAbove_riskRun (config : EngineConfig) (ops : List RiskOp) :
    PeakAbove (riskRun config ops) :=
  runFrom_inv PeakAbove (fun _ op h => peakAbove_riskStep h op) ⟨rfl, le_refl _⟩ ops

/-- A call leaves the peak at least where it finds it, which is the balance if the week
number is new. -/
theorem le_peak_riskStep {rm : RiskManager} (halive : rm.hardKilled = false) {op : RiskOp}
    {held : ℚ} (hheld : held ≤ rm.weeklyPeakEquity)
    (hanchor : forall date, op.date = some date -> getISOWeek date ≠ rm.currentWeekNumber ->
      held ≤ rm.equity) :
    held ≤ (riskStep rm op).weeklyPeakEquity := by
  have hcounted : forall date, op.date = some date -> held ≤ rm.countedPeak date := by
    intro date hdate
    unfold countedPeak
    split_ifs with hweek
    · exact hanchor date hdate hweek
    · exact hheld
  cases op with
  | canTrade date n =>
      rw [riskStep, show (rm.canTrade date n).1.weeklyPeakEquity = rm.countedPeak date from
        congrArg Counters.weeklyPeakEquity (canTrade_counters halive date n)]
      exact hcounted date rfl
  | recordTrade pnl date reason =>
      rw [riskStep, show (rm.recordTrade pnl date reason).weeklyPeakEquity = _ from
        congrArg Counters.weeklyPeakEquity (recordTrade_counters rm pnl date reason)]
      exact le_max_of_le_left (hcounted date rfl)
  | calculateLotSize slPoints quality regime confidence price =>
      exact hheld
  | snapshotRestore =>
      exact hheld

/-- The peak covers what was held in the calendar week of the last call, or of a later day. -/
theorem le_peak_of_heldSince {config : EngineConfig} {ops : List RiskOp}
    (halive : (riskRun config ops).hardKilled = false) (hanchors : AnchorsAtPeak config ops)
    {day : Int} (hops : forall op, op ∈ ops -> DatedBy day op) {held : ℚ}
    (hheld : HeldSince config (mondayOf day) ops held) :
    held ≤ (riskRun config ops).weeklyPeakEquity := by
  induction ops using List.reverseRecOn with
  | nil =>
      rcases hheld with ⟨front, back, hnil, -, rfl⟩
      rw [(List.append_eq_nil_iff.mp hnil.symm).1]
      exact le_refl _
  | append_singleton ops op ih =>
      have hbefore := alive_of_riskRun_append halive
      have hold := peakAbove_riskRun config ops
      rcases heldSince_snoc hheld with rfl | ⟨hop, hheld⟩
      · exact (peakAbove_riskRun config _).2
      · have hpeak := ih hbefore hanchors.front
          (fun other hother => hops other (List.mem_append_left _ hother)) hheld
        rw [riskRun_snoc]
        apply le_peak_riskStep hbefore hpeak
        intro date hdate hweek
        have hlast := hops op (List.mem_append_right _ List.mem_cons_self) date hdate
        rw [<- mondayOf_eq (hop date hdate) hlast] at hheld
        rw [hold.1]
        exact hanchors ops op [] rfl date hdate hweek held hheld

/-!
# The breaker
-/

theorem recordTrade_pauses_week {rm : RiskManager} {pnl : ℚ} {date : Int}
    {reason : Option ExitReason}
    (h : PercentAtLeast
      ((rm.recordTrade pnl date reason).weeklyPeakEquity -
        (rm.recordTrade pnl date reason).equity)
      (rm.recordTrade pnl date reason).weeklyPeakEquity weeklyDdThreshold) :
    (rm.recordTrade pnl date reason).pauseUntilDate = some (nthWeekday (dayOf date) 5) := by
  generalize hbraked : (rm.raiseTrade pnl date reason).drawdownBrakes (dayOf date) = braked
  have hrecord : rm.recordTrade pnl date reason =
      { braked.weeklyBrake (dayOf date) with lastTradeDate := some date } := by
    rw [<- hbraked]
    rfl
  have hpeak : (braked.weeklyBrake (dayOf date)).weeklyPeakEquity = braked.weeklyPeakEquity :=
    congrArg Counters.weeklyPeakEquity (weeklyBrake_counters braked _)
  have hequity : (braked.weeklyBrake (dayOf date)).equity = braked.equity :=
    congrArg Ledger.equity (weeklyBrake_ledger braked _)
  have hweekly : (braked.weeklyBrake (dayOf date)).pauseUntilDate = _ :=
    congrArg Deadlines.weekly (weeklyBrake_deadlines braked (dayOf date))
  rw [hrecord] at h ⊢
  dsimp only at h ⊢
  rw [hpeak, hequity] at h
  rw [hweekly]
  dsimp only
  rw [if_pos h, addTradingDays_eq]
  rfl

theorem percentAtLeast_of_drawdown {peak balance held : ℚ} (hpos : 0 < peak)
    (hheld : held ≤ peak) (hdrawdown : balance ≤ 92 / 100 * held) :
    PercentAtLeast (peak - balance) peak weeklyDdThreshold := by
  rw [PercentAtLeast, if_neg (ne_of_gt hpos), weeklyDdThreshold]
  have hdiv : 8 / 100 ≤ (peak - balance) / peak := by
    rw [le_div_iff₀ hpos]
    linarith
  linarith

def ShutUntil (pauseEnd : Int) (rm : RiskManager) : Prop :=
  rm.hardKilled = true ∨ exists weekEnd, rm.pauseUntilDate = some weekEnd ∧ pauseEnd ≤ weekEnd

theorem shutUntil_riskStep {pauseEnd : Int} {rm : RiskManager} (h : ShutUntil pauseEnd rm)
    {op : RiskOp}
    (hop : forall date, op.date = some date -> pauseEnd ≤ nthWeekday (dayOf date) 5) :
    ShutUntil pauseEnd (riskStep rm op) := by
  rcases h with hkilled | ⟨weekEnd, hpause, hle⟩
  · exact Or.inl (hardKilled_step hkilled op)
  · apply Or.inr
    cases op with
    | canTrade date n =>
        exact ⟨weekEnd, (canTrade_gateMove rm date n).weekly.trans hpause, hle⟩
    | recordTrade pnl date reason =>
        rcases (recordTrade_recordMove rm pnl date reason).weekly with hsame | hnew
        · exact ⟨weekEnd, hsame.trans hpause, hle⟩
        · refine ⟨_, hnew, ?_⟩
          rw [addTradingDays_eq]
          exact hop date rfl
    | calculateLotSize slPoints quality regime confidence price =>
        exact ⟨weekEnd, hpause, hle⟩
    | snapshotRestore =>
        exact ⟨weekEnd, hpause, hle⟩

theorem ShutUntil.canTrade_false {pauseEnd : Int} {rm : RiskManager} (h : ShutUntil pauseEnd rm)
    {date : Int} (hdate : dayOf date < pauseEnd) (n : Nat) : (rm.canTrade date n).2 = false := by
  rcases h with hkilled | ⟨weekEnd, hpause, hle⟩
  · exact canTrade_of_hardKilled hkilled date n
  · have hreset : ((rm.maybeResetDaily date).maybeResetWeekly date).pauseUntilDate =
        some weekEnd := (congrArg Deadlines.weekly (resets_deadlines rm date)).trans hpause
    have hpaused : Paused (dayOf date)
        ((rm.maybeResetDaily date).maybeResetWeekly date).pauseUntilDate := by
      rw [hreset]
      exact lt_of_lt_of_le hdate hle
    rw [canTrade, canTradePauses]
    split_ifs
    · rfl
    · rfl

/-- A trade that leaves the balance at 92 percent of a balance held since Monday shuts the
gate until the fifth weekday. -/
theorem shutUntil_after_drawdown {config : EngineConfig} (hpos : 0 < config.initialBalance)
    {front : List RiskOp} {pnl : ℚ} {date : Int} {reason : Option ExitReason}
    (horder : InOrder (front ++ [.recordTrade pnl date reason]))
    (hanchors : AnchorsAtPeak config (front ++ [.recordTrade pnl date reason])) {held : ℚ}
    (hheld : HeldSince config (mondayOf (dayOf date)) (front ++ [.recordTrade pnl date reason])
      held)
    (hdrawdown : (riskRun config (front ++ [.recordTrade pnl date reason])).balance ≤
      92 / 100 * held) :
    ShutUntil (nthWeekday (dayOf date) 5)
      (riskRun config (front ++ [.recordTrade pnl date reason])) := by
  have hsound := riskRun_ledger_sound hpos (front ++ [.recordTrade pnl date reason])
  cases hkilled : (riskRun config (front ++ [.recordTrade pnl date reason])).hardKilled with
  | true =>
      exact Or.inl hkilled
  | false =>
      have hpeak := le_peak_of_heldSince hkilled hanchors (horder.datedBy_last rfl) hheld
      have habove := peakAbove_riskRun config (front ++ [.recordTrade pnl date reason])
      have hbalance := balance_pos_of_alive hsound hkilled
      have hfires := percentAtLeast_of_drawdown (lt_of_lt_of_le hbalance habove.2) hpeak hdrawdown
      rw [<- habove.1, riskRun_snoc] at hfires
      apply Or.inr
      refine ⟨_, ?_, le_refl _⟩
      rw [riskRun_snoc]
      exact recordTrade_pauses_week hfires

/-- Where each new week number starts at the peak of the calendar week, a drawdown of eight
percent in that week shuts the gate until the fifth weekday, whatever is called until then. -/
theorem weekly_breaker_covers_week (config : EngineConfig) (hpos : 0 < config.initialBalance)
    (front middle : List RiskOp) (pnl : ℚ) (date : Int) (reason : Option ExitReason)
    (date' : Int) (n : Nat)
    (horder : InOrder (front ++ .recordTrade pnl date reason :: (middle ++ [.canTrade date' n])))
    (hanchors : AnchorsAtPeak config (front ++ [.recordTrade pnl date reason])) (held : ℚ)
    (hheld : HeldSince config (mondayOf (dayOf date)) (front ++ [.recordTrade pnl date reason])
      held)
    (hdrawdown : (riskRun config (front ++ [.recordTrade pnl date reason])).balance ≤
      92 / 100 * held)
    (hdate : dayOf date' < nthWeekday (dayOf date) 5) :
    ((riskRun config (front ++ .recordTrade pnl date reason :: middle)).canTrade date' n).2 =
      false := by
  have hfront : InOrder (front ++ [.recordTrade pnl date reason]) := by
    rw [<- List.singleton_append, <- List.append_assoc] at horder
    exact horder.front
  have hlater : forall op, op ∈ middle -> NotBefore (dayOf date) op :=
    fun op hop => horder.notBefore rfl op (List.mem_append_left _ hop)
  have hshut := shutUntil_after_drawdown hpos hfront hanchors hheld hdrawdown
  have hrun : riskRun config (front ++ .recordTrade pnl date reason :: middle) =
      runFrom riskStep (riskRun config (front ++ [.recordTrade pnl date reason])) middle := by
    rw [riskRun, riskRun, <- runFrom_append, List.append_assoc, List.singleton_append]
  rw [hrun]
  apply ShutUntil.canTrade_false ?_ hdate
  apply runFrom_inv_of_mem (ShutUntil (nthWeekday (dayOf date) 5)) ?_ hshut
  intro rm op hop h
  apply shutUntil_riskStep h
  intro opDate hopDate
  exact nthWeekday_mono (hlater op hop opDate hopDate) (le_refl _)

theorem heldSince_nil {config : EngineConfig} {day : Int} {held : ℚ}
    (h : HeldSince config day [] held) : held = config.initialBalance := by
  rcases h with ⟨front, back, hnil, -, rfl⟩
  rw [(List.append_eq_nil_iff.mp hnil.symm).1]
  rfl

theorem anchorsAtPeak_singleton (config : EngineConfig) (op : RiskOp) :
    AnchorsAtPeak config [op] := by
  intro front op' back hops date hdate hweek held hheld
  cases front with
  | nil =>
      exact le_of_eq (heldSince_nil hheld)
  | cons first rest =>
      simp at hops

/-- Nine percent lost on a Tuesday shut the gate on the Monday after, too. -/
theorem tuesday_loss_shuts_monday :
    ((riskRun ⟨.XAUUSD, 10000, 3 / 2, 4, 5, 4⟩
      [.recordTrade (-900) (dayStart 20641) (some .sl), .canTrade (dayStart 20643) 0]).canTrade
        (dayStart 20647) 0).2 = false :=
  weekly_breaker_covers_week ⟨.XAUUSD, 10000, 3 / 2, 4, 5, 4⟩ (by decide +kernel) []
    [.canTrade (dayStart 20643) 0] (-900) (dayStart 20641) (some .sl) (dayStart 20647) 0
    (by decide +kernel) (anchorsAtPeak_singleton _ _) 10000
    ⟨[], [.recordTrade (-900) (dayStart 20641) (some .sl)], rfl, by
      intro op hop date hdate
      rw [List.mem_singleton.mp hop] at hdate
      cases hdate
      decide, rfl⟩
    (by decide +kernel) (by decide +kernel)

/-- The gate is asked on a Monday, seven percent are lost on the Tuesday, and two more on
the Thursday, when a new week number starts. -/
def lossesAcrossNumbers : List RiskOp :=
  [.canTrade (dayStart 20640) 0, .recordTrade (-700) (dayStart 20641) (some .sl),
    .recordTrade (-200) (dayStart 20643) (some .sl)]

/-- Nine percent below the balance of the Monday, the gate is open. -/
theorem lossesAcrossNumbers_open :
    InOrder (lossesAcrossNumbers ++ [.canTrade (dayStart 20643) 0]) ∧
      HeldSince ⟨.XAUUSD, 10000, 3 / 2, 4, 5, 4⟩ (mondayOf 20643) lossesAcrossNumbers 10000 ∧
      (riskRun ⟨.XAUUSD, 10000, 3 / 2, 4, 5, 4⟩ lossesAcrossNumbers).balance ≤
        92 / 100 * 10000 ∧
      ((riskRun ⟨.XAUUSD, 10000, 3 / 2, 4, 5, 4⟩ lossesAcrossNumbers).canTrade
        (dayStart 20643) 0).2 = true := by
  refine ⟨by decide +kernel, ⟨lossesAcrossNumbers.take 1, lossesAcrossNumbers.drop 1, rfl, ?_,
    by decide +kernel⟩, by decide +kernel, by decide +kernel⟩
  intro op hop date hdate
  simp only [lossesAcrossNumbers, List.drop_succ_cons, List.drop_zero, List.mem_cons,
    List.not_mem_nil, or_false] at hop
  rcases hop with rfl | rfl
  · cases hdate
    decide
  · cases hdate
    decide

end RiskManager
end Engine
end Shamarx
