import Shamarx.Engine.Deadlines
import Shamarx.Engine.Pauses

/-!
# Pauses only lengthen

As long as the equity sets no new peak, tiers are reached in order, and a pause in force
is replaced only by one that was counted from the same day or a later one, over as many
trading days or more.
-/

namespace Shamarx
namespace Engine

open Foundation

namespace RiskManager

/-!
# Runs in order
-/

def InOrder (ops : List RiskOp) : Prop :=
  (ops.filterMap RiskOp.date).Pairwise fun earlier later => dayOf earlier ≤ dayOf later

instance (ops : List RiskOp) : Decidable (InOrder ops) :=
  inferInstanceAs (Decidable (List.Pairwise _ _))

def OnDay (day : Int) (op : RiskOp) : Prop :=
  forall date, op.date = some date -> dayOf date = day

instance (day : Int) (op : RiskOp) : Decidable (OnDay day op) :=
  inferInstanceAs (Decidable (forall date, op.date = some date -> dayOf date = day))

theorem InOrder.datedBy {front back : List RiskOp} {op : RiskOp}
    (h : InOrder (front ++ op :: back)) {date : Int} (hdate : op.date = some date) :
    forall other, other ∈ front -> DatedBy (dayOf date) other := by
  intro other hother otherDate hotherDate
  rw [InOrder, List.filterMap_append, List.pairwise_append] at h
  refine h.2.2 otherDate (List.mem_filterMap.mpr ⟨other, hother, hotherDate⟩) date ?_
  rw [List.filterMap_cons_some hdate]
  exact List.mem_cons_self

theorem InOrder.datedBy_last {front : List RiskOp} {op : RiskOp} (h : InOrder (front ++ [op]))
    {date : Int} (hdate : op.date = some date) :
    forall other, other ∈ front ++ [op] -> DatedBy (dayOf date) other := by
  intro other hother
  rcases List.mem_append.mp hother with hold | hlast
  · exact h.datedBy hdate other hold
  · rw [List.mem_singleton.mp hlast]
    intro otherDate hotherDate
    rw [Option.some.inj (hotherDate.symm.trans hdate)]

def NotBefore (day : Int) (op : RiskOp) : Prop :=
  forall date, op.date = some date -> day ≤ dayOf date

theorem InOrder.notBefore {front back : List RiskOp} {op : RiskOp}
    (h : InOrder (front ++ op :: back)) {date : Int} (hdate : op.date = some date) :
    forall other, other ∈ back -> NotBefore (dayOf date) other := by
  intro other hother otherDate hotherDate
  rw [InOrder, List.filterMap_append, List.filterMap_cons_some hdate,
    List.pairwise_append] at h
  exact (List.pairwise_cons.mp h.2.1).1 otherDate
    (List.mem_filterMap.mpr ⟨other, hother, hotherDate⟩)

theorem InOrder.front {front back : List RiskOp} (h : InOrder (front ++ back)) :
    InOrder front := by
  rw [InOrder, List.filterMap_append, List.pairwise_append] at h
  exact h.1

theorem riskRun_snoc (config : EngineConfig) (ops : List RiskOp) (op : RiskOp) :
    riskRun config (ops ++ [op]) = riskStep (riskRun config ops) op := by
  rw [riskRun, runFrom_append]
  rfl

def KeepsPeak (rm : RiskManager) (op : RiskOp) : Prop :=
  (riskStep rm op).overallPeakEquity = rm.overallPeakEquity

instance (rm : RiskManager) (op : RiskOp) : Decidable (KeepsPeak rm op) :=
  inferInstanceAs (Decidable (_ = _))

theorem KeepsPeak.no_new_peak {rm : RiskManager} {pnl : ℚ} {date : Int} {reason : Option ExitReason}
    (h : KeepsPeak rm (.recordTrade pnl date reason)) :
    ¬ rm.overallPeakEquity < rm.balance + pnl := by
  have hpeak := recordTrade_peak rm pnl date reason
  rw [show (rm.recordTrade pnl date reason).overallPeakEquity = _ from h,
    recordTrade_balance] at hpeak
  rw [hpeak]
  exact not_lt.mpr (le_max_right _ _)

/-!
# One call
-/

/-- A pause that is in force on the day is there afterwards, and ends no earlier. -/
def Lengthens (day : Int) (old new : Option Int) : Prop :=
  forall pauseEnd, old = some pauseEnd -> day < pauseEnd ->
    exists newEnd, new = some newEnd ∧ pauseEnd ≤ newEnd

structure PausesLengthen (day : Int) (d d' : Deadlines) : Prop where
  weekly : Lengthens day d.weekly d'.weekly
  drawdown : Lengthens day d.drawdown d'.drawdown
  rolling : Lengthens day d.rolling d'.rolling
  streak : Lengthens day d.streak d'.streak
  tier : d.tier ≤ d'.tier

theorem Lengthens.refl (day : Int) (pause : Option Int) : Lengthens day pause pause :=
  fun pauseEnd hpause _ => ⟨pauseEnd, hpause, le_refl _⟩

theorem Lengthens.of_not_paused {day : Int} {pause : Option Int} (h : ¬ Paused day pause)
    (new : Option Int) : Lengthens day pause new := by
  rintro pauseEnd rfl hday
  exact absurd hday h

theorem Lengthens.of_endsBy {day bound : Int} {pause : Option Int} (h : EndsBy bound pause) :
    Lengthens day pause (some bound) := by
  rintro pauseEnd rfl _
  exact ⟨bound, rfl, h⟩

theorem PausesLengthen.refl (day : Int) (d : Deadlines) : PausesLengthen day d d where
  weekly := .refl day _
  drawdown := .refl day _
  rolling := .refl day _
  streak := .refl day _
  tier := le_refl _

theorem GateMove.pausesLengthen {day : Int} {d d' : Deadlines} (h : GateMove day d d') :
    PausesLengthen day d d' := by
  cases h with
  | stayed =>
      exact .refl day d
  | cleared hdrawdown =>
      exact { PausesLengthen.refl day d with drawdown := .of_not_paused hdrawdown _ }
  | rolling hdrawdown hrolling =>
      exact
        { PausesLengthen.refl day d with
          drawdown := .of_not_paused hdrawdown _
          rolling := .of_not_paused hrolling _ }
  | streak hdrawdown hstreak pause =>
      exact
        { PausesLengthen.refl day d with
          drawdown := .of_not_paused hdrawdown _
          streak := .of_not_paused hstreak _ }

/-- Bounds on the two pauses that a trade sets, given the last day of a call: the
drawdown pause is at most the one of the tier reached. -/
structure SetBy (lastDay : Int) (d : Deadlines) : Prop where
  weekly : EndsBy (nthWeekday lastDay weeklyDdPauseDays) d.weekly
  drawdown : EndsBy (nthWeekday lastDay (tierPause d.tier)) d.drawdown

section Step

variable {day lastDay : Int} {d d' : Deadlines}

theorem GateMove.setBy (h : GateMove day d d') (hset : SetBy lastDay d) : SetBy lastDay d' := by
  cases h with
  | stayed =>
      exact hset
  | cleared hdrawdown =>
      exact ⟨hset.weekly, trivial⟩
  | rolling hdrawdown hrolling =>
      exact ⟨hset.weekly, trivial⟩
  | streak hdrawdown hstreak pause =>
      exact ⟨hset.weekly, trivial⟩

theorem RecordMove.setBy (h : RecordMove day d.tier d d') (hset : SetBy lastDay d)
    (hday : day ≤ lastDay) : SetBy lastDay d' where
  weekly := by
    rcases h.weekly with hsame | hnew
    · rw [hsame]
      exact hset.weekly
    · rw [hnew, addTradingDays_eq]
      exact nthWeekday_mono hday (le_refl _)
  drawdown := by
    rcases h.drawdown with ⟨htier, hsame⟩ | ⟨-, hnew⟩
    · rw [hsame, htier]
      exact hset.drawdown
    · rw [hnew, addTradingDays_eq]
      exact nthWeekday_mono hday (le_refl _)

theorem RecordMove.pausesLengthen (h : RecordMove day d.tier d d') (hset : SetBy day d) :
    PausesLengthen day d d' where
  weekly := by
    rcases h.weekly with hsame | hnew
    · rw [hsame]
      exact .refl day _
    · rw [hnew, addTradingDays_eq]
      exact .of_endsBy hset.weekly
  drawdown := by
    rcases h.drawdown with ⟨-, hsame⟩ | ⟨hhigher, hnew⟩
    · rw [hsame]
      exact .refl day _
    · rw [hnew, addTradingDays_eq]
      apply Lengthens.of_endsBy
      exact hset.drawdown.mono (nthWeekday_mono (le_refl _) (tierPause_mono (le_of_lt hhigher)))
  rolling := by
    rw [h.rolling]
    exact .refl day _
  streak := by
    rw [h.streak]
    exact .refl day _
  tier := by
    rcases h.drawdown with ⟨htier, -⟩ | ⟨hhigher, -⟩
    · exact le_of_eq htier.symm
    · exact le_of_lt hhigher

end Step

theorem recordTrade_move_of_keepsPeak {rm : RiskManager} {pnl : ℚ} {date : Int}
    {reason : Option ExitReason} (h : KeepsPeak rm (.recordTrade pnl date reason)) :
    RecordMove (dayOf date) rm.deadlines.tier rm.deadlines
      (rm.recordTrade pnl date reason).deadlines := by
  have hmove := recordTrade_recordMove rm pnl date reason
  rw [if_neg h.no_new_peak] at hmove
  exact hmove

theorem setBy_riskStep {lastDay : Int} {rm : RiskManager} {op : RiskOp}
    (h : SetBy lastDay rm.deadlines) (hop : DatedBy lastDay op) (hpeak : KeepsPeak rm op) :
    SetBy lastDay (riskStep rm op).deadlines := by
  cases op with
  | canTrade date n =>
      exact (canTrade_gateMove rm date n).setBy h
  | recordTrade pnl date reason =>
      exact (recordTrade_move_of_keepsPeak hpeak).setBy h (hop date rfl)
  | calculateLotSize slPoints quality regime confidence price =>
      exact h
  | snapshotRestore =>
      exact h

theorem pausesLengthen_riskStep {day : Int} {rm : RiskManager} {op : RiskOp}
    (h : forall date, op.date = some date -> SetBy day rm.deadlines) (hop : OnDay day op)
    (hpeak : KeepsPeak rm op) :
    PausesLengthen day rm.deadlines (riskStep rm op).deadlines := by
  cases op with
  | canTrade date n =>
      rw [<- hop date rfl]
      exact (canTrade_gateMove rm date n).pausesLengthen
  | recordTrade pnl date reason =>
      have hset := h date rfl
      rw [<- hop date rfl] at hset ⊢
      exact (recordTrade_move_of_keepsPeak hpeak).pausesLengthen hset
  | calculateLotSize slPoints quality regime confidence price =>
      exact .refl day _
  | snapshotRestore =>
      exact .refl day _

/-!
# Whole runs
-/

theorem setBy_riskRun {config : EngineConfig} {lastDay : Int} {ops : List RiskOp}
    (hops : forall op, op ∈ ops -> DatedBy lastDay op)
    (hpeak : EveryStep riskStep KeepsPeak (create config) ops) :
    SetBy lastDay (riskRun config ops).deadlines := by
  apply EveryStep.run_inv (fun rm : RiskManager => SetBy lastDay rm.deadlines)
    (C := fun rm op => DatedBy lastDay op ∧ KeepsPeak rm op)
  · exact fun rm op h hC => setBy_riskStep h hC.1 hC.2
  · exact ⟨trivial, trivial⟩
  · exact (everyStep_of_mem _ hops).and hpeak

/-- In a run in order that sets no new peak, no call shortens or drops a pause in force,
and the tier never falls. -/
theorem pauses_lengthen_over_runs (config : EngineConfig) (ops : List RiskOp)
    (horder : InOrder ops) (hpeak : EveryStep riskStep KeepsPeak (create config) ops)
    (front back : List RiskOp) (op : RiskOp) (hops : ops = front ++ op :: back) (day : Int)
    (hday : OnDay day op) :
    PausesLengthen day (riskRun config front).deadlines
      (riskRun config (front ++ [op])).deadlines := by
  subst hops
  rw [riskRun_snoc]
  apply pausesLengthen_riskStep
  · intro date hdate
    rw [<- hday date hdate]
    exact setBy_riskRun (horder.datedBy hdate) (everyStep_append.mp hpeak).1
  · exact hday
  · exact hpeak.at_split

def threeFalls : List RiskOp :=
  [.recordTrade (-1600) (dayStart 20643) (some .sl),
    .canTrade (dayStart 20643) 0,
    .recordTrade (-1000) (dayStart 20644) (some .sl),
    .recordTrade (-1000) (dayStart 20645) (some .sl)]

theorem threeFalls_lengthen :
    PausesLengthen 20645 (riskRun ⟨.XAUUSD, 10000, 3 / 2, 4, 5, 4⟩ (threeFalls.take 3)).deadlines
      (riskRun ⟨.XAUUSD, 10000, 3 / 2, 4, 5, 4⟩
        (threeFalls.take 3 ++ [.recordTrade (-1000) (dayStart 20645) (some .sl)])).deadlines :=
  pauses_lengthen_over_runs ⟨.XAUUSD, 10000, 3 / 2, 4, 5, 4⟩ threeFalls (by decide +kernel)
    (by decide +kernel) (threeFalls.take 3) [] (.recordTrade (-1000) (dayStart 20645) (some .sl))
    rfl 20645 (fun _ hdate => by cases hdate; decide)

end RiskManager
end Engine
end Shamarx
