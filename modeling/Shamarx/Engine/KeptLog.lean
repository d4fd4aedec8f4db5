import Shamarx.Engine.HardKill

/-!
# The log a snapshot keeps

A snapshot keeps the last 30 trades.  The gate reads the log only through the
losses of the last seven days, so the trades before the kept ones matter exactly
where one of them is such a loss.
-/

namespace Shamarx
namespace Engine
namespace RiskManager

open Foundation

def withLog (rm : RiskManager) (log : List TradeLogEntry) : RiskManager :=
  { rm with tradeLog := log }

def forgottenLog (rm : RiskManager) : List TradeLogEntry :=
  rm.tradeLog.take (rm.tradeLog.length - tradeLogKeep)

def keptLog (rm : RiskManager) : List TradeLogEntry :=
  lastN tradeLogKeep rm.tradeLog

theorem forgottenLog_append_keptLog (rm : RiskManager) :
    rm.forgottenLog ++ rm.keptLog = rm.tradeLog :=
  List.take_append_drop _ _

theorem restore_snapshot (rm fresh : RiskManager) (h : fresh.config = rm.config) :
    fresh.restore rm.snapshot = rm.withLog rm.keptLog := by
  unfold restore snapshot withLog keptLog
  rw [h]
  rfl

/-!
# The gate with another log
-/

section Gate

variable (rm : RiskManager) (log : List TradeLogEntry)

theorem maybeResetDaily_withLog (date : Int) :
    (rm.withLog log).maybeResetDaily date = (rm.maybeResetDaily date).withLog log := by
  unfold maybeResetDaily withLog
  dsimp only
  split
  · split_ifs <;> rfl
  · rfl

theorem maybeResetWeekly_withLog (date : Int) :
    (rm.withLog log).maybeResetWeekly date = (rm.maybeResetWeekly date).withLog log := by
  unfold maybeResetWeekly withLog
  dsimp only
  split_ifs <;> rfl

theorem canTradeLimits_withLog (day : Int) (n : Nat) :
    (rm.withLog log).canTradeLimits day n =
      ((rm.canTradeLimits day n).1.withLog log, (rm.canTradeLimits day n).2) := by
  unfold canTradeLimits withLog
  dsimp only
  split_ifs <;> rfl

theorem canTradeStreak_withLog (day : Int) (n : Nat) :
    (rm.withLog log).canTradeStreak day n =
      ((rm.canTradeStreak day n).1.withLog log, (rm.canTradeStreak day n).2) := by
  have hpause : (rm.withLog log).consecutiveLossPauseUntil = rm.consecutiveLossPauseUntil := rfl
  unfold canTradeStreak
  rw [hpause]
  split_ifs
  · rfl
  · exact canTradeLimits_withLog
      { rm with consecutiveLossPauseUntil := none, awaitingPostPauseTrade := true } log day n
  · exact canTradeLimits_withLog rm log day n

/-- Both logs reach the limit of four losses, or neither does. -/
def SameRolling (day : Int) : Prop :=
  4 ≤ (rm.withLog log).getRolling7DayLosses (some day) ↔
    4 ≤ rm.getRolling7DayLosses (some day)

theorem canTradeRolling_withLog {day : Int} (hsame : SameRolling rm log day) (n : Nat) :
    (rm.withLog log).canTradeRolling day n =
      ((rm.canTradeRolling day n).1.withLog log, (rm.canTradeRolling day n).2) := by
  have hpause : (rm.withLog log).rolling7DayPauseUntil = rm.rolling7DayPauseUntil := rfl
  unfold canTradeRolling
  rw [hpause]
  by_cases hpaused : Paused day rm.rolling7DayPauseUntil
  · rw [if_pos hpaused, if_pos hpaused]
  · rw [if_neg hpaused, if_neg hpaused]
    by_cases hfour : 4 ≤ rm.getRolling7DayLosses (some day)
    · rw [if_pos hfour, if_pos (hsame.mpr hfour)]
      rfl
    · rw [if_neg hfour, if_neg (fun h => hfour (hsame.mp h))]
      exact canTradeStreak_withLog rm log day n

theorem canTradePauses_withLog {day : Int} (hsame : SameRolling rm log day) (n : Nat) :
    (rm.withLog log).canTradePauses day n =
      ((rm.canTradePauses day n).1.withLog log, (rm.canTradePauses day n).2) := by
  have hweek : (rm.withLog log).pauseUntilDate = rm.pauseUntilDate := rfl
  have hequity : (rm.withLog log).equityDdPauseUntil = rm.equityDdPauseUntil := rfl
  unfold canTradePauses
  rw [hweek, hequity]
  split_ifs
  · rfl
  · rfl
  · exact canTradeRolling_withLog { rm with equityDdPauseUntil := none } log hsame n

end Gate

theorem canTrade_withLog (rm : RiskManager) (log : List TradeLogEntry) {date : Int}
    (hsame : rm.hardKilled = true ∨ SameRolling rm log (dayOf date)) (n : Nat) :
    (rm.withLog log).canTrade date n =
      ((rm.canTrade date n).1.withLog log, (rm.canTrade date n).2) := by
  have hkilled : (rm.withLog log).hardKilled = rm.hardKilled := rfl
  unfold canTrade
  rw [hkilled]
  split_ifs with hkill
  · rfl
  · rcases hsame with hk | hsame
    · exact absurd hk hkill
    · rw [maybeResetDaily_withLog, maybeResetWeekly_withLog]
      apply canTradePauses_withLog
      unfold SameRolling at hsame ⊢
      have hlog : ((rm.maybeResetDaily date).maybeResetWeekly date).tradeLog = rm.tradeLog :=
        congrArg Ledger.tradeLog (resets_ledger rm date)
      unfold getRolling7DayLosses at hsame ⊢
      rw [hlog]
      exact hsame

/-!
# Recording with another log
-/

section Recording

variable (rm : RiskManager) (log : List TradeLogEntry)

theorem recordStreak_withLog (pnl : ℚ) (reason : Option ExitReason) :
    (rm.withLog log).recordStreak pnl reason = (rm.recordStreak pnl reason).withLog log := by
  unfold recordStreak withLog
  dsimp only
  split_ifs <;> rfl

theorem raisePeaks_withLog : (rm.withLog log).raisePeaks = rm.raisePeaks.withLog log := by
  unfold raisePeaks withLog
  dsimp only
  by_cases hweek : rm.weeklyPeakEquity < rm.equity
  · rw [if_pos hweek, if_pos hweek]
    dsimp only
    split_ifs <;> rfl
  · rw [if_neg hweek, if_neg hweek]
    dsimp only
    split_ifs <;> rfl

theorem drawdownBrakes_withLog (day : Int) :
    (rm.withLog log).drawdownBrakes day = (rm.drawdownBrakes day).withLog log := by
  have hdd : (rm.withLog log).getEquityDdPercent = rm.getEquityDdPercent := rfl
  unfold drawdownBrakes
  rw [hdd]
  dsimp only
  by_cases hkill : hardKillDdPercent ≤ rm.getEquityDdPercent
  · rw [if_pos hkill, if_pos hkill]
    unfold withLog
    dsimp only
    split_ifs <;> rfl
  · rw [if_neg hkill, if_neg hkill]
    unfold withLog
    dsimp only
    split_ifs <;> rfl

theorem weeklyBrake_withLog (day : Int) :
    (rm.withLog log).weeklyBrake day = (rm.weeklyBrake day).withLog log := by
  unfold weeklyBrake withLog
  dsimp only
  split_ifs <;> rfl

theorem recordTrade_withLog (pnl : ℚ) (date : Int) (reason : Option ExitReason) :
    (rm.withLog log).recordTrade pnl date reason =
      (rm.recordTrade pnl date reason).withLog (log ++ [logEntry pnl date reason]) := by
  have hbook : forall m : RiskManager,
      ({ m.withLog log with
          awaitingPostPauseTrade := false
          balance := (m.withLog log).balance + pnl
          equity := (m.withLog log).balance + pnl
          dailyPnl := (m.withLog log).dailyPnl + pnl
          tradeLog := (m.withLog log).tradeLog ++ [logEntry pnl date reason] } : RiskManager) =
        ({ m with
          awaitingPostPauseTrade := false
          balance := m.balance + pnl
          equity := m.balance + pnl
          dailyPnl := m.dailyPnl + pnl
          tradeLog := m.tradeLog ++ [logEntry pnl date reason] } : RiskManager).withLog
            (log ++ [logEntry pnl date reason]) :=
    fun _ => rfl
  have hentry : ({ date := dayOf date
                   pnl := pnl
                   isLoss := decide (pnl < 0 ∧ reason ≠ some .breakeven) } : TradeLogEntry) =
      logEntry pnl date reason := rfl
  unfold recordTrade
  rw [maybeResetDaily_withLog, maybeResetWeekly_withLog]
  dsimp only
  change ({ weeklyBrake _ _ with lastTradeDate := some date } : RiskManager) =
    ({ weeklyBrake _ _ with lastTradeDate := some date } : RiskManager).withLog _
  rw [hentry, hbook, recordStreak_withLog, raisePeaks_withLog, drawdownBrakes_withLog,
    weeklyBrake_withLog]
  rfl

theorem recordTrade_tradeLog (pnl : ℚ) (date : Int) (reason : Option ExitReason) :
    (rm.recordTrade pnl date reason).tradeLog = rm.tradeLog ++ [logEntry pnl date reason] :=
  congrArg Ledger.tradeLog (recordTrade_ledger rm pnl date reason)

end Recording

/-!
# Forgotten losses
-/

def lossesSince (log : List TradeLogEntry) (day : Int) : Nat :=
  (log.filter fun t => t.isLoss && decide (day ≤ t.date)).length

theorem lossesSince_append (front back : List TradeLogEntry) (day : Int) :
    lossesSince (front ++ back) day = lossesSince front day + lossesSince back day := by
  rw [lossesSince, List.filter_append, List.length_append]
  rfl

theorem lossesSince_anti (log : List TradeLogEntry) {early late : Int} (h : early ≤ late) :
    lossesSince log late ≤ lossesSince log early := by
  apply List.Sublist.length_le
  apply List.monotone_filter_right
  intro t ht
  rw [Bool.and_eq_true, decide_eq_true_eq] at ht ⊢
  exact ⟨ht.1, le_trans h ht.2⟩

theorem getRolling7DayLosses_eq (rm : RiskManager) (day : Int) :
    rm.getRolling7DayLosses (some day) = lossesSince rm.tradeLog (day - 7) := by
  unfold getRolling7DayLosses lossesSince
  dsimp only
  congr 1
  apply List.filter_congr
  intro t _
  have hiff : day - t.date ≤ 7 ↔ day - 7 ≤ t.date := by omega
  rw [decide_eq_decide.mpr hiff]

/-- Each forgotten loss is outlived: four kept losses are as recent, or every day
that is still asked about is more than seven days after it. -/
def Outlived (days : Int -> Prop) (forgotten kept : List TradeLogEntry) : Prop :=
  forall t, t ∈ forgotten -> t.isLoss = true ->
    4 ≤ lossesSince kept t.date ∨ forall day, days day -> 7 < day - t.date

theorem Outlived.four_iff {days : Int -> Prop} {forgotten kept : List TradeLogEntry}
    (h : Outlived days forgotten kept) {day : Int} (hday : days day) :
    4 ≤ lossesSince kept (day - 7) ↔ 4 ≤ lossesSince (forgotten ++ kept) (day - 7) := by
  rw [lossesSince_append]
  constructor
  · intro hkept
    omega
  · intro hall
    by_cases hnone : lossesSince forgotten (day - 7) = 0
    · omega
    · have hpos : 0 < (forgotten.filter fun t => t.isLoss && decide (day - 7 ≤ t.date)).length :=
        Nat.pos_of_ne_zero hnone
      rcases List.exists_mem_of_length_pos hpos with ⟨t, ht⟩
      rw [List.mem_filter, Bool.and_eq_true, decide_eq_true_eq] at ht
      rcases ht with ⟨hmem, hloss, hrecent⟩
      rcases h t hmem hloss with hfour | hstale
      · exact le_trans hfour (lossesSince_anti kept hrecent)
      · have hlate := hstale day hday
        omega

theorem Outlived.record {days : Int -> Prop} {forgotten kept : List TradeLogEntry}
    (h : Outlived days forgotten kept) (entry : TradeLogEntry) :
    Outlived days forgotten (kept ++ [entry]) := by
  intro t hmem hloss
  rcases h t hmem hloss with hfour | hstale
  · apply Or.inl
    rw [lossesSince_append]
    omega
  · exact Or.inr hstale

/-- The second manager is the first without a front of its log that no longer
matters on the days asked about. -/
def LogCut (days : Int -> Prop) (rm cut : RiskManager) : Prop :=
  exists forgotten kept, rm.tradeLog = forgotten ++ kept ∧ cut = rm.withLog kept ∧
    (rm.hardKilled = true ∨ Outlived days forgotten kept)

theorem LogCut.canTrade {days : Int -> Prop} {rm cut : RiskManager} (h : LogCut days rm cut)
    {date : Int} (hday : days (dayOf date)) (n : Nat) :
    (cut.canTrade date n).2 = (rm.canTrade date n).2 ∧
      LogCut days (rm.canTrade date n).1 (cut.canTrade date n).1 := by
  rcases h with ⟨forgotten, kept, hlog, rfl, hharmless⟩
  have hsame : rm.hardKilled = true ∨ SameRolling rm kept (dayOf date) := by
    rcases hharmless with hkilled | houtlived
    · exact Or.inl hkilled
    · apply Or.inr
      unfold SameRolling
      rw [getRolling7DayLosses_eq, getRolling7DayLosses_eq, hlog]
      exact houtlived.four_iff hday
  have hledger := canTrade_ledger rm date n
  rw [canTrade_withLog rm kept hsame]
  refine ⟨rfl, forgotten, kept, ?_, rfl, ?_⟩
  · exact (congrArg Ledger.tradeLog hledger).trans hlog
  · rw [show (rm.canTrade date n).1.hardKilled = rm.hardKilled from
      congrArg Ledger.hardKilled hledger]
    exact hharmless

theorem LogCut.recordTrade {days : Int -> Prop} {rm cut : RiskManager}
    (h : LogCut days rm cut) (pnl : ℚ) (date : Int) (reason : Option ExitReason) :
    LogCut days (rm.recordTrade pnl date reason) (cut.recordTrade pnl date reason) := by
  rcases h with ⟨forgotten, kept, hlog, rfl, hharmless⟩
  refine ⟨forgotten, kept ++ [logEntry pnl date reason], ?_, ?_, ?_⟩
  · rw [recordTrade_tradeLog, hlog, List.append_assoc]
  · exact recordTrade_withLog rm kept pnl date reason
  · rcases hharmless with hkilled | houtlived
    · exact Or.inl (hardKilled_step hkilled (.recordTrade pnl date reason))
    · exact Or.inr (houtlived.record _)

end RiskManager
end Engine
end Shamarx
