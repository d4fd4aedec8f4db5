import Shamarx.Engine.HardKill
import Mathlib.Tactic.Linarith

/-!
# Every pause ends

A pause is set for a number of trading days, so it ends within a bounded number
of calendar days.  While no trade is recorded the rolling count runs empty, and
the loss-streak pause can only be set once before the gate opens.
-/

namespace Shamarx
namespace Engine

open Foundation

namespace RiskManager

/-!
# Trading days in calendar days
-/

/-- Rest days met while adding `remaining` trading days after day `d`; Monday is
position 0 of the week. -/
def restDays (d : Int) (remaining : Nat) : Int :=
  let position := (d + 3) % 7
  if position ≤ 4 then 2 * ((position + remaining) / 5)
  else if position = 5 then 1 + 2 * ((remaining - 1 : Int) / 5)
  else 2 * ((remaining - 1 : Int) / 5)

theorem restDays_nonneg (d : Int) {remaining : Nat} (h : 0 < remaining) :
    0 ≤ restDays d remaining := by
  unfold restDays
  dsimp only
  split_ifs <;> omega

theorem addTradingDaysLoop_le (fuel : Nat) (d : Int) (remaining : Nat) :
    addTradingDaysLoop fuel d remaining ≤
      d + remaining + (if remaining = 0 then 0 else restDays d remaining) := by
  induction fuel generalizing d remaining with
  | zero =>
      by_cases hr : remaining = 0
      · simp [addTradingDaysLoop, hr]
      · have hrest := restDays_nonneg d (Nat.pos_of_ne_zero hr)
        rw [if_neg hr]
        simp only [addTradingDaysLoop]
        omega
  | succ fuel ih =>
      cases remaining with
      | zero =>
          simp [addTradingDaysLoop]
      | succ remaining =>
          rw [if_neg (Nat.succ_ne_zero remaining)]
          simp only [addTradingDaysLoop]
          split_ifs with hweekend
          · have hstep := ih (d + 1) (remaining + 1)
            rw [if_neg (Nat.succ_ne_zero remaining)] at hstep
            refine le_trans hstep ?_
            unfold restDays
            unfold IsWeekend weekdayOf at hweekend
            dsimp only
            split_ifs <;> omega
          · have hstep := ih (d + 1) remaining
            refine le_trans hstep ?_
            unfold restDays
            unfold IsWeekend weekdayOf at hweekend
            dsimp only
            split_ifs <;> omega

theorem addTradingDays_le (d : Int) {days : Nat} (h : 0 < days) :
    addTradingDays d days ≤ d + days + 2 * ((days + 4) / 5 : Nat) := by
  refine le_trans (addTradingDaysLoop_le (3 * days) d days) ?_
  rw [if_neg (Nat.pos_iff_ne_zero.mp h)]
  unfold restDays
  dsimp only
  split_ifs <;> omega

/-!
# Dated managers

Bounds on everything a manager dates, given the last day on which it was called.
The gate may set the rolling and the streak pause on later days as well, so
these two have bounds of their own.
-/

def EndsBy (bound : Int) : Option Int -> Prop
  | some pauseEnd => pauseEnd ≤ bound
  | none => True

theorem EndsBy.mono {bound bound' : Int} {pause : Option Int} (h : EndsBy bound pause)
    (hle : bound ≤ bound') : EndsBy bound' pause := by
  cases pause with
  | none =>
      exact trivial
  | some pauseEnd =>
      exact le_trans h hle

theorem EndsBy.not_paused {bound day : Int} {pause : Option Int} (h : EndsBy bound pause)
    (hle : bound ≤ day) : ¬ Paused day pause := by
  cases pause with
  | none =>
      exact id
  | some pauseEnd =>
      exact not_lt.mpr (le_trans h hle)

theorem endsBy_addTradingDays {day bound : Int} {days : Nat} (hpos : 0 < days)
    (h : day + days + 2 * ((days + 4) / 5 : Nat) ≤ bound) :
    EndsBy bound (some (addTradingDays day days)) :=
  le_trans (addTradingDays_le day hpos) h

structure DatedPauses (lastDay rollingEnd streakEnd : Int) (rm : RiskManager) : Prop where
  weekly : EndsBy (lastDay + 7) rm.pauseUntilDate
  drawdown : EndsBy (lastDay + 42) rm.equityDdPauseUntil
  rolling : EndsBy rollingEnd rm.rolling7DayPauseUntil
  streak : EndsBy streakEnd rm.consecutiveLossPauseUntil
  log : forall t, t ∈ rm.tradeLog -> t.date ≤ lastDay

/-- The last trade is dated too, and before the first one nothing was won or lost
on any day. -/
structure Dated (lastDay rollingEnd streakEnd : Int) (rm : RiskManager) : Prop extends
    DatedPauses lastDay rollingEnd streakEnd rm where
  last : forall t, rm.lastTradeDate = some t -> dayOf t ≤ lastDay
  daily : rm.lastTradeDate = none -> rm.dailyPnl = 0

theorem Dated.mono {lastDay rollingEnd streakEnd rollingEnd' streakEnd' : Int}
    {rm : RiskManager} (h : Dated lastDay rollingEnd streakEnd rm)
    (hrolling : rollingEnd ≤ rollingEnd') (hstreak : streakEnd ≤ streakEnd') :
    Dated lastDay rollingEnd' streakEnd' rm :=
  { h with rolling := h.rolling.mono hrolling, streak := h.streak.mono hstreak }

theorem dated_create (config : EngineConfig) (lastDay rollingEnd streakEnd : Int) :
    Dated lastDay rollingEnd streakEnd (create config) where
  weekly := trivial
  drawdown := trivial
  rolling := trivial
  streak := trivial
  log := by
    intro t ht
    cases ht
  last := by
    intro t ht
    cases ht
  daily := fun _ => rfl

section Dated

variable {lastDay rollingEnd streakEnd : Int} {rm : RiskManager}

theorem Dated.maybeResetDaily (h : Dated lastDay rollingEnd streakEnd rm) (date : Int) :
    Dated lastDay rollingEnd streakEnd (rm.maybeResetDaily date) := by
  unfold RiskManager.maybeResetDaily
  split
  · split_ifs
    · exact { h with daily := fun _ => rfl }
    · exact h
  · exact h

theorem Dated.maybeResetWeekly (h : Dated lastDay rollingEnd streakEnd rm) (date : Int) :
    Dated lastDay rollingEnd streakEnd (rm.maybeResetWeekly date) := by
  unfold RiskManager.maybeResetWeekly
  dsimp only
  split_ifs
  · exact { h with }
  · exact h

/-!
# The gate keeps the bounds
-/

theorem Dated.canTradeLimits (h : Dated lastDay rollingEnd streakEnd rm) {day : Int}
    (hstreak : day + 7 ≤ streakEnd) (n : Nat) :
    Dated lastDay rollingEnd streakEnd (rm.canTradeLimits day n).1 := by
  unfold RiskManager.canTradeLimits
  split_ifs
  · exact h
  · refine { h with streak := ?_ }
    dsimp only
    split_ifs
    · exact endsBy_addTradingDays (by decide) (by omega)
    · exact endsBy_addTradingDays (by decide) (by omega)
    · exact endsBy_addTradingDays (by decide) (by omega)
  · exact h
  · exact h

theorem Dated.canTradeStreak (h : Dated lastDay rollingEnd streakEnd rm) {day : Int}
    (hstreak : day + 7 ≤ streakEnd) (n : Nat) :
    Dated lastDay rollingEnd streakEnd (rm.canTradeStreak day n).1 := by
  unfold RiskManager.canTradeStreak
  split_ifs
  · exact h
  · refine Dated.canTradeLimits ?_ hstreak n
    exact { h with streak := trivial }
  · exact h.canTradeLimits hstreak n

theorem DatedPauses.rolling_eq_zero (h : DatedPauses lastDay rollingEnd streakEnd rm)
    {day : Int} (hday : lastDay + 7 < day) : rm.getRolling7DayLosses (some day) = 0 := by
  simp only [getRolling7DayLosses, List.length_eq_zero_iff, List.filter_eq_nil_iff]
  intro t ht
  have hdate := h.log t ht
  have hold : ¬ day - t.date ≤ 7 := by omega
  simp [hold]

theorem Dated.canTradeRolling (h : Dated lastDay rollingEnd streakEnd rm) {day : Int}
    (hrolling : day + 7 ≤ rollingEnd ∨ lastDay + 7 < day) (hstreak : day + 7 ≤ streakEnd)
    (n : Nat) : Dated lastDay rollingEnd streakEnd (rm.canTradeRolling day n).1 := by
  unfold RiskManager.canTradeRolling
  split_ifs with hpaused hlosses
  · exact h
  · refine { h with rolling := ?_ }
    rcases hrolling with hsoon | hlate
    · exact endsBy_addTradingDays (by decide) (by omega)
    · rw [h.rolling_eq_zero hlate] at hlosses
      omega
  · exact h.canTradeStreak hstreak n

theorem Dated.canTrade (h : Dated lastDay rollingEnd streakEnd rm) {date : Int}
    (hrolling : dayOf date + 7 ≤ rollingEnd ∨ lastDay + 7 < dayOf date)
    (hstreak : dayOf date + 7 ≤ streakEnd) (n : Nat) :
    Dated lastDay rollingEnd streakEnd (rm.canTrade date n).1 := by
  unfold RiskManager.canTrade RiskManager.canTradePauses
  have hreset := (h.maybeResetDaily date).maybeResetWeekly date
  split_ifs
  · exact h
  · exact hreset
  · exact hreset
  · refine Dated.canTradeRolling ?_ hrolling hstreak n
    exact { hreset with drawdown := trivial }

end Dated

/-!
# Recording a trade keeps the bounds
-/

section Record

variable {lastDay rollingEnd streakEnd : Int} {rm : RiskManager}

theorem DatedPauses.recordStreak (h : DatedPauses lastDay rollingEnd streakEnd rm) (pnl : ℚ)
    (reason : Option ExitReason) :
    DatedPauses lastDay rollingEnd streakEnd (rm.recordStreak pnl reason) := by
  unfold RiskManager.recordStreak
  split_ifs
  · exact { h with }
  · exact { h with }
  · exact { h with }
  · exact h

theorem DatedPauses.raisePeaks (h : DatedPauses lastDay rollingEnd streakEnd rm) :
    DatedPauses lastDay rollingEnd streakEnd rm.raisePeaks := by
  unfold RiskManager.raisePeaks
  dsimp only
  split_ifs <;> exact { h with }

theorem DatedPauses.drawdownBrakes (h : DatedPauses lastDay rollingEnd streakEnd rm)
    {day : Int} (hday : day ≤ lastDay) :
    DatedPauses lastDay rollingEnd streakEnd (rm.drawdownBrakes day) := by
  have hpause : forall days : Nat, 0 < days -> days ≤ 30 ->
      EndsBy (lastDay + 42) (some (addTradingDays day days)) := by
    intro days hpos hle
    exact endsBy_addTradingDays hpos (by omega)
  unfold RiskManager.drawdownBrakes
  dsimp only
  generalize hkilled : (if hardKillDdPercent ≤ rm.getEquityDdPercent then
    { rm with hardKilled := true } else rm) = rm'
  have h' : DatedPauses lastDay rollingEnd streakEnd rm' := by
    rw [← hkilled]
    split_ifs
    · exact { h with }
    · exact h
  split_ifs
  · exact { h' with drawdown := hpause 30 (by decide) (by decide) }
  · exact { h' with drawdown := hpause 7 (by decide) (by decide) }
  · exact { h' with drawdown := hpause 3 (by decide) (by decide) }
  · exact h'

theorem DatedPauses.weeklyBrake (h : DatedPauses lastDay rollingEnd streakEnd rm)
    {day : Int} (hday : day ≤ lastDay) :
    DatedPauses lastDay rollingEnd streakEnd (rm.weeklyBrake day) := by
  unfold RiskManager.weeklyBrake
  split_ifs
  · exact { h with weekly := endsBy_addTradingDays (by decide) (by
      simp only [weeklyDdPauseDays]
      omega) }
  · exact h

theorem Dated.bookTrade (h : Dated lastDay rollingEnd streakEnd rm) (pnl : ℚ) {date : Int}
    (hdate : dayOf date ≤ lastDay) (reason : Option ExitReason) :
    DatedPauses lastDay rollingEnd streakEnd (rm.bookTrade pnl date reason) := by
  have hreset := ((h.maybeResetDaily date).maybeResetWeekly date).toDatedPauses
  refine { hreset with log := ?_ }
  intro t ht
  rcases List.mem_append.mp ht with hold | hnew
  · exact hreset.log t hold
  · rw [List.mem_singleton.mp hnew]
    exact hdate

theorem Dated.recordTrade (h : Dated lastDay rollingEnd streakEnd rm) (pnl : ℚ) {date : Int}
    (hdate : dayOf date ≤ lastDay) (reason : Option ExitReason) :
    Dated lastDay rollingEnd streakEnd (rm.recordTrade pnl date reason) := by
  have hraised := ((h.bookTrade pnl hdate reason).recordStreak pnl reason).raisePeaks
  have hbraked := (hraised.drawdownBrakes hdate).weeklyBrake hdate
  rw [recordTrade_eq]
  refine { hbraked with last := ?_, daily := ?_ }
  · intro t ht
    cases ht
    exact hdate
  · intro hnone
    cases hnone

end Record

def RiskOp.date : RiskOp -> Option Int
  | .canTrade date _ => some date
  | .recordTrade _ date _ => some date
  | .calculateLotSize .. => none
  | .snapshotRestore => none

def DatedBy (lastDay : Int) (op : RiskOp) : Prop :=
  forall date, op.date = some date -> dayOf date ≤ lastDay

theorem dated_riskStep {lastDay : Int} {rm : RiskManager} {op : RiskOp}
    (h : Dated lastDay (lastDay + 7) (lastDay + 7) rm) (hop : DatedBy lastDay op) :
    Dated lastDay (lastDay + 7) (lastDay + 7) (riskStep rm op) := by
  cases op with
  | canTrade date n =>
      have hday := hop date rfl
      exact h.canTrade (Or.inl (by omega)) (by omega) n
  | recordTrade pnl date reason =>
      exact h.recordTrade pnl (hop date rfl) reason
  | calculateLotSize slPoints quality regime confidence price =>
      exact h
  | snapshotRestore =>
      refine
        { weekly := h.weekly
          drawdown := h.drawdown
          rolling := h.rolling
          streak := h.streak
          log := ?_
          last := h.last
          daily := h.daily }
      intro t ht
      exact h.log t (List.mem_of_mem_drop ht)

theorem riskRun_config (config : EngineConfig) (ops : List RiskOp) :
    (riskRun config ops).config = config := by
  refine runFrom_inv (fun rm : RiskManager => rm.config = config) ?_ rfl ops
  intro rm op h
  rw [← h]
  cases op with
  | canTrade date n =>
      exact congrArg Ledger.config (canTrade_ledger rm date n)
  | recordTrade pnl date reason =>
      exact congrArg Ledger.config (recordTrade_ledger rm pnl date reason)
  | calculateLotSize slPoints quality regime confidence price =>
      rfl
  | snapshotRestore =>
      rfl

theorem dated_riskRun (config : EngineConfig) {lastDay : Int} {ops : List RiskOp}
    (hops : forall op, op ∈ ops -> DatedBy lastDay op) :
    Dated lastDay (lastDay + 7) (lastDay + 7) (riskRun config ops) := by
  unfold riskRun
  generalize hstart : create config = start
  have hdated : Dated lastDay (lastDay + 7) (lastDay + 7) start := by
    rw [← hstart]
    exact dated_create config lastDay _ _
  clear hstart
  induction ops generalizing start with
  | nil =>
      exact hdated
  | cons op rest ih =>
      refine ih (fun o ho => hops o (List.mem_cons_of_mem op ho)) (riskStep start op) ?_
      exact dated_riskStep hdated (hops op List.mem_cons_self)

/-!
# The gate opens
-/

/-- A manager at rest before the call of a day: dated, alive and in credit. -/
structure Resting (lastDay day : Int) (rm : RiskManager) : Prop extends
    Dated lastDay (lastDay + 14) (day + 6) rm where
  not_killed : rm.hardKilled = false
  in_credit : 0 < rm.balance
  loss_pos : 0 < rm.config.maxDailyLossPercent

section Resting

variable {lastDay day : Int} {rm : RiskManager}

theorem Resting.canTrade (h : Resting lastDay day rm) {date : Int} (hdate : dayOf date = day)
    (n : Nat) : Resting lastDay (day + 1) (rm.canTrade date n).1 := by
  have hledger := canTrade_ledger rm date n
  have hconfig : (rm.canTrade date n).1.config = rm.config := congrArg Ledger.config hledger
  have hbalance : (rm.canTrade date n).1.balance = rm.balance :=
    congrArg Ledger.balance hledger
  have hkilled : (rm.canTrade date n).1.hardKilled = rm.hardKilled :=
    congrArg Ledger.hardKilled hledger
  have hrolling : dayOf date + 7 ≤ lastDay + 14 ∨ lastDay + 7 < dayOf date := by omega
  have hstreak : dayOf date + 7 ≤ day + 1 + 6 := by omega
  have hnext : Dated lastDay (lastDay + 14) (day + 1 + 6) rm :=
    h.toDated.mono (le_refl _) (by omega)
  have hdated := hnext.canTrade hrolling hstreak n
  refine { hdated with not_killed := ?_, in_credit := ?_, loss_pos := ?_ }
  · rw [hkilled]
    exact h.not_killed
  · rw [hbalance]
    exact h.in_credit
  · rw [hconfig]
    exact h.loss_pos

/-- A day that is not the day of the last trade starts with a daily profit of
zero. -/
theorem Dated.dailyPnl_reset {rollingEnd streakEnd : Int}
    (h : Dated lastDay rollingEnd streakEnd rm) {date : Int} (hdate : lastDay < dayOf date) :
    (rm.maybeResetDaily date).dailyPnl = 0 := by
  unfold RiskManager.maybeResetDaily
  split
  · rename_i last hlast
    have hle := h.last last hlast
    have hne : dayOf date ≠ dayOf last := by omega
    rw [if_pos hne]
  · rename_i hnone
    exact h.daily hnone

theorem canTradeLimits_of_flat_day (rm : RiskManager) (hdaily : rm.dailyPnl = 0)
    (hcredit : 0 < rm.balance) (hloss : 0 < rm.config.maxDailyLossPercent) {n : Nat}
    (hn : n < rm.config.maxOpenPositions) (day : Int) :
    (rm.canTradeLimits day n).2 = true ∨
      rm.awaitingPostPauseTrade = false ∧
        exists pauseEnd, (rm.canTradeLimits day n).1.consecutiveLossPauseUntil =
          some pauseEnd ∧ pauseEnd ≤ day + 7 := by
  have hflat : ¬ PercentAtMost rm.dailyPnl rm.balance (-rm.config.maxDailyLossPercent) := by
    rw [PercentAtMost, hdaily, if_neg (ne_of_gt hcredit)]
    simp only [zero_div, zero_mul]
    linarith
  unfold canTradeLimits
  rw [if_neg hflat]
  split_ifs with hstreak hcap
  · right
    refine ⟨hstreak.1, _, rfl, ?_⟩
    have hend : forall days : Nat, 0 < days -> days ≤ 5 -> addTradingDays day days ≤ day + 7 := by
      intro days hpos hle
      have hdays := addTradingDays_le day hpos
      omega
    split_ifs
    · exact hend 5 (by decide) (by decide)
    · exact hend 3 (by decide) (by decide)
    · exact hend 1 (by decide) (by decide)
  · omega
  · exact Or.inl rfl

/-- A streak pause that has ended opens the gate, one that runs stands, and
where there is none the gate opens or sets one. -/
theorem canTradeStreak_of_flat_day (rm : RiskManager) (hdaily : rm.dailyPnl = 0)
    (hcredit : 0 < rm.balance) (hloss : 0 < rm.config.maxDailyLossPercent) {n : Nat}
    (hn : n < rm.config.maxOpenPositions) (day : Int) :
    (rm.canTradeStreak day n).2 = true ∨
      (rm.consecutiveLossPauseUntil = none ∧
        exists pauseEnd, (rm.canTradeStreak day n).1.consecutiveLossPauseUntil =
          some pauseEnd ∧ pauseEnd ≤ day + 7) ∨
      exists pauseEnd, rm.consecutiveLossPauseUntil = some pauseEnd ∧ day < pauseEnd ∧
        (rm.canTradeStreak day n).1.consecutiveLossPauseUntil = some pauseEnd := by
  by_cases hpaused : Paused day rm.consecutiveLossPauseUntil
  · right
    right
    cases hpause : rm.consecutiveLossPauseUntil with
    | none =>
        rw [hpause] at hpaused
        exact absurd hpaused id
    | some pauseEnd =>
        rw [hpause] at hpaused
        refine ⟨pauseEnd, rfl, hpaused, ?_⟩
        rw [RiskManager.canTradeStreak, hpause, if_pos hpaused]
        exact hpause
  · by_cases hsome : rm.consecutiveLossPauseUntil.isSome = true
    · left
      rw [RiskManager.canTradeStreak, if_neg hpaused, if_pos hsome]
      rcases canTradeLimits_of_flat_day { rm with
          consecutiveLossPauseUntil := none, awaitingPostPauseTrade := true }
          hdaily hcredit hloss hn day with hopen | ⟨hawaiting, -⟩
      · exact hopen
      · cases hawaiting
    · rw [RiskManager.canTradeStreak, if_neg hpaused, if_neg hsome]
      rcases canTradeLimits_of_flat_day rm hdaily hcredit hloss hn day with
        hopen | ⟨-, hset⟩
      · exact Or.inl hopen
      · exact Or.inr (Or.inl ⟨by simpa using hsome, hset⟩)

/-- Six weeks after the last trade the gate opens, or the streak pause runs: it
was set before and stands, or there was none and it is set now. -/
theorem Resting.canTrade_late (h : Resting lastDay day rm) {date : Int}
    (hdate : dayOf date = day) (hlate : lastDay + 42 ≤ day) {n : Nat}
    (hn : n < rm.config.maxOpenPositions) :
    (rm.canTrade date n).2 = true ∨
      (rm.consecutiveLossPauseUntil = none ∧
        exists pauseEnd, (rm.canTrade date n).1.consecutiveLossPauseUntil = some pauseEnd ∧
          pauseEnd ≤ day + 7) ∨
      exists pauseEnd, rm.consecutiveLossPauseUntil = some pauseEnd ∧ day < pauseEnd ∧
        (rm.canTrade date n).1.consecutiveLossPauseUntil = some pauseEnd := by
  have hreset := (h.toDated.maybeResetDaily date).maybeResetWeekly date
  have hledger := resets_ledger rm date
  have hdaily : ((rm.maybeResetDaily date).maybeResetWeekly date).dailyPnl = 0 := by
    have hzero := h.toDated.dailyPnl_reset (show lastDay < dayOf date by omega)
    unfold RiskManager.maybeResetWeekly
    dsimp only
    split_ifs <;> exact hzero
  have hstreak : ((rm.maybeResetDaily date).maybeResetWeekly date).consecutiveLossPauseUntil =
      rm.consecutiveLossPauseUntil := by
    unfold RiskManager.maybeResetWeekly RiskManager.maybeResetDaily
    dsimp only
    split_ifs <;> split <;> try split_ifs
    all_goals rfl
  have hgate : rm.canTrade date n = ({ (rm.maybeResetDaily date).maybeResetWeekly date with
      equityDdPauseUntil := none } : RiskManager).canTradeStreak day n := by
    have hzero := DatedPauses.rolling_eq_zero hreset.toDatedPauses
      (show lastDay + 7 < day by omega)
    have hrolling := hreset.rolling.not_paused (show lastDay + 14 ≤ day by omega)
    rw [RiskManager.canTrade, h.not_killed, if_neg Bool.false_ne_true, canTradePauses, hdate,
      if_neg (hreset.weekly.not_paused (by omega)),
      if_neg (hreset.drawdown.not_paused (by omega)), canTradeRolling, if_neg hrolling]
    rw [if_neg]
    change ¬ 4 ≤ RiskManager.getRolling7DayLosses
      ((rm.maybeResetDaily date).maybeResetWeekly date) (some day)
    omega
  rw [hgate]
  generalize (rm.maybeResetDaily date).maybeResetWeekly date = rm' at hledger hdaily hstreak
  have hcredit : 0 < rm'.balance := by
    rw [show rm'.balance = rm.balance from congrArg Ledger.balance hledger]
    exact h.in_credit
  have hconfig : rm'.config = rm.config := congrArg Ledger.config hledger
  have hloss : 0 < rm'.config.maxDailyLossPercent := by
    rw [hconfig]
    exact h.loss_pos
  have hslot : n < rm'.config.maxOpenPositions := by
    rw [hconfig]
    exact hn
  have hopens := canTradeStreak_of_flat_day { rm' with equityDdPauseUntil := none } hdaily
    hcredit hloss hslot day
  rw [← hstreak]
  exact hopens

end Resting

/-!
# One call a day
-/

/-- The manager after the first calls of a sequence of trade-gate queries. -/
def dailyCalls (dates : Nat -> Int) (counts : Nat -> Nat) (rm : RiskManager) :
    Nat -> RiskManager
  | 0 => rm
  | k + 1 => ((dailyCalls dates counts rm k).canTrade (dates k) (counts k)).1

def dailyAnswer (dates : Nat -> Int) (counts : Nat -> Nat) (rm : RiskManager) (k : Nat) :
    Bool :=
  ((dailyCalls dates counts rm k).canTrade (dates k) (counts k)).2

section Daily

variable {lastDay : Int} {dates : Nat -> Int} {counts : Nat -> Nat} {rm : RiskManager}

theorem resting_dailyCalls (counts : Nat -> Nat) (h : Resting lastDay (lastDay + 1) rm)
    (hdates : forall k : Nat, dayOf (dates k) = lastDay + 1 + k) (k : Nat) :
    Resting lastDay (lastDay + 1 + k) (dailyCalls dates counts rm k) := by
  induction k with
  | zero =>
      simpa [dailyCalls] using h
  | succ k ih =>
      have hnext := ih.canTrade (hdates k) (counts k)
      have hday : lastDay + 1 + ((k + 1 : Nat) : Int) = lastDay + 1 + (k : Int) + 1 := by
        omega
      rw [hday]
      exact hnext

theorem dailyCalls_config (k : Nat) :
    (dailyCalls dates counts rm k).config = rm.config := by
  induction k with
  | zero =>
      rfl
  | succ k ih =>
      rw [← ih]
      exact congrArg Ledger.config (canTrade_ledger _ _ _)

theorem opens_after_wait (h : Resting lastDay (lastDay + 1) rm)
    (hdates : forall k : Nat, dayOf (dates k) = lastDay + 1 + k)
    (hcounts : forall k, counts k < rm.config.maxOpenPositions) (wait k : Nat)
    (hlate : 41 ≤ k) {pauseEnd : Int}
    (hpause : (dailyCalls dates counts rm k).consecutiveLossPauseUntil = some pauseEnd)
    (hend : pauseEnd ≤ lastDay + 1 + k + wait) :
    exists i, i ≤ wait ∧ dailyAnswer dates counts rm (k + i) = true := by
  induction wait generalizing k with
  | zero =>
      refine ⟨0, le_refl 0, ?_⟩
      have hrest := resting_dailyCalls counts h hdates k
      rcases hrest.canTrade_late (hdates k) (by omega)
          (by rw [dailyCalls_config]; exact hcounts k) with
        hopen | ⟨hnone, -⟩ | ⟨other, hsome, hlt, -⟩
      · exact hopen
      · rw [hpause] at hnone
        cases hnone
      · rw [hpause] at hsome
        cases hsome
        omega
  | succ wait ih =>
      have hrest := resting_dailyCalls counts h hdates k
      rcases hrest.canTrade_late (hdates k) (by omega)
          (by rw [dailyCalls_config]; exact hcounts k) with
        hopen | ⟨hnone, -⟩ | ⟨other, hsome, hlt, hkept⟩
      · exact ⟨0, Nat.zero_le _, hopen⟩
      · rw [hpause] at hnone
        cases hnone
      · rw [hpause] at hsome
        cases hsome
        rcases ih (k + 1) (by omega) hkept (by omega) with ⟨i, hi, hopen⟩
        refine ⟨i + 1, by omega, ?_⟩
        rw [show k + (i + 1) = k + 1 + i by omega]
        exact hopen

theorem opens_within_ninety (h : Resting lastDay (lastDay + 1) rm)
    (hdates : forall k : Nat, dayOf (dates k) = lastDay + 1 + k)
    (hcounts : forall k, counts k < rm.config.maxOpenPositions) :
    exists k, k < 90 ∧ dailyAnswer dates counts rm k = true := by
  rcases (⟨41, rfl⟩ : exists k, k = 41) with ⟨k, hk⟩
  have hrest := resting_dailyCalls counts h hdates k
  rcases hrest.canTrade_late (hdates k) (by omega)
      (by rw [dailyCalls_config]; exact hcounts k) with
    hopen | ⟨-, pauseEnd, hset, hend⟩ | ⟨pauseEnd, hsome, -, -⟩
  · exact ⟨k, by omega, hopen⟩
  · rcases opens_after_wait h hdates hcounts 6 (k + 1) (by omega) hset (by omega) with
      ⟨i, hi, hopen⟩
    exact ⟨k + 1 + i, by omega, hopen⟩
  · have hend := hrest.streak
    rw [hsome] at hend
    have hle : pauseEnd ≤ lastDay + 1 + k + 6 := hend
    rcases opens_after_wait h hdates hcounts 6 k (by omega) hsome (by omega) with
      ⟨i, hi, hopen⟩
    exact ⟨k + i, by omega, hopen⟩

end Daily

/-- Whatever calls up to a last day have led to a manager that is not hard-killed:
with a free slot on every day, one of the ninety days that follow has a call that
opens the gate. -/
theorem pauses_end_over_runs (config : EngineConfig) (hbalance : 0 < config.initialBalance)
    (hloss : 0 < config.maxDailyLossPercent) (ops : List RiskOp) (lastDay : Int)
    (hops : forall op, op ∈ ops -> DatedBy lastDay op)
    (halive : (riskRun config ops).hardKilled = false) (dates : Nat -> Int)
    (hdates : forall k : Nat, dayOf (dates k) = lastDay + 1 + k) (counts : Nat -> Nat)
    (hcounts : forall k, counts k < config.maxOpenPositions) :
    exists k, k < 90 ∧ dailyAnswer dates counts (riskRun config ops) k = true := by
  have hdated := dated_riskRun config hops
  have hsound := riskRun_ledger_sound hbalance ops
  have hcredit := balance_pos_of_alive hsound halive
  have hconfig : (riskRun config ops).config = config := riskRun_config config ops
  have hresting : Resting lastDay (lastDay + 1) (riskRun config ops) :=
    { hdated.mono (show lastDay + 7 ≤ lastDay + 14 by omega)
        (show lastDay + 7 ≤ lastDay + 1 + 6 by omega) with
      not_killed := halive
      in_credit := hcredit
      loss_pos := by
        rw [hconfig]
        exact hloss }
  refine opens_within_ninety hresting hdates ?_
  rw [hconfig]
  exact hcounts

/-- Four losses in one day, so that the next query starts the rolling pause. -/
def slump : List RiskOp :=
  List.replicate 4 (.recordTrade (-100) (dayStart 20643) (some .sl)) ++
    [.canTrade (dayStart 20643) 0]

theorem slump_datedBy (op : RiskOp) (h : op ∈ slump) : DatedBy 20643 op := by
  intro date hdate
  have hop : op = .recordTrade (-100) (dayStart 20643) (some .sl) ∨
      op = .canTrade (dayStart 20643) 0 := by
    simpa [slump, List.mem_replicate] using h
  rcases hop with rfl | rfl
  · cases hdate
    decide
  · cases hdate
    decide

theorem slump_pause_ends :
    exists k, k < 90 ∧ dailyAnswer (fun k => dayStart (20643 + 1 + k)) (fun _ => 0)
      (riskRun ⟨.XAUUSD, 10000, 3 / 2, 4, 5, 4⟩ slump) k = true := by
  refine pauses_end_over_runs ⟨.XAUUSD, 10000, 3 / 2, 4, 5, 4⟩ (by decide) (by decide) slump
    20643 slump_datedBy (by decide +kernel) _ ?_ _ (fun _ => by decide)
  intro k
  exact Int.mul_ediv_cancel _ (by decide)

end RiskManager
end Engine
end Shamarx
