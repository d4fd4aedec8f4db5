import Shamarx.Live.LiveAnalytics
import Shamarx.Live.SessionViews

/-!
# Statistics of live trades

The figures of a list of trades: totals over the closed ones, how often each exit reason
occurred and a breakdown by pair that one loop accumulates.
-/

namespace Shamarx
namespace Live

open Foundation

structure PairStats where
  trades : Nat
  wins : Nat
  losses : Nat
  winRate : ℚ
  totalPnl : ℚ
  avgPnl : ℚ
  deriving DecidableEq

structure LiveStats where
  totalTrades : Nat
  openTrades : Nat
  closedTrades : Nat
  wins : Nat
  losses : Nat
  winRate : ℚ
  totalPnl : ℚ
  realizedPnl : ℚ
  avgWin : ℚ
  avgLoss : ℚ
  profitFactor : ℚ
  avgRR : ℚ
  largestWin : ℚ
  largestLoss : ℚ
  exitReasons : InsertionMap String Nat
  perPair : InsertionMap String PairStats

/-!
# The figures
-/

/-- Closed trades with a result, without the artifacts of reconciliation. -/
def outcomes (trades : List ViewedTrade) : List ViewedTrade :=
  trades.filter fun t =>
    decide (t.status = .closed ∧ t.pnl ≠ none ∧ t.exitReason ≠ some "ORPHAN")

def result (t : ViewedTrade) : ℚ :=
  t.pnl.getD 0

def Wins (t : ViewedTrade) : Prop :=
  0 < result t

def Loses (t : ViewedTrade) : Prop :=
  result t < 0

instance : DecidablePred Wins := fun t => inferInstanceAs (Decidable (0 < result t))

instance : DecidablePred Loses := fun t => inferInstanceAs (Decidable (result t < 0))

def rMultiple (t : ViewedTrade) : Option ℚ :=
  impliedR
    { accountId := t.accountId
      status := "CLOSED"
      exitReason := t.exitReason
      pnl := t.pnl
      symbol := t.symbol
      entryPrice := t.entryPrice
      slPrice := t.slPrice
      lotSize := t.lotSize }

/-- `Math.max` and `Math.min` of a list that is not empty. -/
def extreme (pick : ℚ -> ℚ -> ℚ) : List ℚ -> ℚ
  | [] => 0
  | x :: rest => rest.foldl pick x

def percent (part whole : Nat) : ℚ :=
  if 0 < whole then (part : ℚ) / whole * 100 else 0

def exitReasonOf (t : ViewedTrade) : String :=
  t.exitReason.getD "UNKNOWN"

def blankPair : PairStats :=
  { trades := 0, wins := 0, losses := 0, winRate := 0, totalPnl := 0, avgPnl := 0 }

def absorbOutcome (p : PairStats) (t : ViewedTrade) : PairStats :=
  let p := { p with trades := p.trades + 1 }
  let p :=
    if Wins t then { p with wins := p.wins + 1 }
    else if Loses t then { p with losses := p.losses + 1 }
    else p
  { p with totalPnl := p.totalPnl + result t }

/-- The loop over the pairs: rates from the sums, then the rounding. -/
def finishPair (p : PairStats) : PairStats :=
  { p with
    winRate := roundTo 10 (percent p.wins p.trades)
    totalPnl := roundTo 100 p.totalPnl
    avgPnl := roundTo 100 (if 0 < p.trades then p.totalPnl / p.trades else 0) }

def pairGroups (closed : List ViewedTrade) : InsertionMap String PairStats :=
  Grouping.groupBy ViewedTrade.symbol (fun _ => blankPair) absorbOutcome closed

def reasonGroups (closed : List ViewedTrade) : InsertionMap String Nat :=
  Grouping.groupBy exitReasonOf (fun _ => 0) (fun n _ => n + 1) closed

def compute (trades : List ViewedTrade) : LiveStats :=
  let closed := outcomes trades
  let wins := closed.filter fun t => decide (Wins t)
  let losses := closed.filter fun t => decide (Loses t)
  let winsTotal := (wins.map result).sum
  let lossesTotal := |(losses.map result).sum|
  let totalPnl := (closed.map result).sum
  { totalTrades := trades.length
    openTrades := trades.countP fun t => decide (t.status = .open_)
    closedTrades := closed.length
    wins := wins.length
    losses := losses.length
    winRate := roundTo 10 (percent wins.length closed.length)
    totalPnl := roundTo 100 totalPnl
    realizedPnl := roundTo 100 totalPnl
    avgWin := if 0 < wins.length then roundTo 100 (winsTotal / wins.length) else 0
    avgLoss := if 0 < losses.length then roundTo 100 (lossesTotal / losses.length) else 0
    profitFactor := if 0 < lossesTotal then roundTo 100 (winsTotal / lossesTotal) else 0
    avgRR := roundTo 100 (average (closed.filterMap rMultiple))
    largestWin := if 0 < wins.length then roundTo 100 (extreme max (wins.map result)) else 0
    largestLoss := if 0 < losses.length then roundTo 100 (extreme min (losses.map result)) else 0
    exitReasons := reasonGroups closed
    perPair := (pairGroups closed).map fun entry => (entry.1, finishPair entry.2) }

/-!
# The queries
-/

def stats (db : ViewTables) (reads : ReadOrders) (userId : String) (days : Option ℚ) (now : Int) :
    LiveStats :=
  let since := (now : ℚ) - days.getD 30 * 24 * 60 * 60 * 1000
  compute (reads.trades.order (db.trades.filter fun t =>
    decide (t.clientOrderId ≠ none ∧ since ≤ t.createdAt ∧ db.OwnedBy userId t.accountId)))

def sessionStats (db : ViewTables) (reads : ReadOrders) (userId : String) (sessionId : String)
    (accountId : Option String) : LiveStats :=
  compute (reads.trades.order ((db.ownTrades userId sessionId).filter fun t =>
    decide (accountId = none ∨ accountId = some "" ∨ t.accountId = accountId)))

section Tenants

variable {userId : String} {db db' : ViewTables}

theorem SameFor.stats (h : SameFor userId db db') (reads : ReadOrders) (days : Option ℚ)
    (now : Int) : stats db reads userId days now = stats db' reads userId days now := by
  have hown : forall (db : ViewTables) (since : ℚ),
      (db.trades.filter fun t =>
        decide (t.clientOrderId ≠ none ∧ since ≤ t.createdAt ∧ db.OwnedBy userId t.accountId)) =
      (db.trades.filter fun t => decide (db.OwnedBy userId t.accountId)).filter fun t =>
        decide (t.clientOrderId ≠ none ∧ since ≤ t.createdAt) := by
    intro db since
    rw [List.filter_filter]
    apply List.filter_congr
    intro t _
    rw [<- Bool.decide_and, decide_eq_decide, and_assoc]
  unfold Live.stats
  dsimp only
  rw [hown db, hown db', h.trades]

theorem SameFor.sessionStats (h : SameFor userId db db') (reads : ReadOrders) (sessionId : String)
    (accountId : Option String) :
    sessionStats db reads userId sessionId accountId =
      sessionStats db' reads userId sessionId accountId := by
  unfold Live.sessionStats
  rw [h.ownTrades]

end Tenants

/-!
# The loop over the trades of a pair
-/

def pairOf (closed : List ViewedTrade) : PairStats :=
  { blankPair with
    trades := closed.length
    wins := closed.countP fun t => decide (Wins t)
    losses := closed.countP fun t => decide (Loses t)
    totalPnl := (closed.map result).sum }

theorem not_loses_of_wins {t : ViewedTrade} (h : Wins t) : ¬ Loses t :=
  not_lt.mpr (le_of_lt h)

theorem absorbOutcome_pairOf (closed : List ViewedTrade) (t : ViewedTrade) :
    absorbOutcome (pairOf closed) t = pairOf (closed ++ [t]) := by
  unfold absorbOutcome pairOf
  simp only [List.length_append, List.length_singleton, List.countP_append,
    List.countP_singleton, List.map_append, List.map_singleton, List.sum_append,
    List.sum_singleton]
  by_cases hwins : Wins t
  · simp [hwins, not_loses_of_wins hwins]
  · by_cases hloses : Loses t <;> simp [hwins, hloses]

theorem foldl_absorbOutcome (closed : List ViewedTrade) :
    closed.foldl absorbOutcome blankPair = pairOf closed := by
  induction closed using List.reverseRecOn with
  | nil =>
      rfl
  | append_singleton closed t ih =>
      rw [List.foldl_append, ih]
      exact absorbOutcome_pairOf closed t

theorem entryOf_outcomes (closed : List ViewedTrade) :
    Grouping.entryOf (fun _ => blankPair) absorbOutcome closed =
      if closed = [] then none else some (pairOf closed) := by
  cases closed with
  | nil =>
      rfl
  | cons t rest =>
      rw [if_neg (List.cons_ne_nil t rest), <- foldl_absorbOutcome]
      rfl

theorem entryOf_reasons (closed : List ViewedTrade) :
    Grouping.entryOf (fun _ => 0) (fun (n : Nat) (_ : ViewedTrade) => n + 1) closed =
      if closed = [] then none else some closed.length := by
  have hcount : forall (xs : List ViewedTrade) (n : Nat),
      xs.foldl (fun n _ => n + 1) n = n + xs.length := by
    intro xs
    induction xs with
    | nil =>
        intro n
        rfl
    | cons x rest ih =>
        intro n
        rw [List.foldl_cons, ih, List.length_cons]
        omega
  cases closed with
  | nil =>
      rfl
  | cons t rest =>
      rw [if_neg (List.cons_ne_nil t rest)]
      change some ((t :: rest).foldl (fun n _ => n + 1) 0) = _
      rw [hcount, Nat.zero_add]

theorem mem_pairGroups {closed : List ViewedTrade} {symbol : String} {p : PairStats}
    (h : (symbol, p) ∈ pairGroups closed) :
    p = pairOf (itemsOf ViewedTrade.symbol closed symbol) := by
  rw [pairGroups, Grouping.mem_groupBy, entryOf_outcomes] at h
  split_ifs at h
  exact (Option.some.inj h).symm

theorem mem_reasonGroups {closed : List ViewedTrade} {reason : String} {n : Nat}
    (h : (reason, n) ∈ reasonGroups closed) :
    n = (itemsOf exitReasonOf closed reason).length := by
  rw [reasonGroups, Grouping.mem_groupBy, entryOf_reasons] at h
  split_ifs at h
  exact (Option.some.inj h).symm

/-!
# The breakdown by pair
-/

def pairAlone (trades : List ViewedTrade) (symbol : String) : Option PairStats :=
  let own := trades.filter fun t => decide (t.symbol = symbol)
  if (compute own).closedTrades = 0 then none
  else
    some
      { trades := (compute own).closedTrades
        wins := (compute own).wins
        losses := (compute own).losses
        winRate := (compute own).winRate
        totalPnl := (compute own).totalPnl
        avgPnl := roundTo 100 (average ((outcomes own).map result)) }

/-- The breakdowns share out the closed trades: each pair has the figures of its own trades,
counts add up and amounts do up to their rounding. -/
structure SplitUp (trades : List ViewedTrade) (stats : LiveStats) : Prop where
  once : (stats.perPair.map Prod.fst).Nodup
  alone : forall symbol, stats.perPair.get symbol = pairAlone trades symbol
  counts : (stats.perPair.map fun entry => entry.2.trades).sum = stats.closedTrades
  wins : (stats.perPair.map fun entry => entry.2.wins).sum = stats.wins
  losses : (stats.perPair.map fun entry => entry.2.losses).sum = stats.losses
  amounts : |(stats.perPair.map fun entry => entry.2.totalPnl).sum - stats.totalPnl| ≤
    ((stats.perPair.length : ℚ) + 1) / 200
  reasons : (stats.exitReasons.map Prod.snd).sum = stats.closedTrades
  reason : forall reason, (stats.exitReasons.get reason).getD 0 =
    (outcomes trades).countP fun t => decide (exitReasonOf t = reason)
  rate : 0 ≤ stats.winRate ∧ stats.winRate ≤ 100

section Split

variable (trades : List ViewedTrade)

theorem outcomes_symbol (symbol : String) :
    outcomes (trades.filter fun t => decide (t.symbol = symbol)) =
      itemsOf ViewedTrade.symbol (outcomes trades) symbol := by
  unfold outcomes itemsOf
  rw [List.filter_filter, List.filter_filter]
  apply List.filter_congr
  intro t _
  exact Bool.and_comm _ _

theorem finishPair_pairOf (closed : List ViewedTrade) :
    finishPair (pairOf closed) =
      { trades := closed.length
        wins := closed.countP fun t => decide (Wins t)
        losses := closed.countP fun t => decide (Loses t)
        winRate := roundTo 10 (percent (closed.countP fun t => decide (Wins t)) closed.length)
        totalPnl := roundTo 100 (closed.map result).sum
        avgPnl := roundTo 100 (average (closed.map result)) } := by
  unfold finishPair pairOf average
  simp only [List.length_map]

theorem get_perPair (symbol : String) :
    (compute trades).perPair.get symbol = pairAlone trades symbol := by
  have hget : (compute trades).perPair.get symbol =
      ((pairGroups (outcomes trades)).get symbol).map finishPair :=
    InsertionMap.get_map (fun _ => finishPair) (pairGroups (outcomes trades)) symbol
  have hlength : forall own, (compute own).closedTrades = (outcomes own).length := fun _ => rfl
  rw [hget, pairGroups, Grouping.get_groupBy, entryOf_outcomes]
  unfold pairAlone
  dsimp only
  rw [hlength, outcomes_symbol]
  by_cases hnone : itemsOf ViewedTrade.symbol (outcomes trades) symbol = []
  · rw [hnone, if_pos rfl, if_pos List.length_nil]
    rfl
  · rw [if_neg hnone, if_neg (fun h => hnone (List.eq_nil_of_length_eq_zero h)), Option.map_some,
      finishPair_pairOf]
    unfold compute
    simp only [outcomes_symbol, List.countP_eq_length_filter]

theorem sum_pairs {amount : Type} [AddCommMonoid amount] (weight : ViewedTrade -> amount)
    (figure : PairStats -> amount)
    (h : forall closed, figure (pairOf closed) = (closed.map weight).sum) :
    ((pairGroups (outcomes trades)).map fun entry => figure entry.2).sum =
      ((outcomes trades).map weight).sum := by
  apply Grouping.sum_groupBy
  intro symbol p hmem
  rw [mem_pairGroups hmem, h]
  rfl

theorem countP_eq_sum (p : ViewedTrade -> Bool) (closed : List ViewedTrade) :
    closed.countP p = (closed.map fun t => if p t = true then 1 else 0).sum := by
  induction closed with
  | nil =>
      rfl
  | cons t rest ih =>
      rw [List.countP_cons, List.map_cons, List.sum_cons, ih, Nat.add_comm]

theorem length_eq_sum (closed : List ViewedTrade) :
    closed.length = (closed.map fun _ => 1).sum := by
  simp

theorem percent_bounds {part whole : Nat} (h : part ≤ whole) :
    0 ≤ percent part whole ∧ percent part whole ≤ 100 := by
  unfold percent
  split_ifs with hpos
  · have hwhole : (0 : ℚ) < whole := by
      exact_mod_cast hpos
    have hpart : (part : ℚ) ≤ whole := by
      exact_mod_cast h
    refine ⟨by positivity, ?_⟩
    have hratio : (part : ℚ) / whole ≤ 1 := (div_le_one hwhole).mpr hpart
    linarith
  · exact ⟨le_rfl, by norm_num⟩

theorem winRate_bounds : 0 ≤ (compute trades).winRate ∧ (compute trades).winRate ≤ 100 := by
  have hbounds := percent_bounds (List.length_filter_le (fun t => decide (Wins t))
    (outcomes trades))
  have hzero : roundTo 10 0 = 0 := by
    decide +kernel
  have hfull : roundTo 10 100 = 100 := by
    decide +kernel
  have hmono := roundTo_mono (by norm_num : (0 : ℚ) < 10)
  have hlow := hmono hbounds.1
  have hhigh := hmono hbounds.2
  rw [hzero] at hlow
  rw [hfull] at hhigh
  exact ⟨hlow, hhigh⟩

end Split

/-- Over any trades, the breakdowns by pair and by exit reason share out the closed ones. -/
theorem statistics_split_up (trades : List ViewedTrade) : SplitUp trades (compute trades) where
  once := by
    have hkeys : (compute trades).perPair.map Prod.fst =
        (pairGroups (outcomes trades)).map Prod.fst := by
      unfold compute
      rw [List.map_map]
      rfl
    rw [hkeys]
    exact Grouping.nodup_groupBy _
  alone := get_perPair trades
  counts := by
    change (List.map _ (List.map _ (pairGroups (outcomes trades)))).sum = (outcomes trades).length
    rw [List.map_map, length_eq_sum]
    exact sum_pairs trades (fun _ => 1) PairStats.trades fun closed => length_eq_sum closed
  wins := by
    change (List.map _ (List.map _ (pairGroups (outcomes trades)))).sum =
      ((outcomes trades).filter fun t => decide (Wins t)).length
    rw [List.map_map, <- List.countP_eq_length_filter, countP_eq_sum]
    exact sum_pairs trades _ PairStats.wins fun closed => countP_eq_sum _ closed
  losses := by
    change (List.map _ (List.map _ (pairGroups (outcomes trades)))).sum =
      ((outcomes trades).filter fun t => decide (Loses t)).length
    rw [List.map_map, <- List.countP_eq_length_filter, countP_eq_sum]
    exact sum_pairs trades _ PairStats.losses fun closed => countP_eq_sum _ closed
  amounts := by
    have hsum := sum_pairs trades result PairStats.totalPnl fun _ => rfl
    have hround := abs_sum_roundTo_sub_roundTo_le (by norm_num : (0 : ℚ) < 100)
      ((pairGroups (outcomes trades)).map fun entry => entry.2.totalPnl)
    rw [hsum, List.length_map, List.map_map] at hround
    have hlength : (compute trades).perPair.length = (pairGroups (outcomes trades)).length :=
      List.length_map _
    change |(List.map _ (List.map _ (pairGroups (outcomes trades)))).sum -
      roundTo 100 ((outcomes trades).map result).sum| ≤ _
    rw [hlength, List.map_map]
    exact hround.trans (le_of_eq (by ring))
  reasons := by
    change (List.map Prod.snd (reasonGroups (outcomes trades))).sum = (outcomes trades).length
    rw [length_eq_sum]
    refine Grouping.sum_groupBy (fun _ => 1) (fun n => n) ?_
    intro reason n hmem
    rw [mem_reasonGroups hmem, length_eq_sum]
    rfl
  reason := by
    intro reason
    change ((reasonGroups (outcomes trades)).get reason).getD 0 = _
    rw [reasonGroups, Grouping.get_groupBy, entryOf_reasons, List.countP_eq_length_filter]
    change _ = (itemsOf exitReasonOf (outcomes trades) reason).length
    split_ifs with hnone
    · rw [hnone]
      rfl
    · rfl
  rate := winRate_bounds trades

end Live
end Shamarx
