import Mathlib.Data.List.MinMax
import Mathlib.Tactic.Linarith
import Mathlib.Algebra.Order.Field.Rat
import Mathlib.Tactic.Positivity
import Shamarx.Foundation.Calendar

/-!
# The summary of a user

The figures above the dashboard, over all accounts of a user.  The equity snapshots of the
accounts are read as one series, in the order of their times.
-/

namespace Shamarx
namespace Live

open Foundation

structure EquitySnapshot where
  accountId : Option String
  takenAt : Int
  equity : ℚ
  deriving DecidableEq

structure SummaryTrade where
  accountId : Option String
  status : String
  exitReason : Option String
  pnl : Option ℚ
  symbol : String
  entryPrice : ℚ
  slPrice : ℚ
  lotSize : ℚ

structure UserSummary where
  netReturnPct : ℚ
  mtdPct : ℚ
  winRate : ℚ
  maxDd : ℚ
  expectancy : ℚ
  tradesCount : Nat
  equity : ℚ

/-!
# The queries
-/

def Owned (accountIds : List String) (accountId : Option String) : Prop :=
  exists a, a ∈ accountIds ∧ accountId = some a

instance (accountIds : List String) (accountId : Option String) :
    Decidable (Owned accountIds accountId) :=
  inferInstanceAs (Decidable (exists a, a ∈ accountIds ∧ accountId = some a))

def ownedSnapshots (accountIds : List String) (table : List EquitySnapshot) :
    List EquitySnapshot :=
  table.filter fun r => decide (Owned accountIds r.accountId)

def closedTrades (accountIds : List String) (table : List SummaryTrade) : List SummaryTrade :=
  table.filter fun t => decide (Owned accountIds t.accountId ∧ t.status = "CLOSED" ∧
    t.exitReason ≠ some "ORPHAN")

def startOfMonth (now : Int) : Int :=
  dayStart (daysFromCivil (yearOf (dayOf now)) (monthOf (dayOf now)) 1)

structure SnapshotReads where
  latest : Option EquitySnapshot
  first : Option EquitySnapshot
  mtdFirst : Option EquitySnapshot
  all : List EquitySnapshot

def IsFirst (rows : List EquitySnapshot) : Option EquitySnapshot -> Prop
  | none => rows = []
  | some r => r ∈ rows ∧ forall s, s ∈ rows -> r.takenAt ≤ s.takenAt

def IsLatest (rows : List EquitySnapshot) : Option EquitySnapshot -> Prop
  | none => rows = []
  | some r => r ∈ rows ∧ forall s, s ∈ rows -> s.takenAt ≤ r.takenAt

instance (rows : List EquitySnapshot) : (o : Option EquitySnapshot) -> Decidable (IsFirst rows o)
  | none => inferInstanceAs (Decidable (rows = []))
  | some r =>
      inferInstanceAs (Decidable (r ∈ rows ∧ forall s, s ∈ rows -> r.takenAt ≤ s.takenAt))

instance (rows : List EquitySnapshot) : (o : Option EquitySnapshot) -> Decidable (IsLatest rows o)
  | none => inferInstanceAs (Decidable (rows = []))
  | some r =>
      inferInstanceAs (Decidable (r ∈ rows ∧ forall s, s ∈ rows -> s.takenAt ≤ r.takenAt))

structure Answers (rows : List EquitySnapshot) (now : Int) (reads : SnapshotReads) : Prop where
  latest : IsLatest rows reads.latest
  first : IsFirst rows reads.first
  mtdFirst : IsFirst (rows.filter fun r => decide (startOfMonth now ≤ r.takenAt)) reads.mtdFirst
  all : reads.all.Perm rows
  ordered : reads.all.Pairwise fun r s => r.takenAt ≤ s.takenAt

/-!
# The figures
-/

def returnPct (initial equity : ℚ) : ℚ :=
  if 0 < initial then (equity - initial) / initial * 100 else 0

def equityStep (s : ℚ × ℚ) (equity : ℚ) : ℚ × ℚ :=
  let peak := if s.1 < equity then equity else s.1
  if 0 < peak then
    let dd := (peak - equity) / peak * 100
    (peak, if s.2 < dd then dd else s.2)
  else (peak, s.2)

def equityLoop (equities : List ℚ) : ℚ × ℚ :=
  equities.foldl equityStep (0, 0)

def impliedR (t : SummaryTrade) : Option ℚ :=
  let slDistance := |t.entryPrice - t.slPrice|
  let lotUnits : ℚ := if t.symbol = "XAUUSD" then 100 else 100000
  let riskUsd := slDistance * t.lotSize * lotUnits
  let riskUsd :=
    if t.symbol.endsWith "JPY" = true ∧ 0 < t.entryPrice then riskUsd / t.entryPrice else riskUsd
  if slDistance ≤ 0 then none
  else if 0 < riskUsd then some (t.pnl.getD 0 / riskUsd)
  else none

def average (xs : List ℚ) : ℚ :=
  if 0 < xs.length then xs.sum / xs.length else 0

def snapshot (accountIds : List String) (reads : SnapshotReads) (table : List SummaryTrade) :
    UserSummary :=
  if accountIds = [] then
    { netReturnPct := 0, mtdPct := 0, winRate := 0, maxDd := 0, expectancy := 0
      tradesCount := 0, equity := 0 }
  else
    let equity := reads.latest.elim 0 EquitySnapshot.equity
    let initial := reads.first.elim equity EquitySnapshot.equity
    let mtdInitial := reads.mtdFirst.elim equity EquitySnapshot.equity
    let trades := closedTrades accountIds table
    let wins := (trades.filter fun t => decide (0 < t.pnl.getD 0)).length
    { netReturnPct := returnPct initial equity
      mtdPct := returnPct mtdInitial equity
      winRate := if 0 < trades.length then (wins : ℚ) / trades.length else 0
      maxDd := (equityLoop (reads.all.map EquitySnapshot.equity)).2
      expectancy := average (trades.filterMap impliedR)
      tradesCount := trades.length
      equity := equity }

/-!
# The drawdown loop
-/

/-- The series never falls below a positive value before. -/
def NeverFalls (equities : List ℚ) : Prop :=
  equities.Pairwise fun a b => 0 < a -> a ≤ b

structure Watches (equities : List ℚ) (s : ℚ × ℚ) : Prop where
  peak_nonneg : 0 ≤ s.1
  above : forall a, a ∈ equities -> a ≤ s.1
  reached : s.1 = 0 ∨ s.1 ∈ equities
  dd_nonneg : 0 ≤ s.2
  dd_zero : s.2 = 0 <-> NeverFalls equities

section Loop

variable {equities : List ℚ} {s : ℚ × ℚ}

theorem watches_start : Watches [] (0, 0) where
  peak_nonneg := le_rfl
  above _ ha := by cases ha
  reached := Or.inl rfl
  dd_nonneg := le_rfl
  dd_zero := iff_of_true rfl List.Pairwise.nil

theorem neverFalls_concat (equities : List ℚ) (equity : ℚ) :
    NeverFalls (equities ++ [equity]) <->
      NeverFalls equities ∧ forall a, a ∈ equities -> 0 < a -> a ≤ equity := by
  unfold NeverFalls
  rw [List.pairwise_append]
  simp

theorem Watches.rise (h : Watches equities s) {equity : ℚ} (hrise : s.1 < equity) :
    Watches (equities ++ [equity]) (equity, s.2) where
  peak_nonneg := le_of_lt (lt_of_le_of_lt h.peak_nonneg hrise)
  above a ha := by
    rcases List.mem_append.mp ha with ha | ha
    · exact le_of_lt (lt_of_le_of_lt (h.above a ha) hrise)
    · rw [List.mem_singleton.mp ha]
  reached := Or.inr (by simp)
  dd_nonneg := h.dd_nonneg
  dd_zero := by
    rw [neverFalls_concat, h.dd_zero]
    exact (and_iff_left fun a ha _ => le_of_lt (lt_of_le_of_lt (h.above a ha) hrise)).symm

theorem Watches.fall (h : Watches equities s) {equity dd : ℚ} (hle : equity ≤ s.1)
    (hdd : 0 ≤ dd) (hzero : dd = 0 <-> (0 < s.1 -> s.1 ≤ equity)) :
    Watches (equities ++ [equity]) (s.1, max s.2 dd) where
  peak_nonneg := h.peak_nonneg
  above a ha := by
    rcases List.mem_append.mp ha with ha | ha
    · exact h.above a ha
    · rw [List.mem_singleton.mp ha]
      exact hle
  reached := h.reached.imp_right fun hmem => List.mem_append_left _ hmem
  dd_nonneg := le_trans h.dd_nonneg (le_max_left _ _)
  dd_zero := by
    have hmax : max s.2 dd = 0 <-> s.2 = 0 ∧ dd = 0 := by
      constructor
      · intro heq
        exact ⟨le_antisymm (heq ▸ le_max_left _ _) h.dd_nonneg,
          le_antisymm (heq ▸ le_max_right _ _) hdd⟩
      · intro heq
        rw [heq.1, heq.2, max_self]
    rw [hmax, neverFalls_concat, h.dd_zero, hzero]
    refine and_congr_right fun _ => ?_
    constructor
    · intro htop a ha hpos
      have hunder := h.above a ha
      exact le_trans hunder (htop (lt_of_lt_of_le hpos hunder))
    · intro hall hpos
      rcases h.reached with hstart | hmem
      · exact absurd hstart (ne_of_gt hpos)
      · exact hall s.1 hmem hpos

theorem Watches.step (h : Watches equities s) (equity : ℚ) :
    Watches (equities ++ [equity]) (equityStep s equity) := by
  unfold equityStep
  dsimp only
  by_cases hrise : s.1 < equity
  · have hpos : 0 < equity := lt_of_le_of_lt h.peak_nonneg hrise
    rw [if_pos hrise, if_pos hpos, sub_self, zero_div, zero_mul,
      if_neg (not_lt.mpr h.dd_nonneg)]
    exact h.rise hrise
  · have hle : equity ≤ s.1 := not_lt.mp hrise
    rw [if_neg hrise]
    by_cases hpos : 0 < s.1
    · rw [if_pos hpos, <- max_def_lt]
      refine h.fall hle ?_ ?_
      · have hgap : 0 ≤ s.1 - equity := sub_nonneg.mpr hle
        positivity
      · have hhundred : (100 : ℚ) ≠ 0 := by norm_num
        rw [mul_eq_zero_iff_right hhundred, div_eq_zero_iff, or_iff_left (ne_of_gt hpos),
          sub_eq_zero]
        constructor
        · intro heq _
          exact le_of_eq heq
        · intro htop
          exact le_antisymm (htop hpos) hle
    · have hsame := h.fall hle le_rfl (iff_of_true rfl fun h => absurd h hpos)
      rw [max_eq_left h.dd_nonneg] at hsame
      rw [if_neg hpos]
      exact hsame

theorem watches_equityLoop (equities : List ℚ) : Watches equities (equityLoop equities) := by
  induction equities using List.reverseRecOn with
  | nil =>
      exact watches_start
  | append_singleton equities equity ih =>
      unfold equityLoop
      rw [List.foldl_append]
      exact ih.step equity

end Loop

/-!
# Several accounts in one series
-/

def OwnSeriesRise (rows : List EquitySnapshot) : Prop :=
  forall r, r ∈ rows -> forall s, s ∈ rows -> r.accountId = s.accountId ->
    r.takenAt ≤ s.takenAt -> r.equity ≤ s.equity

instance (rows : List EquitySnapshot) : Decidable (OwnSeriesRise rows) :=
  inferInstanceAs (Decidable (forall r, r ∈ rows -> forall s, s ∈ rows ->
    r.accountId = s.accountId -> r.takenAt ≤ s.takenAt -> r.equity ≤ s.equity))

def NoneBelowAnother (rows : List EquitySnapshot) : Prop :=
  forall r, r ∈ rows -> forall s, s ∈ rows -> r.accountId ≠ s.accountId ->
    r.takenAt ≤ s.takenAt -> 0 < r.equity -> r.equity ≤ s.equity

def ShowsNoFall (summary : UserSummary) : Prop :=
  summary.maxDd = 0 ∧ 0 ≤ summary.netReturnPct ∧ 0 ≤ summary.mtdPct

section Merged

variable {rows : List EquitySnapshot} {now : Int} {reads : SnapshotReads}
  {accountIds : List String}

theorem returnPct_nonneg {initial equity : ℚ} (h : 0 < initial -> initial ≤ equity) :
    0 ≤ returnPct initial equity := by
  unfold returnPct
  split_ifs with hpos
  · have hgain : 0 ≤ equity - initial := sub_nonneg.mpr (h hpos)
    positivity
  · exact le_rfl

theorem NoneBelowAnother.all (h : NoneBelowAnother rows) (hown : OwnSeriesRise rows)
    {r s : EquitySnapshot} (hr : r ∈ rows) (hs : s ∈ rows) (hle : r.takenAt ≤ s.takenAt)
    (hpos : 0 < r.equity) : r.equity ≤ s.equity := by
  by_cases hsame : r.accountId = s.accountId
  · exact hown r hr s hs hsame hle
  · exact h r hr s hs hsame hle hpos

theorem NoneBelowAnother.neverFalls (h : NoneBelowAnother rows) (hown : OwnSeriesRise rows)
    (hans : Answers rows now reads) : NeverFalls (reads.all.map EquitySnapshot.equity) := by
  unfold NeverFalls
  rw [List.pairwise_map]
  refine hans.ordered.imp_of_mem ?_
  intro r s hr hs hle hpos
  exact h.all hown (hans.all.mem_iff.mp hr) (hans.all.mem_iff.mp hs) hle hpos

theorem NoneBelowAnother.returnPct_nonneg (h : NoneBelowAnother rows)
    (hown : OwnSeriesRise rows) {latest start : Option EquitySnapshot}
    (hlatest : IsLatest rows latest) (hstart : forall r, start = some r -> r ∈ rows) :
    0 ≤ returnPct (start.elim (latest.elim 0 EquitySnapshot.equity) EquitySnapshot.equity)
      (latest.elim 0 EquitySnapshot.equity) := by
  apply Live.returnPct_nonneg
  intro hpos
  cases start with
  | none =>
      exact le_rfl
  | some r =>
      have hr := hstart r rfl
      cases latest with
      | none =>
          rw [show rows = [] from hlatest] at hr
          cases hr
      | some s =>
          exact h.all hown hr hlatest.1 (hlatest.2 r hr) hpos

theorem IsFirst.mem {o : Option EquitySnapshot} (h : IsFirst rows o) :
    forall r, o = some r -> r ∈ rows := by
  intro r hr
  rw [hr] at h
  exact h.1

theorem showsNoFall_of_noneBelow (h : NoneBelowAnother rows) (hown : OwnSeriesRise rows)
    (hans : Answers rows now reads) (trades : List SummaryTrade) :
    ShowsNoFall (snapshot accountIds reads trades) := by
  unfold snapshot
  split_ifs with hnone
  · exact ⟨rfl, le_rfl, le_rfl⟩
  · refine ⟨?_, ?_, ?_⟩
    · exact (watches_equityLoop _).dd_zero.mpr (h.neverFalls hown hans)
    · exact h.returnPct_nonneg hown hans.latest hans.first.mem
    · refine h.returnPct_nonneg hown hans.latest ?_
      intro r hr
      exact List.mem_of_mem_filter (hans.mtdFirst.mem r hr)

/-!
# An order that shows a fall
-/

theorem exists_isFirst (rows : List EquitySnapshot) : exists o, IsFirst rows o := by
  cases hmin : rows.argmin EquitySnapshot.takenAt with
  | none =>
      exact ⟨none, List.argmin_eq_none.mp hmin⟩
  | some r =>
      exact ⟨some r, List.argmin_mem hmin, fun s hs => List.le_of_mem_argmin hs hmin⟩

theorem exists_isLatest (rows : List EquitySnapshot) : exists o, IsLatest rows o := by
  cases hmax : rows.argmax EquitySnapshot.takenAt with
  | none =>
      exact ⟨none, List.argmax_eq_none.mp hmax⟩
  | some r =>
      exact ⟨some r, List.argmax_mem hmax, fun s hs => List.le_of_mem_argmax hs hmax⟩

def fallsFirst (r s : EquitySnapshot) : Bool :=
  decide (r.takenAt < s.takenAt ∨ (r.takenAt = s.takenAt ∧ s.equity ≤ r.equity))

theorem fallsFirst_iff {r s : EquitySnapshot} :
    fallsFirst r s = true <->
      r.takenAt < s.takenAt ∨ (r.takenAt = s.takenAt ∧ s.equity ≤ r.equity) :=
  decide_eq_true_iff

theorem fallsFirst_trans {r s u : EquitySnapshot} (hrs : fallsFirst r s = true)
    (hsu : fallsFirst s u = true) : fallsFirst r u = true := by
  rw [fallsFirst_iff] at *
  rcases hrs with hlt | ⟨heq, hle⟩
  · rcases hsu with hlt' | ⟨heq', _⟩
    · exact Or.inl (hlt.trans hlt')
    · exact Or.inl (heq' ▸ hlt)
  · rcases hsu with hlt' | ⟨heq', hle'⟩
    · exact Or.inl (heq ▸ hlt')
    · exact Or.inr ⟨heq.trans heq', hle'.trans hle⟩

theorem fallsFirst_total (r s : EquitySnapshot) :
    fallsFirst r s = true ∨ fallsFirst s r = true := by
  rw [fallsFirst_iff, fallsFirst_iff]
  rcases lt_trichotomy r.takenAt s.takenAt with hlt | heq | hgt
  · exact Or.inl (Or.inl hlt)
  · rcases le_total s.equity r.equity with hle | hle
    · exact Or.inl (Or.inr ⟨heq, hle⟩)
    · exact Or.inr (Or.inr ⟨heq.symm, hle⟩)
  · exact Or.inr (Or.inl hgt)

theorem exists_falling_answer (rows : List EquitySnapshot) (now : Int) :
    exists reads, Answers rows now reads ∧
      reads.all.Pairwise fun r s => fallsFirst r s = true := by
  have hsorted : (rows.mergeSort fallsFirst).Pairwise fun r s => fallsFirst r s = true := by
    apply List.pairwise_mergeSort
    · intro r s u
      exact fallsFirst_trans
    · intro r s
      rw [Bool.or_eq_true]
      exact fallsFirst_total r s
  rcases exists_isLatest rows with ⟨latest, hlatest⟩
  rcases exists_isFirst rows with ⟨first, hfirst⟩
  rcases exists_isFirst (rows.filter fun r => decide (startOfMonth now ≤ r.takenAt)) with
    ⟨mtdFirst, hmtd⟩
  refine
    ⟨{ latest := latest, first := first, mtdFirst := mtdFirst
       all := rows.mergeSort fallsFirst },
      { latest := hlatest
        first := hfirst
        mtdFirst := hmtd
        all := List.mergeSort_perm rows fallsFirst
        ordered := hsorted.imp fun {r s} h => ?_ }, hsorted⟩
  rcases fallsFirst_iff.mp h with hlt | ⟨heq, _⟩
  · exact le_of_lt hlt
  · exact le_of_eq heq

theorem not_neverFalls {all : List EquitySnapshot}
    (hfalling : all.Pairwise fun r s => fallsFirst r s = true) {r s : EquitySnapshot}
    (hr : r ∈ all) (hs : s ∈ all) (hle : r.takenAt ≤ s.takenAt) (hpos : 0 < r.equity)
    (hbelow : s.equity < r.equity) : ¬ NeverFalls (all.map EquitySnapshot.equity) := by
  intro hnever
  unfold NeverFalls at hnever
  rw [List.pairwise_map, List.pairwise_iff_getElem] at hnever
  rw [List.pairwise_iff_getElem] at hfalling
  rcases List.mem_iff_getElem.mp hr with ⟨i, hi, rfl⟩
  rcases List.mem_iff_getElem.mp hs with ⟨j, hj, rfl⟩
  rcases lt_trichotomy i j with hij | rfl | hji
  · exact absurd (hnever i j hi hj hij hpos) (not_le.mpr hbelow)
  · exact lt_irrefl _ hbelow
  · rcases fallsFirst_iff.mp (hfalling j i hj hi hji) with hlt | ⟨_, hge⟩
    · exact absurd hle (not_le.mpr hlt)
    · exact absurd hge (not_le.mpr hbelow)

end Merged

/-- Where each account's own series never falls, the summary shows no fall, whatever the
database's order, if and only if no snapshot lies below a positive one of another
account. -/
theorem summary_showsNoFall_iff (accountIds : List String) (table : List EquitySnapshot)
    (trades : List SummaryTrade) (now : Int)
    (hown : OwnSeriesRise (ownedSnapshots accountIds table)) :
    (forall reads, Answers (ownedSnapshots accountIds table) now reads ->
        ShowsNoFall (snapshot accountIds reads trades)) <->
      NoneBelowAnother (ownedSnapshots accountIds table) := by
  constructor
  · intro h r hr s hs _ hle hpos
    by_contra hbelow
    rcases exists_falling_answer (ownedSnapshots accountIds table) now with
      ⟨reads, hans, hfalling⟩
    have hsome : accountIds ≠ [] := by
      intro hnone
      have howned := of_decide_eq_true (List.mem_filter.mp hr).2
      rcases howned with ⟨a, ha, _⟩
      rw [hnone] at ha
      cases ha
    have hdd := (h reads hans).1
    unfold snapshot at hdd
    rw [if_neg hsome] at hdd
    exact not_neverFalls hfalling (hans.all.mem_iff.mpr hr) (hans.all.mem_iff.mpr hs) hle hpos
      (not_le.mp hbelow) ((watches_equityLoop _).dd_zero.mp hdd)
  · intro h reads hans
    exact showsNoFall_of_noneBelow h hown hans trades

def unequalAccounts : List EquitySnapshot :=
  [⟨some "main", 0, 10000⟩, ⟨some "second", 60000, 100⟩]

theorem summary_showsNoFall_iff_unequalAccounts :
    (forall reads, Answers (ownedSnapshots ["main", "second"] unequalAccounts) 60000 reads ->
        ShowsNoFall (snapshot ["main", "second"] reads [])) <->
      NoneBelowAnother (ownedSnapshots ["main", "second"] unequalAccounts) :=
  summary_showsNoFall_iff ["main", "second"] unequalAccounts [] 60000 (by decide +kernel)

def unequalReads : SnapshotReads :=
  { latest := some ⟨some "second", 60000, 100⟩
    first := some ⟨some "main", 0, 10000⟩
    mtdFirst := some ⟨some "main", 0, 10000⟩
    all := unequalAccounts }

/-- Neither account has lost anything, and the summary shows a loss of 99 percent. -/
theorem unequalAccounts_show_fall :
    OwnSeriesRise (ownedSnapshots ["main", "second"] unequalAccounts) ∧
      ¬ forall reads, Answers (ownedSnapshots ["main", "second"] unequalAccounts) 60000 reads ->
        ShowsNoFall (snapshot ["main", "second"] reads []) := by
  constructor
  · decide +kernel
  · intro h
    have hans : Answers (ownedSnapshots ["main", "second"] unequalAccounts) 60000
        unequalReads :=
      { latest := by decide +kernel
        first := by decide +kernel
        mtdFirst := by decide +kernel
        all := by decide +kernel
        ordered := by decide +kernel }
    have hshown : (snapshot ["main", "second"] unequalReads []).netReturnPct = -99 := by
      decide +kernel
    have hnofall := (h unequalReads hans).2.1
    rw [hshown] at hnofall
    exact absurd hnofall (by norm_num)

end Live
end Shamarx
