import Mathlib.Order.Bounds.Basic
import Shamarx.Engine.Anchors
import Shamarx.Foundation.Weekdays

/-!
# Anchor ranges

What the anchor levels are meant to be: the extremes of the candles of three calendar
periods.  The pass reaches them newest first and stops early.
-/

namespace Shamarx
namespace Engine

open Foundation

/-!
# Extremes of a set of candles
-/

/-- The range of the candles with a property: none where there is no such candle. -/
def Covers (S : BacktestCandle -> Prop) : Option Range -> Prop
  | none => forall c, ¬ S c
  | some r =>
      IsGreatest { x | exists c, S c ∧ c.high = x } r.high ∧
        IsLeast { x | exists c, S c ∧ c.low = x } r.low

section Covers

variable {S S' : BacktestCandle -> Prop} {r : Option Range} {c : BacktestCandle}

theorem Covers.congr (h : Covers S r) (hiff : forall c, S c <-> S' c) : Covers S' r := by
  have heq : S = S' := funext fun c => propext (hiff c)
  rw [<- heq]
  exact h

theorem values_or_eq (f : BacktestCandle -> ℚ) :
    { y | exists x, (S x ∨ x = c) ∧ f x = y } = insert (f c) { y | exists x, S x ∧ f x = y } := by
  ext y
  rw [Set.mem_insert_iff]
  constructor
  · intro hy
    rcases hy with ⟨x, hx | rfl, rfl⟩
    · exact Or.inr ⟨x, hx, rfl⟩
    · exact Or.inl rfl
  · intro hy
    rcases hy with rfl | ⟨x, hx, rfl⟩
    · exact ⟨c, Or.inr rfl, rfl⟩
    · exact ⟨x, Or.inl hx, rfl⟩

theorem Covers.widen (h : Covers S r) (c : BacktestCandle) :
    Covers (fun x => S x ∨ x = c) (widen r c) := by
  cases r with
  | none =>
      have hnone : forall f : BacktestCandle -> ℚ, { y | exists x, S x ∧ f x = y } = ∅ := by
        intro f
        apply Set.eq_empty_of_forall_notMem
        intro y hy
        rcases hy with ⟨x, hx, _⟩
        exact h x hx
      constructor
      · rw [values_or_eq, hnone, insert_empty_eq]
        exact isGreatest_singleton
      · rw [values_or_eq, hnone, insert_empty_eq]
        exact isLeast_singleton
  | some r =>
      constructor
      · rw [values_or_eq, max_comm]
        exact h.1.insert c.high
      · rw [values_or_eq, min_comm]
        exact h.2.insert c.low

end Covers

/-!
# The three periods
-/

structure Period where
  start : Int
  stop : Int

def Period.Mem (p : Period) (u : Int) : Prop :=
  p.start ≤ u ∧ u < p.stop

def previousDay (t : Int) : Period :=
  { start := dayStart (dayOf t - 1), stop := dayStart (dayOf t) }

def asianSession (t : Int) : Period :=
  { start := dayStart (dayOf t - 1) + 22 * msPerHour
    stop := dayStart (dayOf t) + 6 * msPerHour }

def previousWeek (t : Int) : Period :=
  { start := dayStart (mondayOf (dayOf t) - 7), stop := dayStart (mondayOf (dayOf t)) }

theorem mem_previousDay (t u : Int) : (previousDay t).Mem u <-> dayOf u = dayOf t - 1 := by
  unfold Period.Mem previousDay dayStart dayOf msPerDay
  dsimp only
  omega

theorem thisWeekStart_eq (t : Int) : thisWeekStart t = (previousWeek t).stop := by
  unfold thisWeekStart previousWeek mondayOf weekdayOf dayStart msPerDay
  dsimp only
  omega

theorem lastWeekStart_eq (t : Int) : lastWeekStart t = (previousWeek t).start := by
  unfold lastWeekStart
  rw [thisWeekStart_eq]
  unfold previousWeek dayStart msPerDay
  dsimp only
  omega

theorem periods_start (t : Int) :
    lastWeekStart t - 2 * msPerDay ≤ (previousDay t).start ∧
      lastWeekStart t - 2 * msPerDay ≤ (asianSession t).start ∧
      lastWeekStart t - 2 * msPerDay ≤ (previousWeek t).start := by
  rw [lastWeekStart_eq]
  unfold previousWeek previousDay asianSession mondayOf dayStart msPerDay msPerHour
  dsimp only
  omega

/-!
# The pass
-/

/-- The levels are the ranges of the candles with a property in the three periods. -/
structure AnchorsCover (t : Int) (S : BacktestCandle -> Prop) (levels : AnchorLevels) : Prop where
  previousDay : Covers (fun c => S c ∧ (previousDay t).Mem c.openTime) levels.previousDay
  asian : Covers (fun c => S c ∧ (asianSession t).Mem c.openTime) levels.asian
  weekly : Covers (fun c => S c ∧ (previousWeek t).Mem c.openTime) levels.weekly

section Pass

variable {t : Int} {S S' : BacktestCandle -> Prop} {levels : AnchorLevels}

theorem noAnchors_cover (t : Int) : AnchorsCover t (fun _ => False) noAnchors where
  previousDay _ h := h.1
  asian _ h := h.1
  weekly _ h := h.1

theorem AnchorsCover.congr (h : AnchorsCover t S levels)
    (hiff : forall c, lastWeekStart t - 2 * msPerDay ≤ c.openTime -> (S c <-> S' c)) :
    AnchorsCover t S' levels where
  previousDay := h.previousDay.congr fun c => and_congr_left fun hmem =>
    hiff c (le_trans (periods_start t).1 hmem.1)
  asian := h.asian.congr fun c => and_congr_left fun hmem =>
    hiff c (le_trans (periods_start t).2.1 hmem.1)
  weekly := h.weekly.congr fun c => and_congr_left fun hmem =>
    hiff c (le_trans (periods_start t).2.2 hmem.1)

theorem covers_absorb {p : Period} {r : Option Range} {Inside : Prop} [Decidable Inside]
    {c : BacktestCandle} (hinside : Inside <-> p.Mem c.openTime)
    (h : Covers (fun x => S x ∧ p.Mem x.openTime) r) :
    Covers (fun x => (S x ∨ x = c) ∧ p.Mem x.openTime) (if Inside then widen r c else r) := by
  split_ifs with hin
  · refine (h.widen c).congr ?_
    intro x
    constructor
    · intro hx
      rcases hx with hx | rfl
      · exact ⟨Or.inl hx.1, hx.2⟩
      · exact ⟨Or.inr rfl, hinside.mp hin⟩
    · intro hx
      rcases hx with ⟨hx | rfl, hmem⟩
      · exact Or.inl ⟨hx, hmem⟩
      · exact Or.inr rfl
  · refine h.congr ?_
    intro x
    constructor
    · intro hx
      exact ⟨Or.inl hx.1, hx.2⟩
    · intro hx
      rcases hx with ⟨hx | rfl, hmem⟩
      · exact ⟨hx, hmem⟩
      · exact absurd (hinside.mpr hmem) hin

theorem AnchorsCover.absorb (h : AnchorsCover t S levels) (c : BacktestCandle) :
    AnchorsCover t (fun x => S x ∨ x = c) (absorbCandle t levels c) where
  previousDay := covers_absorb (mem_previousDay t c.openTime).symm h.previousDay
  asian := covers_absorb Iff.rfl h.asian
  weekly := by
    refine covers_absorb ?_ h.weekly
    rw [lastWeekStart_eq, thisWeekStart_eq]
    exact Iff.rfl

/-- The pass covers every candle before the instant: those behind its early end are older
than every period. -/
theorem AnchorsCover.pass {candles : List BacktestCandle}
    (hdesc : candles.Pairwise fun a b => b.openTime < a.openTime) (h : AnchorsCover t S levels) :
    AnchorsCover t (fun c => S c ∨ (c ∈ candles ∧ c.openTime < t))
      (anchorPass t candles levels) := by
  induction candles generalizing S levels with
  | nil =>
      refine h.congr ?_
      intro c _
      simp
  | cons c older ih =>
      rw [List.pairwise_cons] at hdesc
      rw [anchorPass]
      split_ifs with hlater hend
      · refine (ih hdesc.2 h).congr ?_
        intro x _
        rw [List.mem_cons]
        constructor
        · intro hx
          exact hx.imp_right fun hx => ⟨Or.inr hx.1, hx.2⟩
        · intro hx
          rcases hx with hx | ⟨rfl | hx, hbefore⟩
          · exact Or.inl hx
          · exact absurd hlater (not_le.mpr hbefore)
          · exact Or.inr ⟨hx, hbefore⟩
      · refine (h.absorb c).congr ?_
        intro x hx
        rw [List.mem_cons]
        constructor
        · intro hold
          exact hold.imp_right fun heq => ⟨Or.inl heq, heq ▸ not_le.mp hlater⟩
        · intro hold
          rcases hold with hold | ⟨heq | hold, _⟩
          · exact Or.inl hold
          · exact Or.inr heq
          · have holder := hdesc.1 x hold
            exact absurd hx (not_le.mpr (lt_trans holder hend))
      · refine (ih hdesc.2 (h.absorb c)).congr ?_
        intro x _
        rw [List.mem_cons]
        constructor
        · intro hx
          rcases hx with (hx | heq) | ⟨hx, hbefore⟩
          · exact Or.inl hx
          · exact Or.inr ⟨Or.inl heq, heq ▸ not_le.mp hlater⟩
          · exact Or.inr ⟨Or.inr hx, hbefore⟩
        · intro hx
          rcases hx with hx | ⟨heq | hx, hbefore⟩
          · exact Or.inl (Or.inl hx)
          · exact Or.inl (Or.inr heq)
          · exact Or.inr ⟨hx, hbefore⟩

theorem anchorPass_filter (t : Int) (candles : List BacktestCandle) (levels : AnchorLevels) :
    anchorPass t (candles.filter fun c => decide (c.openTime < t)) levels =
      anchorPass t candles levels := by
  induction candles generalizing levels with
  | nil =>
      rfl
  | cons c older ih =>
      rw [List.filter_cons]
      by_cases hlater : t ≤ c.openTime
      · rw [if_neg (by simpa using hlater), ih, anchorPass, if_pos hlater]
      · rw [if_pos (by simpa using hlater), anchorPass, anchorPass, if_neg hlater,
          if_neg hlater]
        dsimp only
        split_ifs
        · rfl
        · exact ih _

theorem getAnchorLevels_filter (candles : List BacktestCandle) (t : Int) :
    getAnchorLevels (candles.filter fun c => decide (c.openTime < t)) t =
      getAnchorLevels candles t := by
  rw [getAnchorLevels, <- List.filter_reverse, anchorPass_filter]
  rfl

end Pass

/-- The levels are the ranges of the candles before the instant in the three periods, and
candles from the instant on change nothing. -/
theorem anchor_levels_exact {h1Candles : List BacktestCandle}
    (hasc : h1Candles.Pairwise fun a b => a.openTime < b.openTime) (t : Int) :
    AnchorsCover t (fun c => c ∈ h1Candles ∧ c.openTime < t) (getAnchorLevels h1Candles t) ∧
      forall more : List BacktestCandle,
        (more.filter fun c => decide (c.openTime < t)) =
            (h1Candles.filter fun c => decide (c.openTime < t)) ->
          getAnchorLevels more t = getAnchorLevels h1Candles t := by
  constructor
  · refine ((noAnchors_cover t).pass (List.pairwise_reverse.mpr hasc)).congr ?_
    intro c _
    rw [false_or, List.mem_reverse]
  · intro more hsame
    rw [<- getAnchorLevels_filter more, hsame, getAnchorLevels_filter]

/-- A candle of the week before, one of the evening before and one too late, on a Thursday
at noon. -/
def thursdayCandles : List BacktestCandle :=
  [⟨dayStart 5 + 9 * msPerHour, 10, 14, 9, 12⟩, ⟨dayStart 13 + 23 * msPerHour, 12, 13, 11, 12⟩,
    ⟨dayStart 14 + 12 * msPerHour, 12, 20, 5, 12⟩]

theorem anchor_levels_exact_thursday :
    AnchorsCover (dayStart 14 + 12 * msPerHour)
        (fun c => c ∈ thursdayCandles ∧ c.openTime < dayStart 14 + 12 * msPerHour)
        (getAnchorLevels thursdayCandles (dayStart 14 + 12 * msPerHour)) ∧
      getAnchorLevels thursdayCandles (dayStart 14 + 12 * msPerHour) =
        { previousDay := some ⟨13, 11⟩, asian := some ⟨13, 11⟩, weekly := some ⟨14, 9⟩ } := by
  constructor
  · exact (anchor_levels_exact (by decide +kernel) _).1
  · decide +kernel

end Engine
end Shamarx
