import Mathlib.Algebra.Order.Ring.Unbundled.Rat
import Shamarx.Engine.Types
import Shamarx.Foundation.Calendar

/-!
# Anchor levels

Previous-day, Asian-session and previous-week ranges at an instant.  The source
starts each range at infinities with a found flag; a range here is an optional
pair of its high and low.
-/

namespace Shamarx
namespace Engine

open Foundation

structure Range where
  high : ℚ
  low : ℚ
  deriving DecidableEq

def widen (r : Option Range) (c : BacktestCandle) : Option Range :=
  match r with
  | none => some ⟨c.high, c.low⟩
  | some r => some ⟨max r.high c.high, min r.low c.low⟩

structure AnchorLevels where
  previousDay : Option Range
  asian : Option Range
  weekly : Option Range
  deriving DecidableEq

def noAnchors : AnchorLevels :=
  { previousDay := none, asian := none, weekly := none }

def asianStart (t : Int) : Int :=
  dayStart (dayOf t - 1) + 22 * msPerHour

def asianEnd (t : Int) : Int :=
  dayStart (dayOf t) + 6 * msPerHour

def thisWeekStart (t : Int) : Int :=
  dayStart (dayOf t - (weekdayOf (dayOf t) + 6) % 7)

def lastWeekStart (t : Int) : Int :=
  thisWeekStart t - 7 * msPerDay

def absorbCandle (t : Int) (acc : AnchorLevels) (c : BacktestCandle) : AnchorLevels :=
  { previousDay :=
      if dayOf c.openTime = dayOf t - 1 then widen acc.previousDay c else acc.previousDay
    asian :=
      if asianStart t ≤ c.openTime ∧ c.openTime < asianEnd t then widen acc.asian c
      else acc.asian
    weekly :=
      if lastWeekStart t ≤ c.openTime ∧ c.openTime < thisWeekStart t then
        widen acc.weekly c
      else acc.weekly }

/-- The pass over the candles, newest first: candles from `t` on are skipped,
and the pass stops at the first one two days before the previous week. -/
def anchorPass (t : Int) : List BacktestCandle -> AnchorLevels -> AnchorLevels
  | [], acc => acc
  | c :: older, acc =>
      if t ≤ c.openTime then anchorPass t older acc
      else
        let acc := absorbCandle t acc c
        if c.openTime < lastWeekStart t - 2 * msPerDay then acc
        else anchorPass t older acc

def getAnchorLevels (h1Candles : List BacktestCandle) (currentTime : Int) :
    AnchorLevels :=
  anchorPass currentTime h1Candles.reverse noAnchors

/-!
# Candles from the instant on do not count
-/

theorem anchorPass_skip (t : Int) {front : List BacktestCandle}
    (hfront : forall c, c ∈ front -> t ≤ c.openTime) (older : List BacktestCandle)
    (acc : AnchorLevels) :
    anchorPass t (front ++ older) acc = anchorPass t older acc := by
  induction front with
  | nil =>
      rfl
  | cons c rest ih =>
      have hc : t ≤ c.openTime := hfront c List.mem_cons_self
      rw [List.cons_append, anchorPass, if_pos hc]
      exact ih fun c' hc' => hfront c' (List.mem_cons_of_mem c hc')

theorem getAnchorLevels_append (past future : List BacktestCandle) (t : Int)
    (hfuture : forall c, c ∈ future -> t ≤ c.openTime) :
    getAnchorLevels (past ++ future) t = getAnchorLevels past t := by
  unfold getAnchorLevels
  rw [List.reverse_append]
  refine anchorPass_skip t ?_ past.reverse noAnchors
  intro c hc
  exact hfuture c (List.mem_reverse.mp hc)

end Engine
end Shamarx
