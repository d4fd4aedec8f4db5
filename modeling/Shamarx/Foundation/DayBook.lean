import Mathlib.Algebra.BigOperators.Group.List.Basic
import Mathlib.Data.List.TakeWhile
import Mathlib.Order.Lattice

/-!
# Day books

A book of rows, one for each day with a total and a streak, the entries that were
booked in it and those that are still due.  A row is exact when its total is the sum
of the day's entries and its streak counts the entries at the end of the history that
have a property; a due entry that ends the streak makes up for a wrong one.
-/

namespace Shamarx
namespace Foundation
namespace DayBook

structure DayRow (date amount : Type) where
  day : date
  total : amount
  streak : Nat

structure Entry (date amount : Type) where
  day : date
  amount : amount

/-!
# Runs at the end of a list
-/

def trailingRun (p : entry -> Bool) (xs : List entry) : Nat :=
  (xs.reverse.takeWhile p).length

@[simp] theorem trailingRun_nil (p : entry -> Bool) : trailingRun p [] = 0 := rfl

theorem trailingRun_append_singleton (p : entry -> Bool) (xs : List entry) (x : entry) :
    trailingRun p (xs ++ [x]) = if p x then trailingRun p xs + 1 else 0 := by
  unfold trailingRun
  rw [List.reverse_append, List.reverse_singleton, List.singleton_append, List.takeWhile_cons]
  split_ifs
  · exact List.length_cons
  · rfl

/-!
# Exact books
-/

section Exact

variable {date amount : Type} [LinearOrder date] [AddCommMonoid amount]

def dayTotal (entries : List (Entry date amount)) (day : date) : amount :=
  ((entries.filter fun e => decide (e.day = day)).map Entry.amount).sum

def upTo (entries : List (Entry date amount)) (day : date) : List (Entry date amount) :=
  entries.filter fun e => decide (e.day ≤ day)

def streakOf (counts : amount -> Bool) (entries : List (Entry date amount)) : Nat :=
  trailingRun (fun e => counts e.amount) entries

def EndsBy (counts : amount -> Bool) (due : List (Entry date amount)) (day : date) : Prop :=
  exists e, e ∈ due ∧ counts e.amount = false ∧ e.day ≤ day

/-- Rows in the order of their days, each day of an entry among them, and every row
exact but for a streak that ends. -/
structure Exact (counts : amount -> Bool) (due : List (Entry date amount))
    (rows : List (DayRow date amount)) (entries : List (Entry date amount)) : Prop where
  sorted : rows.Pairwise fun a b => a.day < b.day
  covered : forall e, e ∈ entries -> exists r, r ∈ rows ∧ r.day = e.day
  total : forall r, r ∈ rows -> r.total = dayTotal entries r.day
  streak : forall r, r ∈ rows ->
    r.streak = streakOf counts (upTo entries r.day) ∨ EndsBy counts due r.day

def latestStreak (rows : List (DayRow date amount)) : Nat :=
  (rows.getLast?.map DayRow.streak).getD 0

variable {counts : amount -> Bool} {due : List (Entry date amount)}
  {rows : List (DayRow date amount)} {row : DayRow date amount}
  {entries : List (Entry date amount)}

theorem exact_nil (counts : amount -> Bool) (due : List (Entry date amount)) :
    Exact counts due [] [] where
  sorted := List.Pairwise.nil
  covered := by simp
  total := by simp
  streak := by simp

omit [AddCommMonoid amount] in
theorem EndsBy.mono {day later : date} {due' : List (Entry date amount)}
    (h : EndsBy counts due day) (hdue : forall e, e ∈ due -> e ∈ due') (hday : day ≤ later) :
    EndsBy counts due' later := by
  rcases h with ⟨e, he, hends, hle⟩
  exact ⟨e, hdue e he, hends, hle.trans hday⟩

theorem Exact.moreDue (h : Exact counts due rows entries) {due' : List (Entry date amount)}
    (hdue : forall e, e ∈ due -> e ∈ due') : Exact counts due' rows entries where
  sorted := h.sorted
  covered := h.covered
  total := h.total
  streak r hr := (h.streak r hr).imp_right fun hends => hends.mono hdue le_rfl

theorem Exact.day_le_last (h : Exact counts due (rows ++ [row]) entries) {r : DayRow date amount}
    (hr : r ∈ rows ++ [row]) : r.day ≤ row.day := by
  rcases List.mem_append.mp hr with hold | hlast
  · exact ((List.pairwise_append.mp h.sorted).2.2 r hold row (List.mem_singleton_self row)).le
  · rw [List.mem_singleton.mp hlast]

theorem Exact.entry_day_le_last (h : Exact counts due (rows ++ [row]) entries)
    {e : Entry date amount} (he : e ∈ entries) : e.day ≤ row.day := by
  rcases h.covered e he with ⟨r, hr, hday⟩
  exact hday ▸ h.day_le_last hr

omit [AddCommMonoid amount] in
theorem upTo_of_le {day : date} (h : forall e, e ∈ entries -> e.day ≤ day) :
    upTo entries day = entries :=
  List.filter_eq_self.mpr fun e he => decide_eq_true (h e he)

theorem dayTotal_of_ne {day : date} (h : forall e, e ∈ entries -> e.day ≠ day) :
    dayTotal entries day = 0 := by
  have hnone : (entries.filter fun e => decide (e.day = day)) = [] := by
    rw [List.filter_eq_nil_iff]
    intro e he
    simpa using h e he
  rw [dayTotal, hnone, List.map_nil, List.sum_nil]

theorem dayTotal_append (entries : List (Entry date amount)) (e : Entry date amount)
    (day : date) :
    dayTotal (entries ++ [e]) day =
      if e.day = day then dayTotal entries day + e.amount else dayTotal entries day := by
  unfold dayTotal
  rw [List.filter_append, List.map_append, List.sum_append]
  split_ifs with hday <;> simp [hday]

omit [AddCommMonoid amount] in
theorem upTo_append (entries : List (Entry date amount)) (e : Entry date amount) (day : date) :
    upTo (entries ++ [e]) day =
      if e.day ≤ day then upTo entries day ++ [e] else upTo entries day := by
  unfold upTo
  rw [List.filter_append]
  split_ifs with hday <;> simp [hday]

theorem Exact.latestStreak_cases (h : Exact counts due rows entries) :
    latestStreak rows = streakOf counts entries ∨
      exists r, r ∈ rows ∧ EndsBy counts due r.day := by
  rcases rows.eq_nil_or_concat with rfl | ⟨front, row, rfl⟩
  · cases entries with
    | nil =>
        exact Or.inl rfl
    | cons e rest =>
        rcases h.covered e List.mem_cons_self with ⟨r, hr, -⟩
        cases hr
  · rw [List.concat_eq_append] at h ⊢
    have hmem : row ∈ front ++ [row] := List.mem_append_right _ (List.mem_singleton_self row)
    rcases h.streak row hmem with hlast | hends
    · rw [upTo_of_le fun e he => h.entry_day_le_last he] at hlast
      rw [latestStreak, List.getLast?_concat]
      exact Or.inl hlast
    · exact Or.inr ⟨row, hmem, hends⟩

/-- Once nothing is due, the latest streak is the one of the whole history. -/
theorem Exact.latestStreak_eq (h : Exact counts [] rows entries) :
    latestStreak rows = streakOf counts entries := by
  rcases h.latestStreak_cases with heq | ⟨_, -, e, he, -⟩
  · exact heq
  · cases he

theorem Exact.openDay (h : Exact counts due rows entries) {day : date} {streak : Nat}
    (hnew : forall r, r ∈ rows -> r.day < day)
    (hstreak : streak = latestStreak rows ∨ EndsBy counts due day) :
    Exact counts due (rows ++ [⟨day, 0, streak⟩]) entries := by
  have hentry : forall e, e ∈ entries -> e.day < day := by
    intro e he
    rcases h.covered e he with ⟨r, hr, hday⟩
    exact hday ▸ hnew r hr
  constructor
  case sorted =>
    refine List.pairwise_append.mpr ⟨h.sorted, List.pairwise_singleton _ _, ?_⟩
    intro r hr other hother
    rw [List.mem_singleton.mp hother]
    exact hnew r hr
  case covered =>
    intro e he
    rcases h.covered e he with ⟨r, hr, hday⟩
    exact ⟨r, List.mem_append_left _ hr, hday⟩
  case total =>
    intro r hr
    rcases List.mem_append.mp hr with hold | hlast
    · exact h.total r hold
    · rw [List.mem_singleton.mp hlast]
      exact (dayTotal_of_ne fun e he => (hentry e he).ne).symm
  case streak =>
    intro r hr
    rcases List.mem_append.mp hr with hold | hlast
    · exact h.streak r hold
    · rw [List.mem_singleton.mp hlast, upTo_of_le fun e he => (hentry e he).le]
      refine hstreak.elim (fun hlatest => ?_) Or.inr
      rcases h.latestStreak_cases with heq | ⟨r', hr', hends⟩
      · exact Or.inl (hlatest.trans heq)
      · exact Or.inr (hends.mono (fun _ he => he) (hnew r' hr').le)

/-- Booking an amount on a row: it joins the total and extends or ends the streak. -/
def book (counts : amount -> Bool) (row : DayRow date amount) (x : amount) : DayRow date amount :=
  { day := row.day
    total := row.total + x
    streak := if counts x then row.streak + 1 else 0 }

theorem Exact.book {x : amount} (h : Exact counts (⟨row.day, x⟩ :: due) (rows ++ [row]) entries) :
    Exact counts due (rows ++ [DayBook.book counts row x]) (entries ++ [⟨row.day, x⟩]) := by
  have hlast := List.mem_append_right rows (List.mem_singleton_self row)
  have hbefore : forall r, r ∈ rows -> r.day < row.day := fun r hr =>
    (List.pairwise_append.mp h.sorted).2.2 r hr row (List.mem_singleton_self row)
  constructor
  case sorted =>
    refine List.pairwise_append.mpr
      ⟨(List.pairwise_append.mp h.sorted).1, List.pairwise_singleton _ _, ?_⟩
    intro r hr other hother
    rw [List.mem_singleton.mp hother]
    exact hbefore r hr
  case covered =>
    intro e he
    rcases List.mem_append.mp he with hold | hnew
    · rcases h.covered e hold with ⟨r, hr, hday⟩
      rcases List.mem_append.mp hr with hfront | hend
      · exact ⟨r, List.mem_append_left _ hfront, hday⟩
      · refine ⟨DayBook.book counts row x,
          List.mem_append_right _ (List.mem_singleton_self _), ?_⟩
        rw [← hday, List.mem_singleton.mp hend]
        rfl
    · refine ⟨DayBook.book counts row x, List.mem_append_right _ (List.mem_singleton_self _), ?_⟩
      rw [List.mem_singleton.mp hnew]
      rfl
  case total =>
    intro r hr
    rw [dayTotal_append]
    rcases List.mem_append.mp hr with hold | hend
    · rw [if_neg (hbefore r hold).ne']
      exact h.total r (List.mem_append_left _ hold)
    · rw [List.mem_singleton.mp hend]
      change row.total + x = if row.day = row.day then dayTotal entries row.day + x else _
      rw [if_pos rfl, h.total row hlast]
  case streak =>
    intro r hr
    rw [upTo_append]
    rcases List.mem_append.mp hr with hold | hend
    · rw [if_neg (not_le.mpr (hbefore r hold))]
      refine (h.streak r (List.mem_append_left _ hold)).imp_right ?_
      rintro ⟨e, he, hends, hday⟩
      rcases List.mem_cons.mp he with rfl | hdue
      · exact absurd hday (not_le.mpr (hbefore r hold))
      · exact ⟨e, hdue, hends, hday⟩
    · have hall := upTo_of_le fun e he => h.entry_day_le_last he
      have hstreak := h.streak row hlast
      rw [hall] at hstreak
      have hday : (DayBook.book counts row x).day = row.day := rfl
      rw [List.mem_singleton.mp hend, hday, if_pos (le_refl _), hall, streakOf,
        trailingRun_append_singleton]
      unfold DayBook.book
      dsimp only
      -- an entry that ends the streak makes the row exact, whatever its streak was
      by_cases hcounts : counts x = true
      · rw [if_pos hcounts, if_pos hcounts]
        rcases hstreak with hexact | ⟨e, he, hends, hle⟩
        · rw [hexact]
          exact Or.inl rfl
        · rcases List.mem_cons.mp he with rfl | hdue
          · exact absurd hcounts (ne_true_of_eq_false hends)
          · exact Or.inr ⟨e, hdue, hends, hle⟩
      · rw [if_neg hcounts, if_neg hcounts]
        exact Or.inl rfl

end Exact

end DayBook
end Foundation
end Shamarx
