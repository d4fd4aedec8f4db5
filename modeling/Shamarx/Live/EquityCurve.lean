import Shamarx.Live.LiveAnalytics
import Shamarx.Foundation.Grouping

/-!
# The daily equity curve

The snapshots of all accounts of a user, a point for each day: the sum of the last reading
that each account had on the day.
-/

namespace Shamarx
namespace Live
namespace EquityCurve

open Foundation

structure CurvePoint where
  date : Int
  equity : ℚ
  deriving DecidableEq

def dayKey (r : EquitySnapshot) : Int :=
  dayOf r.takenAt

def accountKey (r : EquitySnapshot) : String :=
  r.accountId.getD ""

/-- `slice(-n)`; a zero is no negative index, so it keeps everything. -/
def sliceLast {point : Type} (n : Nat) (points : List point) : List point :=
  if n = 0 then points else points.drop (points.length - n)

def byDay (snapshots : List EquitySnapshot) : InsertionMap Int (InsertionMap String ℚ) :=
  Grouping.groupBy dayKey (fun _ => []) (fun perAccount r => perAccount.set (accountKey r) r.equity)
    snapshots

def recentSnapshots (accountIds : List String) (days : Nat) (now : Int)
    (table : List EquitySnapshot) : List EquitySnapshot :=
  (ownedSnapshots accountIds table).filter fun r => decide (now - days * 86400000 ≤ r.takenAt)

def equityCurve (accountIds : List String) (days : Nat) (snapshots : List EquitySnapshot) :
    List CurvePoint :=
  if accountIds = [] then []
  else
    sliceLast days ((byDay snapshots).map fun entry =>
      { date := entry.1, equity := (entry.2.map Prod.snd).sum })

/-- The database returns them by time, those of one time in any order. -/
structure ReadByTime (rows answer : List EquitySnapshot) : Prop where
  all : answer.Perm rows
  ordered : answer.Pairwise fun r s => r.takenAt ≤ s.takenAt

/-!
# Last readings
-/

structure LastReadings (rows last : List EquitySnapshot) : Prop where
  once : (last.map accountKey).Nodup
  read : forall r, r ∈ last -> r ∈ rows
  latest : forall r, r ∈ last -> forall s, s ∈ rows -> accountKey s = accountKey r ->
    s.takenAt ≤ r.takenAt
  everyone : forall s, s ∈ rows -> exists r, r ∈ last ∧ accountKey r = accountKey s

def lastRows (rows : List EquitySnapshot) : InsertionMap String EquitySnapshot :=
  Grouping.groupBy accountKey (fun r => r) (fun _ r => r) rows

theorem foldl_last (rows : List EquitySnapshot) (r : EquitySnapshot) :
    rows.foldl (fun _ s => s) r = (r :: rows).getLast (List.cons_ne_nil r rows) := by
  induction rows generalizing r with
  | nil =>
      rfl
  | cons s rest ih =>
      rw [List.foldl_cons, ih, List.getLast_cons (List.cons_ne_nil s rest)]

theorem entryOf_last (rows : List EquitySnapshot) :
    Grouping.entryOf (fun r => r) (fun (_ r : EquitySnapshot) => r) rows = rows.getLast? := by
  cases rows with
  | nil =>
      rfl
  | cons r rest =>
      have hentry : Grouping.entryOf (fun r => r) (fun (_ r : EquitySnapshot) => r) (r :: rest) =
          some ((r :: rest).foldl (fun _ s => s) r) := rfl
      rw [hentry, List.foldl_cons, foldl_last,
        List.getLast?_eq_some_getLast (List.cons_ne_nil r rest)]

theorem set_map {value image : Type} (f : value -> image) (m : InsertionMap String value)
    (k : String) (v : value) :
    InsertionMap.set (m.map fun entry => (entry.1, f entry.2)) k (f v) =
      (InsertionMap.set m k v).map fun entry => (entry.1, f entry.2) := by
  induction m with
  | nil =>
      rfl
  | cons entry rest ih =>
      rw [List.map_cons, InsertionMap.set, InsertionMap.set]
      split_ifs
      · rfl
      · rw [ih, List.map_cons]

theorem foldl_readings (rows : List EquitySnapshot) :
    rows.foldl (fun perAccount r => InsertionMap.set perAccount (accountKey r) r.equity) [] =
      (lastRows rows).map fun entry => (entry.1, entry.2.equity) := by
  induction rows using List.reverseRecOn with
  | nil =>
      rfl
  | append_singleton rows r ih =>
      have hconcat : lastRows (rows ++ [r]) = (lastRows rows).set (accountKey r) r :=
        Grouping.groupBy_concat rows r
      rw [List.foldl_append, ih, hconcat]
      exact set_map EquitySnapshot.equity (lastRows rows) (accountKey r) r

theorem lastReadings_lastRows {rows : List EquitySnapshot}
    (hordered : rows.Pairwise fun r s => r.takenAt ≤ s.takenAt) :
    LastReadings rows ((lastRows rows).map Prod.snd) := by
  have hentry : forall k r, (k, r) ∈ lastRows rows ->
      accountKey r = k ∧ (itemsOf accountKey rows k).getLast? = some r := by
    intro k r hmem
    rw [lastRows, Grouping.mem_groupBy, entryOf_last] at hmem
    have hown := List.mem_filter.mp (List.mem_of_getLast? hmem)
    exact ⟨of_decide_eq_true hown.2, hmem⟩
  have hkeys : ((lastRows rows).map Prod.snd).map accountKey = (lastRows rows).map Prod.fst := by
    rw [List.map_map]
    apply List.map_congr_left
    rintro ⟨k, r⟩ hmem
    exact (hentry k r hmem).1
  constructor
  case once =>
    rw [hkeys]
    exact Grouping.nodup_groupBy rows
  case read =>
    intro r hr
    rcases List.mem_map.mp hr with ⟨⟨k, s⟩, hmem, rfl⟩
    exact List.mem_of_mem_filter (List.mem_of_getLast? (hentry k s hmem).2)
  case latest =>
    intro r hr s hs hsame
    rcases List.mem_map.mp hr with ⟨⟨k, last⟩, hmem, rfl⟩
    rcases hentry k last hmem with ⟨hkey, hlast⟩
    have hown : s ∈ itemsOf accountKey rows k :=
      List.mem_filter.mpr ⟨hs, decide_eq_true (hsame.trans hkey)⟩
    have hsorted : (itemsOf accountKey rows k).Pairwise fun r s => r.takenAt ≤ s.takenAt :=
      hordered.filter _
    rcases List.getLast?_eq_some_iff.mp hlast with ⟨front, hfront⟩
    rw [hfront] at hown hsorted
    rcases List.mem_append.mp hown with hfirst | hend
    · exact (List.pairwise_append.mp hsorted).2.2 s hfirst last (List.mem_singleton_self last)
    · rw [List.mem_singleton.mp hend]
  case everyone =>
    intro s hs
    have hkey : accountKey s ∈ (lastRows rows).map Prod.fst :=
      Grouping.mem_keys_groupBy.mpr ⟨s, hs, rfl⟩
    rw [<- hkeys] at hkey
    exact List.mem_map.mp hkey

/-!
# Days in order
-/

theorem ascending_days {rows : List EquitySnapshot}
    (hordered : rows.Pairwise fun r s => r.takenAt ≤ s.takenAt) :
    ((byDay rows).map Prod.fst).Pairwise (· < ·) := by
  induction rows using List.reverseRecOn with
  | nil =>
      exact List.Pairwise.nil
  | append_singleton rows r ih =>
      have hsplit := List.pairwise_append.mp hordered
      have hold := ih hsplit.1
      unfold byDay at hold ⊢
      rw [Grouping.groupBy_concat]
      unfold Grouping.groupStep
      cases hget : (Grouping.groupBy dayKey (fun _ => [])
          (fun perAccount r => InsertionMap.set perAccount (accountKey r) r.equity)
          rows).get (dayKey r) with
      | some found =>
          rw [InsertionMap.keys_set_of_get hget]
          exact hold
      | none =>
          rw [InsertionMap.set_of_get_none hget, List.map_append, List.pairwise_append]
          refine ⟨hold, List.pairwise_singleton _ _, ?_⟩
          intro d hd e he
          rw [List.map_singleton, List.mem_singleton] at he
          subst he
          rcases Grouping.mem_keys_groupBy.mp hd with ⟨s, hs, rfl⟩
          have hle : dayKey s ≤ dayKey r := by
            have htime := hsplit.2.2 s hs r (List.mem_singleton_self r)
            exact Int.ediv_le_ediv (by decide) htime
          refine lt_of_le_of_ne hle ?_
          intro heq
          rw [heq] at hd
          exact InsertionMap.notMem_keys_of_get hget hd

/-!
# The points of the curve
-/

/-- What the endpoint makes of the number of days asked for. -/
def requestedDays (days : Option Int) : Nat :=
  (days.elim 90 fun d => max 1 (min 365 d)).toNat

/-- Rising dates, each with the sum of the accounts' last readings of the day, up to the
number of days asked for, and no day with a reading passed over after the first point. -/
structure DailyPoints (rows : List EquitySnapshot) (days : Nat) (points : List CurvePoint) :
    Prop where
  rising : points.Pairwise fun p q => p.date < q.date
  few : points.length ≤ days
  sums : forall p, p ∈ points -> exists last,
    LastReadings (rows.filter fun r => decide (dayKey r = p.date)) last ∧ last ≠ [] ∧
      p.equity = (last.map EquitySnapshot.equity).sum
  recent : forall r, r ∈ rows -> (exists p, p ∈ points ∧ p.date = dayKey r) ∨
    (points.length = days ∧ forall p, p ∈ points -> dayKey r < p.date)

section Points

variable {rows : List EquitySnapshot}

def pointOf (entry : Int × InsertionMap String ℚ) : CurvePoint :=
  { date := entry.1, equity := (entry.2.map Prod.snd).sum }

theorem mem_byDay {d : Int} {perAccount : InsertionMap String ℚ}
    (h : (d, perAccount) ∈ byDay rows) :
    itemsOf dayKey rows d ≠ [] ∧
      perAccount = (lastRows (itemsOf dayKey rows d)).map fun entry =>
        (entry.1, entry.2.equity) := by
  have hne := Grouping.itemsOf_ne_nil_of_mem h
  refine ⟨hne, ?_⟩
  rw [<- foldl_readings]
  have hentry := Grouping.mem_groupBy.mp h
  cases hitems : itemsOf dayKey rows d with
  | nil =>
      exact absurd hitems hne
  | cons r rest =>
      rw [hitems] at hentry
      exact (Option.some.inj hentry).symm

theorem sum_pointOf (hordered : rows.Pairwise fun r s => r.takenAt ≤ s.takenAt)
    {entry : Int × InsertionMap String ℚ} (h : entry ∈ byDay rows) :
    exists last,
      LastReadings (rows.filter fun r => decide (dayKey r = (pointOf entry).date)) last ∧
        last ≠ [] ∧ (pointOf entry).equity = (last.map EquitySnapshot.equity).sum := by
  rcases entry with ⟨d, perAccount⟩
  rcases mem_byDay h with ⟨hne, hmap⟩
  have hlast : LastReadings (itemsOf dayKey rows d)
      ((lastRows (itemsOf dayKey rows d)).map Prod.snd) :=
    lastReadings_lastRows (hordered.filter _)
  refine ⟨(lastRows (itemsOf dayKey rows d)).map Prod.snd, hlast, ?_, ?_⟩
  · intro hnil
    rcases List.exists_mem_of_ne_nil _ hne with ⟨r, hr⟩
    rcases hlast.everyone r hr with ⟨s, hs, _⟩
    rw [hnil] at hs
    cases hs
  · change (perAccount.map Prod.snd).sum = _
    rw [hmap, List.map_map, List.map_map]
    rfl

theorem dailyPoints_drop {days : Nat} (hdays : days ≠ 0)
    (hordered : rows.Pairwise fun r s => r.takenAt ≤ s.takenAt) :
    DailyPoints rows days (sliceLast days ((byDay rows).map pointOf)) := by
  have hrising : ((byDay rows).map pointOf).Pairwise fun p q => p.date < q.date := by
    have hdates := ascending_days hordered
    rw [List.pairwise_map] at hdates ⊢
    exact hdates
  unfold sliceLast
  rw [if_neg hdays]
  constructor
  case rising =>
    exact hrising.sublist (List.drop_sublist _ _)
  case few =>
    rw [List.length_drop]
    omega
  case sums =>
    intro p hp
    rcases List.mem_map.mp (List.mem_of_mem_drop hp) with ⟨entry, hentry, rfl⟩
    exact sum_pointOf hordered hentry
  case recent =>
    intro r hr
    have hkey : dayKey r ∈ (byDay rows).map Prod.fst :=
      Grouping.mem_keys_groupBy.mpr ⟨r, hr, rfl⟩
    rcases List.mem_map.mp hkey with ⟨entry, hentry, hdate⟩
    have hpoint : pointOf entry ∈ (byDay rows).map pointOf := List.mem_map_of_mem hentry
    rw [<- List.take_append_drop (((byDay rows).map pointOf).length - days)
      ((byDay rows).map pointOf)] at hpoint hrising
    rcases List.mem_append.mp hpoint with hearly | hkept
    · right
      have hlen := List.length_pos_of_mem hearly
      rw [List.length_take] at hlen
      refine ⟨?_, ?_⟩
      · rw [List.length_drop]
        omega
      · intro p hp
        rw [<- hdate]
        exact (List.pairwise_append.mp hrising).2.2 (pointOf entry) hearly p hp
    · left
      exact ⟨pointOf entry, hkept, hdate⟩

end Points

/-- However the database orders readings of one time, the curve of a user with an account
has the points of the last days with readings. -/
theorem equity_curve_points (accountId : String) (accountIds : List String) (request : Option Int)
    (now : Int) (table answer : List EquitySnapshot)
    (h : ReadByTime
      (recentSnapshots (accountId :: accountIds) (requestedDays request) now table) answer) :
    DailyPoints answer (requestedDays request)
      (equityCurve (accountId :: accountIds) (requestedDays request) answer) := by
  have hdays : requestedDays request ≠ 0 := by
    cases request with
    | none =>
        decide
    | some d =>
        unfold requestedDays
        rw [Option.elim_some]
        have hone := le_max_left 1 (min 365 d)
        omega
  unfold equityCurve
  rw [if_neg (List.cons_ne_nil accountId accountIds)]
  exact dailyPoints_drop hdays h.ordered

/-- Two accounts over two days, the second one read twice on the first. -/
def twoDays : List EquitySnapshot :=
  [⟨some "main", 3600000, 1000⟩, ⟨some "second", 7200000, 500⟩,
    ⟨some "second", 10800000, 480⟩, ⟨some "main", 90000000, 1010⟩]

theorem equity_curve_points_of_two_days :
    DailyPoints twoDays (requestedDays (some 30))
      (equityCurve ["main", "second"] (requestedDays (some 30)) twoDays) :=
  equity_curve_points "main" ["second"] (some 30) 100000000 twoDays twoDays
    { all := by decide +kernel
      ordered := by decide +kernel }

example : equityCurve ["main", "second"] 30 twoDays = [⟨0, 1480⟩, ⟨1, 1010⟩] := by
  decide +kernel

end EquityCurve
end Live
end Shamarx
