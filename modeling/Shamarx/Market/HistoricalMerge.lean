import Mathlib.Data.List.Perm.Basic
import Mathlib.Data.Rat.Defs
import Mathlib.Tactic.NormNum
import Shamarx.Foundation.KeyedRows
import Shamarx.Foundation.Timestamps
import Shamarx.Market.MetaApiPaging

/-!
# Merging stored and fetched candles

Where the candle table covers too little of a range, the rest is fetched from MetaApi.
Both lists are merged by the text of the opening time, which the two sources write
differently.
-/

namespace Shamarx
namespace Market
namespace HistoricalMerge

open Foundation
open KeyedRows
open MetaApiPaging (minuteOfDay)

/-- A candle of either source.  Instants have milliseconds, the precision of the table
and of the service. -/
structure Bar where
  time : Stamp
  open_ : ℚ
  high : ℚ
  low : ℚ
  close : ℚ
  volume : ℚ
  milli : time.microsecond % 1000 = 0

inductive RowSource where
  | db
  | metaApi
  deriving DecidableEq, Repr

/-- A row of the answer: a dict of the database or a candle object of MetaApi. -/
structure Row where
  source : RowSource
  bar : Bar

def Row.time (r : Row) : Stamp :=
  r.bar.time

/-- `isoformat` of a naive datetime: microseconds only when there are any. -/
def isoformat (t : Stamp) : List Char :=
  Stamp.isoText "" t ++
    if t.microsecond = 0 then [] else '.' :: Decimals.padded 6 t.microsecond

/-- The notation of the service: milliseconds and a `Z`. -/
def metaApiTime (t : Stamp) : List Char :=
  Stamp.isoText "" t ++ '.' :: (Decimals.padded 3 (t.microsecond / 1000) ++ ['Z'])

/-- The `openTime` of a row, which `_to_naive_iso` leaves as it is. -/
def Row.openTime (r : Row) : List Char :=
  match r.source with
  | .db => isoformat r.bar.time
  | .metaApi => metaApiTime r.bar.time

def dbRows (db : List Bar) : List Row :=
  db.map fun bar => { source := .db, bar := bar }

def metaApiRows (fetched : List Bar) : List Row :=
  fetched.map fun bar => { source := .metaApi, bar := bar }

/-- The merge: one row per text, those of the database first, sorted by text. -/
def mergeRows (db fetched : List Bar) : List Row :=
  sortByKey Row.openTime (keepFirst Row.openTime [] (dbRows db ++ metaApiRows fetched))

def newRows (db fetched : List Bar) : List Row :=
  dropKeys Row.openTime ((dbRows db).map Row.openTime) (metaApiRows fetched)

/-- `bulk_upsert_candles`: a row whose instant the table has is skipped. -/
def bulkUpsert (table : List Stamp) (rows : List Row) : List Row :=
  keepFirst Row.time table rows

/-- A request: lengths of a bar and of the range in milliseconds, and the mode. -/
structure HistoryRequest where
  tfMs : Int
  rangeMs : Int
  mode : String

/-- Bars of the range, of which about five in seven days have any. -/
def expectedCount (req : HistoryRequest) : Int :=
  if 0 < req.tfMs then Int.tdiv (req.rangeMs * 5) (req.tfMs * 7) else 0

def Sufficient (req : HistoryRequest) (db : List Bar) : Prop :=
  0 < expectedCount req -> (80 / 100 : ℚ) ≤ db.length / expectedCount req

instance (req : HistoryRequest) (db : List Bar) : Decidable (Sufficient req db) :=
  inferInstanceAs (Decidable (_ -> _))

/-- The rows of the answer and those written to the table. -/
structure HistoryAnswer where
  rows : List Row
  inserted : List Row

/-- `get_historical_candles` up to its file fallback; a none of `fetched` is a failed
fetch. -/
def getHistoricalCandles (req : HistoryRequest) (table : List Stamp) (db : List Bar)
    (fetched : Option (List Bar)) : HistoryAnswer :=
  if Sufficient req db ∨ req.mode ≠ "metaapi" then { rows := dbRows db, inserted := [] }
  else
    match fetched with
    | none => { rows := dbRows db, inserted := [] }
    | some bars =>
        { rows := mergeRows db bars
          inserted := bulkUpsert table (newRows db bars) }

/-!
# Order of the two notations
-/

/-- What both notations write after the second: nothing, or the milliseconds and an
ending of their own. -/
def fractionText (source : RowSource) (milliseconds : Nat) : List Char :=
  match source with
  | .db =>
      if milliseconds = 0 then []
      else '.' :: (Decimals.padded 3 milliseconds ++ Decimals.zeros 3)
  | .metaApi => '.' :: (Decimals.padded 3 milliseconds ++ ['Z'])

def Bar.milliseconds (bar : Bar) : Nat :=
  bar.time.microsecond / 1000

theorem Bar.microsecond_eq (bar : Bar) : bar.time.microsecond = bar.milliseconds * 1000 := by
  have hmilli := bar.milli
  unfold milliseconds
  omega

theorem Bar.milliseconds_lt (bar : Bar) : bar.milliseconds < 10 ^ 3 := by
  have hlt := bar.time.microsecond_lt
  unfold milliseconds
  omega

theorem openTime_eq (r : Row) :
    r.openTime = Stamp.isoText "" r.time ++ fractionText r.source r.bar.milliseconds := by
  rcases r with ⟨source, bar⟩
  cases source with
  | metaApi =>
      rfl
  | db =>
      change isoformat bar.time = _
      have hmicro := bar.microsecond_eq
      have hsplit : Decimals.padded 6 (bar.milliseconds * 1000) =
          Decimals.padded 3 bar.milliseconds ++ Decimals.zeros 3 :=
        Decimals.padded_mul_pow (by decide) bar.milliseconds_lt 3
      unfold isoformat fractionText
      dsimp only
      rw [hmicro, hsplit]
      by_cases hzero : bar.milliseconds = 0
      · rw [if_pos hzero, if_pos (by rw [hzero])]
        rfl
      · rw [if_neg hzero, if_neg (by omega)]
        rfl

theorem fractionText_lt {source source' : RowSource} {n m : Nat} (hlt : n < m)
    (hm : m < 10 ^ 3) : fractionText source n < fractionText source' m := by
  have hdigits : forall tail tail' : List Char,
      '.' :: (Decimals.padded 3 n ++ tail) < '.' :: (Decimals.padded 3 m ++ tail') := by
    intro tail tail'
    have hlen : (Decimals.padded 3 n).length = (Decimals.padded 3 m).length := by
      rw [Decimals.length_padded (by decide) (hlt.trans hm),
        Decimals.length_padded (by decide) hm]
    rw [List.cons_lt_cons_iff, append_lt_append_iff hlen]
    exact Or.inr ⟨rfl, Or.inl ((Decimals.padded_lt_iff (by decide) (hlt.trans hm) hm).mpr hlt)⟩
  have hpos : m ≠ 0 := by
    omega
  cases source with
  | db =>
      cases source' with
      | db =>
          unfold fractionText
          dsimp only
          rw [if_neg hpos]
          split_ifs
          · exact List.nil_lt_cons _ _
          · exact hdigits _ _
      | metaApi =>
          unfold fractionText
          dsimp only
          split_ifs
          · exact List.nil_lt_cons _ _
          · exact hdigits _ _
  | metaApi =>
      cases source' with
      | db =>
          unfold fractionText
          dsimp only
          rw [if_neg hpos]
          exact hdigits _ _
      | metaApi =>
          exact hdigits _ _

theorem openTime_lt_of_time_lt {a b : Row} (hlt : a.time < b.time) :
    a.openTime < b.openTime := by
  have hlen : (Stamp.isoText "" a.time).length = (Stamp.isoText "" b.time).length :=
    fieldsText_length (a.time.clock_fits "") (b.time.clock_fits "")
  rw [openTime_eq, openTime_eq, append_lt_append_iff hlen, Stamp.isoText_lt_iff,
    Stamp.isoText_inj]
  rcases (Stamp.lt_iff a.time b.time).mp hlt with hclock | ⟨hclock, hfraction⟩
  · exact Or.inl hclock
  · right
    refine ⟨hclock, fractionText_lt ?_ b.bar.milliseconds_lt⟩
    have ha := a.bar.microsecond_eq
    have hb := b.bar.microsecond_eq
    unfold Row.time at hfraction
    omega

theorem openTime_ne_of_time_ne {a b : Row} (hne : a.time ≠ b.time) :
    a.openTime ≠ b.openTime := by
  rcases lt_or_gt_of_ne hne with hlt | hgt
  · exact (openTime_lt_of_time_lt hlt).ne
  · exact (openTime_lt_of_time_lt hgt).ne'

theorem fractionText_ne (n : Nat) : fractionText .db n ≠ fractionText .metaApi n := by
  unfold fractionText
  dsimp only
  split_ifs
  · exact (List.cons_ne_nil _ _).symm
  · intro heq
    have hending := List.append_cancel_left (List.cons.inj heq).2
    exact absurd hending (by decide)

theorem openTime_ne (stored fetched : Bar) :
    Row.openTime { source := .db, bar := stored } ≠
      Row.openTime { source := .metaApi, bar := fetched } := by
  by_cases htime : stored.time = fetched.time
  · intro heq
    rw [openTime_eq, openTime_eq] at heq
    have hmilli : stored.milliseconds = fetched.milliseconds := by
      rw [Bar.milliseconds, htime, Bar.milliseconds]
    simp only [Row.time, htime, hmilli, List.append_cancel_left_eq] at heq
    exact fractionText_ne _ heq
  · exact openTime_ne_of_time_ne htime

/-!
# The merged rows
-/

section Merge

variable {db fetched : List Bar}

theorem dbRows_times (db : List Bar) : (dbRows db).map Row.time = db.map Bar.time := by
  rw [dbRows, List.map_map]
  rfl

theorem metaApiRows_times (fetched : List Bar) :
    (metaApiRows fetched).map Row.time = fetched.map Bar.time := by
  rw [metaApiRows, List.map_map]
  rfl

theorem nodup_openTime {rows : List Row} (h : (rows.map Row.time).Nodup) :
    (rows.map Row.openTime).Nodup := by
  rw [List.Nodup, List.pairwise_map] at h ⊢
  exact h.imp openTime_ne_of_time_ne

theorem openTime_notMem_db (bar : Bar) :
    Row.openTime { source := .metaApi, bar := bar } ∉ (dbRows db).map Row.openTime := by
  intro hmem
  rcases List.mem_map.mp hmem with ⟨r, hr, heq⟩
  rcases List.mem_map.mp hr with ⟨stored, _, rfl⟩
  exact openTime_ne stored bar heq

theorem nodup_texts (hdb : (db.map Bar.time).Nodup) (hfetched : (fetched.map Bar.time).Nodup) :
    ((dbRows db ++ metaApiRows fetched).map Row.openTime).Nodup := by
  rw [<- dbRows_times] at hdb
  rw [<- metaApiRows_times] at hfetched
  rw [List.map_append, List.nodup_append']
  refine ⟨nodup_openTime hdb, nodup_openTime hfetched, ?_⟩
  intro text hstored hnew
  rcases List.mem_map.mp hnew with ⟨r, hr, rfl⟩
  rcases List.mem_map.mp hr with ⟨bar, _, rfl⟩
  exact openTime_notMem_db bar hstored

/-- No row is taken for a duplicate of another, so the merge drops none. -/
theorem mergeRows_perm (hdb : (db.map Bar.time).Nodup)
    (hfetched : (fetched.map Bar.time).Nodup) :
    (mergeRows db fetched).Perm (dbRows db ++ metaApiRows fetched) := by
  have hnew : forall r, r ∈ dbRows db ++ metaApiRows fetched -> Row.openTime r ∉ [] :=
    fun r _ => List.not_mem_nil
  have hall := keepFirst_of_nodup Row.openTime (nodup_texts hdb hfetched) hnew
  rw [mergeRows, hall]
  exact sortByKey_perm Row.openTime _

theorem mergeRows_times_perm (hdb : (db.map Bar.time).Nodup)
    (hfetched : (fetched.map Bar.time).Nodup) :
    ((mergeRows db fetched).map Row.time).Perm (db.map Bar.time ++ fetched.map Bar.time) := by
  have hperm := (mergeRows_perm hdb hfetched).map Row.time
  rw [List.map_append, dbRows_times, metaApiRows_times] at hperm
  exact hperm

theorem mergeRows_pairwise (db fetched : List Bar) :
    (mergeRows db fetched).Pairwise fun a b => a.time ≤ b.time := by
  apply (pairwise_sortByKey Row.openTime _).imp
  intro a b hle
  by_contra hlt
  exact not_lt.mpr hle (openTime_lt_of_time_lt (not_le.mp hlt))

end Merge

/-!
# One row per instant
-/

structure OneRowPerInstant (table : List Stamp) (db fetched : List Bar)
    (answer : HistoryAnswer) : Prop where
  present : forall t, t ∈ answer.rows.map Row.time <->
    t ∈ db.map Bar.time ∨ t ∈ fetched.map Bar.time
  once : (answer.rows.map Row.time).Nodup
  stored_first : forall r, r ∈ answer.rows -> r.time ∈ db.map Bar.time -> r ∈ dbRows db
  ascending : answer.rows.Pairwise fun a b => a.time ≤ b.time
  fresh : forall r, r ∈ answer.inserted -> r.time ∉ table

theorem bulkUpsert_fresh (table : List Stamp) (rows : List Row) :
    forall r, r ∈ bulkUpsert table rows -> r.time ∉ table := by
  intro r hr
  exact ((mem_keys_keepFirst Row.time table rows r.time).mp (List.mem_map_of_mem hr)).2

/-- A request that fetches gets one row per instant exactly when no instant is in both
sources. -/
theorem one_row_per_instant_iff {req : HistoryRequest} {table : List Stamp}
    {db fetched : List Bar} (hgap : ¬ Sufficient req db) (hmode : req.mode = "metaapi")
    (hdb : (db.map Bar.time).Nodup) (hfetched : (fetched.map Bar.time).Nodup) :
    OneRowPerInstant table db fetched (getHistoricalCandles req table db (some fetched)) <->
      List.Disjoint (db.map Bar.time) (fetched.map Bar.time) := by
  have hanswer : getHistoricalCandles req table db (some fetched) =
      { rows := mergeRows db fetched, inserted := bulkUpsert table (newRows db fetched) } := by
    rw [getHistoricalCandles, if_neg]
    intro hskip
    rcases hskip with hsufficient | hother
    · exact hgap hsufficient
    · exact hother hmode
  have hperm := mergeRows_times_perm hdb hfetched
  rw [hanswer]
  constructor
  · intro h
    exact (List.nodup_append'.mp (hperm.nodup_iff.mp h.once)).2.2
  · intro hdisjoint
    constructor
    · intro t
      exact hperm.mem_iff.trans List.mem_append
    · exact hperm.nodup_iff.mpr (List.nodup_append'.mpr ⟨hdb, hfetched, hdisjoint⟩)
    · intro r hr hstored
      rcases List.mem_append.mp ((mergeRows_perm hdb hfetched).mem_iff.mp hr) with hin | hnew
      · exact hin
      · have hmem := List.mem_map_of_mem (f := Row.time) hnew
        rw [metaApiRows_times] at hmem
        exact absurd hmem (hdisjoint hstored)
    · exact mergeRows_pairwise db fetched
    · exact bulkUpsert_fresh table _

/-!
# An hour with a gap
-/

def quarterBar (minute : Nat) : Bar :=
  { time := minuteOfDay minute
    open_ := 2000
    high := 2002
    low := 1998
    close := 2001
    volume := 10
    milli := by rfl }

def gapRequest : HistoryRequest :=
  { tfMs := 900000, rangeMs := 10800000, mode := "metaapi" }

def gapAnswer (stored fetched : List Bar) : HistoryAnswer :=
  getHistoricalCandles gapRequest (stored.map Bar.time) stored (some fetched)

theorem gap_filled_once_per_instant :
    OneRowPerInstant [minuteOfDay 0] [quarterBar 0] [quarterBar 15, quarterBar 30]
      (gapAnswer [quarterBar 0] [quarterBar 15, quarterBar 30]) :=
  (one_row_per_instant_iff (by decide +kernel) rfl (by decide) (by decide)).mpr
    (List.singleton_disjoint.mpr (by decide))

/-- The stored bar comes back from the service and stays beside itself. -/
theorem stored_instant_merged_twice :
    (gapAnswer [quarterBar 0] [quarterBar 0, quarterBar 15]).rows.map Row.time =
        [minuteOfDay 0, minuteOfDay 0, minuteOfDay 15] ∧
      ¬ OneRowPerInstant [minuteOfDay 0] [quarterBar 0] [quarterBar 0, quarterBar 15]
        (gapAnswer [quarterBar 0] [quarterBar 0, quarterBar 15]) := by
  have htimes : (gapAnswer [quarterBar 0] [quarterBar 0, quarterBar 15]).rows.map Row.time =
      [minuteOfDay 0, minuteOfDay 0, minuteOfDay 15] := by
    decide +kernel
  refine ⟨htimes, ?_⟩
  intro h
  have honce := h.once
  rw [htimes] at honce
  exact absurd honce (by decide)

end HistoricalMerge
end Market
end Shamarx
