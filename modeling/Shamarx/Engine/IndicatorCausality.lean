import Mathlib.Algebra.BigOperators.Group.List.Basic
import Mathlib.Algebra.Order.BigOperators.Group.List
import Mathlib.Tactic.Linarith
import Shamarx.Engine.Indicators
import Shamarx.Engine.Locality
import Shamarx.Foundation.Online

/-!
# Indicators look back

The value of an indicator at an index is made of the candles up to it.  The source
relies on this of its indicator package; the documented formulas have it.
-/

namespace Shamarx
namespace Engine

open Foundation

/-- The value at index `k` depends only on candles `0..k`. -/
def CausalIndicators (lib : TechnicalIndicators) : Prop :=
  forall candles n,
    computeIndicators lib (candles.take n) = (computeIndicators lib candles).take n

theorem CausalIndicators.take_eq {lib : TechnicalIndicators} (h : CausalIndicators lib)
    {xs ys : List BacktestCandle} {n : Nat} (hsame : xs.take n = ys.take n) :
    (computeIndicators lib xs).take n = (computeIndicators lib ys).take n := by
  rw [<- h xs n, hsame, h ys n]

/-!
# Padding
-/

theorem padFront_take {lag : Nat} {f : List reading -> List (Option ℚ)} (hf : Online lag f)
    (xs : List reading) (n : Nat) :
    padFront (xs.take n).length (f (xs.take n)) = (padFront xs.length (f xs)).take n := by
  rw [padFront, padFront, List.take_append, List.take_replicate, hf.length, hf.length, hf.take,
    List.length_replicate, List.length_take]
  have hpad : min n xs.length - (min n xs.length - lag) =
      min n (xs.length - (xs.length - lag)) := by omega
  rw [hpad]
  by_cases hlag : lag ≤ xs.length
  · have hskip : xs.length - (xs.length - lag) = lag := by omega
    rw [hskip]
  · have hnone : f xs = [] := by
      rw [List.eq_nil_iff_length_eq_zero, hf.length]
      omega
    rw [hnone, List.take_nil, List.take_nil]

/-!
# Averages and true ranges
-/

theorem smoothFrom_eq (weight prev : ℚ) (xs : List ℚ) :
    smoothFrom weight prev xs = xs.scanl (fun prev x => (x - prev) * weight + prev) prev := by
  induction xs generalizing prev with
  | nil =>
      rfl
  | cons x rest ih =>
      rw [smoothFrom, ih, List.scanl_cons]

theorem wilderSumFrom_eq (period : Nat) (prev : ℚ) (xs : List ℚ) :
    wilderSumFrom period prev xs =
      xs.scanl (fun (prev x : ℚ) => prev - prev / period + x) prev := by
  induction xs generalizing prev with
  | nil =>
      rfl
  | cons x rest ih =>
      rw [wilderSumFrom, ih, List.scanl_cons]

theorem pairwise_eq (f : BacktestCandle -> BacktestCandle -> ℚ) (candles : List BacktestCandle) :
    pairwise f candles = candles.zipWith f (candles.drop 1) := by
  induction candles with
  | nil =>
      rfl
  | cons c rest ih =>
      cases rest with
      | nil =>
          rfl
      | cons next rest =>
          rw [pairwise, ih]
          rfl

section Online

variable {period : Nat}

theorem smooth_online (weight : ℚ) (hperiod : 0 < period) :
    Online (period - 1) (smooth weight period) := by
  have hscan : smooth weight period = Online.seededScan
      (fun prev x => (x - prev) * weight + prev) average period := by
    funext xs
    rw [smooth, Online.seededScan, smoothFrom_eq]
  rw [hscan]
  exact Online.of_seededScan _ _ hperiod

theorem wilderSmoothing_online (hperiod : 0 < period) :
    Online (period - 1) (wilderSmoothing period) := by
  have hscan : wilderSmoothing period = Online.seededScan
      (fun (prev x : ℚ) => prev - prev / period + x) List.sum period := by
    funext xs
    rw [wilderSmoothing, Online.seededScan, wilderSumFrom_eq]
  rw [hscan]
  exact Online.of_seededScan _ _ hperiod

theorem pairwise_online (f : BacktestCandle -> BacktestCandle -> ℚ) :
    Online 1 (pairwise f) := by
  have hpairs : pairwise f = fun xs => List.zipWith f xs (xs.drop 1) :=
    funext (pairwise_eq f)
  rw [hpairs]
  exact Online.of_consecutive f

theorem refEma_online (hperiod : 0 < period) : Online (period - 1) (refEma period) :=
  (Online.map some).comp (smooth_online _ hperiod)

theorem refWema_online (hperiod : 0 < period) : Online (period - 1) (refWema period) :=
  smooth_online _ hperiod

theorem refSma_online (hperiod : 0 < period) : Online (period - 1) (refSma period) :=
  Online.of_windows (fun window : List (Option ℚ) => (window.mapM id).map average) hperiod

theorem refAtr_online (hperiod : 0 < period) : Online (1 + (period - 1)) (refAtr period) :=
  (Online.map some).comp ((refWema_online hperiod).comp (pairwise_online trueRange))

theorem refRsi_online (hperiod : 0 < period) : Online (1 + (period - 1)) (refRsi period) := by
  have hmoves : Online 1 fun values : List ℚ =>
      values.zipWith (fun prev x => x - prev) (values.drop 1) :=
    Online.of_consecutive _
  have hgains := (refWema_online hperiod).comp ((Online.map fun m => max m 0).comp hmoves)
  have hlosses := (refWema_online hperiod).comp ((Online.map fun m => max (-m) 0).comp hmoves)
  exact hgains.zipWith hlosses _

end Online

/-!
# The directional index

A flat market has no directional index.  Wilder's sums never come back to zero, so it
is missing from the first value on or never.
-/

def adxValues (period : Nat) (dx pdi mdi : List (Option ℚ)) : List AdxValue :=
  match dx.mapM id with
  | none => List.replicate (dx.length + 1 - period) ⟨none, none, none⟩
  | some values =>
      (refWema period values).zipWith
        (fun a (p, m) => ⟨some a, p, m⟩)
        ((pdi.drop (period - 1)).zip (mdi.drop (period - 1)))

theorem mapM_id_of_none_mem {xs : List (Option ℚ)} (h : none ∈ xs) : xs.mapM id = none := by
  induction xs with
  | nil =>
      cases h
  | cons x rest ih =>
      rw [List.mapM_cons]
      cases x with
      | none =>
          rfl
      | some value =>
          have hrest : none ∈ rest := by simpa using h
          rw [ih hrest]
          rfl

theorem mapM_id_map_some (values : List ℚ) : (values.map some).mapM id = some values := by
  induction values with
  | nil =>
      rfl
  | cons value rest ih =>
      rw [List.map_cons, List.mapM_cons, ih]
      rfl

theorem exists_values {xs : List (Option ℚ)} (h : none ∉ xs) :
    exists values : List ℚ, xs = values.map some := by
  induction xs with
  | nil =>
      exact ⟨[], rfl⟩
  | cons x rest ih =>
      cases x with
      | none =>
          exact absurd List.mem_cons_self h
      | some value =>
          rcases ih fun hrest => h (List.mem_cons_of_mem _ hrest) with ⟨values, rfl⟩
          exact ⟨value :: values, rfl⟩

/-- Cutting the lists cuts the values, when a missing index is missing from the start. -/
theorem adxValues_take {period : Nat} (hperiod : 0 < period) {dx pdi mdi : List (Option ℚ)}
    (hstart : none ∈ dx -> dx.head? = some none) (n : Nat) :
    adxValues period (dx.take n) (pdi.take n) (mdi.take n) =
      (adxValues period dx pdi mdi).take (n - (period - 1)) := by
  unfold adxValues
  by_cases hmissing : none ∈ dx
  · rw [mapM_id_of_none_mem hmissing]
    cases n with
    | zero =>
        simp [refWema, smooth, hperiod]
    | succ n =>
        have hfirst : none ∈ dx.take (n + 1) := by
          rcases List.head?_eq_some_iff.mp (hstart hmissing) with ⟨rest, rfl⟩
          exact List.mem_cons_self
        rw [mapM_id_of_none_mem hfirst]
        dsimp only
        rw [List.take_replicate, List.length_take]
        congr 1
        omega
  · rcases exists_values hmissing with ⟨values, rfl⟩
    rw [<- List.map_take, mapM_id_map_some, mapM_id_map_some]
    dsimp only
    rw [(refWema_online hperiod).take, List.take_zipWith, List.zip_eq_zipWith,
      List.zip_eq_zipWith, List.take_zipWith, List.drop_take, List.drop_take]

theorem adxValues_length {period : Nat} (hperiod : 0 < period) {dx pdi mdi : List (Option ℚ)}
    (hpdi : pdi.length = dx.length) (hmdi : mdi.length = dx.length) :
    (adxValues period dx pdi mdi).length = dx.length - (period - 1) := by
  unfold adxValues
  by_cases hmissing : none ∈ dx
  · rw [mapM_id_of_none_mem hmissing]
    dsimp only
    rw [List.length_replicate]
    omega
  · rcases exists_values hmissing with ⟨values, rfl⟩
    rw [mapM_id_map_some]
    dsimp only
    rw [List.length_zipWith, List.length_zip, List.length_drop, List.length_drop, hpdi, hmdi,
      (refWema_online hperiod).length, List.length_map, Nat.min_self, Nat.min_self]

/-!
# Wilder's sums
-/

theorem wilderSumFrom_nonneg {period : Nat} (hperiod : 2 ≤ period) {prev : ℚ} {xs : List ℚ}
    (hprev : 0 ≤ prev) (hxs : forall x, x ∈ xs -> 0 ≤ x) :
    forall y, y ∈ wilderSumFrom period prev xs -> 0 ≤ y ∧ (y = 0 -> prev = 0) := by
  induction xs generalizing prev with
  | nil =>
      intro y hy
      rw [wilderSumFrom, List.mem_singleton] at hy
      rw [hy]
      exact ⟨hprev, fun h => h⟩
  | cons x rest ih =>
      have hx : 0 ≤ x := hxs x List.mem_cons_self
      have htwo : (2 : ℚ) ≤ period := by exact_mod_cast hperiod
      have hpart : prev / period ≤ prev / 2 := div_le_div_of_nonneg_left hprev (by norm_num) htwo
      intro y hy
      rw [wilderSumFrom] at hy
      cases List.mem_cons.mp hy with
      | inl hhead =>
          rw [hhead]
          exact ⟨hprev, fun h => h⟩
      | inr hrest =>
          have hsum : 0 ≤ prev - prev / period + x := by linarith
          have hnext := ih hsum (fun x hx => hxs x (List.mem_cons_of_mem _ hx)) y hrest
          refine ⟨hnext.1, fun hy => ?_⟩
          have hzero := hnext.2 hy
          linarith

theorem wilderSmoothing_zero {period : Nat} (hperiod : 2 ≤ period) {values : List ℚ}
    (hvalues : forall x, x ∈ values -> 0 ≤ x) :
    forall y, y ∈ wilderSmoothing period values ->
      0 ≤ y ∧ (y = 0 -> (wilderSmoothing period values).head? = some 0) := by
  unfold wilderSmoothing
  split_ifs with hshort
  · intro y hy
    cases hy
  · have hseed : 0 ≤ (values.take period).sum :=
      List.sum_nonneg fun x hx => hvalues x (List.mem_of_mem_take hx)
    intro y hy
    rcases wilderSumFrom_nonneg hperiod hseed
      (fun x hx => hvalues x (List.mem_of_mem_drop hx)) y hy with ⟨hnonneg, hzero⟩
    refine ⟨hnonneg, fun hy => ?_⟩
    rw [hzero hy]
    cases values.drop period with
    | nil =>
        rfl
    | cons x rest =>
        rfl

theorem pairwise_nonneg {f : BacktestCandle -> BacktestCandle -> ℚ}
    (hf : forall prev c, 0 ≤ f prev c) (candles : List BacktestCandle) :
    forall x, x ∈ pairwise f candles -> 0 ≤ x := by
  induction candles with
  | nil =>
      intro x hx
      cases hx
  | cons c rest ih =>
      cases rest with
      | nil =>
          intro x hx
          cases hx
      | cons next rest =>
          intro x hx
          rw [pairwise] at hx
          cases List.mem_cons.mp hx with
          | inl hhead =>
              rw [hhead]
              exact hf c next
          | inr hrest =>
              exact ih x hrest

theorem trueRange_nonneg (prev c : BacktestCandle) : 0 ≤ trueRange prev c :=
  le_max_of_le_right (le_max_of_le_left (abs_nonneg _))

theorem plusDM_nonneg (prev c : BacktestCandle) : 0 ≤ plusDM prev c := by
  unfold plusDM
  dsimp only
  split_ifs with hup
  · exact hup.2.le
  · exact le_refl 0

theorem minusDM_nonneg (prev c : BacktestCandle) : 0 ≤ minusDM prev c := by
  unfold minusDM
  dsimp only
  split_ifs with hdown
  · exact hdown.2.le
  · exact le_refl 0

theorem directionalIndex_eq_none {apdm amdm atr : ℚ} (h : directionalIndex apdm amdm atr = none)
    (hp : 0 ≤ apdm) (hm : 0 ≤ amdm) : atr = 0 ∨ (apdm = 0 ∧ amdm = 0) := by
  unfold directionalIndex at h
  dsimp only at h
  split_ifs at h with hflat
  by_cases hatr : atr = 0
  · exact Or.inl hatr
  · right
    have hsum := hflat.resolve_left hatr
    rw [<- add_div, div_eq_zero_iff, <- add_mul, mul_eq_zero] at hsum
    have hzero : apdm + amdm = 0 := by
      rcases hsum with (hzero | hhundred) | hatr'
      · exact hzero
      · norm_num at hhundred
      · exact absurd hatr' hatr
    constructor
    · linarith
    · linarith

section Adx

variable {period : Nat}

def smoothedMoves (period : Nat) (f : BacktestCandle -> BacktestCandle -> ℚ)
    (candles : List BacktestCandle) : List ℚ :=
  wilderSmoothing period (pairwise f candles)

def directionalIndices (period : Nat) (candles : List BacktestCandle) : List (Option ℚ) :=
  ((smoothedMoves period plusDM candles).zip (smoothedMoves period minusDM candles)).zipWith
    (fun (p, m) a => directionalIndex p m a) (smoothedMoves period trueRange candles)

def moveIndices (period : Nat) (f : BacktestCandle -> BacktestCandle -> ℚ)
    (candles : List BacktestCandle) : List (Option ℚ) :=
  (smoothedMoves period f candles).zipWith
    (fun p a => if a = 0 then none else some (p * 100 / a)) (smoothedMoves period trueRange candles)

theorem refAdx_eq (period : Nat) (candles : List BacktestCandle) :
    refAdx period candles = adxValues period (directionalIndices period candles)
      (moveIndices period plusDM candles) (moveIndices period minusDM candles) := rfl

theorem smoothedMoves_online (hperiod : 0 < period)
    (f : BacktestCandle -> BacktestCandle -> ℚ) :
    Online (1 + (period - 1)) (smoothedMoves period f) :=
  (wilderSmoothing_online hperiod).comp (pairwise_online f)

theorem moveIndices_online (hperiod : 0 < period) (f : BacktestCandle -> BacktestCandle -> ℚ) :
    Online (1 + (period - 1)) (moveIndices period f) :=
  (smoothedMoves_online hperiod f).zipWith (smoothedMoves_online hperiod trueRange) _

theorem directionalIndices_online (hperiod : 0 < period) :
    Online (1 + (period - 1)) (directionalIndices period) := by
  have hmoves := (smoothedMoves_online hperiod plusDM).zipWith
    (smoothedMoves_online hperiod minusDM) Prod.mk
  have hdx := hmoves.zipWith (smoothedMoves_online hperiod trueRange)
    (fun (p, m) a => directionalIndex p m a)
  have hzip : directionalIndices period = fun candles =>
      (List.zipWith Prod.mk (smoothedMoves period plusDM candles)
        (smoothedMoves period minusDM candles)).zipWith
          (fun (p, m) a => directionalIndex p m a) (smoothedMoves period trueRange candles) := by
    funext candles
    rw [directionalIndices, List.zip_eq_zipWith]
  rw [hzip]
  exact hdx

theorem head?_eq_of_mem {xs : List item} {x : item} (h : x ∈ xs) :
    exists first, xs.head? = some first := by
  cases xs with
  | nil =>
      cases h
  | cons first rest =>
      exact ⟨first, rfl⟩

theorem directionalIndices_start (hperiod : 2 ≤ period) (candles : List BacktestCandle)
    (h : none ∈ directionalIndices period candles) :
    (directionalIndices period candles).head? = some none := by
  have hplus := wilderSmoothing_zero hperiod (pairwise_nonneg plusDM_nonneg candles)
  have hminus := wilderSmoothing_zero hperiod (pairwise_nonneg minusDM_nonneg candles)
  have hrange := wilderSmoothing_zero hperiod (pairwise_nonneg trueRange_nonneg candles)
  rcases List.mem_iff_getElem?.mp h with ⟨k, hk⟩
  rw [directionalIndices, List.getElem?_zipWith_eq_some] at hk
  rcases hk with ⟨⟨p, m⟩, a, hpm, ha, hnone⟩
  rcases List.getElem?_zip_eq_some.mp hpm with ⟨hp, hm⟩
  have hpmem := List.mem_of_getElem? hp
  have hmmem := List.mem_of_getElem? hm
  have hamem := List.mem_of_getElem? ha
  rcases head?_eq_of_mem hpmem with ⟨p0, hp0⟩
  rcases head?_eq_of_mem hmmem with ⟨m0, hm0⟩
  rcases head?_eq_of_mem hamem with ⟨a0, ha0⟩
  have hhead : (directionalIndices period candles).head? = some (directionalIndex p0 m0 a0) := by
    rw [directionalIndices, List.head?_zipWith, List.zip_eq_zipWith, List.head?_zipWith, hp0, hm0,
      ha0]
  rw [hhead]
  cases directionalIndex_eq_none hnone (hplus p hpmem).1 (hminus m hmmem).1 with
  | inl hflat =>
      have hzero : a0 = 0 := Option.some.inj (ha0.symm.trans ((hrange a hamem).2 hflat))
      rw [hzero, directionalIndex, if_pos (Or.inl rfl)]
  | inr hstill =>
      have hpzero : p0 = 0 := Option.some.inj (hp0.symm.trans ((hplus p hpmem).2 hstill.1))
      have hmzero : m0 = 0 := Option.some.inj (hm0.symm.trans ((hminus m hmmem).2 hstill.2))
      rw [hpzero, hmzero, directionalIndex, if_pos (Or.inr (by norm_num))]

theorem refAdx_online (hperiod : 2 ≤ period) :
    Online (1 + (period - 1) + (period - 1)) (refAdx period) where
  take := by
    intro candles n
    have hpos : 0 < period := by omega
    rw [refAdx_eq, refAdx_eq, (directionalIndices_online hpos).take,
      (moveIndices_online hpos plusDM).take, (moveIndices_online hpos minusDM).take,
      adxValues_take hpos (directionalIndices_start hperiod candles), Nat.sub_sub]
  length := by
    intro candles
    have hpos : 0 < period := by omega
    have hdx := (directionalIndices_online hpos).length candles
    rw [refAdx_eq, adxValues_length hpos, hdx, Nat.sub_sub]
    · rw [(moveIndices_online hpos plusDM).length, hdx]
    · rw [(moveIndices_online hpos minusDM).length, hdx]

end Adx

/-!
# The documented package
-/

theorem documentedIndicators_causal : CausalIndicators documentedIndicators := by
  intro candles n
  have hcloses : Online 0 (List.map BacktestCandle.close) := Online.map _
  have hema20 := (refEma_online (show 0 < 20 by decide)).comp hcloses
  have hema50 := (refEma_online (show 0 < 50 by decide)).comp hcloses
  have hema200 := (refEma_online (show 0 < 200 by decide)).comp hcloses
  have hrsi := (refRsi_online (show 0 < 14 by decide)).comp hcloses
  have hatr := refAtr_online (show 0 < 14 by decide)
  have hbaseline := (refSma_online (show 0 < 20 by decide)).comp hatr
  have hadx := refAdx_online (show 2 ≤ 14 by decide)
  simp only [computeIndicators, IndicatorState.take, documentedIndicators,
    IndicatorState.mk.injEq]
  exact ⟨padFront_take hema20 candles n, padFront_take hema50 candles n,
    padFront_take hema200 candles n, padFront_take hrsi candles n, padFront_take hatr candles n,
    padFront_take ((Online.map AdxValue.adx).comp hadx) candles n,
    padFront_take ((Online.map AdxValue.pdi).comp hadx) candles n,
    padFront_take ((Online.map AdxValue.mdi).comp hadx) candles n,
    padFront_take hbaseline candles n⟩

end Engine
end Shamarx
