import Shamarx.Foundation.InsertionMap
import Shamarx.Foundation.Rounding

/-!
# cTrader volumes

The broker counts volume in cents of units.  Lots are rounded to whole cents,
snapped to the volume step of the symbol, and kept between its smallest and
largest volume.  Lots and quotients are exact rationals.
-/

namespace Shamarx
namespace Broker

open Foundation

def defaultLotSizeCents : Int := 10000000

/-- The fields of a `ProtoOASymbol` that the conversion reads, each absent or zero
when the broker did not send it. -/
structure SymbolDetail where
  lotSize : Option Int
  stepVolume : Option Int
  minVolume : Option Int
  maxVolume : Option Int
  deriving DecidableEq, Repr

namespace SymbolDetail

def empty : SymbolDetail :=
  { lotSize := none, stepVolume := none, minVolume := none, maxVolume := none }

def orElse (value : Option Int) (fallback : Int) : Int :=
  match value with
  | some n => if n = 0 then fallback else n
  | none => fallback

theorem orElse_of_pos {value : Option Int} {fallback n : Int} (h : value = some n)
    (hn : 0 < n) : orElse value fallback = n := by
  rw [h, orElse, if_neg hn.ne']

end SymbolDetail

abbrev SymbolDetails := InsertionMap Int SymbolDetail

namespace SymbolDetails

def detailsOf (table : SymbolDetails) (symbolId : Int) : SymbolDetail :=
  (table.get symbolId).getD SymbolDetail.empty

def lotSizeCents (table : SymbolDetails) (symbolId : Int) : Int :=
  SymbolDetail.orElse (table.detailsOf symbolId).lotSize defaultLotSizeCents

def lotsToVolume (table : SymbolDetails) (symbolId : Int) (lots : ℚ) : Int :=
  let details := table.detailsOf symbolId
  let volume := roundHalfEven (lots * table.lotSizeCents symbolId)
  let step := SymbolDetail.orElse details.stepVolume 0
  let volume :=
    if 0 < step then max step (roundHalfEven ((volume : ℚ) / step) * step) else volume
  let minVol := SymbolDetail.orElse details.minVolume 0
  let volume := if 0 < minVol then max volume minVol else volume
  let maxVol := SymbolDetail.orElse details.maxVolume 0
  if 0 < maxVol then min volume maxVol else volume

def volumeToLots (table : SymbolDetails) (symbolId : Int) (volume : Int) : ℚ :=
  (volume : ℚ) / table.lotSizeCents symbolId

/-!
# Symbols with all four sizes
-/

/-- A detail record whose four sizes are positive and whose bounds are whole steps. -/
structure Tradable (table : SymbolDetails) (symbolId lotSize step minVol maxVol : Int) :
    Prop where
  lotSize_eq : (table.detailsOf symbolId).lotSize = some lotSize
  step_eq : (table.detailsOf symbolId).stepVolume = some step
  minVol_eq : (table.detailsOf symbolId).minVolume = some minVol
  maxVol_eq : (table.detailsOf symbolId).maxVolume = some maxVol
  lotSize_pos : 0 < lotSize
  step_pos : 0 < step
  minVol_pos : 0 < minVol
  min_le_max : minVol ≤ maxVol
  step_dvd_min : step ∣ minVol
  step_dvd_max : step ∣ maxVol

namespace Tradable

variable {table : SymbolDetails} {symbolId lotSize step minVol maxVol : Int}

theorem lotSizeCents_eq (h : Tradable table symbolId lotSize step minVol maxVol) :
    table.lotSizeCents symbolId = lotSize :=
  SymbolDetail.orElse_of_pos h.lotSize_eq h.lotSize_pos

theorem step_le_min (h : Tradable table symbolId lotSize step minVol maxVol) :
    step ≤ minVol :=
  Int.le_of_dvd h.minVol_pos h.step_dvd_min

/-- The smallest volume is a whole step, so it absorbs the clamp at one step. -/
theorem lotsToVolume_eq (h : Tradable table symbolId lotSize step minVol maxVol) (lots : ℚ) :
    table.lotsToVolume symbolId lots =
      min (max (snapTo step (roundHalfEven (lots * lotSize))) minVol) maxVol := by
  have hmax : 0 < maxVol := h.minVol_pos.trans_le h.min_le_max
  unfold lotsToVolume
  dsimp only
  rw [h.lotSizeCents_eq, SymbolDetail.orElse_of_pos h.step_eq h.step_pos,
    SymbolDetail.orElse_of_pos h.minVol_eq h.minVol_pos,
    SymbolDetail.orElse_of_pos h.maxVol_eq hmax, if_pos h.step_pos, if_pos h.minVol_pos,
    if_pos hmax, max_comm step, max_assoc, max_eq_right h.step_le_min]
  rfl

theorem step_dvd_lotsToVolume (h : Tradable table symbolId lotSize step minVol maxVol)
    (lots : ℚ) : step ∣ table.lotsToVolume symbolId lots := by
  rw [h.lotsToVolume_eq]
  have hsnap := dvd_snapTo step (roundHalfEven (lots * lotSize))
  rcases min_choice (max (snapTo step (roundHalfEven (lots * lotSize))) minVol) maxVol with
    hmin | hmin
  · rw [hmin]
    rcases max_choice (snapTo step (roundHalfEven (lots * lotSize))) minVol with
      hmax | hmax
    · rw [hmax]
      exact hsnap
    · rw [hmax]
      exact h.step_dvd_min
  · rw [hmin]
    exact h.step_dvd_max

theorem lotsToVolume_in_range (h : Tradable table symbolId lotSize step minVol maxVol)
    (lots : ℚ) :
    minVol ≤ table.lotsToVolume symbolId lots ∧
      table.lotsToVolume symbolId lots ≤ maxVol := by
  rw [h.lotsToVolume_eq]
  exact ⟨le_min (le_max_right _ _) h.min_le_max, min_le_right _ _⟩

theorem lotsToVolume_mono (h : Tradable table symbolId lotSize step minVol maxVol) :
    Monotone (table.lotsToVolume symbolId) := by
  intro lots lots' hle
  rw [h.lotsToVolume_eq, h.lotsToVolume_eq]
  have hcents : lots * lotSize ≤ lots' * lotSize :=
    mul_le_mul_of_nonneg_right hle (Int.cast_nonneg h.lotSize_pos.le)
  have hround := roundHalfEven_mono hcents
  have hsnap := snapTo_mono h.step_pos (Int.cast_le (R := ℚ).mpr hround)
  exact min_le_min_right _ (max_le_max_right _ hsnap)

/-- Lots worth a whole number of steps in range survive both roundings and the clamps. -/
theorem lotsToVolume_of_cents_eq (h : Tradable table symbolId lotSize step minVol maxVol)
    {lots : ℚ} {cents : Int} (hcents : lots * lotSize = cents) (hdvd : step ∣ cents)
    (hmin : minVol ≤ cents) (hmax : cents ≤ maxVol) :
    table.lotsToVolume symbolId lots = cents := by
  rw [h.lotsToVolume_eq, hcents, roundHalfEven_intCast, snapTo_of_dvd h.step_pos hdvd,
    max_eq_left hmin, min_eq_left hmax]

theorem volumeToLots_of_cents_eq (h : Tradable table symbolId lotSize step minVol maxVol)
    {lots : ℚ} {cents : Int} (hcents : lots * lotSize = cents) :
    table.volumeToLots symbolId cents = lots := by
  have hne : (lotSize : ℚ) ≠ 0 := by
    exact_mod_cast h.lotSize_pos.ne'
  rw [volumeToLots, h.lotSizeCents_eq, <- hcents, mul_div_cancel_right₀ _ hne]

end Tradable

/-- Every lot size becomes a whole number of steps the broker accepts, in
order of the lot sizes, and a volume that needs no rounding gives its lots back. -/
theorem lotsToVolume_tradable {table : SymbolDetails}
    {symbolId lotSize step minVol maxVol : Int}
    (h : Tradable table symbolId lotSize step minVol maxVol) (lots : ℚ) :
    step ∣ table.lotsToVolume symbolId lots ∧
      minVol ≤ table.lotsToVolume symbolId lots ∧
      table.lotsToVolume symbolId lots ≤ maxVol ∧
      (forall lots', lots ≤ lots' ->
        table.lotsToVolume symbolId lots ≤ table.lotsToVolume symbolId lots') ∧
      (forall cents : Int, lots * lotSize = cents -> step ∣ cents -> minVol ≤ cents ->
        cents ≤ maxVol ->
        table.volumeToLots symbolId (table.lotsToVolume symbolId lots) = lots) := by
  refine ⟨h.step_dvd_lotsToVolume lots, (h.lotsToVolume_in_range lots).1,
    (h.lotsToVolume_in_range lots).2, ?_, ?_⟩
  · intro lots' hle
    exact h.lotsToVolume_mono hle
  · intro cents hcents hdvd hmin hmax
    rw [h.lotsToVolume_of_cents_eq hcents hdvd hmin hmax, h.volumeToLots_of_cents_eq hcents]

def euroDetails : SymbolDetails :=
  [(1, { lotSize := some 10000000, stepVolume := some 100000, minVolume := some 100000,
         maxVolume := some 500000000 })]

theorem euroDetails_tradable :
    Tradable euroDetails 1 10000000 100000 100000 500000000 where
  lotSize_eq := by decide
  step_eq := by decide
  minVol_eq := by decide
  maxVol_eq := by decide
  lotSize_pos := by decide
  step_pos := by decide
  minVol_pos := by decide
  min_le_max := by decide
  step_dvd_min := by decide
  step_dvd_max := by decide

/-- One and a half hundredths of a lot is halfway between two steps and goes to the
even one; two hundredths come back unchanged. -/
theorem euroDetails_converted :
    euroDetails.lotsToVolume 1 (3 / 200) = 200000 ∧
      euroDetails.lotsToVolume 1 (3 / 200) ≤ euroDetails.lotsToVolume 1 (1 / 20) ∧
      euroDetails.volumeToLots 1 (euroDetails.lotsToVolume 1 (1 / 50)) = 1 / 50 :=
  ⟨by decide +kernel,
    (lotsToVolume_tradable euroDetails_tradable (3 / 200)).2.2.2.1 (1 / 20) (by norm_num),
    (lotsToVolume_tradable euroDetails_tradable (1 / 50)).2.2.2.2 200000 (by norm_num)
      (by decide) (by decide) (by decide)⟩

end SymbolDetails
end Broker
end Shamarx
