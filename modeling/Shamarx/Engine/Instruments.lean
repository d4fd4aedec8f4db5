import Shamarx.Engine.Types
import Shamarx.Foundation.Calendar

/-!
# Instruments and pair registry

The instrument table, the time-of-day spread model and the per-pair strategy
registry.  Every registered pair has an instrument row; the two index
instruments have a row but no pair configuration.
-/

namespace Shamarx
namespace Engine

open Foundation

inductive Instrument where
  | XAUUSD
  | GBPUSD
  | EURUSD
  | USDJPY
  | AUDUSD
  | USDCAD
  | EURJPY
  | US30
  | NAS100
  deriving DecidableEq, Repr

def Instrument.isJpyPair : Instrument -> Bool
  | .USDJPY => true
  | .EURJPY => true
  | _ => false

structure Spreads where
  londonNyOverlap : ℚ
  london : ℚ
  nyExtended : ℚ
  asian : ℚ
  offHours : ℚ

structure InstrumentConfig where
  lotSizeUnits : ℚ
  commissionPerLot : ℚ
  minAtr : ℚ
  pricePrecision : Nat
  spreads : Spreads

def getInstrumentConfig : Instrument -> InstrumentConfig
  | .XAUUSD =>
      { lotSizeUnits := 100, commissionPerLot := 7, minAtr := 35 / 10,
        pricePrecision := 2,
        spreads := ⟨20 / 100, 25 / 100, 30 / 100, 50 / 100, 40 / 100⟩ }
  | .GBPUSD =>
      { lotSizeUnits := 100000, commissionPerLot := 7, minAtr := 20 / 10000,
        pricePrecision := 5,
        spreads := ⟨20 / 100000, 25 / 100000, 30 / 100000, 50 / 100000, 40 / 100000⟩ }
  | .EURUSD =>
      { lotSizeUnits := 100000, commissionPerLot := 7, minAtr := 18 / 10000,
        pricePrecision := 5,
        spreads := ⟨15 / 100000, 20 / 100000, 25 / 100000, 45 / 100000, 35 / 100000⟩ }
  | .USDJPY =>
      { lotSizeUnits := 100000, commissionPerLot := 7, minAtr := 15 / 100,
        pricePrecision := 3,
        spreads := ⟨15 / 1000, 20 / 1000, 25 / 1000, 40 / 1000, 30 / 1000⟩ }
  | .AUDUSD =>
      { lotSizeUnits := 100000, commissionPerLot := 7, minAtr := 15 / 10000,
        pricePrecision := 5,
        spreads := ⟨18 / 100000, 25 / 100000, 30 / 100000, 35 / 100000, 40 / 100000⟩ }
  | .USDCAD =>
      { lotSizeUnits := 100000, commissionPerLot := 7, minAtr := 15 / 10000,
        pricePrecision := 5,
        spreads := ⟨20 / 100000, 30 / 100000, 25 / 100000, 60 / 100000, 45 / 100000⟩ }
  | .EURJPY =>
      { lotSizeUnits := 100000, commissionPerLot := 7, minAtr := 20 / 100,
        pricePrecision := 3,
        spreads := ⟨20 / 1000, 25 / 1000, 30 / 1000, 45 / 1000, 40 / 1000⟩ }
  | .US30 =>
      { lotSizeUnits := 1, commissionPerLot := 0, minAtr := 30,
        pricePrecision := 1,
        spreads := ⟨24 / 10, 36 / 10, 24 / 10, 80 / 10, 48 / 10⟩ }
  | .NAS100 =>
      { lotSizeUnits := 1, commissionPerLot := 0, minAtr := 20,
        pricePrecision := 1,
        spreads := ⟨10 / 10, 19 / 10, 10 / 10, 40 / 10, 19 / 10⟩ }

/-- Time-of-day spread: overlap, London, late New York, Asian, off hours. -/
def getSpread (symbol : Instrument) (openTime : Int) : ℚ :=
  let spreads := (getInstrumentConfig symbol).spreads
  let hour := hourOf openTime
  if 12 ≤ hour ∧ hour ≤ 15 then spreads.londonNyOverlap
  else if 7 ≤ hour ∧ hour ≤ 11 then spreads.london
  else if 16 ≤ hour ∧ hour ≤ 17 then spreads.nyExtended
  else if 22 ≤ hour ∨ hour ≤ 6 then spreads.asian
  else spreads.offHours

/-!
# Pair registry
-/

def xauusdSmcConfig : SmcPairConfig :=
  { sweepBufferAtr := 10 / 100
    slBufferAtrM15 := 20 / 100
    setupExpiryH1Bars := 8
    atrSpikeLimit := 25 / 10
    trendingD1Adx := 22
    d1AdxFloor := 18
    recentSwingLookbackH1 := 24
    slCooldownBars := 4
    killzones := [(6, 12), (12, 18)]
    maxSlSweepRatio := some (1 / 2)
    tp1PartialFraction := 30 / 100
    tp1R := 8 / 10
    tp2R := 4
    maxSlAtrM15 := some 2
    autoModeFilter := some true
    useAnchorSweeps := true
    anchorDisplacementAtr := some 0 }

def eurusdSmcConfig : SmcPairConfig :=
  { sweepBufferAtr := 25 / 100
    slBufferAtrM15 := 30 / 100
    setupExpiryH1Bars := 12
    atrSpikeLimit := 2
    trendingD1Adx := 22
    d1AdxFloor := 10
    recentSwingLookbackH1 := 32
    slCooldownBars := 6
    killzones := [(7, 11), (13, 17)]
    maxSlSweepRatio := some (1 / 2)
    tp1PartialFraction := 30 / 100
    tp1R := 8 / 10
    tp2R := 35 / 10
    autoModeFilter := some true
    useAnchorSweeps := true
    anchorDisplacementAtr := some 0
    newsBlackoutMinutes := some 15 }

def gbpusdSmcConfig : SmcPairConfig :=
  { sweepBufferAtr := 25 / 100
    slBufferAtrM15 := 30 / 100
    setupExpiryH1Bars := 10
    atrSpikeLimit := 22 / 10
    trendingD1Adx := 22
    d1AdxFloor := 10
    recentSwingLookbackH1 := 28
    slCooldownBars := 6
    killzones := [(7, 11), (13, 17)]
    maxSlSweepRatio := some (1 / 2)
    tp1PartialFraction := 30 / 100
    tp1R := 8 / 10
    tp2R := 35 / 10
    autoModeFilter := some true
    useAnchorSweeps := true
    anchorDisplacementAtr := some 0
    newsBlackoutMinutes := some 15 }

def usdjpySmcConfig : SmcPairConfig :=
  { sweepBufferAtr := 25 / 100
    slBufferAtrM15 := 30 / 100
    setupExpiryH1Bars := 10
    atrSpikeLimit := 35 / 10
    trendingD1Adx := 22
    d1AdxFloor := 10
    recentSwingLookbackH1 := 28
    slCooldownBars := 6
    killzones := [(0, 3), (7, 11), (13, 17)]
    maxSlSweepRatio := some (1 / 2)
    tp1PartialFraction := 30 / 100
    tp1R := 8 / 10
    tp2R := 35 / 10
    autoModeFilter := some true
    useAnchorSweeps := true
    anchorDisplacementAtr := some 0
    newsBlackoutMinutes := some 15 }

/-- The registry.  The three candidate pairs are clones of a template. -/
def smcPairRegistry : Instrument -> Option SmcPairConfig
  | .XAUUSD => some xauusdSmcConfig
  | .EURUSD => some eurusdSmcConfig
  | .GBPUSD => some gbpusdSmcConfig
  | .USDJPY => some usdjpySmcConfig
  | .AUDUSD => some gbpusdSmcConfig
  | .USDCAD => some gbpusdSmcConfig
  | .EURJPY => some usdjpySmcConfig
  | .US30 => none
  | .NAS100 => none

abbrev PairOverrides := Instrument -> SmcPairConfig -> SmcPairConfig

def noOverrides : PairOverrides := fun _ cfg => cfg

def getSmcPairConfig (overrides : PairOverrides) (symbol : Instrument) :
    Option SmcPairConfig :=
  (smcPairRegistry symbol).map (overrides symbol)

end Engine
end Shamarx
