import Shamarx.Engine.Types
import Mathlib.Algebra.Order.Field.Rat

/-!
# Indicator arrays

The indicator package is a parameter: each calculation returns its defined
values only, and `computeIndicators` pads them to the candle indices.  A none in
an output is a `NaN`.
-/

namespace Shamarx
namespace Engine

structure AdxValue where
  adx : Option ℚ
  pdi : Option ℚ
  mdi : Option ℚ

structure TechnicalIndicators where
  ema : Nat -> List ℚ -> List (Option ℚ)
  rsi : Nat -> List ℚ -> List (Option ℚ)
  sma : Nat -> List (Option ℚ) -> List (Option ℚ)
  atr : Nat -> List BacktestCandle -> List (Option ℚ)
  adx : Nat -> List BacktestCandle -> List AdxValue

def padFront (n : Nat) (xs : List (Option ℚ)) : List (Option ℚ) :=
  List.replicate (n - xs.length) none ++ xs

def computeIndicators (lib : TechnicalIndicators) (candles : List BacktestCandle) :
    IndicatorState :=
  let closes := candles.map BacktestCandle.close
  let pad := padFront candles.length
  let atr14Raw := lib.atr 14 candles
  let adxRaw := lib.adx 14 candles
  { ema20 := pad (lib.ema 20 closes)
    ema50 := pad (lib.ema 50 closes)
    ema200 := pad (lib.ema 200 closes)
    rsi14 := pad (lib.rsi 14 closes)
    atr14 := pad atr14Raw
    adx14 := pad (adxRaw.map AdxValue.adx)
    plusDI14 := pad (adxRaw.map AdxValue.pdi)
    minusDI14 := pad (adxRaw.map AdxValue.mdi)
    atrBaseline := pad (lib.sma 20 atr14Raw) }

/-!
# The documented formulas

The package's formulas in exact arithmetic: simple and exponential averages
seeded with the average of the first period, Wilder averages of the true range
and of the directional index.  They are the instance concrete runs are read at.
-/

def average (xs : List ℚ) : ℚ :=
  xs.sum / xs.length

def smoothFrom (weight : ℚ) (prev : ℚ) : List ℚ -> List ℚ
  | [] => [prev]
  | x :: rest => prev :: smoothFrom weight ((x - prev) * weight + prev) rest

def smooth (weight : ℚ) (period : Nat) (values : List ℚ) : List ℚ :=
  if values.length < period then []
  else smoothFrom weight (average (values.take period)) (values.drop period)

def refEma (period : Nat) (values : List ℚ) : List (Option ℚ) :=
  (smooth (2 / (period + 1)) period values).map some

def refWema (period : Nat) (values : List ℚ) : List ℚ :=
  smooth (1 / period) period values

def refSma (period : Nat) (values : List (Option ℚ)) : List (Option ℚ) :=
  (List.range (values.length + 1 - period)).map fun i =>
    (((values.drop i).take period).mapM id).map average

def trueRange (prev c : BacktestCandle) : ℚ :=
  max (c.high - c.low) (max |c.high - prev.close| |c.low - prev.close|)

def pairwise (f : BacktestCandle -> BacktestCandle -> ℚ) : List BacktestCandle -> List ℚ
  | prev :: c :: rest => f prev c :: pairwise f (c :: rest)
  | _ => []

def refAtr (period : Nat) (candles : List BacktestCandle) : List (Option ℚ) :=
  (refWema period (pairwise trueRange candles)).map some

def plusDM (prev c : BacktestCandle) : ℚ :=
  let upMove := c.high - prev.high
  let downMove := prev.low - c.low
  if downMove < upMove ∧ 0 < upMove then upMove else 0

def minusDM (prev c : BacktestCandle) : ℚ :=
  let upMove := c.high - prev.high
  let downMove := prev.low - c.low
  if upMove < downMove ∧ 0 < downMove then downMove else 0

def wilderSumFrom (period : Nat) (prev : ℚ) : List ℚ -> List ℚ
  | [] => [prev]
  | x :: rest => prev :: wilderSumFrom period (prev - prev / period + x) rest

def wilderSmoothing (period : Nat) (values : List ℚ) : List ℚ :=
  if values.length < period then []
  else wilderSumFrom period (values.take period).sum (values.drop period)

/-- Directional index of smoothed moves; a flat market divides zero by zero. -/
def directionalIndex (apdm amdm atr : ℚ) : Option ℚ :=
  let pdi := apdm * 100 / atr
  let mdi := amdm * 100 / atr
  if atr = 0 ∨ pdi + mdi = 0 then none else some (|pdi - mdi| / (pdi + mdi) * 100)

def refAdx (period : Nat) (candles : List BacktestCandle) : List AdxValue :=
  let atr := wilderSmoothing period (pairwise trueRange candles)
  let apdm := wilderSmoothing period (pairwise plusDM candles)
  let amdm := wilderSmoothing period (pairwise minusDM candles)
  let dx := (apdm.zip amdm).zipWith (fun (p, m) a => directionalIndex p m a) atr
  let pdi := apdm.zipWith (fun p a => if a = 0 then none else some (p * 100 / a)) atr
  let mdi := amdm.zipWith (fun m a => if a = 0 then none else some (m * 100 / a)) atr
  match dx.mapM id with
  | none => List.replicate (dx.length + 1 - period) ⟨none, none, none⟩
  | some values =>
      (refWema period values).zipWith
        (fun a (p, m) => ⟨some a, p, m⟩)
        ((pdi.drop (period - 1)).zip (mdi.drop (period - 1)))

def refRsi (period : Nat) (values : List ℚ) : List (Option ℚ) :=
  let moves := values.zipWith (fun prev x => x - prev) (values.drop 1)
  let gains := refWema period (moves.map fun m => max m 0)
  let losses := refWema period (moves.map fun m => max (-m) 0)
  gains.zipWith
    (fun g l => if l = 0 then some 100 else some (100 - 100 / (1 + g / l))) losses

def documentedIndicators : TechnicalIndicators :=
  { ema := refEma, rsi := refRsi, sma := refSma, atr := refAtr, adx := refAdx }

end Engine
end Shamarx
