import Shamarx.Engine.Sweep

/-!
# Structure gates

Fair value gaps, order blocks and breaks of structure.  The mitigation flag of
the source is set together with its index, so one optional index stands for
both, with none for `-1`.
-/

namespace Shamarx
namespace Engine

open Foundation

/-- `xs[i] ?? 0`: an index past the array reads 0, a `NaN` stays one (none). -/
def nullishAt (xs : List (Option ℚ)) (i : Nat) : Option ℚ :=
  xs[i]?.getD (some 0)

structure Zone where
  top : ℚ
  bottom : ℚ
  candleTime : Int
  isBullish : Bool
  deriving DecidableEq

def Zone.distance (z : Zone) (price : ℚ) : ℚ :=
  if z.top < price then price - z.top else z.bottom - price

def Zone.Contains (z : Zone) (price : ℚ) : Prop :=
  z.bottom ≤ price ∧ price ≤ z.top

instance (z : Zone) (price : ℚ) : Decidable (z.Contains price) :=
  inferInstanceAs (Decidable (_ ∧ _))

/-- First candle from `lo` to `endIdx` whose wick re-enters the zone. -/
def mitigationIdx (candles : List BacktestCandle) (z : Zone) (lo endIdx : Nat) :
    Option Nat :=
  scanUp lo (endIdx + 1) fun k => do
    let c <- candles[k]?
    if z.isBullish then if c.low ≤ z.top then some k else none
    else if z.bottom ≤ c.high then some k else none

/-!
# Fair value gaps
-/

structure Fvg where
  zone : Zone
  candleIdx : Nat
  mitigatedAtIdx : Option Nat
  height : ℚ
  deriving DecidableEq

structure DetectFvgsOptions where
  lookback : Option Nat := none
  endIdx : Option Nat := none
  minHeightAtrFraction : Option ℚ := none
  atr : List (Option ℚ) := []

def makeFvg (candles : List BacktestCandle) (candleIdx : Nat) (bottom top : ℚ)
    (isBullish : Bool) (endIdx : Nat) : Option Fvg := do
  let c <- candles[candleIdx]?
  let zone : Zone :=
    { top := top, bottom := bottom, candleTime := c.openTime, isBullish := isBullish }
  some
    { zone := zone
      candleIdx := candleIdx
      mitigatedAtIdx := mitigationIdx candles zone (candleIdx + 2) endIdx
      height := top - bottom }

def passesAtrFilter (fvg : Fvg) (minAtrFrac : ℚ) (atr : List (Option ℚ)) : Bool :=
  if minAtrFrac ≤ 0 ∨ atr = [] then true
  else
    match nullishAt atr fvg.candleIdx with
    | none => false
    | some localAtr => decide (localAtr ≤ 0 ∨ minAtrFrac * localAtr ≤ fvg.height)

def fvgAt (candles : List BacktestCandle) (minAtrFrac : ℚ) (atr : List (Option ℚ))
    (endIdx i : Nat) : Option Fvg := do
  let prev <- candles[i - 1]?
  let next <- candles[i + 1]?
  let fvg <-
    if prev.high < next.low then makeFvg candles i prev.high next.low true endIdx
    else if next.high < prev.low then makeFvg candles i next.high prev.low false endIdx
    else none
  if passesAtrFilter fvg minAtrFrac atr then some fvg else none

def detectFvgs (candles : List BacktestCandle) (options : DetectFvgsOptions) : List Fvg :=
  let endIdx := min (options.endIdx.getD (candles.length - 1)) (candles.length - 1)
  let lookback := options.lookback.getD endIdx
  let startIdx := max 1 (endIdx - lookback)
  (List.range' (startIdx + 1) (endIdx - (startIdx + 1))).filterMap
    (fvgAt candles (options.minHeightAtrFraction.getD 0) options.atr endIdx)

def nearestUnmitigatedFvg (candles : List BacktestCandle) (side : Side)
    (options : DetectFvgsOptions) : Option Fvg :=
  (detectFvgs candles options).reverse.find? fun f =>
    f.mitigatedAtIdx.isNone && (f.zone.isBullish == decide (side = .buy))

def hasSupportingFvg (candles : List BacktestCandle) (side : Side)
    (entryPrice maxDistanceAtr : ℚ) (atr : List (Option ℚ)) (endIdx : Nat) :
    Option Fvg := do
  let fvg <- nearestUnmitigatedFvg candles side { endIdx := some endIdx, atr := atr }
  match nullishAt atr endIdx with
  | none => if fvg.zone.Contains entryPrice then some fvg else none
  | some currentAtr =>
      if currentAtr ≤ 0 ∨ fvg.zone.Contains entryPrice ∨
          fvg.zone.distance entryPrice ≤ maxDistanceAtr * currentAtr then some fvg
      else none

def sweptMoveLeftFvg (h1Candles : List BacktestCandle) (swingIdx : Nat) (side : Side)
    (lookback : Nat) (atr : List (Option ℚ)) : Option Fvg :=
  if swingIdx < 2 then none
  else
    let all := detectFvgs h1Candles
      { endIdx := some swingIdx, lookback := some lookback, atr := atr }
    (all.reverse.takeWhile fun f => decide (swingIdx - lookback ≤ f.candleIdx)).find?
      fun f => decide (f.candleIdx < swingIdx) && (f.zone.isBullish == decide (side = .sell))

/-!
# Order blocks
-/

structure OrderBlock where
  zone : Zone
  candleIdx : Nat
  displacement : ℚ
  mitigatedAtIdx : Option Nat
  deriving DecidableEq

structure DetectObOptions where
  endIdx : Option Nat := none
  lookForwardMax : Option Nat := none
  displacementAtrMult : Option ℚ := none
  atr : List (Option ℚ) := []

def makeOb (candles : List BacktestCandle) (c : BacktestCandle) (candleIdx : Nat)
    (isBullish : Bool) (displacement : ℚ) (endIdx : Nat) : OrderBlock :=
  let zone : Zone :=
    { top := c.high, bottom := c.low, candleTime := c.openTime, isBullish := isBullish }
  { zone := zone
    candleIdx := candleIdx
    displacement := displacement
    mitigatedAtIdx := mitigationIdx candles zone (candleIdx + 2) endIdx }

/-- The order block at candle `i`: an opposing candle followed within the
look-forward by a large enough move.  No comparison with a `NaN` succeeds. -/
def obAt (candles : List BacktestCandle) (lookForward : Nat) (dispMult : ℚ)
    (atr : List (Option ℚ)) (endIdx i : Nat) : Option OrderBlock := do
  let c <- candles[i]?
  let localAtr <- nullishAt atr i
  if c.close = c.open_ ∨ (localAtr ≤ 0 ∧ 0 < dispMult) then none
  else
    scanUp (i + 1) (min (i + lookForward) endIdx + 1) fun k => do
      let fwd <- candles[k]?
      let move := if c.close < c.open_ then fwd.high - c.low else c.high - fwd.low
      if dispMult * localAtr ≤ move then
        some (makeOb candles c i (decide (c.close < c.open_)) move endIdx)
      else none

def detectOrderBlocks (candles : List BacktestCandle) (options : DetectObOptions) :
    List OrderBlock :=
  let endIdx := min (options.endIdx.getD (candles.length - 1)) (candles.length - 1)
  (List.range' 1 (endIdx - 1)).filterMap
    (obAt candles (options.lookForwardMax.getD 4) (options.displacementAtrMult.getD (15 / 10))
      options.atr endIdx)

def nearestUnmitigatedOb (candles : List BacktestCandle) (side : Side)
    (options : DetectObOptions) : Option OrderBlock :=
  (detectOrderBlocks candles options).reverse.find? fun ob =>
    ob.mitigatedAtIdx.isNone && (ob.zone.isBullish == decide (side = .buy))

def hasSupportingOb (candles : List BacktestCandle) (side : Side)
    (entryPrice maxDistanceAtr : ℚ) (atr : List (Option ℚ)) (endIdx : Nat) :
    Option OrderBlock := do
  let ob <- nearestUnmitigatedOb candles side { endIdx := some endIdx, atr := atr }
  if ob.zone.Contains entryPrice then some ob
  else
    let localAtr <- nullishAt atr endIdx
    if localAtr ≤ 0 ∨ ob.zone.distance entryPrice ≤ maxDistanceAtr * localAtr then some ob
    else none

def freshObProbe (h1Candles : List BacktestCandle) (side : Side) (swingLevel : ℚ)
    (atr : List (Option ℚ)) (displacementAtrMult : ℚ) (k : Nat) : Option OrderBlock := do
  let c <- h1Candles[k]?
  let cAtr <- nullishAt atr k
  let isLowSwing := decide (side = .buy)
  let impulseSize := if isLowSwing then c.high - swingLevel else swingLevel - c.low
  let opposing := if isLowSwing then decide (c.open_ < c.close) else decide (c.close < c.open_)
  if 0 < cAtr ∧ opposing = true ∧ 0 ≤ impulseSize ∧
      displacementAtrMult * cAtr ≤ impulseSize then
    some
      { zone := { top := c.high, bottom := c.low, candleTime := c.openTime,
                  isBullish := !isLowSwing }
        candleIdx := k
        displacement := impulseSize
        mitigatedAtIdx := none }
  else none

def hasFreshObAtSweptLevel (h1Candles : List BacktestCandle) (swingIdx : Nat) (side : Side)
    (lookback : Nat) (atr : List (Option ℚ)) (displacementAtrMult : ℚ) :
    Option OrderBlock := do
  if swingIdx < 1 then none
  else
    let swingCandle <- h1Candles[swingIdx]?
    let swingLevel := if side = .buy then swingCandle.low else swingCandle.high
    scanDown (max 1 (swingIdx - lookback)) swingIdx
      (freshObProbe h1Candles side swingLevel atr displacementAtrMult)

/-!
# Breaks of structure
-/

structure Bos where
  level : ℚ
  brokenAtIdx : Nat
  brokenAtTime : Int
  isBullish : Bool
  deriving DecidableEq

def bosAt (candles : List BacktestCandle) (side : Side) (swingLookback k : Nat) :
    Option Bos := do
  let swing <- match side with
    | .buy => findRecentSwingHigh candles k swingLookback
    | .sell => findRecentSwingLow candles k swingLookback
  let c <- candles[k]?
  let broke := match side with
    | .buy => decide (swing < c.close)
    | .sell => decide (c.close < swing)
  if broke then
    some { level := swing, brokenAtIdx := k, brokenAtTime := c.openTime,
           isBullish := decide (side = .buy) }
  else none

def detectBos (candles : List BacktestCandle) (side : Side)
    (endIdx lookback swingLookback : Nat) : Option Bos :=
  if candles.length < swingLookback + 2 then none
  else
    scanDown (max 1 (max swingLookback (endIdx - lookback))) (endIdx + 1)
      (bosAt candles side swingLookback)

def hasBosAfter (candles : List BacktestCandle) (side : Side)
    (sinceIdx endIdx swingLookback : Nat) : Option Bos := do
  let bos <- detectBos candles side endIdx (max 1 (endIdx - sinceIdx)) swingLookback
  if sinceIdx ≤ bos.brokenAtIdx then some bos else none

structure BrokenLevel where
  level : ℚ
  brokenAtTime : Int
  deriving DecidableEq

def swingFractalLookback : Nat := 5

/-- One probe of `sweptLevelWasItselfABos`, at the fractal window ending at
`k + 1`. -/
def priorSwingProbe (h1Candles : List BacktestCandle) (side : Side)
    (swingCandle : BacktestCandle) (k : Nat) : Option BrokenLevel := do
  let priorSwing <- match side with
    | .buy => findRecentSwingLow h1Candles (k + 1) swingFractalLookback
    | .sell => findRecentSwingHigh h1Candles (k + 1) swingFractalLookback
  let broke := match side with
    | .buy => decide (swingCandle.low < priorSwing)
    | .sell => decide (priorSwing < swingCandle.high)
  if broke then some { level := priorSwing, brokenAtTime := swingCandle.openTime } else none

def sweptLevelWasItselfABos (h1Candles : List BacktestCandle) (swingIdx : Nat) (side : Side)
    (lookback : Nat) : Option BrokenLevel := do
  if swingIdx < 2 then none
  else
    let swingCandle <- h1Candles[swingIdx]?
    scanDown (max 1 (swingIdx - lookback)) (swingIdx - 1)
      (priorSwingProbe h1Candles side swingCandle)

end Engine
end Shamarx
