import Shamarx.Foundation.InsertionMap
import Shamarx.Foundation.WholeParts
import Shamarx.Market.DailyBars

/-!
# The Dukascopy import

Day files of one-minute bars are downloaded, resampled to the requested timeframes
and inserted into the candle table.  A checkpoint for each symbol and timeframe
says up to where a later run may skip.
-/

namespace Shamarx
namespace Market

open Foundation

inductive FeedSymbol where
  | XAUUSD
  | XAGUSD
  | EURUSD
  | GBPUSD
  | USDJPY
  | USDCHF
  | AUDUSD
  | NZDUSD
  | USDCAD
  | EURJPY
  | GBPJPY
  deriving DecidableEq, Repr

def symbolDigits : FeedSymbol -> Nat
  | .XAUUSD => 3
  | .XAGUSD => 3
  | .EURUSD => 5
  | .GBPUSD => 5
  | .USDJPY => 3
  | .USDCHF => 5
  | .AUDUSD => 5
  | .NZDUSD => 5
  | .USDCAD => 5
  | .EURJPY => 3
  | .GBPJPY => 3

/-!
# Day files
-/

/-- One record of a decompressed day file; its time is in seconds since midnight. -/
structure BidRecord where
  time : Nat
  open_ : Nat
  close : Nat
  low : Nat
  high : Nat
  volume : ℚ
  deriving DecidableEq

structure DayFile where
  records : List BidRecord
  in_day : forall r, r ∈ records -> r.time < 86400
  ordered : records.Pairwise fun r r' => r.time < r'.time

def DayFile.missing : DayFile :=
  { records := []
    in_day := fun _ hr => (nomatch hr)
    ordered := List.Pairwise.nil }

abbrev Feed := FeedSymbol -> Int -> DayFile

/-- The bar of a record; an open of zero marks a minute without a bar. -/
def parseRecord (scale : Nat) (day : Int) (r : BidRecord) : Option CandleDto :=
  if r.open_ = 0 then none
  else
    some
      { openTime := dayStart day + 1000 * r.time
        open_ := (r.open_ : ℚ) / scale
        high := (r.high : ℚ) / scale
        low := (r.low : ℚ) / scale
        close := (r.close : ℚ) / scale
        volume := r.volume }

def parseBi5 (file : DayFile) (scale : Nat) (day : Int) : List CandleDto :=
  file.records.filterMap (parseRecord scale day)

def fetchDay (feed : Feed) (symbol : FeedSymbol) (day : Int) : List CandleDto :=
  parseBi5 (feed symbol day) (10 ^ symbolDigits symbol) day

/-!
# Resampling
-/

/-- The start of the bin in which an instant falls; the bins are counted from an origin. -/
def binStart (origin length t : Int) : Int :=
  origin + (t - origin) / length * length

/-- The bar of a bin; a bin without a bar has no open and is dropped. -/
def aggregated (openTime : Int) : List CandleDto -> Option CandleDto
  | [] => none
  | first :: rest =>
      some
        { openTime := openTime
          open_ := first.open_
          high := (rest.map CandleDto.high).foldl max first.high
          low := (rest.map CandleDto.low).foldl min first.low
          close := ((first :: rest).getLast (List.cons_ne_nil first rest)).close
          volume := ((first :: rest).map CandleDto.volume).sum }

/-- Every bin from that of the first bar to that of the last one, counted from the
midnight before the first bar. -/
def resample (timeframe : Timeframe) : List CandleDto -> List CandleDto
  | [] => []
  | first :: rest =>
      let bin := binStart (dayStart (dayOf first.openTime)) (timeframeMs timeframe)
      let last := (first :: rest).getLast (List.cons_ne_nil first rest)
      let bins := ((bin last.openTime - bin first.openTime) / timeframeMs timeframe + 1).toNat
      (List.range bins).filterMap fun i : Nat =>
        let start := bin first.openTime + i * timeframeMs timeframe
        aggregated start ((first :: rest).filter fun b => bin b.openTime = start)

def barsOf (timeframe : Timeframe) (m1 : List CandleDto) : List CandleDto :=
  if timeframe = .m1 then m1 else resample timeframe m1

/-!
# The store
-/

structure ImportedCandle where
  symbol : FeedSymbol
  timeframe : Timeframe
  bar : CandleDto
  deriving DecidableEq

def ImportedCandle.key (r : ImportedCandle) : FeedSymbol × Timeframe × Int :=
  (r.symbol, r.timeframe, r.bar.openTime)

structure ImportCheckpoint where
  lastOpenTime : Int
  rowsImported : Nat
  deriving DecidableEq

structure ImportStore where
  candles : List ImportedCandle
  checkpoints : InsertionMap (FeedSymbol × Timeframe) ImportCheckpoint
  deriving DecidableEq

def ImportStore.empty : ImportStore :=
  { candles := [], checkpoints := [] }

def getCheckpoint (s : ImportStore) (symbol : FeedSymbol) (timeframe : Timeframe) :
    Option ImportCheckpoint :=
  s.checkpoints.get (symbol, timeframe)

/-- `ON CONFLICT ... DO NOTHING`, with the number of rows that were inserted. -/
def bulkUpsertCandles (candles rows : List ImportedCandle) : List ImportedCandle × Nat :=
  let stored := createMany ImportedCandle.key candles rows
  (stored, stored.length - candles.length)

def updateCheckpoint (s : ImportStore) (symbol : FeedSymbol) (timeframe : Timeframe)
    (lastTime : Int) (rowsAdded : Nat) : ImportStore :=
  let row :=
    match getCheckpoint s symbol timeframe with
    | none => { lastOpenTime := lastTime, rowsImported := rowsAdded }
    | some old =>
        { lastOpenTime := max old.lastOpenTime lastTime
          rowsImported := old.rowsImported + rowsAdded }
  { s with checkpoints := s.checkpoints.set (symbol, timeframe) row }

/-!
# A run
-/

/-- The order in which the downloads of some days complete. -/
structure Arrivals where
  order : List Int -> List Int
  perm : forall days, (order days).Perm days

structure ImportRun where
  symbol : FeedSymbol
  start : Int
  end_ : Int
  timeframes : List Timeframe
  arrivals : Arrivals

/-- The earliest of the checkpoints of the timeframes; those without one are left out. -/
def resumePoint (s : ImportStore) (symbol : FeedSymbol) (timeframes : List Timeframe) :
    Option Int :=
  (timeframes.filterMap fun tf =>
    (getCheckpoint s symbol tf).map ImportCheckpoint.lastOpenTime).min?

def resumeStart (s : ImportStore) (run : ImportRun) : Int :=
  match resumePoint s run.symbol run.timeframes with
  | none => run.start
  | some earliest =>
      if run.start < earliest then max run.start (dayStart (dayOf (earliest + msPerDay)))
      else run.start

def importDays (start end_ : Int) : List Int :=
  ((List.range (dayOf end_ + 1 - dayOf start).toNat).map fun i : Nat => dayOf start + i).filter
    fun d => weekdayOf d ≠ 6

def allM1 (feed : Feed) (run : ImportRun) (days : List Int) : List CandleDto :=
  ((run.arrivals.order days).flatMap (fetchDay feed run.symbol)).insertionSort
    fun a b => a.openTime ≤ b.openTime

def chunk : Nat := 5000

/-- The batches of one timeframe, then its checkpoint; a timeframe without bars has
neither. -/
def importTimeframe (symbol : FeedSymbol) (m1 : List CandleDto)
    (acc : ImportStore × InsertionMap Timeframe Nat) (timeframe : Timeframe) :
    ImportStore × InsertionMap Timeframe Nat :=
  let bars := barsOf timeframe m1
  match bars.getLast? with
  | none => (acc.1, acc.2.set timeframe 0)
  | some last =>
      let rows := bars.map (ImportedCandle.mk symbol timeframe)
      let upserted := (batches chunk rows).foldl
        (fun (total : List ImportedCandle × Nat) batch =>
          let result := bulkUpsertCandles total.1 batch
          (result.1, total.2 + result.2))
        (acc.1.candles, 0)
      let stored := { acc.1 with candles := upserted.1 }
      (updateCheckpoint stored symbol timeframe last.openTime upserted.2,
        acc.2.set timeframe upserted.2)

inductive ImportError where
  | indexError
  deriving DecidableEq, Repr

/-- `import_symbol`; what it returns is the number of new rows of each timeframe.  A
range of Saturdays only fails where the first of its days is logged. -/
def importSymbol (feed : Feed) (resume : Bool) (run : ImportRun) (s : ImportStore) :
    ImportStore × Except ImportError (InsertionMap Timeframe Nat) :=
  let start := if resume then resumeStart s run else run.start
  if run.end_ < start then
    (s, .ok (run.timeframes.foldl (fun summary tf => summary.set tf 0) []))
  else
    match importDays start run.end_ with
    | [] => (s, .error .indexError)
    | day :: days =>
        let done := run.timeframes.foldl
          (importTimeframe run.symbol (allM1 feed run (day :: days))) (s, [])
        (done.1, .ok done.2)

def importStep (feed : Feed) (s : ImportStore) (run : ImportRun) : ImportStore :=
  (importSymbol feed true run s).1

end Market
end Shamarx
