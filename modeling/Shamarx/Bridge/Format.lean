import Shamarx.Bridge.FileBridge
import Shamarx.Foundation.Calendar
import Shamarx.Foundation.Decimals
import Shamarx.Foundation.Encodings

/-!
# The format of the file bridge

What the expert writes about positions, closed deals and candles and how the worker reads
it, and what the worker writes in an order and how the expert reads that.
-/

namespace Shamarx
namespace Bridge

open Foundation
open Foundation.Decimals

/-!
# Numbers and names
-/

structure Decimal (places : Nat) where
  units : Int
  deriving DecidableEq

def Decimal.toRat {places : Nat} (x : Decimal places) : ℚ :=
  x.units / 10 ^ places

def doubleToString (x : ℚ) (places : Nat) : List Char :=
  fixed places (roundHalfUp (x * 10 ^ places))

def pyFloat (s : List Char) : Option ℚ :=
  readNumber (Text.strip isSpace s)

def pyInt (s : List Char) : Option Int :=
  readInt (Text.strip isSpace s)

def stringToDouble (s : List Char) : ℚ :=
  match scanNumber s with
  | some (x, _) => x
  | none => 0

def isPlain (c : Char) : Bool :=
  32 ≤ c.toNat && c.toNat ≤ 126 && c ≠ '|' && c ≠ ';' && c ≠ ','

structure Symbol where
  text : List Char
  plain : forall c, c ∈ text -> isPlain c = true
  deriving DecidableEq

inductive Side where
  | buy
  | sell
  deriving DecidableEq

def Side.text : Side -> List Char
  | .buy => "BUY".toList
  | .sell => "SELL".toList

/-!
# Positions
-/

structure Position where
  ticket : Nat
  symbol : Symbol
  side : Side
  volume : ℚ
  priceOpen : Decimal 5
  priceCurrent : Decimal 5
  sl : Decimal 5
  tp : Decimal 5
  profit : Decimal 2
  time : Int

def Position.fields (p : Position) : List (List Char) :=
  [digits p.ticket, p.symbol.text, p.side.text, doubleToString p.volume 2,
    doubleToString p.priceOpen.toRat 5, doubleToString p.priceCurrent.toRat 5,
    doubleToString p.sl.toRat 5, doubleToString p.tp.toRat 5, doubleToString p.profit.toRat 2,
    intText p.time]

def Position.row (p : Position) : List Char :=
  [','].intercalate p.fields

/-- A row is added behind a delimiter unless it is the first. -/
def addRow (rows row : List Char) : List Char :=
  (if rows ≠ [] then rows ++ [';'] else rows) ++ row

def Reported (symbol : List Char) (p : Position) : Prop :=
  p.ticket ≠ 0 ∧ (symbol = [] ∨ p.symbol.text = symbol)

instance (symbol : List Char) (p : Position) : Decidable (Reported symbol p) :=
  inferInstanceAs (Decidable (_ ∧ _))

def opPositions (symbol : List Char) (ps : List Position) : Reply :=
  .ok (ps.foldl (fun rows p => if Reported symbol p then addRow rows p.row else rows) [])

structure PositionRow where
  ticket : Int
  symbol : List Char
  side : List Char
  lotSize : ℚ
  entryPrice : ℚ
  currentPrice : ℚ
  sl : ℚ
  tp : ℚ
  pnl : ℚ
  openTime : List Char
  deriving DecidableEq

def positionRowToDict (row : List Char) : Option PositionRow :=
  match row.splitOn ',' with
  | ticket :: symbol :: side :: lot :: entry :: current :: sl :: tp :: pnl :: time :: _ => do
      let ticket <- pyInt ticket
      let lotSize <- pyFloat lot
      let entryPrice <- pyFloat entry
      let currentPrice <- pyFloat current
      let sl <- pyFloat sl
      let tp <- pyFloat tp
      let pnl <- pyFloat pnl
      some
        { ticket := ticket
          symbol := symbol
          side := side
          lotSize := lotSize
          entryPrice := entryPrice
          currentPrice := currentPrice
          sl := sl
          tp := tp
          pnl := pnl
          openTime := time }
  | _ => none

def delivered (id op : List Char) (reply : Reply) : CallResult :=
  answer op (Text.strip isSpace (Execution.line { id := id, reply := reply }))

def rowsOf (payload : List Char) : List (List Char) :=
  (payload.splitOn ';').filter fun row => row ≠ []

def positions : CallResult -> Option (List PositionRow)
  | .returned payload => (rowsOf payload).mapM positionRowToDict
  | .raised _ => none

/-!
# Closed deals
-/

inductive DealReason where
  | sl
  | tp
  | other
  deriving DecidableEq

structure Deal where
  out : Bool
  profit : Decimal 2
  commission : Decimal 2
  swap : Decimal 2
  price : Decimal 5
  time : Int
  reason : DealReason
  deriving DecidableEq

structure Closing where
  found : Bool
  pnl : Decimal 2
  closePrice : Decimal 5
  closeTime : Int
  reason : List Char
  deriving DecidableEq

def Closing.none : Closing :=
  { found := false
    pnl := { units := 0 }
    closePrice := { units := 0 }
    closeTime := 0
    reason := "CLOSED".toList }

def Closing.add (s : Closing) (d : Deal) : Closing :=
  if d.out then
    { found := true
      pnl := { units := s.pnl.units + d.profit.units + d.commission.units + d.swap.units }
      closePrice := d.price
      closeTime := d.time
      reason :=
        match d.reason with
        | .sl => "SL".toList
        | .tp => "TP".toList
        | .other => s.reason }
  else s

def closingOf (deals : List Deal) : Closing :=
  deals.foldl Closing.add .none

def Closing.fields (s : Closing) : List (List Char) :=
  [doubleToString s.closePrice.toRat 5, doubleToString s.pnl.toRat 2, s.reason,
    intText s.closeTime]

def opHistory : Option (List Deal) -> Reply
  | some deals =>
      .ok (if (closingOf deals).found then ['|'].intercalate (closingOf deals).fields else [])
  | none => .ok []

structure HistoryRow where
  ticket : Int
  closePrice : ℚ
  realizedPnl : ℚ
  exitReason : List Char
  closeTime : List Char
  deriving DecidableEq

/-- `GET /positions/{ticket}/history`: an empty payload is no history. -/
def history (ticket : Int) : CallResult -> Option (Option HistoryRow)
  | .returned payload =>
      if payload = [] then some none
      else
        match payload.splitOn '|' with
        | price :: pnl :: reason :: time :: _ => do
            let closePrice <- pyFloat price
            let realizedPnl <- pyFloat pnl
            return some
              { ticket := ticket
                closePrice := closePrice
                realizedPnl := realizedPnl
                exitReason := reason
                closeTime := time }
        | _ => none
  | .raised _ => none

/-!
# Candles
-/

structure Rate where
  time : Int
  openPrice : Decimal 5
  high : Decimal 5
  low : Decimal 5
  close : Decimal 5
  tickVolume : Int
  deriving DecidableEq

/-- Hours, minutes and seconds of a number of seconds since the epoch. -/
def clockText (t : Int) : List Char :=
  padded 2 (t / 3600 % 24).toNat ++ ':' :: (padded 2 (t / 60 % 60).toNat ++ ':' ::
    padded 2 (t % 60).toNat)

def dateText (sep : Char) (t : Int) : List Char :=
  padded 4 (yearOf (t / 86400)).toNat ++ sep :: (padded 2 (monthOf (t / 86400)) ++ sep ::
    padded 2 (dayOfMonth (t / 86400)).toNat)

/-- A `datetime` cast to a string: `yyyy.mm.dd hh:mi:ss`. -/
def datetimeText (t : Int) : List Char :=
  dateText '.' t ++ ' ' :: clockText t

/-- `strftime('%Y-%m-%dT%H:%M:%S')` of `gmtime`. -/
def isoText (t : Int) : List Char :=
  dateText '-' t ++ 'T' :: clockText t

def Rate.fields (r : Rate) : List (List Char) :=
  [datetimeText r.time, doubleToString r.openPrice.toRat 5, doubleToString r.high.toRat 5,
    doubleToString r.low.toRat 5, doubleToString r.close.toRat 5, intText r.tickVolume]

def Rate.row (r : Rate) : List Char :=
  [','].intercalate r.fields

/-- `CopyRates` gives the rates oldest first; no rates are an error. -/
def opCandles (rates : List Rate) (lastError : Int) : Reply :=
  if rates = [] then .err ("CopyRates failed ".toList ++ intText lastError)
  else .ok (rates.foldl (fun rows r => addRow rows r.row) [])

structure CandleRow where
  symbol : List Char
  timeframe : List Char
  openTime : List Char
  openPrice : ℚ
  high : ℚ
  low : ℚ
  close : ℚ
  volume : ℚ
  deriving DecidableEq

def candleRow (symbol timeframe row : List Char) : Option CandleRow :=
  match row.splitOn ',' with
  | [t, o, h, l, c, v] => do
      let time <- pyInt t
      let openPrice <- pyFloat o
      let high <- pyFloat h
      let low <- pyFloat l
      let close <- pyFloat c
      let volume <- pyFloat v
      some
        { symbol := symbol
          timeframe := timeframe
          openTime := isoText time
          openPrice := openPrice
          high := high
          low := low
          close := close
          volume := volume }
  | _ => none

/-- `GET /candles`: the rows are reversed. -/
def candles (symbol timeframe : List Char) : CallResult -> Option (List CandleRow)
  | .returned payload =>
      ((rowsOf payload).mapM (candleRow symbol timeframe)).map List.reverse
  | .raised _ => none

/-!
# Orders
-/

structure OrderBody where
  symbol : Symbol
  side : Side
  lotSize : Double
  slPrice : Double
  tpPrice : Double
  comment : Option (List Char)

def OrderBody.sentComment (body : OrderBody) : List Char :=
  match body.comment with
  | some (c :: rest) => c :: rest
  | _ => "GIDEON".toList

def orderRequest (rid : RequestId) (body : OrderBody) : Request :=
  { rid := rid
    op := "order".toList
    args := [body.symbol.text, body.side.text, body.lotSize.repr, body.slPrice.repr,
      body.tpPrice.repr, body.sentComment] }

structure OrderArgs where
  symbol : List Char
  side : List Char
  lot : ℚ
  sl : ℚ
  tp : ℚ
  comment : List Char
  deriving DecidableEq

def handleOrder (line : List Char) : Option OrderArgs :=
  match line.splitOn '|' with
  | _ :: op :: symbol :: side :: lot :: sl :: tp :: comment :: _ =>
      if op = "order".toList then
        some
          { symbol := symbol
            side := side
            lot := stringToDouble lot
            sl := stringToDouble sl
            tp := stringToDouble tp
            comment := comment }
      else none
  | _ => none

def orderParsed (page : CodePage) (rid : RequestId) (body : OrderBody) : Option OrderArgs :=
  handleOrder (requestLine (page.reads (orderRequest rid body).content))

end Bridge
end Shamarx
