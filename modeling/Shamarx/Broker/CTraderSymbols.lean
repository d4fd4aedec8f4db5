import Shamarx.Engine.Types
import Shamarx.Foundation.InsertionMap
import Shamarx.Foundation.Rounding
import Shamarx.Foundation.Runs

/-!
# cTrader symbols

The forward map from our symbols to the account's catalogue goes through an
alias table; the backward map is the raw catalogue name.
-/

namespace Shamarx
namespace Broker

open Foundation
open Engine

def symbolAliases (symbol : String) : List String :=
  if symbol = "XAUUSD" then ["GOLD", "XAU/USD"]
  else if symbol = "EURUSD" then ["EUR/USD"]
  else if symbol = "GBPUSD" then ["GBP/USD"]
  else if symbol = "USDJPY" then ["USD/JPY"]
  else []

structure Catalogue where
  entries : List (String × Int)
  names_nodup : (entries.map Prod.fst).Nodup
  ids_nodup : (entries.map Prod.snd).Nodup

namespace Catalogue

def names (cat : Catalogue) : List String :=
  cat.entries.map Prod.fst

def symbolIdByName (cat : Catalogue) : InsertionMap String Int :=
  InsertionMap.ofEntries cat.entries

def symbolNameById (cat : Catalogue) : InsertionMap Int String :=
  InsertionMap.ofEntries (cat.entries.map Prod.swap)

/-- `_to_ctrader_symbol`; a none is the `ValueError`. -/
def toCtraderSymbol (cat : Catalogue) (symbol : String) : Option Int :=
  (cat.symbolIdByName.get symbol).or
    ((symbolAliases symbol).findSome? cat.symbolIdByName.get)

def ourSymbolFromId (cat : Catalogue) (symbolId : Int) : String :=
  (cat.symbolNameById.get symbolId).getD (toString symbolId)

theorem swap_keys (cat : Catalogue) :
    (cat.entries.map Prod.swap).map Prod.fst = cat.entries.map Prod.snd := by
  rw [List.map_map]
  rfl

theorem ourSymbolFromId_of_mem (cat : Catalogue) {name : String} {id : Int}
    (h : (name, id) ∈ cat.entries) : cat.ourSymbolFromId id = name := by
  have hnodup : ((cat.entries.map Prod.swap).map Prod.fst).Nodup := by
    rw [swap_keys]
    exact cat.ids_nodup
  have hmem : (id, name) ∈ cat.entries.map Prod.swap :=
    List.mem_map.mpr ⟨(name, id), h, rfl⟩
  rw [ourSymbolFromId, symbolNameById, InsertionMap.get_ofEntries_of_mem hnodup hmem]
  rfl

theorem toCtraderSymbol_mem (cat : Catalogue) {symbol : String} {id : Int}
    (h : cat.toCtraderSymbol symbol = some id) :
    (symbol, id) ∈ cat.entries ∨
      (symbol ∉ cat.names ∧ exists alias_, alias_ ∈ symbolAliases symbol ∧
        (alias_, id) ∈ cat.entries) := by
  unfold toCtraderSymbol at h
  rw [Option.or_eq_some_iff] at h
  rcases h with hname | ⟨hnone, halias⟩
  · exact Or.inl (InsertionMap.mem_of_get_ofEntries cat.names_nodup hname)
  · right
    constructor
    · intro hmem
      rcases List.mem_map.mp hmem with ⟨entry, hentry, rfl⟩
      rw [symbolIdByName, InsertionMap.get_ofEntries_of_mem cat.names_nodup hentry] at hnone
      cases hnone
    · rcases List.exists_of_findSome?_eq_some halias with ⟨alias_, hin, hget⟩
      exact ⟨alias_, hin, InsertionMap.mem_of_get_ofEntries cat.names_nodup hget⟩

theorem ourSymbolFromId_toCtraderSymbol (cat : Catalogue) {symbol : String} {id : Int}
    (h : cat.toCtraderSymbol symbol = some id) :
    cat.ourSymbolFromId id = symbol ↔ symbol ∈ cat.names := by
  rcases cat.toCtraderSymbol_mem h with hmem | ⟨hout, alias_, -, hmem⟩
  · have hin : symbol ∈ cat.names := List.mem_map.mpr ⟨(symbol, id), hmem, rfl⟩
    rw [cat.ourSymbolFromId_of_mem hmem]
    exact ⟨fun _ => hin, fun _ => rfl⟩
  · have hin : alias_ ∈ cat.names := List.mem_map.mpr ⟨(alias_, id), hmem, rfl⟩
    rw [cat.ourSymbolFromId_of_mem hmem]
    exact ⟨fun heq => heq ▸ hin, fun hsym => absurd hsym hout⟩

end Catalogue

/-!
# Positions of an account
-/

structure CTraderPosition where
  positionId : Nat
  symbolId : Int
  tradeSide : Side
  volume : Nat
  price : ℚ
  stopLoss : ℚ
  takeProfit : ℚ
  openTimestamp : Int

/-- A row of `get_positions`; no opening time is the empty text. -/
structure PositionRow where
  ticket : Nat
  symbol : String
  side : Side
  lotSize : ℚ
  entryPrice : ℚ
  currentPrice : ℚ
  sl : ℚ
  tp : ℚ
  pnl : ℚ
  openTime : Option Int

/-- What the client reads besides the answer: the lot sizes of the symbol details
and the latest stored M15 close of a symbol. -/
structure CTraderClient where
  catalogue : Catalogue
  lotSizeCents : Int -> ℚ
  latestStoredClose : String -> Option ℚ

def estimatedPnl (sym : String) (side : Side) (entryPrice current lots : ℚ) : ℚ :=
  let diff := match side with
    | .buy => current - entryPrice
    | .sell => entryPrice - current
  let lotUnits := if sym = "XAUUSD" then 100 else 100000
  let rawPnl := diff * lots * lotUnits
  if sym.endsWith "JPY" ∧ current ≠ 0 then rawPnl / current else rawPnl

def positionRow (client : CTraderClient) (p : CTraderPosition) : PositionRow :=
  let sym := client.catalogue.ourSymbolFromId p.symbolId
  let current := match client.latestStoredClose sym with
    | some close => if close = 0 then p.price else close
    | none => p.price
  let lots := (p.volume : ℚ) / client.lotSizeCents p.symbolId
  { ticket := p.positionId
    symbol := sym
    side := p.tradeSide
    lotSize := lots
    entryPrice := p.price
    currentPrice := current
    sl := p.stopLoss
    tp := p.takeProfit
    pnl := roundCents (estimatedPnl sym p.tradeSide p.price current lots)
    openTime := if p.openTimestamp = 0 then none else some (p.openTimestamp / 1000 * 1000) }

def Requested (symbol : Option String) (sym : String) : Prop :=
  match symbol with
  | none => True
  | some s => s = "" ∨ sym = s

instance (symbol : Option String) (sym : String) : Decidable (Requested symbol sym) :=
  match symbol with
  | none => inferInstanceAs (Decidable True)
  | some s => inferInstanceAs (Decidable (s = "" ∨ sym = s))

def getPositions (client : CTraderClient) (open_ : List CTraderPosition)
    (symbol : Option String) : List PositionRow :=
  (open_.filter fun p =>
    decide (Requested symbol (client.catalogue.ourSymbolFromId p.symbolId))).map
      (positionRow client)

/-!
# Account runs

Orders are placed under our symbols and filled by the broker, at once or after
resting; positions get new ids and stay listed until they are closed.
-/

structure RestingOrder where
  orderId : Nat
  symbolId : Int
  requested : String

structure CTraderAccount where
  open_ : List CTraderPosition
  resting : List RestingOrder
  nextId : Nat
  opened : List (Nat × String)

def emptyAccount : CTraderAccount :=
  { open_ := [], resting := [], nextId := 1, opened := [] }

structure FillTerms where
  tradeSide : Side
  volume : Nat
  price : ℚ
  stopLoss : ℚ
  takeProfit : ℚ
  openTimestamp : Int

def CTraderAccount.fill (a : CTraderAccount) (symbolId : Int) (requested : String)
    (terms : FillTerms) : CTraderAccount :=
  { a with
    open_ := a.open_ ++
      [{ positionId := a.nextId
         symbolId := symbolId
         tradeSide := terms.tradeSide
         volume := terms.volume
         price := terms.price
         stopLoss := terms.stopLoss
         takeProfit := terms.takeProfit
         openTimestamp := terms.openTimestamp }]
    nextId := a.nextId + 1
    opened := a.opened ++ [(a.nextId, requested)] }

inductive AccountOp where
  | placeFilled (symbol : String) (terms : FillTerms)
  | placeResting (symbol : String)
  | fillResting (orderId : Nat) (terms : FillTerms)
  | closePosition (ticket : Nat)

def accountStep (cat : Catalogue) (a : CTraderAccount) : AccountOp -> CTraderAccount
  | .placeFilled symbol terms =>
      match cat.toCtraderSymbol symbol with
      | none => a
      | some symbolId => a.fill symbolId symbol terms
  | .placeResting symbol =>
      match cat.toCtraderSymbol symbol with
      | none => a
      | some symbolId =>
          { a with
            resting := a.resting ++
              [{ orderId := a.nextId, symbolId := symbolId, requested := symbol }]
            nextId := a.nextId + 1 }
  | .fillResting orderId terms =>
      match a.resting.find? fun order => order.orderId == orderId with
      | none => a
      | some order =>
          { a.fill order.symbolId order.requested terms with
            resting := a.resting.filter fun o => o.orderId != orderId }
  | .closePosition ticket =>
      { a with open_ := a.open_.filter fun p => p.positionId != ticket }

def ListedAs (client : CTraderClient) (a : CTraderAccount) (symbol : String)
    (positionId : Nat) : Prop :=
  exists row, row ∈ getPositions client a.open_ (some symbol) ∧ row.ticket = positionId ∧
    row.symbol = symbol

/-- Every position and resting order has the catalogue id of its request, and
position ids are below the next one. -/
structure AccountTracked (cat : Catalogue) (a : CTraderAccount) : Prop where
  resting_id : forall order, order ∈ a.resting ->
    cat.toCtraderSymbol order.requested = some order.symbolId
  opened_id : forall entry, entry ∈ a.opened -> entry.1 < a.nextId
  open_id : forall p, p ∈ a.open_ -> p.positionId < a.nextId
  symbol_id : forall entry, entry ∈ a.opened -> forall p, p ∈ a.open_ ->
    p.positionId = entry.1 -> cat.toCtraderSymbol entry.2 = some p.symbolId

theorem emptyAccount_tracked (cat : Catalogue) : AccountTracked cat emptyAccount := by
  constructor <;> simp [emptyAccount]

theorem fill_tracked {cat : Catalogue} {a : CTraderAccount} (ha : AccountTracked cat a)
    {symbolId : Int} {requested : String}
    (hid : cat.toCtraderSymbol requested = some symbolId) (terms : FillTerms) :
    AccountTracked cat (a.fill symbolId requested terms) where
  resting_id := ha.resting_id
  opened_id := by
    intro entry hentry
    rcases List.mem_append.mp hentry with hold | hnew
    · exact Nat.lt_succ_of_lt (ha.opened_id entry hold)
    · rw [List.mem_singleton.mp hnew]
      exact Nat.lt_succ_self a.nextId
  open_id := by
    intro p hp
    rcases List.mem_append.mp hp with hold | hnew
    · exact Nat.lt_succ_of_lt (ha.open_id p hold)
    · rw [List.mem_singleton.mp hnew]
      exact Nat.lt_succ_self a.nextId
  symbol_id := by
    intro entry hentry p hp hpos
    rcases List.mem_append.mp hentry with hentry | hentry <;>
      rcases List.mem_append.mp hp with hp | hp
    · exact ha.symbol_id entry hentry p hp hpos
    · rw [List.mem_singleton.mp hp] at hpos
      have hlt := ha.opened_id entry hentry
      exact absurd hpos (by dsimp only; omega)
    · rw [List.mem_singleton.mp hentry] at hpos
      have hlt := ha.open_id p hp
      exact absurd hpos (by dsimp only; omega)
    · rw [List.mem_singleton.mp hentry, List.mem_singleton.mp hp]
      exact hid

theorem accountStep_tracked {cat : Catalogue} (a : CTraderAccount) (op : AccountOp)
    (ha : AccountTracked cat a) : AccountTracked cat (accountStep cat a op) := by
  cases op with
  | placeFilled symbol terms =>
      cases hid : cat.toCtraderSymbol symbol with
      | none =>
          simpa [accountStep, hid] using ha
      | some symbolId =>
          simpa [accountStep, hid] using fill_tracked ha hid terms
  | placeResting symbol =>
      cases hid : cat.toCtraderSymbol symbol with
      | none =>
          simpa [accountStep, hid] using ha
      | some symbolId =>
          simp only [accountStep, hid]
          refine ⟨?_, ?_, ?_, ha.symbol_id⟩
          · intro order horder
            rcases List.mem_append.mp horder with hold | hnew
            · exact ha.resting_id order hold
            · rw [List.mem_singleton.mp hnew]
              exact hid
          · intro entry hentry
            exact Nat.lt_succ_of_lt (ha.opened_id entry hentry)
          · intro p hp
            exact Nat.lt_succ_of_lt (ha.open_id p hp)
  | fillResting orderId terms =>
      cases hfind : a.resting.find? fun order => order.orderId == orderId with
      | none =>
          simpa [accountStep, hfind] using ha
      | some order =>
          have hid := ha.resting_id order (List.mem_of_find?_eq_some hfind)
          have hfill := fill_tracked ha hid terms
          simp only [accountStep, hfind]
          refine ⟨?_, hfill.opened_id, hfill.open_id, hfill.symbol_id⟩
          intro o ho
          exact ha.resting_id o (List.mem_of_mem_filter ho)
  | closePosition ticket =>
      refine ⟨ha.resting_id, ha.opened_id, ?_, ?_⟩
      · intro p hp
        exact ha.open_id p (List.mem_of_mem_filter hp)
      · intro entry hentry p hp
        exact ha.symbol_id entry hentry p (List.mem_of_mem_filter hp)

/-- In every run, an open position requested as `symbol` is listed under that
symbol exactly when the symbol is itself a name of the catalogue. -/
theorem listed_iff_catalogue_name (client : CTraderClient) (ops : List AccountOp)
    (positionId : Nat) (symbol : String)
    (hopened : (positionId, symbol) ∈
      (runFrom (accountStep client.catalogue) emptyAccount ops).opened)
    (hopen : exists p, p ∈ (runFrom (accountStep client.catalogue) emptyAccount ops).open_ ∧
      p.positionId = positionId) :
    ListedAs client (runFrom (accountStep client.catalogue) emptyAccount ops) symbol
        positionId ↔ symbol ∈ client.catalogue.names := by
  have htracked := runFrom_inv (AccountTracked client.catalogue) accountStep_tracked
    (emptyAccount_tracked client.catalogue) ops
  generalize runFrom (accountStep client.catalogue) emptyAccount ops = a at *
  constructor
  · rintro ⟨row, hrow, hticket, hsymbol⟩
    rcases List.mem_map.mp hrow with ⟨p, hp, rfl⟩
    have hp' := List.mem_of_mem_filter hp
    have hid := htracked.symbol_id _ hopened p hp' hticket
    exact (client.catalogue.ourSymbolFromId_toCtraderSymbol hid).mp hsymbol
  · intro hname
    rcases hopen with ⟨p, hp, hpos⟩
    have hid := htracked.symbol_id _ hopened p hp hpos
    have hsym := (client.catalogue.ourSymbolFromId_toCtraderSymbol hid).mpr hname
    refine ⟨positionRow client p, ?_, hpos, hsym⟩
    refine List.mem_map.mpr ⟨p, List.mem_filter.mpr ⟨hp, ?_⟩, rfl⟩
    exact decide_eq_true (Or.inr hsym)

/-!
# An account that lists gold as GOLD
-/

def goldCatalogue : Catalogue :=
  { entries := [("GOLD", 41), ("EURUSD", 1)]
    names_nodup := by decide
    ids_nodup := by decide }

def goldClient : CTraderClient :=
  { catalogue := goldCatalogue
    lotSizeCents := fun _ => 10000000
    latestStoredClose := fun _ => none }

def buyTerms : FillTerms :=
  { tradeSide := .buy
    volume := 100000
    price := 2000
    stopLoss := 1990
    takeProfit := 2040
    openTimestamp := 1700000000000 }

theorem euro_position_listed :
    (1, "EURUSD") ∈ (runFrom (accountStep goldClient.catalogue) emptyAccount
        [.placeFilled "EURUSD" buyTerms]).opened ∧
      ListedAs goldClient (runFrom (accountStep goldClient.catalogue) emptyAccount
        [.placeFilled "EURUSD" buyTerms]) "EURUSD" 1 := by
  have hopened : (1, "EURUSD") ∈ (runFrom (accountStep goldClient.catalogue) emptyAccount
      [.placeFilled "EURUSD" buyTerms]).opened := by decide
  refine ⟨hopened, (listed_iff_catalogue_name goldClient _ 1 "EURUSD" hopened ?_).mpr ?_⟩
  · exact ⟨_, List.mem_singleton.mpr rfl, rfl⟩
  · decide

/-- Gold is placed through the alias and listed under the catalogue name, so
asking for it by our symbol finds nothing. -/
theorem gold_position_unlisted :
    (1, "XAUUSD") ∈ (runFrom (accountStep goldClient.catalogue) emptyAccount
        [.placeFilled "XAUUSD" buyTerms]).opened ∧
      (exists p, p ∈ (runFrom (accountStep goldClient.catalogue) emptyAccount
        [.placeFilled "XAUUSD" buyTerms]).open_ ∧ p.positionId = 1) ∧
      ¬ ListedAs goldClient (runFrom (accountStep goldClient.catalogue) emptyAccount
        [.placeFilled "XAUUSD" buyTerms]) "XAUUSD" 1 := by
  refine ⟨by decide, ⟨_, List.mem_singleton.mpr rfl, rfl⟩, ?_⟩
  rintro ⟨row, hrow, -⟩
  have hnone : (getPositions goldClient (runFrom (accountStep goldClient.catalogue) emptyAccount
      [.placeFilled "XAUUSD" buyTerms]).open_ (some "XAUUSD")).isEmpty = true := by
    decide
  rw [List.isEmpty_iff.mp hnone] at hrow
  cases hrow

end Broker
end Shamarx
