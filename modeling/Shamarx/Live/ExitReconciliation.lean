import Mathlib.Tactic.Linarith
import Shamarx.Foundation.Decimals
import Shamarx.Live.MonitorPasses

/-!
# Reconciliation of estimated exits

A trade that was finalized before its closing deal could be queried carries an
estimate.  A sweep asks the broker again and overwrites the row.  Its decoder and
the one of the position monitor read the same loosely typed answer.
-/

namespace Shamarx
namespace Live
namespace ExitReconciliation

open Foundation
open Engine
open Broker
open MonitorPasses

/-!
# JSON answers
-/

/-- An array or object only shows the text it converts to. -/
inductive JsonValue where
  | null
  | bool (b : Bool)
  | number (x : ℚ)
  | text (s : String)
  | compound (s : String)
  deriving DecidableEq

/-- `String(x)` of a number, `toUpperCase` and the reading of `new Date(s)`, where a
none is an invalid date. -/
structure Runtime where
  numberText : ℚ -> String
  toUpperCase : String -> String
  parseDate : String -> Option Int
  numberText_zero : numberText 0 = "0"
  toUpperCase_ascii : forall s : String, (forall c, c ∈ s.toList -> c.toNat < 128) ->
    toUpperCase s = s.toUpper

namespace JsonValue

def truthy : JsonValue -> Bool
  | null => false
  | bool b => b
  | number x => decide (x ≠ 0)
  | text s => decide (s ≠ "")
  | compound _ => true

def asNumber : Option JsonValue -> Option ℚ
  | some (number x) => some x
  | _ => none

def orIfNullish : Option JsonValue -> Option JsonValue -> Option JsonValue
  | none, b => b
  | some null, b => b
  | some v, _ => some v

end JsonValue

namespace Runtime

def stringOf (rt : Runtime) : JsonValue -> String
  | .null => "null"
  | .bool b => if b then "true" else "false"
  | .number x => rt.numberText x
  | .text s => s
  | .compound s => s

end Runtime

/-- The time value of a date, which ends a hundred million days from the epoch. -/
def timeClip (t : Int) : Option Int :=
  if t.natAbs ≤ 8640000000000000 then some t else none

def truncate (x : ℚ) : Int :=
  if 0 ≤ x then ⌊x⌋ else ⌈x⌉

def Runtime.dateOf (rt : Runtime) : JsonValue -> Option Int
  | .null => some 0
  | .bool b => some (if b then 1 else 0)
  | .number x => timeClip (truncate x)
  | .text s => rt.parseDate s
  | .compound s => rt.parseDate s

/-- The fields of a history answer, of either response shape. -/
structure HistoryAnswer where
  closePrice : Option JsonValue
  realizedPnl : Option JsonValue
  pnl : Option JsonValue
  exitReason : Option JsonValue
  reason : Option JsonValue
  closeTime : Option JsonValue

/-- A response body: nothing or a falsy value, a value that is no object, or an answer. -/
inductive HistoryBody where
  | empty
  | scalar
  | object (h : HistoryAnswer)

def HistoryBody.answer : HistoryBody -> Option HistoryAnswer
  | .object h => some h
  | _ => none

namespace HistoryAnswer

def price (h : HistoryAnswer) : Option ℚ :=
  JsonValue.asNumber h.closePrice

def profit (h : HistoryAnswer) : Option ℚ :=
  (JsonValue.asNumber h.realizedPnl).or (JsonValue.asNumber h.pnl)

def rawReason (h : HistoryAnswer) : Option JsonValue :=
  JsonValue.orIfNullish h.exitReason h.reason

end HistoryAnswer

/-- `Number` of a digit string, or `new Date` of anything else. -/
def Runtime.timeOf (rt : Runtime) (raw : JsonValue) : Option Int :=
  let s := (rt.stringOf raw).toList
  if s ≠ [] ∧ Decimals.IsDigits s then timeClip (Decimals.value s) else rt.dateOf raw

def HistoryAnswer.closedAt (rt : Runtime) (h : HistoryAnswer) : Option Int :=
  match h.closeTime with
  | some raw =>
      if raw.truthy then (rt.timeOf raw).filter fun t => decide (0 < t) else none
  | none => none

/-- The exit that a word of the broker names, looked for in capitals. -/
def brokerWord (r otherwise : String) : String :=
  if mentions r "TP" || mentions r "TAKE" then "TP"
  else if mentions r "SL" || mentions r "STOP" then "SL"
  else otherwise

/-!
# The decoder of the position monitor
-/

def finalizeReason (rt : Runtime) (h : HistoryAnswer) : String :=
  match h.rawReason with
  | some raw =>
      if raw.truthy then
        brokerWord (rt.toUpperCase (rt.stringOf raw)) (rt.stringOf raw)
      else "CLOSED"
  | none => "CLOSED"

def finalizeAnswer (rt : Runtime) (trade : OpenTrade) (body : HistoryBody) (now : Int) :
    CloseFacts :=
  let closePrice := body.answer.bind HistoryAnswer.price
  let pnl := body.answer.bind HistoryAnswer.profit
  let decoded := (body.answer.map (finalizeReason rt)).getD "CLOSED"
  let closedAt := (body.answer.bind (HistoryAnswer.closedAt rt)).getD now
  let exitReason :=
    match closePrice with
    | some price =>
        if decoded ≠ "TP" ∧ decoded ≠ "SL" then
          inferExitReason price trade.slPrice trade.tpPrice
        else decoded
    | none => decoded
  match closePrice, pnl with
  | some price, some amount =>
      { closePrice := price, pnl := amount, exitReason := exitReason, closedAt := closedAt }
  | _, _ => estimatedFacts trade closePrice exitReason closedAt

/-!
# The sweep
-/

structure BrokerCloseInfo where
  closePrice : ℚ
  pnl : ℚ
  reason : String
  closedAt : Option Int

def sweepReason (rt : Runtime) (h : HistoryAnswer) : String :=
  let reason :=
    match h.rawReason with
    | some .null => ""
    | some raw => rt.stringOf raw
    | none => ""
  brokerWord (rt.toUpperCase reason) "CLOSED"

/-- What the history requests answer: by account and ticket, and by ticket alone. -/
structure HistoryEnv where
  byAccount : String -> Nat -> HistoryBody
  byTicket : Nat -> HistoryBody

/-- The account's own broker, and the legacy endpoint when it gives nothing. -/
def HistoryEnv.fetch (env : HistoryEnv) (account : Option String) (ticket : Nat) :
    HistoryBody :=
  let own :=
    match account with
    | some accountId => if accountId = "" then HistoryBody.empty else env.byAccount accountId ticket
    | none => HistoryBody.empty
  match own with
  | .empty => env.byTicket ticket
  | body => body

def closeInfoOf (rt : Runtime) (body : HistoryBody) : Option BrokerCloseInfo :=
  match body.answer with
  | none => none
  | some h =>
      match h.price, h.profit with
      | some closePrice, some pnl =>
          some
            { closePrice := closePrice
              pnl := pnl
              reason := sweepReason rt h
              closedAt := h.closedAt rt }
      | _, _ => none

def fetchCloseInfo (rt : Runtime) (env : HistoryEnv) (account : Option String)
    (ticket : Nat) : Option BrokerCloseInfo :=
  closeInfoOf rt (env.fetch account ticket)

def lookbackMs : Int := 72 * 3600 * 1000

def EstimatedFacts (now : Int) (facts : CloseFacts) : Prop :=
  (facts.exitReason = "TP_EST" ∨ facts.exitReason = "SL_EST") ∧
    now - lookbackMs ≤ facts.closedAt

instance (now : Int) (facts : CloseFacts) : Decidable (EstimatedFacts now facts) :=
  inferInstanceAs (Decidable (_ ∧ _))

def Estimated (now : Int) (row : MonitorRow) : Prop :=
  row.status = .closed ∧ row.mt5Ticket ≠ none ∧
    exists facts, facts ∈ row.booked ∧ EstimatedFacts now facts

instance (now : Int) (row : MonitorRow) : Decidable (Estimated now row) :=
  inferInstanceAs (Decidable (_ ∧ _ ∧ _))

def estimatedTrades (now : Int) (table : TradeTable) : List (Nat × MonitorRow) :=
  (table.rows.filter fun entry => decide (Estimated now entry.2)).take 50

/-- The update of a row; without a close time the old one stays. -/
def writeCloseInfo (info : BrokerCloseInfo) (row : MonitorRow) : MonitorRow :=
  { row with
    booked := row.booked.map fun old =>
      { closePrice := roundTo 100000 info.closePrice
        pnl := roundTo 100 info.pnl
        exitReason := info.reason
        closedAt := info.closedAt.getD old.closedAt } }

def sweepTrade (rt : Runtime) (env : HistoryEnv) (acc : TradeTable × Nat)
    (entry : Nat × MonitorRow) : TradeTable × Nat :=
  match entry.2.mt5Ticket.bind (fetchCloseInfo rt env entry.2.account) with
  | some info => (acc.1.modify entry.1 (writeCloseInfo info), acc.2 + 1)
  | none => acc

/-- `sweepOnce`: the table and the number of rows put right. -/
def sweepOnce (rt : Runtime) (env : HistoryEnv) (now : Int) (table : TradeTable) :
    TradeTable × Nat :=
  (estimatedTrades now table).foldl (sweepTrade rt env) (table, 0)

/-!
# Words of the broker
-/

def NamesExit (r : String) : Prop :=
  mentions r "TP" = true ∨ mentions r "TAKE" = true ∨ mentions r "SL" = true ∨
    mentions r "STOP" = true

instance (r : String) : Decidable (NamesExit r) :=
  inferInstanceAs (Decidable (_ ∨ _ ∨ _ ∨ _))

theorem brokerWord_of_namesExit {r : String} (h : NamesExit r) (a b : String) :
    brokerWord r a = brokerWord r b ∧ (brokerWord r a = "TP" ∨ brokerWord r a = "SL") := by
  unfold brokerWord
  rcases h with h | h | h | h
  · simp [h]
  · simp [h]
  · cases htp : (mentions r "TP" || mentions r "TAKE") with
    | true =>
        simp
    | false =>
        simp [h]
  · cases htp : (mentions r "TP" || mentions r "TAKE") with
    | true =>
        simp
    | false =>
        simp [h]

theorem brokerWord_of_not_namesExit {r : String} (h : ¬ NamesExit r) (otherwise : String) :
    brokerWord r otherwise = otherwise := by
  simp only [NamesExit, not_or, Bool.not_eq_true] at h
  simp [brokerWord, h.1, h.2.1, h.2.2.1, h.2.2.2]

/-- The answer has a reason, and it names the target or the stop. -/
def TellsExit (rt : Runtime) (h : HistoryAnswer) : Prop :=
  exists raw, raw ∈ h.rawReason ∧ raw ≠ .null ∧
    NamesExit (rt.toUpperCase (rt.stringOf raw))

instance (rt : Runtime) (h : HistoryAnswer) : Decidable (TellsExit rt h) :=
  inferInstanceAs (Decidable (exists raw, raw ∈ h.rawReason ∧ _))

section Reasons

variable (rt : Runtime)

theorem not_namesExit_empty : ¬ NamesExit (rt.toUpperCase "") := by
  rw [rt.toUpperCase_ascii "" (by decide)]
  decide +kernel

theorem namesExit_word {word : String} (h : word = "TP" ∨ word = "SL") :
    NamesExit (rt.toUpperCase word) := by
  rcases h with rfl | rfl
  · rw [rt.toUpperCase_ascii "TP" (by decide)]
    decide +kernel
  · rw [rt.toUpperCase_ascii "SL" (by decide)]
    decide +kernel

theorem not_namesExit_of_falsy {raw : JsonValue} (hnull : raw ≠ .null)
    (hfalsy : raw.truthy = false) : ¬ NamesExit (rt.toUpperCase (rt.stringOf raw)) := by
  cases raw with
  | null =>
      exact absurd rfl hnull
  | bool b =>
      cases b with
      | false =>
          rw [Runtime.stringOf, if_neg Bool.false_ne_true,
            rt.toUpperCase_ascii "false" (by decide)]
          decide +kernel
      | true =>
          cases hfalsy
  | number x =>
      have hx : x = 0 := by
        simpa [JsonValue.truthy] using hfalsy
      rw [Runtime.stringOf, hx, rt.numberText_zero, rt.toUpperCase_ascii "0" (by decide)]
      decide +kernel
  | text s =>
      have hs : s = "" := by
        simpa [JsonValue.truthy] using hfalsy
      rw [Runtime.stringOf, hs]
      exact not_namesExit_empty rt
  | compound s =>
      cases hfalsy

theorem truthy_of_namesExit {raw : JsonValue} (hnull : raw ≠ .null)
    (hnames : NamesExit (rt.toUpperCase (rt.stringOf raw))) : raw.truthy = true := by
  by_contra hfalsy
  exact not_namesExit_of_falsy rt hnull (eq_false_of_ne_true hfalsy) hnames

theorem sweepReason_eq {h : HistoryAnswer} {raw : JsonValue} (hraw : h.rawReason = some raw)
    (hnull : raw ≠ .null) :
    sweepReason rt h = brokerWord (rt.toUpperCase (rt.stringOf raw)) "CLOSED" := by
  unfold sweepReason
  rw [hraw]
  cases raw with
  | null =>
      exact absurd rfl hnull
  | bool b =>
      rfl
  | number x =>
      rfl
  | text s =>
      rfl
  | compound s =>
      rfl

theorem finalizeReason_of_tells {h : HistoryAnswer} (htells : TellsExit rt h) :
    finalizeReason rt h = sweepReason rt h ∧
      (sweepReason rt h = "TP" ∨ sweepReason rt h = "SL") := by
  rcases htells with ⟨raw, hraw, hnull, hnames⟩
  have htruthy := truthy_of_namesExit rt hnull hnames
  have hword := brokerWord_of_namesExit hnames "CLOSED" (rt.stringOf raw)
  rw [sweepReason_eq rt hraw hnull, finalizeReason, hraw]
  dsimp only
  rw [if_pos htruthy]
  exact ⟨hword.1.symm, hword.2⟩

theorem sweepReason_of_not_tells {h : HistoryAnswer} (htells : ¬ TellsExit rt h) :
    sweepReason rt h = "CLOSED" := by
  have hempty : brokerWord (rt.toUpperCase "") "CLOSED" = "CLOSED" :=
    brokerWord_of_not_namesExit (not_namesExit_empty rt) "CLOSED"
  cases hraw : h.rawReason with
  | none =>
      rw [sweepReason, hraw]
      exact hempty
  | some raw =>
      by_cases hnull : raw = .null
      · rw [sweepReason, hraw, hnull]
        exact hempty
      · rw [sweepReason_eq rt hraw hnull]
        apply brokerWord_of_not_namesExit
        intro hnames
        exact htells ⟨raw, hraw, hnull, hnames⟩

theorem finalizeReason_of_not_tells {h : HistoryAnswer} (htells : ¬ TellsExit rt h) :
    finalizeReason rt h ≠ "TP" ∧ finalizeReason rt h ≠ "SL" := by
  cases hraw : h.rawReason with
  | none =>
      rw [finalizeReason, hraw]
      dsimp only
      decide
  | some raw =>
      rw [finalizeReason, hraw]
      dsimp only
      by_cases htruthy : raw.truthy = true
      · have hnull : raw ≠ .null := by
          intro hnull
          rw [hnull] at htruthy
          cases htruthy
        have hnames : ¬ NamesExit (rt.toUpperCase (rt.stringOf raw)) := by
          intro hnames
          exact htells ⟨raw, hraw, hnull, hnames⟩
        rw [if_pos htruthy, brokerWord_of_not_namesExit hnames]
        constructor
        · exact fun hword => hnames (namesExit_word rt (Or.inl hword))
        · exact fun hword => hnames (namesExit_word rt (Or.inr hword))
      · rw [if_neg htruthy]
        decide

end Reasons

/-- The price is nearer to the middle than to the stop or the target, or these are one
price. -/
def BetweenExits (closePrice slPrice tpPrice : ℚ) : Prop :=
  slPrice = tpPrice ∨
    (|tpPrice - slPrice| / 4 < |closePrice - tpPrice| ∧
      |tpPrice - slPrice| / 4 < |closePrice - slPrice|)

theorem inferExitReason_eq_closed_iff (closePrice slPrice tpPrice : ℚ) :
    inferExitReason closePrice slPrice tpPrice = "CLOSED" <->
      BetweenExits closePrice slPrice tpPrice := by
  have htol : |tpPrice - slPrice| * (25 / 100) = |tpPrice - slPrice| / 4 := by
    ring
  unfold inferExitReason BetweenExits
  dsimp only
  rw [htol]
  split_ifs with hspan htp hsl
  · have heq : slPrice = tpPrice := by
      have hzero := abs_nonpos_iff.mp hspan
      linarith
    simp [heq]
  · have hne : slPrice ≠ tpPrice := by
      intro heq
      rw [heq, sub_self, abs_zero] at hspan
      exact hspan le_rfl
    simp [hne, not_lt.mpr htp]
  · have hne : slPrice ≠ tpPrice := by
      intro heq
      rw [heq, sub_self, abs_zero] at hspan
      exact hspan le_rfl
    simp [hne, not_lt.mpr hsl]
  · simp [not_le.mp htp, not_le.mp hsl]

/-!
# The two bookings
-/

/-- A history answer as the position monitor's booking model has it. -/
def HistoryAnswer.typed (rt : Runtime) (h : HistoryAnswer) : CloseInfo :=
  { closePrice := h.price
    realizedPnl := JsonValue.asNumber h.realizedPnl
    pnl := JsonValue.asNumber h.pnl
    closeTime := (h.closedAt rt).map TimeText.iso
    reason := (h.rawReason.filter JsonValue.truthy).map rt.stringOf }

section Booking

variable {rt : Runtime} {h : HistoryAnswer} {closePrice pnl : ℚ}

/-- With a price and a profit, a word of the broker is kept and anything else is
inferred from the price. -/
theorem finalizeAnswer_eq (hprice : h.price = some closePrice) (hpnl : h.profit = some pnl)
    (trade : OpenTrade) (now : Int) :
    finalizeAnswer rt trade (.object h) now =
      { closePrice := closePrice
        pnl := pnl
        exitReason :=
          if TellsExit rt h then sweepReason rt h
          else inferExitReason closePrice trade.slPrice trade.tpPrice
        closedAt := (h.closedAt rt).getD now } := by
  unfold finalizeAnswer
  dsimp only [HistoryBody.answer, Option.bind_some, Option.map_some, Option.getD_some]
  rw [hprice, hpnl]
  dsimp only
  congr 1
  by_cases htells : TellsExit rt h
  · rcases finalizeReason_of_tells rt htells with ⟨hword, hexit⟩
    rw [if_pos htells, hword, if_neg]
    intro hnone
    rcases hexit with hexit | hexit
    · exact hnone.1 hexit
    · exact hnone.2 hexit
  · rw [if_neg htells, if_pos (finalizeReason_of_not_tells rt htells)]

theorem decodeReason_text {text : String} (hne : text ≠ "") :
    decodeReason (some text) = brokerWord text.toUpper text := by
  rw [decodeReason]
  exact if_neg hne

theorem decodeReason_of_tells (hupper : forall s, rt.toUpperCase s = s.toUpper)
    (htells : TellsExit rt h) : decodeReason (h.typed rt).reason = sweepReason rt h := by
  rcases htells with ⟨raw, hraw, hnull, hnames⟩
  have htruthy := truthy_of_namesExit rt hnull hnames
  have hreason : (h.typed rt).reason = some (rt.stringOf raw) := by
    rw [HistoryAnswer.typed, Option.mem_def.mp hraw]
    simp [htruthy]
  have hne : rt.stringOf raw ≠ "" := by
    intro hempty
    rw [hempty] at hnames
    exact not_namesExit_empty rt hnames
  rw [sweepReason_eq rt hraw hnull, hupper, hreason, decodeReason_text hne]
  rw [hupper] at hnames
  exact (brokerWord_of_namesExit hnames (rt.stringOf raw) "CLOSED").1

theorem decodeReason_of_not_tells (hupper : forall s, rt.toUpperCase s = s.toUpper)
    (htells : ¬ TellsExit rt h) :
    decodeReason (h.typed rt).reason ≠ "TP" ∧ decodeReason (h.typed rt).reason ≠ "SL" := by
  cases hraw : h.rawReason.filter JsonValue.truthy with
  | none =>
      have hreason : (h.typed rt).reason = none := by
        rw [HistoryAnswer.typed, hraw]
        rfl
      rw [hreason, decodeReason]
      decide
  | some raw =>
      have hkept := Option.filter_eq_some_iff.mp hraw
      have hreason : (h.typed rt).reason = some (rt.stringOf raw) := by
        rw [HistoryAnswer.typed, hraw]
        rfl
      by_cases hempty : rt.stringOf raw = ""
      · rw [hreason, decodeReason]
        rw [if_pos hempty]
        decide
      · have hsame := finalizeReason_of_not_tells rt htells
        have hnull : raw ≠ .null := by
          intro hnull
          rw [hnull] at hkept
          cases hkept.2
        have hnames : ¬ NamesExit (rt.toUpperCase (rt.stringOf raw)) := by
          intro hnames
          exact htells ⟨raw, hkept.1, hnull, hnames⟩
        rw [finalizeReason, hkept.1] at hsame
        dsimp only at hsame
        rw [if_pos hkept.2, brokerWord_of_not_namesExit hnames] at hsame
        rw [hupper] at hnames
        rw [hreason, decodeReason_text hempty, brokerWord_of_not_namesExit hnames]
        exact hsame

theorem decodeTime_typed (now : Int) :
    decodeTime (h.typed rt).closeTime now = (h.closedAt rt).getD now := by
  cases hclosed : h.closedAt rt with
  | none =>
      rw [HistoryAnswer.typed, hclosed]
      rfl
  | some t =>
      have hpos : 0 < t := by
        unfold HistoryAnswer.closedAt at hclosed
        cases hraw : h.closeTime with
        | none =>
            rw [hraw] at hclosed
            cases hclosed
        | some raw =>
            rw [hraw] at hclosed
            dsimp only at hclosed
            split_ifs at hclosed
            exact of_decide_eq_true (Option.filter_eq_some_iff.mp hclosed).2
      rw [HistoryAnswer.typed, hclosed]
      exact if_pos hpos

theorem finalizeAnswer_refines (hupper : forall s, rt.toUpperCase s = s.toUpper)
    (hprice : h.price = some closePrice) (hpnl : h.profit = some pnl) (trade : OpenTrade)
    (now : Int) :
    finalizeAnswer rt trade (.object h) now = finalizeFacts trade (some (h.typed rt)) now := by
  have hclose : (h.typed rt).closePrice = some closePrice := hprice
  have hprofit : (h.typed rt).realizedPnl.or (h.typed rt).pnl = some pnl := hpnl
  rw [finalizeAnswer_eq hprice hpnl]
  simp only [finalizeFacts, Option.bind_some, hclose, hprofit, decodeTime_typed]
  congr 1
  by_cases htells : TellsExit rt h
  · rw [if_pos htells, decodeReason_of_tells hupper htells,
      if_pos (finalizeReason_of_tells rt htells).2]
  · have hno := decodeReason_of_not_tells hupper htells
    rw [if_neg htells, if_neg]
    intro hexit
    rcases hexit with hexit | hexit
    · exact hno.1 hexit
    · exact hno.2 hexit

theorem closeInfoOf_eq (hprice : h.price = some closePrice) (hpnl : h.profit = some pnl) :
    closeInfoOf rt (.object h) =
      some
        { closePrice := closePrice
          pnl := pnl
          reason := sweepReason rt h
          closedAt := h.closedAt rt } := by
  simp [closeInfoOf, HistoryBody.answer, hprice, hpnl]

end Booking

/-!
# Rows of a sweep
-/

section Sweep

variable (rt : Runtime) (env : HistoryEnv) (now : Int)

def reconciledRow (row : MonitorRow) : MonitorRow :=
  match row.mt5Ticket.bind (fetchCloseInfo rt env row.account) with
  | some info => writeCloseInfo info row
  | none => row

theorem get_sweepTrade (acc : TradeTable × Nat) {entry : Nat × MonitorRow}
    (hrow : acc.1.get entry.1 = some entry.2) :
    (sweepTrade rt env acc entry).1.get entry.1 = some (reconciledRow rt env entry.2) := by
  unfold sweepTrade reconciledRow
  cases entry.2.mt5Ticket.bind (fetchCloseInfo rt env entry.2.account) with
  | none =>
      exact hrow
  | some info =>
      change (acc.1.modify entry.1 (writeCloseInfo info)).get entry.1 = _
      rw [get_modify, hrow]
      rfl

theorem get_sweepTrade_of_ne (acc : TradeTable × Nat) {entry : Nat × MonitorRow} {id : Nat}
    (hne : id ≠ entry.1) : (sweepTrade rt env acc entry).1.get id = acc.1.get id := by
  unfold sweepTrade
  cases entry.2.mt5Ticket.bind (fetchCloseInfo rt env entry.2.account) with
  | none =>
      rfl
  | some info =>
      exact get_modify_of_ne _ hne

theorem get_sweep_of_notMem (entries : List (Nat × MonitorRow)) (acc : TradeTable × Nat)
    {id : Nat} (hid : id ∉ entries.map Prod.fst) :
    (entries.foldl (sweepTrade rt env) acc).1.get id = acc.1.get id := by
  induction entries generalizing acc with
  | nil =>
      rfl
  | cons entry rest ih =>
      rw [List.map_cons, List.mem_cons, not_or] at hid
      rw [List.foldl_cons, ih _ hid.2, get_sweepTrade_of_ne rt env acc hid.1]

theorem get_sweep_of_mem {entries : List (Nat × MonitorRow)} (acc : TradeTable × Nat)
    (hnodup : (entries.map Prod.fst).Nodup) {entry : Nat × MonitorRow}
    (hentry : entry ∈ entries) (hrow : acc.1.get entry.1 = some entry.2) :
    (entries.foldl (sweepTrade rt env) acc).1.get entry.1 =
      some (reconciledRow rt env entry.2) := by
  induction entries generalizing acc with
  | nil =>
      cases hentry
  | cons first rest ih =>
      rw [List.map_cons, List.nodup_cons] at hnodup
      rw [List.foldl_cons]
      rcases List.mem_cons.mp hentry with heq | hrest
      · subst heq
        rw [get_sweep_of_notMem rt env rest _ hnodup.1, get_sweepTrade rt env acc hrow]
      · have hne : entry.1 ≠ first.1 := by
          intro heq
          exact hnodup.1 (List.mem_map.mpr ⟨entry, hrest, heq⟩)
        apply ih _ hnodup.2 hrest
        rw [get_sweepTrade_of_ne rt env acc hne, hrow]

/-- The facts a sweep writes, the old instant being kept without a close time. -/
def sweptFacts (h : HistoryAnswer) (closePrice pnl : ℚ) (closedAt : Int) : CloseFacts :=
  { closePrice := roundTo 100000 closePrice
    pnl := roundTo 100 pnl
    exitReason := sweepReason rt h
    closedAt := (h.closedAt rt).getD closedAt }

theorem reconciledRow_booked {row : MonitorRow} {ticket : Nat} {h : HistoryAnswer}
    {closePrice pnl : ℚ} {old : CloseFacts} (hticket : row.mt5Ticket = some ticket)
    (hanswer : env.fetch row.account ticket = .object h)
    (hprice : h.price = some closePrice) (hpnl : h.profit = some pnl)
    (hold : old ∈ row.booked) :
    (reconciledRow rt env row).booked =
      some (sweptFacts rt h closePrice pnl old.closedAt) := by
  rw [reconciledRow, hticket, Option.bind_some, fetchCloseInfo, hanswer,
    closeInfoOf_eq hprice hpnl]
  dsimp only [writeCloseInfo]
  rw [Option.mem_def.mp hold]
  rfl

theorem estimatedTrades_sublist (table : TradeTable) :
    (estimatedTrades now table).Sublist table.rows :=
  (List.take_sublist _ _).trans List.filter_sublist

theorem get_sweepOnce {table : TradeTable} {entry : Nat × MonitorRow}
    (hentry : entry ∈ estimatedTrades now table) :
    (sweepOnce rt env now table).1.get entry.1 = some (reconciledRow rt env entry.2) := by
  have hsub := estimatedTrades_sublist now table
  apply get_sweep_of_mem rt env (table, 0) (table.nodup.sublist (hsub.map _)) hentry
  exact InsertionMap.get_of_mem table.nodup (hsub.subset hentry)

theorem estimated_of_mem {table : TradeTable} {entry : Nat × MonitorRow}
    (hentry : entry ∈ estimatedTrades now table) : Estimated now entry.2 :=
  of_decide_eq_true (List.mem_filter.mp (List.mem_of_mem_take hentry)).2

end Sweep

/-!
# Agreement
-/

/-- The facts of two bookings; the instants only where the broker gave one. -/
structure SameBooking (brokerTime : Option Int) (a b : CloseFacts) : Prop where
  closePrice : a.closePrice = b.closePrice
  pnl : a.pnl = b.pnl
  exitReason : a.exitReason = b.exitReason
  closedAt : brokerTime ≠ none -> a.closedAt = b.closedAt

/-- An estimated trade is overwritten with the row of the position monitor exactly when
the broker's reason names an exit or the close price tells none. -/
theorem reconciled_as_finalized_iff (rt : Runtime) (env : HistoryEnv) (now later : Int)
    {table : TradeTable} {id ticket : Nat} {row : MonitorRow} {h : HistoryAnswer}
    {closePrice pnl : ℚ} (hentry : (id, row) ∈ estimatedTrades now table)
    (hticket : row.mt5Ticket = some ticket)
    (hanswer : env.fetch row.account ticket = .object h)
    (hprice : h.price = some closePrice) (hpnl : h.profit = some pnl) :
    exists swept facts, (sweepOnce rt env now table).1.get id = some swept ∧
      swept.booked = some facts ∧
      (SameBooking (h.closedAt rt) facts
          (writtenFacts (finalizeAnswer rt row.trade (env.fetch row.account ticket) later)) <->
        (TellsExit rt h ∨ BetweenExits closePrice row.trade.slPrice row.trade.tpPrice)) := by
  rcases (estimated_of_mem now hentry).2.2 with ⟨old, hold, hestimate⟩
  have hbooked : (reconciledRow rt env row).booked =
      some (sweptFacts rt h closePrice pnl old.closedAt) :=
    reconciledRow_booked rt env hticket hanswer hprice hpnl hold
  refine ⟨_, _, get_sweepOnce rt env now hentry, hbooked, ?_⟩
  rw [hanswer, finalizeAnswer_eq hprice hpnl, <- inferExitReason_eq_closed_iff]
  constructor
  · intro hsame
    by_cases htells : TellsExit rt h
    · exact Or.inl htells
    · have hreason := hsame.exitReason
      simp only [sweptFacts, writtenFacts, if_neg htells,
        sweepReason_of_not_tells rt htells] at hreason
      exact Or.inr hreason.symm
  · intro hcond
    refine ⟨rfl, rfl, ?_, ?_⟩
    · simp only [sweptFacts, writtenFacts]
      by_cases htells : TellsExit rt h
      · rw [if_pos htells]
      · rw [if_neg htells, sweepReason_of_not_tells rt htells]
        exact (hcond.resolve_left htells).symm
    · intro hgiven
      rcases Option.ne_none_iff_exists'.mp hgiven with ⟨t, ht⟩
      simp only [sweptFacts, writtenFacts, ht, Option.getD_some]

/-!
# A gold trade closed at its target
-/

def plainRuntime : Runtime where
  numberText x := toString x.num
  toUpperCase s := s.toUpper
  parseDate _ := none
  numberText_zero := by decide +kernel
  toUpperCase_ascii _ _ := rfl

/-- The answer of a deal history; cTrader's own deals carry no reason. -/
def goldAnswer (reason : String) : HistoryAnswer :=
  { closePrice := some (.number (20395 / 10))
    realizedPnl := none
    pnl := some (.number 395)
    exitReason := none
    reason := some (.text reason)
    closeTime := some (.text "1700000600000") }

def goldHistory (reason : String) : HistoryEnv :=
  { byAccount := fun _ _ => .object (goldAnswer reason)
    byTicket := fun _ => .empty }

def goldEstimate : MonitorRow :=
  { account := some "a1"
    mt5Ticket := some 100
    status := .closed
    trade := goldTrade
    booked := some
      { closePrice := 2015, pnl := 150, exitReason := "TP_EST", closedAt := 1700000900000 } }

def goldTable : TradeTable :=
  { rows := [(1, goldEstimate)]
    nodup := by simp }

theorem goldEstimate_queried : (1, goldEstimate) ∈ estimatedTrades 1700001000000 goldTable := by
  have hestimated : Estimated 1700001000000 goldEstimate := by
    decide +kernel
  simp [estimatedTrades, goldTable, hestimated]

theorem take_profit_reconciled_as_finalized :
    exists swept facts,
      (sweepOnce plainRuntime (goldHistory "TAKE_PROFIT") 1700001000000 goldTable).1.get 1 =
        some swept ∧
      swept.booked = some facts ∧
      SameBooking ((goldAnswer "TAKE_PROFIT").closedAt plainRuntime) facts
        (writtenFacts (finalizeAnswer plainRuntime goldTrade
          ((goldHistory "TAKE_PROFIT").fetch (some "a1") 100) 1700001000000)) := by
  rcases reconciled_as_finalized_iff plainRuntime (goldHistory "TAKE_PROFIT") 1700001000000
    1700001000000 goldEstimate_queried rfl rfl rfl rfl with ⟨swept, facts, hget, hbooked, hiff⟩
  exact ⟨swept, facts, hget, hbooked, hiff.mpr (Or.inl (by decide +kernel))⟩

/-- Half a dollar from the target: the sweep writes that no exit is known where the
position monitor infers the target. -/
theorem unknown_reason_booked_apart :
    (goldAnswer "UNKNOWN").price = some (20395 / 10) ∧
      (goldAnswer "UNKNOWN").profit = some 395 ∧
      ((sweepOnce plainRuntime (goldHistory "UNKNOWN") 1700001000000 goldTable).1.get 1).bind
          (fun row => row.booked.map CloseFacts.exitReason) = some "CLOSED" ∧
      (writtenFacts (finalizeAnswer plainRuntime goldTrade
        ((goldHistory "UNKNOWN").fetch (some "a1") 100) 1700001000000)).exitReason = "TP" := by
  decide +kernel

end ExitReconciliation
end Live
end Shamarx
