import Mathlib.Data.List.Range
import Mathlib.Data.List.ReduceOption
import Shamarx.Engine.Types
import Shamarx.Foundation.InsertionMap
import Shamarx.Foundation.Rounding
import Shamarx.Foundation.Runs

/-!
# The mock broker

`MockMT5` fills market orders at random quotes and keeps its positions, the history of
their closes and one balance in memory.  The random draws are inputs here.
-/

namespace Shamarx
namespace Broker
namespace MockBroker

open Foundation
open Engine

structure MockPosition where
  symbol : String
  side : Side
  lotSize : ℚ
  entryPrice : ℚ
  sl : ℚ
  tp : ℚ
  openTime : Int
  comment : Option String
  deriving DecidableEq

structure CloseInfo where
  closePrice : ℚ
  realizedPnl : ℚ
  closeTime : Int
  exitReason : String
  deriving DecidableEq

structure OrderRequest where
  symbol : String
  side : Side
  lotSize : ℚ
  slPrice : ℚ
  tpPrice : ℚ
  comment : Option String

structure Quote where
  middlePrice : ℚ
  spread : ℚ

def Quote.bid (q : Quote) : ℚ :=
  roundCents (q.middlePrice - q.spread / 2)

def Quote.ask (q : Quote) : ℚ :=
  roundCents (q.middlePrice + q.spread / 2)

structure MockMT5 where
  balance : ℚ
  positions : InsertionMap Nat MockPosition
  nextTicket : Nat
  closedHistory : InsertionMap Nat CloseInfo

inductive ReplyStatus where
  | filled
  | rejected
  | closed
  | modified
  deriving DecidableEq, Repr

namespace MockMT5

def start : MockMT5 :=
  { balance := 10000, positions := [], nextTicket := 100001, closedHistory := [] }

def reset (m : MockMT5) (balance : ℚ) : MockMT5 :=
  { m with balance := balance, positions := [], closedHistory := [] }

def getPositionCloseInfo (m : MockMT5) (ticket : Nat) : Option CloseInfo :=
  m.closedHistory.get ticket

def placeOrder (m : MockMT5) (r : OrderRequest) (q : Quote) (now : Int) : MockMT5 × Nat :=
  ({ m with
      nextTicket := m.nextTicket + 1
      positions := m.positions.set m.nextTicket
        { symbol := r.symbol
          side := r.side
          lotSize := r.lotSize
          entryPrice := match r.side with
            | .buy => q.ask
            | .sell => q.bid
          sl := r.slPrice
          tp := r.tpPrice
          openTime := now
          comment := r.comment } },
    m.nextTicket)

def calculatePnl (pos : MockPosition) (currentPrice : ℚ) : ℚ :=
  match pos.side with
  | .buy => (currentPrice - pos.entryPrice) * pos.lotSize * 100
  | .sell => (pos.entryPrice - currentPrice) * pos.lotSize * 100

def closePosition (m : MockMT5) (ticket : Nat) (q : Quote) (currentPrice : ℚ) (now : Int) :
    MockMT5 × ReplyStatus :=
  match m.positions.get ticket with
  | none => (m, .rejected)
  | some pos =>
      let closePrice := match pos.side with
        | .buy => q.bid
        | .sell => q.ask
      let pnl := calculatePnl pos currentPrice
      ({ m with
          closedHistory := m.closedHistory.set ticket
            { closePrice := roundCents closePrice
              realizedPnl := roundCents pnl
              closeTime := now
              exitReason := "MANUAL" }
          positions := m.positions.erase ticket
          balance := m.balance + pnl },
        .closed)

def modifyPosition (m : MockMT5) (ticket : Nat) (slPrice tpPrice : Option ℚ) :
    MockMT5 × ReplyStatus :=
  match m.positions.get ticket with
  | none => (m, .rejected)
  | some pos =>
      ({ m with
          positions := m.positions.set ticket
            { pos with sl := slPrice.getD pos.sl, tp := tpPrice.getD pos.tp } },
        .modified)

end MockMT5

inductive MockOp where
  | placeOrder (r : OrderRequest) (q : Quote) (now : Int)
  | closePosition (ticket : Nat) (q : Quote) (currentPrice : ℚ) (now : Int)
  | modifyPosition (ticket : Nat) (slPrice tpPrice : Option ℚ)

def mockStep (m : MockMT5) : MockOp -> MockMT5
  | .placeOrder r q now => (m.placeOrder r q now).1
  | .closePosition ticket q currentPrice now => (m.closePosition ticket q currentPrice now).1
  | .modifyPosition ticket slPrice tpPrice => (m.modifyPosition ticket slPrice tpPrice).1

def repliedTicket (m : MockMT5) : MockOp -> Option Nat
  | .placeOrder r q now => some (m.placeOrder r q now).2
  | _ => none

def repliedTickets (m : MockMT5) (ops : List MockOp) : List Nat :=
  (outputsFrom mockStep repliedTicket m ops).reduceOption

theorem repliedTickets_cons (m : MockMT5) (op : MockOp) (rest : List MockOp) :
    repliedTickets m (op :: rest) =
      (repliedTicket m op).toList ++ repliedTickets (mockStep m op) rest := by
  unfold repliedTickets
  rw [outputsFrom]
  cases repliedTicket m op with
  | none =>
      exact List.reduceOption_cons_of_none _
  | some ticket =>
      exact List.reduceOption_cons_of_some ticket _

/-!
# The books
-/

def MockMT5.reported (m : MockMT5) : ℚ :=
  (m.closedHistory.map fun entry => entry.2.realizedPnl).sum

/-- The tickets issued are numbered from the first one on, each is open or closed, not
both, and the balance is the opening one with the reported profits, up to half a cent a
close. -/
structure Books (first : Nat) (opening : ℚ) (issued : List Nat) (m : MockMT5) : Prop where
  started : first <= m.nextTicket
  numbered : issued = List.range' first (m.nextTicket - first)
  tickets : (m.positions.map Prod.fst ++ m.closedHistory.map Prod.fst).Perm issued
  balance : |m.balance - (opening + m.reported)| ≤ m.closedHistory.length / 200

namespace Books

variable {first : Nat} {opening : ℚ} {issued : List Nat} {m : MockMT5}

theorem reset (m : MockMT5) (balance : ℚ) :
    Books m.nextTicket balance [] (m.reset balance) where
  started := Nat.le_refl _
  numbered := by
    change [] = List.range' m.nextTicket (m.nextTicket - m.nextTicket)
    rw [Nat.sub_self]
    rfl
  tickets := List.Perm.refl _
  balance := by
    simp [MockMT5.reset, MockMT5.reported]

theorem nodup (h : Books first opening issued m) :
    (m.positions.map Prod.fst ++ m.closedHistory.map Prod.fst).Nodup := by
  rw [h.tickets.nodup_iff, h.numbered]
  exact List.nodup_range'

theorem nextTicket_fresh (h : Books first opening issued m) :
    m.nextTicket ∉ m.positions.map Prod.fst ++ m.closedHistory.map Prod.fst := by
  intro hmem
  have hrange := h.tickets.mem_iff.mp hmem
  rw [h.numbered, List.mem_range'_1] at hrange
  have := h.started
  omega

theorem get_eq_none {m : InsertionMap Nat α} {k : Nat} (h : k ∉ m.map Prod.fst) :
    m.get k = none := by
  cases hget : m.get k with
  | none =>
      rfl
  | some v =>
      exact absurd (List.mem_map_of_mem (InsertionMap.mem_of_get hget)) h

theorem placeOrder (h : Books first opening issued m) (r : OrderRequest) (q : Quote)
    (now : Int) :
    Books first opening (issued ++ [(m.placeOrder r q now).2]) (m.placeOrder r q now).1 where
  started := Nat.le_succ_of_le h.started
  numbered := by
    have hcount : m.nextTicket + 1 - first = m.nextTicket - first + 1 := by
      have := h.started
      omega
    change issued ++ [m.nextTicket] = List.range' first (m.nextTicket + 1 - first)
    rw [hcount, List.range'_concat, Nat.one_mul, Nat.add_sub_cancel' h.started, h.numbered]
  tickets := by
    have hfresh := h.nextTicket_fresh
    rw [List.mem_append, not_or] at hfresh
    change ((InsertionMap.set m.positions m.nextTicket _).map Prod.fst ++ _).Perm
      (issued ++ [m.nextTicket])
    rw [InsertionMap.set_of_get_none (get_eq_none hfresh.1), List.map_append, List.append_assoc]
    refine (List.perm_append_comm.append_left _).trans ?_
    rw [<- List.append_assoc]
    exact h.tickets.append_right _
  balance := h.balance

theorem closePosition (h : Books first opening issued m) (ticket : Nat) (q : Quote)
    (currentPrice : ℚ) (now : Int) :
    Books first opening issued (m.closePosition ticket q currentPrice now).1 := by
  unfold MockMT5.closePosition
  cases hget : m.positions.get ticket with
  | none =>
      exact h
  | some pos =>
      have hopen : ticket ∈ m.positions.map Prod.fst :=
        List.mem_map_of_mem (InsertionMap.mem_of_get hget)
      rcases List.nodup_append.mp h.nodup with ⟨hpositions, -, hdisjoint⟩
      have hnew : m.closedHistory.get ticket = none :=
        get_eq_none fun hclosed => hdisjoint ticket hopen ticket hclosed rfl
      refine ⟨h.started, h.numbered, ?_, ?_⟩
      · dsimp only
        rw [InsertionMap.set_of_get_none hnew, List.map_append, <- List.append_assoc]
        refine List.perm_append_comm.trans ?_
        change (ticket :: (_ ++ _)).Perm _
        rw [<- List.cons_append]
        exact ((InsertionMap.keys_perm_erase hpositions hget).symm.append_right _).trans h.tickets
      · dsimp only
        unfold MockMT5.reported
        rw [InsertionMap.set_of_get_none hnew, List.map_append, List.sum_append,
          List.length_append]
        have hold := h.balance
        have hround := abs_roundCents_sub_le (MockMT5.calculatePnl pos currentPrice)
        unfold MockMT5.reported at hold
        simp only [List.map_cons, List.map_nil, List.sum_cons, List.sum_nil, List.length_cons,
          List.length_nil, add_zero, zero_add, Nat.cast_add, Nat.cast_one]
        rw [abs_le] at hold hround ⊢
        constructor <;> linarith [hold.1, hold.2, hround.1, hround.2]

theorem modifyPosition (h : Books first opening issued m) (ticket : Nat)
    (slPrice tpPrice : Option ℚ) :
    Books first opening issued (m.modifyPosition ticket slPrice tpPrice).1 := by
  unfold MockMT5.modifyPosition
  cases hget : m.positions.get ticket with
  | none =>
      exact h
  | some pos =>
      refine ⟨h.started, h.numbered, ?_, h.balance⟩
      dsimp only
      rw [InsertionMap.keys_set_of_get hget]
      exact h.tickets

theorem step (h : Books first opening issued m) (op : MockOp) :
    Books first opening (issued ++ (repliedTicket m op).toList) (mockStep m op) := by
  cases op with
  | placeOrder r q now =>
      exact h.placeOrder r q now
  | closePosition ticket q currentPrice now =>
      rw [show (repliedTicket m (.closePosition ticket q currentPrice now)).toList = [] from rfl,
        List.append_nil]
      exact h.closePosition ticket q currentPrice now
  | modifyPosition ticket slPrice tpPrice =>
      rw [show (repliedTicket m (.modifyPosition ticket slPrice tpPrice)).toList = [] from rfl,
        List.append_nil]
      exact h.modifyPosition ticket slPrice tpPrice

theorem run (h : Books first opening issued m) (ops : List MockOp) :
    Books first opening (issued ++ repliedTickets m ops) (runFrom mockStep m ops) := by
  induction ops generalizing issued m with
  | nil =>
      rw [show repliedTickets m [] = [] from rfl, List.append_nil]
      exact h
  | cons op rest ih =>
      rw [repliedTickets_cons, <- List.append_assoc]
      exact ih (h.step op)

end Books

theorem closeInfo_step {first : Nat} {opening : ℚ} {issued : List Nat} {m : MockMT5}
    (h : Books first opening issued m) (op : MockOp) {ticket : Nat} {info : CloseInfo}
    (hinfo : m.getPositionCloseInfo ticket = some info) :
    (mockStep m op).getPositionCloseInfo ticket = some info := by
  cases op with
  | placeOrder r q now =>
      exact hinfo
  | closePosition other q currentPrice now =>
      change (m.closePosition other q currentPrice now).1.getPositionCloseInfo ticket = some info
      unfold MockMT5.closePosition
      cases hget : m.positions.get other with
      | none =>
          exact hinfo
      | some pos =>
          have hne : ticket ≠ other := by
            rintro rfl
            have hclosed := List.mem_map_of_mem (f := Prod.fst) (InsertionMap.mem_of_get hinfo)
            have hopen := List.mem_map_of_mem (f := Prod.fst) (InsertionMap.mem_of_get hget)
            exact (List.nodup_append.mp h.nodup).2.2 ticket hopen ticket hclosed rfl
          exact (InsertionMap.get_set_of_ne _ _ hne).trans hinfo
  | modifyPosition other slPrice tpPrice =>
      change (m.modifyPosition other slPrice tpPrice).1.getPositionCloseInfo ticket = some info
      unfold MockMT5.modifyPosition
      cases m.positions.get other with
      | none =>
          exact hinfo
      | some pos =>
          exact hinfo

/-- Between two resets, whatever is ordered, closed and modified: the tickets that the
replies name are numbered on from those before the reset and are exactly those open or
closed, each once; the balance is the opening balance with the reported profits up to
half a cent a close; and a close that was reported stays as it is. -/
theorem mock_books (m : MockMT5) (opening : ℚ) (front back : List MockOp) :
    Books m.nextTicket opening (repliedTickets (m.reset opening) front)
        (runFrom mockStep (m.reset opening) front) ∧
      forall ticket info,
        (runFrom mockStep (m.reset opening) front).getPositionCloseInfo ticket = some info ->
        (runFrom mockStep (m.reset opening) (front ++ back)).getPositionCloseInfo ticket =
          some info := by
  have hfront := (Books.reset m opening).run front
  refine ⟨hfront, ?_⟩
  intro ticket info hinfo
  rw [runFrom_append]
  exact (runFrom_inv (fun t : MockMT5 => (exists issued, Books m.nextTicket opening issued t) ∧
      t.getPositionCloseInfo ticket = some info)
    (fun _ op h => h.1.elim fun _ hbooks => ⟨⟨_, hbooks.step op⟩, closeInfo_step hbooks op h.2⟩)
    ⟨⟨_, hfront⟩, hinfo⟩ back).2

/-- The process starts as after a reset. -/
example : MockMT5.start.reset 10000 = MockMT5.start := rfl

end MockBroker
end Broker
end Shamarx
