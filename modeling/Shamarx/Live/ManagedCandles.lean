import Shamarx.Foundation.AppendOnly
import Shamarx.Foundation.InFlight
import Shamarx.Foundation.Runs
import Shamarx.Live.PositionManager
import Shamarx.Live.PositionMonitor

/-!
# The candles of the position manager

A pass of the position manager reads the open rows of a symbol, then the positions
of the broker, and then the latest stored M15 bar, whatever the trades are; the bar
is applied to each trade in turn.  A trade may have been filled at any time within a
bar, or just after one.
-/

namespace Shamarx
namespace Live
namespace ManagedCandles

open Foundation
open Engine
open Broker

/-!
# Rows, bars and passes
-/

structure ManagedRow where
  status : TradeStatus
  fillTime : Option Int
  trade : ManagedTrade
  deriving DecidableEq

structure PassEntry where
  index : Nat
  trade : ManagedTrade
  broker : Option BrokerPosition

inductive PassPhase where
  | read (entries : List (Nat × ManagedTrade))
  | listed (entries : List PassEntry)
  | managing (candle : BacktestCandle) (todo : List PassEntry)

/-- The last field records which candle was applied to which trade. -/
structure ManageRun where
  bars : List BacktestCandle
  rows : List ManagedRow
  passes : InFlight PassPhase
  applied : List (Nat × BacktestCandle)

def ManageRun.fresh : ManageRun :=
  { bars := [], rows := [], passes := .empty, applied := [] }

def laterBar : Option BacktestCandle -> BacktestCandle -> Option BacktestCandle
  | none, bar => some bar
  | some best, bar => if best.openTime < bar.openTime then some bar else some best

def latestM15 (bars : List BacktestCandle) : Option BacktestCandle :=
  bars.foldl laterBar none

def openTrades (rows : List ManagedRow) : List (Nat × ManagedTrade) :=
  (rows.zipIdx.filter fun e => e.1.status = .open_).map fun e => (e.2, e.1.trade)

def ManagedRow.promoted (row : ManagedRow) (fillPrice : ℚ) : ManagedRow :=
  { row with
    status := .open_
    trade :=
      { row.trade with
        entryPrice := fillPrice
        state := { row.trade.state with peakFavorablePrice := some fillPrice } } }

inductive ManageOp where
  | store (candles : List BacktestCandle)
  | market (trade : ManagedTrade) (fillTime : Int)
  | park (trade : ManagedTrade)
  | fill (i : Nat) (fillTime : Int)
  | promote (i : Nat) (fillPrice : ℚ)
  | close (i : Nat)
  | pass (id : Nat)
  | positions (id : Nat) (listed : Nat -> Option BrokerPosition)
  | candle (id : Nat)
  | manage (id : Nat) (outcome : ModifyOutcome)
  | abandon (id : Nat)

namespace ManageRun

def move (s : ManageRun) (id : Nat) (phase : PassPhase) : ManageRun :=
  { s with passes := s.passes.put id phase }

/-- The candle is applied to a trade that the broker lists; a trade that does not
change is not written. -/
def apply (symbol : Instrument) (s : ManageRun) (e : PassEntry) (broker : BrokerPosition)
    (candle : BacktestCandle) (outcome : ModifyOutcome) : ManageRun :=
  let after := manageTrade symbol e.index e.trade broker candle outcome
  { s with
    rows :=
      if after = e.trade then s.rows
      else s.rows.modify e.index fun row => { row with trade := after }
    applied := s.applied ++ [(e.index, candle)] }

end ManageRun

/-- One step of the candle service, of the strategy service and the pending-entry
sweeps on a row, of the broker, or of a pass. -/
def manageStep (symbol : Instrument) (s : ManageRun) : ManageOp -> ManageRun
  | .store candles => { s with bars := createMany BacktestCandle.openTime s.bars candles }
  | .market trade fillTime =>
      { s with
        rows := s.rows ++ [{ status := .open_, fillTime := some fillTime, trade := trade }] }
  | .park trade =>
      { s with rows := s.rows ++ [{ status := .pending, fillTime := none, trade := trade }] }
  | .fill i fillTime =>
      { s with
        rows := s.rows.modify i fun row =>
          if row.fillTime = none then { row with fillTime := some fillTime } else row }
  | .promote i fillPrice =>
      { s with
        rows := s.rows.modify i fun row =>
          if row.status = .pending ∧ row.fillTime.isSome = true then row.promoted fillPrice
          else row }
  | .close i =>
      { s with
        rows := s.rows.modify i fun row =>
          if row.status = .open_ then { row with status := .closed } else row }
  | .pass id =>
      match s.passes id with
      | none => s.move id (.read (openTrades s.rows))
      | some _ => s
  | .positions id listed =>
      match s.passes id with
      | some (.read entries) =>
          s.move id (.listed (entries.map fun e =>
            { index := e.1, trade := e.2, broker := listed e.1 }))
      | _ => s
  | .candle id =>
      match s.passes id with
      | some (.listed entries) =>
          match latestM15 s.bars with
          | some candle => s.move id (.managing candle entries)
          | none => { s with passes := s.passes.drop id }
      | _ => s
  | .manage id outcome =>
      match s.passes id with
      | some (.managing candle (e :: todo)) =>
          match e.broker with
          | some broker => (s.apply symbol e broker candle outcome).move id (.managing candle todo)
          | none => s.move id (.managing candle todo)
      | _ => s
  | .abandon id => { s with passes := s.passes.drop id }

/-!
# What is promised and what it takes
-/

def fillTimeOf (rows : List ManagedRow) (i : Nat) : Option Int :=
  rows[i]?.bind ManagedRow.fillTime

/-- The candle opened when the trade was filled or later. -/
def OpenedAfterFill (rows : List ManagedRow) (i : Nat) (candle : BacktestCandle) : Prop :=
  match fillTimeOf rows i with
  | some fillTime => fillTime ≤ candle.openTime
  | none => False

instance (rows : List ManagedRow) (i : Nat) (candle : BacktestCandle) :
    Decidable (OpenedAfterFill rows i candle) := by
  unfold OpenedAfterFill
  split <;> infer_instance

/-- No candle from before the fill has been applied to a trade. -/
def NoEarlyCandle (s : ManageRun) : Prop :=
  forall e, e ∈ s.applied -> OpenedAfterFill s.rows e.1 e.2

instance (s : ManageRun) : Decidable (NoEarlyCandle s) :=
  inferInstanceAs (Decidable (forall e, e ∈ s.applied -> OpenedAfterFill s.rows e.1 e.2))

/-- When a pass looks the candle up, the latest bar that is stored opened after the
fill of every trade that the pass is to manage. -/
def LatestAfterFills (s : ManageRun) : ManageOp -> Prop
  | .candle id =>
      match s.passes id, latestM15 s.bars with
      | some (.listed entries), some candle =>
          forall e, e ∈ entries -> e.broker.isSome = true -> OpenedAfterFill s.rows e.index candle
      | _, _ => True
  | _ => True

instance (s : ManageRun) (op : ManageOp) : Decidable (LatestAfterFills s op) := by
  unfold LatestAfterFills
  repeat' split
  all_goals infer_instance

/-!
# Fill times stay
-/

variable {symbol : Instrument} {s : ManageRun}

def SameFill (old new : ManagedRow) : Prop :=
  forall fillTime, old.fillTime = some fillTime -> new.fillTime = some fillTime

theorem SameFill.refl (row : ManagedRow) : SameFill row row :=
  fun _ h => h

theorem OpenedAfterFill.of_kept {rows rows' : List ManagedRow} {i : Nat} {candle : BacktestCandle}
    (h : OpenedAfterFill rows i candle) (hkept : RowsKept SameFill rows rows') :
    OpenedAfterFill rows' i candle := by
  unfold OpenedAfterFill fillTimeOf at h ⊢
  cases hrow : rows[i]? with
  | none =>
      rw [hrow] at h
      exact absurd h id
  | some row =>
      rw [hrow, Option.bind_some] at h
      rcases hkept i row hrow with ⟨new, hnew, hsame⟩
      cases hfill : row.fillTime with
      | none =>
          rw [hfill] at h
          exact absurd h id
      | some fillTime =>
          rw [hfill] at h
          rw [hnew, Option.bind_some, hsame fillTime hfill]
          exact h

theorem apply_rowsKept (symbol : Instrument) (s : ManageRun) (e : PassEntry)
    (broker : BrokerPosition) (candle : BacktestCandle) (outcome : ModifyOutcome) :
    RowsKept SameFill s.rows (s.apply symbol e broker candle outcome).rows := by
  unfold ManageRun.apply
  dsimp only
  split_ifs
  · exact rowsKept_refl SameFill.refl s.rows
  · exact rowsKept_modify SameFill.refl fun _ _ => SameFill.refl _

theorem manageStep_rowsKept (symbol : Instrument) (s : ManageRun) (op : ManageOp) :
    RowsKept SameFill s.rows (manageStep symbol s op).rows := by
  cases op with
  | market trade fillTime =>
      exact rowsKept_append SameFill.refl s.rows _
  | park trade =>
      exact rowsKept_append SameFill.refl s.rows _
  | fill i fillTime =>
      apply rowsKept_modify SameFill.refl
      intro old _
      split_ifs with hnone
      · intro t h
        rw [hnone] at h
        cases h
      · exact SameFill.refl old
  | promote i fillPrice =>
      apply rowsKept_modify SameFill.refl
      intro old _
      split_ifs
      · exact SameFill.refl old
      · exact SameFill.refl old
  | close i =>
      apply rowsKept_modify SameFill.refl
      intro old _
      split_ifs
      · exact SameFill.refl old
      · exact SameFill.refl old
  | manage id outcome =>
      simp only [manageStep]
      split
      · split
        · exact apply_rowsKept symbol s _ _ _ _
        · exact rowsKept_refl SameFill.refl s.rows
      · exact rowsKept_refl SameFill.refl s.rows
  | candle id =>
      simp only [manageStep]
      split
      · split <;> exact rowsKept_refl SameFill.refl s.rows
      · exact rowsKept_refl SameFill.refl s.rows
  | pass id =>
      simp only [manageStep]
      split <;> exact rowsKept_refl SameFill.refl s.rows
  | positions id listed =>
      simp only [manageStep]
      split <;> exact rowsKept_refl SameFill.refl s.rows
  | store candles =>
      exact rowsKept_refl SameFill.refl s.rows
  | abandon id =>
      exact rowsKept_refl SameFill.refl s.rows

/-!
# Candles from after the fill
-/

def PhaseTimely (rows : List ManagedRow) : PassPhase -> Prop
  | .managing candle todo =>
      forall e, e ∈ todo -> e.broker.isSome = true -> OpenedAfterFill rows e.index candle
  | _ => True

structure Timely (s : ManageRun) : Prop where
  applied : NoEarlyCandle s
  passes : s.passes.Forall fun _ => PhaseTimely s.rows

theorem PhaseTimely.of_kept {rows rows' : List ManagedRow} {phase : PassPhase}
    (h : PhaseTimely rows phase) (hkept : RowsKept SameFill rows rows') :
    PhaseTimely rows' phase := by
  cases phase with
  | managing candle todo =>
      exact fun e he hlisted => (h e he hlisted).of_kept hkept
  | _ =>
      exact trivial

theorem Timely.kept (hs : Timely s) {rows : List ManagedRow}
    (hkept : RowsKept SameFill s.rows rows) : Timely { s with rows := rows } where
  applied := fun e he => (hs.applied e he).of_kept hkept
  passes := InFlight.Forall.imp hs.passes fun _ _ hphase => hphase.of_kept hkept

theorem Timely.move (hs : Timely s) {id : Nat} {phase : PassPhase}
    (hphase : PhaseTimely s.rows phase) : Timely (s.move id phase) where
  applied := hs.applied
  passes := hs.passes.put hphase

theorem Timely.drop (hs : Timely s) (id : Nat) : Timely { s with passes := s.passes.drop id } where
  applied := hs.applied
  passes := hs.passes.drop id

theorem Timely.apply (hs : Timely s) {e : PassEntry} {candle : BacktestCandle}
    (hafter : OpenedAfterFill s.rows e.index candle) (broker : BrokerPosition)
    (outcome : ModifyOutcome) : Timely (s.apply symbol e broker candle outcome) where
  applied := by
    have hkept := apply_rowsKept symbol s e broker candle outcome
    intro old hold
    rcases List.mem_append.mp hold with hold | hnew
    · exact (hs.applied old hold).of_kept hkept
    · rw [List.mem_singleton.mp hnew]
      exact hafter.of_kept hkept
  passes := (hs.kept (apply_rowsKept symbol s e broker candle outcome)).passes

theorem manageStep_timely {op : ManageOp} (hs : Timely s) (hop : LatestAfterFills s op) :
    Timely (manageStep symbol s op) := by
  cases op with
  | manage id outcome =>
      simp only [manageStep]
      split
      · next candle e todo hpass =>
          have hphase := hs.passes id _ hpass
          have hrest : PhaseTimely s.rows (.managing candle todo) :=
            fun e' he' => hphase e' (List.mem_cons_of_mem _ he')
          split
          · next broker hbroker =>
              have hafter := hphase e List.mem_cons_self (by rw [hbroker]; rfl)
              exact (hs.apply hafter broker outcome).move
                (hrest.of_kept (apply_rowsKept symbol s e broker candle outcome))
          · exact hs.move hrest
      · exact hs
  | candle id =>
      simp only [manageStep]
      split
      · next entries hpass =>
          split
          · next candle hlatest =>
              simp only [LatestAfterFills, hpass, hlatest] at hop
              exact hs.move hop
          · exact hs.drop id
      · exact hs
  | pass id =>
      simp only [manageStep]
      split
      · exact hs.move trivial
      · exact hs
  | positions id listed =>
      simp only [manageStep]
      split
      · exact hs.move trivial
      · exact hs
  | abandon id =>
      exact hs.drop id
  | store candles =>
      exact ⟨hs.applied, hs.passes⟩
  | market trade fillTime =>
      exact hs.kept (manageStep_rowsKept symbol s (.market trade fillTime))
  | park trade =>
      exact hs.kept (manageStep_rowsKept symbol s (.park trade))
  | fill i fillTime =>
      exact hs.kept (manageStep_rowsKept symbol s (.fill i fillTime))
  | promote i fillPrice =>
      exact hs.kept (manageStep_rowsKept symbol s (.promote i fillPrice))
  | close i =>
      exact hs.kept (manageStep_rowsKept symbol s (.close i))

/-!
# A candle from before the fill
-/

theorem fillTimeOf_modify (rows : List ManagedRow) (i j : Nat) {f : ManagedRow -> ManagedRow}
    (hf : forall row, (f row).fillTime = row.fillTime) :
    fillTimeOf (rows.modify j f) i = fillTimeOf rows i := by
  unfold fillTimeOf
  rw [List.getElem?_modify]
  cases rows[i]? with
  | none =>
      rfl
  | some row =>
      change ManagedRow.fillTime (if j = i then f row else row) = row.fillTime
      split_ifs
      · exact hf row
      · rfl

theorem fillTimeOf_apply (s : ManageRun) (e : PassEntry) (broker : BrokerPosition)
    (candle : BacktestCandle) (outcome : ModifyOutcome) (i : Nat) :
    fillTimeOf (s.apply symbol e broker candle outcome).rows i = fillTimeOf s.rows i := by
  unfold ManageRun.apply
  dsimp only
  split_ifs
  · rfl
  · exact fillTimeOf_modify s.rows i e.index fun _ => rfl

theorem exists_early_application (symbol : Instrument) {id : Nat} {candle : BacktestCandle}
    {todo : List PassEntry} (hpass : s.passes id = some (.managing candle todo))
    {e : PassEntry} (he : e ∈ todo) (hlisted : e.broker.isSome = true)
    (hearly : ¬ OpenedAfterFill s.rows e.index candle) :
    exists ops, ¬ NoEarlyCandle (runFrom (manageStep symbol) s ops) := by
  induction todo generalizing s with
  | nil =>
      cases he
  | cons first rest ih =>
      have hstep : manageStep symbol s (.manage id (.unreached 503)) =
          match first.broker with
          | some broker =>
              (s.apply symbol first broker candle (.unreached 503)).move id
                (.managing candle rest)
          | none => s.move id (.managing candle rest) := by
        simp only [manageStep, hpass]
      cases hbroker : first.broker with
      | none =>
          rw [hbroker] at hstep
          have hrest : e ∈ rest := by
            rcases List.mem_cons.mp he with rfl | hrest
            · rw [hbroker] at hlisted
              cases hlisted
            · exact hrest
          rcases ih (s := s.move id (.managing candle rest)) (InFlight.put_self _ _ _) hrest
            hearly with ⟨ops, hops⟩
          refine ⟨.manage id (.unreached 503) :: ops, ?_⟩
          rw [runFrom_cons, hstep]
          exact hops
      | some broker =>
          rw [hbroker] at hstep
          have hstill (i : Nat) :
              OpenedAfterFill (s.apply symbol first broker candle (.unreached 503)).rows i candle ↔
                OpenedAfterFill s.rows i candle := by
            unfold OpenedAfterFill
            rw [fillTimeOf_apply]
          rcases List.mem_cons.mp he with rfl | hrest
          · refine ⟨[.manage id (.unreached 503)], ?_⟩
            rw [runFrom_cons, hstep]
            intro hnone
            apply hearly
            rw [← hstill]
            exact hnone (e.index, candle) (List.mem_append_right _ List.mem_cons_self)
          · have hlater : ¬ OpenedAfterFill
                (s.apply symbol first broker candle (.unreached 503)).rows e.index candle :=
              fun h => hearly ((hstill e.index).mp h)
            rcases ih (s := (s.apply symbol first broker candle (.unreached 503)).move id
              (.managing candle rest)) (InFlight.put_self _ _ _) hrest hlater with ⟨ops, hops⟩
            refine ⟨.manage id (.unreached 503) :: ops, ?_⟩
            rw [runFrom_cons, hstep]
            exact hops

/-- Where every pass finds a latest bar from after the fills of its trades, no candle
from before a fill is applied; and after a pass that does not, some continuation
applies one. -/
theorem no_early_candle_while_the_latest_is_after_the_fills (symbol : Instrument)
    (ops : List ManageOp) :
    (EveryStep (manageStep symbol) LatestAfterFills .fresh ops ->
        NoEarlyCandle (runFrom (manageStep symbol) .fresh ops)) ∧
      (forall op, ¬ LatestAfterFills (runFrom (manageStep symbol) .fresh ops) op ->
        exists more,
          ¬ NoEarlyCandle (runFrom (manageStep symbol) .fresh (ops ++ op :: more))) := by
  constructor
  · intro hops
    exact (EveryStep.run_inv Timely (fun _ _ => manageStep_timely)
      ⟨fun _ he => absurd he List.not_mem_nil, InFlight.forall_empty _⟩ hops).applied
  · intro op hmiss
    generalize hs : runFrom (manageStep symbol) .fresh ops = s at hmiss
    cases op with
    | candle id =>
        simp only [LatestAfterFills] at hmiss
        split at hmiss
        · next entries candle hpass hlatest =>
            have hmiss' : exists e, e ∈ entries ∧ e.broker.isSome = true ∧
                ¬ OpenedAfterFill s.rows e.index candle := by
              by_contra hall
              apply hmiss
              intro e he hlisted
              by_contra hearly
              exact hall ⟨e, he, hlisted, hearly⟩
            rcases hmiss' with ⟨e, he, hlisted, hearly⟩
            have hstep : manageStep symbol s (.candle id) = s.move id (.managing candle entries) := by
              simp only [manageStep, hpass, hlatest]
            rcases exists_early_application symbol
              (s := s.move id (.managing candle entries)) (InFlight.put_self _ _ _) he hlisted
              hearly with ⟨more, hmore⟩
            refine ⟨more, ?_⟩
            rw [runFrom_append, hs, runFrom_cons, hstep]
            exact hmore
        · exact absurd trivial hmiss
    | _ =>
        exact absurd trivial hmiss

/-!
# A limit filled within a bar
-/

/-- A limit filled seven minutes into the first bar and promoted, and a pass after the
bars are stored. -/
def filledAtSeven (bars : List BacktestCandle) : List ManageOp :=
  [.park (managedGold .runner), .fill 0 420000, .promote 0 2000, .store bars, .pass 0,
    .positions 0 fun _ => some goldPosition, .candle 0,
    .manage 0 (.metaApi ⟨true, .accepted, false, .accepted⟩)]

/-- The pass comes after the second bar. -/
theorem second_bar_is_after_the_fill :
    (runFrom (manageStep .XAUUSD) .fresh
        (filledAtSeven [goldRally, { goldRally with openTime := 900000 }])).applied.map Prod.fst =
        [0] ∧
      NoEarlyCandle (runFrom (manageStep .XAUUSD) .fresh
        (filledAtSeven [goldRally, { goldRally with openTime := 900000 }])) :=
  ⟨by decide +kernel,
    (no_early_candle_while_the_latest_is_after_the_fills .XAUUSD
      (filledAtSeven [goldRally, { goldRally with openTime := 900000 }])).1 (by decide +kernel)⟩

/-- The pass after the first bar applies the whole of it, and break-even is on. -/
theorem fill_bar_is_applied :
    ¬ NoEarlyCandle (runFrom (manageStep .XAUUSD) .fresh (filledAtSeven [goldRally])) ∧
      (runFrom (manageStep .XAUUSD) .fresh (filledAtSeven [goldRally])).rows.map
        (fun row => row.trade.state.breakevenActivated) = [some true] := by
  decide +kernel

end ManagedCandles
end Live
end Shamarx
