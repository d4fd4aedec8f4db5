import Shamarx.Foundation.InFlight
import Shamarx.Foundation.Runs
import Shamarx.Live.PositionManager

/-!
# Break-even of one trade

Two services read the row of a trade, ask the broker and write the row back: the
position manager at every M15 close, and the position monitor when the sister leg
has taken its profit.  Their calls interleave at every await.
-/

namespace Shamarx
namespace Live
namespace BreakEven

open Foundation
open Engine

/-!
# Calls on a trade
-/

structure StopConfig where
  symbol : Instrument
  side : Side
  entryPrice : ℚ

structure StopRow where
  slPrice : ℚ
  tpPrice : ℚ
  state : ManagementState
  deriving DecidableEq

structure BrokerStops where
  sl : ℚ
  tp : ℚ
  deriving DecidableEq

def StopRow.trade (cfg : StopConfig) (row : StopRow) : ManagedTrade :=
  { side := cfg.side
    entryPrice := cfg.entryPrice
    slPrice := row.slPrice
    tpPrice := row.tpPrice
    state := row.state.stored }

def StopConfig.position (cfg : StopConfig) (broker : BrokerStops) : BrokerPosition :=
  { entryPrice := cfg.entryPrice, sl := broker.sl, tp := broker.tp }

def rebuilt (cfg : StopConfig) (row : StopRow) (broker : BrokerStops) : ManagedPosition :=
  managedPosition (row.trade cfg) (cfg.position broker)

def updatedStop (cfg : StopConfig) (row : StopRow) (broker : BrokerStops)
    (candle : BacktestCandle) : ManagedPosition :=
  updatedPosition cfg.symbol (row.trade cfg) (cfg.position broker) candle

def writtenRow (row : StopRow) (updated : ManagedPosition) : StopRow :=
  { slPrice := updated.slPrice
    tpPrice := updated.tpPrice.getD row.tpPrice
    state :=
      { row.state with
        breakevenActivated := updated.breakevenActivated
        peakFavorablePrice := updated.peakFavorablePrice } }

/-- The stop that the monitor sets for a sister runner: the entry and a tenth of the
risk. -/
def sisterStop (cfg : StopConfig) (row : StopRow) : ℚ :=
  cfg.side.ahead cfg.entryPrice (|cfg.entryPrice - row.state.originalSlPrice| * (1 / 10))

/-- A call between its awaits.  A pass has read the row, then the broker; it has levels
to send, or a row to write, after a modification or without one.  The monitor has read
the row, and then a stop and a state to write. -/
inductive StopPhase where
  | passRow (row : StopRow)
  | passBroker (row : StopRow) (broker : BrokerStops)
  | passModify (row : StopRow) (updated : ManagedPosition)
  | passWrite (row : StopRow) (modified : Bool)
  | sisterModify (row : StopRow)
  | sisterWrite (slPrice : ℚ) (state : ManagementState)

/-- The last field records that the manager has removed the target at the broker. -/
structure StopRun where
  row : StopRow
  broker : BrokerStops
  calls : InFlight StopPhase
  tpRemoved : Bool

def StopRun.opened (cfg : StopConfig) (slPrice tpPrice : ℚ) (trailKey : TrailKey)
    (broker : BrokerStops) : StopRun :=
  { row :=
      { slPrice := slPrice
        tpPrice := tpPrice
        state :=
          { breakevenActivated := false
            peakFavorablePrice := cfg.entryPrice
            originalSlPrice := slPrice
            trailKey := trailKey } }
    broker := broker
    calls := .empty
    tpRemoved := false }

/-- Whether a modification is carried out and whether it is answered without an error
are separate inputs; a write may fail, and a pass may end before it has decided. -/
inductive StopOp where
  | pass (id : Nat)
  | positions (id : Nat)
  | candle (id : Nat) (c : BacktestCandle)
  | abandon (id : Nat)
  | sister (id : Nat)
  | modify (id : Nat) (carriedOut answered : Bool)
  | write (id : Nat) (stored : Bool)

namespace StopRun

def move (s : StopRun) (id : Nat) (phase : StopPhase) : StopRun :=
  { s with calls := s.calls.put id phase }

def leave (s : StopRun) (id : Nat) : StopRun :=
  { s with calls := s.calls.drop id }

def decide_ (cfg : StopConfig) (s : StopRun) (id : Nat) (row : StopRow) (broker : BrokerStops)
    (c : BacktestCandle) : StopRun :=
  let pos := rebuilt cfg row broker
  let updated := updatedStop cfg row broker c
  if updated = pos then s.leave id
  else if NeedsModify cfg.symbol pos updated then s.move id (.passModify row updated)
  else s.move id (.passWrite (writtenRow row updated) false)

def sendPass (s : StopRun) (id : Nat) (row : StopRow) (updated : ManagedPosition)
    (carriedOut answered : Bool) : StopRun :=
  let s :=
    if carriedOut then
      { s with
        broker := { sl := updated.slPrice, tp := updated.tpPrice.getD 0 }
        tpRemoved := s.tpRemoved || updated.tpPrice.isNone }
    else s
  if answered then s.move id (.passWrite (writtenRow row updated) true) else s.leave id

def sendSister (cfg : StopConfig) (s : StopRun) (id : Nat) (row : StopRow)
    (carriedOut answered : Bool) : StopRun :=
  let s :=
    if carriedOut then
      { s with broker := { sl := sisterStop cfg row, tp := row.tpPrice } }
    else s
  if answered then
    s.move id (.sisterWrite (sisterStop cfg row) { row.state with breakevenActivated := true })
  else s.leave id

end StopRun

/-- One step between awaits.  A step of a call that is not there does nothing. -/
def stopStep (cfg : StopConfig) (s : StopRun) : StopOp -> StopRun
  | .pass id =>
      match s.calls id with
      | none => s.move id (.passRow s.row)
      | some _ => s
  | .positions id =>
      match s.calls id with
      | some (.passRow row) => s.move id (.passBroker row s.broker)
      | _ => s
  | .candle id c =>
      match s.calls id with
      | some (.passBroker row broker) => s.decide_ cfg id row broker c
      | _ => s
  | .abandon id =>
      match s.calls id with
      | some (.passRow _) => s.leave id
      | some (.passBroker _ _) => s.leave id
      | _ => s
  | .sister id =>
      match s.calls id with
      | none =>
          if s.row.state.trailKey = .runner ∧ s.row.state.breakevenActivated = false then
            s.move id (.sisterModify s.row)
          else s
      | some _ => s
  | .modify id carriedOut answered =>
      match s.calls id with
      | some (.passModify row updated) => s.sendPass id row updated carriedOut answered
      | some (.sisterModify row) => s.sendSister cfg id row carriedOut answered
      | _ => s
  | .write id stored =>
      match s.calls id with
      | some (.passWrite row _) =>
          if stored then { s.leave id with row := row } else s.leave id
      | some (.sisterWrite slPrice state) =>
          if stored then { s.leave id with row := { s.row with slPrice := slPrice, state := state } }
          else s.leave id
      | _ => s

/-!
# What is promised and what it takes
-/

/-- Break-even stays on, and the stop of the row does not get worse. -/
def RowKept (cfg : StopConfig) (before after : StopRow) : Prop :=
  before.state.breakevenActivated = true ->
    after.state.breakevenActivated = true ∧ cfg.side.AtLeast after.slPrice before.slPrice

/-- The step keeps the row, and a target that the manager removed is not at the broker
after it. -/
def BreakEvenKept (cfg : StopConfig) (s : StopRun) (op : StopOp) : Prop :=
  RowKept cfg s.row (stopStep cfg s op).row ∧
    ((stopStep cfg s op).tpRemoved = true -> ¬ 0 < (stopStep cfg s op).broker.tp)

instance (cfg : StopConfig) (s : StopRun) (op : StopOp) : Decidable (BreakEvenKept cfg s op) :=
  inferInstanceAs (Decidable ((_ -> _ ∧ _) ∧ (_ -> ¬ _)))

/-- A pass that activates break-even by less than the minimal change stores no better
stop than the broker and the trail give. -/
def ActivationHeld (cfg : StopConfig) (row : StopRow) (broker : BrokerStops)
    (c : BacktestCandle) : Prop :=
  let pos := rebuilt cfg row broker
  let updated := updatedStop cfg row broker c
  row.state.breakevenActivated = false -> updated.breakevenActivated = true ->
    ¬ NeedsModify cfg.symbol pos updated -> 0 < broker.sl ->
      cfg.side.AtLeast (cfg.side.best (pos.trailStop updated.peakFavorablePrice) broker.sl)
        updated.slPrice

instance (cfg : StopConfig) (row : StopRow) (broker : BrokerStops) (c : BacktestCandle) :
    Decidable (ActivationHeld cfg row broker c) := by
  unfold ActivationHeld
  infer_instance

/-- The calls on the trade run one at a time, a modification is answered without an
error exactly when it is carried out, and the row is then written. -/
def OneAtATime (cfg : StopConfig) (s : StopRun) : StopOp -> Prop
  | .pass _ => forall id, s.calls id = none
  | .sister _ => forall id, s.calls id = none
  | .candle id c =>
      match s.calls id with
      | some (.passBroker row broker) => ActivationHeld cfg row broker c
      | _ => True
  | .modify _ carriedOut answered => carriedOut = answered
  | .write id stored =>
      match s.calls id with
      | some (.passWrite _ modified) => modified = true -> stored = true
      | some (.sisterWrite _ _) => stored = true
      | _ => True
  | _ => True

/-!
# A covered row

A row is covered when the next pass cannot store a worse stop: the trail of its peak
or the broker's stop is at least as good as the stop of the row.
-/

structure Covered (cfg : StopConfig) (row : StopRow) (broker : BrokerStops) (tpRemoved : Bool) :
    Prop where
  stop : row.state.breakevenActivated = true ->
    cfg.side.AtLeast
      (cfg.side.best ((rebuilt cfg row broker).trailStop row.state.peakFavorablePrice)
        (rebuilt cfg row broker).slPrice) row.slPrice
  target : tpRemoved = true ->
    row.state.breakevenActivated = true ∧
      (rebuilt cfg row broker).RemovesTp row.state.peakFavorablePrice

variable {cfg : StopConfig} {row : StopRow} {broker : BrokerStops} {tpRemoved : Bool}
  {c : BacktestCandle}

theorem Covered.of_waiting (hbe : row.state.breakevenActivated = false) :
    Covered cfg row broker false where
  stop := by
    intro h
    rw [hbe] at h
    cases h
  target := by
    intro h
    cases h

theorem rebuilt_trail (cfg : StopConfig) (row : StopRow) (broker : BrokerStops) :
    (rebuilt cfg row broker).config.trailWidthMult = none ∧
      3 ≤ (rebuilt cfg row broker).config.slClampMaxAtr := by
  change (trailConfigOf row.state.trailKey).trailWidthMult = none ∧
    3 ≤ (trailConfigOf row.state.trailKey).slClampMaxAtr
  cases row.state.trailKey with
  | tp1 =>
      exact ⟨rfl, le_refl 3⟩
  | runner =>
      exact ⟨rfl, by norm_num [trailConfigOf, smcRunnerTrail]⟩

def passPeak (cfg : StopConfig) (row : StopRow) (broker : BrokerStops) (c : BacktestCandle) : ℚ :=
  (rebuilt cfg row broker).updatedPeak c (getSpread cfg.symbol c.openTime)

theorem passPeak_atLeast (cfg : StopConfig) (row : StopRow) (broker : BrokerStops)
    (c : BacktestCandle) :
    cfg.side.AtLeast (passPeak cfg row broker c) row.state.peakFavorablePrice :=
  (rebuilt cfg row broker).updatedPeak_atLeast c _

theorem updatedStop_onward (hactive : row.state.breakevenActivated = true ∨
      (rebuilt cfg row broker).Activates (passPeak cfg row broker c)) :
    updatedStop cfg row broker c =
      { rebuilt cfg row broker with
        peakFavorablePrice := passPeak cfg row broker c
        breakevenActivated := true
        tpPrice :=
          if (rebuilt cfg row broker).RemovesTp (passPeak cfg row broker c) then none
          else (rebuilt cfg row broker).tpPrice
        slPrice :=
          cfg.side.best ((rebuilt cfg row broker).trailStop (passPeak cfg row broker c))
            (if (rebuilt cfg row broker).Activates (passPeak cfg row broker c) then
              (rebuilt cfg row broker).breakevenStop else (rebuilt cfg row broker).slPrice) } :=
  ManagedPosition.update_active (p := rebuilt cfg row broker) rfl hactive

theorem not_activates (hbe : row.state.breakevenActivated = true) (peak : ℚ) :
    ¬ (rebuilt cfg row broker).Activates peak := by
  intro h
  have hactive : (rebuilt cfg row broker).breakevenActivated = true := hbe
  have hfalse := h.1
  rw [hactive] at hfalse
  cases hfalse

theorem updatedStop_active (hbe : row.state.breakevenActivated = true) :
    updatedStop cfg row broker c =
      { rebuilt cfg row broker with
        peakFavorablePrice := passPeak cfg row broker c
        breakevenActivated := true
        tpPrice :=
          if (rebuilt cfg row broker).RemovesTp (passPeak cfg row broker c) then none
          else (rebuilt cfg row broker).tpPrice
        slPrice :=
          cfg.side.best ((rebuilt cfg row broker).trailStop (passPeak cfg row broker c))
            (rebuilt cfg row broker).slPrice } := by
  rw [updatedStop_onward (Or.inl hbe), if_neg (not_activates hbe _)]

theorem updatedStop_waiting (hbe : row.state.breakevenActivated = false)
    (hnot : ¬ (rebuilt cfg row broker).Activates (passPeak cfg row broker c)) :
    updatedStop cfg row broker c =
      { rebuilt cfg row broker with peakFavorablePrice := passPeak cfg row broker c } :=
  ManagedPosition.update_waiting rfl hbe hnot

theorem updatedStop_peak (cfg : StopConfig) (row : StopRow) (broker : BrokerStops)
    (c : BacktestCandle) :
    (updatedStop cfg row broker c).peakFavorablePrice = passPeak cfg row broker c := by
  by_cases hactive : row.state.breakevenActivated = true ∨
      (rebuilt cfg row broker).Activates (passPeak cfg row broker c)
  · rw [updatedStop_onward hactive]
  · rcases not_or.mp hactive with ⟨hbe, hnot⟩
    rw [updatedStop_waiting (Bool.eq_false_iff.mpr hbe) hnot]

theorem updatedStop_target (h : (updatedStop cfg row broker c).tpPrice = none) :
    (updatedStop cfg row broker c).breakevenActivated = true ∧
      (rebuilt cfg row broker).RemovesTp (passPeak cfg row broker c) := by
  by_cases hactive : row.state.breakevenActivated = true ∨
      (rebuilt cfg row broker).Activates (passPeak cfg row broker c)
  · rw [updatedStop_onward hactive] at h ⊢
    refine ⟨rfl, ?_⟩
    by_contra hnot
    rw [if_neg hnot] at h
    cases h
  · rcases not_or.mp hactive with ⟨hbe, hnot⟩
    rw [updatedStop_waiting (Bool.eq_false_iff.mpr hbe) hnot] at h
    cases h

theorem Covered.removes_again (h : Covered cfg row broker true) :
    (updatedStop cfg row broker c).tpPrice = none := by
  rcases h.target rfl with ⟨hbe, hremoves⟩
  rw [updatedStop_active hbe]
  exact if_pos (hremoves.of_atLeast (passPeak_atLeast cfg row broker c))

theorem RowKept.refl (cfg : StopConfig) (row : StopRow) : RowKept cfg row row :=
  fun hbe => ⟨hbe, cfg.side.atLeast_refl row.slPrice⟩

theorem Covered.pass_keeps (h : Covered cfg row broker tpRemoved) (c : BacktestCandle) :
    RowKept cfg row (writtenRow row (updatedStop cfg row broker c)) := by
  intro hbe
  have htrail : cfg.side.AtLeast
      ((rebuilt cfg row broker).trailStop (passPeak cfg row broker c))
      ((rebuilt cfg row broker).trailStop row.state.peakFavorablePrice) :=
    ManagedPosition.trailStop_atLeast rfl (rebuilt_trail cfg row broker).1
      (rebuilt_trail cfg row broker).2 (passPeak_atLeast cfg row broker c)
  rw [updatedStop_active hbe]
  refine ⟨rfl, Side.AtLeast.trans (Side.atLeast_best ?_ ?_) (h.stop hbe)⟩
  · exact (cfg.side.best_left _ _).trans htrail
  · exact cfg.side.best_right _ _

theorem atLeast_of_sent (cfg : StopConfig) (row : StopRow) (tpPrice trail : ℚ) :
    cfg.side.AtLeast
      (cfg.side.best trail (rebuilt cfg row { sl := row.slPrice, tp := tpPrice }).slPrice)
      row.slPrice := by
  have hsl : (rebuilt cfg row { sl := row.slPrice, tp := tpPrice }).slPrice = row.slPrice :=
    ite_self _
  rw [hsl]
  exact cfg.side.best_right _ _

theorem Covered.pass_sent (h : Covered cfg row broker tpRemoved) (c : BacktestCandle) :
    Covered cfg (writtenRow row (updatedStop cfg row broker c))
      { sl := (updatedStop cfg row broker c).slPrice
        tp := (updatedStop cfg row broker c).tpPrice.getD 0 }
      (tpRemoved || (updatedStop cfg row broker c).tpPrice.isNone) where
  stop := by
    intro _
    exact atLeast_of_sent cfg (writtenRow row (updatedStop cfg row broker c)) _ _
  target := by
    intro hremoved
    have hnone : (updatedStop cfg row broker c).tpPrice = none := by
      cases tpRemoved with
      | false =>
          exact Option.isNone_iff_eq_none.mp hremoved
      | true =>
          exact h.removes_again
    refine ⟨(updatedStop_target hnone).1, ?_⟩
    have hremoves := (updatedStop_target hnone).2
    rw [← updatedStop_peak] at hremoves
    exact hremoves

theorem Covered.pass_unsent (h : Covered cfg row broker tpRemoved)
    (hnot : ¬ NeedsModify cfg.symbol (rebuilt cfg row broker) (updatedStop cfg row broker c))
    (hheld : ActivationHeld cfg row broker c) :
    Covered cfg (writtenRow row (updatedStop cfg row broker c)) broker tpRemoved where
  stop := by
    intro hbe
    by_cases hsl : 0 < broker.sl
    · have hnew : (rebuilt cfg (writtenRow row (updatedStop cfg row broker c)) broker).slPrice =
          broker.sl := if_pos hsl
      rw [hnew]
      cases hrow : row.state.breakevenActivated with
      | true =>
          have hold : (rebuilt cfg row broker).slPrice = broker.sl := if_pos hsl
          rw [updatedStop_active hrow, hold]
          exact cfg.side.atLeast_refl _
      | false =>
          exact hheld hrow hbe hnot hsl
    · have hnew : (rebuilt cfg (writtenRow row (updatedStop cfg row broker c)) broker).slPrice =
          (updatedStop cfg row broker c).slPrice := if_neg hsl
      rw [hnew]
      exact cfg.side.best_right _ _
  target := by
    intro hremoved
    subst hremoved
    exact absurd (Or.inr (Or.inl ⟨rfl, h.removes_again⟩)) hnot

theorem Covered.sister_sent (h : Covered cfg row broker tpRemoved)
    (hbe : row.state.breakevenActivated = false) :
    Covered cfg
      { row with
        slPrice := sisterStop cfg row
        state := { row.state with breakevenActivated := true } }
      { sl := sisterStop cfg row, tp := row.tpPrice } tpRemoved where
  stop := by
    intro _
    exact atLeast_of_sent cfg _ row.tpPrice _
  target := by
    intro hremoved
    have hactive := (h.target hremoved).1
    rw [hbe] at hactive
    cases hactive

/-!
# Calls one at a time
-/

def PhaseGood (cfg : StopConfig) (row : StopRow) (broker : BrokerStops) (tpRemoved : Bool) :
    StopPhase -> Prop
  | .passRow read => read = row ∧ Covered cfg row broker tpRemoved
  | .passBroker read levels => read = row ∧ levels = broker ∧ Covered cfg row broker tpRemoved
  | .passModify read updated =>
      read = row ∧ Covered cfg row broker tpRemoved ∧
        exists c, updated = updatedStop cfg row broker c
  | .passWrite written modified =>
      RowKept cfg row written ∧ Covered cfg written broker tpRemoved ∧
        (modified = false -> Covered cfg row broker tpRemoved)
  | .sisterModify read =>
      read = row ∧ Covered cfg row broker tpRemoved ∧ row.state.breakevenActivated = false
  | .sisterWrite slPrice state =>
      row.state.breakevenActivated = false ∧
        Covered cfg { row with slPrice := slPrice, state := state } broker tpRemoved

/-- At most one call is on the way, it knows the row and the broker as they are, and
without one the row is covered. -/
structure Serial (cfg : StopConfig) (s : StopRun) : Prop where
  alone : s.calls.Alone
  idle : (forall id, s.calls id = none) -> Covered cfg s.row s.broker s.tpRemoved
  phases : s.calls.Forall (fun _ => PhaseGood cfg s.row s.broker s.tpRemoved)
  target : s.tpRemoved = true -> ¬ 0 < s.broker.tp

variable {s t : StopRun} {id : Nat} {phase before : StopPhase}

theorem move_self (s : StopRun) (id : Nat) (phase : StopPhase) :
    (s.move id phase).calls id = some phase := InFlight.put_self s.calls id phase

theorem serial_opened (cfg : StopConfig) (slPrice tpPrice : ℚ) (trailKey : TrailKey)
    (broker : BrokerStops) : Serial cfg (.opened cfg slPrice tpPrice trailKey broker) where
  alone := InFlight.distinct_empty _
  idle := by
    intro _
    exact Covered.of_waiting rfl
  phases := InFlight.forall_empty _
  target := by
    intro h
    cases h

theorem Serial.started (hs : Serial cfg s) (hfree : forall id, s.calls id = none)
    (hphase : PhaseGood cfg s.row s.broker s.tpRemoved phase) : Serial cfg (s.move id phase) where
  alone := InFlight.alone_put_empty hfree id phase
  idle := by
    intro hnone
    have hself := hnone id
    rw [move_self] at hself
    cases hself
  phases := hs.phases.put hphase
  target := hs.target

theorem Serial.moved (hs : Serial cfg s) (hcall : s.calls id = some before)
    (hcalls : t.calls = s.calls)
    (hphase : PhaseGood cfg t.row t.broker t.tpRemoved phase)
    (htarget : t.tpRemoved = true -> ¬ 0 < t.broker.tp) : Serial cfg (t.move id phase) where
  alone := by
    rw [StopRun.move, hcalls]
    exact hs.alone.put hcall
  idle := by
    intro hnone
    have hself := hnone id
    rw [move_self] at hself
    cases hself
  phases := by
    rw [StopRun.move, hcalls]
    exact hs.alone.forall_put hcall hphase
  target := htarget

theorem Serial.left (hs : Serial cfg s) (hcall : s.calls id = some before)
    (hcalls : t.calls = s.calls.drop id) (hcovered : Covered cfg t.row t.broker t.tpRemoved)
    (htarget : t.tpRemoved = true -> ¬ 0 < t.broker.tp) : Serial cfg t where
  alone := by
    rw [hcalls]
    exact hs.alone.drop id
  idle := by
    intro _
    exact hcovered
  phases := by
    intro other p hp
    rw [hcalls, hs.alone.drop_eq_none hcall other] at hp
    cases hp
  target := htarget

theorem Serial.decide_ (hs : Serial cfg s) (hcall : s.calls id = some (.passBroker row broker))
    (hheld : ActivationHeld cfg row broker c) : Serial cfg (s.decide_ cfg id row broker c) := by
  rcases hs.phases id _ hcall with ⟨rfl, rfl, hcovered⟩
  unfold StopRun.decide_
  dsimp only
  split_ifs with hsame hneeds
  · exact hs.left hcall rfl hcovered hs.target
  · exact hs.moved hcall rfl ⟨rfl, hcovered, c, rfl⟩ hs.target
  · have hwritten := hcovered.pass_unsent hneeds hheld
    exact hs.moved hcall rfl ⟨hcovered.pass_keeps c, hwritten, fun _ => hcovered⟩ hs.target

theorem Serial.sendPass (hs : Serial cfg s) {updated : ManagedPosition}
    (hcall : s.calls id = some (.passModify row updated)) (carriedOut : Bool) :
    Serial cfg (s.sendPass id row updated carriedOut carriedOut) := by
  rcases hs.phases id _ hcall with ⟨rfl, hcovered, c, rfl⟩
  unfold StopRun.sendPass
  cases carriedOut with
  | false =>
      exact hs.left hcall rfl hcovered hs.target
  | true =>
      refine hs.moved hcall rfl ⟨hcovered.pass_keeps c, hcovered.pass_sent c, ?_⟩ ?_
      · intro h
        cases h
      · intro hremoved
        have hnone : (updatedStop cfg s.row s.broker c).tpPrice = none := by
          cases hold : s.tpRemoved with
          | true =>
              rw [hold] at hcovered
              exact hcovered.removes_again
          | false =>
              simp only [if_true, hold, Bool.false_or] at hremoved
              exact Option.isNone_iff_eq_none.mp hremoved
        change ¬ 0 < (updatedStop cfg s.row s.broker c).tpPrice.getD 0
        rw [hnone]
        exact lt_irrefl 0

theorem Serial.sendSister (hs : Serial cfg s) (hcall : s.calls id = some (.sisterModify row))
    (carriedOut : Bool) : Serial cfg (s.sendSister cfg id row carriedOut carriedOut) := by
  rcases hs.phases id _ hcall with ⟨rfl, hcovered, hbe⟩
  unfold StopRun.sendSister
  cases carriedOut with
  | false =>
      exact hs.left hcall rfl hcovered hs.target
  | true =>
      refine hs.moved hcall rfl ⟨hbe, hcovered.sister_sent hbe⟩ ?_
      intro hremoved
      have hactive := (hcovered.target hremoved).1
      rw [hbe] at hactive
      cases hactive

theorem stopStep_serial {op : StopOp} (hs : Serial cfg s) (hop : OneAtATime cfg s op) :
    Serial cfg (stopStep cfg s op) := by
  cases op with
  | pass id =>
      simp only [stopStep, hop id]
      exact hs.started hop ⟨rfl, hs.idle hop⟩
  | sister id =>
      simp only [stopStep, hop id]
      split_ifs with hdue
      · exact hs.started hop ⟨rfl, hs.idle hop, hdue.2⟩
      · exact hs
  | positions id =>
      simp only [stopStep]
      split
      · next row hcall =>
          rcases hs.phases id _ hcall with ⟨rfl, hcovered⟩
          exact hs.moved hcall rfl ⟨rfl, rfl, hcovered⟩ hs.target
      · exact hs
  | candle id c =>
      simp only [stopStep]
      split
      · next row broker hcall =>
          simp only [OneAtATime, hcall] at hop
          exact hs.decide_ hcall hop
      · exact hs
  | abandon id =>
      simp only [stopStep]
      split
      · next row hcall =>
          exact hs.left hcall rfl (hs.phases id _ hcall).2 hs.target
      · next row broker hcall =>
          exact hs.left hcall rfl (hs.phases id _ hcall).2.2 hs.target
      · exact hs
  | modify id carriedOut answered =>
      have hanswer : carriedOut = answered := hop
      subst hanswer
      simp only [stopStep]
      split
      · next row updated hcall =>
          exact hs.sendPass hcall carriedOut
      · next row hcall =>
          exact hs.sendSister hcall carriedOut
      · exact hs
  | write id stored =>
      simp only [stopStep]
      split
      · next row modified hcall =>
          simp only [OneAtATime, hcall] at hop
          rcases hs.phases id _ hcall with ⟨-, hwritten, hunsent⟩
          split_ifs with hstored
          · exact hs.left hcall rfl hwritten hs.target
          · cases modified with
            | true =>
                exact absurd (hop rfl) hstored
            | false =>
                exact hs.left hcall rfl (hunsent rfl) hs.target
      · next slPrice state hcall =>
          simp only [OneAtATime, hcall] at hop
          rw [if_pos hop]
          exact hs.left hcall rfl (hs.phases id _ hcall).2 hs.target
      · exact hs

theorem stopStep_row {op : StopOp} (hop : forall id stored, op ≠ .write id stored) :
    (stopStep cfg s op).row = s.row := by
  cases op with
  | write id stored =>
      exact absurd rfl (hop id stored)
  | candle id c =>
      simp only [stopStep]
      split
      · unfold StopRun.decide_
        dsimp only
        split_ifs <;> rfl
      · rfl
  | modify id carriedOut answered =>
      simp only [stopStep]
      split
      · unfold StopRun.sendPass
        split_ifs <;> rfl
      · unfold StopRun.sendSister
        split_ifs <;> rfl
      · rfl
  | sister id =>
      simp only [stopStep]
      split
      · split_ifs <;> rfl
      · rfl
  | _ =>
      simp only [stopStep]
      split <;> rfl

theorem stopStep_kept {op : StopOp} (hs : Serial cfg s) (hop : OneAtATime cfg s op) :
    BreakEvenKept cfg s op := by
  refine ⟨?_, (stopStep_serial hs hop).target⟩
  by_cases hwrite : exists id stored, op = .write id stored
  · rcases hwrite with ⟨id, stored, rfl⟩
    simp only [stopStep]
    split
    · next row modified hcall =>
        split_ifs
        · exact (hs.phases id _ hcall).1
        · exact RowKept.refl cfg s.row
    · next slPrice state hcall =>
        intro hbe
        rw [(hs.phases id _ hcall).1] at hbe
        cases hbe
    · exact RowKept.refl cfg s.row
  · rw [stopStep_row fun id stored heq => hwrite ⟨id, stored, heq⟩]
    exact RowKept.refl cfg s.row

/-- In every run whose calls come one at a time, break-even is kept. -/
theorem break_even_kept_one_at_a_time (cfg : StopConfig) (slPrice tpPrice : ℚ)
    (trailKey : TrailKey) (broker : BrokerStops) {ops : List StopOp}
    (hops : EveryStep (stopStep cfg) (OneAtATime cfg)
      (.opened cfg slPrice tpPrice trailKey broker) ops) :
    EveryStep (stopStep cfg) (BreakEvenKept cfg)
      (.opened cfg slPrice tpPrice trailKey broker) ops :=
  everyStep_of_inv (Serial cfg) (fun _ _ => stopStep_serial) (fun _ _ => stopStep_kept)
    (serial_opened cfg slPrice tpPrice trailKey broker) hops

/-!
# The runner of a gold trade
-/

def goldStops : StopConfig :=
  { symbol := .XAUUSD, side := .buy, entryPrice := 2000 }

def goldRunner : StopRun :=
  .opened goldStops 1990 2030 .runner { sl := 1990, tp := 2030 }

theorem oneAtATime_candle (hcall : s.calls id = some (.passBroker row broker))
    (hheld : ActivationHeld cfg row broker c) : OneAtATime cfg s (.candle id c) := by
  simp only [OneAtATime, hcall]
  exact hheld

theorem oneAtATime_stored (cfg : StopConfig) (s : StopRun) (id : Nat) :
    OneAtATime cfg s (.write id true) := by
  simp only [OneAtATime]
  split
  · exact fun _ => trivial
  · trivial
  · trivial

def goldDrift : BacktestCandle :=
  { openTime := 0, open_ := 2000, high := 2003, low := 1999, close := 2002 }

def goldBreakout : BacktestCandle :=
  { openTime := 0, open_ := 2000, high := 2040, low := 1999, close := 2039 }

def StopOp.call : StopOp -> Nat
  | .pass id => id
  | .positions id => id
  | .candle id _ => id
  | .abandon id => id
  | .sister id => id
  | .modify id _ _ => id
  | .write id _ => id

theorem stopStep_calls_of_ne {op : StopOp} {other : Nat} (hne : other ≠ op.call) :
    (stopStep cfg s op).calls other = s.calls other := by
  have hput (id : Nat) (hid : other ≠ id) (phase : StopPhase) :
      s.calls.put id phase other = s.calls other := InFlight.put_of_ne s.calls phase hid
  have hdrop (id : Nat) (hid : other ≠ id) : s.calls.drop id other = s.calls other :=
    InFlight.drop_of_ne s.calls hid
  cases op with
  | pass id =>
      simp only [stopStep]
      split
      · exact hput id hne _
      · rfl
  | positions id =>
      simp only [stopStep]
      split
      · exact hput id hne _
      · rfl
  | candle id c =>
      simp only [stopStep]
      split
      · unfold StopRun.decide_
        dsimp only
        split_ifs
        · exact hdrop id hne
        · exact hput id hne _
        · exact hput id hne _
      · rfl
  | abandon id =>
      simp only [stopStep]
      split
      · exact hdrop id hne
      · exact hdrop id hne
      · rfl
  | sister id =>
      simp only [stopStep]
      split
      · split_ifs
        · exact hput id hne _
        · rfl
      · rfl
  | modify id carriedOut answered =>
      simp only [stopStep]
      split
      · unfold StopRun.sendPass
        cases carriedOut <;> cases answered
        · exact hdrop id hne
        · exact hput id hne _
        · exact hdrop id hne
        · exact hput id hne _
      · unfold StopRun.sendSister
        cases carriedOut <;> cases answered
        · exact hdrop id hne
        · exact hput id hne _
        · exact hdrop id hne
        · exact hput id hne _
      · rfl
  | write id stored =>
      simp only [stopStep]
      split
      · split_ifs <;> exact hdrop id hne
      · split_ifs <;> exact hdrop id hne
      · rfl

theorem free_after {ops : List StopOp} (hfree : forall id, s.calls id = none)
    (hops : forall op, op ∈ ops -> op.call = 0)
    (hdone : ((runFrom (stopStep cfg) s ops).calls 0).isNone = true) (id : Nat) :
    (runFrom (stopStep cfg) s ops).calls id = none := by
  by_cases hid : id = 0
  · rw [hid]
    exact Option.isNone_iff_eq_none.mp hdone
  · apply runFrom_inv_of_mem (fun t : StopRun => t.calls id = none)
    · intro t op hop hnone
      rw [stopStep_calls_of_ne, hnone]
      rw [hops op hop]
      exact hid
    · exact hfree id

def sisterCall : List StopOp :=
  [.sister 0, .modify 0 true true, .write 0 true]

/-- A pass over a candle that moves the stop, as it should go. -/
def passOver (c : BacktestCandle) : List StopOp :=
  [.pass 0, .positions 0, .candle 0 c, .modify 0 true true, .write 0 true]

theorem sisterCall_in_turn (hfree : forall id, s.calls id = none) :
    EveryStep (stopStep cfg) (OneAtATime cfg) s sisterCall :=
  ⟨hfree, rfl, oneAtATime_stored cfg _ 0, trivial⟩

theorem passOver_in_turn (hfree : forall id, s.calls id = none)
    (hheld : ActivationHeld cfg s.row s.broker c) :
    EveryStep (stopStep cfg) (OneAtATime cfg) s (passOver c) := by
  have hcall : (runFrom (stopStep cfg) s [.pass 0, .positions 0]).calls 0 =
      some (.passBroker s.row s.broker) := by
    simp [runFrom, stopStep, StopRun.move, hfree]
  exact ⟨hfree, trivial, oneAtATime_candle hcall hheld, rfl, oneAtATime_stored cfg _ 0, trivial⟩

/-- The sister call activates break-even; a pass over the rally raises the stop, and one over
the breakout removes the target. -/
def goldStopRun : List StopOp :=
  sisterCall ++ passOver goldRally ++ passOver goldBreakout

theorem goldStopRun_in_turn :
    EveryStep (stopStep goldStops) (OneAtATime goldStops) goldRunner goldStopRun := by
  have hstart : forall id, goldRunner.calls id = none := fun _ => rfl
  have hsister : forall id, (runFrom (stopStep goldStops) goldRunner sisterCall).calls id = none :=
    free_after hstart (by decide) (by decide +kernel)
  have hrally : forall id, (runFrom (stopStep goldStops) goldRunner
      (sisterCall ++ passOver goldRally)).calls id = none :=
    free_after hstart (by decide) (by decide +kernel)
  refine everyStep_append.mpr ⟨everyStep_append.mpr ⟨?_, ?_⟩, ?_⟩
  · exact sisterCall_in_turn hstart
  · exact passOver_in_turn hsister (by decide +kernel)
  · exact passOver_in_turn hrally (by decide +kernel)

/-- The stop rises twice with break-even on, and the removed target stays away. -/
theorem lone_pass_keeps_break_even :
    EveryStep (stopStep goldStops) (BreakEvenKept goldStops) goldRunner goldStopRun ∧
      (runFrom (stopStep goldStops) goldRunner sisterCall).row.state.breakevenActivated = true ∧
      (runFrom (stopStep goldStops) goldRunner goldStopRun).tpRemoved = true :=
  ⟨break_even_kept_one_at_a_time goldStops 1990 2030 .runner { sl := 1990, tp := 2030 }
    goldStopRun_in_turn, by decide +kernel, by decide +kernel⟩

/-- The write of an older pass takes back the break-even that the monitor set; the
monitor, with a row from before the breakout, sets the target again. -/
theorem break_even_is_lost :
    ¬ EveryStep (stopStep goldStops) (BreakEvenKept goldStops) goldRunner
        [.pass 0, .positions 0, .sister 1, .modify 1 true true, .write 1 true,
          .candle 0 goldDrift, .write 0 true] ∧
      ¬ EveryStep (stopStep goldStops) (BreakEvenKept goldStops) goldRunner
        [.sister 1, .pass 0, .positions 0, .candle 0 goldBreakout, .modify 0 true true,
          .write 0 true, .modify 1 true true] := by
  decide +kernel

end BreakEven
end Live
end Shamarx
