import Mathlib.Data.List.Nodup
import Shamarx.Live.AccountBrakes
import Shamarx.Live.MonitorPasses

/-!
# Exits reported once

A pass finalizes a trade from its own snapshot of the open rows.  The row is
closed some awaits after the third miss, and the exit is reported some awaits
after that.
-/

namespace Shamarx
namespace Live
namespace MonitorPasses

open Foundation
open Engine
open Broker
open Orchestrator

/-!
# Finalizations in flight
-/

def FinalizeStage.booked : FinalizeStage -> Bool
  | .asking => false
  | .updating _ => false
  | .publishing _ => true

/-- The trade that a pass finalizes, and whether its row has been updated. -/
def Pass.finalizes (pass : Pass) : Option (Nat × Bool) :=
  match pass.phase with
  | .finalizing _ _ _ trade stage => some (trade.1, stage.booked)
  | _ => none

def MonitorRun.finalizations (s : MonitorRun) : InFlight (Nat × Bool) :=
  s.passes.view Pass.finalizes

def MonitorRun.exitedIds (s : MonitorRun) : List Nat :=
  s.exits.map Prod.fst

/-- The row of a trade is open when its finalization starts. -/
def FinalizesOpen (s : MonitorRun) (op : MonitorOp) : Prop :=
  forall trade, trade ∈ s.nextFinalized op ->
    (s.table.get trade.1).map MonitorRow.status = some .open_

instance (s : MonitorRun) (op : MonitorOp) : Decidable (FinalizesOpen s op) :=
  inferInstanceAs (Decidable (forall trade, trade ∈ s.nextFinalized op ->
    (s.table.get trade.1).map MonitorRow.status = some .open_))

/-- No other pass finalizes a trade when its finalization starts. -/
def FinalizesAlone (s : MonitorRun) (op : MonitorOp) : Prop :=
  forall trade, trade ∈ s.nextFinalized op -> forall id x,
    s.finalizations id = some x -> x.1 ≠ trade.1

/-- No trade is reported twice, reported trades and those about to be reported have
closed rows, and at most one pass finalizes a trade. -/
structure ExitsKept (s : MonitorRun) : Prop where
  nodup : s.exitedIds.Nodup
  reported : forall t, t ∈ s.exitedIds -> s.table.Closed t
  unreported : s.finalizations.Forall fun _ x => x.1 ∉ s.exitedIds
  booked : s.finalizations.Forall fun _ x => x.2 = true -> s.table.Closed x.1
  single : s.finalizations.Distinct Prod.fst

section Moves

variable {s s' : MonitorRun}

theorem ExitsKept.fewer (h : ExitsKept s)
    (hclosed : forall t, s.table.Closed t -> s'.table.Closed t) (hexits : s'.exits = s.exits)
    (hfewer : forall id x, s'.finalizations id = some x -> s.finalizations id = some x) :
    ExitsKept s' := by
  have hids : s'.exitedIds = s.exitedIds := congrArg (List.map Prod.fst) hexits
  constructor
  · rw [hids]
    exact h.nodup
  · rw [hids]
    exact fun t ht => hclosed t (h.reported t ht)
  · rw [hids]
    exact fun id x hx => h.unreported id x (hfewer id x hx)
  · exact fun id x hx hbooked => hclosed _ (h.booked id x (hfewer id x hx) hbooked)
  · exact fun i x j y hi hj => h.single i x j y (hfewer i x hi) (hfewer j y hj)

theorem ExitsKept.put (h : ExitsKept s)
    (hclosed : forall t, s.table.Closed t -> s'.table.Closed t) (hexits : s'.exits = s.exits)
    {id : Nat} {x : Nat × Bool} (hput : s'.finalizations = s.finalizations.put id x)
    (hunreported : x.1 ∉ s.exitedIds) (hbooked : x.2 = true -> s'.table.Closed x.1)
    (halone : forall other y, other ≠ id -> s.finalizations other = some y -> y.1 ≠ x.1) :
    ExitsKept s' := by
  have hids : s'.exitedIds = s.exitedIds := congrArg (List.map Prod.fst) hexits
  constructor
  · rw [hids]
    exact h.nodup
  · rw [hids]
    exact fun t ht => hclosed t (h.reported t ht)
  · rw [hids, hput]
    exact h.unreported.put hunreported
  · rw [hput]
    refine InFlight.Forall.put ?_ hbooked
    exact h.booked.imp fun _ y hy hyBooked => hclosed _ (hy hyBooked)
  · rw [hput]
    exact h.single.put halone

theorem ExitsKept.report (h : ExitsKept s)
    (hclosed : forall t, s.table.Closed t -> s'.table.Closed t) {id t : Nat}
    {e : ReportedExit} (hbefore : s.finalizations id = some (t, true))
    (hdrop : s'.finalizations = s.finalizations.drop id)
    (hexits : s'.exits = s.exits ++ [(t, e)]) : ExitsKept s' := by
  have hids : s'.exitedIds = s.exitedIds ++ [t] := by
    rw [MonitorRun.exitedIds, hexits, List.map_append]
    rfl
  have hfewer : forall other x, s'.finalizations other = some x ->
      other ≠ id ∧ s.finalizations other = some x := by
    intro other x hx
    rw [hdrop] at hx
    exact InFlight.drop_cases hx
  constructor
  · rw [hids]
    apply h.nodup.append (List.nodup_singleton t)
    rw [List.disjoint_singleton]
    exact h.unreported id _ hbefore
  · rw [hids]
    intro other hother
    rw [List.mem_append, List.mem_singleton] at hother
    rcases hother with hold | rfl
    · exact hclosed other (h.reported other hold)
    · exact hclosed other (h.booked id _ hbefore rfl)
  · rw [hids]
    intro other x hx hmem
    rcases hfewer other x hx with ⟨hne, hold⟩
    rw [List.mem_append, List.mem_singleton] at hmem
    rcases hmem with hin | hsame
    · exact h.unreported other x hold hin
    · exact hne (h.single other x id _ hold hbefore hsame)
  · intro other x hx hbooked
    exact hclosed _ (h.booked other x (hfewer other x hx).2 hbooked)
  · rw [hdrop]
    exact h.single.drop id

end Moves

/-!
# One step
-/

theorem finalizations_move_none (s : MonitorRun) (id : Nat) (scopes : List Scope)
    {phase : PassPhase}
    (h : Pass.finalizes { scopes := scopes, phase := phase } = none) :
    forall other x, (s.move id scopes phase).finalizations other = some x ->
      s.finalizations other = some x := by
  intro other x hx
  have hview : (s.move id scopes phase).finalizations = s.finalizations.drop id :=
    InFlight.view_put_none h
  rw [hview] at hx
  exact (InFlight.drop_cases hx).2

theorem closed_closeRow (s : MonitorRun) {tradeId : Nat} (facts : CloseFacts)
    (h : (s.table.get tradeId).isSome) : (s.closeRow tradeId facts).Closed tradeId := by
  rcases Option.isSome_iff_exists.mp h with ⟨row, hrow⟩
  refine ⟨{ row with status := .closed, booked := some facts }, ?_, rfl⟩
  rw [MonitorRun.closeRow, get_modify, hrow]
  rfl

theorem ExitsKept.step {cfg : MonitorConfig} {s s' : MonitorRun} {op : MonitorOp}
    (h : ExitsKept s) (hmove : MonitorMove cfg s op s') (hopen : FinalizesOpen s op)
    (halone : FinalizesAlone s op) : ExitsKept s' := by
  have hclosed : forall t, s.table.Closed t -> s'.table.Closed t := fun t => hmove.closed
  cases hmove with
  | idle =>
      exact h
  | m15Close =>
      exact h.fewer hclosed rfl fun _ _ hx => hx
  | started hfree =>
      exact h.fewer hclosed rfl (finalizations_move_none s _ _ rfl)
  | emptied hpass =>
      apply h.fewer hclosed rfl
      intro other x hx
      rw [MonitorRun.finalizations, InFlight.view_drop] at hx
      rw [MonitorRun.finalizations,
        ← InFlight.drop_absent (InFlight.view_eq hpass : s.passes.view Pass.finalizes _ = none)]
      exact hx
  | unread hpass =>
      exact h.fewer hclosed rfl (finalizations_move_none s _ _ rfl)
  | read hpass =>
      exact h.fewer hclosed rfl (finalizations_move_none s _ _ rfl)
  | queried hpass =>
      exact h.fewer hclosed rfl (finalizations_move_none s _ _ rfl)
  | unqueried hpass =>
      exact h.fewer hclosed rfl (finalizations_move_none s _ _ rfl)
  | sighted hpass hlisted =>
      exact h.fewer hclosed rfl (finalizations_move_none s _ _ rfl)
  | missed hpass hunlisted hfew =>
      exact h.fewer hclosed rfl (finalizations_move_none s _ _ rfl)
  | looped hpass =>
      exact h.fewer hclosed rfl (finalizations_move_none s _ _ rfl)
  | abandoned hown hpass =>
      exact h.fewer hclosed rfl (finalizations_move_none s _ _ rfl)
  | inserted hfree =>
      exact h.fewer hclosed rfl fun _ _ hx => hx
  | promoted =>
      exact h.fewer hclosed rfl fun _ _ hx => hx
  | ended =>
      exact h.fewer hclosed rfl fun _ _ hx => hx
  | @confirmed id scopes scope read trade todo hpass hnext =>
      apply h.put hclosed rfl (InFlight.view_put rfl)
      · intro hin
        rcases h.reported _ hin with ⟨row, hrow, hstatus⟩
        have hfound := hopen trade hnext
        rw [hrow, Option.map_some, hstatus] at hfound
        cases hfound
      · intro hbooked
        cases hbooked
      · intro other y _ hy
        exact halone trade hnext other y hy
  | @asked id scopes scope read trade todo info now hpass =>
      have hbefore : s.finalizations id = some (trade.1, false) := InFlight.view_eq hpass
      have hsame : (s.move id scopes (.finalizing scope read todo trade
          (.updating (finalizeFacts trade.2.trade info now)))).finalizations =
            s.finalizations := InFlight.view_put_same hbefore.symm
      apply h.fewer hclosed rfl
      intro other x hx
      rwa [hsame] at hx
  | @updated id scopes scope read trade todo facts succeeds hpass hfound =>
      have hbefore : s.finalizations id = some (trade.1, false) := InFlight.view_eq hpass
      have hunreported : trade.1 ∉ s.exitedIds := h.unreported id _ hbefore
      apply h.put hclosed rfl (InFlight.view_put rfl) hunreported
      · intro _
        exact closed_closeRow s (writtenFacts facts) hfound
      · intro other y hne hy hsame
        exact hne (h.single other y id _ hy hbefore hsame)
  | @reported id scopes scope read trade todo facts succeeds hpass =>
      have hbefore : s.finalizations id = some (trade.1, true) := InFlight.view_eq hpass
      exact h.report hclosed hbefore (InFlight.view_put_none rfl) rfl

/-!
# Whole runs
-/

theorem startMonitor_exitsKept (o : LiveSmcOrchestrator) (table : TradeTable) :
    ExitsKept (startMonitor o table) := by
  have hnone : forall id, (startMonitor o table).finalizations id = none := fun _ => rfl
  constructor
  · exact List.nodup_nil
  · intro t ht
    cases ht
  · intro id x hx
    rw [hnone id] at hx
    cases hx
  · intro id x hx
    rw [hnone id] at hx
    cases hx
  · exact InFlight.distinct_empty _

/-- In every interleaving in which a pass starts to finalize a trade only while its
row is open and no other pass finalizes it, no exit is reported twice. -/
theorem exit_reported_once_over_runs (cfg : MonitorConfig) (o : LiveSmcOrchestrator)
    (table : TradeTable) (ops : List MonitorOp)
    (hopen : EveryStep (monitorStep cfg) FinalizesOpen (startMonitor o table) ops)
    (halone : EveryStep (monitorStep cfg) FinalizesAlone (startMonitor o table) ops) :
    (runFrom (monitorStep cfg) (startMonitor o table) ops).exitedIds.Nodup := by
  have hkept := (hopen.and halone).run_inv ExitsKept
    (fun s op h hop => h.step (monitorStep_move cfg s op) hop.1 hop.2)
    (startMonitor_exitsKept o table)
  exact hkept.nodup

/-!
# A trade reported twice
-/

theorem finalizesAlone_of_one_pass (cfg : MonitorConfig) (o : LiveSmcOrchestrator)
    (table : TradeTable) {ops : List MonitorOp}
    (hops : EveryStep (monitorStep cfg) (fun _ op => OnPassZero op) (startMonitor o table) ops) :
    EveryStep (monitorStep cfg) FinalizesAlone (startMonitor o table) ops := by
  apply everyStep_of_inv (fun s : MonitorRun => forall other, other ≠ 0 ->
    s.passes other = none) _ _ _ hops
  · intro s op hnone hop
    exact (monitorStep_move cfg s op).passZero hop hnone
  · intro s op hnone hop trade hnext id x hx
    exfalso
    by_cases hid : id = 0
    · subst hid
      rcases working_of_nextFinalized hnext with
        ⟨pass, scopes, scope, read, todo, hvisit, hpass, -⟩
      subst hvisit
      have hzero : pass = 0 := by
        rcases hop with hzero | hnopass
        · exact Option.some.inj hzero
        · cases hnopass
      subst hzero
      rw [MonitorRun.finalizations, InFlight.view_eq hpass] at hx
      cases hx
    · rw [MonitorRun.finalizations, InFlight.view_absent (hnone id hid)] at hx
      cases hx
  · intro other _
    rfl

def finalizeGold (id : Nat) : List MonitorOp :=
  [.history id stoppedOut.history stoppedOut.now, .update id true, .publish id true]

def passAfterPass : List MonitorOp :=
  missOfGold 0 ++ restOfPass 0 ++ missOfGold 0 ++ restOfPass 0 ++ missOfGold 0 ++
    finalizeGold 0 ++ restOfPass 0 ++ missOfGold 0

theorem exit_reported_by_third_pass :
    (runFrom (monitorStep fourPairs) goldMonitor
        passAfterPass).exitedIds = [1] ∧
      (runFrom (monitorStep fourPairs) goldMonitor
        passAfterPass).exitedIds.Nodup := by
  constructor
  · decide +kernel
  · apply exit_reported_once_over_runs
    · decide +kernel
    · apply finalizesAlone_of_one_pass
      decide +kernel

/-- The candles of four pairs start four passes after two earlier misses; the first
of them waits for the broker's history while the others go on. -/
def overlappingPasses : List MonitorOp :=
  missOfGold 0 ++ restOfPass 0 ++ missOfGold 1 ++ restOfPass 1 ++ [.m15Close] ++
    missOfGold 2 ++ missOfGold 3 ++ missOfGold 4 ++ missOfGold 5 ++
    finalizeGold 2 ++ finalizeGold 5

/-- Two passes report the exit of one trade. -/
theorem exit_reported_by_two_passes :
    ¬ (runFrom (monitorStep fourPairs) goldMonitor
      overlappingPasses).exitedIds.Nodup := by
  decide +kernel

end MonitorPasses
end Live
end Shamarx
