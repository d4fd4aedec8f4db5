import Shamarx.Foundation.GrowingTable
import Shamarx.Live.PositionCap
import Shamarx.Live.SisterRunner

/-!
# Which runner is protected

The rows keep what they had from their order, and a call in flight keeps the take-profit
that it was started by.  The first decides what the search for the sister finds, the second
when a stop is moved.
-/

namespace Shamarx
namespace Live
namespace SisterProtection

open Foundation
open Engine
open Broker
open Orchestrator
open SisterRunner
open PositionCap (ladderSignal)

/-!
# What holds along a run
-/

/-- What a row keeps of the leg it was written for, whatever is written later. -/
structure FromOrigin (origin : LegOrigin) (row : LegRow) : Prop where
  symbol : row.trade.symbol = origin.order.signal.symbol
  side : row.trade.side = origin.order.signal.side
  account : row.accountId = origin.order.accountId
  trailKey : row.management.trailKey = some (trailKeyOf origin.leg)
  ticket : row.status = .open_ -> row.mt5Ticket ≠ none
  marketEntry : row.entryType = .market ->
    row.trade.entryPrice = origin.order.signal.entryPrice

def SoundRow (row : LegRow) : Prop :=
  forall origin, row.origin = some origin -> FromOrigin origin row

def KeyAt (rows : List LegRow) (id : Nat) (key : Option TrailKey) : Prop :=
  exists row, rows[id]? = some row ∧
    forall origin, row.origin = some origin -> key = some (trailKeyOf origin.leg)

/-- A finalization of the trade booked these facts, and they count as a take-profit. -/
structure TakeProfitBooked (finalized : List (Nat × CloseFacts)) (id : Nat)
    (facts : CloseFacts) : Prop where
  mem : (id, facts) ∈ finalized
  counts : normalizedExit facts.exitReason = .tp
  ground : exists read answer now,
    facts = finalizeFacts read answer now ∧ TakeProfitGround read answer

/-- A selection after a take-profit of a first leg: the sister matches it, and is an open
runner short of break-even. -/
structure Earned (finalized : List (Nat × CloseFacts)) (selection : Selection) : Prop where
  booked : TakeProfitBooked finalized selection.closedId selection.facts
  otherRow : selection.sisterId ≠ selection.closedId
  tp1 : selection.closed.management.trailKey = some .tp1
  sameTrade : SisterMatch selection.closed selection.sister
  runner : selection.sister.management.trailKey = some .runner
  waiting : selection.sister.management.breakevenActivated ≠ some true

def PhaseSound (rows : List LegRow) (finalized : List (Nat × CloseFacts)) : CallPhase -> Prop
  | .managing id _ _ read => KeyAt rows id read.state.trailKey
  | .searching id facts => TakeProfitBooked finalized id facts
  | .moving selection | .writing selection =>
      Earned finalized selection ∧
        KeyAt rows selection.sisterId selection.sister.management.trailKey

structure Kept (s : SisterRun) : Prop where
  rows : forall row, row ∈ s.rows -> SoundRow row
  calls : s.calls.Forall fun _ phase => PhaseSound s.rows s.finalized phase
  moves : forall selection, selection ∈ s.moves -> Earned s.finalized selection

section Invariant

variable {s : SisterRun} {rows rows' : List LegRow} {finalized finalized' : List (Nat × CloseFacts)}
  {id call : Nat} {phase : CallPhase} {change : LegRow -> LegRow}

theorem soundRow_placedRow (order : Order) (leg : SmcLiveSignalLeg) (placement : Placement)
    (now : Int) : SoundRow (placedRow order leg placement now) := by
  intro origin horigin
  cases Option.some.inj horigin
  refine ⟨rfl, rfl, rfl, rfl, ?_, ?_⟩
  · intro hopen
    cases placement with
    | market ticket =>
        exact Option.some_ne_none ticket
    | parked =>
        cases hopen
    | filledAtOnce ticket =>
        exact Option.some_ne_none ticket
  · intro hmarket
    have htype : placement.entryType = .market := hmarket
    simp only [placedRow, Placement.entryPrice, htype]

theorem SoundRow.of_same {row row' : LegRow} (h : SoundRow row)
    (horigin : row'.origin = row.origin) (htype : row'.entryType = row.entryType)
    (haccount : row'.accountId = row.accountId)
    (hstatus : row'.status = .open_ -> row.status = .open_)
    (hticket : row'.mt5Ticket = row.mt5Ticket)
    (hsymbol : row'.trade.symbol = row.trade.symbol) (hside : row'.trade.side = row.trade.side)
    (hentry : row.entryType = .market -> row'.trade.entryPrice = row.trade.entryPrice)
    (hkey : forall origin, row.origin = some origin ->
      row'.management.trailKey = some (trailKeyOf origin.leg)) : SoundRow row' := by
  intro origin hof
  rw [horigin] at hof
  have hrow := h origin hof
  refine ⟨hsymbol.trans hrow.symbol, hside.trans hrow.side, haccount.trans hrow.account,
    hkey origin hof, ?_, ?_⟩
  · intro hopen
    rw [hticket]
    exact hrow.ticket (hstatus hopen)
  · intro hmarket
    rw [htype] at hmarket
    exact (hentry hmarket).trans (hrow.marketEntry hmarket)

theorem SoundRow.promoted {row : LegRow} (h : SoundRow row) (positionId : Nat)
    (executionPrice : Option ℚ) : SoundRow (promotedRow positionId executionPrice row) := by
  unfold promotedRow
  split_ifs with hpending
  · intro origin hof
    have hrow := h origin hof
    refine ⟨hrow.symbol, hrow.side, hrow.account, hrow.trailKey, ?_, ?_⟩
    · exact fun _ => Option.some_ne_none positionId
    · intro hmarket
      have htype : row.entryType = .market := hmarket
      rw [hpending.2] at htype
      cases htype
  · exact h

theorem origin_promotedRow (positionId : Nat) (executionPrice : Option ℚ) (row : LegRow) :
    (promotedRow positionId executionPrice row).origin = row.origin := by
  unfold promotedRow
  split_ifs <;> rfl

theorem SoundRow.withStatus {row : LegRow} (h : SoundRow row) {status : TradeStatus}
    (hstatus : status = .open_ -> row.status = .open_) :
    SoundRow { row with status := status } :=
  h.of_same rfl rfl rfl hstatus rfl rfl rfl (fun _ => rfl) fun origin hof =>
    (h origin hof).trailKey

theorem SoundRow.ended {row : LegRow} (h : SoundRow row) : SoundRow (endedRow row) := by
  refine h.withStatus ?_
  intro hopen
  cases hstatus : row.status with
  | open_ =>
      rfl
  | pending | closed | cancelled =>
      rw [hstatus] at hopen
      cases hopen

theorem SoundRow.managed {row : LegRow} (h : SoundRow row) (hat : rows[id]? = some row)
    {written : ManagedTrade} (hkey : KeyAt rows id written.state.trailKey) :
    SoundRow (managedRow written row) := by
  rcases hkey with ⟨read, hread, hkey⟩
  rw [hat] at hread
  cases Option.some.inj hread
  exact h.of_same rfl rfl rfl (fun hopen => hopen) rfl rfl rfl (fun _ => rfl) hkey

theorem SoundRow.protected {row : LegRow} (h : SoundRow row) (hat : rows[id]? = some row)
    {sister : LegRow} (hkey : KeyAt rows id sister.management.trailKey) :
    SoundRow (protectedRow sister row) := by
  rcases hkey with ⟨read, hread, hkey⟩
  rw [hat] at hread
  cases Option.some.inj hread
  exact h.of_same rfl rfl rfl (fun hopen => hopen) rfl rfl rfl (fun _ => rfl) hkey

theorem SoundRow.keyAt {row : LegRow} (h : SoundRow row) (hat : rows[id]? = some row) :
    KeyAt rows id row.management.trailKey :=
  ⟨row, hat, fun origin hof => (h origin hof).trailKey⟩

theorem keyAt_writtenTrade {read : ManagedTrade} {symbol : Instrument} {broker : BrokerPosition}
    {candle : BacktestCandle} (h : KeyAt rows id read.state.trailKey) :
    KeyAt rows id
      (writtenTrade read broker (updatedPosition symbol read broker candle)).state.trailKey := by
  rcases h with ⟨row, hat, hkey⟩
  refine ⟨row, hat, ?_⟩
  intro origin hof
  have hread := hkey origin hof
  change some (read.state.trailKey.getD .runner) = _
  rw [hread]
  rfl

theorem KeyAt.grows {key : Option TrailKey} (h : KeyAt rows id key)
    (hgrows : Grows LegRow.origin rows rows') : KeyAt rows' id key := by
  rcases h with ⟨row, hat, hkey⟩
  rcases hgrows id row hat with ⟨row', hat', horigin⟩
  exact ⟨row', hat', fun origin hof => hkey origin (horigin ▸ hof)⟩

theorem TakeProfitBooked.mono {facts : CloseFacts} (h : TakeProfitBooked finalized id facts)
    (hsub : finalized ⊆ finalized') : TakeProfitBooked finalized' id facts :=
  { h with mem := hsub h.mem }

theorem Earned.mono {selection : Selection} (h : Earned finalized selection)
    (hsub : finalized ⊆ finalized') : Earned finalized' selection :=
  { h with booked := h.booked.mono hsub }

theorem PhaseSound.mono (h : PhaseSound rows finalized phase)
    (hgrows : Grows LegRow.origin rows rows') (hsub : finalized ⊆ finalized') :
    PhaseSound rows' finalized' phase := by
  cases phase with
  | managing id symbol ticket read =>
      exact KeyAt.grows h hgrows
  | searching id facts =>
      exact TakeProfitBooked.mono h hsub
  | moving selection | writing selection =>
      exact ⟨h.1.mono hsub, h.2.grows hgrows⟩

theorem Kept.withRows (h : Kept s) (hrows : forall row, row ∈ rows -> SoundRow row)
    (hgrows : Grows LegRow.origin s.rows rows) : Kept { s with rows := rows } where
  rows := hrows
  calls := h.calls.imp fun _ _ hphase => hphase.mono hgrows (List.Subset.refl _)
  moves := h.moves

theorem Kept.modify (h : Kept s) (horigin : forall row, (change row).origin = row.origin)
    (hsound : forall row, s.rows[id]? = some row -> SoundRow row -> SoundRow (change row)) :
    Kept (s.modify id change) :=
  h.withRows (forall_modify_row h.rows hsound) (grows_modify s.rows id horigin)

theorem Kept.enter (h : Kept s) (call : Nat) (hphase : PhaseSound s.rows s.finalized phase) :
    Kept (s.enter call phase) where
  rows := h.rows
  calls := h.calls.put hphase
  moves := h.moves

theorem Kept.leave (h : Kept s) (call : Nat) : Kept (s.leave call) where
  rows := h.rows
  calls := h.calls.drop call
  moves := h.moves

theorem Kept.close (h : Kept s) (call id : Nat) (read : OpenTrade) (answer : Option CloseInfo)
    (now : Int) (publishes : Bool) :
    Kept (s.close call id (finalizeFacts read answer now) publishes) := by
  have hclosed : Kept (s.modify id fun row => { row with status := .closed }) := by
    refine h.modify (fun _ => rfl) ?_
    intro row _ hrow
    exact hrow.withStatus fun hopen => nomatch hopen
  have hbooked : Kept
      { s.modify id (fun row => { row with status := .closed }) with
        finalized := s.finalized ++ [(id, finalizeFacts read answer now)] } :=
    { rows := hclosed.rows
      calls := hclosed.calls.imp fun _ _ hphase =>
        hphase.mono (grows_refl _ _) (List.subset_append_left _ _)
      moves := fun selection hmem =>
        (hclosed.moves selection hmem).mono (List.subset_append_left _ _) }
  unfold SisterRun.close
  dsimp only
  split_ifs with htp
  · refine hbooked.enter call ?_
    exact
      { mem := List.mem_append_right _ List.mem_cons_self
        counts := htp.2
        ground := ⟨read, answer, now, rfl, takeProfitGround htp.2⟩ }
  · exact hbooked

theorem sisterOf_spec {choice : Nat} {closed : LegRow} {sister : LegRow × Nat}
    (h : sisterOf rows choice id closed = some sister) :
    closed.management.trailKey = some .tp1 ∧ rows[sister.2]? = some sister.1 ∧ sister.2 ≠ id ∧
      SisterMatch closed sister.1 ∧ sister.1.management.trailKey = some .runner ∧
      sister.1.management.breakevenActivated ≠ some true := by
  unfold sisterOf at h
  split_ifs at h with htp1
  rcases Option.filter_eq_some_iff.mp h with ⟨hfound, hstate⟩
  have hmem : sister ∈ sisterCandidates rows id closed := List.mem_of_getElem? hfound
  rcases List.mem_filter.mp hmem with ⟨hrow, hfilter⟩
  have hmatch := of_decide_eq_true hfilter
  have hat : rows[sister.2]? = some sister.1 := List.mem_zipIdx_iff_getElem?.mp hrow
  exact ⟨htp1, hat, hmatch.1, hmatch.2, of_decide_eq_true hstate⟩

theorem Kept.moving (h : Kept s) {choice : Nat} {facts : CloseFacts} {closed : LegRow}
    {sister : LegRow × Nat} (hbooked : TakeProfitBooked s.finalized id facts)
    (hsister : sisterOf s.rows choice id closed = some sister) :
    PhaseSound s.rows s.finalized (.moving
      { closedId := id
        facts := facts
        closed := closed
        sister := sister.1
        sisterId := sister.2 }) := by
  rcases sisterOf_spec hsister with ⟨htp1, hat, hother, hmatch, hrunner, hwait⟩
  have hsound := h.rows sister.1 (List.mem_of_getElem? hat)
  refine ⟨?_, hsound.keyAt hat⟩
  exact
    { booked := hbooked
      otherRow := hother
      tp1 := htp1
      sameTrade := hmatch
      runner := hrunner
      waiting := hwait }

theorem Kept.step (h : Kept s) (op : SisterOp) : Kept (sisterStep s op) := by
  cases op with
  | place order leg placement now =>
      unfold sisterStep
      dsimp only
      split_ifs
      · exact h.withRows
          (forall_append_row h.rows (soundRow_placedRow order leg placement now))
          (grows_append _ _ _)
      · exact h
  | insertOther row =>
      exact h.withRows (forall_append_row h.rows fun origin hof => nomatch hof)
        (grows_append _ _ _)
  | promote id positionId executionPrice =>
      exact h.modify (origin_promotedRow positionId executionPrice)
        fun row _ hrow => hrow.promoted positionId executionPrice
  | endElsewhere id =>
      exact h.modify (fun _ => rfl) fun row _ hrow => hrow.ended
  | readManaged call id =>
      unfold sisterStep
      dsimp only
      split
      · next row hfree hrow =>
          split
          · next ticket hstatus hticket =>
              have hsound := h.rows row (List.mem_of_getElem? hrow)
              exact h.enter call (hsound.keyAt hrow)
          · exact h
      · exact h
  | writeManaged call broker candle outcome =>
      unfold sisterStep
      dsimp only
      split
      · next id symbol ticket read hcall =>
          have hkey : KeyAt s.rows id read.state.trailKey := h.calls call _ hcall
          split_ifs
          · refine Kept.leave ?_ call
            exact h.modify (fun _ => rfl)
              fun row hat hrow => hrow.managed hat (keyAt_writtenTrade hkey)
          · exact h.leave call
      · exact h
  | finalize call id read fin =>
      unfold sisterStep
      dsimp only
      split
      · split_ifs
        · exact h.close call id read fin.history fin.now fin.publishes
        · exact h
      · exact h
  | search call choice =>
      unfold sisterStep
      dsimp only
      split
      · next id facts hcall =>
          have hbooked : TakeProfitBooked s.finalized id facts := h.calls call _ hcall
          split
          · next closed hclosed =>
              split
              · next sister hsister =>
                  exact h.enter call (h.moving hbooked hsister)
              · exact h.leave call
          · exact h.leave call
      · exact h
  | move call outcome =>
      unfold sisterStep
      dsimp only
      split
      · next selection hcall =>
          have hphase : PhaseSound s.rows s.finalized (.moving selection) := h.calls call _ hcall
          have hmoved : Kept { s with moves := s.moves ++ [selection] } :=
            { rows := h.rows
              calls := h.calls
              moves := forall_append_row h.moves hphase.1 }
          split_ifs
          · exact hmoved.leave call
          · exact hmoved.enter call hphase
      · exact h
  | write call updates =>
      unfold sisterStep
      dsimp only
      split
      · next selection hcall =>
          have hphase : PhaseSound s.rows s.finalized (.writing selection) :=
            h.calls call _ hcall
          split_ifs
          · refine Kept.leave ?_ call
            exact h.modify (fun _ => rfl) fun row hat hrow => hrow.protected hat hphase.2
          · exact h.leave call
      · exact h

theorem kept_run (ops : List SisterOp) : Kept (run ops) := by
  refine runFrom_inv Kept (fun s op h => h.step op) ?_ ops
  exact
    { rows := fun row hrow => nomatch hrow
      calls := InFlight.forall_empty _
      moves := fun selection hmem => nomatch hmem }

end Invariant

/-!
# The runner of the closed leg
-/

/-- Two rows of one order: its first leg, and a runner that is open without break-even. -/
structure Ladder (rows : List LegRow) (order : Order) (id : Nat) (closed : LegRow)
    (runnerId : Nat) (runner : LegRow) : Prop where
  closedAt : rows[id]? = some closed
  runnerAt : rows[runnerId]? = some runner
  firstLeg : exists leg, closed.origin = some { order := order, leg := leg } ∧
    SetupTag.tp1 ∈ leg.setupTags
  runnerLeg : exists leg, runner.origin = some { order := order, leg := leg } ∧
    SetupTag.tp1 ∉ leg.setupTags
  stillOpen : runner.status = .open_
  waiting : runner.management.breakevenActivated ≠ some true

/-- The lookup has what it needs: equal entries, as market orders have, at most five seconds
between the rows, and no third row like them. -/
structure Recognisable (rows : List LegRow) (id : Nat) (closed : LegRow) (runnerId : Nat)
    (runner : LegRow) : Prop where
  entry : (closed.entryType = .market ∧ runner.entryType = .market) ∨
    runner.trade.entryPrice = closed.trade.entryPrice
  after : closed.createdAt - 5000 ≤ runner.createdAt
  before : runner.createdAt ≤ closed.createdAt + 5000
  alone : forall otherId other, rows[otherId]? = some other -> SisterMatch closed other ->
    otherId = id ∨ otherId = runnerId

/-- A finalization that the broker reports as a take-profit goes on to the lookup. -/
def SearchesOnTakeProfit (s : SisterRun) : Prop :=
  forall call id read fin, s.calls call = none -> id < s.rows.length -> fin.updates = true ->
    fin.publishes = true -> ReportsTakeProfit fin.history ->
    (sisterStep s (.finalize call id read fin)).searchedFor call = some id

/-- The lookup selects the runner of the closed leg, whatever the database answers first. -/
def SelectsOwnRunner (Condition : List LegRow -> Nat -> LegRow -> Nat -> LegRow -> Prop)
    (s : SisterRun) : Prop :=
  forall call choice order id closed runnerId runner, s.searchedFor call = some id ->
    Ladder s.rows order id closed runnerId runner ->
    Condition s.rows id closed runnerId runner ->
    (sisterStep s (.search call choice)).selected call = some runnerId

/-- Every stop that was moved, or is about to be written, was earned. -/
def MovesOnlyEarned (s : SisterRun) : Prop :=
  (forall selection, selection ∈ s.moves -> Earned s.finalized selection) ∧
    forall call selection, s.calls call = some (.writing selection) ->
      Earned s.finalized selection

def MovesOnlyReported (s : SisterRun) : Prop :=
  forall selection, selection ∈ s.moves ->
    exists read answer now,
      selection.facts = finalizeFacts read answer now ∧ ReportsTakeProfit answer

section Selection

variable {s : SisterRun} {rows : List LegRow} {order : Order} {id runnerId : Nat}
  {closed runner : LegRow}

theorem findFirst_of_forall {found : List (LegRow × Nat)} {row : LegRow × Nat}
    (hmem : row ∈ found) (hall : forall other, other ∈ found -> other = row) (choice : Nat) :
    findFirst choice found = some row := by
  have hpos : 0 < found.length := List.length_pos_of_mem hmem
  have hlt : choice % found.length < found.length := Nat.mod_lt choice hpos
  unfold findFirst
  rw [List.getElem?_eq_getElem hlt]
  exact congrArg some (hall _ (List.getElem_mem hlt))

theorem mem_sisterCandidates {row : LegRow × Nat} :
    row ∈ sisterCandidates rows id closed <->
      rows[row.2]? = some row.1 ∧ row.2 ≠ id ∧ SisterMatch closed row.1 := by
  unfold sisterCandidates
  rw [List.mem_filter, List.mem_zipIdx_iff_getElem?, decide_eq_true_iff]

theorem Ladder.ne (h : Ladder rows order id closed runnerId runner) : runnerId ≠ id := by
  intro heq
  rcases h.firstLeg with ⟨leg, hleg, htp1⟩
  rcases h.runnerLeg with ⟨leg', hleg', hrunner⟩
  have hsame : closed = runner := by
    have hat := h.closedAt
    rw [<- heq, h.runnerAt] at hat
    exact (Option.some.inj hat).symm
  rw [hsame, hleg'] at hleg
  cases hleg
  exact hrunner htp1

theorem Ladder.sisterMatch (h : Ladder rows order id closed runnerId runner)
    (hrows : forall row, row ∈ rows -> SoundRow row)
    (hcond : Recognisable rows id closed runnerId runner) : SisterMatch closed runner := by
  rcases h.firstLeg with ⟨leg, hleg, htp1⟩
  rcases h.runnerLeg with ⟨leg', hleg', hrunner⟩
  have hclosed := hrows closed (List.mem_of_getElem? h.closedAt) _ hleg
  have hopen := hrows runner (List.mem_of_getElem? h.runnerAt) _ hleg'
  have hentry : runner.trade.entryPrice = closed.trade.entryPrice := by
    rcases hcond.entry with ⟨hmarket, hmarket'⟩ | hentry
    · exact (hopen.marketEntry hmarket').trans (hclosed.marketEntry hmarket).symm
    · exact hentry
  exact ⟨hopen.symbol.trans hclosed.symbol.symm, hopen.side.trans hclosed.side.symm, hentry,
    h.stillOpen, hopen.ticket h.stillOpen, hopen.account.trans hclosed.account.symm,
    hcond.after, hcond.before⟩

theorem Ladder.sisterOf_eq (h : Ladder rows order id closed runnerId runner)
    (hrows : forall row, row ∈ rows -> SoundRow row)
    (hcond : Recognisable rows id closed runnerId runner) (choice : Nat) :
    sisterOf rows choice id closed = some (runner, runnerId) := by
  rcases h.firstLeg with ⟨leg, hleg, htp1⟩
  rcases h.runnerLeg with ⟨leg', hleg', hrunner⟩
  have hclosedKey : closed.management.trailKey = some .tp1 := by
    have hkey := (hrows closed (List.mem_of_getElem? h.closedAt) _ hleg).trailKey
    rwa [trailKeyOf, if_pos htp1] at hkey
  have hrunnerKey : runner.management.trailKey = some .runner := by
    have hkey := (hrows runner (List.mem_of_getElem? h.runnerAt) _ hleg').trailKey
    rwa [trailKeyOf, if_neg hrunner] at hkey
  have hmem : (runner, runnerId) ∈ sisterCandidates rows id closed :=
    mem_sisterCandidates.mpr ⟨h.runnerAt, h.ne, h.sisterMatch hrows hcond⟩
  have hall : forall other, other ∈ sisterCandidates rows id closed ->
      other = (runner, runnerId) := by
    intro other hother
    rcases mem_sisterCandidates.mp hother with ⟨hat, hne, hmatch⟩
    have hid : other.2 = runnerId := (hcond.alone _ _ hat hmatch).resolve_left hne
    rw [hid, h.runnerAt] at hat
    exact Prod.ext (Option.some.inj hat).symm hid
  unfold sisterOf
  rw [if_pos hclosedKey, findFirst_of_forall hmem hall]
  exact Option.filter_some_pos (decide_eq_true ⟨hrunnerKey, h.waiting⟩)

theorem searchesOnTakeProfit (s : SisterRun) : SearchesOnTakeProfit s := by
  intro call id read fin hfree hid hupdates hpublishes hreported
  have htp : normalizedExit (finalizeFacts read fin.history fin.now).exitReason = .tp := by
    rw [finalizeFacts_reported hreported]
    simp [normalizedExit]
  have hat : s.rows[id]? = some s.rows[id] := List.getElem?_eq_getElem hid
  unfold sisterStep
  simp only [hfree, hat, if_pos hupdates, SisterRun.close]
  rw [if_pos ⟨hpublishes, htp⟩]
  simp only [SisterRun.searchedFor, SisterRun.enter, InFlight.put_self]

theorem Kept.selectsOwnRunner (h : Kept s) : SelectsOwnRunner Recognisable s := by
  intro call choice order id closed runnerId runner hsearched hladder hcond
  cases hcall : s.calls call with
  | none =>
      simp [SisterRun.searchedFor, hcall] at hsearched
  | some phase =>
      cases phase with
      | searching searchedId facts =>
          have hid : searchedId = id := by
            simpa [SisterRun.searchedFor, hcall] using hsearched
          subst hid
          unfold sisterStep
          simp only [hcall, hladder.closedAt, hladder.sisterOf_eq h.rows hcond]
          simp only [SisterRun.selected, SisterRun.enter, InFlight.put_self]
      | managing | moving | writing =>
          simp [SisterRun.searchedFor, hcall] at hsearched

end Selection

/-!
# Where the runner is not recognised
-/

def ladderOrder (number : Nat) : Order :=
  { number := number, accountId := some "account", signal := ladderSignal .EURUSD }

def tp1Leg : SmcLiveSignalLeg :=
  { lotSize := 3 / 10, tpPrice := 111 / 100, setupTags := [.smc, .tp1] }

def runnerLeg : SmcLiveSignalLeg :=
  { lotSize := 7 / 10, tpPrice := 113 / 100, setupTags := [.smc, .runner] }

def marketLadder (number delay : Nat) : List SisterOp :=
  [.place (ladderOrder number) tp1Leg (.market (10 * number + 1)) 0,
   .place (ladderOrder number) runnerLeg (.market (10 * number + 2)) delay]

/-- Limits that the broker fills a tenth of a pip apart. -/
def retraceLadder : List SisterOp :=
  [.place (ladderOrder 0) tp1Leg .parked 0,
   .place (ladderOrder 0) runnerLeg .parked 400,
   .promote 0 1 (some (109500 / 100000)),
   .promote 1 2 (some (109499 / 100000))]

def reportedClose : CloseInfo :=
  { closePrice := some (111 / 100)
    realizedPnl := some 450
    pnl := none
    closeTime := none
    reason := some "TAKE_PROFIT" }

def closing (answer : Option CloseInfo) : SisterOp :=
  .finalize 0 0
    { symbol := .EURUSD
      side := .buy
      lotSize := 3 / 10
      entryPrice := 11 / 10
      slPrice := 109 / 100
      tpPrice := 111 / 100 }
    { history := answer, now := 600000, updates := true, publishes := true }

def closedLeg (row : LegRow) : LegRow :=
  { row with status := .closed }

section Missed

variable {s : SisterRun} {order : Order} {id runnerId : Nat} {closed runner : LegRow}

theorem not_selectsOwnRunner (call choice : Nat)
    (hladder : Ladder s.rows order id closed runnerId runner)
    (hmissed : s.searchedFor call = some id ∧
      (sisterStep s (.search call choice)).selected call ≠ some runnerId) :
    ¬ SelectsOwnRunner (fun _ _ _ _ _ => True) s := by
  intro h
  exact hmissed.2 (h call choice order id closed runnerId runner hmissed.1 hladder trivial)

theorem not_movesOnlyReported
    (hmoved : "TP_EST" ∈ s.moves.map fun selection => selection.facts.exitReason) :
    ¬ MovesOnlyReported s := by
  intro h
  rcases List.mem_map.mp hmoved with ⟨selection, hmem, hreason⟩
  rcases h selection hmem with ⟨read, answer, now, hfacts, hreported⟩
  rw [hfacts, finalizeFacts_reported hreported] at hreason
  exact absurd hreason (by decide)

theorem ladder_of_rows {number : Nat}
    (h : s.rows[id]? = some closed ∧ s.rows[runnerId]? = some runner ∧
      closed.origin = some { order := ladderOrder number, leg := tp1Leg } ∧
      runner.origin = some { order := ladderOrder number, leg := runnerLeg } ∧
      runner.status = .open_ ∧ runner.management.breakevenActivated ≠ some true) :
    Ladder s.rows (ladderOrder number) id closed runnerId runner := by
  rcases h with ⟨hclosed, hrunner, hfirst, hsecond, hopen, hwaiting⟩
  exact
    { closedAt := hclosed
      runnerAt := hrunner
      firstLeg := ⟨tp1Leg, hfirst, List.mem_cons_of_mem _ List.mem_cons_self⟩
      runnerLeg := ⟨runnerLeg, hsecond, by decide⟩
      stillOpen := hopen
      waiting := hwaiting }

end Missed

/-- The runner is missed when the limits fill at different prices, when its row comes six
seconds later, and when another ladder of the account matches; and an estimated take-profit
moves a stop. -/
theorem runner_missed_and_moved_unreported :
    ReportsTakeProfit (some reportedClose) ∧
      ¬ SelectsOwnRunner (fun _ _ _ _ _ => True)
        (run (retraceLadder ++ [closing (some reportedClose)])) ∧
      ¬ SelectsOwnRunner (fun _ _ _ _ _ => True)
        (run (marketLadder 0 6000 ++ [closing (some reportedClose)])) ∧
      ¬ SelectsOwnRunner (fun _ _ _ _ _ => True)
        (run (marketLadder 0 400 ++ marketLadder 1 400 ++ [closing (some reportedClose)])) ∧
      ¬ MovesOnlyReported
        (run (marketLadder 0 400 ++ [closing none, .search 0 0, .move 0 (.unreached 500)])) := by
  refine ⟨by decide +kernel, ?_, ?_, ?_, ?_⟩
  · have hladder : Ladder (run (retraceLadder ++ [closing (some reportedClose)])).rows
        (ladderOrder 0) 0
        (closedLeg (promotedRow 1 (some (109500 / 100000))
          (placedRow (ladderOrder 0) tp1Leg .parked 0)))
        1 (promotedRow 2 (some (109499 / 100000))
          (placedRow (ladderOrder 0) runnerLeg .parked 400)) :=
      ladder_of_rows (by decide +kernel)
    exact not_selectsOwnRunner 0 0 hladder (by decide +kernel)
  · have hladder : Ladder (run (marketLadder 0 6000 ++ [closing (some reportedClose)])).rows
        (ladderOrder 0) 0
        (closedLeg (placedRow (ladderOrder 0) tp1Leg (.market 1) 0))
        1 (placedRow (ladderOrder 0) runnerLeg (.market 2) 6000) :=
      ladder_of_rows (by decide +kernel)
    exact not_selectsOwnRunner 0 0 hladder (by decide +kernel)
  · have hladder : Ladder
        (run (marketLadder 0 400 ++ marketLadder 1 400 ++ [closing (some reportedClose)])).rows
        (ladderOrder 0) 0
        (closedLeg (placedRow (ladderOrder 0) tp1Leg (.market 1) 0))
        1 (placedRow (ladderOrder 0) runnerLeg (.market 2) 400) :=
      ladder_of_rows (by decide +kernel)
    exact not_selectsOwnRunner 0 2 hladder (by decide +kernel)
  · exact not_movesOnlyReported (by decide +kernel)

/-!
# What every run protects
-/

/-- In every run: a reported take-profit leads to the lookup, the lookup selects the runner
of the closed leg where it can recognise it, and no stop is moved without a take-profit that
was booked for a first leg. -/
theorem tp1_close_protects_own_runner (ops : List SisterOp) :
    SearchesOnTakeProfit (run ops) ∧ SelectsOwnRunner Recognisable (run ops) ∧
      MovesOnlyEarned (run ops) := by
  have hkept := kept_run ops
  refine ⟨searchesOnTakeProfit _, hkept.selectsOwnRunner, hkept.moves, ?_⟩
  intro call selection hcall
  have hphase : PhaseSound (run ops).rows (run ops).finalized (.writing selection) :=
    hkept.calls call _ hcall
  exact hphase.1

/-- Market orders less than half a second apart. -/
theorem market_runner_selected :
    (sisterStep (run (marketLadder 0 400 ++ [closing (some reportedClose)]))
      (.search 0 7)).selected 0 = some 1 := by
  have hladder : Ladder (run (marketLadder 0 400 ++ [closing (some reportedClose)])).rows
      (ladderOrder 0) 0
      (closedLeg (placedRow (ladderOrder 0) tp1Leg (.market 1) 0))
      1 (placedRow (ladderOrder 0) runnerLeg (.market 2) 400) :=
    ladder_of_rows (by decide +kernel)
  refine (tp1_close_protects_own_runner
    (marketLadder 0 400 ++ [closing (some reportedClose)])).2.1 0 7 (ladderOrder 0) 0 _ 1 _
    (by decide +kernel) hladder ?_
  refine ⟨Or.inl (by decide +kernel), by decide +kernel, by decide +kernel, ?_⟩
  intro otherId other hat _
  have hlength : (run (marketLadder 0 400 ++ [closing (some reportedClose)])).rows.length = 2 := by
    decide +kernel
  have hlt := (List.getElem?_eq_some_iff.mp hat).1
  omega

end SisterProtection
end Live
end Shamarx
