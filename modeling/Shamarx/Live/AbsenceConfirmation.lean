import Mathlib.Data.List.Dedup
import Mathlib.Data.List.Infix
import Shamarx.Live.MonitorPasses

/-!
# Confirmed absences

The count of a trade is meant to be the number of M15 cycles since the broker
last listed its ticket.  It is the number of reads, whichever pass made them and
at whichever close.
-/

namespace Shamarx
namespace Live
namespace MonitorPasses

open Foundation
open Engine
open Broker
open Orchestrator

/-!
# Reads without the ticket
-/

/-- The closes of the newest reads that lack the ticket, back to its last sighting. -/
def missCloses (ticket : Option Nat) (reads : List BrokerRead) : List Nat :=
  (reads.takeWhile fun r => decide (¬ Listed r.tickets ticket)).map BrokerRead.close

theorem missCloses_missed {ticket : Option Nat} {r : BrokerRead} (older : List BrokerRead)
    (h : ¬ Listed r.tickets ticket) :
    missCloses ticket (r :: older) = r.close :: missCloses ticket older := by
  simp [missCloses, h]

/-- The number of closes at which reads lacked the ticket, since its last sighting. -/
def missedCloses (ticket : Option Nat) (reads : List BrokerRead) : Nat :=
  (missCloses ticket reads).dedup.length

theorem missedCloses_pos {ticket : Option Nat} {r : BrokerRead} (older : List BrokerRead)
    (h : ¬ Listed r.tickets ticket) : 0 < missedCloses ticket (r :: older) := by
  rw [missedCloses, missCloses_missed older h]
  exact List.length_pos_of_mem (List.mem_dedup.mpr List.mem_cons_self)

theorem missedCloses_new {ticket : Option Nat} {r : BrokerRead} {older : List BrokerRead}
    (h : ¬ Listed r.tickets ticket) (hnew : r.close ∉ missCloses ticket older) :
    missedCloses ticket (r :: older) = missedCloses ticket older + 1 := by
  rw [missedCloses, missCloses_missed older h, List.dedup_cons_of_notMem hnew]
  rfl

/-- At three or more distinct closes, reads lacked the ticket and none in between
contained it. -/
def ConfirmedAbsent (ticket : Option Nat) (reads : List BrokerRead) : Prop :=
  exists older, older ∈ reads.tails ∧ absenceConfirmations ≤ missedCloses ticket older

instance (ticket : Option Nat) (reads : List BrokerRead) :
    Decidable (ConfirmedAbsent ticket reads) :=
  inferInstanceAs (Decidable (exists older, older ∈ reads.tails ∧ _))

/-- A trade is finalized only when its absence is confirmed. -/
def FinalizesConfirmed (cfg : MonitorConfig) (s : MonitorRun) (op : MonitorOp) : Prop :=
  forall trade, trade ∈ s.nextFinalized op -> forall scope, scope ∈ trade.2.scope cfg ->
    ConfirmedAbsent trade.2.mt5Ticket (s.reads scope)

instance (cfg : MonitorConfig) (s : MonitorRun) (op : MonitorOp) :
    Decidable (FinalizesConfirmed cfg s op) :=
  inferInstanceAs (Decidable (forall trade, trade ∈ s.nextFinalized op ->
    forall scope, scope ∈ trade.2.scope cfg ->
      ConfirmedAbsent trade.2.mt5Ticket (s.reads scope)))

/-!
# Reads that a pass has not worked off
-/

/-- The read of a pass and the trades it has still to visit; none before the query. -/
structure HeldRead where
  scope : Scope
  read : BrokerRead
  todo : Option (List (Nat × MonitorRow))

def Pass.held (pass : Pass) : Option HeldRead :=
  match pass.phase with
  | .between => none
  | .answered scope read => some { scope := scope, read := read, todo := none }
  | .working scope read todo => some { scope := scope, read := read, todo := some todo }
  | .finalizing scope read todo _ _ => some { scope := scope, read := read, todo := some todo }

def MonitorRun.held (s : MonitorRun) : InFlight HeldRead :=
  s.passes.view Pass.held

/-- The read has not been counted for the trade yet. -/
def HeldRead.Awaits (x : HeldRead) (tradeId : Nat) : Prop :=
  forall todo, todo ∈ x.todo -> tradeId ∈ todo.map Prod.fst

def MonitorRun.readScope (s : MonitorRun) : MonitorOp -> Option Scope
  | .read id (some _) =>
      match s.passes id with
      | some { scopes := scope :: _, phase := .between } => some scope
      | _ => none
  | _ => none

/-- A pass reads a scope while no other pass has a read of it in hand. -/
def ReadsAlone (s : MonitorRun) (op : MonitorOp) : Prop :=
  forall scope, scope ∈ s.readScope op -> forall other x, s.held other = some x ->
    x.scope ≠ scope

def MonitorOp.tickets : MonitorOp -> Option (List Nat)
  | .read _ tickets => tickets
  | _ => none

/-- A read that lacks the ticket of an open trade is the first such one since the last M15
close or the last sighting of the ticket. -/
def ReadsAnew (cfg : MonitorConfig) (s : MonitorRun) (op : MonitorOp) : Prop :=
  forall scope, scope ∈ s.readScope op -> forall tickets, tickets ∈ op.tickets ->
    forall e, e ∈ s.table.openTrades cfg scope -> ¬ Listed tickets e.2.mt5Ticket ->
      s.closes ∉ missCloses e.2.mt5Ticket (s.reads scope)

instance (cfg : MonitorConfig) (s : MonitorRun) (op : MonitorOp) : Decidable (ReadsAnew cfg s op) :=
  inferInstanceAs (Decidable (forall scope, scope ∈ s.readScope op ->
    forall tickets, tickets ∈ op.tickets -> forall e, e ∈ s.table.openTrades cfg scope ->
      ¬ Listed tickets e.2.mt5Ticket -> s.closes ∉ missCloses e.2.mt5Ticket (s.reads scope)))

def MonitorRun.lostRead (s : MonitorRun) : MonitorOp -> Option HeldRead
  | .query id false => s.held id
  | _ => none

/-- No read that lists a counted trade is lost. -/
def SightingsUsed (cfg : MonitorConfig) (s : MonitorRun) (op : MonitorOp) : Prop :=
  forall x, x ∈ s.lostRead op -> forall e, e ∈ s.table.rows ->
    e.2.scope cfg = some x.scope -> 0 < s.misses e.1 -> ¬ Listed x.read.tickets e.2.mt5Ticket

instance (cfg : MonitorConfig) (s : MonitorRun) (op : MonitorOp) :
    Decidable (SightingsUsed cfg s op) :=
  inferInstanceAs (Decidable (forall x, x ∈ s.lostRead op -> forall e, e ∈ s.table.rows ->
    e.2.scope cfg = some x.scope -> 0 < s.misses e.1 -> ¬ Listed x.read.tickets e.2.mt5Ticket))

def ReadsInTurn (cfg : MonitorConfig) (s : MonitorRun) (op : MonitorOp) : Prop :=
  ReadsAlone s op ∧ ReadsAnew cfg s op ∧ SightingsUsed cfg s op

/-!
# Rows that keep their trade
-/

def SameTrade (cfg : MonitorConfig) (row row' : MonitorRow) : Prop :=
  row.scope cfg = row'.scope cfg ∧ row.mt5Ticket = row'.mt5Ticket

/-- Once a row is not pending it stays so, with its scope and ticket, and a row that
is open now was open before or is newly so. -/
structure TableKeeps (cfg : MonitorConfig) (old new : TradeTable) : Prop where
  forward : forall t row, old.get t = some row -> row.status ≠ .pending ->
    exists row', new.get t = some row' ∧ SameTrade cfg row' row ∧ row'.status ≠ .pending
  backward : forall t row', new.get t = some row' -> row'.status = .open_ ->
    (exists row, old.get t = some row ∧ SameTrade cfg row' row ∧ row.status = .open_) ∨
      forall row, old.get t = some row -> row.status = .pending

theorem TableKeeps.refl (cfg : MonitorConfig) (table : TradeTable) :
    TableKeeps cfg table table :=
  ⟨fun _ row hrow hstatus => ⟨row, hrow, ⟨rfl, rfl⟩, hstatus⟩,
    fun _ row hrow hstatus => Or.inl ⟨row, hrow, ⟨rfl, rfl⟩, hstatus⟩⟩

theorem TableKeeps.modify {cfg : MonitorConfig} {table : TradeTable} {tradeId : Nat}
    {change : MonitorRow -> MonitorRow}
    (hkeeps : forall row, row.status ≠ .pending ->
      SameTrade cfg (change row) row ∧ (change row).status ≠ .pending)
    (hopen : forall row, (change row).status = .open_ ->
      row.status = .open_ ∨ row.status = .pending) :
    TableKeeps cfg table (table.modify tradeId change) := by
  constructor
  · intro t row hrow hstatus
    by_cases heq : t = tradeId
    · subst heq
      refine ⟨change row, ?_, hkeeps row hstatus⟩
      rw [get_modify, hrow]
      rfl
    · exact ⟨row, (get_modify_of_ne change heq).trans hrow, ⟨rfl, rfl⟩, hstatus⟩
  · intro t row' hrow' hstatus
    by_cases heq : t = tradeId
    · subst heq
      rw [get_modify, Option.map_eq_some_iff] at hrow'
      rcases hrow' with ⟨row, hrow, rfl⟩
      rcases hopen row hstatus with hbefore | hpending
      · refine Or.inl ⟨row, hrow, (hkeeps row ?_).1, hbefore⟩
        rw [hbefore]
        decide
      · refine Or.inr ?_
        intro found hfound
        rw [hrow] at hfound
        cases hfound
        exact hpending
    · rw [get_modify_of_ne change heq] at hrow'
      exact Or.inl ⟨row', hrow', ⟨rfl, rfl⟩, hstatus⟩

theorem TableKeeps.insert {cfg : MonitorConfig} {table : TradeTable} {tradeId : Nat}
    (hfree : table.get tradeId = none) (row : MonitorRow) :
    TableKeeps cfg table (table.set tradeId row) := by
  constructor
  · intro t found hfound hstatus
    have hne : t ≠ tradeId := by
      intro heq
      rw [heq, hfree] at hfound
      cases hfound
    exact ⟨found, (get_set_row_of_ne row hne).trans hfound, ⟨rfl, rfl⟩, hstatus⟩
  · intro t found hfound hstatus
    by_cases heq : t = tradeId
    · refine Or.inr ?_
      intro before hbefore
      rw [heq, hfree] at hbefore
      cases hbefore
    · rw [get_set_row_of_ne row heq] at hfound
      exact Or.inl ⟨found, hfound, ⟨rfl, rfl⟩, hstatus⟩

theorem MonitorMove.tableKeeps {cfg : MonitorConfig} {s s' : MonitorRun} {op : MonitorOp}
    (hmove : MonitorMove cfg s op s') : TableKeeps cfg s.table s'.table := by
  cases hmove with
  | updated hpass hfound =>
      apply TableKeeps.modify
      · intro row _
        exact ⟨⟨rfl, rfl⟩, by simp⟩
      · intro row hopen
        cases hopen
  | inserted hfree =>
      exact TableKeeps.insert hfree _
  | promoted =>
      apply TableKeeps.modify
      · intro row hstatus
        rw [promotedRow, if_neg hstatus]
        exact ⟨⟨rfl, rfl⟩, hstatus⟩
      · intro row hopen
        by_cases hpending : row.status = .pending
        · exact Or.inr hpending
        · rw [promotedRow, if_neg hpending] at hopen
          exact Or.inl hopen
  | ended =>
      apply TableKeeps.modify
      · intro row hstatus
        refine ⟨⟨rfl, rfl⟩, ?_⟩
        cases hrow : row.status with
        | pending =>
            exact absurd hrow hstatus
        | _ =>
            simp [endedRow, hrow, endedStatus]
      · intro row hopen
        cases hrow : row.status with
        | open_ =>
            exact Or.inl rfl
        | pending =>
            exact Or.inr rfl
        | _ =>
            simp [endedRow, hrow, endedStatus] at hopen
  | _ =>
      exact TableKeeps.refl cfg s.table

/-!
# The invariant
-/

/-- The count of an open trade is at most the number of closes at which reads lacked
its ticket since the last sighting, and below it while a read without it is in hand. -/
structure AbsenceKept (cfg : MonitorConfig) (s : MonitorRun) : Prop where
  latest : s.held.Forall fun _ x => exists older, s.reads x.scope = x.read :: older
  single : s.held.Distinct HeldRead.scope
  known : forall t, 0 < s.misses t -> exists row, s.table.get t = some row ∧
    row.status ≠ .pending ∧ row.mt5Ticket ≠ none
  snapshots : s.held.Forall fun _ x => forall todo, todo ∈ x.todo ->
    (todo.map Prod.fst).Nodup ∧ forall e, e ∈ todo ->
      e.2.scope cfg = some x.scope ∧ e.2.mt5Ticket ≠ none ∧
        exists row, s.table.get e.1 = some row ∧ SameTrade cfg row e.2 ∧ row.status ≠ .pending
  counted : forall t row scope, s.table.get t = some row -> row.status = .open_ ->
    row.scope cfg = some scope ->
    (forall id x, s.held id = some x -> x.scope = scope -> ¬ x.Awaits t) ->
      s.misses t ≤ missedCloses row.mt5Ticket (s.reads scope)
  waiting : s.held.Forall fun _ x => forall t row, x.Awaits t ->
    s.table.get t = some row -> row.scope cfg = some x.scope ->
    (x.todo = none -> row.status = .open_) -> ¬ Listed x.read.tickets row.mt5Ticket ->
      s.misses t < missedCloses row.mt5Ticket (s.reads x.scope)

section Steps

variable {cfg : MonitorConfig} {s s' : MonitorRun}

theorem AbsenceKept.misses_eq_zero (h : AbsenceKept cfg s) {t : Nat}
    (hnone : forall row, s.table.get t = some row -> row.status ≠ .pending ->
      row.mt5Ticket = none) : s.misses t = 0 := by
  by_contra hpos
  rcases h.known t (Nat.pos_of_ne_zero hpos) with ⟨row, hrow, hstatus, hticket⟩
  exact hticket (hnone row hrow hstatus)

theorem AbsenceKept.snapshot_row (h : AbsenceKept cfg s) {id : Nat} {x : HeldRead}
    (hx : s.held id = some x) {todo : List (Nat × MonitorRow)} (htodo : x.todo = some todo)
    {t : Nat} (ht : t ∈ todo.map Prod.fst) :
    exists e row, e ∈ todo ∧ e.1 = t ∧ e.2.scope cfg = some x.scope ∧ e.2.mt5Ticket ≠ none ∧
      s.table.get t = some row ∧ SameTrade cfg row e.2 ∧ row.status ≠ .pending := by
  rcases List.mem_map.mp ht with ⟨e, he, rfl⟩
  rcases (h.snapshots id x hx todo htodo).2 e he with ⟨hscope, hticket, row, hrow⟩
  exact ⟨e, row, he, rfl, hscope, hticket, hrow⟩

theorem AbsenceKept.zero_lt_missed (h : AbsenceKept cfg s) {id : Nat} {x : HeldRead}
    (hx : s.held id = some x) {ticket : Option Nat} (hunlisted : ¬ Listed x.read.tickets ticket) :
    0 < missedCloses ticket (s.reads x.scope) := by
  rcases h.latest id x hx with ⟨older, holder⟩
  rw [holder]
  exact missedCloses_pos older hunlisted

theorem AbsenceKept.same (h : AbsenceKept cfg s)
    (hreads : s'.reads = s.reads) (hcounts : s'.absenceCounts = s.absenceCounts)
    (hheld : s'.held = s.held) (htable : TableKeeps cfg s.table s'.table) :
    AbsenceKept cfg s' := by
  have hmisses : forall t, s'.misses t = s.misses t := by
    intro t
    rw [MonitorRun.misses, hcounts]
    rfl
  have hopened : forall t row', s'.table.get t = some row' -> row'.status = .open_ ->
      s.misses t = 0 ∨
        exists row, s.table.get t = some row ∧ SameTrade cfg row' row ∧ row.status = .open_ := by
    intro t row' hrow' hstatus
    rcases htable.backward t row' hrow' hstatus with hold | hpending
    · exact Or.inr hold
    · refine Or.inl (h.misses_eq_zero ?_)
      intro row hrow hne
      exact absurd (hpending row hrow) hne
  constructor
  · rw [hheld, hreads]
    exact h.latest
  · rw [hheld]
    exact h.single
  · intro t hpos
    rw [hmisses] at hpos
    rcases h.known t hpos with ⟨row, hrow, hstatus, hticket⟩
    rcases htable.forward t row hrow hstatus with ⟨row', hrow', hsame, hstatus'⟩
    refine ⟨row', hrow', hstatus', ?_⟩
    rw [hsame.2]
    exact hticket
  · rw [hheld]
    intro id x hx todo htodo
    rcases h.snapshots id x hx todo htodo with ⟨hnodup, hrows⟩
    refine ⟨hnodup, ?_⟩
    intro e he
    rcases hrows e he with ⟨hscope, hticket, row, hrow, hsame, hstatus⟩
    rcases htable.forward e.1 row hrow hstatus with ⟨row', hrow', hsame', hstatus'⟩
    exact ⟨hscope, hticket, row', hrow', ⟨hsame'.1.trans hsame.1, hsame'.2.trans hsame.2⟩,
      hstatus'⟩
  · intro t row' scope hrow' hstatus hscope hfree
    rw [hheld] at hfree
    rw [hmisses, hreads]
    rcases hopened t row' hrow' hstatus with hzero | ⟨row, hrow, hsame, hopen⟩
    · rw [hzero]
      exact Nat.zero_le _
    · rw [hsame.2]
      exact h.counted t row scope hrow hopen (hsame.1.symm.trans hscope) hfree
  · rw [hheld]
    intro id x hx t row' hawaits hrow' hscope htodo hunlisted
    rw [hmisses, hreads]
    cases hcase : x.todo with
    | none =>
        rcases hopened t row' hrow' (htodo hcase) with hzero | ⟨row, hrow, hsame, hopen⟩
        · rw [hzero]
          exact h.zero_lt_missed hx hunlisted
        · rw [hsame.2] at hunlisted ⊢
          exact h.waiting id x hx t row hawaits hrow (hsame.1.symm.trans hscope)
            (fun _ => hopen) hunlisted
    | some todo =>
        rcases h.snapshot_row hx hcase (hawaits todo hcase) with
          ⟨e, row, -, -, -, -, hrow, -, hstatus⟩
        rcases htable.forward t row hrow hstatus with ⟨found, hfound, hsame, -⟩
        rw [hrow'] at hfound
        cases hfound
        rw [hsame.2] at hunlisted ⊢
        refine h.waiting id x hx t row hawaits hrow (hsame.1.symm.trans hscope) ?_ hunlisted
        intro hnone
        rw [hcase] at hnone
        cases hnone

theorem mem_openTrades {table : TradeTable} {scope : Scope} {t : Nat} {row : MonitorRow} :
    (t, row) ∈ table.openTrades cfg scope ↔
      table.get t = some row ∧ Queried cfg scope row := by
  rw [TradeTable.openTrades, List.mem_filter, decide_eq_true_eq]
  constructor
  · rintro ⟨hmem, hqueried⟩
    exact ⟨InsertionMap.get_of_mem table.nodup hmem, hqueried⟩
  · rintro ⟨hget, hqueried⟩
    exact ⟨InsertionMap.mem_of_get hget, hqueried⟩

theorem AbsenceKept.read (h : AbsenceKept cfg s) {id : Nat} {scope : Scope} (rest : List Scope)
    (tickets : List Nat) (hidle : s.held id = none)
    (hturn : forall other x, s.held other = some x -> x.scope ≠ scope)
    (hnew : forall e, e ∈ s.table.openTrades cfg scope -> ¬ Listed tickets e.2.mt5Ticket ->
      s.closes ∉ missCloses e.2.mt5Ticket (s.reads scope)) :
    AbsenceKept cfg (s.read id scope rest (some tickets)) := by
  have hheld : (s.read id scope rest (some tickets)).held =
      s.held.put id
        { scope := scope, read := { close := s.closes, tickets := tickets }, todo := none } :=
    InFlight.view_put rfl
  have hself : (s.read id scope rest (some tickets)).reads scope =
      { close := s.closes, tickets := tickets } :: s.reads scope := if_pos rfl
  have hother : forall sc, sc ≠ scope ->
      (s.read id scope rest (some tickets)).reads sc = s.reads sc := fun sc hne => if_neg hne
  constructor
  · rw [hheld]
    intro other x hx
    rcases InFlight.put_cases hx with ⟨-, rfl⟩ | ⟨-, hold⟩
    · exact ⟨s.reads scope, hself⟩
    · rw [hother x.scope (hturn other x hold)]
      exact h.latest other x hold
  · rw [hheld]
    exact h.single.put fun other x _ hx => hturn other x hx
  · exact h.known
  · rw [hheld]
    refine h.snapshots.put ?_
    intro todo htodo
    cases htodo
  · intro t row sc hrow hstatus hscope hfree
    rw [hheld] at hfree
    by_cases heq : sc = scope
    · refine absurd ?_ (hfree id _ (InFlight.put_self _ _ _) heq.symm)
      intro todo htodo
      cases htodo
    · rw [hother sc heq]
      refine h.counted t row sc hrow hstatus hscope ?_
      intro other x hx hsame
      have hne : other ≠ id := by
        intro hid
        rw [hid, hidle] at hx
        cases hx
      exact hfree other x ((InFlight.put_of_ne _ _ hne).trans hx) hsame
  · rw [hheld]
    intro other x hx t row hawaits hrow hscope htodo hunlisted
    rcases InFlight.put_cases hx with ⟨-, rfl⟩ | ⟨-, hold⟩
    · rw [hself]
      show s.misses t < _
      by_cases hticket : row.mt5Ticket = none
      · have hzero : s.misses t = 0 := by
          apply h.misses_eq_zero
          intro found hfound _
          rw [Option.some.inj (hfound.symm.trans hrow)]
          exact hticket
        rw [hzero]
        exact missedCloses_pos _ hunlisted
      · have hopen : (t, row) ∈ s.table.openTrades cfg scope :=
          mem_openTrades.mpr ⟨hrow, hscope, htodo rfl, hticket⟩
        rw [missedCloses_new hunlisted (hnew (t, row) hopen hunlisted)]
        apply Nat.lt_succ_of_le
        refine h.counted t row scope hrow (htodo rfl) hscope ?_
        intro j y hj hsame
        exact absurd hsame (hturn j y hj)
    · rw [hother x.scope (hturn other x hold)]
      exact h.waiting other x hold t row hawaits hrow hscope htodo hunlisted

theorem AbsenceKept.release (h : AbsenceKept cfg s) {id : Nat} {x : HeldRead}
    {scopes : List Scope} (hx : s.held id = some x)
    (hdone : forall t row, s.table.get t = some row -> row.status = .open_ ->
      row.scope cfg = some x.scope -> x.Awaits t -> 0 < s.misses t ->
        ¬ Listed x.read.tickets row.mt5Ticket) :
    AbsenceKept cfg (s.move id scopes .between) := by
  have hheld : (s.move id scopes .between).held = s.held.drop id := InFlight.view_put_none rfl
  constructor
  · rw [hheld]
    exact h.latest.drop id
  · rw [hheld]
    exact h.single.drop id
  · exact h.known
  · rw [hheld]
    exact h.snapshots.drop id
  · intro t row scope hrow hstatus hscope hfree
    show s.misses t ≤ missedCloses row.mt5Ticket (s.reads scope)
    rw [hheld] at hfree
    by_cases hcase : x.scope = scope ∧ x.Awaits t
    · rcases hcase with ⟨hsame, hawaits⟩
      subst hsame
      rcases Nat.eq_zero_or_pos (s.misses t) with hzero | hpos
      · rw [hzero]
        exact Nat.zero_le _
      · have hunlisted := hdone t row hrow hstatus hscope hawaits hpos
        exact Nat.le_of_lt
          (h.waiting id x hx t row hawaits hrow hscope (fun _ => hstatus) hunlisted)
    · refine h.counted t row scope hrow hstatus hscope ?_
      intro other y hy hsame hawaits
      by_cases hid : other = id
      · rw [hid, hx] at hy
        cases hy
        exact hcase ⟨hsame, hawaits⟩
      · exact hfree other y ((InFlight.drop_of_ne _ hid).trans hy) hsame hawaits
  · rw [hheld]
    exact h.waiting.drop id

theorem AbsenceKept.query (h : AbsenceKept cfg s) {id : Nat} {scopes : List Scope}
    {scope : Scope} {read : BrokerRead}
    (hx : s.held id = some { scope := scope, read := read, todo := none }) :
    AbsenceKept cfg (s.move id scopes (.working scope read (s.table.openTrades cfg scope))) := by
  have hheld : (s.move id scopes (.working scope read (s.table.openTrades cfg scope))).held =
      s.held.put id
        { scope := scope, read := read, todo := some (s.table.openTrades cfg scope) } :=
    InFlight.view_put rfl
  constructor
  · rw [hheld]
    have hlatest := h.latest id _ hx
    exact h.latest.put hlatest
  · rw [hheld]
    exact h.single.put_same hx rfl
  · exact h.known
  · rw [hheld]
    refine h.snapshots.put ?_
    intro todo htodo
    cases htodo
    refine ⟨s.table.nodup.sublist (List.filter_sublist.map Prod.fst), ?_⟩
    intro e he
    rcases mem_openTrades.mp he with ⟨hget, hscope, hstatus, hticket⟩
    refine ⟨hscope, hticket, e.2, hget, ⟨rfl, rfl⟩, ?_⟩
    rw [hstatus]
    decide
  · intro t row sc hrow hstatus hscope hfree
    show s.misses t ≤ missedCloses row.mt5Ticket (s.reads sc)
    rw [hheld] at hfree
    by_cases heq : sc = scope
    · subst heq
      have hunqueried : row.mt5Ticket = none := by
        by_contra hticket
        apply hfree id _ (InFlight.put_self _ _ _) rfl
        intro todo htodo
        cases htodo
        exact List.mem_map.mpr
          ⟨(t, row), mem_openTrades.mpr ⟨hrow, hscope, hstatus, hticket⟩, rfl⟩
      have hzero : s.misses t = 0 := by
        apply h.misses_eq_zero
        intro found hfound _
        rw [Option.some.inj (hfound.symm.trans hrow)]
        exact hunqueried
      rw [hzero]
      exact Nat.zero_le _
    · refine h.counted t row sc hrow hstatus hscope ?_
      intro other y hy hsame
      by_cases hid : other = id
      · rw [hid, hx] at hy
        cases hy
        exact absurd hsame.symm heq
      · exact hfree other y ((InFlight.put_of_ne _ _ hid).trans hy) hsame
  · rw [hheld]
    refine h.waiting.put ?_
    intro t row hawaits hrow hscope _ hunlisted
    rcases List.mem_map.mp (hawaits _ rfl) with ⟨e, he, rfl⟩
    rcases mem_openTrades.mp he with ⟨hget, -, hstatus, -⟩
    have hsame : e.2 = row := Option.some.inj (hget.symm.trans hrow)
    refine h.waiting id _ hx e.1 row ?_ hrow hscope ?_ hunlisted
    · intro todo htodo
      cases htodo
    · intro _
      rw [← hsame]
      exact hstatus

theorem AbsenceKept.visit (h : AbsenceKept cfg s) {id : Nat} {scope : Scope}
    {read : BrokerRead} {trade : Nat × MonitorRow} {todo : List (Nat × MonitorRow)}
    (hx : s.held id = some { scope := scope, read := read, todo := some (trade :: todo) })
    {pass : Pass} (hpass : pass.held = some { scope := scope, read := read, todo := some todo })
    {counts : InsertionMap Nat Nat}
    (hothers : forall t, t ≠ trade.1 -> counts.get t = s.absenceCounts.get t)
    (hcount : (counts.get trade.1).getD 0 ≤ missedCloses trade.2.mt5Ticket (s.reads scope)) :
    AbsenceKept cfg { s with passes := s.passes.put id pass, absenceCounts := counts } := by
  have hheld : MonitorRun.held { s with passes := s.passes.put id pass, absenceCounts := counts } =
      s.held.put id { scope := scope, read := read, todo := some todo } := InFlight.view_put hpass
  have hmisses : forall t, t ≠ trade.1 ->
      MonitorRun.misses { s with passes := s.passes.put id pass, absenceCounts := counts } t =
        s.misses t := fun t hne => congrArg (fun n => Option.getD n 0) (hothers t hne)
  rcases h.snapshots id _ hx (trade :: todo) rfl with ⟨hnodup, hrows⟩
  rw [List.map_cons, List.nodup_cons] at hnodup
  rcases hrows trade List.mem_cons_self with
    ⟨htradeScope, htradeTicket, tradeRow, htradeRow, htradeSame, htradeStatus⟩
  constructor
  · rw [hheld]
    have hlatest := h.latest id _ hx
    exact h.latest.put hlatest
  · rw [hheld]
    exact h.single.put_same hx rfl
  · intro t hpos
    by_cases heq : t = trade.1
    · rw [heq]
      refine ⟨tradeRow, htradeRow, htradeStatus, ?_⟩
      rw [htradeSame.2]
      exact htradeTicket
    · rw [hmisses t heq] at hpos
      exact h.known t hpos
  · rw [hheld]
    refine h.snapshots.put ?_
    intro rest hrest
    cases hrest
    exact ⟨hnodup.2, fun e he => hrows e (List.mem_cons_of_mem _ he)⟩
  · intro t row sc hrow hstatus hscope hfree
    rw [hheld] at hfree
    by_cases heq : t = trade.1
    · subst heq
      cases Option.some.inj (htradeRow.symm.trans hrow)
      have hsame : sc = scope := by
        rw [htradeSame.1, htradeScope] at hscope
        exact (Option.some.inj hscope).symm
      subst hsame
      rw [htradeSame.2]
      exact hcount
    · rw [hmisses t heq]
      refine h.counted t row sc hrow hstatus hscope ?_
      intro other y hy hsame hawaits
      by_cases hid : other = id
      · rw [hid, hx] at hy
        cases hy
        apply hfree id _ (InFlight.put_self _ _ _) hsame
        intro rest hrest
        cases hrest
        exact (List.mem_cons.mp (hawaits _ rfl)).resolve_left heq
      · exact hfree other y ((InFlight.put_of_ne _ _ hid).trans hy) hsame hawaits
  · rw [hheld]
    intro other y hy t row hawaits hrow hscope htodo hunlisted
    rcases InFlight.put_cases hy with ⟨-, rfl⟩ | ⟨hne, hold⟩
    · have hin : t ∈ todo.map Prod.fst := hawaits todo rfl
      have heq : t ≠ trade.1 := by
        intro heq
        exact hnodup.1 (heq ▸ hin)
      rw [hmisses t heq]
      refine h.waiting id _ hx t row ?_ hrow hscope ?_ hunlisted
      · intro rest hrest
        cases hrest
        exact List.mem_cons_of_mem _ hin
      · intro hnone
        cases hnone
    · have heq : t ≠ trade.1 := by
        intro heq
        rw [heq] at hrow
        cases Option.some.inj (htradeRow.symm.trans hrow)
        rw [htradeSame.1, htradeScope] at hscope
        exact hne (h.single other y id _ hold hx (Option.some.inj hscope).symm)
      rw [hmisses t heq]
      exact h.waiting other y hold t row hawaits hrow hscope htodo hunlisted

theorem AbsenceKept.visited_count (h : AbsenceKept cfg s) {id : Nat} {scope : Scope}
    {read : BrokerRead} {trade : Nat × MonitorRow} {todo : List (Nat × MonitorRow)}
    (hx : s.held id = some { scope := scope, read := read, todo := some (trade :: todo) })
    (hunlisted : ¬ Listed read.tickets trade.2.mt5Ticket) :
    s.misses trade.1 < missedCloses trade.2.mt5Ticket (s.reads scope) := by
  rcases (h.snapshots id _ hx (trade :: todo) rfl).2 trade List.mem_cons_self with
    ⟨hscope, -, row, hrow, hsame, -⟩
  rw [← hsame.2] at hunlisted ⊢
  refine h.waiting id _ hx trade.1 row ?_ hrow (hsame.1.trans hscope) ?_ hunlisted
  · intro rest hrest
    cases hrest
    exact List.mem_cons_self
  · intro hnone
    cases hnone

end Steps

/-!
# Whole runs
-/

theorem held_of_pass {s : MonitorRun} {id : Nat} {pass : Pass} (h : s.passes id = some pass) :
    s.held id = pass.held := InFlight.view_eq h

theorem readScope_of_pass {s : MonitorRun} {id : Nat} {scope : Scope} {rest : List Scope}
    (h : s.passes id = some { scopes := scope :: rest, phase := .between })
    (tickets : List Nat) : s.readScope (.read id (some tickets)) = some scope := by
  simp only [MonitorRun.readScope, h]

theorem idle_of_readScope {s : MonitorRun} {op : MonitorOp} {scope : Scope}
    (h : s.readScope op = some scope) :
    exists id tickets rest, op = .read id (some tickets) ∧
      s.passes id = some { scopes := scope :: rest, phase := .between } := by
  cases op with
  | read id answer =>
      cases answer with
      | none =>
          cases h
      | some tickets =>
          unfold MonitorRun.readScope at h
          dsimp only at h
          split at h
          · next found rest hpass =>
              cases h
              exact ⟨id, tickets, rest, rfl, hpass⟩
          · cases h
  | _ =>
      cases h

theorem held_move_same {s : MonitorRun} {id : Nat} {pass : Pass} (h : s.passes id = some pass)
    {scopes : List Scope} {phase : PassPhase}
    (hsame : Pass.held { scopes := scopes, phase := phase } = pass.held) :
    (s.move id scopes phase).held = s.held :=
  InFlight.view_put_same (hsame.trans (held_of_pass h).symm)

theorem AbsenceKept.step {cfg : MonitorConfig} {s s' : MonitorRun} {op : MonitorOp}
    (h : AbsenceKept cfg s) (hmove : MonitorMove cfg s op s') (hturn : ReadsInTurn cfg s op) :
    AbsenceKept cfg s' := by
  have htable := hmove.tableKeeps
  cases hmove with
  | idle =>
      exact h
  | m15Close =>
      exact h.same rfl rfl rfl htable
  | started hfree =>
      exact h.same rfl rfl
        (InFlight.view_put_same (InFlight.view_absent hfree).symm) htable
  | emptied hpass =>
      refine h.same rfl rfl ?_ htable
      rw [MonitorRun.held, InFlight.view_drop]
      exact InFlight.drop_absent (InFlight.view_eq hpass)
  | unread hpass =>
      exact h.same rfl rfl
        (held_move_same hpass rfl) htable
  | @read id scope rest tickets hpass =>
      have hscope := readScope_of_pass hpass tickets
      exact h.read rest tickets (held_of_pass hpass) (hturn.1 _ hscope)
        (hturn.2.1 _ hscope tickets rfl)
  | queried hpass =>
      exact h.query (held_of_pass hpass)
  | unqueried hpass =>
      apply h.release (held_of_pass hpass)
      intro t row hrow _ hscope _ hpos
      exact hturn.2.2 _ (held_of_pass hpass) (t, row) (InsertionMap.mem_of_get hrow) hscope hpos
  | looped hpass =>
      apply h.release (held_of_pass hpass)
      intro t row _ _ _ hawaits _
      cases hawaits [] rfl
  | sighted hpass hlisted =>
      apply h.visit (held_of_pass hpass) rfl
      · intro t hne
        rw [InsertionMap.get_erase, if_neg hne]
      · rw [InsertionMap.get_erase, if_pos rfl]
        exact Nat.zero_le _
  | missed hpass hunlisted hfew =>
      apply h.visit (held_of_pass hpass) rfl
      · intro t hne
        exact InsertionMap.get_set_of_ne _ _ hne
      · rw [InsertionMap.get_set_self]
        exact h.visited_count (held_of_pass hpass) hunlisted
  | confirmed hpass hnext =>
      apply h.visit (held_of_pass hpass) rfl
      · intro t hne
        rw [InsertionMap.get_erase, if_neg hne]
      · rw [InsertionMap.get_erase, if_pos rfl]
        exact Nat.zero_le _
  | asked hpass =>
      exact h.same rfl rfl
        (held_move_same hpass rfl) htable
  | updated hpass hfound =>
      exact h.same rfl rfl
        (held_move_same hpass rfl) htable
  | abandoned hown hpass =>
      exact h.same rfl rfl
        (held_move_same hpass rfl) htable
  | reported hpass =>
      exact h.same rfl rfl
        (held_move_same hpass rfl) htable
  | inserted hfree =>
      exact h.same rfl rfl rfl htable
  | promoted =>
      exact h.same rfl rfl rfl htable
  | ended =>
      exact h.same rfl rfl rfl htable

theorem finalizesConfirmed_of_kept {cfg : MonitorConfig} {s : MonitorRun} (h : AbsenceKept cfg s)
    (op : MonitorOp) : FinalizesConfirmed cfg s op := by
  intro trade hnext scope hscope
  rcases working_of_nextFinalized hnext with
    ⟨id, scopes, held, read, todo, -, hpass, hunlisted, hthird⟩
  have hx := held_of_pass hpass
  have hsame : held = scope := by
    rcases (h.snapshots id _ hx (trade :: todo) rfl).2 trade List.mem_cons_self with
      ⟨htrade, -⟩
    exact Option.some.inj (htrade.symm.trans hscope)
  subst hsame
  refine ⟨s.reads held, (List.mem_tails _ _).mpr List.suffix_rfl, ?_⟩
  exact Nat.le_trans hthird (h.visited_count hx hunlisted)

theorem startMonitor_absenceKept (cfg : MonitorConfig) (o : LiveSmcOrchestrator)
    (table : TradeTable) : AbsenceKept cfg (startMonitor o table) := by
  have hnone : forall id, (startMonitor o table).held id = none := fun _ => rfl
  constructor
  · intro id x hx
    rw [hnone id] at hx
    cases hx
  · exact InFlight.distinct_empty _
  · intro t hpos
    cases hpos
  · intro id x hx
    rw [hnone id] at hx
    cases hx
  · intro t row scope _ _ _ _
    exact Nat.zero_le _
  · intro id x hx
    rw [hnone id] at hx
    cases hx

/-- In every interleaving in which each scope is read by one pass at a time, an open ticket
is missed once a close, and every sighting of a counted trade is used, a trade is finalized
only when its absence is confirmed at three closes. -/
theorem absence_confirmed_over_runs (cfg : MonitorConfig) (o : LiveSmcOrchestrator)
    (table : TradeTable) (ops : List MonitorOp)
    (hturn : EveryStep (monitorStep cfg) (ReadsInTurn cfg) (startMonitor o table) ops) :
    EveryStep (monitorStep cfg) (FinalizesConfirmed cfg) (startMonitor o table) ops := by
  apply everyStep_of_inv (AbsenceKept cfg) _ _ _ hturn
  · intro s op h hop
    exact h.step (monitorStep_move cfg s op) hop
  · intro s op h _
    exact finalizesConfirmed_of_kept h op
  · exact startMonitor_absenceKept cfg o table

/-!
# Three passes at one close
-/

theorem readsAlone_of_one_pass (cfg : MonitorConfig) (o : LiveSmcOrchestrator)
    (table : TradeTable) {ops : List MonitorOp}
    (hops : EveryStep (monitorStep cfg) (fun _ op => OnPassZero op) (startMonitor o table) ops) :
    EveryStep (monitorStep cfg) ReadsAlone (startMonitor o table) ops := by
  apply everyStep_of_inv (fun s : MonitorRun => forall other, other ≠ 0 ->
    s.passes other = none) _ _ _ hops
  · intro s op hnone hop
    exact (monitorStep_move cfg s op).passZero hop hnone
  · intro s op hnone hop scope hscope other x hx
    exfalso
    rcases idle_of_readScope hscope with ⟨id, tickets, rest, rfl, hpass⟩
    have hzero : id = 0 := by
      rcases hop with hzero | hnopass
      · exact Option.some.inj hzero
      · cases hnopass
    subst hzero
    by_cases hother : other = 0
    · rw [hother, held_of_pass hpass] at hx
      cases hx
    · rw [MonitorRun.held, InFlight.view_absent (hnone other hother)] at hx
      cases hx
  · intro other _
    rfl

def sightOfGold (id : Nat) : List MonitorOp :=
  [.reconcileAll id [], .read id (some [7]), .query id true, .visit id] ++ restOfPass id

/-- Two passes at one close find the ticket; then it is missed at that close, the next one
and the third. -/
def passPerClose : List MonitorOp :=
  sightOfGold 0 ++ sightOfGold 0 ++ missOfGold 0 ++ restOfPass 0 ++ [.m15Close] ++ missOfGold 0 ++ restOfPass 0 ++ [.m15Close] ++
    missOfGold 0

theorem absence_confirmed_after_three_closes :
    EveryStep (monitorStep fourPairs) (ReadsInTurn fourPairs) goldMonitor passPerClose ∧
      EveryStep (monitorStep fourPairs) (FinalizesConfirmed fourPairs) goldMonitor
        passPerClose := by
  have halone : EveryStep (monitorStep fourPairs) ReadsAlone goldMonitor passPerClose := by
    apply readsAlone_of_one_pass
    decide +kernel
  have hanew : EveryStep (monitorStep fourPairs) (ReadsAnew fourPairs) goldMonitor passPerClose := by
    decide +kernel
  have hused : EveryStep (monitorStep fourPairs) (SightingsUsed fourPairs) goldMonitor
      passPerClose := by
    decide +kernel
  have hturn := halone.and (hanew.and hused)
  exact ⟨hturn, absence_confirmed_over_runs fourPairs _ goldTable passPerClose hturn⟩

/-- The candles of three pairs are stored at one close, and each starts a pass. -/
def passPerPair : List MonitorOp :=
  missOfGold 0 ++ restOfPass 0 ++ missOfGold 1 ++ restOfPass 1 ++ missOfGold 2

/-- The third pass of one close finalizes the trade. -/
theorem absence_confirmed_within_one_close :
    ¬ EveryStep (monitorStep fourPairs) (FinalizesConfirmed fourPairs) goldMonitor
      passPerPair := by
  decide +kernel

end MonitorPasses
end Live
end Shamarx
