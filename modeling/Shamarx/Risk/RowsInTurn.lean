import Mathlib.Data.List.Nodup
import Shamarx.Risk.DailyRisk

/-!
# Rows in turn

While rows are opened and close events written down in turn, the table stays an
exact day book of the close events written so far, and every day and close event that
is still missing belongs to a call in flight.
-/

namespace Shamarx
namespace Risk

open Foundation
open Foundation.DayBook

def RiskCall.seeks : RiskCall -> Option Int
  | .finding today => some today
  | .findingYesterday today => some today
  | .creating today _ => some today
  | .judging _ => none
  | .flagging _ _ _ _ => none
  | .findingForClose _ event => some event.day
  | .creatingForClose _ event => some event.day
  | .booking _ _ _ => none

def RiskCall.serial : RiskCall -> Option Nat
  | .findingForClose serial _ => some serial
  | .creatingForClose serial _ => some serial
  | .booking _ serial _ => some serial
  | _ => none

def HasDay (s : RiskService) (d : Int) : Prop :=
  exists r, r ∈ s.rows ∧ r.date = d

def CallKnown (s : RiskService) : RiskCall -> Prop
  | .finding today => today ∈ s.activeDays
  | .findingYesterday today => today ∈ s.activeDays
  | .creating today _ => today ∈ s.activeDays
  | .judging _ => True
  | .flagging _ _ _ _ => True
  | .findingForClose serial event =>
      s.arrived[serial]? = some event ∧ event.day ∈ s.activeDays
  | .creatingForClose serial event =>
      s.arrived[serial]? = some event ∧ event.day ∈ s.activeDays
  | .booking row serial event =>
      s.arrived[serial]? = some event ∧
        exists r, r ∈ s.rows ∧ r.id = row.id ∧ r.date = event.day

structure RiskInv (s : RiskService) : Prop where
  exact : Exact losing (s.arrived.drop s.booked) (s.rows.map RiskRow.dayRow)
    (s.arrived.take s.booked)
  booked_le : s.booked ≤ s.arrived.length
  ids : (s.rows.map RiskRow.id).Nodup
  idsLt : forall r, r ∈ s.rows -> r.id < s.nextId
  rowsActive : forall r, r ∈ s.rows -> r.date ∈ s.activeDays
  known : InFlight.Forall (fun _ c => CallKnown s c) s.calls
  callsLt : InFlight.Forall (fun call _ => call < s.nextCall) s.calls
  pending : forall k, s.booked ≤ k -> k < s.arrived.length ->
    InFlight.Any (fun c => c.serial = some k) s.calls
  sought : forall d, d ∈ s.activeDays ->
    HasDay s d ∨ InFlight.Any (fun c => c.seeks = some d) s.calls

theorem riskInv_start (day : Int) : RiskInv (RiskService.start day) where
  exact := exact_nil losing []
  booked_le := le_refl _
  ids := List.nodup_nil
  idsLt := by simp [RiskService.start]
  rowsActive := by simp [RiskService.start]
  known := InFlight.forall_empty _
  callsLt := InFlight.forall_empty _
  pending := by simp [RiskService.start]
  sought := by simp [RiskService.start]

/-!
# Calls that start, move on and end
-/

structure Grows (s s' : RiskService) : Prop where
  rows : forall r, r ∈ s.rows -> exists r', r' ∈ s'.rows ∧ r'.id = r.id ∧ r'.date = r.date
  active : forall d, d ∈ s.activeDays -> d ∈ s'.activeDays
  arrived : forall (k : Nat) (e : CloseEvent), s.arrived[k]? = some e -> s'.arrived[k]? = some e

theorem Grows.known {s s' : RiskService} (h : Grows s s') {c : RiskCall}
    (hc : CallKnown s c) : CallKnown s' c := by
  cases c with
  | finding today =>
      exact h.active _ hc
  | findingYesterday today =>
      exact h.active _ hc
  | creating today losses =>
      exact h.active _ hc
  | judging row =>
      exact trivial
  | flagging id daily consecutive openPositions =>
      exact trivial
  | findingForClose serial event =>
      exact ⟨h.arrived _ _ hc.1, h.active _ hc.2⟩
  | creatingForClose serial event =>
      exact ⟨h.arrived _ _ hc.1, h.active _ hc.2⟩
  | booking row serial event =>
      rcases hc with ⟨hevent, r, hr, hid, hdate⟩
      rcases h.rows r hr with ⟨r', hr', hid', hdate'⟩
      exact ⟨h.arrived _ _ hevent, r', hr', hid'.trans hid, hdate'.trans hdate⟩

theorem Grows.hasDay {s s' : RiskService} (h : Grows s s') {d : Int} (hd : HasDay s d) :
    HasDay s' d := by
  rcases hd with ⟨r, hr, hdate⟩
  rcases h.rows r hr with ⟨r', hr', -, hdate'⟩
  exact ⟨r', hr', hdate'.trans hdate⟩

section Moves

variable {s : RiskService} {call : Nat} {p q : RiskCall}

theorem RiskInv.passDays (h : RiskInv s) (n : Nat) : RiskInv { s with day := s.day + n } :=
  { exact := h.exact
    booked_le := h.booked_le
    ids := h.ids
    idsLt := h.idsLt
    rowsActive := h.rowsActive
    known := h.known.imp fun _ c hc => by cases c <;> exact hc
    callsLt := h.callsLt
    pending := h.pending
    sought := h.sought }

theorem RiskInv.free (h : RiskInv s) : s.calls s.nextCall = none := by
  cases hcall : s.calls s.nextCall with
  | none =>
      rfl
  | some c =>
      exact absurd (h.callsLt _ c hcall) (lt_irrefl _)

theorem RiskInv.sought_begin (h : RiskInv s) (hseeks : q.seeks = some s.day) :
    forall d, d ∈ (s.begin q).activeDays ->
      HasDay (s.begin q) d ∨ InFlight.Any (fun c => c.seeks = some d) (s.begin q).calls := by
  intro d hd
  rcases List.mem_append.mp hd with hold | hnew
  · rcases h.sought d hold with hrow | hcall
    · exact Or.inl hrow
    · exact Or.inr (hcall.put_free h.free q)
  · rw [List.mem_singleton.mp hnew]
    exact Or.inr (InFlight.any_put_self s.calls s.nextCall hseeks)

theorem RiskInv.getRiskState (h : RiskInv s) : RiskInv (s.begin (.finding s.day)) := by
  have hgrows : Grows s (s.begin (.finding s.day)) :=
    ⟨fun r hr => ⟨r, hr, rfl, rfl⟩, fun d hd => List.mem_append_left _ hd, fun _ _ he => he⟩
  constructor
  case exact => exact h.exact
  case booked_le => exact h.booked_le
  case ids => exact h.ids
  case idsLt => exact h.idsLt
  case rowsActive => exact fun r hr => hgrows.active _ (h.rowsActive r hr)
  case known =>
    apply InFlight.Forall.put
    · exact h.known.imp fun _ c hc => hgrows.known hc
    · exact List.mem_append_right _ (List.mem_singleton_self _)
  case callsLt =>
    apply InFlight.Forall.put
    · exact h.callsLt.imp fun _ c hc => Nat.lt_succ_of_lt hc
    · exact Nat.lt_succ_self _
  case pending =>
    intro k hbooked hk
    exact (h.pending k hbooked hk).put_free h.free _
  case sought => exact h.sought_begin rfl

theorem RiskInv.tradeClosed (h : RiskInv s) (pnl : ℚ) : RiskInv (s.tradeClosed pnl) := by
  have hgrows : Grows s (s.tradeClosed pnl) := by
    refine ⟨fun r hr => ⟨r, hr, rfl, rfl⟩, fun d hd => List.mem_append_left _ hd, ?_⟩
    intro k e he
    rw [RiskService.tradeClosed]
    exact (List.getElem?_append_left (List.getElem?_eq_some_iff.mp he).1).trans he
  have hlength : (s.tradeClosed pnl).arrived.length = s.arrived.length + 1 :=
    List.length_append
  constructor
  case exact =>
    change Exact losing ((s.arrived ++ _).drop s.booked) _ ((s.arrived ++ _).take s.booked)
    rw [List.take_append_of_le_length h.booked_le, List.drop_append_of_le_length h.booked_le]
    exact h.exact.moreDue fun e he => List.mem_append_left _ he
  case booked_le =>
    rw [hlength]
    exact Nat.le_succ_of_le h.booked_le
  case ids => exact h.ids
  case idsLt => exact h.idsLt
  case rowsActive => exact fun r hr => hgrows.active _ (h.rowsActive r hr)
  case known =>
    apply InFlight.Forall.put
    · exact h.known.imp fun _ c hc => hgrows.known hc
    · refine ⟨?_, List.mem_append_right _ (List.mem_singleton_self _)⟩
      exact List.getElem?_concat_length
  case callsLt =>
    apply InFlight.Forall.put
    · exact h.callsLt.imp fun _ c hc => Nat.lt_succ_of_lt hc
    · exact Nat.lt_succ_self _
  case pending =>
    intro k hbooked hk
    rw [hlength] at hk
    rcases Nat.lt_succ_iff_lt_or_eq.mp hk with hold | hnew
    · exact (h.pending k hbooked hold).put_free h.free _
    · rw [hnew]
      exact InFlight.any_put_self s.calls s.nextCall rfl
  case sought => exact h.sought_begin rfl

/-- A call moves on: it keeps its close event, and keeps looking for its day unless the
day has a row. -/
theorem RiskInv.advance (h : RiskInv s) (hcall : s.calls call = some p)
    (hknown : CallKnown s q) (hserial : q.serial = p.serial)
    (hseeks : forall d, p.seeks = some d -> q.seeks = some d ∨ HasDay s d) :
    RiskInv (s.advance call q) := by
  have hgrows : Grows s (s.advance call q) :=
    ⟨fun r hr => ⟨r, hr, rfl, rfl⟩, fun _ hd => hd, fun _ _ he => he⟩
  constructor
  case exact => exact h.exact
  case booked_le => exact h.booked_le
  case ids => exact h.ids
  case idsLt => exact h.idsLt
  case rowsActive => exact h.rowsActive
  case known =>
    exact InFlight.Forall.put (h.known.imp fun _ c hc => hgrows.known hc) (hgrows.known hknown)
  case callsLt => exact InFlight.Forall.put h.callsLt (h.callsLt call p hcall)
  case pending =>
    intro k hbooked hk
    exact (h.pending k hbooked hk).put hcall hserial.trans
  case sought =>
    intro d hd
    by_cases hrow : HasDay s d
    · exact Or.inl (hgrows.hasDay hrow)
    · refine Or.inr (((h.sought d hd).resolve_left hrow).put hcall ?_)
      intro hday
      exact (hseeks d hday).resolve_right hrow

theorem RiskInv.finish (h : RiskInv s) (hcall : s.calls call = some p)
    (hserial : p.serial = none) (hseeks : p.seeks = none) : RiskInv (s.finish call) := by
  have hgrows : Grows s (s.finish call) :=
    ⟨fun r hr => ⟨r, hr, rfl, rfl⟩, fun _ hd => hd, fun _ _ he => he⟩
  constructor
  case exact => exact h.exact
  case booked_le => exact h.booked_le
  case ids => exact h.ids
  case idsLt => exact h.idsLt
  case rowsActive => exact h.rowsActive
  case known => exact InFlight.Forall.drop (h.known.imp fun _ c hc => hgrows.known hc) call
  case callsLt => exact InFlight.Forall.drop h.callsLt call
  case pending =>
    intro k hbooked hk
    apply (h.pending k hbooked hk).drop hcall
    rw [hserial]
    exact nofun
  case sought =>
    intro d hd
    by_cases hrow : HasDay s d
    · exact Or.inl (hgrows.hasDay hrow)
    · refine Or.inr (((h.sought d hd).resolve_left hrow).drop hcall ?_)
      rw [hseeks]
      exact nofun

end Moves

/-!
# Rows that are opened and written
-/

section Rows

variable {s : RiskService} {call : Nat}

theorem RiskInv.create (h : RiskInv s) {date : Int} {losses : Nat}
    (hopen : OpensInTurn s date losses) (hactive : date ∈ s.activeDays) :
    RiskInv (s.create date losses) := by
  have hgrows : Grows s (s.create date losses) :=
    ⟨fun r hr => ⟨r, List.mem_append_left _ hr, rfl, rfl⟩, fun _ hd => hd, fun _ _ he => he⟩
  constructor
  case exact =>
    have hnew : forall r, r ∈ s.rows.map RiskRow.dayRow -> r.day < date := by
      intro r hr
      rcases List.mem_map.mp hr with ⟨row, hrow, rfl⟩
      exact hopen.1 row hrow
    change Exact losing _ ((s.rows ++ [s.newRow date losses]).map RiskRow.dayRow) _
    rw [List.map_append]
    exact h.exact.openDay hnew hopen.2
  case booked_le => exact h.booked_le
  case ids =>
    change ((s.rows ++ [s.newRow date losses]).map RiskRow.id).Nodup
    rw [List.map_append, List.nodup_append]
    refine ⟨h.ids, by simp, ?_⟩
    intro id hid other hother
    rcases List.mem_map.mp hid with ⟨r, hr, rfl⟩
    rw [List.map_singleton, List.mem_singleton] at hother
    rw [hother]
    exact (h.idsLt r hr).ne
  case idsLt =>
    intro r hr
    rcases List.mem_append.mp hr with hold | hnew
    · exact Nat.lt_succ_of_lt (h.idsLt r hold)
    · rw [List.mem_singleton.mp hnew]
      exact Nat.lt_succ_self _
  case rowsActive =>
    intro r hr
    rcases List.mem_append.mp hr with hold | hnew
    · exact h.rowsActive r hold
    · rw [List.mem_singleton.mp hnew]
      exact hactive
  case known => exact h.known.imp fun _ c hc => hgrows.known hc
  case callsLt => exact h.callsLt
  case pending => exact h.pending
  case sought =>
    intro d hd
    exact (h.sought d hd).imp_left fun hrow => hgrows.hasDay hrow

theorem create_hasDay (s : RiskService) (date : Int) (losses : Nat) :
    HasDay (s.create date losses) date :=
  ⟨s.newRow date losses, List.mem_append_right _ (List.mem_singleton_self _), rfl⟩

theorem grows_update (s : RiskService) (id : Nat) {f : RiskRow -> RiskRow}
    (hf : forall r, (f r).id = r.id ∧ (f r).date = r.date) : Grows s (s.update id f) := by
  refine ⟨?_, fun _ hd => hd, fun _ _ he => he⟩
  intro r hr
  refine ⟨if r.id = id then f r else r, List.mem_map.mpr ⟨r, hr, rfl⟩, ?_⟩
  split_ifs
  · exact hf r
  · exact ⟨rfl, rfl⟩

theorem map_update (s : RiskService) (id : Nat) (f : RiskRow -> RiskRow)
    (g : RiskRow -> image) (hf : forall r, g (f r) = g r) :
    (s.update id f).rows.map g = s.rows.map g := by
  unfold RiskService.update
  rw [List.map_map]
  refine List.map_congr_left fun r _ => ?_
  rw [Function.comp_apply]
  split_ifs
  · exact hf r
  · rfl

theorem forall_rows_update {s : RiskService} {id : Nat} {f : RiskRow -> RiskRow}
    {P : RiskRow -> Prop} (h : forall r, r ∈ s.rows -> P r)
    (hf : forall r, P r -> P (f r)) : forall r, r ∈ (s.update id f).rows -> P r := by
  intro r hr
  rcases List.mem_map.mp hr with ⟨old, hold, rfl⟩
  split_ifs
  · exact hf old (h old hold)
  · exact h old hold

theorem RiskInv.flag (h : RiskInv s) (id : Nat) (daily consecutive : Bool)
    (openPositions : Nat) :
    RiskInv (s.update id (RiskService.flagRow daily consecutive openPositions)) := by
  have hgrows := grows_update s id
    (f := RiskService.flagRow daily consecutive openPositions) fun _ => ⟨rfl, rfl⟩
  constructor
  case exact =>
    rw [map_update s id (RiskService.flagRow daily consecutive openPositions) RiskRow.dayRow
      fun _ => rfl]
    exact h.exact
  case booked_le => exact h.booked_le
  case ids =>
    rw [map_update s id (RiskService.flagRow daily consecutive openPositions) RiskRow.id
      fun _ => rfl]
    exact h.ids
  case idsLt => exact forall_rows_update h.idsLt fun _ hr => hr
  case rowsActive => exact forall_rows_update h.rowsActive fun _ hr => hr
  case known => exact h.known.imp fun _ c hc => hgrows.known hc
  case callsLt => exact h.callsLt
  case pending => exact h.pending
  case sought =>
    intro d hd
    exact (h.sought d hd).imp_left fun hrow => hgrows.hasDay hrow

theorem update_last {front : List RiskRow} {last : RiskRow} (hrows : s.rows = front ++ [last])
    (hids : (s.rows.map RiskRow.id).Nodup) (f : RiskRow -> RiskRow) :
    (s.update last.id f).rows = front ++ [f last] := by
  unfold RiskService.update
  rw [hrows, List.map_append, List.nodup_append] at hids
  rw [hrows, List.map_append, List.map_singleton, if_pos rfl]
  refine congrArg (· ++ _) ((List.map_congr_left ?_).trans (List.map_id front))
  intro r hr
  apply if_neg
  exact hids.2.2 r.id (List.mem_map.mpr ⟨r, hr, rfl⟩) last.id (by simp)

theorem RiskInv.book (h : RiskInv s) {row : RiskRow} {serial : Nat} {event : CloseEvent}
    (hcall : s.calls call = some (.booking row serial event)) (hturn : BooksInTurn s row serial) :
    RiskInv (s.settle call) := by
  rcases hturn with ⟨rfl, hread⟩
  rcases Option.map_eq_some_iff.mp hread with ⟨last, hgetLast, hfields⟩
  rcases List.getLast?_eq_some_iff.mp hgetLast with ⟨front, hrows⟩
  simp only [Prod.mk.injEq] at hfields
  rcases hfields with ⟨hid, hpnl, hlosses⟩
  rcases h.known call _ hcall with ⟨hevent, r, hr, hrid, hdate⟩
  have hlast : last ∈ s.rows := hrows ▸ List.mem_append_right _ (List.mem_singleton_self _)
  have hsame : r = last := List.inj_on_of_nodup_map h.ids hr hlast (hrid.trans hid.symm)
  subst hsame
  have hgrows := grows_update s row.id (f := RiskService.bookRow row event.amount)
    fun _ => ⟨rfl, rfl⟩
  have hsettle : s.settle call =
      { (s.update row.id (RiskService.bookRow row event.amount)).finish call with
        booked := s.booked + 1 } := by
    unfold RiskService.settle
    rw [hcall]
  have hlength := (List.getElem?_eq_some_iff.mp hevent).1
  rw [hsettle]
  constructor
  case exact =>
    have hbefore := h.exact
    have hentry : (⟨r.dayRow.day, event.amount⟩ : CloseEvent) = event := by
      cases event
      exact congrArg (Entry.mk · _) hdate
    have hbooked : RiskRow.dayRow (RiskService.bookRow row event.amount r) =
        DayBook.book losing r.dayRow event.amount := by
      unfold RiskRow.dayRow RiskService.bookRow DayBook.book losing
      dsimp only
      rw [hpnl, hlosses]
      simp
    have hdue : s.arrived.drop s.booked = event :: s.arrived.drop (s.booked + 1) :=
      List.drop_eq_getElem?_toList_append.trans (by rw [hevent]; rfl)
    rw [hrows, List.map_append, hdue, ← hentry] at hbefore
    have hafter := hbefore.book
    change Exact losing _ ((s.update row.id _).rows.map RiskRow.dayRow)
      (s.arrived.take (s.booked + 1))
    rw [← hrid, update_last hrows h.ids, List.map_append, List.map_singleton, hbooked,
      List.take_add_one, hevent]
    rw [hentry] at hafter
    exact hafter
  case booked_le => exact hlength
  case ids =>
    change ((s.update row.id _).rows.map RiskRow.id).Nodup
    rw [map_update s row.id (RiskService.bookRow row event.amount) RiskRow.id fun _ => rfl]
    exact h.ids
  case idsLt => exact forall_rows_update h.idsLt fun _ hr => hr
  case rowsActive => exact forall_rows_update h.rowsActive fun _ hr => hr
  case known => exact InFlight.Forall.drop (h.known.imp fun _ c hc => hgrows.known hc) call
  case callsLt => exact InFlight.Forall.drop h.callsLt call
  case pending =>
    intro k hbooked hk
    apply (h.pending k (Nat.le_of_succ_le hbooked) hk).drop hcall
    intro hserial
    cases hserial
    exact absurd hbooked (Nat.not_succ_le_self _)
  case sought =>
    intro d hd
    rcases h.sought d hd with hrow | hseeks
    · exact Or.inl (hgrows.hasDay hrow)
    · refine Or.inr (hseeks.drop hcall ?_)
      exact nofun

end Rows

/-!
# Runs
-/

theorem find_some {s : RiskService} {date : Int} {row : RiskRow} (h : s.find date = some row) :
    row ∈ s.rows ∧ row.date = date := by
  have hdate := List.find?_some h
  exact ⟨List.mem_of_find?_eq_some h, of_decide_eq_true hdate⟩

theorem RiskInv.settle {s : RiskService} (h : RiskInv s) (call : Nat)
    (hturn : InTurn s (.settle call)) : RiskInv (s.settle call) := by
  cases hcall : s.calls call with
  | none =>
      unfold RiskService.settle
      rw [hcall]
      exact h
  | some c =>
      have hknown := h.known call c hcall
      simp only [InTurn, hcall] at hturn
      cases c with
      | finding today =>
          unfold RiskService.settle
          rw [hcall]
          dsimp only
          cases hfind : s.find today with
          | some row =>
              rcases find_some hfind with ⟨hrow, hdate⟩
              refine h.advance hcall trivial rfl fun d hd => Or.inr ⟨row, hrow, ?_⟩
              cases hd
              exact hdate
          | none =>
              exact h.advance hcall hknown rfl fun d hd => Or.inl hd
      | findingYesterday today =>
          unfold RiskService.settle
          rw [hcall]
          exact h.advance hcall hknown rfl fun d hd => Or.inl hd
      | creating today losses =>
          unfold RiskService.settle
          rw [hcall]
          refine (h.create hturn hknown).advance hcall trivial rfl fun d hd => Or.inr ?_
          cases hd
          exact create_hasDay s today losses
      | judging row =>
          unfold RiskService.settle
          rw [hcall]
          exact h
      | flagging id daily consecutive openPositions =>
          unfold RiskService.settle
          rw [hcall]
          exact (h.flag id daily consecutive openPositions).finish hcall rfl rfl
      | findingForClose serial event =>
          unfold RiskService.settle
          rw [hcall]
          dsimp only
          cases hfind : s.find event.day with
          | some row =>
              rcases find_some hfind with ⟨hrow, hdate⟩
              refine h.advance hcall ⟨hknown.1, row, hrow, rfl, hdate⟩ rfl fun d hd =>
                Or.inr ⟨row, hrow, ?_⟩
              cases hd
              exact hdate
          | none =>
              exact h.advance hcall hknown rfl fun d hd => Or.inl hd
      | creatingForClose serial event =>
          unfold RiskService.settle
          rw [hcall]
          refine (h.create hturn hknown.2).advance hcall ⟨hknown.1, s.newRow event.day 0,
            List.mem_append_right _ (List.mem_singleton_self _), rfl, rfl⟩ rfl fun d hd =>
              Or.inr ?_
          cases hd
          exact create_hasDay s event.day 0
      | booking row serial event =>
          exact h.book hcall hturn

theorem RiskInv.judge {s : RiskService} (h : RiskInv s) (call : Nat)
    (account : Option AccountInfo) (config : Option RiskConfig) :
    RiskInv (s.judge call account config) := by
  unfold RiskService.judge
  split
  · next row hcall =>
      dsimp only
      split_ifs
      · refine h.advance hcall trivial rfl fun d hd => ?_
        cases hd
      · exact h.finish hcall rfl rfl
  · exact h

theorem riskInv_step {s : RiskService} (h : RiskInv s) (op : RiskOp) (hturn : InTurn s op) :
    RiskInv (riskStep s op) := by
  cases op with
  | passDays n =>
      exact h.passDays n
  | getRiskState =>
      exact h.getRiskState
  | tradeClosed pnl =>
      exact h.tradeClosed pnl
  | settle call =>
      exact h.settle call hturn
  | judge call account config =>
      exact h.judge call account config

theorem RiskInv.dailyExact {s : RiskService} (h : RiskInv s) (hquiet : Quiescent s) :
    DailyExact s := by
  have hnone : forall P : RiskCall -> Prop, ¬ InFlight.Any P s.calls := by
    rintro P ⟨call, c, hcall, -⟩
    have hended := hquiet call (h.callsLt call c hcall)
    rw [hcall] at hended
    cases hended
  have hall : s.arrived.length ≤ s.booked := by
    by_contra hmissing
    exact hnone _ (h.pending s.booked (le_refl _) (Nat.lt_of_not_le hmissing))
  have hexact := h.exact
  rw [List.take_of_length_le hall, List.drop_of_length_le hall] at hexact
  have hdates : (s.rows.map RiskRow.date).Nodup := by
    have hsorted := hexact.sorted
    rw [List.pairwise_map] at hsorted
    exact List.pairwise_map.mpr (hsorted.imp fun hlt => ne_of_lt hlt)
  constructor
  case one =>
    intro d hd
    rcases (h.sought d hd).resolve_right (hnone _) with ⟨r, hr, hdate⟩
    exact List.count_eq_one_of_mem hdates (List.mem_map.mpr ⟨r, hr, hdate⟩)
  case active => exact h.rowsActive
  case dailyPnl =>
    intro r hr
    exact hexact.total r.dayRow (List.mem_map_of_mem hr)
  case consecutiveLosses =>
    intro r hr
    rcases hexact.streak r.dayRow (List.mem_map_of_mem hr) with hstreak | ⟨e, he, -⟩
    · exact hstreak
    · cases he
  case latest => exact hexact.latestStreak_eq

/-- In a run whose rows are opened and booked in turn, the rows are exact whenever no
call is in flight. -/
theorem daily_rows_exact_in_turn (day : Int) (ops : List RiskOp)
    (hturn : EveryStep riskStep InTurn (RiskService.start day) ops)
    (hquiet : Quiescent (runFrom riskStep (RiskService.start day) ops)) :
    DailyExact (runFrom riskStep (RiskService.start day) ops) :=
  (EveryStep.run_inv RiskInv (fun _ op h hop => riskInv_step h op hop) (riskInv_start day)
    hturn).dailyExact hquiet

/-!
# Two losing days
-/

/-- `getRiskState` on a day without a row, with nothing else in flight. -/
def firstLook (call : Nat) : List RiskOp :=
  [.getRiskState, .settle call, .settle call, .settle call, .judge call none none]

def laterLoss (call : Nat) : List RiskOp :=
  [.tradeClosed (-1), .settle call, .settle call]

def firstClose (call : Nat) (pnl : ℚ) : List RiskOp :=
  [.tradeClosed pnl, .settle call, .settle call, .settle call]

def lookedAtDaily : List RiskOp :=
  firstLook 0 ++ laterLoss 1 ++ [.passDays 1] ++ firstLook 2 ++ laterLoss 3 ++ [.passDays 1] ++
    firstClose 4 1

/-- A look at the start of each losing day carries the streak over, and a gain on the
third ends it without one. -/
theorem daily_looks_carry_the_streak :
    DailyExact (runFrom riskStep (RiskService.start 0) lookedAtDaily) :=
  daily_rows_exact_in_turn 0 lookedAtDaily (by decide +kernel) (by decide +kernel)

/-- Without a look the second day starts its streak anew, and two looks at once open
two rows for one day. -/
theorem daily_rows_out_of_turn :
    (Quiescent (runFrom riskStep (RiskService.start 0)
        (firstClose 0 (-1) ++ [.passDays 1] ++ firstClose 1 (-1))) ∧
      ¬ DailyExact (runFrom riskStep (RiskService.start 0)
        (firstClose 0 (-1) ++ [.passDays 1] ++ firstClose 1 (-1)))) ∧
    (Quiescent (runFrom riskStep (RiskService.start 0)
        [.getRiskState, .getRiskState, .settle 0, .settle 1, .settle 0, .settle 1, .settle 0,
          .settle 1, .judge 0 none none, .judge 1 none none]) ∧
      ¬ DailyExact (runFrom riskStep (RiskService.start 0)
        [.getRiskState, .getRiskState, .settle 0, .settle 1, .settle 0, .settle 1, .settle 0,
          .settle 1, .judge 0 none none, .judge 1 none none])) := by
  refine ⟨⟨by decide +kernel, fun h => ?_⟩, ⟨by decide +kernel, fun h => ?_⟩⟩
  · exact absurd h.latest (by decide +kernel)
  · exact absurd (h.one 0 (by decide +kernel)) (by decide +kernel)

end Risk
end Shamarx
