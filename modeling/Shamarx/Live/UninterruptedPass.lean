import Shamarx.Live.MonitorPasses

/-!
# A pass without interruption

While no other call takes its turn, a pass over the pairs of one account does to the
table, to the counts and to the orchestrator what `reconcileAccount` does in one go.
-/

namespace Shamarx
namespace Live
namespace MonitorPasses

open Foundation
open Engine
open Broker
open Orchestrator

def MonitorRow.toRow (tradeId : Nat) (row : MonitorRow) : TradeRow :=
  { id := tradeId
    mt5Ticket := row.mt5Ticket
    status := row.status
    trade := row.trade
    booked := row.booked }

def tradeRows (entries : List (Nat × MonitorRow)) : List TradeRow :=
  entries.map fun entry => entry.2.toRow entry.1

def MonitorRun.book (s : MonitorRun) : AccountBook :=
  { rows := tradeRows s.table.rows, absenceCounts := s.absenceCounts }

def visitOps (s : MonitorRun) (id : Nat) (fin : FinalizeEnv) : List MonitorOp :=
  match s.nextFinalized (.visit id) with
  | none => [.visit id]
  | some _ =>
      [.visit id, .history id fin.history fin.now, .update id fin.updates,
        .publish id fin.publishes]

/-- The pass is at the given point, and what happened in between is what the book
and the reported exits say; no row has come, gone or changed its trade. -/
structure SameEffect (cfg : MonitorConfig) (s s' : MonitorRun) (id : Nat) (pass : Pass)
    (out : AccountBook × List ReportedExit) : Prop where
  pass : s'.passes id = some pass
  book : s'.book = out.1
  orchestrator : s'.orchestrator = reportExits cfg.engine s.orchestrator out.2
  exits : s'.exits.map Prod.snd = s.exits.map Prod.snd ++ out.2
  rows : forall t, (s'.table.get t).map (fun row => (row.account, row.trade)) =
    (s.table.get t).map fun row => (row.account, row.trade)

def Uninterrupted (cfg : MonitorConfig) (s : MonitorRun) (id : Nat) (pass : Pass)
    (out : AccountBook × List ReportedExit) : Prop :=
  exists ops : List MonitorOp, (forall op, op ∈ ops -> op.pass? = some id) ∧
    SameEffect cfg s (runFrom (monitorStep cfg) s ops) id pass out

theorem SameEffect.isSome {cfg : MonitorConfig} {s s' : MonitorRun} {id : Nat} {pass : Pass}
    {out : AccountBook × List ReportedExit} (h : SameEffect cfg s s' id pass out) {t : Nat}
    (ht : (s.table.get t).isSome) : (s'.table.get t).isSome := by
  have hrow := congrArg Option.isSome (h.rows t)
  rw [Option.isSome_map, Option.isSome_map] at hrow
  exact hrow.trans ht

theorem SameEffect.trans {cfg : MonitorConfig} {s s' s'' : MonitorRun} {id : Nat}
    {pass pass' : Pass} {out out' : AccountBook × List ReportedExit}
    (h : SameEffect cfg s s' id pass out) (h' : SameEffect cfg s' s'' id pass' out') :
    SameEffect cfg s s'' id pass' (out'.1, out.2 ++ out'.2) where
  pass := h'.pass
  book := h'.book
  orchestrator := by
    rw [h'.orchestrator, h.orchestrator, reportExits, reportExits, reportExits, List.foldl_append]
  exits := by
    rw [h'.exits, h.exits, List.append_assoc]
  rows t := (h'.rows t).trans (h.rows t)

theorem Uninterrupted.trans {cfg : MonitorConfig} {s : MonitorRun} {id : Nat} {pass pass' : Pass}
    {out out' : AccountBook × List ReportedExit} (h : Uninterrupted cfg s id pass out)
    (hnext : forall s', SameEffect cfg s s' id pass out -> Uninterrupted cfg s' id pass' out') :
    Uninterrupted cfg s id pass' (out'.1, out.2 ++ out'.2) := by
  rcases h with ⟨ops, hops, heffect⟩
  rcases hnext _ heffect with ⟨ops', hops', heffect'⟩
  refine ⟨ops ++ ops', ?_, ?_⟩
  · intro op hop
    rcases List.mem_append.mp hop with hop | hop
    · exact hops op hop
    · exact hops' op hop
  · rw [runFrom_append]
    exact heffect.trans heffect'

theorem Uninterrupted.after {cfg : MonitorConfig} {s : MonitorRun} {id : Nat} {pass pass' : Pass}
    {out : AccountBook × List ReportedExit} (h : Uninterrupted cfg s id pass (s.book, []))
    (hnext : forall s', SameEffect cfg s s' id pass (s.book, []) ->
      Uninterrupted cfg s' id pass' out) :
    Uninterrupted cfg s id pass' out :=
  h.trans hnext

theorem uninterrupted_nil {cfg : MonitorConfig} {s : MonitorRun} {id : Nat} {pass : Pass}
    (hpass : s.passes id = some pass) : Uninterrupted cfg s id pass (s.book, []) := by
  refine ⟨[], fun op hop => (nomatch hop), hpass, rfl, rfl, ?_, fun _ => rfl⟩
  exact (List.append_nil _).symm

theorem Uninterrupted.move {cfg : MonitorConfig} {s : MonitorRun} {id : Nat} {pass : Pass}
    {out : AccountBook × List ReportedExit} (h : Uninterrupted cfg s id pass out)
    (op : MonitorOp) (hop : op.pass? = some id) {scopes : List Scope} {phase : PassPhase}
    (hmove : forall s' : MonitorRun, s'.passes id = some pass ->
      monitorStep cfg s' op = s'.move id scopes phase) :
    Uninterrupted cfg s id { scopes := scopes, phase := phase } out := by
  rcases h with ⟨ops, hops, heffect⟩
  refine ⟨ops ++ [op], ?_, ?_⟩
  · intro o ho
    rcases List.mem_append.mp ho with ho | ho
    · exact hops o ho
    · rw [List.mem_singleton.mp ho]
      exact hop
  · have hlast : runFrom (monitorStep cfg) s (ops ++ [op]) =
        (runFrom (monitorStep cfg) s ops).move id scopes phase := by
      rw [runFrom_append, runFrom_cons, hmove _ heffect.pass]
      rfl
    rw [hlast]
    exact ⟨InFlight.put_self _ _ _, heffect.book, heffect.orchestrator, heffect.exits,
      heffect.rows⟩

theorem book_closeRow {s : MonitorRun} {tradeId : Nat} (facts : CloseFacts)
    (h : (s.table.get tradeId).isSome) :
    MonitorRun.book { s with table := s.closeRow tradeId facts } =
      s.book.closeRow tradeId facts := by
  rcases Option.isSome_iff_exists.mp h with ⟨row, hrow⟩
  have hset : (s.closeRow tradeId facts).rows =
      s.table.rows.set tradeId { row with status := .closed, booked := some facts } := by
    rw [MonitorRun.closeRow, TradeTable.modify, hrow]
    rfl
  have hrows : tradeRows (s.closeRow tradeId facts).rows =
      (s.book.closeRow tradeId facts).rows := by
    rw [hset, InsertionMap.set_eq_map s.table.nodup hrow]
    simp only [tradeRows, MonitorRun.book, AccountBook.closeRow, List.map_map]
    apply List.map_congr_left
    intro entry hentry
    by_cases heq : entry.1 = tradeId
    · subst heq
      have hsame := InsertionMap.get_of_mem s.table.nodup hentry
      have hfound : entry.2 = row := Option.some.inj (hsame.symm.trans hrow)
      simp [MonitorRow.toRow, hfound]
    · simp [MonitorRow.toRow, heq]
  rw [MonitorRun.book, hrows]
  rfl

theorem rows_closeRow (s : MonitorRun) (tradeId : Nat) (facts : CloseFacts) (t : Nat) :
    ((s.closeRow tradeId facts).get t).map (fun row => (row.account, row.trade)) =
      (s.table.get t).map fun row => (row.account, row.trade) := by
  rw [MonitorRun.closeRow]
  by_cases heq : t = tradeId
  · rw [heq, get_modify, Option.map_map]
    rfl
  · rw [get_modify_of_ne _ heq]

section Visit

variable (cfg : MonitorConfig) {s : MonitorRun} {id : Nat} {scopes : List Scope} {scope : Scope}
  {read : BrokerRead} {trade : Nat × MonitorRow} {todo : List (Nat × MonitorRow)}
  {facts : CloseFacts}

theorem update_fails
    (h : s.passes id =
      some { scopes := scopes, phase := .finalizing scope read todo trade (.updating facts) }) :
    monitorStep cfg s (.update id false) = s.move id scopes (.working scope read todo) := by
  simp [monitorStep, h]

theorem update_succeeds
    (h : s.passes id =
      some { scopes := scopes, phase := .finalizing scope read todo trade (.updating facts) })
    (hrow : (s.table.get trade.1).isSome) :
    monitorStep cfg s (.update id true) =
      { s.move id scopes (.finalizing scope read todo trade (.publishing facts)) with
        table := s.closeRow trade.1 (writtenFacts facts) } := by
  simp [monitorStep, h, hrow]

theorem publish_fails
    (h : s.passes id =
      some { scopes := scopes, phase := .finalizing scope read todo trade (.publishing facts) }) :
    monitorStep cfg s (.publish id false) = s.move id scopes (.working scope read todo) := by
  simp [monitorStep, h]

theorem publish_succeeds
    (h : s.passes id =
      some { scopes := scopes, phase := .finalizing scope read todo trade (.publishing facts) }) :
    monitorStep cfg s (.publish id true) =
      (s.move id scopes (.working scope read todo)).report cfg trade facts := by
  simp [monitorStep, h]

theorem publish_idle
    (h : s.passes id = some { scopes := scopes, phase := .working scope read todo })
    (succeeds : Bool) : monitorStep cfg s (.publish id succeeds) = s := by
  simp [monitorStep, h]

theorem finalize_uninterrupted
    (hpass : s.passes id =
      some { scopes := scopes, phase := .finalizing scope read todo trade .asking })
    (hrow : (s.table.get trade.1).isSome) (fin : FinalizeEnv) :
    SameEffect cfg s
      (runFrom (monitorStep cfg) s
        [.history id fin.history fin.now, .update id fin.updates, .publish id fin.publishes])
      id { scopes := scopes, phase := .working scope read todo }
      ((finalizeClosedTrade s.book (trade.2.toRow trade.1) fin).1,
        (finalizeClosedTrade s.book (trade.2.toRow trade.1) fin).2.toList) := by
  have hasked : monitorStep cfg s (.history id fin.history fin.now) =
      s.move id scopes (.finalizing scope read todo trade
        (.updating (finalizeFacts trade.2.trade fin.history fin.now))) := by
    simp [monitorStep, hpass]
  rw [runFrom_cons, runFrom_cons, runFrom_cons, hasked]
  unfold finalizeClosedTrade
  cases fin.updates with
  | false =>
      rw [update_fails cfg (InFlight.put_self _ _ _), publish_idle cfg (InFlight.put_self _ _ _)]
      refine ⟨InFlight.put_self _ _ _, rfl, rfl, ?_, fun _ => rfl⟩
      exact (List.append_nil _).symm
  | true =>
      have hupdated : monitorStep cfg
          (s.move id scopes (.finalizing scope read todo trade
            (.updating (finalizeFacts trade.2.trade fin.history fin.now))))
          (.update id true) = _ := update_succeeds cfg (InFlight.put_self _ _ _) hrow
      rw [hupdated]
      cases fin.publishes with
      | false =>
          rw [publish_fails cfg (InFlight.put_self _ _ _)]
          refine ⟨InFlight.put_self _ _ _, book_closeRow _ hrow, rfl, ?_,
            rows_closeRow s _ _⟩
          exact (List.append_nil _).symm
      | true =>
          rw [publish_succeeds cfg (InFlight.put_self _ _ _)]
          refine ⟨InFlight.put_self _ _ _, book_closeRow _ hrow, rfl, ?_,
            rows_closeRow s _ _⟩
          exact List.map_append

theorem visit_uninterrupted
    (hpass : s.passes id =
      some { scopes := scopes, phase := .working scope read (trade :: todo) })
    (hrow : (s.table.get trade.1).isSome) (fin : Nat -> FinalizeEnv) :
    SameEffect cfg s (runFrom (monitorStep cfg) s (visitOps s id (fin trade.1))) id
      { scopes := scopes, phase := .working scope read todo }
      (reconcileTrades read.tickets fin s.book [trade.2.toRow trade.1]) := by
  have hvisit : monitorStep cfg s (.visit id) = s.visit id scopes scope read trade todo := by
    simp [monitorStep, hpass]
  have hnext : s.nextFinalized (.visit id) =
      if ¬ Listed read.tickets trade.2.mt5Ticket ∧
          absenceConfirmations ≤ s.misses trade.1 + 1 then some trade else none := by
    simp only [MonitorRun.nextFinalized, hpass]
  unfold visitOps
  rw [hnext]
  by_cases hlisted : Listed read.tickets trade.2.mt5Ticket
  · have hout : reconcileTrades read.tickets fin s.book [trade.2.toRow trade.1] =
        ({ s.book with absenceCounts := s.absenceCounts.erase trade.1 }, []) := by
      simp only [reconcileTrades, reconcileTrade]
      rw [if_pos (show Listed read.tickets (trade.2.toRow trade.1).mt5Ticket from hlisted)]
      rfl
    rw [if_neg (fun h => h.1 hlisted), hout, runFrom_cons, hvisit, MonitorRun.visit,
      if_pos hlisted]
    refine ⟨InFlight.put_self _ _ _, rfl, rfl, ?_, fun _ => rfl⟩
    exact (List.append_nil _).symm
  · by_cases hfew : s.misses trade.1 + 1 < absenceConfirmations
    · have hout : reconcileTrades read.tickets fin s.book [trade.2.toRow trade.1] =
          ({ s.book with
              absenceCounts := s.absenceCounts.set trade.1 (s.misses trade.1 + 1) }, []) := by
        simp only [reconcileTrades, reconcileTrade]
        rw [if_neg (show ¬ Listed read.tickets (trade.2.toRow trade.1).mt5Ticket from hlisted),
          if_pos (show (s.book.absenceCounts.get (trade.2.toRow trade.1).id).getD 0 + 1 <
            absenceConfirmations from hfew)]
        rfl
      rw [if_neg (fun h => absurd hfew (Nat.not_lt.mpr h.2)), hout, runFrom_cons, hvisit,
        MonitorRun.visit, if_neg hlisted, if_pos hfew]
      refine ⟨InFlight.put_self _ _ _, rfl, rfl, ?_, fun _ => rfl⟩
      exact (List.append_nil _).symm
    · have hout : reconcileTrades read.tickets fin s.book [trade.2.toRow trade.1] =
          ((finalizeClosedTrade { s.book with absenceCounts := s.absenceCounts.erase trade.1 }
              (trade.2.toRow trade.1) (fin trade.1)).1,
            (finalizeClosedTrade { s.book with absenceCounts := s.absenceCounts.erase trade.1 }
              (trade.2.toRow trade.1) (fin trade.1)).2.toList) := by
        simp only [reconcileTrades, reconcileTrade]
        rw [if_neg (show ¬ Listed read.tickets (trade.2.toRow trade.1).mt5Ticket from hlisted),
          if_neg (show ¬ (s.book.absenceCounts.get (trade.2.toRow trade.1).id).getD 0 + 1 <
            absenceConfirmations from hfew), List.append_nil]
        rfl
      rw [if_pos ⟨hlisted, Nat.le_of_not_lt hfew⟩, hout, runFrom_cons, hvisit, MonitorRun.visit,
        if_neg hlisted, if_neg hfew]
      have hasking : MonitorRun.passes
          { s.move id scopes (.finalizing scope read todo trade .asking) with
            absenceCounts := s.absenceCounts.erase trade.1 } id =
              some { scopes := scopes, phase := .finalizing scope read todo trade .asking } :=
        InFlight.put_self _ _ _
      have heffect := finalize_uninterrupted cfg hasking hrow (fin trade.1)
      exact ⟨heffect.pass, heffect.book, heffect.orchestrator, heffect.exits, heffect.rows⟩

end Visit

theorem visitOps_pass (s : MonitorRun) (id : Nat) (fin : FinalizeEnv) :
    forall op, op ∈ visitOps s id fin -> op.pass? = some id := by
  unfold visitOps
  split
  · simp [MonitorOp.pass?]
  · simp [MonitorOp.pass?]

/-!
# The whole pass
-/

theorem reconcileTrades_cons (tickets : List Nat) (fin : Nat -> FinalizeEnv)
    (book : AccountBook) (row : TradeRow) (rest : List TradeRow) :
    reconcileTrades tickets fin book (row :: rest) =
      ((reconcileTrades tickets fin (reconcileTrades tickets fin book [row]).1 rest).1,
        (reconcileTrades tickets fin book [row]).2 ++
          (reconcileTrades tickets fin (reconcileTrades tickets fin book [row]).1 rest).2) := by
  simp [reconcileTrades]

/-- A loop that is not interrupted is `reconcileTrades` on the book of the monitor,
with its exits reported in order. -/
theorem loop_uninterrupted (cfg : MonitorConfig) {s : MonitorRun} {id : Nat}
    {scopes : List Scope} {scope : Scope} {read : BrokerRead} {todo : List (Nat × MonitorRow)}
    (hpass : s.passes id = some { scopes := scopes, phase := .working scope read todo })
    (hrows : forall trade, trade ∈ todo -> (s.table.get trade.1).isSome)
    (fin : Nat -> FinalizeEnv) :
    Uninterrupted cfg s id { scopes := scopes, phase := .working scope read [] }
      (reconcileTrades read.tickets fin s.book (tradeRows todo)) := by
  induction todo generalizing s with
  | nil =>
      exact uninterrupted_nil hpass
  | cons trade rest ih =>
      have hfirst : Uninterrupted cfg s id { scopes := scopes, phase := .working scope read rest }
          (reconcileTrades read.tickets fin s.book [trade.2.toRow trade.1]) :=
        ⟨visitOps s id (fin trade.1), visitOps_pass s id _,
          visit_uninterrupted cfg hpass (hrows trade List.mem_cons_self) fin⟩
      rw [tradeRows, List.map_cons, ← tradeRows, reconcileTrades_cons]
      apply hfirst.trans
      intro s' heffect
      rw [← heffect.book]
      exact ih heffect.pass fun other hother =>
        heffect.isSome (hrows other (List.mem_cons_of_mem _ hother))

def OneAccount (cfg : MonitorConfig) (account : Option String) (s : MonitorRun) : Prop :=
  forall t row, s.table.get t = some row ->
    row.scope cfg = some { account := account, symbol := row.trade.symbol }

theorem SameEffect.oneAccount {cfg : MonitorConfig} {s s' : MonitorRun} {id : Nat} {pass : Pass}
    {out : AccountBook × List ReportedExit} (h : SameEffect cfg s s' id pass out)
    {account : Option String} (hone : OneAccount cfg account s) : OneAccount cfg account s' := by
  intro t row' hrow'
  have hrow := h.rows t
  rw [hrow', Option.map_some] at hrow
  rcases Option.map_eq_some_iff.mp hrow.symm with ⟨row, hget, hsame⟩
  have haccount : row.account = row'.account := congrArg Prod.fst hsame
  have htrade : row.trade = row'.trade := congrArg Prod.snd hsame
  have hscope := hone t row hget
  unfold MonitorRow.scope at hscope ⊢
  rw [← haccount, ← htrade]
  exact hscope

theorem openRows_book {cfg : MonitorConfig} {s : MonitorRun} {account : Option String}
    (hone : OneAccount cfg account s) (symbol : Instrument) :
    openRows s.book symbol =
      tradeRows (s.table.openTrades cfg { account := account, symbol := symbol }) := by
  unfold openRows MonitorRun.book tradeRows TradeTable.openTrades
  dsimp only
  rw [List.filter_map]
  congr 1
  apply List.filter_congr
  intro entry hentry
  have hscope := hone entry.1 entry.2 (InsertionMap.get_of_mem s.table.nodup hentry)
  rw [Function.comp_apply, decide_eq_decide, Queried, hscope, Option.some.injEq, Scope.mk.injEq]
  unfold MonitorRow.toRow
  simp

theorem query_uninterrupted {cfg : MonitorConfig} {s : MonitorRun} {id : Nat} {scope : Scope}
    {rest : List Scope}
    (hpass : s.passes id = some { scopes := scope :: rest, phase := .between })
    (tickets : List Nat) :
    Uninterrupted cfg s id
      { scopes := rest
        phase := .working scope { close := s.closes, tickets := tickets }
          (s.table.openTrades cfg scope) }
      (s.book, []) := by
  refine ⟨[.read id (some tickets), .query id true], by simp [MonitorOp.pass?], ?_⟩
  have hread : monitorStep cfg s (.read id (some tickets)) =
      s.read id scope rest (some tickets) := by
    simp [monitorStep, hpass]
  have hquery : monitorStep cfg (s.read id scope rest (some tickets)) (.query id true) =
      (s.read id scope rest (some tickets)).move id rest
        (.working scope { close := s.closes, tickets := tickets }
          (s.table.openTrades cfg scope)) := by
    simp [monitorStep, MonitorRun.read, MonitorRun.move]
  rw [runFrom_cons, hread, runFrom_cons, hquery]
  refine ⟨InFlight.put_self _ _ _, rfl, rfl, ?_, fun _ => rfl⟩
  exact (List.append_nil _).symm

theorem pair_uninterrupted {cfg : MonitorConfig} {s : MonitorRun} {id : Nat}
    {rest : List Scope} {account : Option String} {symbol : Instrument}
    (hpass : s.passes id = some
      { scopes := { account := account, symbol := symbol } :: rest, phase := .between })
    (hone : OneAccount cfg account s) (env : PassEnv) :
    Uninterrupted cfg s id { scopes := rest, phase := .between }
      (reconcilePairForAccount env s.book symbol) := by
  unfold reconcilePairForAccount
  cases env.tickets symbol with
  | none =>
      refine (uninterrupted_nil hpass).move (.read id none) rfl ?_
      intro s' hpass'
      simp [monitorStep, hpass', MonitorRun.read]
  | some tickets =>
      dsimp only
      rw [openRows_book hone]
      have hlooped : Uninterrupted cfg s id
          { scopes := rest
            phase := .working { account := account, symbol := symbol }
              { close := s.closes, tickets := tickets } [] }
          (reconcileTrades tickets env.fin s.book
            (tradeRows (s.table.openTrades cfg { account := account, symbol := symbol }))) := by
        apply (query_uninterrupted hpass tickets).after
        intro s' heffect
        rw [← show s'.book = s.book from heffect.book]
        refine loop_uninterrupted cfg heffect.pass ?_ env.fin
        intro trade htrade
        apply heffect.isSome
        rw [TradeTable.get, InsertionMap.get_of_mem s.table.nodup (List.mem_of_mem_filter htrade)]
        rfl
      apply hlooped.move (.visit id) rfl
      intro s' hpass'
      simp [monitorStep, hpass']

/-- A pass over the pairs of one account that is not interrupted is `reconcileAccount`
on the book of the monitor, with its exits reported in order. -/
theorem pass_uninterrupted {cfg : MonitorConfig} {s : MonitorRun} {id : Nat}
    {account : Option String} (pairs : List Instrument)
    (hpass : s.passes id = some
      { scopes := pairs.map fun symbol => { account := account, symbol := symbol }
        phase := .between })
    (hone : OneAccount cfg account s) (env : PassEnv) :
    Uninterrupted cfg s id { scopes := [], phase := .between }
      (reconcileAccount env s.book pairs) := by
  induction pairs generalizing s with
  | nil =>
      exact uninterrupted_nil hpass
  | cons symbol rest ih =>
      apply (pair_uninterrupted hpass hone env).trans
      intro s' heffect
      rw [← heffect.book]
      exact ih heffect.pass (heffect.oneAccount hone)

end MonitorPasses
end Live
end Shamarx
