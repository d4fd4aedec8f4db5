import Mathlib.Order.OrderDual
import Shamarx.Foundation.Grouping
import Shamarx.Foundation.KeyedRows
import Shamarx.Foundation.Rounding
import Shamarx.Live.LiveSessions
import Shamarx.Live.PositionMonitor

/-!
# Views of a session

The engine trades every enabled account on the same signals, so a session has trades of
several users.  Its figures are computed from the trade rows whenever it is looked at: from
all of them for the administrator, from those of their own accounts for everybody else.
-/

namespace Shamarx
namespace Live

open Foundation

structure ViewedAccount where
  id : String
  userId : String
  name : String
  broker : String
  isEnabled : Bool
  deriving DecidableEq

structure ViewedTrade where
  clientOrderId : Option String
  sessionId : Option String
  accountId : Option String
  symbol : String
  lotSize : ℚ
  entryPrice : ℚ
  slPrice : ℚ
  status : TradeStatus
  exitReason : Option String
  pnl : Option ℚ
  createdAt : Int
  deriving DecidableEq

structure FiledSession where
  row : LiveSession
  accountId : Option String
  deriving DecidableEq

/-- The tables that the views read.  Ids are unique, and no id is the word that stands for a
missing one. -/
structure ViewTables where
  accounts : List ViewedAccount
  sessions : List FiledSession
  trades : List ViewedTrade
  distinct : (accounts.map ViewedAccount.id).Nodup
  generated : forall a, a ∈ accounts -> a.id ≠ "unassigned"
  referenced : forall t, t ∈ trades -> forall id, t.accountId = some id ->
    id ∈ accounts.map ViewedAccount.id

/-- The database may return the rows of a query in any order. -/
structure ReadOrder (row : Type) where
  order : List row -> List row
  perm : forall rows, (order rows).Perm rows

/-!
# Accounts and their users
-/

namespace ViewTables

variable (db : ViewTables)

def accountOf (accountId : Option String) : Option ViewedAccount :=
  accountId.bind fun id => db.accounts.find? fun a => decide (a.id = id)

def OwnedBy (userId : String) (accountId : Option String) : Prop :=
  (db.accountOf accountId).map ViewedAccount.userId = some userId

instance (userId : String) (accountId : Option String) : Decidable (db.OwnedBy userId accountId) :=
  inferInstanceAs
    (Decidable ((db.accountOf accountId).map ViewedAccount.userId = some userId))

/-- Without a viewer all rows are in scope. -/
def InScope (viewer : Option String) (accountId : Option String) : Prop :=
  forall userId, viewer = some userId -> db.OwnedBy userId accountId

instance (viewer : Option String) (accountId : Option String) :
    Decidable (db.InScope viewer accountId) :=
  match viewer with
  | none => isTrue fun _ h => by cases h
  | some userId =>
      decidable_of_iff (db.OwnedBy userId accountId)
        ⟨fun h _ heq => by cases heq; exact h, fun h => h userId rfl⟩

def sessionFills (sessionId : String) (viewer : Option String) : List ViewedTrade :=
  db.trades.filter fun t => decide (t.sessionId = some sessionId ∧
    (t.status = .open_ ∨ t.status = .closed) ∧ t.exitReason ≠ some "ORPHAN" ∧
    db.InScope viewer t.accountId)

end ViewTables

/-!
# The figures of a session
-/

structure AccountAggregate where
  accountId : Option String
  name : String
  broker : String
  tradesCount : Nat
  realizedPnl : ℚ
  deriving DecidableEq

structure SessionView where
  session : FiledSession
  perAccount : List AccountAggregate

def accountKey (t : ViewedTrade) : String :=
  t.accountId.getD "unassigned"

def realized (t : ViewedTrade) : ℚ :=
  if t.status = .closed then t.pnl.getD 0 else 0

def blankAggregate (db : ViewTables) (t : ViewedTrade) : AccountAggregate :=
  { accountId := t.accountId
    name := ((db.accountOf t.accountId).map ViewedAccount.name).getD "Unassigned"
    broker := ((db.accountOf t.accountId).map ViewedAccount.broker).getD "—"
    tradesCount := 0
    realizedPnl := 0 }

def absorbFill (agg : AccountAggregate) (t : ViewedTrade) : AccountAggregate :=
  let agg := { agg with tradesCount := agg.tradesCount + 1 }
  if t.status = .closed ∧ t.pnl ≠ none then
    { agg with realizedPnl := agg.realizedPnl + t.pnl.getD 0 }
  else agg

def byAccount (db : ViewTables) (trades : List ViewedTrade) :
    InsertionMap String AccountAggregate :=
  Grouping.groupBy accountKey (blankAggregate db) absorbFill trades

def roundAggregate (a : AccountAggregate) : AccountAggregate :=
  { a with realizedPnl := roundTo 100 a.realizedPnl }

def perAccount (db : ViewTables) (trades : List ViewedTrade) : List AccountAggregate :=
  KeyedRows.sortByKey (fun a : AccountAggregate => OrderDual.toDual a.realizedPnl)
    (((byAccount db trades).map Prod.snd).map roundAggregate)

def recomputeSessionAggregates (db : ViewTables) (session : FiledSession)
    (trades : List ViewedTrade) : SessionView :=
  let closed := trades.filter fun t => decide (t.status = .closed)
  let realizedPnl := ((closed.filter fun t => decide (t.pnl ≠ none)).map fun t =>
    t.pnl.getD 0).sum
  { session :=
      { session with
        row :=
          { session.row with
            tradesCount := trades.length
            winsCount := closed.countP fun t => decide (0 < t.pnl.getD 0)
            lossesCount := closed.countP fun t => decide (t.pnl.getD 0 < 0)
            realizedPnl := roundTo 100 realizedPnl } }
    perAccount := perAccount db trades }

/-!
# The queries
-/

structure ReadOrders where
  trades : ReadOrder ViewedTrade
  sessions : ReadOrder FiledSession

def viewSession (db : ViewTables) (reads : ReadOrders) (viewer : Option String)
    (session : FiledSession) : SessionView :=
  recomputeSessionAggregates db session
    (reads.trades.order (db.sessionFills session.row.id viewer))

namespace ViewTables

variable (db : ViewTables)

def enabledAccounts (userId : String) : Nat :=
  db.accounts.countP fun a => decide (a.userId = userId) && a.isEnabled

def ownTrades (userId : String) (sessionId : String) : List ViewedTrade :=
  db.trades.filter fun t => decide (t.sessionId = some sessionId ∧ db.OwnedBy userId t.accountId)

def listedSessions (userId : String) (isAdmin : Bool) : List FiledSession :=
  if isAdmin then
    db.sessions.filter fun s => decide (db.OwnedBy userId s.accountId)
  else
    db.sessions.filter fun s => decide (db.ownTrades userId s.row.id ≠ [] ∨
      (0 < db.enabledAccounts userId ∧ s.row.status = .running))

end ViewTables

def newestFirst (reads : ReadOrders) (sessions : List FiledSession) : List FiledSession :=
  KeyedRows.sortByKey (fun s : FiledSession => OrderDual.toDual s.row.startedAt)
    (reads.sessions.order sessions)

def listSessions (db : ViewTables) (reads : ReadOrders) (userId : String) (isAdmin : Bool)
    (limit : Option Nat) : List SessionView :=
  let limit := min (limit.getD 50) 200
  ((newestFirst reads (db.listedSessions userId isAdmin)).take limit).map
    (viewSession db reads (if isAdmin then none else some userId))

def getSession (db : ViewTables) (reads : ReadOrders) (userId : String) (sessionId : String)
    (isAdmin : Bool) : Option SessionView :=
  if isAdmin then
    (db.sessions.find? fun s => decide (s.row.id = sessionId ∧ db.OwnedBy userId s.accountId)).map
      (viewSession db reads none)
  else
    match db.sessions.find? fun s => decide (s.row.id = sessionId) with
    | none => none
    | some s =>
        let participated := (db.ownTrades userId sessionId).length
        let hasEnabled := if s.row.status = .running then db.enabledAccounts userId else 0
        if participated = 0 ∧ hasEnabled = 0 then none
        else some (viewSession db reads (some userId) s)

def sessionTrades (db : ViewTables) (reads : ReadOrders) (userId : String) (sessionId : String)
    (accountId : Option String) : List ViewedTrade :=
  KeyedRows.sortByKey (fun t : ViewedTrade => OrderDual.toDual t.createdAt)
    (reads.trades.order ((db.ownTrades userId sessionId).filter fun t =>
      decide (accountId = none ∨ accountId = some "" ∨ t.accountId = accountId)))

/-!
# Whose a row is
-/

section Owners

variable (db : ViewTables)

theorem accountOf_of_mem {a : ViewedAccount} (ha : a ∈ db.accounts) :
    db.accountOf (some a.id) = some a := by
  change db.accounts.find? (fun b => decide (b.id = a.id)) = some a
  cases hfind : db.accounts.find? fun b => decide (b.id = a.id) with
  | none =>
      have hmiss := List.find?_eq_none.mp hfind a ha
      exact absurd (decide_eq_true rfl) hmiss
  | some b =>
      have hid := List.find?_some hfind
      have heq : b = a :=
        List.inj_on_of_nodup_map db.distinct (List.mem_of_find?_eq_some hfind) ha
          (of_decide_eq_true hid)
      rw [heq]

theorem mem_of_accountOf {accountId : Option String} {a : ViewedAccount}
    (h : db.accountOf accountId = some a) : a ∈ db.accounts ∧ accountId = some a.id := by
  cases accountId with
  | none =>
      cases h
  | some id =>
      change db.accounts.find? (fun b => decide (b.id = id)) = some a at h
      have hid := List.find?_some h
      exact ⟨List.mem_of_find?_eq_some h, congrArg some (of_decide_eq_true hid).symm⟩

theorem ownedBy_iff {userId : String} {accountId : Option String} :
    db.OwnedBy userId accountId <->
      exists a, a ∈ db.accounts ∧ accountId = some a.id ∧ a.userId = userId := by
  constructor
  · intro h
    rcases Option.map_eq_some_iff.mp h with ⟨a, hfound, huser⟩
    rcases mem_of_accountOf db hfound with ⟨hmem, hid⟩
    exact ⟨a, hmem, hid, huser⟩
  · rintro ⟨a, hmem, rfl, rfl⟩
    unfold ViewTables.OwnedBy
    rw [accountOf_of_mem db hmem]
    rfl

theorem accountId_eq_of_key {t t' : ViewedTrade} (ht : t ∈ db.trades) (ht' : t' ∈ db.trades)
    (h : accountKey t = accountKey t') : t.accountId = t'.accountId := by
  unfold accountKey at h
  cases haccount : t.accountId with
  | none =>
      cases haccount' : t'.accountId with
      | none =>
          rfl
      | some id =>
          rw [haccount, haccount'] at h
          rcases List.mem_map.mp (db.referenced t' ht' id haccount') with ⟨a, ha, rfl⟩
          exact absurd h.symm (db.generated a ha)
  | some id =>
      cases haccount' : t'.accountId with
      | none =>
          rw [haccount, haccount'] at h
          rcases List.mem_map.mp (db.referenced t ht id haccount) with ⟨a, ha, rfl⟩
          exact absurd h (db.generated a ha)
      | some id' =>
          rw [haccount, haccount'] at h
          exact congrArg some h

end Owners

/-!
# The entry of an account
-/

def aggregateOf (db : ViewTables) (accountId : Option String) (trades : List ViewedTrade) :
    AccountAggregate :=
  { accountId := accountId
    name := ((db.accountOf accountId).map ViewedAccount.name).getD "Unassigned"
    broker := ((db.accountOf accountId).map ViewedAccount.broker).getD "—"
    tradesCount := trades.length
    realizedPnl := (trades.map realized).sum }

theorem absorbFill_eq (agg : AccountAggregate) (t : ViewedTrade) :
    absorbFill agg t =
      { agg with
        tradesCount := agg.tradesCount + 1
        realizedPnl := agg.realizedPnl + realized t } := by
  unfold absorbFill realized
  cases hpnl : t.pnl with
  | none =>
      simp
  | some p =>
      by_cases hclosed : t.status = .closed <;> simp [hclosed]

theorem foldl_absorbFill (trades : List ViewedTrade) (agg : AccountAggregate) :
    trades.foldl absorbFill agg =
      { agg with
        tradesCount := agg.tradesCount + trades.length
        realizedPnl := agg.realizedPnl + (trades.map realized).sum } := by
  induction trades generalizing agg with
  | nil =>
      simp
  | cons t rest ih =>
      rw [List.foldl_cons, ih, absorbFill_eq]
      simp only [List.length_cons, List.map_cons, List.sum_cons, AccountAggregate.mk.injEq,
        true_and]
      exact ⟨by omega, by ring⟩

theorem entryOf_fills (db : ViewTables) {trades : List ViewedTrade} (hne : trades ≠ [])
    {accountId : Option String} (h : forall t, t ∈ trades -> t.accountId = accountId) :
    Grouping.entryOf (blankAggregate db) absorbFill trades =
      some (aggregateOf db accountId trades) := by
  cases trades with
  | nil =>
      exact absurd rfl hne
  | cons t rest =>
      have hentry : Grouping.entryOf (blankAggregate db) absorbFill (t :: rest) =
          some ((t :: rest).foldl absorbFill (blankAggregate db t)) := rfl
      rw [hentry, foldl_absorbFill]
      unfold blankAggregate aggregateOf
      rw [h t List.mem_cons_self]
      simp

theorem aggregateOf_perm (db : ViewTables) (accountId : Option String)
    {trades others : List ViewedTrade} (h : trades.Perm others) :
    aggregateOf db accountId trades = aggregateOf db accountId others := by
  unfold aggregateOf
  rw [h.length_eq, (h.map realized).sum_eq]

section Breakdown

variable {db : ViewTables} {trades : List ViewedTrade}

theorem mem_byAccount (hsub : forall t, t ∈ trades -> t ∈ db.trades) {k : String}
    {a : AccountAggregate} (h : (k, a) ∈ byAccount db trades) :
    a = aggregateOf db a.accountId (itemsOf accountKey trades k) ∧
      a.accountId.getD "unassigned" = k ∧ itemsOf accountKey trades k ≠ [] ∧
      (forall t, t ∈ itemsOf accountKey trades k <->
        t ∈ trades ∧ t.accountId = a.accountId) := by
  have hne := Grouping.itemsOf_ne_nil_of_mem h
  rcases List.exists_mem_of_ne_nil _ hne with ⟨t, ht⟩
  rcases List.mem_filter.mp ht with ⟨htrade, hkey⟩
  have hkey := of_decide_eq_true hkey
  have hsame : forall u, u ∈ itemsOf accountKey trades k -> u.accountId = t.accountId := by
    intro u hu
    rcases List.mem_filter.mp hu with ⟨hutrade, hukey⟩
    exact accountId_eq_of_key db (hsub u hutrade) (hsub t htrade)
      ((of_decide_eq_true hukey).trans hkey.symm)
  have hentry := Grouping.mem_groupBy.mp h
  rw [entryOf_fills db hne hsame] at hentry
  cases hentry
  refine ⟨rfl, hkey, hne, ?_⟩
  intro u
  constructor
  · intro hu
    exact ⟨(List.mem_filter.mp hu).1, hsame u hu⟩
  · rintro ⟨hu, haccount⟩
    refine List.mem_filter.mpr ⟨hu, decide_eq_true ?_⟩
    unfold accountKey at hkey ⊢
    rw [show u.accountId = t.accountId from haccount, hkey]

theorem perAccount_perm (db : ViewTables) (trades : List ViewedTrade) :
    (perAccount db trades).Perm (((byAccount db trades).map Prod.snd).map roundAggregate) :=
  KeyedRows.sortByKey_perm _ _

theorem mem_perAccount {a : AccountAggregate} :
    a ∈ perAccount db trades <->
      exists k b, (k, b) ∈ byAccount db trades ∧ a = roundAggregate b := by
  rw [(perAccount_perm db trades).mem_iff, List.map_map, List.mem_map]
  constructor
  · rintro ⟨⟨k, b⟩, hmem, rfl⟩
    exact ⟨k, b, hmem, rfl⟩
  · rintro ⟨k, b, hmem, rfl⟩
    exact ⟨(k, b), hmem, rfl⟩

end Breakdown

/-!
# The breakdown adds up
-/

/-- The breakdown shares out the trades among the accounts: each account once with its own
trades, the counts adding up, the amounts up to their rounding. -/
structure SharedOut (trades : List ViewedTrade) (view : SessionView) : Prop where
  once : (view.perAccount.map AccountAggregate.accountId).Nodup
  own : forall a, a ∈ view.perAccount -> exists fills : List ViewedTrade, fills ≠ [] ∧
    (forall t, t ∈ fills <-> t ∈ trades ∧ t.accountId = a.accountId) ∧
    a.tradesCount = fills.length ∧ a.realizedPnl = roundTo 100 (fills.map realized).sum
  counts : (view.perAccount.map AccountAggregate.tradesCount).sum = view.session.row.tradesCount
  amounts : |(view.perAccount.map AccountAggregate.realizedPnl).sum -
      view.session.row.realizedPnl| ≤ ((view.perAccount.length : ℚ) + 1) / 200
  bestFirst : view.perAccount.Pairwise fun a b => b.realizedPnl ≤ a.realizedPnl
  outcomes : view.session.row.winsCount + view.session.row.lossesCount ≤
    view.session.row.tradesCount

section Shares

variable {db : ViewTables} {trades : List ViewedTrade}

theorem sum_byAccount {amount : Type} [AddCommMonoid amount] (db : ViewTables)
    (trades : List ViewedTrade) (weight : ViewedTrade -> amount)
    (figure : AccountAggregate -> amount)
    (h : forall k a, (k, a) ∈ byAccount db trades ->
      figure a = tally accountKey weight trades k) :
    (((byAccount db trades).map Prod.snd).map figure).sum = (trades.map weight).sum := by
  rw [List.map_map]
  exact Grouping.sum_groupBy weight figure h

theorem nodup_accountIds (hsub : forall t, t ∈ trades -> t ∈ db.trades) :
    ((perAccount db trades).map AccountAggregate.accountId).Nodup := by
  have hkeys : ((((byAccount db trades).map Prod.snd).map AccountAggregate.accountId).map
      fun id : Option String => id.getD "unassigned") = (byAccount db trades).map Prod.fst := by
    rw [List.map_map, List.map_map]
    apply List.map_congr_left
    rintro ⟨k, a⟩ hmem
    exact (mem_byAccount hsub hmem).2.1
  have hnodup : (((byAccount db trades).map Prod.snd).map AccountAggregate.accountId).Nodup := by
    refine List.Nodup.of_map (fun id : Option String => id.getD "unassigned") ?_
    rw [hkeys]
    exact Grouping.nodup_groupBy trades
  have hperm := (perAccount_perm db trades).map AccountAggregate.accountId
  rw [List.map_map] at hperm
  exact hperm.nodup_iff.mpr hnodup

theorem sum_realized (trades : List ViewedTrade) :
    (((trades.filter fun t => decide (t.status = .closed)).filter fun t =>
      decide (t.pnl ≠ none)).map fun t => t.pnl.getD 0).sum = (trades.map realized).sum := by
  induction trades with
  | nil =>
      rfl
  | cons t rest ih =>
      rw [List.map_cons, List.sum_cons, <- ih]
      unfold realized
      by_cases hclosed : t.status = .closed
      · cases hpnl : t.pnl <;> simp [hclosed, hpnl]
      · simp [hclosed]

theorem amounts_perAccount (hsub : forall t, t ∈ trades -> t ∈ db.trades) :
    |((perAccount db trades).map AccountAggregate.realizedPnl).sum -
      roundTo 100 (trades.map realized).sum| ≤
        (((perAccount db trades).length : ℚ) + 1) / 200 := by
  have hperm := (perAccount_perm db trades).map AccountAggregate.realizedPnl
  have hround : (((byAccount db trades).map Prod.snd).map roundAggregate).map
      AccountAggregate.realizedPnl =
      (((byAccount db trades).map Prod.snd).map AccountAggregate.realizedPnl).map
        (roundTo 100) := by
    simp only [List.map_map]
    rfl
  have hsum := sum_byAccount db trades realized AccountAggregate.realizedPnl
    fun k a hmem => by
      rw [(mem_byAccount hsub hmem).1]
      rfl
  have hparts := abs_sum_roundTo_sub_roundTo_le (by norm_num : (0 : ℚ) < 100)
    (((byAccount db trades).map Prod.snd).map AccountAggregate.realizedPnl)
  have hlength : (((byAccount db trades).map Prod.snd).map AccountAggregate.realizedPnl).length =
      (perAccount db trades).length := by
    rw [(perAccount_perm db trades).length_eq]
    simp only [List.length_map]
  rw [hsum, hlength] at hparts
  rw [hperm.sum_eq, hround]
  exact hparts.trans (le_of_eq (by ring))

theorem counts_perAccount (hsub : forall t, t ∈ trades -> t ∈ db.trades) :
    ((perAccount db trades).map AccountAggregate.tradesCount).sum = trades.length := by
  have hperm := (perAccount_perm db trades).map AccountAggregate.tradesCount
  have hround : (((byAccount db trades).map Prod.snd).map roundAggregate).map
      AccountAggregate.tradesCount =
      ((byAccount db trades).map Prod.snd).map AccountAggregate.tradesCount := by
    rw [List.map_map]
    rfl
  have hsum := sum_byAccount db trades (fun _ => 1)
    AccountAggregate.tradesCount fun k a hmem => by
      rw [(mem_byAccount hsub hmem).1]
      simp [aggregateOf, tally]
  rw [hperm.sum_eq, hround, hsum]
  simp

theorem wins_add_losses_le (trades : List ViewedTrade) :
    (trades.filter fun t => decide (t.status = .closed)).countP
        (fun t => decide (0 < t.pnl.getD 0)) +
      (trades.filter fun t => decide (t.status = .closed)).countP
        (fun t => decide (t.pnl.getD 0 < 0)) ≤ trades.length := by
  induction trades with
  | nil =>
      exact le_rfl
  | cons t rest ih =>
      rw [List.filter_cons, List.length_cons]
      split_ifs with hclosed
      · rw [List.countP_cons, List.countP_cons]
        rcases lt_trichotomy (t.pnl.getD 0) 0 with hloss | heven | hwin
        · rw [if_neg (by simpa using hloss.le), if_pos (decide_eq_true hloss)]
          omega
        · rw [if_neg (by simp [heven]), if_neg (by simp [heven])]
          omega
        · rw [if_pos (decide_eq_true hwin), if_neg (by simpa using hwin.le)]
          omega
      · omega

theorem sharedOut_recompute (hsub : forall t, t ∈ trades -> t ∈ db.trades)
    (session : FiledSession) : SharedOut trades (recomputeSessionAggregates db session trades) where
  once := nodup_accountIds hsub
  own := by
    intro a ha
    rcases mem_perAccount.mp ha with ⟨k, b, hmem, rfl⟩
    rcases mem_byAccount hsub hmem with ⟨hb, _, hne, hfills⟩
    refine ⟨itemsOf accountKey trades k, hne, hfills, ?_, ?_⟩
    · change b.tradesCount = _
      rw [hb]
      rfl
    · change roundTo 100 b.realizedPnl = _
      rw [hb]
      rfl
  counts := counts_perAccount hsub
  amounts := by
    change |_ - roundTo 100 _| ≤ _
    rw [sum_realized]
    exact amounts_perAccount hsub
  bestFirst := KeyedRows.pairwise_sortByKey
    (fun a : AccountAggregate => OrderDual.toDual a.realizedPnl) _
  outcomes := wins_add_losses_le trades

end Shares

theorem mem_sessionFills {db : ViewTables} {sessionId : String} {viewer : Option String}
    {t : ViewedTrade} (h : t ∈ db.sessionFills sessionId viewer) : t ∈ db.trades :=
  List.mem_of_mem_filter h

theorem mem_returnedFills {db : ViewTables} (reads : ReadOrders) {sessionId : String}
    {viewer : Option String} {t : ViewedTrade}
    (h : t ∈ reads.trades.order (db.sessionFills sessionId viewer)) : t ∈ db.trades :=
  mem_sessionFills ((reads.trades.perm _).mem_iff.mp h)

/-- Whoever looks at a session and however the rows come, the breakdown shares out the fills
in scope among their accounts. -/
theorem session_breakdown_adds_up (db : ViewTables) (reads : ReadOrders)
    (viewer : Option String) (session : FiledSession) :
    SharedOut (reads.trades.order (db.sessionFills session.row.id viewer))
      (viewSession db reads viewer session) := by
  apply sharedOut_recompute
  intro t ht
  exact mem_returnedFills reads ht

/-!
# A participant's share
-/

section Share

variable {db : ViewTables} {trades others : List ViewedTrade}

theorem inScope_some (db : ViewTables) {userId : String} {accountId : Option String} :
    db.InScope (some userId) accountId <-> db.OwnedBy userId accountId := by
  constructor
  · intro h
    exact h userId rfl
  · intro h u hu
    cases hu
    exact h

/-- The account of the key is one of the user's. -/
def ownKey (db : ViewTables) (userId : String) (k : String) : Bool :=
  decide (db.OwnedBy userId (some k))

theorem ownKey_getD (db : ViewTables) (userId : String) (accountId : Option String) :
    ownKey db userId (accountId.getD "unassigned") = decide (db.OwnedBy userId accountId) := by
  cases accountId with
  | none =>
      unfold ownKey
      rw [decide_eq_decide, ownedBy_iff, ownedBy_iff]
      constructor
      · rintro ⟨a, ha, hid, _⟩
        exact absurd (Option.some.inj hid).symm (db.generated a ha)
      · rintro ⟨a, _, hid, _⟩
        cases hid
  | some id =>
      rfl

theorem sessionFills_viewer (db : ViewTables) (sessionId userId : String) :
    db.sessionFills sessionId (some userId) =
      (db.sessionFills sessionId none).filter fun t => ownKey db userId (accountKey t) := by
  unfold ViewTables.sessionFills
  rw [List.filter_filter]
  apply List.filter_congr
  intro t _
  have hall : db.InScope none t.accountId := by
    intro u hu
    cases hu
  rw [accountKey, ownKey_getD, <- Bool.decide_and, decide_eq_decide, inScope_some]
  tauto

theorem byAccount_filter_perm (hsub : forall t, t ∈ trades -> t ∈ db.trades) (userId : String)
    (hperm : others.Perm (trades.filter fun t => ownKey db userId (accountKey t))) :
    (byAccount db others).Perm
      ((byAccount db trades).filter fun entry => ownKey db userId entry.1) := by
  apply Grouping.groupBy_filter_perm (ownKey db userId) hperm
  intro k xs ys hxs hmem
  cases xs with
  | nil =>
      rw [hxs.nil_eq]
  | cons t rest =>
      have hsame : forall u, u ∈ t :: rest -> u.accountId = t.accountId := by
        intro u hu
        have ht := hmem t List.mem_cons_self
        have hu := hmem u hu
        exact accountId_eq_of_key db (hsub u hu.2) (hsub t ht.2) (hu.1.trans ht.1.symm)
      have hne : ys ≠ [] := by
        intro hnil
        rw [hnil] at hxs
        exact absurd hxs.eq_nil (List.cons_ne_nil t rest)
      rw [entryOf_fills db (List.cons_ne_nil t rest) hsame,
        entryOf_fills db hne fun u hu => hsame u (hxs.mem_iff.mpr hu), aggregateOf_perm db _ hxs]

theorem perAccount_filter_perm (hsub : forall t, t ∈ trades -> t ∈ db.trades) (userId : String)
    (hperm : others.Perm (trades.filter fun t => ownKey db userId (accountKey t))) :
    (perAccount db others).Perm
      ((perAccount db trades).filter fun a => decide (db.OwnedBy userId a.accountId)) := by
  have hkept : (((byAccount db trades).filter fun entry => ownKey db userId entry.1).map
      Prod.snd).map roundAggregate =
      (((byAccount db trades).map Prod.snd).map roundAggregate).filter fun a =>
        decide (db.OwnedBy userId a.accountId) := by
    rw [List.map_map, List.map_map, List.filter_map]
    congr 1
    apply List.filter_congr
    rintro ⟨k, a⟩ hmem
    have hkey := (mem_byAccount hsub hmem).2.1
    change ownKey db userId k = decide (db.OwnedBy userId a.accountId)
    rw [<- hkey, ownKey_getD]
  have hmap := ((byAccount_filter_perm hsub userId hperm).map Prod.snd).map roundAggregate
  rw [hkept] at hmap
  exact ((perAccount_perm db others).trans hmap).trans
    ((perAccount_perm db trades).filter _).symm

end Share

/-- What a participant sees of a session is the part of the administrator's view that is
about the participant's accounts, entry by entry. -/
theorem participant_sees_own_share (db : ViewTables) (reads reads' : ReadOrders)
    (userId : String) (session : FiledSession) :
    (viewSession db reads' (some userId) session).perAccount.Perm
        ((viewSession db reads none session).perAccount.filter fun a =>
          decide (db.OwnedBy userId a.accountId)) ∧
      (viewSession db reads' (some userId) session).session.row.tradesCount =
        (((viewSession db reads none session).perAccount.filter fun a =>
          decide (db.OwnedBy userId a.accountId)).map AccountAggregate.tradesCount).sum := by
  have hown := (reads'.trades.perm (db.sessionFills session.row.id (some userId))).trans
    (List.Perm.of_eq (sessionFills_viewer db session.row.id userId))
  have hall := (reads.trades.perm (db.sessionFills session.row.id none)).symm.filter
    fun t => ownKey db userId (accountKey t)
  have hperm := perAccount_filter_perm (fun _ ht => mem_returnedFills reads ht) userId
    (hown.trans hall)
  have hsub : forall t, t ∈ reads'.trades.order (db.sessionFills session.row.id (some userId)) ->
      t ∈ db.trades := by
    intro t ht
    exact mem_returnedFills reads' ht
  refine ⟨hperm, ?_⟩
  exact (counts_perAccount hsub).symm.trans (hperm.map AccountAggregate.tradesCount).sum_eq

/-!
# Tenants
-/

structure SameFor (userId : String) (db db' : ViewTables) : Prop where
  accounts : (db.accounts.filter fun a => decide (a.userId = userId)) =
    db'.accounts.filter fun a => decide (a.userId = userId)
  trades : (db.trades.filter fun t => decide (db.OwnedBy userId t.accountId)) =
    db'.trades.filter fun t => decide (db'.OwnedBy userId t.accountId)
  sessions : db.sessions = db'.sessions

section Tenants

variable {userId : String} {db db' : ViewTables}

theorem SameFor.account_mem (h : SameFor userId db db') {a : ViewedAccount}
    (huser : a.userId = userId) (ha : a ∈ db.accounts) : a ∈ db'.accounts := by
  have hown : a ∈ db.accounts.filter fun a => decide (a.userId = userId) :=
    List.mem_filter.mpr ⟨ha, decide_eq_true huser⟩
  rw [h.accounts] at hown
  exact List.mem_of_mem_filter hown

theorem SameFor.ownedBy (h : SameFor userId db db') {accountId : Option String}
    (hown : db.OwnedBy userId accountId) :
    db'.OwnedBy userId accountId ∧ db.accountOf accountId = db'.accountOf accountId := by
  rcases (ownedBy_iff db).mp hown with ⟨a, ha, rfl, huser⟩
  have ha' := h.account_mem huser ha
  refine ⟨(ownedBy_iff db').mpr ⟨a, ha', rfl, huser⟩, ?_⟩
  rw [accountOf_of_mem db ha, accountOf_of_mem db' ha']

theorem SameFor.enabledAccounts (h : SameFor userId db db') :
    db.enabledAccounts userId = db'.enabledAccounts userId := by
  have hsplit : forall db : ViewTables, db.enabledAccounts userId =
      (db.accounts.filter fun a => decide (a.userId = userId)).countP
        ViewedAccount.isEnabled := by
    intro db
    unfold ViewTables.enabledAccounts
    rw [List.countP_filter]
    apply List.countP_congr
    intro a _
    rw [Bool.and_comm]
  rw [hsplit, hsplit, h.accounts]

theorem sessionFills_own (db : ViewTables) (userId sessionId : String) :
    db.sessionFills sessionId (some userId) =
      (db.trades.filter fun t => decide (db.OwnedBy userId t.accountId)).filter fun t =>
        decide (t.sessionId = some sessionId ∧ (t.status = .open_ ∨ t.status = .closed) ∧
          t.exitReason ≠ some "ORPHAN") := by
  unfold ViewTables.sessionFills
  rw [List.filter_filter]
  apply List.filter_congr
  intro t _
  rw [<- Bool.decide_and, decide_eq_decide, inScope_some]
  tauto

theorem ownTrades_own (db : ViewTables) (userId sessionId : String) :
    db.ownTrades userId sessionId =
      (db.trades.filter fun t => decide (db.OwnedBy userId t.accountId)).filter fun t =>
        decide (t.sessionId = some sessionId) := by
  unfold ViewTables.ownTrades
  rw [List.filter_filter]
  apply List.filter_congr
  intro t _
  rw [<- Bool.decide_and]

theorem SameFor.ownTrades (h : SameFor userId db db') (sessionId : String) :
    db.ownTrades userId sessionId = db'.ownTrades userId sessionId := by
  rw [ownTrades_own, ownTrades_own, h.trades]

theorem SameFor.viewSession (h : SameFor userId db db') (reads : ReadOrders)
    (session : FiledSession) :
    viewSession db reads (some userId) session = viewSession db' reads (some userId) session := by
  have hfills : db.sessionFills session.row.id (some userId) =
      db'.sessionFills session.row.id (some userId) := by
    rw [sessionFills_own, sessionFills_own, h.trades]
  have hentries : byAccount db (reads.trades.order (db.sessionFills session.row.id (some userId))) =
      byAccount db' (reads.trades.order (db.sessionFills session.row.id (some userId))) := by
    apply Grouping.groupBy_congr
    intro t ht
    have hfill := (reads.trades.perm _).mem_iff.mp ht
    rw [sessionFills_own] at hfill
    have hown := of_decide_eq_true (List.mem_filter.mp (List.mem_of_mem_filter hfill)).2
    unfold blankAggregate
    rw [(h.ownedBy hown).2]
  unfold Live.viewSession recomputeSessionAggregates perAccount
  rw [hentries, hfills]

theorem SameFor.listedSessions (h : SameFor userId db db') :
    db.listedSessions userId false = db'.listedSessions userId false := by
  unfold ViewTables.listedSessions
  rw [if_neg Bool.false_ne_true, if_neg Bool.false_ne_true, h.sessions, h.enabledAccounts]
  apply List.filter_congr
  intro s _
  rw [h.ownTrades]

end Tenants

/-- What a participant is shown of the sessions depends on the participant's own accounts
and trades alone, whatever other users hold or trade. -/
theorem participants_isolated {userId : String} {db db' : ViewTables}
    (h : SameFor userId db db') (reads : ReadOrders) :
    (forall limit, listSessions db reads userId false limit =
        listSessions db' reads userId false limit) ∧
      (forall sessionId, getSession db reads userId sessionId false =
        getSession db' reads userId sessionId false) ∧
      forall sessionId accountId, sessionTrades db reads userId sessionId accountId =
        sessionTrades db' reads userId sessionId accountId := by
  refine ⟨?_, ?_, ?_⟩
  · intro limit
    unfold listSessions
    rw [h.listedSessions]
    apply List.map_congr_left
    intro s _
    exact h.viewSession reads s
  · intro sessionId
    unfold getSession
    rw [if_neg Bool.false_ne_true, if_neg Bool.false_ne_true, h.sessions, h.ownTrades,
      h.enabledAccounts]
    cases db'.sessions.find? fun s => decide (s.row.id = sessionId) with
    | none =>
        rfl
    | some s =>
        dsimp only
        rw [h.viewSession]
  · intro sessionId accountId
    unfold sessionTrades
    rw [h.ownTrades]

def sharedSession : FiledSession :=
  { row :=
      { id := "session", startedAt := 0, endedAt := none, strategyVersion := .gideon
        riskPercent := 1, mode := .mock, mockBalance := none, startEquity := 0
        endEquity := none, realizedPnl := 0, tradesCount := 0, winsCount := 0
        lossesCount := 0, status := .running, pairs := [] }
    accountId := none }

def tradeOfAccount (accountId : String) (pnl : ℚ) : ViewedTrade :=
  { clientOrderId := none, sessionId := some "session", accountId := some accountId
    symbol := "XAUUSD", lotSize := 1, entryPrice := 2000, slPrice := 1990, status := .closed
    exitReason := some "TP", pnl := some pnl, createdAt := 0 }

def oneTenant : ViewTables :=
  { accounts := [⟨"first", "alice", "Main", "MOCK", true⟩]
    sessions := [sharedSession]
    trades := [tradeOfAccount "first" 10]
    distinct := by decide
    generated := by decide
    referenced := by
      intro t ht id hid
      rw [List.mem_singleton.mp ht] at hid
      cases hid
      decide }

def twoTenants : ViewTables :=
  { accounts :=
      [⟨"first", "alice", "Main", "MOCK", true⟩, ⟨"second", "bob", "Main", "MOCK", true⟩]
    sessions := [sharedSession]
    trades := [tradeOfAccount "second" (-5), tradeOfAccount "first" 10]
    distinct := by decide
    generated := by decide
    referenced := by
      intro t ht id hid
      rcases List.mem_cons.mp ht with rfl | ht
      · cases hid
        decide
      · rw [List.mem_singleton.mp ht] at hid
        cases hid
        decide }

def storedOrder (row : Type) : ReadOrder row :=
  { order := fun rows => rows, perm := List.Perm.refl }

theorem sameFor_alice : SameFor "alice" twoTenants oneTenant where
  accounts := by decide +kernel
  trades := by decide +kernel
  sessions := rfl

theorem participants_isolated_from_another :
    (forall limit,
        listSessions twoTenants ⟨storedOrder _, storedOrder _⟩ "alice" false limit =
          listSessions oneTenant ⟨storedOrder _, storedOrder _⟩ "alice" false limit) ∧
      (forall sessionId,
        getSession twoTenants ⟨storedOrder _, storedOrder _⟩ "alice" sessionId false =
          getSession oneTenant ⟨storedOrder _, storedOrder _⟩ "alice" sessionId false) ∧
      forall sessionId accountId,
        sessionTrades twoTenants ⟨storedOrder _, storedOrder _⟩ "alice" sessionId accountId =
          sessionTrades oneTenant ⟨storedOrder _, storedOrder _⟩ "alice" sessionId accountId :=
  participants_isolated sameFor_alice ⟨storedOrder _, storedOrder _⟩

/-!
# The sessions of the engine
-/

def startedSession (row : LiveSession) : FiledSession :=
  { row := row, accountId := none }

def ViewTables.withSessions (db : ViewTables) (rows : List LiveSession) : ViewTables :=
  { db with sessions := rows.map startedSession }

section EngineSessions

variable (db : ViewTables) {rows : List LiveSession}

theorem not_ownedBy_none (userId : String) : ¬ db.OwnedBy userId none := by
  rw [ownedBy_iff]
  rintro ⟨a, _, hid, _⟩
  cases hid

theorem find_startedSession (hdistinct : (rows.map LiveSession.id).Nodup) {row : LiveSession}
    (hrow : row ∈ rows) :
    (rows.map startedSession).find? (fun s => decide (s.row.id = row.id)) =
      some (startedSession row) := by
  induction rows with
  | nil =>
      cases hrow
  | cons first rest ih =>
      rw [List.map_cons, List.nodup_cons] at hdistinct
      rw [List.map_cons, List.find?_cons]
      rcases List.mem_cons.mp hrow with rfl | hrest
      · rw [show decide ((startedSession row).row.id = row.id) = true from decide_eq_true rfl]
      · have hne : (startedSession first).row.id ≠ row.id := by
          intro heq
          exact hdistinct.1 (List.mem_map.mpr ⟨row, hrest, heq.symm⟩)
        rw [decide_eq_false hne]
        exact ih hdistinct.2 hrest

end EngineSessions

def tablesAfter (env : ControlEnv) (enabled : Bool) (ops : List ControlOp) (db : ViewTables) :
    ViewTables :=
  db.withSessions (runFrom (controlStep env) (.fresh enabled) ops).liveSessions

/-- In every run of the engine's control, however starts, stops and restarts interleave, its
sessions are shown to those whose accounts traded in them, to those with an enabled account
while they run, and never to an administrator. -/
theorem engine_sessions_shown (env : ControlEnv) (enabled : Bool) (ops : List ControlOp)
    (db : ViewTables) (reads : ReadOrders) (userId : String) :
    (forall row, row ∈ (runFrom (controlStep env) (.fresh enabled) ops).liveSessions ->
        ((getSession (tablesAfter env enabled ops db) reads userId row.id false).isSome = true <->
          db.ownTrades userId row.id ≠ [] ∨
            (row.status = .running ∧ 0 < db.enabledAccounts userId))) ∧
      (forall sessionId,
        getSession (tablesAfter env enabled ops db) reads userId sessionId true = none) ∧
      forall limit, listSessions (tablesAfter env enabled ops db) reads userId true limit = [] := by
  have hnone : forall s, s ∈ (tablesAfter env enabled ops db).sessions ->
      ¬ (tablesAfter env enabled ops db).OwnedBy userId s.accountId := by
    intro s hs
    rcases List.mem_map.mp hs with ⟨row, _, rfl⟩
    exact not_ownedBy_none _ userId
  refine ⟨?_, ?_, ?_⟩
  · intro row hrow
    have hdistinct := (controlSound_run env enabled ops).unique
    have hfind := find_startedSession hdistinct hrow
    change (getSession (tablesAfter env enabled ops db) reads userId row.id false).isSome = true <->
      (tablesAfter env enabled ops db).ownTrades userId row.id ≠ [] ∨
        (row.status = .running ∧ 0 < (tablesAfter env enabled ops db).enabledAccounts userId)
    have hshown : getSession (tablesAfter env enabled ops db) reads userId row.id false =
        if ((tablesAfter env enabled ops db).ownTrades userId row.id).length = 0 ∧
          (if row.status = .running then (tablesAfter env enabled ops db).enabledAccounts userId
            else 0) = 0 then none
        else some (viewSession (tablesAfter env enabled ops db) reads (some userId)
          (startedSession row)) := by
      unfold getSession
      rw [if_neg Bool.false_ne_true, show (tablesAfter env enabled ops db).sessions.find?
        (fun s => decide (s.row.id = row.id)) = some (startedSession row) from hfind]
      rfl
    rw [hshown]
    by_cases hrunning : row.status = .running
    · by_cases htrades : (tablesAfter env enabled ops db).ownTrades userId row.id = [] <;>
        simp [hrunning, htrades, Nat.pos_iff_ne_zero]
    · by_cases htrades : (tablesAfter env enabled ops db).ownTrades userId row.id = [] <;>
        simp [hrunning, htrades]
  · intro sessionId
    unfold getSession
    rw [if_pos rfl, Option.map_eq_none_iff, List.find?_eq_none]
    intro s hs
    simpa using fun _ => hnone s hs
  · intro limit
    have hlisted : (tablesAfter env enabled ops db).listedSessions userId true = [] := by
      unfold ViewTables.listedSessions
      rw [if_pos rfl, List.filter_eq_nil_iff]
      intro s hs
      simpa using hnone s hs
    have hempty : newestFirst reads [] = [] := by
      unfold newestFirst
      rw [(reads.sessions.perm []).eq_nil]
      rfl
    unfold listSessions
    rw [hlisted, hempty]
    dsimp only
    rw [List.take_nil, List.map_nil]

end Live
end Shamarx
