import Shamarx.Foundation.AppendOnly
import Shamarx.Foundation.Calendar
import Shamarx.Foundation.Runs
import Shamarx.Live.PositionMonitor

/-!
# Pending retrace entries

A limit order rests at the broker until it is filled or lapses, and its row is
PENDING until a sweep of the pending-entry monitor learns which.  The status of an
order takes two reads at the broker: the orders on its book, and the deals of the
last three days.
-/

namespace Shamarx
namespace Live
namespace PendingEntries

open Foundation

/-!
# The status of an order
-/

structure Deal where
  orderId : Nat
  positionId : Nat
  closing : Bool
  executionPrice : ℚ
  executionTimestamp : Int
  deriving DecidableEq

inductive OrderStatusAnswer where
  | pending
  | filled (positionId : Nat) (executionPrice : ℚ)
  | gone
  deriving DecidableEq

def dealWindowMs : Int :=
  3 * msPerDay

def dealList (deals : List Deal) (nowMs : Int) : List Deal :=
  deals.filter fun d =>
    nowMs - dealWindowMs ≤ d.executionTimestamp ∧ d.executionTimestamp ≤ nowMs

def Entry (orderId : Nat) (d : Deal) : Prop :=
  d.orderId = orderId ∧ d.closing = false ∧ d.positionId ≠ 0

instance (orderId : Nat) (d : Deal) : Decidable (Entry orderId d) :=
  inferInstanceAs (Decidable (_ ∧ _ ∧ _))

/-- The end of `_get_order_status_impl`, for an order that is not on the book. -/
def dealAnswer (orderId : Nat) (deals : List Deal) : OrderStatusAnswer :=
  match deals.find? fun d => Entry orderId d with
  | some d => .filled d.positionId d.executionPrice
  | none => .gone

/-!
# Rows and sweeps
-/

inductive StatusEntry where
  | pending (timestamp : Int) (orderId : Nat)
  | open_ (timestamp : Int) (ticket : Nat)
  | expired (timestamp : Int)
  deriving DecidableEq

structure EntryRow where
  brokerOrderId : Nat
  limitPrice : ℚ
  status : TradeStatus
  mt5Ticket : Option Nat
  entryPrice : ℚ
  peakFavorablePrice : ℚ
  closedAt : Option Int
  statusHistory : List StatusEntry
  deriving DecidableEq

def EntryRow.parked (orderId : Nat) (limitPrice : ℚ) (timestamp : Int) : EntryRow :=
  { brokerOrderId := orderId
    limitPrice := limitPrice
    status := .pending
    mt5Ticket := none
    entryPrice := limitPrice
    peakFavorablePrice := limitPrice
    closedAt := none
    statusHistory := [.pending timestamp orderId] }

def EntryRow.promoted (read : EntryRow) (positionId : Nat) (executionPrice : ℚ) (timestamp : Int)
    (row : EntryRow) : EntryRow :=
  let fillPrice := if 0 < executionPrice then executionPrice else read.limitPrice
  { row with
    status := .open_
    mt5Ticket := some positionId
    entryPrice := fillPrice
    peakFavorablePrice := fillPrice
    statusHistory := read.statusHistory ++ [.open_ timestamp positionId] }

def EntryRow.expired (read : EntryRow) (timestamp : Int) (row : EntryRow) : EntryRow :=
  { row with
    status := .cancelled
    closedAt := some timestamp
    statusHistory := read.statusHistory ++ [.expired timestamp] }

inductive SweepPhase where
  | next
  | offBook
  | answered (answer : OrderStatusAnswer)

/-- The rows that a sweep has read and not yet dealt with, each with its place. -/
structure Sweep where
  todo : List (EntryRow × Nat)
  phase : SweepPhase

structure OrderBook where
  resting : List Nat
  deals : List Deal
  nextOrder : Nat

namespace OrderBook

def fresh : OrderBook :=
  { resting := [], deals := [], nextOrder := 0 }

def accept (book : OrderBook) : OrderBook :=
  { book with resting := book.nextOrder :: book.resting, nextOrder := book.nextOrder + 1 }

def remove (book : OrderBook) (orderId : Nat) : OrderBook :=
  { book with resting := book.resting.filter (· ≠ orderId) }

def deal (book : OrderBook) (d : Deal) : OrderBook :=
  { book with deals := book.deals ++ [d] }

end OrderBook

structure EntryRun where
  book : OrderBook
  rows : List EntryRow
  sweep : Option Sweep

def EntryRun.fresh : EntryRun :=
  { book := .fresh, rows := [], sweep := none }

/-- `findMany` of the pending rows, fifty of those that the database lists first. -/
def pendingRows (rows : List EntryRow) (listed : List Nat) : List (EntryRow × Nat) :=
  (rows.zipIdx.filter fun e => e.1.status = .pending ∧ e.2 ∈ listed).take 50

inductive EntryOp where
  | accept
  | park (orderId : Nat) (limitPrice : ℚ) (timestamp : Int)
  | fill (orderId positionId : Nat) (price : ℚ) (timestamp : Int) (stays : Bool)
  | lapse (orderId : Nat)
  | closing (orderId positionId : Nat) (price : ℚ) (timestamp : Int)
  | sweep (listed : List Nat)
  | reconcile
  | deals (nowMs : Int)
  | update (stored : Bool) (timestamp : Int)
  | fails
  | finish
  | restart
  | close (row : Nat)

namespace EntryRun

def skip (s : EntryRun) (rest : List (EntryRow × Nat)) : EntryRun :=
  { s with sweep := some { todo := rest, phase := .next } }

def write (s : EntryRun) (read : EntryRow) (i : Nat) (timestamp : Int) :
    OrderStatusAnswer -> EntryRun
  | .pending => s
  | .filled positionId price =>
      { s with rows := s.rows.modify i (read.promoted positionId price timestamp) }
  | .gone => { s with rows := s.rows.modify i (read.expired timestamp) }

end EntryRun

/-- One step of the broker, of the engine as it parks an order, of the one sweep that
may run, or of the monitors that close open rows. -/
def entryStep (s : EntryRun) : EntryOp -> EntryRun
  | .accept => { s with book := s.book.accept }
  | .park orderId limitPrice timestamp =>
      if orderId < s.book.nextOrder then
        { s with rows := s.rows ++ [.parked orderId limitPrice timestamp] }
      else s
  | .fill orderId positionId price timestamp stays =>
      if orderId ∈ s.book.resting ∧ positionId ≠ 0 then
        let book := s.book.deal
          { orderId := orderId
            positionId := positionId
            closing := false
            executionPrice := price
            executionTimestamp := timestamp }
        { s with book := if stays then book else book.remove orderId }
      else s
  | .lapse orderId => { s with book := s.book.remove orderId }
  | .closing orderId positionId price timestamp =>
      { s with
        book := s.book.deal
          { orderId := orderId
            positionId := positionId
            closing := true
            executionPrice := price
            executionTimestamp := timestamp } }
  | .sweep listed =>
      match s.sweep with
      | none => s.skip (pendingRows s.rows listed)
      | some _ => s
  | .reconcile =>
      match s.sweep with
      | some { todo := (read, i) :: rest, phase := .next } =>
          if read.brokerOrderId ∈ s.book.resting then s.skip rest
          else { s with sweep := some { todo := (read, i) :: rest, phase := .offBook } }
      | _ => s
  | .deals nowMs =>
      match s.sweep with
      | some { todo := (read, i) :: rest, phase := .offBook } =>
          { s with
            sweep := some
              { todo := (read, i) :: rest
                phase := .answered (dealAnswer read.brokerOrderId (dealList s.book.deals nowMs)) } }
      | _ => s
  | .update stored timestamp =>
      match s.sweep with
      | some { todo := (read, i) :: rest, phase := .answered answer } =>
          if stored then (s.write read i timestamp answer).skip rest else s.skip rest
      | _ => s
  | .fails =>
      match s.sweep with
      | some { todo := _ :: rest, phase := _ } => s.skip rest
      | _ => s
  | .finish =>
      match s.sweep with
      | some { todo := [], phase := _ } => { s with sweep := none }
      | _ => s
  | .restart => { s with sweep := none }
  | .close i =>
      { s with
        rows := s.rows.modify i fun row =>
          if row.status = .open_ then { row with status := .closed } else row }

/-!
# What is promised and what it takes
-/

def OrderBook.Filled (book : OrderBook) (orderId : Nat) : Prop :=
  exists d, d ∈ book.deals ∧ Entry orderId d

instance (book : OrderBook) (orderId : Nat) : Decidable (book.Filled orderId) :=
  inferInstanceAs (Decidable (exists d, d ∈ book.deals ∧ Entry orderId d))

/-- No row of a filled order is cancelled. -/
def NoFillExpired (s : EntryRun) : Prop :=
  forall row, row ∈ s.rows -> row.status = .cancelled -> ¬ s.book.Filled row.brokerOrderId

instance (s : EntryRun) : Decidable (NoFillExpired s) :=
  inferInstanceAs (Decidable (forall row, row ∈ s.rows -> row.status = .cancelled ->
    ¬ s.book.Filled row.brokerOrderId))

/-- The history grows, and a row that has left PENDING does not return to it. -/
def Version (old new : EntryRow) : Prop :=
  old.statusHistory <+: new.statusHistory ∧ (old.status ≠ .pending -> new.status ≠ .pending)

/-- A deal list that decides on a filled order reaches back to a fill of it. -/
def FillInWindow (s : EntryRun) : EntryOp -> Prop
  | .deals nowMs =>
      match s.sweep with
      | some { todo := (read, _) :: _, phase := .offBook } =>
          s.book.Filled read.brokerOrderId ->
            exists d, d ∈ dealList s.book.deals nowMs ∧ Entry read.brokerOrderId d
      | _ => True
  | _ => True

instance (s : EntryRun) (op : EntryOp) : Decidable (FillInWindow s op) := by
  unfold FillInWindow
  repeat' split
  all_goals infer_instance

/-!
# What a sweep has read
-/

variable {s : EntryRun} {orderId : Nat}

theorem Version.refl (row : EntryRow) : Version row row :=
  ⟨List.prefix_refl _, id⟩

theorem version_promoted {read row : EntryRow} (h : read.statusHistory = row.statusHistory)
    (positionId : Nat) (price : ℚ) (timestamp : Int) :
    Version row (read.promoted positionId price timestamp row) := by
  refine ⟨?_, fun _ => TradeStatus.noConfusion⟩
  rw [← h]
  exact List.prefix_append _ _

theorem version_expired {read row : EntryRow} (h : read.statusHistory = row.statusHistory)
    (timestamp : Int) : Version row (read.expired timestamp row) := by
  refine ⟨?_, fun _ => TradeStatus.noConfusion⟩
  rw [← h]
  exact List.prefix_append _ _

/-- The rows of the sweep are different ones, and as it has read them, still pending. -/
structure TodoRead (rows : List EntryRow) (todo : List (EntryRow × Nat)) : Prop where
  nodup : (todo.map Prod.snd).Nodup
  read : forall e, e ∈ todo -> rows[e.2]? = some e.1 ∧ e.1.status = .pending

section TodoRead

variable {rows : List EntryRow} {todo rest : List (EntryRow × Nat)} {read : EntryRow} {i : Nat}

theorem todoRead_pendingRows (rows : List EntryRow) (listed : List Nat) :
    TodoRead rows (pendingRows rows listed) where
  nodup := by
    have hsub : List.Sublist ((pendingRows rows listed).map Prod.snd)
        (rows.zipIdx.map Prod.snd) :=
      ((List.take_sublist 50 _).trans List.filter_sublist).map Prod.snd
    apply List.Nodup.sublist hsub
    rw [List.zipIdx_map_snd]
    exact List.nodup_range'
  read := by
    intro e he
    rcases List.mem_filter.mp (List.mem_of_mem_take he) with ⟨hmem, hpending⟩
    exact ⟨List.mem_zipIdx_iff_getElem?.mp hmem, (of_decide_eq_true hpending).1⟩

theorem TodoRead.tail (h : TodoRead rows ((read, i) :: rest)) : TodoRead rows rest where
  nodup := (List.nodup_cons.mp h.nodup).2
  read := fun e he => h.read e (List.mem_cons_of_mem _ he)

theorem TodoRead.modify (h : TodoRead rows todo) {f : EntryRow -> EntryRow}
    (hf : forall e, e ∈ todo -> e.2 = i -> f e.1 = e.1) : TodoRead (rows.modify i f) todo where
  nodup := h.nodup
  read := by
    intro e he
    refine ⟨?_, (h.read e he).2⟩
    rw [List.getElem?_modify, (h.read e he).1]
    by_cases heq : i = e.2
    · exact congrArg some ((if_pos heq).trans (hf e he heq.symm))
    · exact congrArg some (if_neg heq)

theorem TodoRead.modify_head (h : TodoRead rows ((read, i) :: rest)) (f : EntryRow -> EntryRow) :
    TodoRead (rows.modify i f) rest := by
  apply h.tail.modify
  intro e he heq
  have hmem : e.2 ∈ rest.map Prod.snd := List.mem_map_of_mem he
  rw [heq] at hmem
  exact absurd hmem (List.nodup_cons.mp h.nodup).1

theorem TodoRead.append (h : TodoRead rows todo) (fresh : List EntryRow) :
    TodoRead (rows ++ fresh) todo where
  nodup := h.nodup
  read := by
    intro e he
    rcases h.read e he with ⟨hrow, hpending⟩
    have hlt : e.2 < rows.length := (List.getElem?_eq_some_iff.mp hrow).1
    exact ⟨(List.getElem?_append_left hlt).trans hrow, hpending⟩

end TodoRead

/-!
# Orders that are done
-/

/-- The broker has had the order, and it does not rest any more. -/
def OrderBook.Done (book : OrderBook) (orderId : Nat) : Prop :=
  orderId < book.nextOrder ∧ orderId ∉ book.resting

/-- The order is done without a fill. -/
def OrderBook.Lapsed (book : OrderBook) (orderId : Nat) : Prop :=
  book.Done orderId ∧ ¬ book.Filled orderId

section OrderBook

variable {book : OrderBook}

theorem OrderBook.Done.accept (h : book.Done orderId) : book.accept.Done orderId := by
  refine ⟨Nat.lt_succ_of_lt h.1, ?_⟩
  intro hmem
  rcases List.mem_cons.mp hmem with heq | hold
  · exact absurd h.1 (heq ▸ Nat.lt_irrefl book.nextOrder)
  · exact h.2 hold

theorem OrderBook.Done.remove (h : book.Done orderId) (other : Nat) :
    (book.remove other).Done orderId :=
  ⟨h.1, fun hmem => h.2 (List.mem_of_mem_filter hmem)⟩

theorem OrderBook.filled_deal_iff {d : Deal} (hd : ¬ Entry orderId d) :
    (book.deal d).Filled orderId ↔ book.Filled orderId := by
  constructor
  · rintro ⟨d', hmem, hentry⟩
    rcases List.mem_append.mp hmem with hold | hnew
    · exact ⟨d', hold, hentry⟩
    · exact absurd (List.mem_singleton.mp hnew ▸ hentry) hd
  · rintro ⟨d', hmem, hentry⟩
    exact ⟨d', List.mem_append_left _ hmem, hentry⟩

end OrderBook

/-!
# What a step does to the book and to the rows
-/

inductive PendingMove (s : EntryRun) : OrderBook -> List EntryRow -> Prop where
  | quiet : PendingMove s s.book s.rows
  | accepted : PendingMove s s.book.accept s.rows
  | filled (d : Deal) (hrests : d.orderId ∈ s.book.resting) :
      PendingMove s (s.book.deal d) s.rows
  | filledOut (d : Deal) (hrests : d.orderId ∈ s.book.resting) :
      PendingMove s ((s.book.deal d).remove d.orderId) s.rows
  | lapsed (orderId : Nat) : PendingMove s (s.book.remove orderId) s.rows
  | closing (d : Deal) (hclosing : d.closing = true) : PendingMove s (s.book.deal d) s.rows
  | parked (orderId : Nat) (limitPrice : ℚ) (timestamp : Int)
      (hknown : orderId < s.book.nextOrder) :
      PendingMove s s.book (s.rows ++ [.parked orderId limitPrice timestamp])
  | written (read : EntryRow) (i : Nat) (rest : List (EntryRow × Nat)) (answer : OrderStatusAnswer)
      (timestamp : Int)
      (hsw : s.sweep = some { todo := (read, i) :: rest, phase := .answered answer }) :
      PendingMove s s.book (s.write read i timestamp answer).rows
  | closed (i : Nat) :
      PendingMove s s.book (s.rows.modify i fun row =>
        if row.status = .open_ then { row with status := .closed } else row)

theorem write_book (read : EntryRow) (i : Nat) (timestamp : Int) (answer : OrderStatusAnswer) :
    (s.write read i timestamp answer).book = s.book := by
  cases answer <;> rfl

theorem entryStep_move (s : EntryRun) (op : EntryOp) :
    PendingMove s (entryStep s op).book (entryStep s op).rows := by
  cases op with
  | accept =>
      exact .accepted
  | park orderId limitPrice timestamp =>
      simp only [entryStep]
      split_ifs with hknown
      · exact .parked orderId limitPrice timestamp hknown
      · exact .quiet
  | fill orderId positionId price timestamp stays =>
      simp only [entryStep]
      split_ifs with hcan
      · exact .filled _ hcan.1
      · exact .filledOut
          { orderId := orderId
            positionId := positionId
            closing := false
            executionPrice := price
            executionTimestamp := timestamp } hcan.1
      · exact .quiet
  | lapse orderId =>
      exact .lapsed orderId
  | closing orderId positionId price timestamp =>
      exact .closing _ rfl
  | reconcile =>
      simp only [entryStep]
      split
      · split_ifs <;> exact .quiet
      · exact .quiet
  | update stored timestamp =>
      simp only [entryStep]
      split
      · next read i rest answer hsw =>
          split_ifs
          · have hwritten := PendingMove.written read i rest answer timestamp hsw
            rw [← write_book (s := s) read i timestamp answer] at hwritten
            exact hwritten
          · exact .quiet
      · exact .quiet
  | restart =>
      exact .quiet
  | close i =>
      exact .closed i
  | _ =>
      simp only [entryStep]
      split <;> exact .quiet

theorem entryStep_done (s : EntryRun) (op : EntryOp) (h : s.book.Done orderId) :
    (entryStep s op).book.Done orderId ∧
      ((entryStep s op).book.Filled orderId ↔ s.book.Filled orderId) := by
  have hother {d : Deal} (hrests : d.orderId ∈ s.book.resting) : ¬ Entry orderId d := by
    rintro ⟨rfl, -, -⟩
    exact h.2 hrests
  have hmove := entryStep_move s op
  generalize (entryStep s op).book = book, (entryStep s op).rows = rows at hmove ⊢
  cases hmove with
  | accepted =>
      exact ⟨h.accept, Iff.rfl⟩
  | filled d hrests =>
      exact ⟨h, OrderBook.filled_deal_iff (hother hrests)⟩
  | filledOut d hrests =>
      exact ⟨OrderBook.Done.remove h d.orderId, OrderBook.filled_deal_iff (hother hrests)⟩
  | lapsed other =>
      exact ⟨h.remove other, Iff.rfl⟩
  | closing d hclosing =>
      refine ⟨h, OrderBook.filled_deal_iff ?_⟩
      rintro ⟨-, hopening, -⟩
      rw [hclosing] at hopening
      cases hopening
  | _ =>
      exact ⟨h, Iff.rfl⟩

theorem OrderBook.Lapsed.step {op : EntryOp} (h : s.book.Lapsed orderId) :
    (entryStep s op).book.Lapsed orderId :=
  ⟨(entryStep_done s op h.1).1, fun hfilled => h.2 ((entryStep_done s op h.1).2.mp hfilled)⟩

/-!
# Sweeps and rows over a run
-/

/-- The rows of a run are those of known orders, and the sweep has read its rows as
they are; an order that it did not find on the book is done. -/
structure Sound (s : EntryRun) : Prop where
  known : forall row, row ∈ s.rows -> row.brokerOrderId < s.book.nextOrder
  todo : forall sw, s.sweep = some sw -> TodoRead s.rows sw.todo
  offBook : forall read i rest phase, s.sweep = some { todo := (read, i) :: rest, phase := phase } ->
    phase ≠ .next -> s.book.Done read.brokerOrderId

theorem mem_modify {rows : List EntryRow} {i : Nat} {f : EntryRow -> EntryRow} {row : EntryRow}
    (h : row ∈ rows.modify i f) :
    exists (old : EntryRow) (j : Nat), rows[j]? = some old ∧ row = if i = j then f old else old := by
  rcases List.mem_iff_getElem?.mp h with ⟨j, hj⟩
  rw [List.getElem?_modify] at hj
  cases hold : rows[j]? with
  | none =>
      rw [hold] at hj
      cases hj
  | some old =>
      rw [hold] at hj
      exact ⟨old, j, hold, (Option.some.inj hj).symm⟩

theorem sound_fresh : Sound .fresh where
  known := fun _ hrow => (nomatch hrow)
  todo := fun _ hsw => (nomatch hsw)
  offBook := fun _ _ _ _ hsw => (nomatch hsw)

theorem Sound.head (hs : Sound s) {read : EntryRow} {i : Nat} {rest : List (EntryRow × Nat)}
    {phase : SweepPhase} (hsw : s.sweep = some { todo := (read, i) :: rest, phase := phase }) :
    s.rows[i]? = some read :=
  ((hs.todo _ hsw).read (read, i) List.mem_cons_self).1

theorem Sound.withBook (hs : Sound s) {book : OrderBook}
    (hnext : s.book.nextOrder ≤ book.nextOrder)
    (hdone : forall o, s.book.Done o -> book.Done o) : Sound { s with book := book } where
  known := fun row hrow => Nat.lt_of_lt_of_le (hs.known row hrow) hnext
  todo := hs.todo
  offBook := fun read i rest phase hsw hphase => hdone _ (hs.offBook read i rest phase hsw hphase)

theorem Sound.skip (hs : Sound s) {rest : List (EntryRow × Nat)} (hrest : TodoRead s.rows rest) :
    Sound (s.skip rest) where
  known := hs.known
  todo := by
    intro sw hsw
    cases hsw
    exact hrest
  offBook := by
    intro read i rest' phase hsw hphase
    cases hsw
    exact absurd rfl hphase

theorem Sound.modify (hs : Sound s) {i : Nat} {f : EntryRow -> EntryRow}
    (horder : forall row, (f row).brokerOrderId = row.brokerOrderId) {sweep : Option Sweep}
    (htodo : forall sw, sweep = some sw -> TodoRead (s.rows.modify i f) sw.todo)
    (hoff : forall read j rest phase, sweep = some { todo := (read, j) :: rest, phase := phase } ->
      phase ≠ .next -> s.book.Done read.brokerOrderId) :
    Sound { s with rows := s.rows.modify i f, sweep := sweep } where
  known := by
    intro row hrow
    rcases mem_modify hrow with ⟨old, j, hold, rfl⟩
    have hlt := hs.known old (List.mem_of_getElem? hold)
    split_ifs
    · exact (horder old).symm ▸ hlt
    · exact hlt
  todo := htodo
  offBook := hoff

theorem Sound.written (hs : Sound s) {read : EntryRow} {i : Nat} {rest : List (EntryRow × Nat)}
    {phase : SweepPhase} (hsw : s.sweep = some { todo := (read, i) :: rest, phase := phase })
    {f : EntryRow -> EntryRow} (horder : forall row, (f row).brokerOrderId = row.brokerOrderId) :
    Sound ({ s with rows := s.rows.modify i f }.skip rest) := by
  apply hs.modify horder
  · intro sw h
    cases h
    exact (hs.todo _ hsw).modify_head f
  · intro read' j rest' phase' h hphase
    cases h
    exact absurd rfl hphase

theorem Sound.closed (hs : Sound s) (i : Nat) : Sound (entryStep s (.close i)) := by
  apply hs.modify
  · intro row
    split_ifs <;> rfl
  · intro sw hsw
    apply (hs.todo sw hsw).modify
    intro e he _
    have hpending := ((hs.todo sw hsw).read e he).2
    rw [if_neg]
    rw [hpending]
    exact TradeStatus.noConfusion
  · exact hs.offBook

theorem entryStep_sound (op : EntryOp) (hs : Sound s) : Sound (entryStep s op) := by
  cases op with
  | accept =>
      exact hs.withBook (Nat.le_succ _) fun _ => OrderBook.Done.accept
  | park orderId limitPrice timestamp =>
      simp only [entryStep]
      split_ifs with hknown
      · constructor
        · intro row hrow
          rcases List.mem_append.mp hrow with hold | hnew
          · exact hs.known row hold
          · rw [List.mem_singleton.mp hnew]
            exact hknown
        · exact fun sw hsw => (hs.todo sw hsw).append _
        · exact hs.offBook
      · exact hs
  | fill orderId positionId price timestamp stays =>
      simp only [entryStep]
      split_ifs
      · exact hs.withBook (Nat.le_refl _) fun _ h => h
      · exact hs.withBook (Nat.le_refl _) fun _ h => OrderBook.Done.remove h orderId
      · exact hs
  | lapse orderId =>
      exact hs.withBook (Nat.le_refl _) fun _ h => h.remove orderId
  | closing orderId positionId price timestamp =>
      exact hs.withBook (Nat.le_refl _) fun _ h => h
  | sweep listed =>
      simp only [entryStep]
      split
      · exact hs.skip (todoRead_pendingRows s.rows listed)
      · exact hs
  | reconcile =>
      simp only [entryStep]
      split
      · next read i rest hsw =>
          split_ifs with hrests
          · exact hs.skip (hs.todo _ hsw).tail
          · refine ⟨hs.known, ?_, ?_⟩
            · intro sw h
              cases h
              exact hs.todo { todo := (read, i) :: rest, phase := .next } hsw
            · intro read' j rest' phase h _
              cases h
              exact ⟨hs.known read (List.mem_of_getElem? (hs.head hsw)), hrests⟩
      · exact hs
  | deals nowMs =>
      simp only [entryStep]
      split
      · next read i rest hsw =>
          refine ⟨hs.known, ?_, ?_⟩
          · intro sw h
            cases h
            exact hs.todo { todo := (read, i) :: rest, phase := .offBook } hsw
          · intro read' j rest' phase h _
            cases h
            exact hs.offBook read i rest .offBook hsw SweepPhase.noConfusion
      · exact hs
  | update stored timestamp =>
      simp only [entryStep]
      split
      · next read i rest answer hsw =>
          split_ifs
          · cases answer with
            | pending =>
                exact hs.skip (hs.todo _ hsw).tail
            | filled positionId price =>
                exact hs.written hsw fun _ => rfl
            | gone =>
                exact hs.written hsw fun _ => rfl
          · exact hs.skip (hs.todo _ hsw).tail
      · exact hs
  | fails =>
      simp only [entryStep]
      split
      · next e rest phase hsw =>
          exact hs.skip (hs.todo _ hsw).tail
      · exact hs
  | finish =>
      simp only [entryStep]
      split
      · exact ⟨hs.known, fun _ h => (nomatch h), fun _ _ _ _ h => (nomatch h)⟩
      · exact hs
  | restart =>
      exact ⟨hs.known, fun _ h => (nomatch h), fun _ _ _ _ h => (nomatch h)⟩
  | close row =>
      exact hs.closed row

/-- Whatever happens, a row has left PENDING for good and its history only grows. -/
theorem entryStep_rowsKept (op : EntryOp) (hs : Sound s) :
    RowsKept Version s.rows (entryStep s op).rows := by
  have hmove := entryStep_move s op
  generalize (entryStep s op).book = book, (entryStep s op).rows = rows at hmove ⊢
  cases hmove with
  | parked orderId limitPrice timestamp hknown =>
      exact rowsKept_append Version.refl s.rows _
  | written read i rest answer timestamp hsw =>
      have hsame {old : EntryRow} (hold : s.rows[i]? = some old) :
          read.statusHistory = old.statusHistory :=
        congrArg EntryRow.statusHistory (Option.some.inj ((hs.head hsw).symm.trans hold))
      cases answer with
      | pending =>
          exact rowsKept_refl Version.refl s.rows
      | filled positionId price =>
          apply rowsKept_modify Version.refl
          exact fun old hold => version_promoted (hsame hold) positionId price timestamp
      | gone =>
          apply rowsKept_modify Version.refl
          exact fun old hold => version_expired (hsame hold) timestamp
  | closed i =>
      apply rowsKept_modify Version.refl
      intro old _
      split_ifs with hopen
      · exact ⟨List.prefix_refl _, fun _ => TradeStatus.noConfusion⟩
      · exact Version.refl old
  | _ =>
      exact rowsKept_refl Version.refl s.rows

/-!
# Expired rows
-/

theorem dealAnswer_eq_gone_iff {deals : List Deal} :
    dealAnswer orderId deals = .gone ↔ forall d, d ∈ deals -> ¬ Entry orderId d := by
  unfold dealAnswer
  cases hfind : deals.find? fun d => Entry orderId d with
  | none =>
      have hnone := List.find?_eq_none.mp hfind
      refine iff_of_true rfl ?_
      intro d hd hentry
      exact hnone d hd (decide_eq_true hentry)
  | some d =>
      have hfound := List.find?_some hfind
      have hentry : Entry orderId d := of_decide_eq_true hfound
      refine iff_of_false OrderStatusAnswer.noConfusion ?_
      intro hnone
      exact hnone d (List.mem_of_find?_eq_some hfind) hentry

/-- The order of a cancelled row, or of one that is about to be, has lapsed unfilled. -/
structure NoneExpired (s : EntryRun) : Prop where
  rows : forall row, row ∈ s.rows -> row.status = .cancelled -> s.book.Lapsed row.brokerOrderId
  answer : forall read i rest,
    s.sweep = some { todo := (read, i) :: rest, phase := .answered .gone } ->
      s.book.Lapsed read.brokerOrderId

theorem entryStep_cancelled (op : EntryOp) (hs : Sound s) (hnone : NoneExpired s) :
    forall row, row ∈ (entryStep s op).rows -> row.status = .cancelled ->
      s.book.Lapsed row.brokerOrderId := by
  intro row hrow hcancelled
  have hmove := entryStep_move s op
  generalize (entryStep s op).book = book, (entryStep s op).rows = rows at hmove hrow
  cases hmove with
  | parked orderId limitPrice timestamp hknown =>
      rcases List.mem_append.mp hrow with hold | hnew
      · exact hnone.rows row hold hcancelled
      · rw [List.mem_singleton.mp hnew] at hcancelled
        cases hcancelled
  | written read i rest answer timestamp hsw =>
      cases answer with
      | pending =>
          exact hnone.rows row hrow hcancelled
      | filled positionId price =>
          rcases mem_modify hrow with ⟨old, j, hold, rfl⟩
          split_ifs at hcancelled ⊢
          · cases hcancelled
          · exact hnone.rows old (List.mem_of_getElem? hold) hcancelled
      | gone =>
          rcases mem_modify hrow with ⟨old, j, hold, rfl⟩
          split_ifs at hcancelled ⊢ with heq
          · rw [← heq, hs.head hsw] at hold
            cases hold
            exact hnone.answer read i rest hsw
          · exact hnone.rows old (List.mem_of_getElem? hold) hcancelled
  | closed i =>
      rcases mem_modify hrow with ⟨old, j, hold, rfl⟩
      split_ifs at hcancelled ⊢
      · exact hnone.rows old (List.mem_of_getElem? hold) hcancelled
      · exact hnone.rows old (List.mem_of_getElem? hold) hcancelled
  | _ =>
      exact hnone.rows row hrow hcancelled

theorem entryStep_gone (op : EntryOp) (hs : Sound s) (hnone : NoneExpired s)
    (hop : FillInWindow s op) :
    forall read i rest,
      (entryStep s op).sweep = some { todo := (read, i) :: rest, phase := .answered .gone } ->
        s.book.Lapsed read.brokerOrderId := by
  cases op with
  | deals nowMs =>
      simp only [entryStep]
      split
      · next read i rest hsw =>
          simp only [FillInWindow, hsw] at hop
          intro read' i' rest' h
          injection h with h
          injection h with htodo hphase
          injection htodo with hhead
          injection hhead with hread
          subst hread
          injection hphase with hgone
          refine ⟨hs.offBook read i rest .offBook hsw SweepPhase.noConfusion, ?_⟩
          intro hfilled
          rcases hop hfilled with ⟨d, hd, hentry⟩
          exact dealAnswer_eq_gone_iff.mp hgone d hd hentry
      · exact hnone.answer
  | park orderId limitPrice timestamp =>
      simp only [entryStep]
      split_ifs <;> exact hnone.answer
  | fill orderId positionId price timestamp stays =>
      simp only [entryStep]
      split_ifs <;> exact hnone.answer
  | sweep listed =>
      simp only [entryStep]
      split
      · intro read i rest h
        have hphase : SweepPhase.next = .answered .gone :=
          congrArg Sweep.phase (Option.some.inj h)
        cases hphase
      · exact hnone.answer
  | reconcile =>
      simp only [entryStep]
      split
      · split_ifs
        · intro read i rest h
          cases h
        · intro read i rest h
          cases h
      · exact hnone.answer
  | update stored timestamp =>
      simp only [entryStep]
      split
      · split_ifs
        · intro read i rest h
          cases h
        · intro read i rest h
          cases h
      · exact hnone.answer
  | fails =>
      simp only [entryStep]
      split
      · intro read i rest h
        cases h
      · exact hnone.answer
  | finish =>
      simp only [entryStep]
      split
      · intro read i rest h
        cases h
      · exact hnone.answer
  | restart =>
      intro read i rest h
      cases h
  | accept =>
      exact hnone.answer
  | lapse orderId =>
      exact hnone.answer
  | closing orderId positionId price timestamp =>
      exact hnone.answer
  | close i =>
      exact hnone.answer

theorem entryStep_noneExpired {op : EntryOp} (hs : Sound s) (hnone : NoneExpired s)
    (hop : FillInWindow s op) : NoneExpired (entryStep s op) where
  rows := fun row hrow hcancelled => (entryStep_cancelled op hs hnone row hrow hcancelled).step
  answer := fun read i rest hsw => (entryStep_gone op hs hnone hop read i rest hsw).step

theorem missed_fill_expires (hs : Sound s) {op : EntryOp} (hmiss : ¬ FillInWindow s op) :
    ¬ NoFillExpired (entryStep (entryStep s op) (.update true 0)) := by
  cases op with
  | deals nowMs =>
      simp only [FillInWindow] at hmiss
      split at hmiss
      · next read i rest hsw =>
          have hfilled : s.book.Filled read.brokerOrderId := by
            by_contra hnot
            exact hmiss fun h => absurd h hnot
          have hgone : dealAnswer read.brokerOrderId (dealList s.book.deals nowMs) = .gone := by
            apply dealAnswer_eq_gone_iff.mpr
            intro d hd hentry
            exact hmiss fun _ => ⟨d, hd, hentry⟩
          have hstep : entryStep (entryStep s (.deals nowMs)) (.update true 0) =
              ({ s with rows := s.rows.modify i (read.expired 0) }.skip rest) := by
            simp only [entryStep, hsw, hgone, if_true]
            rfl
          rw [hstep]
          intro hafter
          have hrow : (s.rows.modify i (read.expired 0))[i]? = some (read.expired 0 read) := by
            rw [List.getElem?_modify, hs.head hsw]
            exact congrArg some (if_pos rfl)
          exact hafter _ (List.mem_of_getElem? hrow) rfl hfilled
      · exact absurd trivial hmiss
  | _ =>
      exact absurd trivial hmiss

/-- In every run rows leave PENDING once and their histories grow; no filled order is
expired where every deciding deal list reaches back to the fill; and after one that
does not, some continuation expires the fill. -/
theorem filled_never_expired_within_the_window (ops : List EntryOp) :
    EveryStep entryStep (fun s op => RowsKept Version s.rows (entryStep s op).rows) .fresh ops ∧
      (EveryStep entryStep FillInWindow .fresh ops -> NoFillExpired (runFrom entryStep .fresh ops)) ∧
      (forall op, ¬ FillInWindow (runFrom entryStep .fresh ops) op ->
        exists more, ¬ NoFillExpired (runFrom entryStep .fresh (ops ++ op :: more))) := by
  have hsound : Sound (runFrom entryStep .fresh ops) :=
    runFrom_inv Sound (fun _ => entryStep_sound) sound_fresh ops
  refine ⟨?_, ?_, ?_⟩
  · apply everyStep_of_inv (C := fun _ _ => True) Sound
    · exact fun _ op hs _ => entryStep_sound op hs
    · exact fun _ op hs _ => entryStep_rowsKept op hs
    · exact sound_fresh
    · exact everyStep_of_forall (fun _ _ => trivial) EntryRun.fresh ops
  · intro hops
    have hnone := EveryStep.run_inv (fun s => Sound s ∧ NoneExpired s)
      (fun s op hs hop => ⟨entryStep_sound op hs.1, entryStep_noneExpired hs.1 hs.2 hop⟩)
      ⟨sound_fresh, fun _ hrow => (nomatch hrow), fun _ _ _ hsw => (nomatch hsw)⟩ hops
    intro row hrow hcancelled
    exact (hnone.2.rows row hrow hcancelled).2
  · intro op hmiss
    refine ⟨[.update true 0], ?_⟩
    rw [runFrom_append]
    exact missed_fill_expires hsound hmiss

/-!
# A fill over a long weekend
-/

/-- An order that is filled a second after it was parked, and the sweep that asks for
it later. -/
def sweptAt (nowMs : Int) : List EntryOp :=
  [.accept, .park 0 (11 / 10) 0, .fill 0 7 (11 / 10) 1000 false, .sweep [0], .reconcile,
    .deals nowMs, .update true nowMs]

/-- Within three days the sweep promotes the row. -/
theorem fill_of_the_last_days_is_promoted :
    (runFrom entryStep .fresh (sweptAt (2 * msPerDay))).rows.map EntryRow.status = [.open_] ∧
      NoFillExpired (runFrom entryStep .fresh (sweptAt (2 * msPerDay))) :=
  ⟨by decide +kernel,
    (filled_never_expired_within_the_window (sweptAt (2 * msPerDay))).2.1 (by decide +kernel)⟩

/-- The engine is down for four days. -/
theorem older_fill_is_expired :
    ¬ NoFillExpired (runFrom entryStep .fresh (sweptAt (4 * msPerDay))) := by
  decide +kernel

end PendingEntries
end Live
end Shamarx
