import Mathlib.Data.List.Induction
import Shamarx.Foundation.Runs
import Shamarx.Foundation.CallLog

/-!
# The decision log

The live evaluations hand their decisions to a buffer, which a full buffer, a
timer or the end of the process turns into one insertion.  An insertion that fails
drops its rows.
-/

namespace Shamarx
namespace Live

open Foundation

inductive DecisionSource where
  | live
  | replay
  deriving DecidableEq, Repr

structure DecisionRecord (value : Type) where
  source : DecisionSource
  accountId : Option String
  replaySessionId : Option String
  symbol : String
  barTime : Int
  decision : String
  signalSide : Option String
  context : Option (List (String × value))
  deriving DecidableEq, Repr

structure DecisionRow (value : Type) where
  source : DecisionSource
  accountId : Option String
  replaySessionId : Option String
  symbol : String
  barTime : Int
  decision : String
  signalSide : Option String
  context : List (String × value)
  createdAt : Int
  deriving DecidableEq, Repr

def flushIntervalMs : Int := 5000
def flushThreshold : Nat := 50
def retentionDays : Int := 45

variable {value : Type}

def DecisionRecord.toRow (createdAt : Int) (r : DecisionRecord value) : DecisionRow value :=
  { source := r.source
    accountId := r.accountId
    replaySessionId := r.replaySessionId
    symbol := r.symbol
    barTime := r.barTime
    decision := r.decision
    signalSide := r.signalSide
    context := r.context.getD []
    createdAt := createdAt }

/-- How an insertion ends: its rows get the time of the insertion, or are dropped. -/
inductive FlushResult where
  | written (createdAt : Int)
  | dropped
  deriving DecidableEq, Repr

def insertedRows (batch : List (DecisionRecord value)) : FlushResult -> List (DecisionRow value)
  | .written createdAt => batch.map (DecisionRecord.toRow createdAt)
  | .dropped => []

/-- The service and its table.  The timer is the time at which it fires; `calls` are the
insertions made so far. -/
structure DecisionLogService (value : Type) where
  buffer : List (DecisionRecord value)
  flushTimer : Option Int
  calls : CallLog (List (DecisionRecord value)) FlushResult
  decisionLog : List (DecisionRow value)

namespace DecisionLogService

def start : DecisionLogService value :=
  { buffer := [], flushTimer := none, calls := [], decisionLog := [] }

def flush (s : DecisionLogService value) : DecisionLogService value :=
  if s.buffer.length = 0 then { s with flushTimer := none }
  else { s with flushTimer := none, buffer := [], calls := s.calls.start s.buffer }

def record (s : DecisionLogService value) (now : Int) (rec : DecisionRecord value) :
    DecisionLogService value :=
  let pushed := { s with buffer := s.buffer ++ [rec] }
  if flushThreshold <= pushed.buffer.length then pushed.flush
  else
    match pushed.flushTimer with
    | none => { pushed with flushTimer := some (now + flushIntervalMs) }
    | some _ => pushed

def settle (s : DecisionLogService value) (id : Nat) (r : FlushResult) :
    DecisionLogService value :=
  match s.calls.pending id with
  | some batch =>
      { s with
        calls := s.calls.settle id r
        decisionLog := s.decisionLog ++ insertedRows batch r }
  | none => s

def pruneCutoff (now : Int) : Int :=
  now - retentionDays * 24 * 3600 * 1000

/-- The nightly deletion; it changes nothing when it fails. -/
def prune (s : DecisionLogService value) (now : Int) (deleted : Bool) :
    DecisionLogService value :=
  if deleted then
    { s with decisionLog := s.decisionLog.filter fun r => decide (pruneCutoff now <= r.createdAt) }
  else s

/-- A process that dies loses its buffer and its timer.  What it sent is still carried
out, or fails. -/
def restart (s : DecisionLogService value) : DecisionLogService value :=
  { s with buffer := [], flushTimer := none }

end DecisionLogService

inductive DecisionLogOp (value : Type) where
  | record (now : Int) (rec : DecisionRecord value)
  | timerFires (now : Int)
  | moduleDestroy
  | settle (id : Nat) (r : FlushResult)
  | prune (now : Int) (deleted : Bool)
  | restart

def decisionLogStep (s : DecisionLogService value) :
    DecisionLogOp value -> DecisionLogService value
  | .record now rec => s.record now rec
  | .timerFires now =>
      match s.flushTimer with
      | some due => if due <= now then s.flush else s
      | none => s
  | .moduleDestroy => s.flush
  | .settle id r => s.settle id r
  | .prune now deleted => s.prune now deleted
  | .restart => s.restart

/-!
# The buffer
-/

namespace DecisionLogService

/-- Between two steps the buffer is below the threshold, and the timer runs exactly when
there is something to flush. -/
structure Buffered (s : DecisionLogService value) : Prop where
  below : s.buffer.length < flushThreshold
  timer : s.flushTimer = none ↔ s.buffer = []
  batches : forall batch, batch ∈ s.calls.args -> batch ≠ [] ∧ batch.length <= flushThreshold

theorem flush_of_nil {s : DecisionLogService value} (h : s.buffer = []) :
    s.flush = { s with flushTimer := none } :=
  if_pos (List.length_eq_zero_iff.mpr h)

theorem flush_of_ne_nil {s : DecisionLogService value} (h : s.buffer ≠ []) :
    s.flush = { s with flushTimer := none, buffer := [], calls := s.calls.start s.buffer } :=
  if_neg (mt List.length_eq_zero_iff.mp h)

@[simp] theorem buffer_flush (s : DecisionLogService value) : s.flush.buffer = [] := by
  by_cases h : s.buffer = []
  · rw [flush_of_nil h, h]
  · rw [flush_of_ne_nil h]

@[simp] theorem flushTimer_flush (s : DecisionLogService value) : s.flush.flushTimer = none := by
  by_cases h : s.buffer = []
  · rw [flush_of_nil h]
  · rw [flush_of_ne_nil h]

@[simp] theorem decisionLog_flush (s : DecisionLogService value) :
    s.flush.decisionLog = s.decisionLog := by
  by_cases h : s.buffer = []
  · rw [flush_of_nil h]
  · rw [flush_of_ne_nil h]

@[simp] theorem effects_flush (s : DecisionLogService value) :
    s.flush.calls.effects insertedRows = s.calls.effects insertedRows := by
  by_cases h : s.buffer = []
  · rw [flush_of_nil h]
  · rw [flush_of_ne_nil h, CallLog.effects_start]

theorem mem_args_flush {s : DecisionLogService value} {batch : List (DecisionRecord value)}
    (h : batch ∈ s.flush.calls.args) : batch ∈ s.calls.args ∨ (batch = s.buffer ∧ batch ≠ []) := by
  by_cases hnil : s.buffer = []
  · rw [flush_of_nil hnil] at h
    exact Or.inl h
  · rw [flush_of_ne_nil hnil, CallLog.args_start, List.mem_append, List.mem_singleton] at h
    rcases h with h | rfl
    · exact Or.inl h
    · exact Or.inr ⟨rfl, hnil⟩

theorem Buffered.flush {s : DecisionLogService value}
    (hsmall : s.buffer.length <= flushThreshold)
    (hbatches : forall batch, batch ∈ s.calls.args ->
      batch ≠ [] ∧ batch.length <= flushThreshold) : Buffered s.flush where
  below := by
    rw [buffer_flush]
    exact Nat.zero_lt_succ _
  timer := by simp
  batches := by
    intro batch hbatch
    rcases mem_args_flush hbatch with hold | ⟨rfl, hne⟩
    · exact hbatches batch hold
    · exact ⟨hne, hsmall⟩

theorem record_cases (s : DecisionLogService value) (now : Int) (rec : DecisionRecord value) :
    (flushThreshold <= s.buffer.length + 1 ∧
      s.record now rec = flush { s with buffer := s.buffer ++ [rec] }) ∨
    (s.buffer.length + 1 < flushThreshold ∧
      s.record now rec =
        { s with
          buffer := s.buffer ++ [rec]
          flushTimer := some (s.flushTimer.getD (now + flushIntervalMs)) }) := by
  unfold record
  simp only [List.length_append, List.length_singleton]
  split_ifs with hfull
  · exact Or.inl ⟨hfull, rfl⟩
  · refine Or.inr ⟨Nat.lt_of_not_le hfull, ?_⟩
    cases s.flushTimer <;> rfl

theorem Buffered.record {s : DecisionLogService value} (h : Buffered s) (now : Int)
    (rec : DecisionRecord value) : Buffered (s.record now rec) := by
  rcases s.record_cases now rec with ⟨-, heq⟩ | ⟨hroom, heq⟩
  · rw [heq]
    refine Buffered.flush ?_ h.batches
    rw [List.length_append, List.length_singleton]
    exact h.below
  · rw [heq]
    refine ⟨?_, ?_, h.batches⟩
    · rwa [List.length_append, List.length_singleton]
    · simp

theorem settle_eq_self {s : DecisionLogService value} {id : Nat} (r : FlushResult)
    (h : s.calls.pending id = none) : s.settle id r = s := by
  rw [settle, h]

theorem settle_of_pending {s : DecisionLogService value} {id : Nat}
    {batch : List (DecisionRecord value)} (r : FlushResult)
    (h : s.calls.pending id = some batch) :
    s.settle id r =
      { s with
        calls := s.calls.settle id r
        decisionLog := s.decisionLog ++ insertedRows batch r } := by
  rw [settle, h]

theorem Buffered.settle {s : DecisionLogService value} (h : Buffered s) (id : Nat)
    (r : FlushResult) : Buffered (s.settle id r) := by
  cases hcall : s.calls.pending id with
  | none =>
      rwa [settle_eq_self r hcall]
  | some batch =>
      rw [settle_of_pending r hcall]
      refine ⟨h.below, h.timer, ?_⟩
      rw [CallLog.args_settle]
      exact h.batches

theorem Buffered.prune {s : DecisionLogService value} (h : Buffered s) (now : Int)
    (deleted : Bool) : Buffered (s.prune now deleted) := by
  cases deleted with
  | false =>
      exact h
  | true =>
      exact ⟨h.below, h.timer, h.batches⟩

theorem Buffered.restart {s : DecisionLogService value} (h : Buffered s) :
    Buffered s.restart where
  below := Nat.zero_lt_succ _
  timer := iff_of_true rfl rfl
  batches := h.batches

theorem Buffered.start : Buffered (start : DecisionLogService value) where
  below := Nat.zero_lt_succ _
  timer := iff_of_true rfl rfl
  batches := by
    intro batch hbatch
    cases hbatch

theorem Buffered.step {s : DecisionLogService value} (h : Buffered s)
    (op : DecisionLogOp value) : Buffered (decisionLogStep s op) := by
  have hflush : Buffered s.flush := Buffered.flush (Nat.le_of_lt h.below) h.batches
  cases op with
  | record now rec =>
      exact h.record now rec
  | timerFires now =>
      change Buffered (match s.flushTimer with
        | some due => if due <= now then s.flush else s
        | none => s)
      cases s.flushTimer with
      | none =>
          exact h
      | some due =>
          dsimp only
          split_ifs
          · exact hflush
          · exact h
  | moduleDestroy =>
      exact hflush
  | settle id r =>
      exact h.settle id r
  | prune now deleted =>
      exact h.prune now deleted
  | restart =>
      exact h.restart

/-!
# Where the records are
-/

/-- The records handed to the table so far, and those still in the buffer. -/
def kept (s : DecisionLogService value) : List (DecisionRecord value) :=
  s.calls.args.flatten ++ s.buffer

@[simp] theorem kept_flush (s : DecisionLogService value) : s.flush.kept = s.kept := by
  by_cases h : s.buffer = []
  · rw [flush_of_nil h]
    rfl
  · rw [flush_of_ne_nil h]
    simp [kept]

theorem kept_record (s : DecisionLogService value) (now : Int) (rec : DecisionRecord value) :
    (s.record now rec).kept = s.kept ++ [rec] := by
  have hpush : forall timer, kept { s with buffer := s.buffer ++ [rec], flushTimer := timer } =
      s.kept ++ [rec] := by
    intro timer
    rw [kept, kept, List.append_assoc]
  rcases s.record_cases now rec with ⟨-, heq⟩ | ⟨-, heq⟩
  · rw [heq, kept_flush]
    exact hpush s.flushTimer
  · rw [heq]
    exact hpush _

theorem kept_settle (s : DecisionLogService value) (id : Nat) (r : FlushResult) :
    (s.settle id r).kept = s.kept := by
  cases hcall : s.calls.pending id with
  | none =>
      rw [settle_eq_self r hcall]
  | some batch =>
      rw [settle_of_pending r hcall, kept, kept, CallLog.args_settle]

theorem kept_restart (s : DecisionLogService value) : s.kept = s.restart.kept ++ s.buffer := by
  rw [kept, kept, restart, List.append_nil]

@[simp] theorem decisionLog_record (s : DecisionLogService value) (now : Int)
    (rec : DecisionRecord value) : (s.record now rec).decisionLog = s.decisionLog := by
  rcases s.record_cases now rec with ⟨-, heq⟩ | ⟨-, heq⟩
  · rw [heq, decisionLog_flush]
  · rw [heq]

@[simp] theorem effects_record (s : DecisionLogService value) (now : Int)
    (rec : DecisionRecord value) :
    (s.record now rec).calls.effects insertedRows = s.calls.effects insertedRows := by
  rcases s.record_cases now rec with ⟨-, heq⟩ | ⟨-, heq⟩
  · rw [heq, effects_flush]
  · rw [heq]

/-- The table, with the rows it has lost since, is what the insertions left behind. -/
def RowsAre (s : DecisionLogService value) (pruned : List (DecisionRow value)) : Prop :=
  (s.decisionLog ++ pruned).Perm (s.calls.effects insertedRows)

theorem RowsAre.settle {s : DecisionLogService value} {pruned : List (DecisionRow value)}
    (h : s.RowsAre pruned) (id : Nat) (r : FlushResult) : (s.settle id r).RowsAre pruned := by
  cases hcall : s.calls.pending id with
  | none =>
      rwa [settle_eq_self r hcall]
  | some batch =>
      rw [settle_of_pending r hcall]
      have hmove : ((s.decisionLog ++ insertedRows batch r) ++ pruned).Perm
          ((s.decisionLog ++ pruned) ++ insertedRows batch r) := by
        rw [List.append_assoc, List.append_assoc]
        exact List.perm_append_comm.append_left _
      exact hmove.trans ((h.append_right _).trans (CallLog.effects_settle _ r hcall).symm)

theorem RowsAre.prune {s : DecisionLogService value} {pruned : List (DecisionRow value)}
    (h : s.RowsAre pruned) (now : Int) :
    (s.prune now true).RowsAre
      ((s.decisionLog.filter fun r => !decide (pruneCutoff now <= r.createdAt)) ++ pruned) := by
  rw [RowsAre, <- List.append_assoc]
  exact ((List.filter_append_perm _ s.decisionLog).append_right pruned).trans h

end DecisionLogService

def recordedIn (ops : List (DecisionLogOp value)) : List (DecisionRecord value) :=
  ops.filterMap fun
    | .record _ rec => some rec
    | _ => none

def restartsIn (ops : List (DecisionLogOp value)) : Nat :=
  ops.countP fun
    | .restart => true
    | _ => false

@[simp] theorem recordedIn_append (front back : List (DecisionLogOp value)) :
    recordedIn (front ++ back) = recordedIn front ++ recordedIn back :=
  List.filterMap_append

@[simp] theorem restartsIn_append (front back : List (DecisionLogOp value)) :
    restartsIn (front ++ back) = restartsIn front + restartsIn back :=
  List.countP_append

/-- The run's state keeps the records but for those in the buffer at a restart. -/
structure Accounted (ops : List (DecisionLogOp value)) (s : DecisionLogService value) : Prop where
  ordered : s.kept.Sublist (recordedIn ops)
  lost : (recordedIn ops).length <= s.kept.length + (flushThreshold - 1) * restartsIn ops
  rows : exists pruned, s.RowsAre pruned ∧ forall r, r ∈ pruned ->
    exists now, DecisionLogOp.prune now true ∈ ops ∧
      r.createdAt < DecisionLogService.pruneCutoff now

namespace Accounted

open DecisionLogService

variable {ops : List (DecisionLogOp value)} {s t : DecisionLogService value}

theorem still (h : Accounted ops s) {op : DecisionLogOp value} (hrec : recordedIn [op] = [])
    (hkept : t.kept = s.kept) (hrows : forall pruned, s.RowsAre pruned -> t.RowsAre pruned) :
    Accounted (ops ++ [op]) t where
  ordered := by
    rw [recordedIn_append, hrec, List.append_nil, hkept]
    exact h.ordered
  lost := by
    rw [recordedIn_append, hrec, List.append_nil, hkept, restartsIn_append, Nat.mul_add]
    exact Nat.le_trans h.lost (Nat.add_le_add_left (Nat.le_add_right _ _) _)
  rows := by
    rcases h.rows with ⟨pruned, hpruned, hold⟩
    refine ⟨pruned, hrows pruned hpruned, ?_⟩
    intro r hr
    rcases hold r hr with ⟨now, hnow, hlt⟩
    exact ⟨now, List.mem_append_left _ hnow, hlt⟩

theorem flushed (h : Accounted ops s) {op : DecisionLogOp value} (hrec : recordedIn [op] = []) :
    Accounted (ops ++ [op]) s.flush := by
  refine h.still hrec (kept_flush s) ?_
  intro pruned hpruned
  rwa [RowsAre, decisionLog_flush, effects_flush]

theorem step (h : Accounted ops s) (hbuf : s.Buffered) (op : DecisionLogOp value) :
    Accounted (ops ++ [op]) (decisionLogStep s op) := by
  have hsame : recordedIn [op] = [] -> Accounted (ops ++ [op]) s := fun hrec =>
    h.still hrec rfl fun _ hpruned => hpruned
  cases op with
  | record now rec =>
      refine ⟨?_, ?_, ?_⟩
      · rw [recordedIn_append]
        change (s.record now rec).kept.Sublist _
        rw [kept_record]
        exact h.ordered.append_right [rec]
      · rw [recordedIn_append, restartsIn_append]
        change _ <= (s.record now rec).kept.length + _
        rw [kept_record, List.length_append, List.length_append]
        rw [Nat.add_right_comm]
        exact Nat.add_le_add_right h.lost 1
      · rcases h.rows with ⟨pruned, hpruned, hold⟩
        refine ⟨pruned, ?_, ?_⟩
        · change (s.record now rec).RowsAre pruned
          rwa [RowsAre, decisionLog_record, effects_record]
        · intro r hr
          rcases hold r hr with ⟨earlier, hthen, hlt⟩
          exact ⟨earlier, List.mem_append_left _ hthen, hlt⟩
  | timerFires now =>
      change Accounted _ (match s.flushTimer with
        | some due => if due <= now then s.flush else s
        | none => s)
      cases s.flushTimer with
      | none =>
          exact hsame rfl
      | some due =>
          dsimp only
          split_ifs
          · exact h.flushed rfl
          · exact hsame rfl
  | moduleDestroy =>
      exact h.flushed rfl
  | settle id r =>
      exact h.still rfl (kept_settle s id r) fun _ hpruned => hpruned.settle id r
  | prune now deleted =>
      cases deleted with
      | false =>
          exact hsame rfl
      | true =>
          refine ⟨(hsame rfl).ordered, (hsame rfl).lost, ?_⟩
          rcases h.rows with ⟨pruned, hpruned, hold⟩
          refine ⟨_, hpruned.prune now, ?_⟩
          intro r hr
          rcases List.mem_append.mp hr with hnew | hr
          · refine ⟨now, List.mem_append_right _ List.mem_cons_self, ?_⟩
            have hcut := (List.mem_filter.mp hnew).2
            simpa using hcut
          · rcases hold r hr with ⟨earlier, hthen, hlt⟩
            exact ⟨earlier, List.mem_append_left _ hthen, hlt⟩
  | restart =>
      have hsplit := s.kept_restart
      refine ⟨?_, ?_, (hsame rfl).rows⟩
      · refine List.Sublist.trans ?_ (hsame rfl).ordered
        rw [hsplit]
        exact List.sublist_append_left _ _
      · have hlost := h.lost
        have hbelow := hbuf.below
        rw [hsplit, List.length_append] at hlost
        rw [recordedIn_append, restartsIn_append, List.length_append]
        change _ + 0 <= s.restart.kept.length + _ * (_ + 1)
        rw [Nat.mul_add]
        change s.buffer.length < 50 at hbelow
        change _ <= _ + (50 - 1) * _ at hlost
        change _ <= _ + ((50 - 1) * _ + 49)
        omega

end Accounted

/-- Every decision of a run is in the buffer or in one of the insertions, in the order in
which they were recorded, but for at most 49 a restart; and the table holds what the
insertions wrote, but for rows that were over 45 days old when they were deleted. -/
theorem decisions_accounted (ops : List (DecisionLogOp value)) :
    (runFrom decisionLogStep .start ops).Buffered ∧
      Accounted ops (runFrom decisionLogStep .start ops) := by
  induction ops using List.reverseRecOn with
  | nil =>
      refine ⟨DecisionLogService.Buffered.start, List.Sublist.slnil, Nat.le_refl 0, [], ?_, ?_⟩
      · exact List.Perm.refl _
      · intro r hr
        cases hr
  | append_singleton front op ih =>
      rw [runFrom_append]
      exact ⟨ih.1.step op, ih.2.step ih.1 op⟩

end Live
end Shamarx
