import Shamarx.Live.DecisionLog
import Shamarx.Replay.ReplayEngine

/-!
# Replay sessions

`LiveReplayService` runs each replay on a worker thread and records what comes back.  The
worker's messages, its death and the deadline come in any order, and every database call
may fail or lose its answer.
-/

namespace Shamarx
namespace Replay

open Foundation
open Engine
open Orchestrator

/-!
# The worker
-/

structure ReplayDecision (value : Type) where
  barTime : Int
  symbol : String
  decision : String
  signalSide : Option String
  context : List (String × value)

structure LoggedResult (value : Type) where
  result : ReplayResult
  decisions : Option (List (ReplayDecision value))

variable {value : Type}

inductive WorkerEvent (value : Type) where
  | progress (processed total : Nat)
  | done (result : LoggedResult value)
  | error (message stack : String)
  | threadError (message : String)
  | exit (code : Int)
  | timeout

/-- The parent's end of a worker: the deadline timer, whether the worker was told to
terminate, and what the promise settled to. -/
structure WorkerLink (value : Type) where
  timeout : Bool
  terminated : Bool
  promise : Option (Except String (LoggedResult value))

namespace WorkerLink

def start : WorkerLink value :=
  { timeout := true, terminated := false, promise := none }

def settle (w : WorkerLink value) (outcome : Except String (LoggedResult value)) :
    WorkerLink value :=
  match w.promise with
  | none => { w with promise := some outcome }
  | some _ => w

def cleanup (w : WorkerLink value) : WorkerLink value :=
  { w with timeout := false, terminated := true }

def handle (w : WorkerLink value) : WorkerEvent value -> WorkerLink value
  | .progress _ _ => w
  | .done result => w.cleanup.settle (.ok result)
  | .error message stack =>
      w.cleanup.settle (.error (message ++ if stack = "" then "" else "\n" ++ stack))
  | .threadError message => w.cleanup.settle (.error message)
  | .exit code =>
      if code ≠ 0 ∧ w.timeout = true then
        w.cleanup.settle (.error ("Replay worker exited with code " ++ toString code))
      else w
  | .timeout =>
      if w.timeout then w.cleanup.settle (.error "Replay worker timed out after 30 min") else w

/-- The deadline runs exactly while the promise is open, and a settled promise has told
its worker to terminate. -/
structure Guarded (w : WorkerLink value) : Prop where
  deadline : w.timeout = true ↔ w.promise = none
  terminated : w.promise ≠ none -> w.terminated = true

theorem guarded_start : Guarded (start : WorkerLink value) :=
  ⟨iff_of_true rfl rfl, fun h => absurd rfl h⟩

theorem guarded_settle_cleanup (w : WorkerLink value)
    (outcome : Except String (LoggedResult value)) : Guarded (w.cleanup.settle outcome) := by
  unfold settle cleanup
  cases w.promise with
  | none =>
      exact ⟨iff_of_false Bool.false_ne_true (Option.some_ne_none _), fun _ => rfl⟩
  | some earlier =>
      exact ⟨iff_of_false Bool.false_ne_true (Option.some_ne_none _), fun _ => rfl⟩

theorem Guarded.handle {w : WorkerLink value} (h : w.Guarded) (e : WorkerEvent value) :
    (w.handle e).Guarded := by
  cases e with
  | progress processed total =>
      exact h
  | done result =>
      exact guarded_settle_cleanup w _
  | error message stack =>
      exact guarded_settle_cleanup w _
  | threadError message =>
      exact guarded_settle_cleanup w _
  | exit code =>
      dsimp only [WorkerLink.handle]
      split_ifs
      · exact guarded_settle_cleanup w _
      · exact h
  | timeout =>
      dsimp only [WorkerLink.handle]
      split_ifs
      · exact guarded_settle_cleanup w _
      · exact h

theorem settle_cleanup_of_settled {w : WorkerLink value}
    {outcome : Except String (LoggedResult value)} (h : w.promise = some outcome)
    (other : Except String (LoggedResult value)) :
    (w.cleanup.settle other).promise = some outcome := by
  unfold settle cleanup
  rw [h]

theorem promise_handle {w : WorkerLink value} {outcome : Except String (LoggedResult value)}
    (h : w.promise = some outcome) (e : WorkerEvent value) :
    (w.handle e).promise = some outcome := by
  cases e with
  | progress processed total =>
      exact h
  | done result =>
      exact settle_cleanup_of_settled h _
  | error message stack =>
      exact settle_cleanup_of_settled h _
  | threadError message =>
      exact settle_cleanup_of_settled h _
  | exit code =>
      dsimp only [WorkerLink.handle]
      split_ifs
      · exact settle_cleanup_of_settled h _
      · exact h
  | timeout =>
      dsimp only [WorkerLink.handle]
      split_ifs
      · exact settle_cleanup_of_settled h _
      · exact h

/-- An event after which the promise is settled: anything but progress and a clean exit. -/
def Final : WorkerEvent value -> Prop
  | .progress _ _ => False
  | .exit code => code ≠ 0
  | _ => True

/-- What such an event says of the replay. -/
def outcomeOf : WorkerEvent value -> Option (Except String (LoggedResult value))
  | .progress _ _ => none
  | .done result => some (.ok result)
  | .error message stack =>
      some (.error (if stack = "" then message else message ++ "\n" ++ stack))
  | .threadError message => some (.error message)
  | .exit code =>
      if code = 0 then none else some (.error ("Replay worker exited with code " ++ toString code))
  | .timeout => some (.error "Replay worker timed out after 30 min")

theorem final_iff (e : WorkerEvent value) : Final e <-> (outcomeOf e).isSome = true := by
  cases e with
  | exit code =>
      dsimp only [Final, outcomeOf]
      split_ifs with hclean
      · exact iff_of_false (fun hcode => hcode hclean) Bool.false_ne_true
      · exact iff_of_true hclean rfl
  | progress processed total =>
      exact iff_of_false id Bool.false_ne_true
  | _ =>
      exact iff_of_true trivial rfl

theorem settle_cleanup_of_open {w : WorkerLink value} (h : w.promise = none)
    (outcome : Except String (LoggedResult value)) :
    (w.cleanup.settle outcome).promise = some outcome := by
  unfold settle cleanup
  rw [h]

theorem Guarded.settles {w : WorkerLink value} (h : w.Guarded) (hopen : w.promise = none)
    (e : WorkerEvent value) : (w.handle e).promise = outcomeOf e := by
  have htimeout := h.deadline.mpr hopen
  cases e with
  | progress processed total =>
      exact hopen
  | done result =>
      exact settle_cleanup_of_open hopen _
  | error message stack =>
      refine (settle_cleanup_of_open hopen _).trans ?_
      dsimp only [outcomeOf]
      split_ifs with hstack
      · rw [String.append_empty]
      · rw [String.append_assoc]
  | threadError message =>
      exact settle_cleanup_of_open hopen _
  | exit code =>
      dsimp only [WorkerLink.handle, outcomeOf]
      split_ifs with hcrashed hclean hclean
      · exact absurd hclean hcrashed.1
      · exact settle_cleanup_of_open hopen _
      · exact hopen
      · exact absurd ⟨hclean, htimeout⟩ hcrashed
  | timeout =>
      dsimp only [WorkerLink.handle]
      rw [if_pos htimeout]
      exact settle_cleanup_of_open hopen _

theorem Guarded.promise_handle {w : WorkerLink value} (h : w.Guarded) (e : WorkerEvent value) :
    (w.handle e).promise = w.promise.or (outcomeOf e) := by
  cases hpromise : w.promise with
  | none =>
      rw [Option.none_or]
      exact h.settles hpromise e
  | some earlier =>
      rw [Option.some_or]
      exact WorkerLink.promise_handle hpromise e

end WorkerLink

/-!
# The session
-/

inductive ReplayStatus where
  | running
  | completed
  | failed
  deriving DecidableEq, Repr

def ReplayStatus.rank : ReplayStatus -> Nat
  | .running => 0
  | .completed => 1
  | .failed => 2

theorem ReplayStatus.rank_le_failed (status : ReplayStatus) :
    status.rank <= ReplayStatus.failed.rank := by
  cases status <;> decide

structure ReplaySession where
  status : ReplayStatus
  endedAt : Option Int
  endEquity : Option Number
  realizedPnl : Number
  tradesCount : Nat
  winsCount : Nat
  lossesCount : Nat
  maxOpenConcurrent : Nat
  progress : Option Int
  errorMessage : Option String
  metrics : Option ReplayMetrics
  deriving DecidableEq

def ReplaySession.created : ReplaySession :=
  { status := .running
    endedAt := none
    endEquity := none
    realizedPnl := 0
    tradesCount := 0
    winsCount := 0
    lossesCount := 0
    maxOpenConcurrent := 0
    progress := none
    errorMessage := none
    metrics := none }

def ReplaySession.complete (row : ReplaySession) (result : ReplayResult) (now : Int) :
    ReplaySession :=
  { row with
    status := .completed
    endedAt := some now
    endEquity := some result.finalBalance
    realizedPnl := result.metrics.realizedPnl
    tradesCount := result.metrics.tradesCount
    winsCount := result.metrics.winsCount
    lossesCount := result.metrics.lossesCount
    maxOpenConcurrent := result.maxConcurrent
    metrics := some result.metrics }

def ReplaySession.fail (row : ReplaySession) (message : String) (now : Int) : ReplaySession :=
  { row with status := .failed, endedAt := some now, errorMessage := some message }

/-- The percentage a progress message writes; without events it is not a number, and the
write fails. -/
def progressPercent (processed total : Nat) : Option Int :=
  if total = 0 then none else some (roundHalfUp ((processed : ℚ) / total * 100))

/-- A trade of the run as its row.  Every trade of a result is closed. -/
structure LiveReplayTrade where
  sessionId : String
  symbol : Instrument
  side : Side
  lotSize : Number
  entryPrice : ℚ
  closePrice : ℚ
  slPrice : ℚ
  tpPrice : Option ℚ
  status : String
  exitReason : CloseReason
  pnl : Number
  openedAt : Int
  closedAt : Int
  mode : SmcMode
  setupTags : List SetupTag
  reason : SignalReason
  sweptLevel : Option ℚ
  sweptHigh : Option ℚ
  sweptLow : Option ℚ
  sweepCandleTime : Option Int
  d1Bias : Option D1Bias
  originalSlPrice : ℚ
  strategyName : String

def tradeRow (sessionId : String) (t : ClosedPosition) : LiveReplayTrade :=
  { sessionId := sessionId
    symbol := t.symbol
    side := t.side
    lotSize := t.lotSize
    entryPrice := t.entryPrice
    closePrice := t.closePrice
    slPrice := t.slPrice
    tpPrice := t.tpPrice
    status := "CLOSED"
    exitReason := t.exitReason
    pnl := t.pnl
    openedAt := t.entryTime
    closedAt := t.closedAt
    mode := t.mode
    setupTags := t.setupTags
    reason := t.reason
    sweptLevel := t.smcContext.map SmcContext.sweptLevel
    sweptHigh := t.smcContext.map SmcContext.sweptHigh
    sweptLow := t.smcContext.map SmcContext.sweptLow
    sweepCandleTime := t.smcContext.map SmcContext.sweepCandleTime
    d1Bias := t.smcContext.map SmcContext.d1Bias
    originalSlPrice := t.originalSlPrice
    strategyName := "GIDEON" }

def decisionRecord (sessionId : String) (d : ReplayDecision value) : Live.DecisionRecord value :=
  { source := .replay
    accountId := none
    replaySessionId := some sessionId
    symbol := d.symbol
    barTime := d.barTime
    decision := d.decision
    signalSide := d.signalSide
    context := some d.context }

def chunkSize : Nat := 1000

/-- `execute` at one of its awaits, or ended with its outcome recorded or not. -/
inductive ExecutePhase (value : Type) where
  | loading
  | onWorker
  | logging (r : LoggedResult value) (first : Nat)
  | storing (r : LoggedResult value)
  | completing (r : LoggedResult value) (endedAt : Int)
  | failing (message : String) (endedAt : Int)
  | ended (recorded : Bool)

def ExecutePhase.failure : ExecutePhase value -> Option String
  | .failing message _ => some message
  | _ => none

/-- One session: its row, its trades and decisions in the tables, the worker once it is
started, the progress writes under way and the await of `execute`. -/
structure ReplaySessionRun (value : Type) where
  sessionId : String
  session : ReplaySession
  trades : List LiveReplayTrade
  decisionLog : List (Live.DecisionRecord value)
  worker : Option (WorkerLink value)
  progressWrites : List Int
  phase : ExecutePhase value

namespace ReplaySessionRun

def created (sessionId : String) : ReplaySessionRun value :=
  { sessionId := sessionId
    session := .created
    trades := []
    decisionLog := []
    worker := none
    progressWrites := []
    phase := .loading }

def records (s : ReplaySessionRun value) (r : LoggedResult value) :
    List (Live.DecisionRecord value) :=
  (r.decisions.getD []).map (decisionRecord s.sessionId)

def tradeRows (s : ReplaySessionRun value) (r : LoggedResult value) : List LiveReplayTrade :=
  r.result.closed.map (tradeRow s.sessionId)

def afterDecisions (s : ReplaySessionRun value) (r : LoggedResult value) (now : Int) :
    ReplaySessionRun value :=
  match r.result.closed with
  | [] => { s with phase := .completing r now }
  | _ => { s with phase := .storing r }

def resumed (s : ReplaySessionRun value) (outcome : Except String (LoggedResult value))
    (now : Int) : ReplaySessionRun value :=
  match outcome with
  | .error message => { s with phase := .failing message now }
  | .ok r =>
      if 0 < (r.decisions.getD []).length then { s with phase := .logging r 0 }
      else s.afterDecisions r now

def writeChunk (s : ReplaySessionRun value) (r : LoggedResult value) (first : Nat)
    (result : WriteResult) : ReplaySessionRun value :=
  if result.landed then
    { s with decisionLog := s.decisionLog ++ ((s.records r).drop first).take chunkSize }
  else s

def storeTrades (s : ReplaySessionRun value) (r : LoggedResult value) (result : WriteResult) :
    ReplaySessionRun value :=
  if result.landed then { s with trades := s.trades ++ s.tradeRows r } else s

def completeSession (s : ReplaySessionRun value) (r : LoggedResult value) (endedAt : Int)
    (result : WriteResult) : ReplaySessionRun value :=
  if result.landed then { s with session := s.session.complete r.result endedAt } else s

def failSession (s : ReplaySessionRun value) (message : String) (endedAt : Int)
    (result : WriteResult) : ReplaySessionRun value :=
  if result.landed then { s with session := s.session.fail message endedAt } else s

def answered (s : ReplaySessionRun value) (result : WriteResult) (now : Int) :
    ReplaySessionRun value :=
  match s.phase with
  | .logging r first =>
      let written := s.writeChunk r first result
      if result = .ok ∧ first + chunkSize < (r.decisions.getD []).length then
        { written with phase := .logging r (first + chunkSize) }
      else written.afterDecisions r now
  | .storing r =>
      match result.message with
      | none => { s.storeTrades r result with phase := .completing r now }
      | some message => { s.storeTrades r result with phase := .failing message now }
  | .completing r endedAt =>
      match result.message with
      | none => { s.completeSession r endedAt result with phase := .ended true }
      | some message => { s.completeSession r endedAt result with phase := .failing message now }
  | .failing message endedAt =>
      { s.failSession message endedAt result with phase := .ended result.landed }
  | _ => s

/-- A message of the worker also writes its progress. -/
def receive (s : ReplaySessionRun value) (w : WorkerLink value) (e : WorkerEvent value) :
    ReplaySessionRun value :=
  { s with
    worker := some (w.handle e)
    progressWrites := match e with
      | .progress processed total =>
          s.progressWrites ++ (progressPercent processed total).toList
      | _ => s.progressWrites }

end ReplaySessionRun

/-- The candles are loaded or not, the worker's side stirs, the promise is taken up, a
call is answered, a progress write takes place or fails. -/
inductive ReplaySessionOp (value : Type) where
  | loaded (outcome : Except String Unit) (now : Int)
  | worker (e : WorkerEvent value)
  | resume (now : Int)
  | answer (result : WriteResult) (now : Int)
  | progressWrite (i : Nat) (landed : Bool)

def replaySessionStep (s : ReplaySessionRun value) :
    ReplaySessionOp value -> ReplaySessionRun value
  | .loaded outcome now =>
      match s.phase, outcome with
      | .loading, .ok _ => { s with phase := .onWorker, worker := some .start }
      | .loading, .error message => { s with phase := .failing message now }
      | _, _ => s
  | .worker e =>
      match s.worker with
      | some w => s.receive w e
      | none => s
  | .resume now =>
      match s.phase, s.worker.bind WorkerLink.promise with
      | .onWorker, some outcome => s.resumed outcome now
      | _, _ => s
  | .answer result now => s.answered result now
  | .progressWrite i landed =>
      match s.progressWrites[i]? with
      | some percent =>
          let rest := { s with progressWrites := s.progressWrites.eraseIdx i }
          if landed then { rest with session := { s.session with progress := some percent } }
          else rest
      | none => s

/-!
# What a session shows
-/

namespace ReplaySessionRun

def Settled (s : ReplaySessionRun value) (outcome : Except String (LoggedResult value)) : Prop :=
  exists w, s.worker = some w ∧ w.promise = some outcome

def Accepted (s : ReplaySessionRun value) (r : LoggedResult value) : Prop :=
  s.Settled (.ok r)

def Untouched (s : ReplaySessionRun value) : Prop :=
  s.session = { ReplaySession.created with progress := s.session.progress }

def Reports (s : ReplaySessionRun value) (r : LoggedResult value) : Prop :=
  s.trades = s.tradeRows r ∧ exists endedAt,
    s.session = ({ ReplaySession.created with progress := s.session.progress }).complete r.result
      endedAt

def PhaseSound (s : ReplaySessionRun value) : Prop :=
  match s.phase with
  | .loading => s.worker = none ∧ s.Untouched ∧ s.trades = [] ∧ s.decisionLog = []
  | .onWorker => s.worker.isSome = true ∧ s.Untouched ∧ s.trades = [] ∧ s.decisionLog = []
  | .logging r first => s.Accepted r ∧ s.Untouched ∧ s.trades = [] ∧
      exists k, first = chunkSize * k ∧ s.decisionLog = (s.records r).take first
  | .storing r => s.Accepted r ∧ s.Untouched ∧ s.trades = []
  | .completing r _ => s.Accepted r ∧ s.Untouched ∧ s.trades = s.tradeRows r
  | .failing _ _ => s.session.status ≠ .failed
  | .ended recorded => recorded = true -> s.session.status ≠ .running

structure SessionFacts (s : ReplaySessionRun value) : Prop where
  guarded : forall w, s.worker = some w -> w.Guarded
  trades : s.trades = [] ∨ exists r, s.Accepted r ∧ s.trades = s.tradeRows r
  decisions : s.decisionLog = [] ∨ exists r k, s.Accepted r ∧
    s.decisionLog = (s.records r).take (chunkSize * k)
  untouched : s.session.status = .running -> s.Untouched
  completed : s.session.status = .completed -> exists r, s.Accepted r ∧ s.Reports r

structure SessionSound (s : ReplaySessionRun value) : Prop extends SessionFacts s where
  phase : s.PhaseSound

theorem Untouched.running {s : ReplaySessionRun value} (h : s.Untouched) :
    s.session.status = .running := by
  rw [h]
  rfl

theorem sessionSound_created (sessionId : String) :
    SessionSound (created sessionId : ReplaySessionRun value) where
  guarded := fun _ hw => nomatch hw
  trades := Or.inl rfl
  decisions := Or.inl rfl
  untouched := fun _ => rfl
  completed := fun h => nomatch h
  phase := ⟨rfl, rfl, rfl, rfl⟩

section Steps

variable {s : ReplaySessionRun value}

theorem SessionFacts.moved (h : SessionFacts s) (phase : ExecutePhase value) :
    SessionFacts { s with phase := phase } :=
  ⟨h.guarded, h.trades, h.decisions, h.untouched, h.completed⟩

theorem SessionFacts.afterDecisions (h : SessionFacts s) {r : LoggedResult value}
    (hr : s.Accepted r) (hfresh : s.Untouched) (htrades : s.trades = []) (now : Int) :
    SessionSound (s.afterDecisions r now) := by
  unfold ReplaySessionRun.afterDecisions
  split
  · next hclosed =>
      refine ⟨h.moved _, hr, hfresh, ?_⟩
      change s.trades = r.result.closed.map (tradeRow s.sessionId)
      rw [htrades, hclosed, List.map_nil]
  · exact ⟨h.moved _, hr, hfresh, htrades⟩

theorem SessionSound.loaded (h : SessionSound s) (outcome : Except String Unit) (now : Int) :
    SessionSound (replaySessionStep s (.loaded outcome now)) := by
  have hknown := h.phase
  unfold PhaseSound at hknown
  dsimp only [replaySessionStep]
  split
  · next hphase =>
      rw [hphase] at hknown
      rcases hknown with ⟨-, hfresh, htrades, hlog⟩
      refine ⟨⟨?_, Or.inl htrades, Or.inl hlog, fun _ => hfresh, ?_⟩, ?_⟩
      · intro w hw
        cases hw
        exact WorkerLink.guarded_start
      · intro hstatus
        cases hfresh.running.symm.trans hstatus
      · exact ⟨rfl, hfresh, htrades, hlog⟩
  · next hphase =>
      rw [hphase] at hknown
      refine ⟨h.moved _, ?_⟩
      intro hstatus
      cases hknown.2.1.running.symm.trans hstatus
  · exact h

theorem Settled.receive {outcome : Except String (LoggedResult value)} {w : WorkerLink value}
    (h : s.Settled outcome) (hw : s.worker = some w) (e : WorkerEvent value) :
    (s.receive w e).Settled outcome := by
  rcases h with ⟨w', hw', hpromise⟩
  rw [hw] at hw'
  cases hw'
  exact ⟨w.handle e, rfl, WorkerLink.promise_handle hpromise e⟩

theorem SessionSound.receive (h : SessionSound s) {w : WorkerLink value}
    (hw : s.worker = some w) (e : WorkerEvent value) : SessionSound (s.receive w e) := by
  refine ⟨⟨?_, ?_, ?_, h.untouched, ?_⟩, ?_⟩
  · intro w' hw'
    cases hw'
    exact (h.guarded w hw).handle e
  · exact h.trades.imp_right fun ⟨r, hr, htrades⟩ => ⟨r, Settled.receive hr hw e, htrades⟩
  · exact h.decisions.imp_right fun ⟨r, k, hr, hlog⟩ => ⟨r, k, Settled.receive hr hw e, hlog⟩
  · intro hstatus
    rcases h.completed hstatus with ⟨r, hr, hreports⟩
    exact ⟨r, Settled.receive hr hw e, hreports⟩
  · have hknown := h.phase
    have hsame : (s.receive w e).phase = s.phase := rfl
    unfold PhaseSound at hknown ⊢
    rw [hsame]
    cases hphase : s.phase with
    | loading =>
        rw [hphase, hw] at hknown
        cases hknown.1
    | onWorker =>
        rw [hphase] at hknown
        exact ⟨rfl, hknown.2⟩
    | logging r first =>
        rw [hphase] at hknown
        exact ⟨Settled.receive hknown.1 hw e, hknown.2⟩
    | storing r =>
        rw [hphase] at hknown
        exact ⟨Settled.receive hknown.1 hw e, hknown.2⟩
    | completing r endedAt =>
        rw [hphase] at hknown
        exact ⟨Settled.receive hknown.1 hw e, hknown.2⟩
    | failing message endedAt =>
        rw [hphase] at hknown
        exact hknown
    | ended recorded =>
        rw [hphase] at hknown
        exact hknown

theorem SessionSound.resume (h : SessionSound s) (now : Int) :
    SessionSound (replaySessionStep s (.resume now)) := by
  have hknown := h.phase
  unfold PhaseSound at hknown
  dsimp only [replaySessionStep]
  split
  · next outcome hphase hpromise =>
      rw [hphase] at hknown
      rcases hknown with ⟨-, hfresh, htrades, hlog⟩
      rcases Option.bind_eq_some_iff.mp hpromise with ⟨w, hw, hsettled⟩
      cases outcome with
      | error message =>
          refine ⟨h.moved _, ?_⟩
          intro hstatus
          cases hfresh.running.symm.trans hstatus
      | ok r =>
          have hr : s.Accepted r := ⟨w, hw, hsettled⟩
          unfold resumed
          dsimp only
          split_ifs
          · exact ⟨h.moved _, hr, hfresh, htrades, 0, rfl, hlog⟩
          · exact h.afterDecisions hr hfresh htrades now
  · exact h

theorem writeChunk_decisionLog {r : LoggedResult value} {first k : Nat}
    (hfirst : first = chunkSize * k) (hlog : s.decisionLog = (s.records r).take first)
    (result : WriteResult) :
    (s.writeChunk r first result).decisionLog =
      (s.records r).take (chunkSize * if result.landed then k + 1 else k) := by
  unfold writeChunk
  split_ifs
  · change s.decisionLog ++ ((s.records r).drop first).take chunkSize = _
    rw [hlog, <- List.take_add, hfirst, Nat.mul_succ]
  · rw [hlog, hfirst]

theorem SessionSound.logged (h : SessionSound s) {r : LoggedResult value} {first : Nat}
    (hphase : s.phase = .logging r first) (result : WriteResult) (now : Int) :
    SessionSound (s.answered result now) := by
  have hknown := h.phase
  rw [PhaseSound, hphase] at hknown
  rcases hknown with ⟨hr, hfresh, htrades, k, hfirst, hlog⟩
  have hsame : s.writeChunk r first result =
      { s with decisionLog := (s.writeChunk r first result).decisionLog } := by
    unfold writeChunk
    split_ifs <;> rfl
  have hlog' := writeChunk_decisionLog hfirst hlog result
  have hfacts : SessionFacts (s.writeChunk r first result) := by
    rw [hsame, hlog']
    exact ⟨h.guarded, h.trades, Or.inr ⟨r, _, hr, rfl⟩, h.untouched, h.completed⟩
  unfold ReplaySessionRun.answered
  rw [hphase]
  dsimp only
  split_ifs with hmore
  · have hnext : first + chunkSize = chunkSize * (k + 1) := by
      rw [hfirst, Nat.mul_succ]
    refine ⟨hfacts.moved _, ?_⟩
    rw [hmore.1] at hlog' ⊢
    exact ⟨hr, hfresh, htrades, k + 1, hnext, by rw [hnext]; exact hlog'⟩
  · refine hfacts.afterDecisions ?_ ?_ ?_ now
    · rw [hsame]
      exact hr
    · rw [hsame]
      exact hfresh
    · rw [hsame]
      exact htrades

theorem SessionSound.stored (h : SessionSound s) {r : LoggedResult value}
    (hphase : s.phase = .storing r) (result : WriteResult) (now : Int) :
    SessionSound (s.answered result now) := by
  have hknown := h.phase
  rw [PhaseSound, hphase] at hknown
  rcases hknown with ⟨hr, hfresh, htrades⟩
  have hstored : SessionFacts { s with trades := s.trades ++ s.tradeRows r } := by
    refine ⟨h.guarded, Or.inr ⟨r, hr, ?_⟩, h.decisions, h.untouched, ?_⟩
    · change s.trades ++ s.tradeRows r = s.tradeRows r
      rw [htrades, List.nil_append]
    · intro hstatus
      cases hfresh.running.symm.trans hstatus
  have hfailing : s.session.status ≠ .failed := by
    rw [hfresh.running]
    exact ReplayStatus.noConfusion
  unfold ReplaySessionRun.answered
  rw [hphase]
  cases result with
  | ok =>
      refine ⟨hstored.moved _, hr, hfresh, ?_⟩
      change s.trades ++ s.tradeRows r = s.tradeRows r
      rw [htrades, List.nil_append]
  | lost message =>
      exact ⟨hstored.moved _, hfailing⟩
  | failed message =>
      exact ⟨h.moved _, hfailing⟩

theorem SessionSound.concluded (h : SessionSound s) {r : LoggedResult value} {endedAt : Int}
    (hphase : s.phase = .completing r endedAt) (result : WriteResult) (now : Int) :
    SessionSound (s.answered result now) := by
  have hknown := h.phase
  rw [PhaseSound, hphase] at hknown
  rcases hknown with ⟨hr, hfresh, htrades⟩
  have hdone : SessionFacts { s with session := s.session.complete r.result endedAt } := by
    refine ⟨h.guarded, h.trades, h.decisions, ?_, ?_⟩
    · intro hstatus
      cases hstatus
    · intro _
      refine ⟨r, hr, htrades, endedAt, ?_⟩
      change s.session.complete r.result endedAt = _
      rw [hfresh]
      rfl
  have hfailing : s.session.status ≠ .failed := by
    rw [hfresh.running]
    exact ReplayStatus.noConfusion
  unfold ReplaySessionRun.answered
  rw [hphase]
  cases result with
  | ok =>
      refine ⟨hdone.moved _, ?_⟩
      intro _
      exact ReplayStatus.noConfusion
  | lost message =>
      refine ⟨hdone.moved _, ?_⟩
      exact ReplayStatus.noConfusion
  | failed message =>
      exact ⟨h.moved _, hfailing⟩

theorem SessionSound.rejected (h : SessionSound s) {message : String} {endedAt : Int}
    (hphase : s.phase = .failing message endedAt) (result : WriteResult) (now : Int) :
    SessionSound (s.answered result now) := by
  unfold ReplaySessionRun.answered
  rw [hphase]
  dsimp only
  unfold failSession
  split_ifs with hlanded
  · refine ⟨⟨h.guarded, h.trades, h.decisions, ?_, ?_⟩, ?_⟩
    · intro hstatus
      cases hstatus
    · intro hstatus
      cases hstatus
    · intro _
      exact ReplayStatus.noConfusion
  · refine ⟨h.moved _, ?_⟩
    intro hrecorded
    exact absurd hrecorded hlanded

theorem SessionSound.answered (h : SessionSound s) (result : WriteResult) (now : Int) :
    SessionSound (s.answered result now) := by
  cases hphase : s.phase with
  | logging r first =>
      exact h.logged hphase result now
  | storing r =>
      exact h.stored hphase result now
  | completing r endedAt =>
      exact h.concluded hphase result now
  | failing message endedAt =>
      exact h.rejected hphase result now
  | _ =>
      unfold ReplaySessionRun.answered
      rw [hphase]
      exact h

theorem SessionSound.progressed (h : SessionSound s) (writes : List Int) (percent : Option Int) :
    SessionSound { s with
      progressWrites := writes
      session := { s.session with progress := percent } } := by
  have hfresh : s.Untouched -> ({ s.session with progress := percent } : ReplaySession) =
      { ReplaySession.created with progress := percent } := by
    intro hfresh
    rw [hfresh]
  refine ⟨⟨h.guarded, h.trades, h.decisions, fun hstatus => hfresh (h.untouched hstatus),
    ?_⟩, ?_⟩
  · intro hstatus
    rcases h.completed hstatus with ⟨r, hr, htrades, endedAt, hrow⟩
    refine ⟨r, hr, htrades, endedAt, ?_⟩
    change ({ s.session with progress := percent } : ReplaySession) = _
    rw [hrow]
    rfl
  · have hknown := h.phase
    unfold PhaseSound at hknown ⊢
    dsimp only
    cases hphase : s.phase with
    | loading =>
        rw [hphase] at hknown
        exact ⟨hknown.1, hfresh hknown.2.1, hknown.2.2⟩
    | onWorker =>
        rw [hphase] at hknown
        exact ⟨hknown.1, hfresh hknown.2.1, hknown.2.2⟩
    | logging r first =>
        rw [hphase] at hknown
        exact ⟨hknown.1, hfresh hknown.2.1, hknown.2.2⟩
    | storing r =>
        rw [hphase] at hknown
        exact ⟨hknown.1, hfresh hknown.2.1, hknown.2.2⟩
    | completing r endedAt =>
        rw [hphase] at hknown
        exact ⟨hknown.1, hfresh hknown.2.1, hknown.2.2⟩
    | failing message endedAt =>
        rw [hphase] at hknown
        exact hknown
    | ended recorded =>
        rw [hphase] at hknown
        exact hknown

theorem SessionSound.step (h : SessionSound s) (op : ReplaySessionOp value) :
    SessionSound (replaySessionStep s op) := by
  cases op with
  | loaded outcome now =>
      exact h.loaded outcome now
  | worker e =>
      dsimp only [replaySessionStep]
      split
      · next w hw =>
          exact h.receive hw e
      · exact h
  | resume now =>
      exact h.resume now
  | answer result now =>
      exact h.answered result now
  | progressWrite i landed =>
      dsimp only [replaySessionStep]
      split
      · next percent _ =>
          split_ifs
          · exact h.progressed (s.progressWrites.eraseIdx i) (some percent)
          · exact h.progressed (s.progressWrites.eraseIdx i) s.session.progress
      · exact h

/-!
# Later states
-/

/-- What a later state keeps: the status never goes back, a failed row gets no more than
progress, and what the worker answered stands. -/
structure Follows (s later : ReplaySessionRun value) : Prop where
  rank : s.session.status.rank <= later.session.status.rank
  failed : s.session.status = .failed ->
    later.session = { s.session with progress := later.session.progress }
  settled : forall outcome, s.Settled outcome -> later.Settled outcome

theorem Follows.refl (s : ReplaySessionRun value) : s.Follows s :=
  ⟨Nat.le_refl _, fun _ => rfl, fun _ h => h⟩

theorem Follows.trans {s t u : ReplaySessionRun value} (h : s.Follows t) (h' : t.Follows u) :
    s.Follows u where
  rank := Nat.le_trans h.rank h'.rank
  failed := by
    intro hstatus
    have hrow := h.failed hstatus
    have hrow' := h'.failed (by rw [hrow]; exact hstatus)
    rw [hrow', hrow]
  settled := fun outcome hs => h'.settled outcome (h.settled outcome hs)

theorem follows_of_session_eq {later : ReplaySessionRun value}
    (hsession : later.session = s.session)
    (hsettled : forall outcome, s.Settled outcome -> later.Settled outcome) : s.Follows later where
  rank := by rw [hsession]
  failed := fun _ => by rw [hsession]
  settled := hsettled

theorem afterDecisions_follows (r : LoggedResult value) (now : Int) :
    s.Follows (s.afterDecisions r now) := by
  unfold ReplaySessionRun.afterDecisions
  split
  · exact follows_of_session_eq rfl fun _ h => h
  · exact follows_of_session_eq rfl fun _ h => h

theorem resumed_follows (outcome : Except String (LoggedResult value)) (now : Int) :
    s.Follows (s.resumed outcome now) := by
  cases outcome with
  | error message =>
      exact follows_of_session_eq rfl fun _ h => h
  | ok r =>
      dsimp only [resumed]
      split_ifs
      · exact follows_of_session_eq rfl fun _ h => h
      · exact afterDecisions_follows r now

theorem follows_of_running {later : ReplaySessionRun value}
    (hstatus : s.session.status = .running) (hworker : later.worker = s.worker) :
    s.Follows later where
  rank := by
    rw [hstatus]
    exact Nat.zero_le _
  failed := by
    intro hfailed
    cases hstatus.symm.trans hfailed
  settled := fun outcome h => by
    unfold Settled
    rw [hworker]
    exact h

theorem answered_worker (result : WriteResult) (now : Int) :
    (s.answered result now).worker = s.worker := by
  unfold ReplaySessionRun.answered
  cases s.phase with
  | logging r first =>
      have hchunk : (s.writeChunk r first result).worker = s.worker := by
        unfold writeChunk
        split_ifs <;> rfl
      dsimp only
      split_ifs
      · exact hchunk
      · unfold ReplaySessionRun.afterDecisions
        split
        · exact hchunk
        · exact hchunk
  | storing r =>
      cases result <;> rfl
  | completing r endedAt =>
      cases result <;> rfl
  | failing message endedAt =>
      cases result <;> rfl
  | _ =>
      rfl

theorem SessionSound.answered_follows (h : SessionSound s) (result : WriteResult) (now : Int) :
    s.Follows (s.answered result now) := by
  have hknown := h.phase
  have hworker := answered_worker (s := s) result now
  unfold PhaseSound at hknown
  cases hphase : s.phase with
  | logging r first =>
      rw [hphase] at hknown
      exact follows_of_running hknown.2.1.running hworker
  | storing r =>
      rw [hphase] at hknown
      exact follows_of_running hknown.2.1.running hworker
  | completing r endedAt =>
      rw [hphase] at hknown
      exact follows_of_running hknown.2.1.running hworker
  | failing message endedAt =>
      rw [hphase] at hknown
      refine ⟨?_, fun hstatus => absurd hstatus hknown, ?_⟩
      · unfold ReplaySessionRun.answered
        rw [hphase]
        dsimp only
        unfold failSession
        split_ifs
        · exact ReplayStatus.rank_le_failed _
        · exact Nat.le_refl _
      · intro outcome hsettled
        unfold Settled
        rw [hworker]
        exact hsettled
  | _ =>
      unfold ReplaySessionRun.answered
      rw [hphase]
      exact Follows.refl s

theorem SessionSound.step_follows (h : SessionSound s) (op : ReplaySessionOp value) :
    s.Follows (replaySessionStep s op) := by
  cases op with
  | loaded outcome now =>
      have hknown := h.phase
      unfold PhaseSound at hknown
      dsimp only [replaySessionStep]
      split
      · next hphase =>
          rw [hphase] at hknown
          refine follows_of_session_eq rfl ?_
          rintro outcome ⟨w, hw, -⟩
          cases hknown.1.symm.trans hw
      · exact follows_of_session_eq rfl fun _ hs => hs
      · exact Follows.refl s
  | worker e =>
      dsimp only [replaySessionStep]
      split
      · next w hw =>
          exact follows_of_session_eq rfl fun _ hsettled => hsettled.receive hw e
      · exact Follows.refl s
  | resume now =>
      dsimp only [replaySessionStep]
      split
      · exact resumed_follows _ now
      · exact Follows.refl s
  | answer result now =>
      exact h.answered_follows result now
  | progressWrite i landed =>
      dsimp only [replaySessionStep]
      split
      · split_ifs
        · exact ⟨Nat.le_refl _, fun _ => rfl, fun _ hs => hs⟩
        · exact follows_of_session_eq rfl fun _ hs => hs
      · exact Follows.refl s

/-!
# Why a session has failed
-/

/-- The candles were not loaded, or the worker failed, or its result was accepted and the
database failed a call: with this message. -/
def FailedWith (ops : List (ReplaySessionOp value)) (s : ReplaySessionRun value)
    (message : String) : Prop :=
  (s.worker = none ∧ exists now, .loaded (.error message) now ∈ ops) ∨
    s.Settled (.error message) ∨
    exists r result now, s.Accepted r ∧ .answer result now ∈ ops ∧ result.message = some message

structure FailureKnown (ops : List (ReplaySessionOp value)) (s : ReplaySessionRun value) :
    Prop where
  failing : forall message, s.phase.failure = some message -> FailedWith ops s message
  failed : s.session.status = .failed ->
    exists message, s.session.errorMessage = some message ∧ FailedWith ops s message

variable {ops : List (ReplaySessionOp value)}

theorem FailedWith.later {later : ReplaySessionRun value} {message : String}
    (h : FailedWith ops s message) (hworker : s.worker = none -> later.worker = none)
    (hsettled : forall outcome, s.Settled outcome -> later.Settled outcome) :
    FailedWith ops later message := by
  rcases h with ⟨hnone, hloaded⟩ | herror | ⟨r, result, now, hr, hanswer⟩
  · exact Or.inl ⟨hworker hnone, hloaded⟩
  · exact Or.inr (Or.inl (hsettled _ herror))
  · exact Or.inr (Or.inr ⟨r, result, now, hsettled _ hr, hanswer⟩)

theorem FailedWith.same {later : ReplaySessionRun value} {message : String}
    (h : FailedWith ops s message) (hworker : later.worker = s.worker) :
    FailedWith ops later message := by
  apply h.later hworker.trans
  intro outcome hsettled
  unfold Settled
  rw [hworker]
  exact hsettled

theorem FailureKnown.moved (h : FailureKnown ops s) {later : ReplaySessionRun value}
    (hphase : later.phase.failure = none)
    (hsession : later.session = s.session) (hworker : later.worker = s.worker) :
    FailureKnown ops later where
  failing message hfailing := by
    rw [hphase] at hfailing
    cases hfailing
  failed hstatus := by
    rw [hsession] at hstatus ⊢
    rcases h.failed hstatus with ⟨message, hmessage, hwith⟩
    exact ⟨message, hmessage, hwith.same hworker⟩

theorem failureKnown_failing {message : String}
    (hphase : s.phase.failure = some message) (hstatus : s.session.status ≠ .failed)
    (hwith : FailedWith ops s message) : FailureKnown ops s where
  failing message' hfailing := by
    rw [hphase] at hfailing
    cases hfailing
    exact hwith
  failed hfailed := absurd hfailed hstatus

theorem failure_afterDecisions (r : LoggedResult value) (now : Int) :
    (s.afterDecisions r now).phase.failure = none := by
  unfold ReplaySessionRun.afterDecisions
  split <;> rfl

theorem FailureKnown.resumed (h : FailureKnown ops s) {outcome : Except String (LoggedResult value)}
    (hsettled : s.Settled outcome) (hrunning : s.session.status = .running) (now : Int) :
    FailureKnown ops (s.resumed outcome now) := by
  cases outcome with
  | error message =>
      refine failureKnown_failing rfl ?_ (Or.inr (Or.inl hsettled))
      exact fun hfailed => ReplayStatus.noConfusion (hrunning.symm.trans hfailed)
  | ok r =>
      unfold ReplaySessionRun.resumed
      dsimp only
      split_ifs
      · exact h.moved rfl rfl rfl
      · refine h.moved (failure_afterDecisions r now) ?_ ?_
        · unfold ReplaySessionRun.afterDecisions
          split <;> rfl
        · unfold ReplaySessionRun.afterDecisions
          split <;> rfl

theorem FailureKnown.answered (h : FailureKnown ops s) (hsound : SessionSound s)
    {result : WriteResult} {now : Int} (hop : .answer result now ∈ ops) :
    FailureKnown ops (s.answered result now) := by
  have hknown := hsound.phase
  have hworker := answered_worker (s := s) result now
  unfold PhaseSound at hknown
  cases hphase : s.phase with
  | logging r first =>
      unfold ReplaySessionRun.answered at hworker ⊢
      rw [hphase] at hworker ⊢
      dsimp only at hworker ⊢
      split_ifs at hworker ⊢
      · refine h.moved rfl ?_ hworker
        unfold writeChunk
        split_ifs <;> rfl
      · refine h.moved (failure_afterDecisions r now) ?_ hworker
        unfold writeChunk ReplaySessionRun.afterDecisions
        split_ifs <;> split <;> rfl
  | storing r =>
      rw [hphase] at hknown
      have hwith : forall {later : ReplaySessionRun value} {message : String},
          later.worker = s.worker -> result.message = some message ->
            FailedWith ops later message := by
        intro later message hsame hmessage
        refine Or.inr (Or.inr ⟨r, result, now, ?_, hop, hmessage⟩)
        unfold Accepted Settled
        rw [hsame]
        exact hknown.1
      have hstatus : s.session.status ≠ .failed := fun hfailed =>
        ReplayStatus.noConfusion (hknown.2.1.running.symm.trans hfailed)
      unfold ReplaySessionRun.answered
      rw [hphase]
      cases result with
      | ok =>
          exact h.moved rfl rfl rfl
      | lost message =>
          exact failureKnown_failing rfl hstatus (hwith rfl rfl)
      | failed message =>
          exact failureKnown_failing rfl hstatus (hwith rfl rfl)
  | completing r endedAt =>
      rw [hphase] at hknown
      have hwith : forall {later : ReplaySessionRun value} {message : String},
          later.worker = s.worker -> result.message = some message ->
            FailedWith ops later message := by
        intro later message hsame hmessage
        refine Or.inr (Or.inr ⟨r, result, now, ?_, hop, hmessage⟩)
        unfold Accepted Settled
        rw [hsame]
        exact hknown.1
      have hstatus : s.session.status ≠ .failed := fun hfailed =>
        ReplayStatus.noConfusion (hknown.2.1.running.symm.trans hfailed)
      unfold ReplaySessionRun.answered
      rw [hphase]
      cases result with
      | ok =>
          refine ⟨fun _ hfailing => (nomatch hfailing), ?_⟩
          intro hfailed
          cases hfailed
      | lost message =>
          exact failureKnown_failing rfl ReplayStatus.noConfusion (hwith rfl rfl)
      | failed message =>
          exact failureKnown_failing rfl hstatus (hwith rfl rfl)
  | failing message endedAt =>
      have hfailure : s.phase.failure = some message := by
        rw [hphase]
        rfl
      have hwith := (h.failing message hfailure).same hworker
      unfold ReplaySessionRun.answered at hwith ⊢
      rw [hphase] at hwith ⊢
      dsimp only at hwith ⊢
      refine ⟨fun _ hfailing => (nomatch hfailing), ?_⟩
      intro hfailed
      unfold failSession at hfailed hwith ⊢
      split_ifs at hfailed hwith ⊢
      · exact ⟨message, rfl, hwith⟩
      · rw [hphase] at hknown
        exact absurd hfailed hknown
  | _ =>
      unfold ReplaySessionRun.answered
      rw [hphase]
      exact h

theorem FailureKnown.step (h : FailureKnown ops s) (hsound : SessionSound s)
    {op : ReplaySessionOp value} (hop : op ∈ ops) : FailureKnown ops (replaySessionStep s op) := by
  have hknown := hsound.phase
  unfold PhaseSound at hknown
  cases op with
  | loaded outcome now =>
      dsimp only [replaySessionStep]
      split
      · next hphase =>
          rw [hphase] at hknown
          refine ⟨fun _ hfailing => (nomatch hfailing), ?_⟩
          intro hfailed
          cases hknown.2.1.running.symm.trans hfailed
      · next hphase =>
          rw [hphase] at hknown
          refine failureKnown_failing rfl ?_ (Or.inl ⟨hknown.1, now, hop⟩)
          exact fun hfailed =>
            ReplayStatus.noConfusion (hknown.2.1.running.symm.trans hfailed)
      · exact h
  | worker e =>
      dsimp only [replaySessionStep]
      split
      · next w hw =>
          have hlater : forall {message : String}, FailedWith ops s message ->
              FailedWith ops (s.receive w e) message := by
            intro message hwith
            apply hwith.later
            · intro hnone
              cases hnone.symm.trans hw
            · exact fun _ hsettled => hsettled.receive hw e
          refine ⟨fun message hfailing => hlater (h.failing message hfailing), ?_⟩
          intro hfailed
          rcases h.failed hfailed with ⟨message, hmessage, hwith⟩
          exact ⟨message, hmessage, hlater hwith⟩
      · exact h
  | resume now =>
      dsimp only [replaySessionStep]
      split
      · next outcome hphase hpromise =>
          rw [hphase] at hknown
          rcases Option.bind_eq_some_iff.mp hpromise with ⟨w, hw, hsettled⟩
          exact h.resumed ⟨w, hw, hsettled⟩ hknown.2.1.running now
      · exact h
  | answer result now =>
      exact h.answered hsound hop
  | progressWrite i landed =>
      dsimp only [replaySessionStep]
      split
      · split_ifs
        · exact ⟨h.failing, h.failed⟩
        · exact ⟨h.failing, h.failed⟩
      · exact h

/-!
# Runs
-/

theorem sessionSound_run (sessionId : String) (ops : List (ReplaySessionOp value)) :
    SessionSound (runFrom replaySessionStep (created sessionId) ops) :=
  runFrom_inv SessionSound (fun _ op h => h.step op) (sessionSound_created sessionId) ops

theorem failureKnown_run (sessionId : String) (ops : List (ReplaySessionOp value)) :
    FailureKnown ops (runFrom replaySessionStep (created sessionId) ops) := by
  refine (runFrom_inv_of_mem (fun s => SessionSound s ∧ FailureKnown ops s) ?_ ?_).2
  · intro s op hop h
    exact ⟨h.1.step op, h.2.step h.1 hop⟩
  · exact ⟨sessionSound_created sessionId, fun _ h => (nomatch h), fun h => (nomatch h)⟩

theorem SessionSound.run_follows (h : SessionSound s) (ops : List (ReplaySessionOp value)) :
    s.Follows (runFrom replaySessionStep s ops) := by
  induction ops generalizing s with
  | nil =>
      exact Follows.refl s
  | cons op rest ih =>
      exact (h.step_follows op).trans (ih (h.step op))

theorem SessionSound.ended_of_failed (h : SessionSound s) (hstatus : s.session.status = .failed) :
    exists recorded, s.phase = .ended recorded := by
  have hknown := h.phase
  unfold PhaseSound at hknown
  cases hphase : s.phase with
  | ended recorded =>
      exact ⟨recorded, rfl⟩
  | failing message endedAt =>
      rw [hphase] at hknown
      exact absurd hstatus hknown
  | logging r first =>
      rw [hphase] at hknown
      cases hknown.2.1.running.symm.trans hstatus
  | _ =>
      rw [hphase] at hknown
      cases hknown.2.1.running.symm.trans hstatus

/-- Whatever the worker, the deadline and the database do: the tables hold nothing but the
accepted result, the row says completed for the whole of it only and failed with the
message of what went wrong, and no later step takes back a status, a failure or the
worker's answer. -/
theorem sessions_truthful (sessionId : String) (front back : List (ReplaySessionOp value)) :
    let s := runFrom replaySessionStep (created sessionId) front
    SessionFacts s ∧
      (s.phase = .ended true -> s.session.status ≠ .running) ∧
      (s.session.status = .failed -> (exists recorded, s.phase = .ended recorded) ∧
        exists message, s.session.errorMessage = some message ∧ FailedWith front s message) ∧
      s.Follows (runFrom replaySessionStep s back) := by
  have h := sessionSound_run sessionId front
  refine ⟨h.toSessionFacts, ?_, fun hstatus => ⟨h.ended_of_failed hstatus,
    (failureKnown_run sessionId front).failed hstatus⟩, h.run_follows back⟩
  intro hphase
  have hknown := h.phase
  rw [PhaseSound, hphase] at hknown
  exact hknown rfl

/-!
# The end of a session
-/

theorem answered_storing {r : LoggedResult value} (hphase : s.phase = .storing r) (now : Int) :
    (s.answered .ok now).phase = .completing r now := by
  unfold ReplaySessionRun.answered
  rw [hphase]
  rfl

theorem afterDecisions_phase (r : LoggedResult value) (now : Int) :
    (s.afterDecisions r now).phase = .completing r now ∨
      (s.afterDecisions r now).phase = .storing r := by
  unfold ReplaySessionRun.afterDecisions
  split
  · exact Or.inl rfl
  · exact Or.inr rfl

theorem answered_logging {r : LoggedResult value} {first : Nat}
    (hphase : s.phase = .logging r first) (now : Int) :
    (first + chunkSize < (r.decisions.getD []).length ∧
        (s.answered .ok now).phase = .logging r (first + chunkSize)) ∨
      (s.answered .ok now).phase = .completing r now ∨
      (s.answered .ok now).phase = .storing r := by
  unfold ReplaySessionRun.answered
  rw [hphase]
  dsimp only
  split_ifs with hmore
  · exact Or.inl ⟨hmore.2, rfl⟩
  · exact Or.inr (afterDecisions_phase r now)

/-- After `n` good answers of the database `execute` is over and the row as asked. -/
def EndsIn (s : ReplaySessionRun value) (now : Int) (n : Nat) (P : ReplaySession -> Prop) : Prop :=
  let t := runFrom replaySessionStep s (List.replicate n (.answer .ok now))
  t.phase = .ended true ∧ P t.session

theorem endsIn_succ {now : Int} {n : Nat} {P : ReplaySession -> Prop}
    (h : (s.answered .ok now).EndsIn now n P) : s.EndsIn now (n + 1) P := h

theorem endsIn_completing {r : LoggedResult value} {endedAt : Int}
    (hphase : s.phase = .completing r endedAt) (now : Int) :
    s.EndsIn now 1 fun row => row.status = .completed := by
  refine endsIn_succ (n := 0) ?_
  unfold ReplaySessionRun.answered
  rw [hphase]
  exact ⟨rfl, rfl⟩

theorem endsIn_failing {message : String} {endedAt : Int}
    (hphase : s.phase = .failing message endedAt) (now : Int) :
    s.EndsIn now 1 fun row => row.status = .failed ∧ row.errorMessage = some message := by
  refine endsIn_succ (n := 0) ?_
  unfold ReplaySessionRun.answered
  rw [hphase]
  exact ⟨rfl, rfl, rfl⟩

theorem endsIn_afterDecisions {r : LoggedResult value} {endedAt : Int}
    (hphase : s.phase = .completing r endedAt ∨ s.phase = .storing r) (now : Int) :
    exists n, n <= 2 ∧ s.EndsIn now n fun row => row.status = .completed := by
  rcases hphase with hphase | hphase
  · exact ⟨1, by omega, endsIn_completing hphase now⟩
  · exact ⟨2, Nat.le_refl _, endsIn_succ (endsIn_completing (answered_storing hphase now) now)⟩

theorem endsIn_logging {r : LoggedResult value} (left : Nat) (now : Int) :
    forall {s : ReplaySessionRun value} {first : Nat}, s.phase = .logging r first ->
      (r.decisions.getD []).length <= first + chunkSize * (left + 1) ->
      exists n, n <= left + 3 ∧ s.EndsIn now n fun row => row.status = .completed := by
  induction left with
  | zero =>
      intro s first hphase hleft
      rcases answered_logging hphase now with ⟨hmore, -⟩ | hdone
      · exact absurd hleft (by omega)
      · rcases endsIn_afterDecisions hdone now with ⟨n, hn, hends⟩
        exact ⟨n + 1, by omega, endsIn_succ hends⟩
  | succ left ih =>
      intro s first hphase hleft
      rcases answered_logging hphase now with ⟨-, hnext⟩ | hdone
      · rcases ih hnext (by rw [Nat.mul_succ] at hleft; omega) with ⟨n, hn, hends⟩
        exact ⟨n + 1, by omega, endsIn_succ hends⟩
      · rcases endsIn_afterDecisions hdone now with ⟨n, hn, hends⟩
        exact ⟨n + 1, by omega, endsIn_succ hends⟩

/-- The row of a session whose worker answered so. -/
def Shows : Except String (LoggedResult value) -> ReplaySession -> Prop
  | .ok _, row => row.status = .completed
  | .error message, row => row.status = .failed ∧ row.errorMessage = some message

/-- The answers of the database that `execute` waits for at most. -/
def awaits : Except String (LoggedResult value) -> Nat
  | .ok r => (r.decisions.getD []).length / chunkSize + 3
  | .error _ => 1

theorem endsIn_resumed (outcome : Except String (LoggedResult value)) (now : Int) :
    exists n, n <= awaits outcome ∧ (s.resumed outcome now).EndsIn now n (Shows outcome) := by
  cases outcome with
  | error message =>
      exact ⟨1, Nat.le_refl _, endsIn_failing rfl now⟩
  | ok r =>
      dsimp only [resumed]
      split_ifs
      · refine endsIn_logging ((r.decisions.getD []).length / chunkSize) now rfl ?_
        rw [Nat.zero_add]
        exact (Nat.lt_mul_div_succ _ (by decide)).le
      · rcases endsIn_afterDecisions (afterDecisions_phase r now) now with ⟨n, hn, hends⟩
        exact ⟨n, Nat.le_trans hn (Nat.le_trans (by decide) (Nat.le_add_left 3 _)), hends⟩

theorem Settled.unique {first second : Except String (LoggedResult value)} (h : s.Settled first)
    (h' : s.Settled second) : first = second := by
  rcases h with ⟨w, hw, hfirst⟩
  rcases h' with ⟨w', hw', hsecond⟩
  rw [hw] at hw'
  cases hw'
  exact Option.some.inj (hfirst.symm.trans hsecond)

def Concluded (s : ReplaySessionRun value) : Except String (LoggedResult value) -> Prop
  | .ok r => s.session.status = .completed ∧ s.Reports r
  | .error message => s.session.status = .failed ∧ s.session.errorMessage = some message

theorem SessionSound.concludes (h : SessionSound s) {outcome : Except String (LoggedResult value)}
    (hsettled : s.Settled outcome) (hrow : Shows outcome s.session) : s.Concluded outcome := by
  cases outcome with
  | error message =>
      exact hrow
  | ok r =>
      rcases h.completed hrow with ⟨r', hr, hreports⟩
      cases Except.ok.inj (hr.unique hsettled)
      exact ⟨hrow, hreports⟩

/-- No session is left running: once the worker has answered, failed, died or run out of
time, the row says so after a bounded number of good answers of the database.  It says
what the promise had settled to, and what this event says when the promise was open. -/
theorem sessions_finish (sessionId : String) (ops : List (ReplaySessionOp value))
    {e : WorkerEvent value} (he : WorkerLink.Final e) (now : Int)
    (hphase : (runFrom replaySessionStep (created sessionId) ops).phase = .onWorker) :
    exists outcome n,
      ((runFrom replaySessionStep (created sessionId) ops).worker.bind WorkerLink.promise).or
        (WorkerLink.outcomeOf e) = some outcome ∧
      n <= awaits outcome ∧
      let t := runFrom replaySessionStep (created sessionId)
        (ops ++ .worker e :: .resume now :: List.replicate n (.answer .ok now))
      t.Settled outcome ∧ t.phase = .ended true ∧ t.Concluded outcome := by
  have h := sessionSound_run sessionId ops
  have hknown := h.phase
  rw [PhaseSound, hphase] at hknown
  rcases Option.isSome_iff_exists.mp hknown.1 with ⟨w, hw⟩
  have hpromise := (h.guarded w hw).promise_handle e
  have hsome : (w.promise.or (WorkerLink.outcomeOf e)).isSome = true := by
    rw [Option.isSome_or, (WorkerLink.final_iff e).mp he, Bool.or_true]
  rcases Option.isSome_iff_exists.mp hsome with ⟨outcome, htells⟩
  rw [htells] at hpromise
  set s := runFrom replaySessionStep (created sessionId) ops with hs
  have hreceived : replaySessionStep s (.worker e) = s.receive w e := by
    dsimp only [replaySessionStep]
    rw [hw]
  have hresumed : replaySessionStep (s.receive w e) (.resume now) =
      (s.receive w e).resumed outcome now := by
    dsimp only [replaySessionStep]
    have hphase' : (s.receive w e).phase = .onWorker := hphase
    have hworker : (s.receive w e).worker.bind WorkerLink.promise = some outcome := hpromise
    rw [hphase', hworker]
  rcases endsIn_resumed (s := s.receive w e) outcome now with ⟨n, hn, hended, hrow⟩
  refine ⟨outcome, n, ?_, hn, ?_⟩
  · rw [hw, Option.bind_some]
    exact htells
  have hreach : runFrom replaySessionStep (created sessionId)
      (ops ++ .worker e :: .resume now :: List.replicate n (.answer .ok now)) =
        runFrom replaySessionStep ((s.receive w e).resumed outcome now)
          (List.replicate n (.answer .ok now)) := by
    rw [runFrom_append, <- hs, runFrom_cons, hreceived, runFrom_cons, hresumed]
  have hsettled : ((s.receive w e).resumed outcome now).Settled outcome :=
    (resumed_follows outcome now).settled outcome ⟨w.handle e, rfl, hpromise⟩
  have hresumedSound : SessionSound ((s.receive w e).resumed outcome now) := by
    rw [<- hresumed, <- hreceived]
    exact (h.step _).step _
  rw [hreach]
  have hkept := (hresumedSound.run_follows (List.replicate n (.answer .ok now))).settled
    outcome hsettled
  have hsound := runFrom_inv SessionSound (fun _ op h => h.step op) hresumedSound
    (List.replicate n (ReplaySessionOp.answer .ok now))
  exact ⟨hkept, hended, hsound.concludes hkept hrow⟩

/-- A replay without a trade that stayed away from one bar. -/
def quietResult : LoggedResult Unit :=
  { result :=
      { opened := []
        closed := []
        finalBalance := .finite 10000
        maxConcurrent := 0
        metrics :=
          { tradesCount := 0, winsCount := 0, lossesCount := 0, realizedPnl := 0
            netReturnPct := 0 } }
    decisions := some
      [{ barTime := 900000, symbol := "XAUUSD", decision := "NO_SWEEP", signalSide := none
         context := [] }] }

theorem sessions_finish_when_done :
    exists outcome n,
      ((runFrom replaySessionStep (created "r1")
          [.loaded (.ok ()) 0, .worker (.progress 1 2)]).worker.bind WorkerLink.promise).or
        (WorkerLink.outcomeOf (.done quietResult)) = some outcome ∧
      n <= awaits outcome ∧
      let t := runFrom replaySessionStep (created "r1")
        ([.loaded (.ok ()) 0, .worker (.progress 1 2)] ++
          .worker (.done quietResult) :: .resume 60000 :: List.replicate n (.answer .ok 60000))
      t.Settled outcome ∧ t.phase = .ended true ∧ t.Concluded outcome :=
  sessions_finish "r1" [.loaded (.ok ()) 0, .worker (.progress 1 2)] (e := .done quietResult)
    trivial 60000 rfl

end Steps

end ReplaySessionRun

end Replay
end Shamarx
