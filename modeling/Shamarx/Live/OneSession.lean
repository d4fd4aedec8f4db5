import Shamarx.Live.LiveSessions

/-!
# One running session

When starts and stops do not overlap, the table has few running sessions: at most two
whatever fails and wherever the process dies, and only the current one when no stop is
cut off.
-/

namespace Shamarx
namespace Live

open Foundation

/-- A start or a stop begins when none is under way. -/
def Serial (s : ControlSystem) : ControlOp -> Prop
  | .start _ _ _ => forall i, s.calls i = none
  | .stop _ => forall i, s.calls i = none
  | _ => True

def LiveSession.isRunning (row : LiveSession) : Bool :=
  decide (row.status = .running)

def ControlSystem.runningRows (s : ControlSystem) : List LiveSession :=
  s.liveSessions.filter LiveSession.isRunning

/-!
# What the table operations do to the running sessions
-/

theorem isRunning_crashOrphan {spared : Option String} {endedAt : Int} {row : LiveSession} :
    (crashOrphan spared endedAt row).isRunning = true ↔
      row.isRunning = true ∧ spared = some row.id := by
  unfold crashOrphan LiveSession.isRunning
  split_ifs with h
  · simp [h.2]
  · rw [not_and, not_not] at h
    simpa using h

theorem crashOrphan_of_isRunning {spared : Option String} {endedAt : Int} {row : LiveSession}
    (h : (crashOrphan spared endedAt row).isRunning = true) :
    crashOrphan spared endedAt row = row := by
  have hspared := (isRunning_crashOrphan.mp h).2
  exact if_neg fun hcrash => hcrash.2 hspared

theorem isRunning_of_finalizeSession {session : Option String} {summary : SessionSummary}
    {row : LiveSession} (h : (finalizeSession session summary row).isRunning = true) :
    row.isRunning = true := by
  have hcont := continues_finalizeSession session summary row
  unfold LiveSession.isRunning at h ⊢
  rw [decide_eq_true_iff] at h ⊢
  by_contra hfinished
  exact hcont.finished hfinished h

theorem length_filter_isRunning_map_le {change : LiveSession -> LiveSession}
    (h : forall row, (change row).isRunning = true -> row.isRunning = true)
    (rows : List LiveSession) :
    ((rows.map change).filter LiveSession.isRunning).length <=
      (rows.filter LiveSession.isRunning).length := by
  rw [List.filter_map, List.length_map]
  exact (List.monotone_filter_right rows h).length_le

theorem runningRows_updateRows_le {change : LiveSession -> LiveSession} (s : ControlSystem)
    (h : forall row, (change row).isRunning = true -> row.isRunning = true) :
    (s.updateRows change).runningRows.length <= s.runningRows.length :=
  length_filter_isRunning_map_le h s.liveSessions

theorem runningRows_createRow (env : ControlEnv) (cfg : LiveEngineConfig) (startEquity : ℚ)
    (r : CallReply) (s : ControlSystem) :
    (s.createRow env cfg startEquity r).runningRows =
      s.runningRows ++ [newSession env cfg startEquity r.session r.now] := by
  rw [ControlSystem.runningRows, ControlSystem.createRow, List.filter_append]
  rfl

/-!
# At most two running sessions
-/

/-- The running rows are the current session's. -/
def OnlyCurrent (s : ControlSystem) : Prop :=
  forall row, row ∈ s.runningRows -> s.currentSessionId = some row.id

def ControlCall.Cleaned (s : ControlSystem) : ControlCall -> Prop
  | .startOrphans _ spared _ => spared = s.currentSessionId
  | .startMode _ => OnlyCurrent s
  | .startReset _ => OnlyCurrent s
  | .startAccount _ => OnlyCurrent s
  | .startCreate _ _ => OnlyCurrent s
  | _ => True

structure TwoSessions (s : ControlSystem) : Prop where
  sound : ControlSound s
  bound : s.runningRows.length <= 2
  alone : s.calls.Alone
  calls : s.calls.Forall fun _ call => call.Cleaned s

theorem OnlyCurrent.length_le {s : ControlSystem} (h : OnlyCurrent s) (hsound : ControlSound s) :
    s.runningRows.length <= 1 := by
  have hnodup : (s.runningRows.map LiveSession.id).Nodup :=
    List.Nodup.sublist (List.filter_sublist.map LiveSession.id) hsound.unique
  cases hrows : s.runningRows with
  | nil =>
      exact Nat.zero_le 1
  | cons first rest =>
      cases rest with
      | nil =>
          exact Nat.le_refl 1
      | cons second rest =>
          have hfirst := h first (by rw [hrows]; exact List.mem_cons_self)
          have hsecond := h second
            (by rw [hrows]; exact List.mem_cons_of_mem _ List.mem_cons_self)
          rw [hrows, List.map_cons, List.map_cons, List.nodup_cons, List.mem_cons, not_or] at hnodup
          exact absurd (Option.some.inj (hfirst.symm.trans hsecond)) hnodup.1.1

structure OneMoved (s : ControlSystem) (id : Nat) (t : ControlSystem) : Prop where
  calls : (exists call, t.calls = s.calls.put id call ∧ call.Cleaned t) ∨ t.calls = s.calls.drop id
  bound : t.runningRows.length <= 2

theorem OneMoved.await {s t : ControlSystem} {id : Nat} (hcalls : t.calls = s.calls)
    (hbound : t.runningRows.length <= 2) {call : ControlCall}
    (hcall : call.Cleaned (t.await id call)) : OneMoved s id (t.await id call) := by
  refine ⟨Or.inl ⟨call, ?_, hcall⟩, hbound⟩
  rw [ControlSystem.await, hcalls]

theorem OneMoved.return_ {s t : ControlSystem} {id : Nat} (hcalls : t.calls = s.calls)
    (hbound : t.runningRows.length <= 2) : OneMoved s id (t.return_ id) := by
  refine ⟨Or.inr ?_, hbound⟩
  rw [ControlSystem.return_, hcalls]

theorem OneMoved.required {s : ControlSystem} {id : Nat} {result : CallResult}
    {change next : ControlSystem -> ControlSystem} (hbound : s.runningRows.length <= 2)
    (hcalls : (change s).calls = s.calls)
    (hchanged : result.landed = true -> (change s).runningRows.length <= 2)
    (hnext : result = .ok -> OneMoved s id (next (change s))) :
    OneMoved s id (s.required id result change next) := by
  cases result with
  | ok =>
      exact hnext rfl
  | lost =>
      exact OneMoved.return_ hcalls (hchanged rfl)
  | failed =>
      exact OneMoved.return_ rfl hbound

theorem OneMoved.keys {s : ControlSystem} {id : Nat} (hbound : s.runningRows.length <= 2)
    (result : CallResult) (change : EngineKeys -> EngineKeys)
    {next : ControlSystem -> ControlSystem} {call : ControlCall} (heq : next (s.setKeys change) = (s.setKeys change).await id call)
    (hcall : call.Cleaned ((s.setKeys change).await id call)) :
    OneMoved s id (s.required id result (ControlSystem.setKeys change) next) := by
  refine OneMoved.required hbound rfl (fun _ => hbound) fun _ => ?_
  rw [heq]
  exact ⟨Or.inl ⟨call, rfl, hcall⟩, hbound⟩

theorem OneMoved.forgetSession {s t : ControlSystem} {id : Nat} (hcalls : t.calls = s.calls)
    (hbound : t.runningRows.length <= 2) : OneMoved s id (t.forgetSession id) := by
  refine OneMoved.await ?_ ?_ ?_
  · exact hcalls
  · exact hbound
  · exact trivial

theorem OneMoved.afterFlags {s t : ControlSystem} {id : Nat} (hcalls : t.calls = s.calls)
    (hbound : t.runningRows.length <= 2) : OneMoved s id (t.afterFlags id) := by
  unfold ControlSystem.afterFlags
  split_ifs
  · refine OneMoved.await hcalls hbound ?_
    exact trivial
  · exact OneMoved.forgetSession hcalls hbound

theorem attempted_setKeys (s : ControlSystem) (result : CallResult)
    (change : EngineKeys -> EngineKeys) :
    (s.attempted result (ControlSystem.setKeys change)).calls = s.calls ∧
      (s.attempted result (ControlSystem.setKeys change)).runningRows = s.runningRows := by
  unfold ControlSystem.attempted
  split_ifs
  · exact ⟨rfl, rfl⟩
  · exact ⟨rfl, rfl⟩

theorem TwoSessions.resume {s : ControlSystem} (h : TwoSessions s) (env : ControlEnv) {id : Nat}
    (r : CallReply) {call : ControlCall} (hcall : s.calls id = some call) :
    OneMoved s id (s.resume env id r call) := by
  have hc : call.Cleaned s := h.calls id call hcall
  unfold ControlSystem.resume
  cases call with
  | startOrphans cfg spared endedAt =>
      have hcrash : (s.updateRows (crashOrphan spared endedAt)).runningRows.length <= 2 :=
        Nat.le_trans
          (runningRows_updateRows_le s fun row hrow => (isRunning_crashOrphan.mp hrow).1) h.bound
      refine OneMoved.required h.bound rfl (fun _ => hcrash) fun _ => ?_
      refine ⟨Or.inl ⟨.startMode cfg, rfl, ?_⟩, hcrash⟩
      intro row hrow
      rcases List.mem_filter.mp hrow with ⟨hmem, hrunning⟩
      rcases List.mem_map.mp hmem with ⟨old, -, rfl⟩
      rw [crashOrphan_of_isRunning hrunning, <- (isRunning_crashOrphan.mp hrunning).2, hc]
      rfl
  | startMode cfg =>
      by_cases hreset : cfg.mode = .mock ∧ cfg.mockBalance.isSome
      · refine OneMoved.keys h.bound r.result _ (if_pos hreset) ?_
        exact hc
      · refine OneMoved.keys h.bound r.result _ (if_neg hreset) ?_
        exact hc
  | startReset cfg =>
      refine OneMoved.await rfl h.bound ?_
      exact hc
  | startAccount cfg =>
      refine OneMoved.await rfl h.bound ?_
      exact hc
  | startCreate cfg startEquity =>
      have hadded : (s.createRow env cfg startEquity r).runningRows.length <= 2 := by
        rw [runningRows_createRow, List.length_append]
        exact Nat.succ_le_succ (OnlyCurrent.length_le hc h.sound)
      refine OneMoved.required h.bound rfl (fun _ => hadded) fun _ => ?_
      refine OneMoved.await ?_ ?_ ?_
      · rfl
      · exact hadded
      · exact trivial
  | startRunning cfg session =>
      refine OneMoved.keys h.bound r.result _ rfl ?_
      exact trivial
  | startConfig cfg session =>
      refine OneMoved.keys h.bound r.result _ rfl ?_
      exact trivial
  | startSession session =>
      refine OneMoved.keys h.bound r.result _ rfl ?_
      exact trivial
  | startLastChanged lastChangedAt =>
      refine OneMoved.required h.bound rfl (fun _ => h.bound) fun _ => ?_
      exact OneMoved.return_ rfl h.bound
  | stopReconcile =>
      refine OneMoved.await ?_ ?_ ?_
      · rfl
      · exact h.bound
      · exact trivial
  | stopRunning =>
      rcases attempted_setKeys s r.result (fun keys => { keys with running := some false }) with
        ⟨hcalls, hrows⟩
      dsimp only
      split_ifs
      · refine OneMoved.await hcalls (hrows ▸ h.bound) ?_
        exact trivial
      · exact OneMoved.afterFlags hcalls (hrows ▸ h.bound)
  | stopLastChanged lastChangedAt =>
      rcases attempted_setKeys s r.result
        (fun keys => { keys with lastChangedAt := lastChangedAt }) with ⟨hcalls, hrows⟩
      exact OneMoved.afterFlags hcalls (hrows ▸ h.bound)
  | stopAccount =>
      refine OneMoved.await rfl h.bound ?_
      exact trivial
  | stopTrades session endEquity =>
      dsimp only
      split_ifs
      · refine OneMoved.await rfl h.bound ?_
        exact trivial
      · exact OneMoved.forgetSession rfl h.bound
  | stopUpdate session summary =>
      refine OneMoved.forgetSession ?_ ?_
      · unfold ControlSystem.attempted
        split_ifs
        · rfl
        · rfl
      · unfold ControlSystem.attempted
        split_ifs
        · exact Nat.le_trans
            (runningRows_updateRows_le s fun row => isRunning_of_finalizeSession) h.bound
        · exact h.bound
  | stopDelete =>
      rcases attempted_setKeys s r.result (fun keys => { keys with session := none }) with
        ⟨hcalls, hrows⟩
      exact OneMoved.return_ hcalls (hrows ▸ h.bound)

theorem TwoSessions.begun {s : ControlSystem} (h : TwoSessions s) {id : Nat} {call : ControlCall}
    (hidle : forall i, s.calls i = none) (hsound : ControlSound (s.await id call))
    (hcall : call.Cleaned s) : TwoSessions (s.await id call) where
  sound := hsound
  bound := h.bound
  alone := InFlight.alone_put_empty hidle id call
  calls := by
    intro other c hc
    rcases InFlight.put_cases hc with ⟨-, rfl⟩ | ⟨-, hold⟩
    · cases c <;> exact hcall
    · rw [hidle other] at hold
      cases hold

theorem TwoSessions.step {s : ControlSystem} (h : TwoSessions s) (env : ControlEnv)
    {op : ControlOp} (hserial : Serial s op) : TwoSessions (controlStep env s op) := by
  have hsound := (h.sound.step env op).sound
  revert hsound
  refine controlStep_induction (P := fun t => ControlSound t -> TwoSessions t) op ?_ ?_ ?_ ?_ ?_
  · intro _
    exact h
  · rintro id input now cfg rfl _ _ hsound
    exact h.begun hserial hsound rfl
  · rintro id rfl _ hsound
    exact h.begun hserial hsound trivial
  · intro id r call _ hcall hsound
    have hmoved := h.resume env r hcall
    refine ⟨hsound, hmoved.bound, ?_, ?_⟩
    · rcases hmoved.calls with ⟨next, heq, -⟩ | heq
      · rw [heq]
        exact h.alone.put hcall
      · rw [heq]
        exact h.alone.drop id
    · rcases hmoved.calls with ⟨next, heq, hnext⟩ | heq
      · rw [heq]
        exact h.alone.forall_put hcall hnext
      · rw [heq]
        intro other c hc
        rw [h.alone.drop_eq_none hcall other] at hc
        cases hc
  · intro enabled reads _ hsound
    refine ⟨hsound, ?_, ?_, ?_⟩
    · rw [ControlSystem.runningRows, ControlSystem.onModuleInit_liveSessions]
      exact h.bound
    · rw [ControlSystem.onModuleInit_calls]
      exact InFlight.distinct_empty _
    · rw [ControlSystem.onModuleInit_calls]
      exact InFlight.forall_empty _

theorem twoSessions_fresh (enabled : Bool) : TwoSessions (.fresh enabled) :=
  ⟨controlSound_fresh enabled, Nat.zero_le 2, InFlight.distinct_empty _, InFlight.forall_empty _⟩

/-- Starts and stops one at a time leave at most two sessions running, whichever of their
calls fail and wherever the process restarts. -/
theorem running_sessions_le_two (env : ControlEnv) (enabled : Bool) (ops : List ControlOp)
    (hserial : EveryStep (controlStep env) Serial (.fresh enabled) ops) :
    (runFrom (controlStep env) (.fresh enabled) ops).runningRows.length <= 2 :=
  (hserial.run_inv TwoSessions (fun _ _ h hs => h.step env hs) (twoSessions_fresh enabled)).bound

section Example

def exampleControlEnv : ControlEnv :=
  { strategyPairs := ["XAUUSD"]
    metaapiAccountIdDemo := false
    mt5Mode := .mock
    riskPercent := 3 / 2 }

def exampleReply : CallReply :=
  { result := .ok
    session := "5f0c"
    redisReachable := true
    equityOf := fun _ => some 10250
    trades := []
    now := 1000 }

def exampleStart : List ControlOp :=
  .start 0
    { strategyVersion := some "GIDEON"
      riskPercent := .finite 1
      mode := some "mock"
      mockBalance := none } 900 ::
    List.replicate 8 (.answer 0 exampleReply)

theorem running_sessions_le_two_of_start :
    (runFrom (controlStep exampleControlEnv) (.fresh true) exampleStart).runningRows.length <= 2 :=
  running_sessions_le_two exampleControlEnv true exampleStart
    ⟨fun _ => rfl, trivial, trivial, trivial, trivial, trivial, trivial, trivial, trivial, trivial⟩

end Example

/-!
# One running session
-/

def ControlCall.isStop : ControlCall -> Bool
  | .stopReconcile => true
  | .stopRunning => true
  | .stopLastChanged _ => true
  | .stopAccount => true
  | .stopTrades _ _ => true
  | .stopUpdate _ _ => true
  | .stopDelete => true
  | _ => false

def NoStop (s : ControlSystem) : Prop :=
  s.calls.Forall fun _ call => call.isStop = false

/-- No stop is cut off: a restart comes when none is under way and reads all keys, and
the deletion of the session key takes place. -/
def Orderly (s : ControlSystem) (op : ControlOp) : Prop :=
  Serial s op ∧
    match op with
    | .answer id r => s.calls id = some .stopDelete -> r.result.landed = true
    | .restart enabled reads => enabled = true ∧ 4 <= reads ∧ NoStop s
    | _ => True

def ActiveSession (s : ControlSystem) (session : String) : Prop :=
  exists row, row ∈ s.liveSessions ∧ row.id = session ∧ row.isRunning = true

structure CurrentSession (s : ControlSystem) : Prop where
  active : forall id, s.currentSessionId = some id -> s.running = true ∧ ActiveSession s id
  stored : forall id, s.redis.session = some id ->
    s.currentSessionId = some id ∧ s.redis.running = some true

def ControlCall.Fits (s : ControlSystem) : ControlCall -> Prop
  | .startOrphans _ spared _ => spared = none ∧ s.currentSessionId = none
  | .startMode _ => s.currentSessionId = none ∧ s.runningRows = []
  | .startReset _ => s.currentSessionId = none ∧ s.runningRows = []
  | .startAccount _ => s.currentSessionId = none ∧ s.runningRows = []
  | .startCreate _ _ => s.currentSessionId = none ∧ s.runningRows = []
  | .startRunning _ session => s.currentSessionId = some session
  | .startConfig _ session => s.currentSessionId = some session ∧ s.redis.running = some true
  | .startSession session => s.currentSessionId = some session ∧ s.redis.running = some true
  | .stopDelete => s.currentSessionId = none
  | _ => True

structure OneSession (s : ControlSystem) : Prop where
  bound : s.runningRows.length <= 1
  alone : s.calls.Alone
  current : NoStop s -> CurrentSession s
  calls : s.calls.Forall fun _ call => call.Fits s

theorem CurrentSession.of_none {s t : ControlSystem} (h : CurrentSession s)
    (hnone : t.currentSessionId = none) (hsame : s.currentSessionId = t.currentSessionId)
    (hredis : t.redis = s.redis) : CurrentSession t where
  active := by
    intro id hid
    rw [hnone] at hid
    cases hid
  stored := by
    rw [hredis, <- hsame]
    exact h.stored

structure SessionMoved (s : ControlSystem) (id : Nat) (t : ControlSystem) : Prop where
  calls : (exists call, t.calls = s.calls.put id call ∧ call.Fits t ∧
      (call.isStop = false -> CurrentSession t)) ∨
    (t.calls = s.calls.drop id ∧ CurrentSession t)
  bound : t.runningRows.length <= 1

namespace SessionMoved

variable {s t : ControlSystem} {id : Nat}

theorem return_ (hcalls : t.calls = s.calls) (hbound : t.runningRows.length <= 1)
    (hcurrent : CurrentSession t) : SessionMoved s id (t.return_ id) := by
  refine ⟨Or.inr ⟨?_, hcurrent.active, hcurrent.stored⟩, hbound⟩
  rw [ControlSystem.return_, hcalls]

theorem startGoesOn (hcalls : t.calls = s.calls) (hbound : t.runningRows.length <= 1)
    {call : ControlCall} (hcall : call.Fits (t.await id call)) (hcurrent : CurrentSession t) :
    SessionMoved s id (t.await id call) := by
  refine ⟨Or.inl ⟨call, ?_, hcall, fun _ => ⟨hcurrent.active, hcurrent.stored⟩⟩, hbound⟩
  rw [ControlSystem.await, hcalls]

theorem stopGoesOn (hcalls : t.calls = s.calls) (hbound : t.runningRows.length <= 1)
    {call : ControlCall} (hstop : call.isStop = true) (hcall : call.Fits (t.await id call)) :
    SessionMoved s id (t.await id call) := by
  refine ⟨Or.inl ⟨call, ?_, hcall, fun h => ?_⟩, hbound⟩
  · rw [ControlSystem.await, hcalls]
  · rw [hstop] at h
    cases h

theorem forgetSession (hcalls : t.calls = s.calls) (hbound : t.runningRows.length <= 1) :
    SessionMoved s id (t.forgetSession id) := by
  refine stopGoesOn ?_ ?_ rfl ?_
  · exact hcalls
  · exact hbound
  · rfl

theorem afterFlags (hcalls : t.calls = s.calls) (hbound : t.runningRows.length <= 1) :
    SessionMoved s id (t.afterFlags id) := by
  unfold ControlSystem.afterFlags
  split_ifs
  · refine stopGoesOn hcalls hbound rfl ?_
    exact trivial
  · exact forgetSession hcalls hbound

theorem required {result : CallResult} {change next : ControlSystem -> ControlSystem}
    (hbound : s.runningRows.length <= 1) (hcurrent : CurrentSession s)
    (hcalls : (change s).calls = s.calls)
    (hchanged : (change s).runningRows.length <= 1 ∧ CurrentSession (change s))
    (hnext : SessionMoved s id (next (change s))) :
    SessionMoved s id (s.required id result change next) := by
  cases result with
  | ok =>
      exact hnext
  | lost =>
      exact return_ hcalls hchanged.1 hchanged.2
  | failed =>
      exact return_ rfl hbound hcurrent

theorem keys (hbound : s.runningRows.length <= 1) (hcurrent : CurrentSession s)
    (result : CallResult) (change : EngineKeys -> EngineKeys)
    {next : ControlSystem -> ControlSystem} {call : ControlCall} (heq : next (s.setKeys change) = (s.setKeys change).await id call)
    (hcall : call.Fits ((s.setKeys change).await id call))
    (hstored : forall session, (change s.redis).session = some session ->
      s.currentSessionId = some session ∧ (change s.redis).running = some true) :
    SessionMoved s id (s.required id result (ControlSystem.setKeys change) next) := by
  have hcurrent' : CurrentSession (s.setKeys change) := ⟨hcurrent.active, hstored⟩
  refine required hbound hcurrent rfl ⟨hbound, hcurrent'⟩ ?_
  rw [heq]
  exact ⟨Or.inl ⟨call, rfl, hcall, fun _ => ⟨hcurrent'.active, hcurrent'.stored⟩⟩, hbound⟩

end SessionMoved

theorem runningRows_crashOrphan_none (s : ControlSystem) (endedAt : Int) :
    (s.updateRows (crashOrphan none endedAt)).runningRows = [] := by
  rw [ControlSystem.runningRows, List.filter_eq_nil_iff]
  intro row hrow hrunning
  rcases List.mem_map.mp hrow with ⟨old, -, rfl⟩
  cases (isRunning_crashOrphan.mp hrunning).2

theorem OneSession.noStop {s : ControlSystem} (h : OneSession s) {id : Nat} {call : ControlCall}
    (hcall : s.calls id = some call) (hstart : call.isStop = false) : NoStop s := by
  intro other c hc
  rw [h.alone other c id call hc hcall rfl, hcall] at hc
  cases hc
  exact hstart

theorem OneSession.resumeStart {s : ControlSystem} (h : OneSession s) (env : ControlEnv) {id : Nat}
    (r : CallReply) {call : ControlCall} (hcall : s.calls id = some call)
    (hstart : call.isStop = false) : SessionMoved s id (s.resume env id r call) := by
  have hc : call.Fits s := h.calls id call hcall
  have hcur : CurrentSession s := h.current (h.noStop hcall hstart)
  unfold ControlSystem.resume
  cases call with
  | startOrphans cfg spared endedAt =>
      rcases hc with ⟨rfl, hnone⟩
      have hrows := runningRows_crashOrphan_none s endedAt
      have hcur' : CurrentSession (s.updateRows (crashOrphan none endedAt)) :=
        hcur.of_none hnone rfl rfl
      have hbound : (s.updateRows (crashOrphan none endedAt)).runningRows.length <= 1 := by
        rw [hrows]
        exact Nat.zero_le 1
      refine SessionMoved.required h.bound hcur rfl ⟨hbound, hcur'⟩ ?_
      refine ⟨Or.inl ⟨.startMode cfg, rfl, ⟨hnone, hrows⟩, fun _ => ?_⟩, hbound⟩
      exact ⟨hcur'.active, hcur'.stored⟩
  | startMode cfg =>
      by_cases hreset : cfg.mode = .mock ∧ cfg.mockBalance.isSome
      · exact SessionMoved.keys h.bound hcur r.result _ (if_pos hreset) hc hcur.stored
      · exact SessionMoved.keys h.bound hcur r.result _ (if_neg hreset) hc hcur.stored
  | startReset cfg =>
      exact SessionMoved.startGoesOn rfl h.bound hc hcur
  | startAccount cfg =>
      exact SessionMoved.startGoesOn rfl h.bound hc hcur
  | startCreate cfg startEquity =>
      have hrows : (s.createRow env cfg startEquity r).runningRows =
          [newSession env cfg startEquity r.session r.now] := by
        rw [runningRows_createRow, hc.2, List.nil_append]
      have hbound : (s.createRow env cfg startEquity r).runningRows.length <= 1 := by
        rw [hrows]
        exact Nat.le_refl 1
      refine SessionMoved.required h.bound hcur rfl
        ⟨hbound, hcur.of_none hc.1 rfl rfl⟩ ?_
      refine ⟨Or.inl ⟨.startRunning cfg r.session, rfl, rfl, fun _ => ⟨?_, ?_⟩⟩, hbound⟩
      · intro session hsession
        cases hsession
        exact ⟨rfl, _, List.mem_append_right _ List.mem_cons_self, rfl, rfl⟩
      · intro session hsession
        have hold := (hcur.stored session hsession).1
        rw [hc.1] at hold
        cases hold
  | startRunning cfg session =>
      refine SessionMoved.keys h.bound hcur r.result _ rfl ⟨hc, rfl⟩ ?_
      exact fun session hsession => ⟨(hcur.stored session hsession).1, rfl⟩
  | startConfig cfg session =>
      exact SessionMoved.keys h.bound hcur r.result _ rfl hc hcur.stored
  | startSession session =>
      refine SessionMoved.keys h.bound hcur r.result _ rfl ?_ ?_
      · exact trivial
      · intro other hother
        cases hother
        exact hc
  | startLastChanged lastChangedAt =>
      refine SessionMoved.required h.bound hcur rfl ⟨h.bound, ?_⟩ ?_
      · exact ⟨hcur.active, hcur.stored⟩
      · refine ⟨Or.inr ⟨rfl, ?_⟩, h.bound⟩
        exact ⟨hcur.active, hcur.stored⟩
  | _ =>
      cases hstart

theorem OneSession.resumeStop {s : ControlSystem} (h : OneSession s) (env : ControlEnv) {id : Nat}
    (r : CallReply) {call : ControlCall} (hcall : s.calls id = some call)
    (hstop : call.isStop = true) (hlands : call = .stopDelete -> r.result.landed = true) :
    SessionMoved s id (s.resume env id r call) := by
  have hc : call.Fits s := h.calls id call hcall
  unfold ControlSystem.resume
  cases call with
  | stopReconcile =>
      refine SessionMoved.stopGoesOn ?_ ?_ rfl ?_
      · rfl
      · exact h.bound
      · exact trivial
  | stopRunning =>
      rcases attempted_setKeys s r.result (fun keys => { keys with running := some false }) with
        ⟨hcalls, hrows⟩
      dsimp only
      split_ifs
      · refine SessionMoved.stopGoesOn hcalls (hrows ▸ h.bound) rfl ?_
        exact trivial
      · exact SessionMoved.afterFlags hcalls (hrows ▸ h.bound)
  | stopLastChanged lastChangedAt =>
      rcases attempted_setKeys s r.result
        (fun keys => { keys with lastChangedAt := lastChangedAt }) with ⟨hcalls, hrows⟩
      exact SessionMoved.afterFlags hcalls (hrows ▸ h.bound)
  | stopAccount =>
      refine SessionMoved.stopGoesOn rfl h.bound rfl ?_
      exact trivial
  | stopTrades session endEquity =>
      dsimp only
      split_ifs
      · refine SessionMoved.stopGoesOn rfl h.bound rfl ?_
        exact trivial
      · exact SessionMoved.forgetSession rfl h.bound
  | stopUpdate session summary =>
      refine SessionMoved.forgetSession ?_ ?_
      · unfold ControlSystem.attempted
        split_ifs
        · rfl
        · rfl
      · unfold ControlSystem.attempted
        split_ifs
        · exact Nat.le_trans
            (runningRows_updateRows_le s fun row => isRunning_of_finalizeSession) h.bound
        · exact h.bound
  | stopDelete =>
      dsimp only
      rw [ControlSystem.attempted, if_pos (hlands rfl)]
      refine ⟨Or.inr ⟨rfl, ?_, ?_⟩, h.bound⟩
      · intro session hsession
        have hnone : s.currentSessionId = some session := hsession
        rw [show s.currentSessionId = none from hc] at hnone
        cases hnone
      · intro session hsession
        cases hsession
  | _ =>
      cases hstop

theorem noStop_of_idle {s : ControlSystem} (h : forall i, s.calls i = none) : NoStop s := by
  intro i call hcall
  rw [h i] at hcall
  cases hcall

theorem CurrentSession.currentSessionId_eq_none {s : ControlSystem} (h : CurrentSession s)
    {env : ControlEnv} {input : StartInput} {cfg : LiveEngineConfig}
    (hcheck : s.startCheck env input = .ok cfg) : s.currentSessionId = none := by
  cases hcurrent : s.currentSessionId with
  | none =>
      rfl
  | some id =>
      have hrunning := (h.active id hcurrent).1
      unfold ControlSystem.startCheck at hcheck
      rw [hrunning, hcurrent] at hcheck
      split_ifs at hcheck

theorem OneSession.step {s : ControlSystem} (h : OneSession s) (env : ControlEnv)
    {op : ControlOp} (hop : Orderly s op) : OneSession (controlStep env s op) := by
  refine controlStep_induction op h ?_ ?_ ?_ ?_
  · rintro id input now cfg rfl _ hcheck
    have hidle : forall i, s.calls i = none := hop.1
    have hcur := h.current (noStop_of_idle hidle)
    have hnone := hcur.currentSessionId_eq_none hcheck
    refine ⟨h.bound, InFlight.alone_put_empty hidle id _, ?_, ?_⟩
    · intro _
      exact ⟨hcur.active, hcur.stored⟩
    · intro other call hother
      rcases InFlight.put_cases hother with ⟨-, rfl⟩ | ⟨-, hold⟩
      · exact ⟨hnone, hnone⟩
      · rw [hidle other] at hold
        cases hold
  · rintro id rfl _
    have hidle : forall i, s.calls i = none := hop.1
    refine ⟨h.bound, InFlight.alone_put_empty hidle id _, ?_, ?_⟩
    · intro hno
      cases hno id .stopReconcile (InFlight.put_self s.calls id _)
    · intro other call hother
      rcases InFlight.put_cases hother with ⟨-, rfl⟩ | ⟨-, hold⟩
      · exact trivial
      · rw [hidle other] at hold
        cases hold
  · rintro id r call rfl hcall
    have hmoved : SessionMoved s id (s.resume env id r call) := by
      cases hkind : call.isStop with
      | false =>
          exact h.resumeStart env r hcall hkind
      | true =>
          refine h.resumeStop env r hcall hkind ?_
          rintro rfl
          exact hop.2 hcall
    rcases hmoved.calls with ⟨next, heq, hfits, hcur⟩ | ⟨heq, hcur⟩
    · refine ⟨hmoved.bound, ?_, ?_, ?_⟩
      · rw [heq]
        exact h.alone.put hcall
      · intro hno
        refine hcur (hno id next ?_)
        rw [heq, InFlight.put_self]
      · rw [heq]
        exact h.alone.forall_put hcall hfits
    · refine ⟨hmoved.bound, ?_, fun _ => hcur, ?_⟩
      · rw [heq]
        exact h.alone.drop id
      · rw [heq]
        intro other c hc
        rw [h.alone.drop_eq_none hcall other] at hc
        cases hc
  · rintro enabled reads rfl
    rcases hop.2 with ⟨rfl, hreads, hno⟩
    have hcur := h.current hno
    have hrunning : (s.onModuleInit true reads).running =
        (decide (4 <= reads) && decide (s.redis.running = some true)) := rfl
    refine ⟨?_, ?_, fun _ => ⟨?_, ?_⟩, ?_⟩
    · rw [ControlSystem.runningRows, ControlSystem.onModuleInit_liveSessions]
      exact h.bound
    · rw [ControlSystem.onModuleInit_calls]
      exact InFlight.distinct_empty _
    · intro session hsession
      have hstored := hcur.stored session (s.onModuleInit_currentSessionId true reads hsession)
      refine ⟨?_, ?_⟩
      · rw [hrunning, hstored.2]
        simp [hreads]
      · unfold ActiveSession
        rw [ControlSystem.onModuleInit_liveSessions]
        exact (hcur.active session hstored.1).2
    · intro session hsession
      rw [ControlSystem.onModuleInit_redis] at hsession ⊢
      refine ⟨?_, (hcur.stored session hsession).2⟩
      change (if 3 <= reads then s.redis.session else none) = some session
      rw [if_pos (by omega), hsession]
    · rw [ControlSystem.onModuleInit_calls]
      exact InFlight.forall_empty _

theorem oneSession_fresh (enabled : Bool) : OneSession (.fresh enabled) :=
  ⟨Nat.zero_le 1, InFlight.distinct_empty _,
    fun _ => ⟨fun _ hid => (nomatch hid), fun _ hid => (nomatch hid)⟩, InFlight.forall_empty _⟩

/-- Starts and stops one at a time, none of the stops cut off, never leave two sessions
running; and while no stop is under way the current session is running, in memory and in
the table. -/
theorem one_running_session (env : ControlEnv) (enabled : Bool) (ops : List ControlOp)
    (horderly : EveryStep (controlStep env) Orderly (.fresh enabled) ops) :
    (runFrom (controlStep env) (.fresh enabled) ops).runningRows.length <= 1 ∧
      (NoStop (runFrom (controlStep env) (.fresh enabled) ops) ->
        CurrentSession (runFrom (controlStep env) (.fresh enabled) ops)) := by
  have h := horderly.run_inv OneSession (fun _ _ h hs => h.step env hs) (oneSession_fresh enabled)
  exact ⟨h.bound, h.current⟩

theorem one_running_session_of_start :
    (runFrom (controlStep exampleControlEnv) (.fresh true) exampleStart).runningRows.length <= 1 ∧
      (NoStop (runFrom (controlStep exampleControlEnv) (.fresh true) exampleStart) ->
        CurrentSession (runFrom (controlStep exampleControlEnv) (.fresh true) exampleStart)) :=
  have answered : forall s : ControlSystem, Orderly s (.answer 0 exampleReply) :=
    fun _ => ⟨trivial, fun _ => rfl⟩
  one_running_session exampleControlEnv true exampleStart
    ⟨⟨fun _ => rfl, trivial⟩, answered _, answered _, answered _, answered _, answered _,
      answered _, answered _, answered _, trivial⟩

end Live
end Shamarx
