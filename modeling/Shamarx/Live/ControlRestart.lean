import Shamarx.Live.OneSession

/-!
# Restarts of an idle engine

Redis mirrors the fields of the service whenever no start or stop is under way, so that a
restart then is not noticed: a run with such restarts ends like the run without them.
-/

namespace Shamarx
namespace Live

open Foundation

def ControlCall.isMirror : ControlCall -> Bool
  | .startRunning _ _ => true
  | .startConfig _ _ => true
  | .startSession _ => true
  | .startLastChanged _ => true
  | .stopRunning => true
  | .stopLastChanged _ => true
  | .stopDelete => true
  | _ => false

/-- Operations do not overlap, the writes that mirror the fields succeed, and the process
restarts when idle, with the engine enabled and Redis readable. -/
def Quiet (s : ControlSystem) (op : ControlOp) : Prop :=
  Serial s op ∧
    match op with
    | .answer id r =>
        forall call, s.calls id = some call -> call.isMirror = true -> r.result = .ok
    | .restart enabled reads => enabled = true ∧ 4 <= reads ∧ forall i, s.calls i = none
    | _ => True

structure Mirrored (s : ControlSystem) : Prop where
  running : s.running = decide (s.redis.running = some true)
  config : s.config = s.redis.config
  session : s.currentSessionId = s.redis.session
  lastChangedAt : s.lastChangedAt = s.redis.lastChangedAt

/-- How far the keys follow the fields while an operation waits. -/
def ControlCall.Follows (s : ControlSystem) : ControlCall -> Prop
  | .startOrphans _ _ _ => Mirrored s
  | .startMode _ => Mirrored s
  | .startReset _ => Mirrored s
  | .startAccount _ => Mirrored s
  | .startCreate _ _ => Mirrored s
  | .startRunning cfg session =>
      s.running = true ∧ s.config = some cfg ∧ s.currentSessionId = some session
  | .startConfig cfg session =>
      s.running = true ∧ s.config = some cfg ∧ s.currentSessionId = some session ∧
        s.redis.running = some true
  | .startSession session =>
      s.running = true ∧ s.config = s.redis.config ∧ s.currentSessionId = some session ∧
        s.redis.running = some true
  | .startLastChanged lastChangedAt =>
      s.running = true ∧ s.config = s.redis.config ∧ s.currentSessionId = s.redis.session ∧
        s.redis.running = some true ∧ s.lastChangedAt = lastChangedAt
  | .stopReconcile => Mirrored s
  | .stopRunning => s.running = false ∧ s.config = s.redis.config
  | .stopLastChanged lastChangedAt =>
      s.running = false ∧ s.config = s.redis.config ∧ s.redis.running = some false ∧
        s.lastChangedAt = lastChangedAt
  | .stopDelete =>
      s.running = false ∧ s.config = s.redis.config ∧ s.redis.running = some false ∧
        s.lastChangedAt = s.redis.lastChangedAt ∧ s.currentSessionId = none
  | _ =>
      s.running = false ∧ s.config = s.redis.config ∧ s.redis.running = some false ∧
        s.lastChangedAt = s.redis.lastChangedAt

structure Followed (s : ControlSystem) : Prop where
  enabled : s.liveMode = true
  alone : s.calls.Alone
  idle : (forall i, s.calls i = none) -> Mirrored s
  calls : s.calls.Forall fun _ call => call.Follows s

structure MirrorMoved (s : ControlSystem) (id : Nat) (t : ControlSystem) : Prop where
  enabled : t.liveMode = true
  calls : (exists call, t.calls = s.calls.put id call ∧ call.Follows t) ∨
    (t.calls = s.calls.drop id ∧ Mirrored t)

namespace MirrorMoved

variable {s t : ControlSystem} {id : Nat}

theorem goesOn (henabled : t.liveMode = true) (hcalls : t.calls = s.calls) {call : ControlCall}
    (hcall : call.Follows (t.await id call)) : MirrorMoved s id (t.await id call) := by
  refine ⟨henabled, Or.inl ⟨call, ?_, hcall⟩⟩
  rw [ControlSystem.await, hcalls]

theorem return_ (henabled : t.liveMode = true) (hcalls : t.calls = s.calls) (h : Mirrored t) :
    MirrorMoved s id (t.return_ id) := by
  refine ⟨henabled, Or.inr ⟨?_, h.running, h.config, h.session, h.lastChangedAt⟩⟩
  rw [ControlSystem.return_, hcalls]

theorem required {result : CallResult} {change next : ControlSystem -> ControlSystem}
    (henabled : s.liveMode = true) (hmirror : Mirrored s)
    (hsame : (change s).liveMode = true ∧ (change s).calls = s.calls ∧ Mirrored (change s))
    (hnext : MirrorMoved s id (next (change s))) :
    MirrorMoved s id (s.required id result change next) := by
  cases result with
  | ok =>
      exact hnext
  | lost =>
      exact return_ hsame.1 hsame.2.1 hsame.2.2
  | failed =>
      exact return_ henabled rfl hmirror

theorem forgetSession (henabled : t.liveMode = true) (hcalls : t.calls = s.calls)
    (h : t.running = false ∧ t.config = t.redis.config ∧ t.redis.running = some false ∧
      t.lastChangedAt = t.redis.lastChangedAt) : MirrorMoved s id (t.forgetSession id) := by
  refine goesOn ?_ ?_ ?_
  · exact henabled
  · exact hcalls
  · exact ⟨h.1, h.2.1, h.2.2.1, h.2.2.2, rfl⟩

theorem afterFlags (henabled : t.liveMode = true) (hcalls : t.calls = s.calls)
    (h : t.running = false ∧ t.config = t.redis.config ∧ t.redis.running = some false ∧
      t.lastChangedAt = t.redis.lastChangedAt) : MirrorMoved s id (t.afterFlags id) := by
  unfold ControlSystem.afterFlags
  split_ifs
  · refine goesOn henabled hcalls ?_
    exact h
  · exact forgetSession henabled hcalls h

end MirrorMoved

theorem ControlSystem.required_of_ok {s : ControlSystem} {id : Nat} {result : CallResult}
    {change next : ControlSystem -> ControlSystem} (h : result = .ok) :
    s.required id result change next = next (change s) := by
  subst h
  rfl

theorem ControlSystem.attempted_of_ok {s : ControlSystem} {result : CallResult}
    {change : ControlSystem -> ControlSystem} (h : result = .ok) :
    s.attempted result change = change s := by
  subst h
  rfl

theorem Followed.resume {s : ControlSystem} (h : Followed s) (env : ControlEnv) {id : Nat}
    (r : CallReply) {call : ControlCall} (hcall : s.calls id = some call)
    (hok : call.isMirror = true -> r.result = .ok) :
    MirrorMoved s id (s.resume env id r call) := by
  have hc : call.Follows s := h.calls id call hcall
  have hon := h.enabled
  unfold ControlSystem.resume
  cases call with
  | startOrphans cfg spared endedAt =>
      have hsame : Mirrored (s.updateRows (crashOrphan spared endedAt)) :=
        ⟨hc.running, hc.config, hc.session, hc.lastChangedAt⟩
      refine MirrorMoved.required hon hc ⟨hon, rfl, hsame⟩ ?_
      refine ⟨hon, Or.inl ⟨.startMode cfg, rfl, ?_⟩⟩
      exact ⟨hc.running, hc.config, hc.session, hc.lastChangedAt⟩
  | startMode cfg =>
      have hsame : Mirrored (s.setKeys fun keys => { keys with mode := some cfg.mode }) :=
        ⟨hc.running, hc.config, hc.session, hc.lastChangedAt⟩
      refine MirrorMoved.required hon hc ⟨hon, rfl, hsame⟩ ?_
      unfold ControlSystem.afterMode
      split_ifs
      · refine ⟨hon, Or.inl ⟨.startReset cfg, rfl, ?_⟩⟩
        exact ⟨hc.running, hc.config, hc.session, hc.lastChangedAt⟩
      · refine ⟨hon, Or.inl ⟨.startAccount cfg, rfl, ?_⟩⟩
        exact ⟨hc.running, hc.config, hc.session, hc.lastChangedAt⟩
  | startReset cfg =>
      refine MirrorMoved.goesOn hon rfl ?_
      exact ⟨hc.running, hc.config, hc.session, hc.lastChangedAt⟩
  | startAccount cfg =>
      refine MirrorMoved.goesOn hon rfl ?_
      exact ⟨hc.running, hc.config, hc.session, hc.lastChangedAt⟩
  | startCreate cfg startEquity =>
      have hsame : Mirrored (s.createRow env cfg startEquity r) :=
        ⟨hc.running, hc.config, hc.session, hc.lastChangedAt⟩
      refine MirrorMoved.required hon hc ⟨hon, rfl, hsame⟩ ?_
      exact ⟨hon, Or.inl ⟨.startRunning cfg r.session, rfl, rfl, rfl, rfl⟩⟩
  | startRunning cfg session =>
      dsimp only
      rw [ControlSystem.required_of_ok (hok rfl)]
      exact ⟨hon, Or.inl ⟨.startConfig cfg session, rfl, hc.1, hc.2.1, hc.2.2, rfl⟩⟩
  | startConfig cfg session =>
      dsimp only
      rw [ControlSystem.required_of_ok (hok rfl)]
      exact ⟨hon, Or.inl ⟨.startSession session, rfl, hc.1, hc.2.1, hc.2.2.1, hc.2.2.2⟩⟩
  | startSession session =>
      dsimp only
      rw [ControlSystem.required_of_ok (hok rfl)]
      exact ⟨hon, Or.inl ⟨.startLastChanged s.lastChangedAt, rfl, hc.1, hc.2.1, hc.2.2.1,
        hc.2.2.2, rfl⟩⟩
  | startLastChanged lastChangedAt =>
      dsimp only
      rw [ControlSystem.required_of_ok (hok rfl)]
      refine ⟨hon, Or.inr ⟨rfl, ?_, hc.2.1, hc.2.2.1, hc.2.2.2.2⟩⟩
      change s.running = decide (s.redis.running = some true)
      rw [hc.1, hc.2.2.2.1]
      rfl
  | stopReconcile =>
      exact ⟨hon, Or.inl ⟨.stopRunning, rfl, rfl, hc.config⟩⟩
  | stopRunning =>
      dsimp only
      rw [if_pos (hok rfl), ControlSystem.attempted_of_ok (hok rfl)]
      exact ⟨hon, Or.inl ⟨.stopLastChanged s.lastChangedAt, rfl, hc.1, hc.2, rfl, rfl⟩⟩
  | stopLastChanged lastChangedAt =>
      dsimp only
      rw [ControlSystem.attempted_of_ok (hok rfl)]
      refine MirrorMoved.afterFlags ?_ ?_ ?_
      · exact hon
      · rfl
      · exact ⟨hc.1, hc.2.1, hc.2.2.1, hc.2.2.2⟩
  | stopAccount =>
      refine MirrorMoved.goesOn hon rfl ?_
      exact hc
  | stopTrades session endEquity =>
      dsimp only
      split_ifs
      · refine MirrorMoved.goesOn hon rfl ?_
        exact hc
      · exact MirrorMoved.forgetSession hon rfl hc
  | stopUpdate session summary =>
      refine MirrorMoved.forgetSession ?_ ?_ ?_
      all_goals
        unfold ControlSystem.attempted
        split_ifs
      · exact hon
      · exact hon
      · rfl
      · rfl
      · exact hc
      · exact hc
  | stopDelete =>
      dsimp only
      rw [ControlSystem.attempted_of_ok (hok rfl)]
      refine ⟨hon, Or.inr ⟨rfl, ?_, hc.2.1, hc.2.2.2.2, hc.2.2.2.1⟩⟩
      change s.running = decide (s.redis.running = some true)
      rw [hc.1, hc.2.2.1]
      rfl

theorem Followed.onModuleInit_eq {s : ControlSystem} (h : Followed s) {reads : Nat}
    (hreads : 4 <= reads) (hidle : forall i, s.calls i = none) :
    s.onModuleInit true reads = s := by
  have hm := h.idle hidle
  have hcalls : InFlight.empty = s.calls := by
    funext i
    exact (hidle i).symm
  have hboot : s.onModuleInit true reads =
      { s with
        liveMode := true
        running := decide (s.redis.running = some true)
        config := s.redis.config
        currentSessionId := s.redis.session
        lastChangedAt := s.redis.lastChangedAt
        calls := InFlight.empty } := by
    have h2 : 2 <= reads := by omega
    have h3 : 3 <= reads := by omega
    unfold ControlSystem.onModuleInit
    simp only [hreads, h2, h3, decide_true, Bool.true_and, if_true, Bool.true_eq_false, if_false]
  rw [hboot, <- hm.running, <- hm.config, <- hm.session, <- hm.lastChangedAt, hcalls,
    <- h.enabled]

theorem Followed.begun {s : ControlSystem} (h : Followed s) {id : Nat} {call : ControlCall}
    (hidle : forall i, s.calls i = none) (hcall : call.Follows (s.await id call)) :
    Followed (s.await id call) where
  enabled := h.enabled
  alone := InFlight.alone_put_empty hidle id call
  idle := by
    intro hnone
    have hput := (InFlight.put_self s.calls id call).symm.trans (hnone id)
    cases hput
  calls := by
    intro other c hother
    rcases InFlight.put_cases hother with ⟨-, rfl⟩ | ⟨-, hold⟩
    · exact hcall
    · rw [hidle other] at hold
      cases hold

theorem Followed.step {s : ControlSystem} (h : Followed s) (env : ControlEnv) {op : ControlOp}
    (hop : Quiet s op) : Followed (controlStep env s op) := by
  refine controlStep_induction op h ?_ ?_ ?_ ?_
  · rintro id input now cfg rfl _ _
    have hm := h.idle hop.1
    exact h.begun hop.1 ⟨hm.running, hm.config, hm.session, hm.lastChangedAt⟩
  · rintro id rfl _
    have hm := h.idle hop.1
    exact h.begun hop.1 ⟨hm.running, hm.config, hm.session, hm.lastChangedAt⟩
  · rintro id r call rfl hcall
    have hmoved := h.resume env r hcall (hop.2 call hcall)
    rcases hmoved.calls with ⟨next, heq, hnext⟩ | ⟨heq, hmirror⟩
    · refine ⟨hmoved.enabled, ?_, ?_, ?_⟩
      · rw [heq]
        exact h.alone.put hcall
      · intro hnone
        have hput := hnone id
        rw [heq, InFlight.put_self] at hput
        cases hput
      · rw [heq]
        exact h.alone.forall_put hcall hnext
    · refine ⟨hmoved.enabled, ?_, fun _ => hmirror, ?_⟩
      · rw [heq]
        exact h.alone.drop id
      · rw [heq]
        intro other c hother
        rw [h.alone.drop_eq_none hcall other] at hother
        cases hother
  · rintro enabled reads rfl
    rcases hop.2 with ⟨rfl, hreads, hidle⟩
    rwa [h.onModuleInit_eq hreads hidle]

theorem followed_fresh : Followed (.fresh true) :=
  ⟨rfl, InFlight.distinct_empty _, fun _ => ⟨rfl, rfl, rfl, rfl⟩, InFlight.forall_empty _⟩

def ControlOp.isRestart : ControlOp -> Bool
  | .restart _ _ => true
  | _ => false

theorem Followed.run_filter {s : ControlSystem} (h : Followed s) (env : ControlEnv)
    {ops : List ControlOp} (hquiet : EveryStep (controlStep env) Quiet s ops) :
    runFrom (controlStep env) s ops =
      runFrom (controlStep env) s (ops.filter fun op => !op.isRestart) := by
  induction ops generalizing s with
  | nil =>
      rfl
  | cons op rest ih =>
      rcases hquiet with ⟨hop, hrest⟩
      rw [runFrom_cons, ih (h.step env hop) hrest]
      cases op with
      | restart enabled reads =>
          rcases hop.2 with ⟨rfl, hreads, hidle⟩
          rw [List.filter_cons_of_neg (by simp [ControlOp.isRestart])]
          rw [show controlStep env s (.restart true reads) = s from h.onModuleInit_eq hreads hidle]
      | _ =>
          rw [List.filter_cons_of_pos (by rfl), runFrom_cons]

/-- Restarts of an idle engine are not noticed: the run ends in the same state, and so
with the same status, as the run without them. -/
theorem idle_restarts_transparent (env : ControlEnv) (ops : List ControlOp)
    (hquiet : EveryStep (controlStep env) Quiet (.fresh true) ops) :
    runFrom (controlStep env) (.fresh true) ops =
      runFrom (controlStep env) (.fresh true) (ops.filter fun op => !op.isRestart) :=
  followed_fresh.run_filter env hquiet

section Example

def exampleRestart : List ControlOp :=
  exampleStart ++ [.restart true 4]

theorem idle_restarts_transparent_of_start :
    runFrom (controlStep exampleControlEnv) (.fresh true) exampleRestart =
      runFrom (controlStep exampleControlEnv) (.fresh true)
        (exampleRestart.filter fun op => !op.isRestart) := by
  have answered : forall s : ControlSystem, Quiet s (.answer 0 exampleReply) :=
    fun _ => ⟨trivial, fun _ _ _ => rfl⟩
  have hbefore : Followed
      (runFrom (controlStep exampleControlEnv) (.fresh true) (exampleStart.take 8)) := by
    refine EveryStep.run_inv Followed (fun _ _ h hs => h.step _ hs) followed_fresh
      (C := Quiet) ?_
    exact ⟨⟨fun _ => rfl, trivial⟩, answered _, answered _, answered _, answered _, answered _,
      answered _, answered _, trivial⟩
  have hcall : (runFrom (controlStep exampleControlEnv) (.fresh true)
      (exampleStart.take 8)).calls 0 = some (.startLastChanged (some 1000)) := by
    decide +kernel
  have hidle : forall i,
      (runFrom (controlStep exampleControlEnv) (.fresh true) exampleStart).calls i = none := by
    intro i
    change (controlStep exampleControlEnv
      (runFrom (controlStep exampleControlEnv) (.fresh true) (exampleStart.take 8))
      (.answer 0 exampleReply)).calls i = none
    rw [controlStep_answer exampleControlEnv hcall]
    exact hbefore.alone.drop_eq_none hcall i
  refine idle_restarts_transparent exampleControlEnv exampleRestart ?_
  exact ⟨⟨fun _ => rfl, trivial⟩, answered _, answered _, answered _, answered _, answered _,
    answered _, answered _, answered _, ⟨trivial, rfl, Nat.le_refl 4, hidle⟩, trivial⟩

end Example

end Live
end Shamarx
