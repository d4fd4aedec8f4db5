import Mathlib.Tactic.NormNum
import Shamarx.Live.LiveControl

/-!
# The session table over every run

Starts and stops overlap as they may, calls fail and the process restarts: the rows of
the session table keep their identity and their settings, and a session that is over
stays over.
-/

namespace Shamarx
namespace Live

open Foundation

/-!
# Valid settings
-/

structure LiveEngineConfig.Valid (cfg : LiveEngineConfig) : Prop where
  gideon : cfg.strategyVersion = .gideon
  risk : 1 / 4 ≤ cfg.riskPercent ∧ cfg.riskPercent ≤ 4
  balance : forall q, cfg.mockBalance = some q -> cfg.mode = .mock ∧ 50 ≤ q ∧ q ≤ 1000000

theorem finiteWithin_eq_some {lo hi q : ℚ} {n : NumberInput}
    (h : finiteWithin lo hi n = some q) : lo ≤ q ∧ q ≤ hi := by
  cases n with
  | notFinite =>
      cases h
  | finite x =>
      change (if x < lo ∨ hi < x then none else some x) = some q at h
      split_ifs at h with hout
      cases h
      rw [not_or, not_lt, not_lt] at hout
      exact hout

theorem chosenBalance_eq_ok {input : StartInput} {b : Option ℚ} (h : chosenBalance input = .ok b)
    {q : ℚ} (hq : b = some q) : chosenMode input = .mock ∧ 50 ≤ q ∧ q ≤ 1000000 := by
  subst hq
  unfold chosenBalance at h
  split at h
  · next n hmode _ =>
      split at h
      · next x hx =>
          cases h
          exact ⟨hmode, finiteWithin_eq_some hx⟩
      · cases h
  · cases h

theorem validateConfig_valid {env : ControlEnv} {input : StartInput} {cfg : LiveEngineConfig}
    (h : validateConfig env input = .ok cfg) : cfg.Valid := by
  unfold validateConfig at h
  dsimp only at h
  split at h
  · cases h
  · split at h
    · cases h
    · next risk hrisk =>
        split at h
        · cases h
        · next b hb =>
            split_ifs at h
            cases h
            exact ⟨rfl, finiteWithin_eq_some hrisk, fun q hq => chosenBalance_eq_ok hb hq⟩

theorem startCheck_valid {env : ControlEnv} {s : ControlSystem} {input : StartInput}
    {cfg : LiveEngineConfig} (h : s.startCheck env input = .ok cfg) : cfg.Valid := by
  unfold ControlSystem.startCheck at h
  split_ifs at h
  split at h
  · cases h
  · exact validateConfig_valid h

/-!
# Sound states
-/

def LiveSession.settings (row : LiveSession) : LiveEngineConfig :=
  { strategyVersion := row.strategyVersion
    riskPercent := row.riskPercent
    mode := row.mode
    mockBalance := row.mockBalance }

def SessionSummary.Consistent (summary : SessionSummary) : Prop :=
  summary.winsCount + summary.lossesCount <= summary.tradesCount

structure LiveSession.Sound (row : LiveSession) : Prop where
  settings : row.settings.Valid
  counts : row.winsCount + row.lossesCount <= row.tradesCount

theorem summarize_consistent (endEquity : Option ℚ) (trades : List SessionTrade) (now : Int) :
    (summarize endEquity trades now).Consistent := by
  change List.countP _ _ + List.countP _ _ <= List.length _
  induction trades with
  | nil =>
      exact Nat.le_refl 0
  | cons t rest ih =>
      rw [List.countP_cons, List.countP_cons, List.length_cons]
      have hone : (if t.closed && decide (0 < t.pnl.getD 0) then 1 else 0) +
          (if t.closed && decide (t.pnl.getD 0 < 0) then 1 else 0) <= 1 := by
        cases t.closed with
        | false =>
            exact Nat.zero_le 1
        | true =>
            by_cases hwin : 0 < t.pnl.getD 0
            · simp [hwin, not_lt_of_gt hwin]
            · by_cases hloss : t.pnl.getD 0 < 0
              · simp [hwin, hloss]
              · simp [hwin, hloss]
      omega

namespace ControlSystem

def ids (s : ControlSystem) : List String :=
  s.liveSessions.map LiveSession.id

end ControlSystem

/-- What an operation holds while it waits: valid settings, known sessions. -/
def ControlCall.Sound (ids : List String) : ControlCall -> Prop
  | .startOrphans cfg _ _ => cfg.Valid
  | .startMode cfg => cfg.Valid
  | .startReset cfg => cfg.Valid
  | .startAccount cfg => cfg.Valid
  | .startCreate cfg _ => cfg.Valid
  | .startRunning cfg session => cfg.Valid ∧ session ∈ ids
  | .startConfig cfg session => cfg.Valid ∧ session ∈ ids
  | .startSession session => session ∈ ids
  | .stopUpdate _ summary => summary.Consistent
  | _ => True

structure ControlSound (s : ControlSystem) : Prop where
  unique : s.ids.Nodup
  rows : forall row, row ∈ s.liveSessions -> row.Sound
  current : forall id, s.currentSessionId = some id -> id ∈ s.ids
  stored : forall id, s.redis.session = some id -> id ∈ s.ids
  config : forall cfg, s.config = some cfg -> cfg.Valid
  storedConfig : forall cfg, s.redis.config = some cfg -> cfg.Valid
  calls : s.calls.Forall fun _ call => call.Sound s.ids

theorem ControlCall.Sound.mono {ids later : List String} (h : forall id, id ∈ ids -> id ∈ later)
    {call : ControlCall} (hcall : call.Sound ids) : call.Sound later := by
  cases call with
  | startRunning cfg session =>
      exact ⟨hcall.1, h session hcall.2⟩
  | startConfig cfg session =>
      exact ⟨hcall.1, h session hcall.2⟩
  | startSession session =>
      exact h session hcall
  | _ =>
      exact hcall

/-!
# What becomes of a row
-/

/-- The row keeps its identity and its settings, and is not running again once over. -/
structure Continues (row later : LiveSession) : Prop where
  id : later.id = row.id
  settings : later.settings = row.settings
  startedAt : later.startedAt = row.startedAt
  startEquity : later.startEquity = row.startEquity
  finished : row.status ≠ .running -> later.status ≠ .running

theorem Continues.refl (row : LiveSession) : Continues row row :=
  ⟨rfl, rfl, rfl, rfl, fun h => h⟩

theorem Continues.trans {row later last : LiveSession} (h : Continues row later)
    (h' : Continues later last) : Continues row last :=
  ⟨h'.id.trans h.id, h'.settings.trans h.settings, h'.startedAt.trans h.startedAt,
    h'.startEquity.trans h.startEquity, fun hfinished => h'.finished (h.finished hfinished)⟩

theorem continues_crashOrphan (spared : Option String) (endedAt : Int) (row : LiveSession) :
    Continues row (crashOrphan spared endedAt row) := by
  unfold crashOrphan
  split_ifs
  · exact ⟨rfl, rfl, rfl, rfl, fun _ => SessionStatus.noConfusion⟩
  · exact Continues.refl row

theorem continues_finalizeSession (session : Option String) (summary : SessionSummary)
    (row : LiveSession) : Continues row (finalizeSession session summary row) := by
  unfold finalizeSession
  split_ifs
  · exact ⟨rfl, rfl, rfl, rfl, fun _ => SessionStatus.noConfusion⟩
  · exact Continues.refl row

theorem sound_crashOrphan {row : LiveSession} (h : row.Sound) (spared : Option String)
    (endedAt : Int) : (crashOrphan spared endedAt row).Sound := by
  unfold crashOrphan
  split_ifs
  · exact ⟨h.settings, h.counts⟩
  · exact h

theorem sound_finalizeSession {row : LiveSession} (h : row.Sound) (session : Option String)
    {summary : SessionSummary} (hsum : summary.Consistent) :
    (finalizeSession session summary row).Sound := by
  unfold finalizeSession
  split_ifs
  · exact ⟨h.settings, hsum⟩
  · exact h

/-- Every row of the first table goes on in the second. -/
def Evolves (s t : ControlSystem) : Prop :=
  forall row, row ∈ s.liveSessions -> exists later, later ∈ t.liveSessions ∧ Continues row later

theorem Evolves.refl (s : ControlSystem) : Evolves s s := fun row h =>
  ⟨row, h, Continues.refl row⟩

theorem Evolves.trans {s t u : ControlSystem} (h : Evolves s t) (h' : Evolves t u) :
    Evolves s u := by
  intro row hrow
  rcases h row hrow with ⟨later, hlater, hcont⟩
  rcases h' later hlater with ⟨last, hlast, hcont'⟩
  exact ⟨last, hlast, hcont.trans hcont'⟩

structure Kept (s t : ControlSystem) : Prop where
  sound : ControlSound t
  evolves : Evolves s t

namespace Kept

open ControlSystem

variable {s t : ControlSystem} {id : Nat}

theorem await (h : Kept s t) {call : ControlCall} (hcall : call.Sound t.ids) :
    Kept s (t.await id call) :=
  ⟨{ h.sound with calls := h.sound.calls.put hcall }, h.evolves⟩

theorem return_ (h : Kept s t) : Kept s (t.return_ id) :=
  ⟨{ h.sound with calls := h.sound.calls.drop id }, h.evolves⟩

theorem setKeys (h : Kept s t) {change : EngineKeys -> EngineKeys}
    (hsession : forall id, (change t.redis).session = some id -> id ∈ t.ids)
    (hconfig : forall cfg, (change t.redis).config = some cfg -> cfg.Valid) :
    Kept s (t.setKeys change) :=
  ⟨{ h.sound with stored := hsession, storedConfig := hconfig }, h.evolves⟩

theorem updateRows (h : Kept s t) {change : LiveSession -> LiveSession}
    (hcont : forall row, Continues row (change row))
    (hsound : forall row, row.Sound -> (change row).Sound) : Kept s (t.updateRows change) := by
  have hids : (t.updateRows change).ids = t.ids := by
    change (t.liveSessions.map change).map LiveSession.id = t.liveSessions.map LiveSession.id
    rw [List.map_map]
    exact List.map_congr_left fun row _ => (hcont row).id
  refine ⟨⟨?_, ?_, ?_, ?_, h.sound.config, h.sound.storedConfig, ?_⟩, ?_⟩
  · rw [hids]
    exact h.sound.unique
  · intro row hrow
    rcases List.mem_map.mp hrow with ⟨old, hold, rfl⟩
    exact hsound old (h.sound.rows old hold)
  · rw [hids]
    exact h.sound.current
  · rw [hids]
    exact h.sound.stored
  · rw [hids]
    exact h.sound.calls
  · refine h.evolves.trans ?_
    intro row hrow
    exact ⟨change row, List.mem_map_of_mem hrow, hcont row⟩

theorem createRow (h : Kept s t) (env : ControlEnv) {cfg : LiveEngineConfig} (hcfg : cfg.Valid)
    (startEquity : ℚ) (r : CallReply) (hfree : r.session ∉ t.ids) :
    Kept s (t.createRow env cfg startEquity r) := by
  have hids : (t.createRow env cfg startEquity r).ids = t.ids ++ [r.session] := by
    rw [ids, ControlSystem.createRow, List.map_append]
    rfl
  have hgrow : forall id, id ∈ t.ids -> id ∈ (t.createRow env cfg startEquity r).ids := by
    intro id hid
    rw [hids]
    exact List.mem_append_left _ hid
  refine ⟨⟨?_, ?_, ?_, ?_, h.sound.config, h.sound.storedConfig, ?_⟩, ?_⟩
  · rw [hids]
    exact List.nodup_append.mpr
      ⟨h.sound.unique, List.nodup_cons.mpr ⟨List.not_mem_nil, List.nodup_nil⟩,
        fun a ha b hb heq => hfree (List.mem_singleton.mp hb ▸ heq ▸ ha)⟩
  · intro row hrow
    rcases List.mem_append.mp hrow with hold | hnew
    · exact h.sound.rows row hold
    · rw [List.mem_singleton.mp hnew]
      exact ⟨hcfg, Nat.le_refl 0⟩
  · exact fun id hid => hgrow id (h.sound.current id hid)
  · exact fun id hid => hgrow id (h.sound.stored id hid)
  · exact h.sound.calls.imp fun _ _ hcall => hcall.mono hgrow
  · refine h.evolves.trans ?_
    intro row hrow
    exact ⟨row, List.mem_append_left _ hrow, Continues.refl row⟩

theorem required (h : Kept s t) (result : CallResult) {change next : ControlSystem -> ControlSystem}
    (hchange : result.landed = true -> Kept s (change t))
    (hnext : result = .ok -> Kept s (change t) -> Kept s (next (change t))) :
    Kept s (t.required id result change next) := by
  cases result with
  | ok =>
      exact hnext rfl (hchange rfl)
  | lost =>
      exact (hchange rfl).return_
  | failed =>
      exact h.return_

theorem attempted (h : Kept s t) (result : CallResult) {change : ControlSystem -> ControlSystem}
    (hchange : Kept s (change t)) : Kept s (t.attempted result change) := by
  unfold ControlSystem.attempted
  split_ifs
  · exact hchange
  · exact h

theorem forgetSession (h : Kept s t) : Kept s (t.forgetSession id) := by
  refine await ?_ trivial
  exact ⟨{ h.sound with current := fun id hid => nomatch hid }, h.evolves⟩

theorem afterFlags (h : Kept s t) : Kept s (t.afterFlags id) := by
  unfold ControlSystem.afterFlags
  split_ifs
  · exact h.await trivial
  · exact h.forgetSession

end Kept

theorem notMem_ids_of_createResult {s : ControlSystem} {r : CallReply}
    (h : (s.createResult r).landed = true) : r.session ∉ s.ids := by
  unfold ControlSystem.createResult at h
  split_ifs at h with htaken
  · cases h
  · intro hmem
    rcases List.mem_map.mp hmem with ⟨row, hrow, hid⟩
    exact htaken (List.any_eq_true.mpr ⟨row, hrow, beq_iff_eq.mpr hid⟩)

/-!
# The step
-/

theorem ControlSound.resume {s : ControlSystem} (h : ControlSound s) (env : ControlEnv) {id : Nat}
    (r : CallReply) {call : ControlCall} (hcall : s.calls id = some call) :
    Kept s (s.resume env id r call) := by
  have hk : Kept s s := ⟨h, Evolves.refl s⟩
  have hc : call.Sound s.ids := h.calls id call hcall
  unfold ControlSystem.resume
  cases call with
  | startOrphans cfg spared endedAt =>
      refine hk.required r.result (fun _ => ?_) fun _ hk' => ?_
      · exact hk.updateRows (continues_crashOrphan spared endedAt)
          fun row hrow => sound_crashOrphan hrow spared endedAt
      · exact hk'.await hc
  | startMode cfg =>
      refine hk.required r.result (fun _ => hk.setKeys h.stored h.storedConfig) fun _ hk' => ?_
      unfold ControlSystem.afterMode
      split_ifs
      · exact hk'.await hc
      · exact hk'.await hc
  | startReset cfg =>
      exact hk.await hc
  | startAccount cfg =>
      exact hk.await hc
  | startCreate cfg startEquity =>
      refine hk.required _ (fun hl => ?_) fun hl hk' => ?_
      · exact hk.createRow env hc startEquity r (notMem_ids_of_createResult hl)
      · have hmem : r.session ∈ (s.createRow env cfg startEquity r).ids :=
          List.mem_map_of_mem (List.mem_append_right _ List.mem_cons_self)
        refine Kept.await ?_ ⟨hc, hmem⟩
        refine ⟨{ hk'.sound with current := ?_, config := ?_ }, hk'.evolves⟩
        · intro id hid
          cases hid
          exact hmem
        · intro c hc'
          cases hc'
          exact hc
  | startRunning cfg session =>
      refine hk.required r.result (fun _ => hk.setKeys h.stored h.storedConfig) fun _ hk' => ?_
      exact hk'.await hc
  | startConfig cfg session =>
      refine hk.required r.result (fun _ => hk.setKeys h.stored ?_) fun _ hk' => ?_
      · intro c hc'
        cases hc'
        exact hc.1
      · exact hk'.await hc.2
  | startSession session =>
      refine hk.required r.result (fun _ => hk.setKeys ?_ h.storedConfig) fun _ hk' => ?_
      · intro id hid
        cases hid
        exact hc
      · exact hk'.await trivial
  | startLastChanged lastChangedAt =>
      refine hk.required r.result (fun _ => hk.setKeys h.stored h.storedConfig) fun _ hk' => ?_
      exact hk'.return_
  | stopReconcile =>
      refine Kept.await ?_ ?_
      · exact ⟨{ h with }, hk.evolves⟩
      · exact trivial
  | stopRunning =>
      have hk' : Kept s (s.attempted r.result
          (ControlSystem.setKeys fun keys => { keys with running := some false })) :=
        hk.attempted r.result (hk.setKeys h.stored h.storedConfig)
      dsimp only
      split_ifs
      · refine hk'.await ?_
        exact trivial
      · exact hk'.afterFlags
  | stopLastChanged lastChangedAt =>
      exact (hk.attempted r.result (hk.setKeys h.stored h.storedConfig)).afterFlags
  | stopAccount =>
      exact hk.await trivial
  | stopTrades session endEquity =>
      dsimp only
      split_ifs
      · exact hk.await (summarize_consistent endEquity r.trades r.now)
      · exact hk.forgetSession
  | stopUpdate session summary =>
      refine (hk.attempted r.result ?_).forgetSession
      exact hk.updateRows (continues_finalizeSession session summary)
        fun row hrow => sound_finalizeSession hrow session hc
  | stopDelete =>
      refine (hk.attempted r.result (hk.setKeys ?_ h.storedConfig)).return_
      intro id hid
      cases hid

theorem ControlSound.onModuleInit {s : ControlSystem} (h : ControlSound s) (enabled : Bool)
    (reads : Nat) : Kept s (s.onModuleInit enabled reads) := by
  have hids : (s.onModuleInit enabled reads).ids = s.ids := by
    rw [ControlSystem.ids, ControlSystem.onModuleInit_liveSessions]
    rfl
  refine ⟨⟨?_, ?_, ?_, ?_, ?_, ?_, ?_⟩, ?_⟩
  · rw [hids]
    exact h.unique
  · rw [ControlSystem.onModuleInit_liveSessions]
    exact h.rows
  · intro id hid
    rw [hids]
    exact h.stored id (s.onModuleInit_currentSessionId enabled reads hid)
  · rw [hids, ControlSystem.onModuleInit_redis]
    exact h.stored
  · intro cfg hcfg
    exact h.storedConfig cfg (s.onModuleInit_config enabled reads hcfg)
  · rw [ControlSystem.onModuleInit_redis]
    exact h.storedConfig
  · rw [ControlSystem.onModuleInit_calls]
    exact InFlight.forall_empty _
  · intro row hrow
    refine ⟨row, ?_, Continues.refl row⟩
    rwa [ControlSystem.onModuleInit_liveSessions]

theorem ControlSound.step {s : ControlSystem} (h : ControlSound s) (env : ControlEnv)
    (op : ControlOp) : Kept s (controlStep env s op) := by
  have hk : Kept s s := ⟨h, Evolves.refl s⟩
  refine controlStep_induction op hk ?_ ?_ ?_ ?_
  · intro id input now cfg _ _ hcheck
    refine hk.await ?_
    exact startCheck_valid hcheck
  · intro id _ _
    refine hk.await ?_
    exact trivial
  · intro id r call _ hcall
    exact h.resume env r hcall
  · intro enabled reads _
    exact h.onModuleInit enabled reads

theorem controlSound_fresh (enabled : Bool) : ControlSound (.fresh enabled) :=
  ⟨List.nodup_nil, fun _ h => (nomatch h), fun _ h => (nomatch h), fun _ h => (nomatch h),
    fun _ h => (nomatch h), fun _ h => (nomatch h), InFlight.forall_empty _⟩

theorem evolves_run {s : ControlSystem} (h : ControlSound s) (env : ControlEnv)
    (ops : List ControlOp) : Evolves s (runFrom (controlStep env) s ops) := by
  induction ops generalizing s with
  | nil =>
      exact Evolves.refl s
  | cons op rest ih =>
      have hstep := h.step env op
      exact hstep.evolves.trans (ih hstep.sound)

theorem controlSound_run (env : ControlEnv) (enabled : Bool) (ops : List ControlOp) :
    ControlSound (runFrom (controlStep env) (.fresh enabled) ops) :=
  runFrom_inv ControlSound (fun _ op h => (h.step env op).sound) (controlSound_fresh enabled) ops

/-- In every run, however starts, stops, failures and restarts interleave, the table has
one row a session with valid settings, the sessions that memory and Redis name are in it,
and from any point on each row goes on with its settings, never running again once over. -/
theorem sessions_sound (env : ControlEnv) (enabled : Bool) (front back : List ControlOp) :
    ControlSound (runFrom (controlStep env) (.fresh enabled) front) ∧
      Evolves (runFrom (controlStep env) (.fresh enabled) front)
        (runFrom (controlStep env) (.fresh enabled) (front ++ back)) := by
  have hsound := controlSound_run env enabled front
  rw [runFrom_append]
  exact ⟨hsound, evolves_run hsound env back⟩

end Live
end Shamarx
