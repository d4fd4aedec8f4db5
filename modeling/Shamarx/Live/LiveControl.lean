import Mathlib.Data.Rat.Defs
import Shamarx.Foundation.InFlight
import Shamarx.Foundation.Rounding
import Shamarx.Foundation.Runs

/-!
# The on/off switch of the live engine

`LiveControlService` keeps a running flag, a configuration and the current session in
memory, mirrors them in Redis and writes one row a session.  Starting and stopping are
sequences of calls, each of which may fail, and the process may restart between any two.
-/

namespace Shamarx
namespace Live

open Foundation

/-!
# Configuration
-/

inductive EngineMode where
  | mock
  | metaapi
  deriving DecidableEq, Repr

inductive StrategyVersion where
  | gideon
  | smcV2
  | v6Alt
  deriving DecidableEq, Repr

def StrategyVersion.parse : String -> Option StrategyVersion
  | "GIDEON" => some .gideon
  | "SMC-V2" => some .smcV2
  | "V6-alt" => some .v6Alt
  | _ => none

structure LiveEngineConfig where
  strategyVersion : StrategyVersion
  riskPercent : ℚ
  mode : EngineMode
  mockBalance : Option ℚ
  deriving DecidableEq, Repr

/-- A JavaScript number: a rational, or one that is not finite. -/
inductive NumberInput where
  | finite (q : ℚ)
  | notFinite
  deriving DecidableEq, Repr

/-- `Partial<LiveEngineConfig>`.  A missing risk reads as a number that is not finite. -/
structure StartInput where
  strategyVersion : Option String
  riskPercent : NumberInput
  mode : Option String
  mockBalance : Option NumberInput
  deriving DecidableEq, Repr

structure ControlEnv where
  strategyPairs : List String
  metaapiAccountIdDemo : Bool
  mt5Mode : EngineMode
  riskPercent : ℚ

def finiteWithin (lo hi : ℚ) : NumberInput -> Option ℚ
  | .finite q => if q < lo ∨ hi < q then none else some q
  | .notFinite => none

def chosenMode (input : StartInput) : EngineMode :=
  if input.mode = some "metaapi" then .metaapi else .mock

def chosenBalance (input : StartInput) : Except String (Option ℚ) :=
  match chosenMode input, input.mockBalance with
  | .mock, some n =>
      match finiteWithin 50 1000000 n with
      | some q => .ok (some q)
      | none => .error "mockBalance must be between 50 and 1,000,000"
  | _, _ => .ok none

def validateConfig (env : ControlEnv) (input : StartInput) : Except String LiveEngineConfig :=
  let strategy := input.strategyVersion.getD "GIDEON"
  match StrategyVersion.parse strategy with
  | none =>
      .error ("Unsupported strategy: " ++ strategy ++
        ". Live engine supports SMC-V2 (legacy alias: V6-alt).")
  | some _ =>
      match finiteWithin (1 / 4) 4 input.riskPercent with
      | none => .error "riskPercent must be between 0.25 and 4.0"
      | some risk =>
          match chosenBalance input with
          | .error text => .error text
          | .ok mockBalance =>
              if chosenMode input = .metaapi ∧ env.metaapiAccountIdDemo = false then
                .error "Cannot start in MetaApi mode — METAAPI_ACCOUNT_ID_DEMO not set in .env"
              else
                .ok
                  { strategyVersion := .gideon
                    riskPercent := risk
                    mode := chosenMode input
                    mockBalance := mockBalance }

/-!
# State
-/

inductive SessionStatus where
  | running
  | ended
  | crashed
  deriving DecidableEq, Repr

structure LiveSession where
  id : String
  startedAt : Int
  endedAt : Option Int
  strategyVersion : StrategyVersion
  riskPercent : ℚ
  mode : EngineMode
  mockBalance : Option ℚ
  startEquity : ℚ
  endEquity : Option ℚ
  realizedPnl : ℚ
  tradesCount : Nat
  winsCount : Nat
  lossesCount : Nat
  status : SessionStatus
  pairs : List String
  deriving DecidableEq, Repr

structure EngineKeys where
  running : Option Bool
  config : Option LiveEngineConfig
  mode : Option EngineMode
  session : Option String
  lastChangedAt : Option Int
  deriving DecidableEq, Repr

structure SessionTrade where
  pnl : Option ℚ
  closed : Bool
  deriving DecidableEq, Repr

structure SessionSummary where
  endedAt : Int
  endEquity : Option ℚ
  realizedPnl : ℚ
  tradesCount : Nat
  winsCount : Nat
  lossesCount : Nat
  deriving DecidableEq, Repr

inductive ControlCall where
  | startOrphans (cfg : LiveEngineConfig) (spared : Option String) (endedAt : Int)
  | startMode (cfg : LiveEngineConfig)
  | startReset (cfg : LiveEngineConfig)
  | startAccount (cfg : LiveEngineConfig)
  | startCreate (cfg : LiveEngineConfig) (startEquity : ℚ)
  | startRunning (cfg : LiveEngineConfig) (session : String)
  | startConfig (cfg : LiveEngineConfig) (session : String)
  | startSession (session : String)
  | startLastChanged (lastChangedAt : Option Int)
  | stopReconcile
  | stopRunning
  | stopLastChanged (lastChangedAt : Option Int)
  | stopAccount
  | stopTrades (session : Option String) (endEquity : Option ℚ)
  | stopUpdate (session : Option String) (summary : SessionSummary)
  | stopDelete
  deriving DecidableEq, Repr

/-- The process (its `LIVE_MODE`, the fields of the service and its calls in flight),
Redis and the session table. -/
structure ControlSystem where
  liveMode : Bool
  running : Bool
  lastChangedAt : Option Int
  config : Option LiveEngineConfig
  currentSessionId : Option String
  redis : EngineKeys
  liveSessions : List LiveSession
  calls : InFlight ControlCall

namespace ControlSystem

def fresh (liveMode : Bool) : ControlSystem :=
  { liveMode := liveMode
    running := false
    lastChangedAt := none
    config := none
    currentSessionId := none
    redis :=
      { running := none, config := none, mode := none, session := none, lastChangedAt := none }
    liveSessions := []
    calls := InFlight.empty }

def isRunning (s : ControlSystem) : Bool :=
  s.liveMode && s.running

def getRiskPercent (env : ControlEnv) (s : ControlSystem) : ℚ :=
  (s.config.map LiveEngineConfig.riskPercent).getD env.riskPercent

def await (s : ControlSystem) (id : Nat) (call : ControlCall) : ControlSystem :=
  { s with calls := s.calls.put id call }

def return_ (s : ControlSystem) (id : Nat) : ControlSystem :=
  { s with calls := s.calls.drop id }

end ControlSystem

structure ControlStatus where
  enabled : Bool
  running : Bool
  mt5Mode : EngineMode
  pairs : List String
  riskPercent : ℚ
  strategyVersion : StrategyVersion
  mockBalance : Option ℚ
  lastChangedAt : Option Int
  deriving DecidableEq, Repr

def ControlSystem.status (env : ControlEnv) (s : ControlSystem) : ControlStatus :=
  { enabled := s.liveMode
    running := s.isRunning
    mt5Mode := (s.config.map LiveEngineConfig.mode).getD env.mt5Mode
    pairs := env.strategyPairs
    riskPercent := s.getRiskPercent env
    strategyVersion := (s.config.map LiveEngineConfig.strategyVersion).getD .gideon
    mockBalance := s.config.bind LiveEngineConfig.mockBalance
    lastChangedAt := s.lastChangedAt }

/-!
# The session table
-/

/-- `updateMany`: the running sessions but the spared one have crashed. -/
def crashOrphan (spared : Option String) (endedAt : Int) (row : LiveSession) : LiveSession :=
  if row.status = .running ∧ spared ≠ some row.id then
    { row with status := .crashed, endedAt := some endedAt }
  else row

def newSession (env : ControlEnv) (cfg : LiveEngineConfig) (startEquity : ℚ) (id : String)
    (now : Int) : LiveSession :=
  { id := id
    startedAt := now
    endedAt := none
    strategyVersion := cfg.strategyVersion
    riskPercent := cfg.riskPercent
    mode := cfg.mode
    mockBalance := cfg.mockBalance
    startEquity := startEquity
    endEquity := none
    realizedPnl := 0
    tradesCount := 0
    winsCount := 0
    lossesCount := 0
    status := .running
    pairs := env.strategyPairs }

def finalizeSession (session : Option String) (summary : SessionSummary) (row : LiveSession) :
    LiveSession :=
  if session = some row.id then
    { row with
      status := .ended
      endedAt := some summary.endedAt
      endEquity := summary.endEquity
      realizedPnl := summary.realizedPnl
      tradesCount := summary.tradesCount
      winsCount := summary.winsCount
      lossesCount := summary.lossesCount }
  else row

def summarize (endEquity : Option ℚ) (trades : List SessionTrade) (now : Int) : SessionSummary :=
  { endedAt := now
    endEquity := endEquity
    realizedPnl :=
      roundTo 100 ((trades.filterMap fun t => if t.closed then t.pnl else none).sum)
    tradesCount := trades.length
    winsCount := trades.countP fun t => t.closed && decide (0 < t.pnl.getD 0)
    lossesCount := trades.countP fun t => t.closed && decide (t.pnl.getD 0 < 0) }

/-!
# Start and stop
-/

/-- How a call to another service ends: it is carried out and says so, it is carried out
and the answer is lost, or it is not carried out. -/
inductive CallResult where
  | ok
  | lost
  | failed
  deriving DecidableEq, Repr

def CallResult.landed : CallResult -> Bool
  | .ok => true
  | .lost => true
  | .failed => false

/-- What the called service and the clock give at one await.  `equityOf` is the equity
each broker backend reports, if it does. -/
structure CallReply where
  result : CallResult
  session : String
  redisReachable : Bool
  equityOf : EngineMode -> Option ℚ
  trades : List SessionTrade
  now : Int

def servedMode (env : ControlEnv) (s : ControlSystem) (redisReachable : Bool) : EngineMode :=
  if redisReachable then s.redis.mode.getD env.mt5Mode else env.mt5Mode

/-- The equity of the account the execution service routes to. -/
def servedEquity (env : ControlEnv) (s : ControlSystem) (r : CallReply) : Option ℚ :=
  r.equityOf (servedMode env s r.redisReachable)

namespace ControlSystem

def startCheck (env : ControlEnv) (s : ControlSystem) (input : StartInput) :
    Except String LiveEngineConfig :=
  if s.liveMode = false then
    .error "LIVE_MODE=false in env — set LIVE_MODE=true and restart to enable"
  else
    match s.running, s.currentSessionId with
    | true, some id =>
        .error ("A live session is already running (" ++ String.ofList (id.toList.take 8) ++
          "). Stop it first before starting a new one.")
    | _, _ => validateConfig env input

/-- `start` up to its first await; `now` is the end it gives to the orphans. -/
def start (env : ControlEnv) (s : ControlSystem) (id : Nat) (input : StartInput) (now : Int) :
    ControlSystem :=
  match s.startCheck env input with
  | .error _ => s
  | .ok cfg => s.await id (.startOrphans cfg s.currentSessionId now)

def attempted (s : ControlSystem) (result : CallResult)
    (change : ControlSystem -> ControlSystem) : ControlSystem :=
  if result.landed then change s else s

def required (s : ControlSystem) (id : Nat) (result : CallResult)
    (change : ControlSystem -> ControlSystem) (next : ControlSystem -> ControlSystem) :
    ControlSystem :=
  let called := s.attempted result change
  if result = .ok then next called else called.return_ id

/-- The reset of the mock account is skipped, or its failure ignored. -/
def afterMode (s : ControlSystem) (id : Nat) (cfg : LiveEngineConfig) : ControlSystem :=
  if cfg.mode = .mock ∧ cfg.mockBalance.isSome then s.await id (.startReset cfg)
  else s.await id (.startAccount cfg)

def sessionCreated (s : ControlSystem) (id : Nat) (cfg : LiveEngineConfig) (session : String)
    (now : Int) : ControlSystem :=
  { s with
    currentSessionId := some session
    config := some cfg
    running := true
    lastChangedAt := some now }.await id (.startRunning cfg session)

/-- The last part of `stop`: the session is forgotten. -/
def forgetSession (s : ControlSystem) (id : Nat) : ControlSystem :=
  { s with currentSessionId := none }.await id .stopDelete

def afterFlags (s : ControlSystem) (id : Nat) : ControlSystem :=
  if s.currentSessionId.isSome then s.await id .stopAccount else s.forgetSession id

def createRow (env : ControlEnv) (cfg : LiveEngineConfig) (startEquity : ℚ) (r : CallReply)
    (s : ControlSystem) : ControlSystem :=
  { s with liveSessions := s.liveSessions ++ [newSession env cfg startEquity r.session r.now] }

def createResult (s : ControlSystem) (r : CallReply) : CallResult :=
  if s.liveSessions.any fun row => row.id == r.session then .failed else r.result

def setKeys (change : EngineKeys -> EngineKeys) (s : ControlSystem) : ControlSystem :=
  { s with redis := change s.redis }

def updateRows (change : LiveSession -> LiveSession) (s : ControlSystem) : ControlSystem :=
  { s with liveSessions := s.liveSessions.map change }

/-- The call in flight is answered, and its operation runs to its next await. -/
def resume (env : ControlEnv) (s : ControlSystem) (id : Nat) (r : CallReply) :
    ControlCall -> ControlSystem
  | .startOrphans cfg spared endedAt =>
      s.required id r.result (updateRows (crashOrphan spared endedAt))
        fun s => s.await id (.startMode cfg)
  | .startMode cfg =>
      s.required id r.result (setKeys fun keys => { keys with mode := some cfg.mode })
        fun s => s.afterMode id cfg
  | .startReset cfg => s.await id (.startAccount cfg)
  | .startAccount cfg =>
      s.await id
        (.startCreate cfg ((servedEquity env s r).getD (cfg.mockBalance.getD 0)))
  | .startCreate cfg startEquity =>
      s.required id (s.createResult r) (createRow env cfg startEquity r)
        fun s => s.sessionCreated id cfg r.session r.now
  | .startRunning cfg session =>
      s.required id r.result (setKeys fun keys => { keys with running := some true })
        fun s => s.await id (.startConfig cfg session)
  | .startConfig cfg session =>
      s.required id r.result (setKeys fun keys => { keys with config := some cfg })
        fun s => s.await id (.startSession session)
  | .startSession session =>
      s.required id r.result (setKeys fun keys => { keys with session := some session })
        fun s => s.await id (.startLastChanged s.lastChangedAt)
  | .startLastChanged lastChangedAt =>
      s.required id r.result (setKeys fun keys => { keys with lastChangedAt := lastChangedAt })
        fun s => s.return_ id
  | .stopReconcile =>
      { s with running := false, lastChangedAt := some r.now }.await id .stopRunning
  | .stopRunning =>
      let called := s.attempted r.result (setKeys fun keys => { keys with running := some false })
      if r.result = .ok then called.await id (.stopLastChanged called.lastChangedAt)
      else called.afterFlags id
  | .stopLastChanged lastChangedAt =>
      (s.attempted r.result
        (setKeys fun keys => { keys with lastChangedAt := lastChangedAt })).afterFlags id
  | .stopAccount => s.await id (.stopTrades s.currentSessionId (servedEquity env s r))
  | .stopTrades _ endEquity =>
      if r.result = .ok then
        s.await id (.stopUpdate s.currentSessionId (summarize endEquity r.trades r.now))
      else s.forgetSession id
  | .stopUpdate session summary =>
      (s.attempted r.result (updateRows (finalizeSession session summary))).forgetSession id
  | .stopDelete =>
      (s.attempted r.result (setKeys fun keys => { keys with session := none })).return_ id

/-- The reads of `onModuleInit` in order, of which the first `reads` succeed.  A failed
read leaves the engine paused. -/
def onModuleInit (s : ControlSystem) (enabled : Bool) (reads : Nat) : ControlSystem :=
  let booted :=
    { s with
      liveMode := enabled
      running := false
      lastChangedAt := none
      config := none
      currentSessionId := none
      calls := InFlight.empty }
  if enabled = false then booted
  else
    { booted with
      running := decide (4 <= reads) && decide (s.redis.running = some true)
      config := if 2 <= reads then s.redis.config else none
      currentSessionId := if 3 <= reads then s.redis.session else none
      lastChangedAt := if 4 <= reads then s.redis.lastChangedAt else none }

section Boot

variable (s : ControlSystem) (enabled : Bool) (reads : Nat)

@[simp] theorem onModuleInit_liveSessions :
    (s.onModuleInit enabled reads).liveSessions = s.liveSessions := by
  cases enabled <;> rfl

@[simp] theorem onModuleInit_redis : (s.onModuleInit enabled reads).redis = s.redis := by
  cases enabled <;> rfl

@[simp] theorem onModuleInit_calls :
    (s.onModuleInit enabled reads).calls = InFlight.empty := by
  cases enabled <;> rfl

theorem onModuleInit_currentSessionId {session : String}
    (h : (s.onModuleInit enabled reads).currentSessionId = some session) :
    s.redis.session = some session := by
  cases enabled with
  | false =>
      cases h
  | true =>
      change (if 3 <= reads then s.redis.session else none) = some session at h
      split_ifs at h
      exact h

theorem onModuleInit_config {cfg : LiveEngineConfig}
    (h : (s.onModuleInit enabled reads).config = some cfg) : s.redis.config = some cfg := by
  cases enabled with
  | false =>
      cases h
  | true =>
      change (if 2 <= reads then s.redis.config else none) = some cfg at h
      split_ifs at h
      exact h

end Boot

end ControlSystem

inductive ControlOp where
  | start (id : Nat) (input : StartInput) (now : Int)
  | stop (id : Nat)
  | answer (id : Nat) (r : CallReply)
  | restart (enabled : Bool) (reads : Nat)

def controlStep (env : ControlEnv) (s : ControlSystem) : ControlOp -> ControlSystem
  | .start id input now =>
      match s.calls id with
      | none => s.start env id input now
      | some _ => s
  | .stop id =>
      match s.calls id with
      | none => s.await id .stopReconcile
      | some _ => s
  | .answer id r =>
      match s.calls id with
      | none => s
      | some call => s.resume env id r call
  | .restart enabled reads => s.onModuleInit enabled reads

/-!
# What a step is
-/

section Steps

variable (env : ControlEnv) {s : ControlSystem} {id : Nat}

theorem controlStep_start {input : StartInput} {now : Int} {cfg : LiveEngineConfig}
    (hfree : s.calls id = none) (h : s.startCheck env input = .ok cfg) :
    controlStep env s (.start id input now) =
      s.await id (.startOrphans cfg s.currentSessionId now) := by
  simp only [controlStep, hfree, ControlSystem.start, h]

theorem controlStep_start_refused {input : StartInput} {now : Int} {text : String}
    (h : s.startCheck env input = .error text) : controlStep env s (.start id input now) = s := by
  cases hcall : s.calls id with
  | none =>
      simp only [controlStep, hcall, ControlSystem.start, h]
  | some call =>
      simp only [controlStep, hcall]

theorem controlStep_start_taken {input : StartInput} {now : Int} {call : ControlCall}
    (h : s.calls id = some call) : controlStep env s (.start id input now) = s := by
  simp only [controlStep, h]

theorem controlStep_stop (hfree : s.calls id = none) :
    controlStep env s (.stop id) = s.await id .stopReconcile := by
  simp only [controlStep, hfree]

theorem controlStep_stop_taken {call : ControlCall} (h : s.calls id = some call) :
    controlStep env s (.stop id) = s := by
  simp only [controlStep, h]

theorem controlStep_answer {call : ControlCall} (h : s.calls id = some call) (r : CallReply) :
    controlStep env s (.answer id r) = s.resume env id r call := by
  simp only [controlStep, h]

theorem controlStep_answer_none (h : s.calls id = none) (r : CallReply) :
    controlStep env s (.answer id r) = s := by
  simp only [controlStep, h]

end Steps

theorem controlStep_induction {env : ControlEnv} {s : ControlSystem} {P : ControlSystem -> Prop}
    (op : ControlOp) (hsame : P s)
    (hstart : forall id input now cfg, op = .start id input now -> s.calls id = none ->
      s.startCheck env input = .ok cfg -> P (s.await id (.startOrphans cfg s.currentSessionId now)))
    (hstop : forall id, op = .stop id -> s.calls id = none -> P (s.await id .stopReconcile))
    (hanswer : forall id r call, op = .answer id r -> s.calls id = some call ->
      P (s.resume env id r call))
    (hrestart : forall enabled reads, op = .restart enabled reads ->
      P (s.onModuleInit enabled reads)) : P (controlStep env s op) := by
  cases op with
  | start id input now =>
      cases hcall : s.calls id with
      | some call =>
          rwa [controlStep_start_taken env hcall]
      | none =>
          cases hcheck : s.startCheck env input with
          | error text =>
              rwa [controlStep_start_refused env hcheck]
          | ok cfg =>
              rw [controlStep_start env hcall hcheck]
              exact hstart id input now cfg rfl hcall hcheck
  | stop id =>
      cases hcall : s.calls id with
      | some call =>
          rwa [controlStep_stop_taken env hcall]
      | none =>
          rw [controlStep_stop env hcall]
          exact hstop id rfl hcall
  | answer id r =>
      cases hcall : s.calls id with
      | none =>
          rwa [controlStep_answer_none env hcall]
      | some call =>
          rw [controlStep_answer env hcall]
          exact hanswer id r call rfl hcall
  | restart enabled reads =>
      exact hrestart enabled reads rfl

end Live
end Shamarx
