import Shamarx.Foundation.Backoff
import Shamarx.Foundation.InsertionMap
import Shamarx.Foundation.Runs

/-!
# The watchdog of the terminal fleet

Every pass asks each terminal for its state and restarts the unhealthy ones, each
account's restarts further and further apart until the account is seen healthy.
-/

namespace Shamarx
namespace Fleet

open Foundation

def restartDelay (count : Nat) : Nat :=
  backoffDelay 60 900 count

/-- What a pass sees of one terminal: whether its worker runs, the answer to
`/init-status` (`none` when the request fails) and the clock, read once for the check and
once more for the stamp. -/
structure Observation where
  accountId : String
  workerAlive : Bool
  initStatus : Option (Option String)
  checkedAt : ℚ
  stampedAt : ℚ
  afterEpoch : 0 ≤ checkedAt
  ordered : checkedAt ≤ stampedAt

def Observation.state (o : Observation) : String :=
  if o.workerAlive then
    match o.initStatus with
    | some state => state.getD "UNKNOWN"
    | none => "WORKER_HUNG"
  else "DOWN"

def Observation.isUnhealthy (o : Observation) : Bool :=
  o.state == "DOWN" || o.state == "WORKER_HUNG" || o.state == "TIMEOUT"

/-- The dictionary of the process, and what it has done about each account: a restart
request, or the account struck off because it was healthy. -/
structure Watchdog where
  restarts : InsertionMap String (Nat × ℚ)
  log : List (String × RetryEvent)

def Watchdog.start : Watchdog :=
  { restarts := [], log := [] }

def Watchdog.supervise (w : Watchdog) (o : Observation) : Watchdog :=
  if o.isUnhealthy then
    let entry := (w.restarts.get o.accountId).getD (0, 0)
    if entry.2 ≤ o.checkedAt then
      { restarts := w.restarts.set o.accountId
          (entry.1 + 1, o.stampedAt + restartDelay entry.1)
        log := w.log ++ [(o.accountId, .attempt entry.1 o.stampedAt)] }
    else w
  else
    { restarts := w.restarts.erase o.accountId
      log := w.log ++ [(o.accountId, .success)] }

/-- A pass over the fleet, or one that does not reach the manager. -/
def Watchdog.pass (w : Watchdog) : Option (List Observation) -> Watchdog
  | some fleet => fleet.foldl Watchdog.supervise w
  | none => w

/-!
# The events of an account
-/

def eventsOf (accountId : String) (log : List (String × RetryEvent)) : List RetryEvent :=
  log.filterMap fun entry => if entry.1 = accountId then some entry.2 else none

theorem eventsOf_concat_self (accountId : String) (log : List (String × RetryEvent))
    (e : RetryEvent) :
    eventsOf accountId (log ++ [(accountId, e)]) = eventsOf accountId log ++ [e] := by
  simp [eventsOf, List.filterMap_append]

theorem eventsOf_concat_of_ne {accountId other : String} (log : List (String × RetryEvent))
    (e : RetryEvent) (h : other ≠ accountId) :
    eventsOf accountId (log ++ [(other, e)]) = eventsOf accountId log := by
  simp [eventsOf, List.filterMap_append, h]

namespace Watchdog

def Supervised (w : Watchdog) : Prop :=
  forall accountId, BackedOff restartDelay (eventsOf accountId w.log) ∧
    w.restarts.get accountId = nextAttempt restartDelay (eventsOf accountId w.log)

theorem supervised_start : Supervised start := fun _ => ⟨backedOff_nil, rfl⟩

theorem supervise_healthy {w : Watchdog} {o : Observation} (h : o.isUnhealthy = false) :
    w.supervise o =
      { restarts := w.restarts.erase o.accountId
        log := w.log ++ [(o.accountId, .success)] } := by
  rw [supervise, h]
  rfl

theorem supervise_waiting {w : Watchdog} {o : Observation} {n : Nat} {due : ℚ}
    (h : o.isUnhealthy = true) (hentry : w.restarts.get o.accountId = some (n, due))
    (hearly : ¬ due ≤ o.checkedAt) : w.supervise o = w := by
  rw [supervise, if_pos h, hentry]
  exact if_neg hearly

theorem supervise_restart {w : Watchdog} {o : Observation} (h : o.isUnhealthy = true)
    (hdue : forall n due, w.restarts.get o.accountId = some (n, due) -> due ≤ o.checkedAt) :
    w.supervise o =
      { restarts := w.restarts.set o.accountId
          (((w.restarts.get o.accountId).getD (0, 0)).1 + 1,
            o.stampedAt + restartDelay ((w.restarts.get o.accountId).getD (0, 0)).1)
        log := w.log ++ [(o.accountId,
          .attempt ((w.restarts.get o.accountId).getD (0, 0)).1 o.stampedAt)] } := by
  have hallowed : ((w.restarts.get o.accountId).getD (0, 0)).2 ≤ o.checkedAt := by
    cases hentry : w.restarts.get o.accountId with
    | none =>
        exact o.afterEpoch
    | some entry =>
        exact hdue entry.1 entry.2 hentry
  rw [supervise, if_pos h]
  exact if_pos hallowed

/-- An observation strikes the account off, restarts it, or leaves all as it is. -/
theorem supervise_cases (w : Watchdog) (o : Observation) :
    (o.isUnhealthy = false ∧
      w.supervise o =
        { restarts := w.restarts.erase o.accountId
          log := w.log ++ [(o.accountId, .success)] }) ∨
    (o.isUnhealthy = true ∧
      (forall n due, w.restarts.get o.accountId = some (n, due) -> due ≤ o.checkedAt) ∧
      w.supervise o =
        { restarts := w.restarts.set o.accountId
            (((w.restarts.get o.accountId).getD (0, 0)).1 + 1,
              o.stampedAt + restartDelay ((w.restarts.get o.accountId).getD (0, 0)).1)
          log := w.log ++ [(o.accountId,
            .attempt ((w.restarts.get o.accountId).getD (0, 0)).1 o.stampedAt)] }) ∨
    (o.isUnhealthy = true ∧ w.supervise o = w) := by
  cases hstate : o.isUnhealthy with
  | false =>
      exact Or.inl ⟨rfl, supervise_healthy hstate⟩
  | true =>
      by_cases hdue : forall n due, w.restarts.get o.accountId = some (n, due) ->
          due ≤ o.checkedAt
      · exact Or.inr (Or.inl ⟨rfl, hdue, supervise_restart hstate hdue⟩)
      · push Not at hdue
        rcases hdue with ⟨n, due, hentry, hearly⟩
        exact Or.inr (Or.inr ⟨rfl, supervise_waiting hstate hentry (not_le_of_gt hearly)⟩)

theorem struck_off_iff (w : Watchdog) (o : Observation) (accountId : String) :
    eventsOf accountId (w.supervise o).log = eventsOf accountId w.log ++ [.success] <->
      o.accountId = accountId ∧ o.isUnhealthy = false := by
  have hunlogged : eventsOf accountId w.log ≠ eventsOf accountId w.log ++ [.success] := by
    intro hsame
    cases List.self_eq_append_right.mp hsame
  rcases supervise_cases w o with ⟨hstate, hstep⟩ | ⟨hstate, -, hstep⟩ | ⟨hstate, hstep⟩
  · rw [hstep, hstate]
    dsimp only
    by_cases hsame : o.accountId = accountId
    · subst hsame
      rw [eventsOf_concat_self]
      exact ⟨fun _ => ⟨rfl, rfl⟩, fun _ => rfl⟩
    · rw [eventsOf_concat_of_ne w.log .success hsame]
      exact ⟨fun hlogged => absurd hlogged hunlogged, fun h => absurd h.1 hsame⟩
  · rw [hstep, hstate]
    dsimp only
    refine ⟨fun hlogged => absurd hlogged ?_, fun h => nomatch h.2⟩
    by_cases hsame : o.accountId = accountId
    · subst hsame
      rw [eventsOf_concat_self]
      intro hlogged
      cases List.append_cancel_left hlogged
    · rw [eventsOf_concat_of_ne w.log _ hsame]
      exact hunlogged
  · rw [hstep, hstate]
    exact ⟨fun hlogged => absurd hlogged hunlogged, fun h => nomatch h.2⟩

theorem Supervised.supervise {w : Watchdog} (h : w.Supervised) (o : Observation) :
    (w.supervise o).Supervised := by
  intro accountId
  rcases supervise_cases w o with ⟨-, hstep⟩ | ⟨-, hdue, hstep⟩ | ⟨-, hstep⟩
  · rw [hstep]
    dsimp only
    rw [InsertionMap.get_erase]
    by_cases hsame : o.accountId = accountId
    · subst hsame
      rw [eventsOf_concat_self, nextAttempt_success]
      exact ⟨(h o.accountId).1.success, if_pos rfl⟩
    · rw [eventsOf_concat_of_ne w.log .success hsame, if_neg (Ne.symm hsame)]
      exact h accountId
  · rw [hstep]
    dsimp only
    by_cases hsame : o.accountId = accountId
    · subst hsame
      rcases h o.accountId with ⟨hbacked, hget⟩
      rw [eventsOf_concat_self, nextAttempt_attempt, InsertionMap.get_set_self]
      refine ⟨?_, rfl⟩
      cases hentry : w.restarts.get o.accountId with
      | none =>
          exact hbacked.first (hget.symm.trans hentry) o.stampedAt
      | some entry =>
          exact hbacked.again (hget.symm.trans hentry)
            (le_trans (hdue entry.1 entry.2 hentry) o.ordered)
    · rw [eventsOf_concat_of_ne w.log _ hsame,
        InsertionMap.get_set_of_ne _ _ (Ne.symm hsame)]
      exact h accountId
  · rw [hstep]
    exact h accountId

theorem Supervised.pass {w : Watchdog} (h : w.Supervised) (fleet : Option (List Observation)) :
    (w.pass fleet).Supervised := by
  cases fleet with
  | none =>
      exact h
  | some observations =>
      exact runFrom_inv Supervised (fun w o hw => hw.supervise o) h observations

end Watchdog

/-- Over any passes, the first restart of an account since it was last healthy has number
zero, each after it the next number, and any two are at least the delays between them apart;
an unhealthy account whose last restart's delay is over is restarted at once, and only a
healthy one is struck off. -/
theorem restarts_backed_off (passes : List (Option (List Observation))) (accountId : String) :
    let w := runFrom Watchdog.pass .start passes
    (forall front back n, forall t : ℚ,
      eventsOf accountId w.log = front ++ .attempt n t :: back ->
      (front = [] ∨ exists earlier, front = earlier ++ [.success]) -> n = 0) ∧
    (forall front between back n m, forall t u : ℚ,
      eventsOf accountId w.log = front ++ .attempt n t :: (between ++ .attempt m u :: back) ->
      .success ∉ between ->
      m = n + 1 + between.length ∧
        t + totalDelay restartDelay n (between.length + 1) ≤ u) ∧
    (forall o : Observation, o.accountId = accountId -> o.isUnhealthy = true ->
      (forall n due, nextAttempt restartDelay (eventsOf accountId w.log) = some (n, due) ->
        due ≤ o.checkedAt) ->
      exists n, eventsOf accountId (w.supervise o).log =
        eventsOf accountId w.log ++ [.attempt n o.stampedAt]) ∧
    (forall o : Observation,
      eventsOf accountId (w.supervise o).log = eventsOf accountId w.log ++ [.success] <->
        o.accountId = accountId ∧ o.isUnhealthy = false) := by
  intro w
  have h : w.Supervised :=
    runFrom_inv Watchdog.Supervised (fun w fleet hw => hw.pass fleet) Watchdog.supervised_start
      passes
  rcases h accountId with ⟨hbacked, hget⟩
  refine ⟨?_, ?_, ?_, fun o => w.struck_off_iff o accountId⟩
  · intro front back n t hevents hfront
    rw [hevents] at hbacked
    exact hbacked.starts_at_zero hfront
  · intro front between back n m t u hevents hbetween
    rw [hevents] at hbacked
    exact hbacked.totalDelay_le hbetween
  · rintro o rfl hstate hdue
    rw [Watchdog.supervise_restart hstate fun n due hentry => hdue n due (hget.symm.trans hentry)]
    exact ⟨_, eventsOf_concat_self o.accountId w.log _⟩

end Fleet
end Shamarx
