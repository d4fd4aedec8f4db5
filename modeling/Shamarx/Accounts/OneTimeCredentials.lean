import Shamarx.Accounts.BrokerOAuth
import Shamarx.Auth.PasswordReset

/-!
# One use of a state, of a session and of a reset token
-/

namespace Shamarx
namespace Accounts
namespace BrokerOAuth

open Foundation

/-!
# What a call has taken
-/

section Views

variable {key : Type}

/-- The state of a callback that has read it, until its session is stored. -/
def holdsState : OAuthCall key -> Option key
  | .deletingState _ state _ => some state
  | .exchanging _ state _ => some state
  | .listing state _ _ => some state
  | .storingSession state _ => some state
  | _ => none

def deletedState : OAuthCall key -> Option key
  | .exchanging _ state _ => some state
  | .listing state _ _ => some state
  | .storingSession state _ => some state
  | _ => none

theorem holdsState_of_deleted {c : OAuthCall key} {k : key} (h : deletedState c = some k) :
    holdsState c = some k := by
  cases c <;> first | exact h | cases h

/-- The session of a `finalize` that has read it, until its account is created. -/
def holdsSession : OAuthCall key -> Option key
  | .counting f _ _ => some f.oauthSessionId
  | .inserting f _ _ => some f.oauthSessionId
  | _ => none

def closesSession : OAuthCall key -> Option key
  | .deletingSession oauthSessionId _ => some oauthSessionId
  | _ => none

def Present (m : key -> Option value) (k : key) : Prop :=
  (m k).isSome = true

variable [DecidableEq key] {m : key -> Option value} {k k' : key}

theorem not_present_deleted : ¬ Present (Function.update m k none) k := by
  rw [Present, Function.update_self]
  exact Bool.false_ne_true

theorem present_of_deleted (h : Present (Function.update m k none) k') : Present m k' := by
  by_cases heq : k' = k
  · rw [heq] at h
    exact absurd h not_present_deleted
  · rwa [Present, Function.update_of_ne heq] at h

theorem present_of_set {v : value} (h : Present (Function.update m k (some v)) k') :
    k' = k ∨ Present m k' := by
  by_cases heq : k' = k
  · exact Or.inl heq
  · rw [Present, Function.update_of_ne heq] at h
    exact Or.inr h

end Views

namespace OAuthStore

variable {key : Type} {s : OAuthStore key} {call : Nat} {before c : OAuthCall key}

structure Inv (s : OAuthStore key) : Prop where
  fresh : s.calls.Forall fun call _ => call < s.nextCall
  deleted : s.calls.Forall fun _ c => forall k, deletedState c = some k -> ¬ Present s.states k
  states : OneTime (Present s.states) (s.calls.view holdsState) InFlight.empty
    (s.stored.map Prod.fst) s.drawnStates
  sessions : OneTime (Present s.sessions) (s.calls.view holdsSession)
    (s.calls.view closesSession) (s.created.map Prod.fst) s.drawnSessions

theorem inv_opened (accounts : List BrokerAccount) (nextAccount : Nat) (now : Int) :
    (opened key accounts nextAccount now).Inv where
  fresh := InFlight.forall_empty _
  deleted := InFlight.forall_empty _
  states := OneTime.start fun _ => Bool.false_ne_true
  sessions := OneTime.start fun _ => Bool.false_ne_true

theorem Inv.absent (h : s.Inv) : s.calls s.nextCall = none := by
  cases hcall : s.calls s.nextCall with
  | none => rfl
  | some c => exact absurd (h.fresh _ c hcall) (Nat.lt_irrefl _)

theorem Inv.start (h : s.Inv) (hstate : holdsState c = none) (hdeleted : deletedState c = none)
    (hsession : holdsSession c = none) (hclosing : closesSession c = none) :
    (s.start c).Inv where
  fresh := by
    apply InFlight.Forall.put
    · exact h.fresh.imp fun _ _ hlt => Nat.lt_succ_of_lt hlt
    · exact Nat.lt_succ_self s.nextCall
  deleted := by
    apply h.deleted.put
    intro k hk
    rw [hdeleted] at hk
    cases hk
  states := by
    rw [OAuthStore.start, InFlight.view_put_same]
    · exact h.states
    · rw [InFlight.view_absent h.absent, hstate]
  sessions := by
    rw [OAuthStore.start, InFlight.view_put_same, InFlight.view_put_same]
    · exact h.sessions
    · rw [InFlight.view_absent h.absent, hclosing]
    · rw [InFlight.view_absent h.absent, hsession]

theorem Inv.advance (h : s.Inv) (hcall : s.calls call = some before)
    (hstate : holdsState c = holdsState before) (hdeleted : deletedState c = deletedState before)
    (hsession : holdsSession c = holdsSession before)
    (hclosing : closesSession c = closesSession before) : (s.advance call c).Inv where
  fresh := h.fresh.put (h.fresh call _ hcall)
  deleted := by
    apply h.deleted.put
    rw [hdeleted]
    exact h.deleted call _ hcall
  states := by
    rw [OAuthStore.advance, InFlight.view_put_same]
    · exact h.states
    · rw [InFlight.view_eq hcall, hstate]
  sessions := by
    rw [OAuthStore.advance, InFlight.view_put_same, InFlight.view_put_same]
    · exact h.sessions
    · rw [InFlight.view_eq hcall, hclosing]
    · rw [InFlight.view_eq hcall, hsession]

theorem Inv.drop (h : s.Inv) (hcall : s.calls call = some before)
    (hclosed : forall k, closesSession before = some k -> ¬ Present s.sessions k)
    (failures : List (Nat × OAuthError)) :
    Inv { s with calls := s.calls.drop call, failures := failures } where
  fresh := h.fresh.drop call
  deleted := h.deleted.drop call
  states := by
    rw [InFlight.view_drop]
    exact h.states.release call
  sessions := by
    rw [InFlight.view_drop, InFlight.view_drop]
    cases hclosing : closesSession before with
    | none =>
        have hsame : (s.calls.view closesSession).drop call = s.calls.view closesSession :=
          InFlight.drop_absent ((InFlight.view_eq hcall).trans hclosing)
        rw [hsame]
        exact h.sessions.release call
    | some k =>
        apply (h.sessions.release call).close
        · rw [InFlight.view_eq hcall, hclosing]
        · exact hclosed k hclosing

/-- No other call is between the check of a state and the end of its callback. -/
def StateWithNone (s : OAuthStore key) (state : key) : Prop :=
  forall other, other < s.nextCall ->
    forall k, k ∈ (s.calls other).bind holdsState -> k ≠ state

def SessionWithNone (s : OAuthStore key) (oauthSessionId : key) : Prop :=
  forall other, other < s.nextCall ->
    (forall k, k ∈ (s.calls other).bind holdsSession -> k ≠ oauthSessionId) ∧
      forall k, k ∈ (s.calls other).bind closesSession -> k ≠ oauthSessionId

theorem Inv.lacks (h : s.Inv) {f : OAuthCall key -> Option key} {k : key}
    (hnone : forall other, other < s.nextCall ->
      forall k', k' ∈ (s.calls other).bind f -> k' ≠ k) : (s.calls.view f).Lacks k := by
  intro other k' hother
  rcases Option.bind_eq_some_iff.mp hother with ⟨c, hc, -⟩
  exact hnone other (h.fresh other c hc) k' hother

theorem Inv.takeState (h : s.Inv) {code : String} {state : key}
    (hcall : s.calls call = some (.readingState code state)) (hlive : Present s.states state)
    (hnone : s.StateWithNone state) (userId : Nat) :
    (s.advance call (.deletingState code state userId)).Inv where
  fresh := h.fresh.put (h.fresh call _ hcall)
  deleted := by
    apply h.deleted.put
    intro k hk
    cases hk
  states := by
    have hview : (s.calls.put call (.deletingState code state userId)).view holdsState =
        (s.calls.view holdsState).put call state := InFlight.view_put rfl
    rw [OAuthStore.advance, hview]
    exact h.states.take hlive (h.lacks hnone) (InFlight.forall_empty _)
  sessions := by
    rw [OAuthStore.advance, InFlight.view_put_same, InFlight.view_put_same]
    · exact h.sessions
    · rw [InFlight.view_eq hcall]
      rfl
    · rw [InFlight.view_eq hcall]
      rfl

theorem Inv.takeSession (h : s.Inv) {f : FinalizeInput key}
    (hcall : s.calls call = some (.readingSession f))
    (hlive : Present s.sessions f.oauthSessionId)
    (hnone : s.SessionWithNone f.oauthSessionId) (hstate : holdsState c = none)
    (hdeleted : deletedState c = none) (hsession : holdsSession c = some f.oauthSessionId)
    (hclosing : closesSession c = none) : (s.advance call c).Inv where
  fresh := h.fresh.put (h.fresh call _ hcall)
  deleted := by
    apply h.deleted.put
    intro k hk
    rw [hdeleted] at hk
    cases hk
  states := by
    rw [OAuthStore.advance, InFlight.view_put_same]
    · exact h.states
    · rw [InFlight.view_eq hcall, hstate]
      rfl
  sessions := by
    have hsame : (s.calls.put call c).view closesSession = s.calls.view closesSession := by
      apply InFlight.view_put_same
      rw [InFlight.view_eq hcall, hclosing]
      rfl
    rw [OAuthStore.advance, InFlight.view_put hsession, hsame]
    apply h.sessions.take hlive
    · exact h.lacks fun other hlt => (hnone other hlt).1
    · exact h.lacks fun other hlt => (hnone other hlt).2

theorem Inv.insert (h : s.Inv) {f : FinalizeInput key} {session : SpotwareSession}
    {account : SpotwareAccount} (hcall : s.calls call = some (.inserting f session account)) :
    (s.insert call f session account).Inv := by
  rw [OAuthStore.insert]
  split_ifs
  · exact h.drop hcall (fun k hk => by cases hk) _
  · constructor
    case fresh => exact h.fresh.put (h.fresh call _ hcall)
    case deleted =>
      apply h.deleted.put
      intro k hk
      cases hk
    case states =>
      have hsame : (s.calls.put call
          (.deletingSession f.oauthSessionId s.nextAccount)).view holdsState =
          s.calls.view holdsState := by
        apply InFlight.view_put_same
        rw [InFlight.view_eq hcall]
        rfl
      rw [OAuthStore.advance, hsame]
      exact h.states
    case sessions =>
      have hheld : (s.calls.put call
          (.deletingSession f.oauthSessionId s.nextAccount)).view holdsSession =
          (s.calls.view holdsSession).drop call := InFlight.view_put_none rfl
      have hclosing : (s.calls.put call
          (.deletingSession f.oauthSessionId s.nextAccount)).view closesSession =
          (s.calls.view closesSession).put call f.oauthSessionId := InFlight.view_put rfl
      rw [OAuthStore.advance, hheld, hclosing, List.map_append]
      apply h.sessions.useOpen
      · rw [InFlight.view_eq hcall]
        rfl
      · rw [InFlight.view_eq hcall]
        rfl

/-- A check that succeeds finds no other call with the same credential, and the deletion
of a session does not fail while the session is there. -/
def NoOverlap (s : OAuthStore key) : OAuthOp key -> Prop
  | .settle call =>
      match s.calls call with
      | some (.readingState _ state) => Present s.states state -> s.StateWithNone state
      | some (.readingSession f) =>
          (s.checkSession f).isOk = true -> s.SessionWithNone f.oauthSessionId
      | _ => True
  | .rejects call =>
      match s.calls call with
      | some (.deletingSession oauthSessionId _) => ¬ Present s.sessions oauthSessionId
      | _ => True
  | _ => True

theorem checkSession_ok {f : FinalizeInput key} {found : SpotwareSession × SpotwareAccount}
    (h : s.checkSession f = .ok found) : Present s.sessions f.oauthSessionId := by
  rw [checkSession] at h
  split at h
  case h_1 => cases h
  case h_2 session hsession =>
    rw [Present, hsession]
    rfl

theorem Inv.rejects (h : s.Inv) (hquiet : s.NoOverlap (.rejects call)) :
    (match s.calls call with
      | some _ => s.fail call .rejected
      | none => s).Inv := by
  split
  case h_1 c hcall =>
    apply h.drop hcall
    intro k hk
    cases c with
    | deletingSession oauthSessionId accountId =>
        cases hk
        simpa only [NoOverlap, hcall] using hquiet
    | _ => cases hk
  case h_2 => exact h

variable [DecidableEq key]

theorem Inv.deleteState (h : s.Inv) (state : key) : (s.deleteState state).Inv where
  fresh := h.fresh
  deleted := by
    intro other c hother k hk hpresent
    exact h.deleted other c hother k hk (present_of_deleted hpresent)
  states := h.states.withdraw fun _ hpresent => present_of_deleted hpresent
  sessions := h.sessions

theorem Inv.deleteSession (h : s.Inv) (oauthSessionId : key) :
    (s.deleteSession oauthSessionId).Inv where
  fresh := h.fresh
  deleted := h.deleted
  states := h.states
  sessions := h.sessions.withdraw fun _ hpresent => present_of_deleted hpresent

theorem Inv.deletedState (h : s.Inv) {code : String} {state : key} {userId : Nat}
    (hcall : s.calls call = some (.deletingState code state userId)) :
    ((s.deleteState state).advance call (.exchanging code state userId)).Inv := by
  have hnow := h.deleteState state
  constructor
  case fresh => exact hnow.fresh.put (h.fresh call _ hcall)
  case deleted =>
    apply hnow.deleted.put
    intro k hk
    cases hk
    exact not_present_deleted
  case states =>
    have hsame : (s.calls.put call (.exchanging code state userId)).view holdsState =
        s.calls.view holdsState := by
      apply InFlight.view_put_same
      rw [InFlight.view_eq hcall]
      rfl
    rw [OAuthStore.advance, show (s.deleteState state).calls = s.calls from rfl, hsame]
    exact hnow.states
  case sessions =>
    rw [OAuthStore.advance, show (s.deleteState state).calls = s.calls from rfl,
      InFlight.view_put_same, InFlight.view_put_same]
    · exact hnow.sessions
    · rw [InFlight.view_eq hcall]
      rfl
    · rw [InFlight.view_eq hcall]
      rfl

theorem Inv.storeSession (h : s.Inv) {state : key} {session : SpotwareSession}
    (hcall : s.calls call = some (.storingSession state session)) {sessionId : key}
    (hnew : sessionId ∉ s.drawnSessions) :
    (s.storeSession call state session sessionId).Inv where
  fresh := h.fresh.drop call
  deleted := h.deleted.drop call
  states := by
    rw [OAuthStore.storeSession, InFlight.view_drop, List.map_append]
    apply h.states.useUp
    · rw [InFlight.view_eq hcall]
      rfl
    · exact h.deleted call _ hcall state rfl
  sessions := by
    have hheld : (s.calls.drop call).view holdsSession = s.calls.view holdsSession := by
      rw [InFlight.view_drop, InFlight.drop_absent]
      rw [InFlight.view_eq hcall]
      rfl
    have hclosing : (s.calls.drop call).view closesSession = s.calls.view closesSession := by
      rw [InFlight.view_drop, InFlight.drop_absent]
      rw [InFlight.view_eq hcall]
      rfl
    rw [OAuthStore.storeSession, hheld, hclosing]
    exact h.sessions.draw hnew fun _ hpresent => present_of_set hpresent

theorem Inv.startOAuth (h : s.Inv) {state : key} (hnew : state ∉ s.drawnStates)
    (userId : Nat) :
    Inv { s with
      states := Function.update s.states state (some userId)
      drawnStates := s.drawnStates ++ [state] } where
  fresh := h.fresh
  deleted := by
    intro other c hother k hk hpresent
    rcases present_of_set hpresent with rfl | hbefore
    · have hheld : s.calls.view holdsState other = some k := by
        rw [InFlight.view_eq hother]
        exact holdsState_of_deleted hk
      exact hnew (h.states.heldDrawn other k hheld)
    · exact h.deleted other c hother k hk hbefore
  states := h.states.draw hnew fun _ hpresent => present_of_set hpresent
  sessions := h.sessions

/-!
# Runs in which no two calls overlap on a credential
-/

instance presentDecidable (m : key -> Option value) (k : key) : Decidable (Present m k) :=
  inferInstanceAs (Decidable ((m k).isSome = true))

instance noOverlapDecidable (s : OAuthStore key) (o : OAuthOp key) :
    Decidable (s.NoOverlap o) := by
  unfold NoOverlap StateWithNone SessionWithNone
  repeat' split
  all_goals infer_instance

theorem Inv.settle (h : s.Inv) (softCap : Nat) (hquiet : s.NoOverlap (.settle call)) :
    (s.settle softCap call).Inv := by
  rw [OAuthStore.settle]
  split
  case h_1 code state hcall =>
    simp only [NoOverlap, hcall] at hquiet
    rw [afterState]
    split
    case h_1 => exact h.drop hcall (fun k hk => by cases hk) _
    case h_2 userId hstate =>
      have hlive : Present s.states state := by
        rw [Present, hstate]
        rfl
      exact h.takeState hcall hlive (hquiet hlive) userId
  case h_2 code state userId hcall =>
    exact h.deletedState hcall
  case h_3 f hcall =>
    simp only [NoOverlap, hcall] at hquiet
    rw [afterSession]
    split
    case h_1 => exact h.drop hcall (fun k hk => by cases hk) _
    case h_2 session account hcheck =>
      have hlive := checkSession_ok hcheck
      rw [hcheck] at hquiet
      split_ifs
      · exact h.takeSession hcall hlive (hquiet rfl) rfl rfl rfl rfl
      · exact h.takeSession hcall hlive (hquiet rfl) rfl rfl rfl rfl
  case h_4 f session account hcall =>
    rw [afterCount]
    split_ifs
    · exact h.drop hcall (fun k hk => by cases hk) _
    · exact h.advance hcall rfl rfl rfl rfl
  case h_5 f session account hcall =>
    exact h.insert hcall
  case h_6 oauthSessionId accountId hcall =>
    apply (h.deleteSession oauthSessionId).drop hcall
    intro k hk
    cases hk
    exact not_present_deleted
  case h_7 =>
    exact h

theorem Inv.step (h : s.Inv) (softCap : Nat) {o : OAuthOp key} (hquiet : s.NoOverlap o) :
    (oauthStep softCap s o).Inv := by
  cases o with
  | clock now =>
      exact ⟨h.fresh, h.deleted, h.states, h.sessions⟩
  | startOAuth userId state =>
      rw [oauthStep]
      split_ifs with hdrawn
      · exact h
      · exact h.startOAuth hdrawn userId
  | handleCallback code state =>
      exact h.start rfl rfl rfl rfl
  | finalize f =>
      exact h.start rfl rfl rfl rfl
  | settle call =>
      exact h.settle softCap hquiet
  | exchanged call accessToken refreshToken expiresIn =>
      rw [oauthStep]
      split
      case h_1 hcall => exact h.advance hcall rfl rfl rfl rfl
      case h_2 => exact h
  | listed call accounts =>
      rw [oauthStep]
      split
      case h_1 hcall => exact h.advance hcall rfl rfl rfl rfl
      case h_2 => exact h
  | sessionStored call sessionId =>
      rw [oauthStep]
      split
      case h_1 hcall =>
        split_ifs with hdrawn
        · exact h
        · exact h.storeSession hcall hdrawn
      case h_2 => exact h
  | rejects call =>
      exact h.rejects hquiet
  | stateExpires state =>
      exact h.deleteState state
  | sessionExpires oauthSessionId =>
      exact h.deleteSession oauthSessionId
  | accountDeleted id =>
      exact ⟨h.fresh, h.deleted, h.states, h.sessions⟩

/-- In a run in which no two calls overlap on a credential, a state leads to one session
at most and a session to one account. -/
theorem states_sessions_nodup (softCap : Nat) {accounts : List BrokerAccount}
    {nextAccount : Nat} {now : Int} {ops : List (OAuthOp key)}
    (h : EveryStep (oauthStep softCap) NoOverlap (opened key accounts nextAccount now) ops) :
    ((runFrom (oauthStep softCap) (opened key accounts nextAccount now) ops).stored.map
        Prod.fst).Nodup ∧
      ((runFrom (oauthStep softCap) (opened key accounts nextAccount now) ops).created.map
        Prod.fst).Nodup := by
  have hinv := h.run_inv Inv (fun _ _ hinv hquiet => hinv.step softCap hquiet)
    (inv_opened accounts nextAccount now)
  exact ⟨hinv.states.single.once, hinv.sessions.single.once⟩

end OAuthStore
end BrokerOAuth

/-!
# All three credentials
-/

open BrokerOAuth Auth.PasswordReset Foundation

/-- Where no two calls overlap on a credential, a reset token changes the password once
at most, a state leads to one session at most and a session to one account at most. -/
theorem credentials_single_use {token key : Type} [DecidableEq token] [DecidableEq key]
    (users : List UserRow) (accounts : List BrokerAccount) (nextAccount softCap : Nat)
    (now : Int) (resets : List (ResetOp token)) (flows : List (OAuthOp key))
    (hresets : EveryStep resetStep ResetStore.NoOverlap (ResetStore.opened token users now)
      resets)
    (hflows : EveryStep (oauthStep softCap) OAuthStore.NoOverlap
      (OAuthStore.opened key accounts nextAccount now) flows) :
    (runFrom resetStep (ResetStore.opened token users now) resets).changes.Nodup ∧
      ((runFrom (oauthStep softCap) (OAuthStore.opened key accounts nextAccount now)
        flows).stored.map Prod.fst).Nodup ∧
      ((runFrom (oauthStep softCap) (OAuthStore.opened key accounts nextAccount now)
        flows).created.map Prod.fst).Nodup :=
  ⟨ResetStore.changes_nodup hresets, OAuthStore.states_sessions_nodup softCap hflows⟩

/-- The steps of one reset from its check on. -/
def resetSteps (call : Nat) : List (ResetOp Nat) :=
  [.settle call, .passwordHashed call "hash", .settle call]

/-- The steps of one callback from its check on. -/
def callbackSteps (call sessionId : Nat) : List (OAuthOp Nat) :=
  [.settle call, .settle call, .exchanged call "access" "refresh" 3600,
    .listed call
      [{ ctidTraderAccountId := 7, accountNumber := "52867017", live := false,
         brokerTitle := none, brokerName := none }],
    .sessionStored call sessionId]

def finalizeInput (name : String) : FinalizeInput Nat :=
  { userId := 1, oauthSessionId := 40, ctidTraderAccountId := 7, name := name,
    isEnabled := false }

def oneUser : List UserRow :=
  [{ id := 1, passwordHash := "old" }]

/-- A reset, and its link once more when it has ended. -/
def resetsInTurn : List (ResetOp Nat) :=
  [.issue 1 5, .resetPassword 5 "new"] ++ resetSteps 0 ++ [.resetPassword 5 "newer", .settle 1]

/-- A callback and a `finalize`, and each once more when it has ended. -/
def flowsInTurn : List (OAuthOp Nat) :=
  [.startOAuth 1 30, .handleCallback "code" 30] ++ callbackSteps 0 40 ++
    [.handleCallback "code" 30, .settle 1, .finalize (finalizeInput "first"), .settle 2,
      .settle 2, .settle 2, .finalize (finalizeInput "second"), .settle 3]

theorem one_call_after_another :
    (runFrom resetStep (ResetStore.opened Nat oneUser 0) resetsInTurn).changes.Nodup ∧
      ((runFrom (oauthStep 5) (OAuthStore.opened Nat [] 0 0) flowsInTurn).stored.map
        Prod.fst).Nodup ∧
      ((runFrom (oauthStep 5) (OAuthStore.opened Nat [] 0 0) flowsInTurn).created.map
        Prod.fst).Nodup :=
  credentials_single_use oneUser [] 0 5 0 resetsInTurn flowsInTurn (by decide +kernel)
    (by decide +kernel)

/-- Two calls check each credential before either of them has used it. -/
theorem two_calls_at_once :
    ¬ (runFrom resetStep (ResetStore.opened Nat oneUser 0)
        [.issue 1 5, .resetPassword 5 "new", .resetPassword 5 "newer", .settle 0, .settle 1,
          .passwordHashed 0 "hash", .passwordHashed 1 "other hash", .settle 0,
          .settle 1]).changes.Nodup ∧
      ¬ ((runFrom (oauthStep 5) (OAuthStore.opened Nat [] 0 0)
        ([.startOAuth 1 30, .handleCallback "code" 30, .handleCallback "code" 30, .settle 0,
          .settle 1, .settle 0] ++ (callbackSteps 0 40).drop 2 ++ [.settle 1] ++
          (callbackSteps 1 41).drop 2)).stored.map Prod.fst).Nodup ∧
      ¬ ((runFrom (oauthStep 5) (OAuthStore.opened Nat [] 0 0)
        ([.startOAuth 1 30, .handleCallback "code" 30] ++ callbackSteps 0 40 ++
          [.finalize (finalizeInput "first"), .finalize (finalizeInput "second"), .settle 1,
            .settle 2, .settle 1, .settle 2])).created.map Prod.fst).Nodup := by
  decide +kernel

end Accounts
end Shamarx
