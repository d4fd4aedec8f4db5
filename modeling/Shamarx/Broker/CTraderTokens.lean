import Shamarx.Broker.CTraderSession
import Mathlib.Data.List.Nodup

/-!
# The tokens of a cTrader client

The endpoint accepts each refresh token once.  A refresh reads the client's token, asks,
writes the new pair and has it stored, and nothing keeps a second call from starting in
between.
-/

namespace Shamarx
namespace Broker
namespace CTraderSession

open Foundation

/-!
# The refreshes
-/

/-- A call that waits for the endpoint, holds its answer, or has its new pair stored. -/
inductive Refresh where
  | asking (token : Nat)
  | given (pair : Nat)
  | storing (pair : Nat)
  deriving DecidableEq

def refreshOf (call : CTraderCall) : Option Refresh :=
  match call.stage with
  | .refreshing token _ => some (.asking token)
  | .answered pair _ => some (.given pair)
  | .patching pair _ => some (.storing pair)
  | .merging pair _ => some (.storing pair)
  | _ => none

def Session.refreshes (s : Session) : InFlight Refresh :=
  s.calls.view refreshOf

/-- The call has sent the client's token and its successor is not yet in place. -/
def Spends (r : InFlight Refresh) (id : Nat) : Prop :=
  match r id with
  | some (.asking _) => True
  | some (.given _) => True
  | _ => False

instance (r : InFlight Refresh) (id : Nat) : Decidable (Spends r id) := by
  unfold Spends
  split <;> infer_instance

/-- A reconnect has ended, and the next attempt of the read refreshes first. -/
def AsksAgain (s : Session) : Caller -> Prop
  | .read attempt maxAttempts _ => attempt + 1 < maxAttempts ∧ s.NeedsRefresh
  | .mutate => False

instance (s : Session) : forall caller, Decidable (AsksAgain s caller)
  | .read _ _ _ => inferInstanceAs (Decidable (_ ∧ _))
  | .mutate => isFalse id

def LastRequest (wanted : Bool) (r : InitRequest) : Prop :=
  r = .symbolById ∨ r = .symbolsList ∧ wanted = false

instance (wanted : Bool) (r : InitRequest) : Decidable (LastRequest wanted r) :=
  inferInstanceAs (Decidable (_ ∨ _))

def SendsToken (s : Session) : SessionOp -> Prop
  | .read maxAttempts => 0 < maxAttempts ∧ s.NeedsRefresh
  | .mutate => s.conn.transport.any s.conn.isAlive = false ∧ s.NeedsRefresh
  | .worked id outcome =>
      match s.calls id with
      | some ⟨.read _ _ _, .working⟩ => outcome = .authFailure
      | _ => False
  | .requestAnswered id wanted =>
      match s.calls id with
      | some ⟨caller, .linking (.requesting r)⟩ => LastRequest wanted r ∧ AsksAgain s caller
      | _ => False
  | _ => False

instance (s : Session) : forall op, Decidable (SendsToken s op)
  | .read _ => inferInstanceAs (Decidable (_ ∧ _))
  | .mutate => inferInstanceAs (Decidable (_ ∧ _))
  | .worked id outcome => by
      dsimp only [SendsToken]
      generalize s.calls id = call
      rcases call with _ | ⟨_ | _, _ | _ | _ | _ | _ | _ | _⟩ <;> dsimp only <;> infer_instance
  | .requestAnswered id wanted => by
      dsimp only [SendsToken]
      generalize s.calls id = call
      rcases call with _ | ⟨_, _ | _ | _ | _ | _ | _ | (_ | _ | _ | _)⟩ <;>
        dsimp only <;> infer_instance
  | .clock _ | .served _ | .tokensArrive _ _ | .refreshFails _ | .patchReads _ | .patchWrites _
  | .patchFails _ | .wakes _ | .closeEnds _ _ | .connects _ | .connectFails _ | .requestFails _
  | .heartbeatRuns _ | .drops _ _ => isFalse id

def NoneSpends (s : Session) : Prop :=
  forall id, id < s.nextCall -> ¬ Spends s.refreshes id

def NoneRefreshes (s : Session) : Prop :=
  forall id, id < s.nextCall -> s.refreshes id = none

instance (s : Session) : Decidable (NoneSpends s) :=
  Nat.decidableBallLT _ _

instance (s : Session) : Decidable (NoneRefreshes s) :=
  Nat.decidableBallLT _ _

/-- No other call spends the token, and none has failed to since it came. -/
def SendsOnce (s : Session) (op : SessionOp) : Prop :=
  SendsToken s op -> NoneSpends s ∧ s.tokens.failed = false

/-- Nor does any other call still have its pair stored. -/
def RefreshesAlone (s : Session) (op : SessionOp) : Prop :=
  SendsToken s op -> NoneRefreshes s ∧ s.tokens.failed = false

instance (s : Session) (op : SessionOp) : Decidable (SendsOnce s op) :=
  inferInstanceAs (Decidable (_ -> _ ∧ _))

instance (s : Session) (op : SessionOp) : Decidable (RefreshesAlone s op) :=
  inferInstanceAs (Decidable (_ -> _ ∧ _))

/-- When no operation is in progress the client has the pair of the last response, and
so has the account's row if every callback has succeeded. -/
def Settled (s : Session) : Prop :=
  (forall id, s.calls id = none) ->
    s.tokens.pair = s.tokens.last ∧
      (s.tokens.patchesOk = true -> s.tokens.stored = s.tokens.pair)

/-!
# The flow of the tokens
-/

/-- What a step that sends nothing does to the tokens and to the refreshes. -/
inductive Flow (t : Tokens) (r : InFlight Refresh) : Tokens -> InFlight Refresh -> Prop where
  | stays : Flow t r t r
  | gives (id : Nat) (h : r id = some (.asking t.valid)) :
      Flow t r { t with valid := t.next, next := t.next + 1 } (r.put id (.given t.next))
  | receives (id pair : Nat) (h : r id = some (.given pair)) :
      Flow t r { t with pair := pair, last := pair, failed := false } (r.put id (.storing pair))
  | fails (id : Nat) (h : Spends r id) : Flow t r { t with failed := true } (r.drop id)
  | stores (id pair : Nat) (h : r id = some (.storing pair)) :
      Flow t r { t with stored := pair } (r.drop id)
  | storeFails (id pair : Nat) (h : r id = some (.storing pair)) :
      Flow t r { t with patchesOk := false } (r.drop id)

structure Asks (t : Tokens) (r : InFlight Refresh) (s' : Session) (id : Nat) : Prop where
  tokens : s'.tokens = { t with requests := t.requests ++ [t.pair] }
  refreshes : s'.refreshes = r.put id (.asking t.pair)

structure Leaves (t : Tokens) (r : InFlight Refresh) (s' : Session) (id : Nat) : Prop where
  tokens : s'.tokens = t
  refreshes : s'.refreshes = r.drop id

section Calls

variable (s : Session) (id : Nat)

theorem put_leaves (caller : Caller) {stage : Stage} (h : refreshOf ⟨caller, stage⟩ = none) :
    Leaves s.tokens s.refreshes (s.put id caller stage) id :=
  ⟨rfl, InFlight.view_put_none h⟩

theorem finish_leaves : Leaves s.tokens s.refreshes (s.finish id) id :=
  ⟨rfl, InFlight.view_drop⟩

theorem sendToken_asks (caller : Caller) (auth : Bool) :
    Asks s.tokens s.refreshes (s.sendToken id caller auth) id :=
  ⟨rfl, InFlight.view_put rfl⟩

theorem attempt_asks {attempt maxAttempts : Nat} (delay : Nat)
    (h : attempt < maxAttempts ∧ s.NeedsRefresh) :
    Asks s.tokens s.refreshes (s.attempt id attempt maxAttempts delay) id := by
  unfold Session.attempt
  rw [if_pos h.1, if_pos h.2]
  exact sendToken_asks s id _ _

theorem attempt_leaves {attempt maxAttempts : Nat} (delay : Nat)
    (h : ¬ (attempt < maxAttempts ∧ s.NeedsRefresh)) :
    Leaves s.tokens s.refreshes (s.attempt id attempt maxAttempts delay) id := by
  unfold Session.attempt
  split_ifs with hlt hrefresh
  · exact absurd ⟨hlt, hrefresh⟩ h
  · exact put_leaves s id _ rfl
  · exact finish_leaves s id

theorem afterReconnect_asks {caller : Caller} (h : AsksAgain s caller) :
    Asks s.tokens s.refreshes (s.afterReconnect id caller) id := by
  cases caller with
  | read attempt maxAttempts delay => exact attempt_asks s id delay h
  | mutate => exact absurd h fun hfalse => hfalse

theorem afterReconnect_leaves {caller : Caller} (h : ¬ AsksAgain s caller) :
    Leaves s.tokens s.refreshes (s.afterReconnect id caller) id := by
  cases caller with
  | read attempt maxAttempts delay => exact attempt_leaves s id delay h
  | mutate => exact put_leaves s id _ rfl

theorem link_asks {caller : Caller} {result : Connection × LinkResult}
    (hdone : result.2 = .done) (h : AsksAgain s caller) :
    Asks s.tokens s.refreshes (s.link id caller result) id := by
  simp only [Session.link, hdone]
  exact afterReconnect_asks { s with conn := result.1 } id h

theorem link_leaves {caller : Caller} {result : Connection × LinkResult}
    (h : ¬ (result.2 = .done ∧ AsksAgain s caller)) :
    Leaves s.tokens s.refreshes (s.link id caller result) id := by
  unfold Session.link
  split
  · exact put_leaves { s with conn := result.1 } id _ rfl
  · next hdone =>
      exact afterReconnect_leaves { s with conn := result.1 } id fun hasks => h ⟨hdone, hasks⟩
  · exact finish_leaves { s with conn := result.1 } id

theorem attemptRaises_leaves (caller : Caller) :
    Leaves s.tokens s.refreshes (s.attemptRaises id caller) id := by
  cases caller with
  | read attempt maxAttempts delay =>
      simp only [Session.attemptRaises]
      split_ifs
      · exact put_leaves s id _ rfl
      · exact finish_leaves s id
  | mutate => exact finish_leaves s id

theorem refreshRaises_leaves (caller : Caller) (auth : Bool) :
    Leaves { s.tokens with failed := true } s.refreshes (s.refreshRaises id caller auth) id := by
  simp only [Session.refreshRaises]
  split_ifs
  · exact finish_leaves { s with tokens := { s.tokens with failed := true } } id
  · exact attemptRaises_leaves { s with tokens := { s.tokens with failed := true } } id caller

end Calls

section Links

variable (c : Connection)

theorem clean_not_done : c.clean.2 ≠ .done := by
  unfold Connection.clean
  split
  · split_ifs <;> exact fun h => by cases h
  · exact fun h => by cases h

theorem request_not_done (r : InitRequest) : (c.request r).2 ≠ .done := by
  unfold Connection.request
  split
  · split_ifs
    · exact fun h => by cases h
    · exact clean_not_done c
  · exact clean_not_done c

theorem reconnect_not_done : c.reconnect.2 ≠ .done := by
  unfold Connection.reconnect Connection.replaceTransport
  split
  · split_ifs <;> exact fun h => by cases h
  · exact fun h => by cases h

theorem answered_done (wanted : Bool) (r : InitRequest) :
    (c.answered wanted r).2 = .done ↔ LastRequest wanted r := by
  cases r with
  | appAuth => exact iff_of_false (request_not_done c _) (by rintro (h | ⟨h, -⟩) <;> cases h)
  | accountAuth =>
      exact iff_of_false (request_not_done c _) (by rintro (h | ⟨h, -⟩) <;> cases h)
  | symbolsList =>
      cases wanted with
      | true =>
          exact iff_of_false (request_not_done c _) (by rintro (h | ⟨-, h⟩) <;> cases h)
      | false => exact iff_of_true rfl (Or.inr ⟨rfl, rfl⟩)
  | symbolById => exact iff_of_true rfl (Or.inl rfl)

end Links

section Steps

variable {s : Session} {id : Nat}

theorem refreshes_none {call : CTraderCall} (hcall : s.calls id = some call)
    (h : refreshOf call = none) : s.refreshes id = none := by
  rw [<- h]
  exact InFlight.view_eq hcall

theorem refreshes_new (h : s.Numbered) : s.refreshes s.nextCall = none := by
  apply InFlight.view_absent
  cases hcall : s.calls s.nextCall with
  | none => rfl
  | some call => exact absurd (h _ call hcall) (Nat.lt_irrefl _)

theorem Leaves.flow {t : Tokens} {r : InFlight Refresh} {s' : Session} (h : Leaves t r s' id)
    (hnone : r id = none) : Flow t r s'.tokens s'.refreshes := by
  rw [h.tokens, h.refreshes, InFlight.drop_absent hnone]
  exact .stays

theorem sessionStep_asks (hnumbered : s.Numbered) {op : SessionOp} (hsends : SendsToken s op) :
    exists id, s.refreshes id = none ∧ Asks s.tokens s.refreshes (sessionStep s op) id := by
  cases op with
  | read maxAttempts =>
      exact ⟨s.nextCall, refreshes_new hnumbered, attempt_asks s.begin s.nextCall 1 hsends⟩
  | mutate =>
      have hdead := Bool.eq_false_iff.mp hsends.1
      refine ⟨s.nextCall, refreshes_new hnumbered, ?_⟩
      simp only [sessionStep, Session.mutate]
      rw [if_neg hdead, if_pos hsends.2]
      exact sendToken_asks s.begin s.nextCall _ _
  | worked id outcome =>
      simp only [SendsToken] at hsends
      split at hsends
      · next attempt maxAttempts delay hcall =>
          subst hsends
          refine ⟨id, refreshes_none hcall rfl, ?_⟩
          simp only [sessionStep, hcall]
          exact sendToken_asks s id _ _
      · exact absurd hsends fun hfalse => hfalse
  | requestAnswered id wanted =>
      simp only [SendsToken] at hsends
      split at hsends
      · next caller r hcall =>
          refine ⟨id, refreshes_none hcall rfl, ?_⟩
          simp only [sessionStep, hcall]
          exact link_asks s id ((answered_done s.conn wanted r).mpr hsends.1) hsends.2
      · exact absurd hsends fun hfalse => hfalse
  | clock _ => exact absurd hsends fun hfalse => hfalse
  | served _ => exact absurd hsends fun hfalse => hfalse
  | tokensArrive _ _ => exact absurd hsends fun hfalse => hfalse
  | refreshFails _ => exact absurd hsends fun hfalse => hfalse
  | patchReads _ => exact absurd hsends fun hfalse => hfalse
  | patchWrites _ => exact absurd hsends fun hfalse => hfalse
  | patchFails _ => exact absurd hsends fun hfalse => hfalse
  | wakes _ => exact absurd hsends fun hfalse => hfalse
  | closeEnds _ _ => exact absurd hsends fun hfalse => hfalse
  | connects _ => exact absurd hsends fun hfalse => hfalse
  | connectFails _ => exact absurd hsends fun hfalse => hfalse
  | requestFails _ => exact absurd hsends fun hfalse => hfalse
  | heartbeatRuns _ => exact absurd hsends fun hfalse => hfalse
  | drops _ _ => exact absurd hsends fun hfalse => hfalse

theorem afterRefresh_leaves (s : Session) (id : Nat) (caller : Caller) (auth : Bool) :
    Leaves s.tokens s.refreshes (s.afterRefresh id caller auth) id := by
  unfold Session.afterRefresh
  split
  · exact put_leaves s id _ rfl
  · exact link_leaves s id fun hdone => reconnect_not_done s.conn hdone.1

theorem link_flow {caller : Caller} {l : Linking}
    (hcall : s.calls id = some ⟨caller, .linking l⟩) {result : Connection × LinkResult}
    (h : ¬ (result.2 = .done ∧ AsksAgain s caller)) :
    Flow s.tokens s.refreshes (s.link id caller result).tokens
      (s.link id caller result).refreshes :=
  (link_leaves s id h).flow (refreshes_none hcall rfl)

theorem worked_flow {caller : Caller} {outcome : Outcome}
    (hcall : s.calls id = some ⟨caller, .working⟩) (h : ¬ SendsToken s (.worked id outcome)) :
    Flow s.tokens s.refreshes (s.worked id caller outcome).tokens
      (s.worked id caller outcome).refreshes := by
  have hnone := refreshes_none hcall rfl
  cases caller with
  | read attempt maxAttempts delay =>
      cases outcome with
      | returns => exact (finish_leaves s id).flow hnone
      | authFailure => exact absurd (by simp only [SendsToken, hcall]) h
      | disconnected =>
          exact (link_leaves s id fun hdone => reconnect_not_done s.conn hdone.1).flow hnone
      | apiError => exact (finish_leaves s id).flow hnone
      | raises => exact (attemptRaises_leaves s id (.read attempt maxAttempts delay)).flow hnone
  | mutate => exact (finish_leaves s id).flow hnone

theorem mutate_flow (hnumbered : s.Numbered) (h : ¬ SendsToken s .mutate) :
    Flow s.tokens s.refreshes s.mutate.tokens s.mutate.refreshes := by
  have hnone := refreshes_new hnumbered
  unfold Session.mutate
  split_ifs with halive hrefresh
  · exact (put_leaves s.begin s.nextCall _ rfl).flow hnone
  · exact absurd ⟨Bool.eq_false_iff.mpr halive, hrefresh⟩ h
  · exact (link_leaves s.begin s.nextCall fun hdone => reconnect_not_done s.conn hdone.1).flow
      hnone

theorem refreshRaises_flow {id : Nat} (caller : Caller) (auth : Bool)
    (h : Spends s.refreshes id) :
    Flow s.tokens s.refreshes (s.refreshRaises id caller auth).tokens
      (s.refreshRaises id caller auth).refreshes := by
  rcases refreshRaises_leaves s id caller auth with ⟨htokens, hrefreshes⟩
  rw [htokens, hrefreshes]
  exact .fails id h

theorem patchWrites_flow {id pair : Nat} (caller : Caller) (auth : Bool)
    (h : s.refreshes id = some (.storing pair)) :
    Flow s.tokens s.refreshes
      ({ s with tokens := { s.tokens with stored := pair } }.afterRefresh id caller auth).tokens
      ({ s with tokens := { s.tokens with stored := pair } }.afterRefresh id caller
        auth).refreshes := by
  rcases afterRefresh_leaves { s with tokens := { s.tokens with stored := pair } } id caller auth
    with ⟨htokens, hrefreshes⟩
  rw [htokens, hrefreshes]
  exact .stores id pair h

theorem patchFails_flow {id pair : Nat} (caller : Caller) (auth : Bool)
    (h : s.refreshes id = some (.storing pair)) :
    Flow s.tokens s.refreshes
      ({ s with tokens := { s.tokens with patchesOk := false } }.afterRefresh id caller
        auth).tokens
      ({ s with tokens := { s.tokens with patchesOk := false } }.afterRefresh id caller
        auth).refreshes := by
  rcases afterRefresh_leaves { s with tokens := { s.tokens with patchesOk := false } } id caller
    auth with ⟨htokens, hrefreshes⟩
  rw [htokens, hrefreshes]
  exact .storeFails id pair h

theorem served_flow {id token : Nat} {caller : Caller} {auth : Bool}
    (hcall : s.calls id = some ⟨caller, .refreshing token auth⟩) :
    Flow s.tokens s.refreshes (s.served id caller token auth).tokens
      (s.served id caller token auth).refreshes := by
  unfold Session.served
  split_ifs with hvalid
  · have hasking : s.refreshes id = some (.asking s.tokens.valid) := by
      rw [<- hvalid]
      exact InFlight.view_eq hcall
    have hput : (s.calls.put id ⟨caller, .answered s.tokens.next auth⟩).view refreshOf =
        s.refreshes.put id (.given s.tokens.next) := InFlight.view_put rfl
    have hgives := Flow.gives id hasking
    rw [<- hput] at hgives
    exact hgives
  · exact .stays

theorem tokensArrive_flow {id pair : Nat} {caller : Caller} {auth : Bool}
    (hcall : s.calls id = some ⟨caller, .answered pair auth⟩) (expiresIn : Int) :
    Flow s.tokens s.refreshes (s.tokensArrive id caller pair auth expiresIn).tokens
      (s.tokensArrive id caller pair auth expiresIn).refreshes := by
  have hgiven : s.refreshes id = some (.given pair) := InFlight.view_eq hcall
  have hput : (s.calls.put id ⟨caller, .patching pair auth⟩).view refreshOf =
      s.refreshes.put id (.storing pair) := InFlight.view_put rfl
  have hreceives := Flow.receives (t := s.tokens) id pair hgiven
  rw [<- hput] at hreceives
  exact hreceives

theorem patchReads_flow {id pair : Nat} {caller : Caller} {auth : Bool}
    (hcall : s.calls id = some ⟨caller, .patching pair auth⟩) :
    Flow s.tokens s.refreshes (s.put id caller (.merging pair auth)).tokens
      (s.put id caller (.merging pair auth)).refreshes := by
  have hsame : (s.put id caller (.merging pair auth)).refreshes = s.refreshes :=
    InFlight.view_put_same (InFlight.view_eq (f := refreshOf) hcall).symm
  rw [hsame]
  exact .stays

theorem wakes_flow {id : Nat} {caller : Caller} {wake : Int}
    (hcall : s.calls id = some ⟨caller, .sleeping wake⟩) :
    Flow s.tokens s.refreshes (s.reconnect id caller).tokens (s.reconnect id caller).refreshes :=
  (link_leaves s id fun hdone => reconnect_not_done s.conn hdone.1).flow (refreshes_none hcall rfl)

theorem unlinked_flow {id : Nat} {caller : Caller} {l : Linking}
    (hcall : s.calls id = some ⟨caller, .linking l⟩) (conn : Connection) :
    Flow s.tokens s.refreshes ({ s with conn := conn }.finish id).tokens
      ({ s with conn := conn }.finish id).refreshes :=
  (finish_leaves { s with conn := conn } id).flow (refreshes_none hcall rfl)

theorem sessionStep_flow (hnumbered : s.Numbered) {op : SessionOp} (h : ¬ SendsToken s op) :
    Flow s.tokens s.refreshes (sessionStep s op).tokens (sessionStep s op).refreshes := by
  cases op with
  | clock now => exact .stays
  | read maxAttempts =>
      exact (attempt_leaves s.begin s.nextCall 1 h).flow (refreshes_new hnumbered)
  | mutate => exact mutate_flow hnumbered h
  | served id =>
      simp only [sessionStep]
      split
      · next caller token auth hcall => exact served_flow hcall
      · exact .stays
  | tokensArrive id expiresIn =>
      simp only [sessionStep]
      split
      · next caller pair auth hcall => exact tokensArrive_flow hcall expiresIn
      · exact .stays
  | refreshFails id =>
      simp only [sessionStep]
      split
      · next caller token auth hcall =>
          apply refreshRaises_flow
          rw [Spends, Session.refreshes, InFlight.view_eq hcall]
          trivial
      · next caller pair auth hcall =>
          apply refreshRaises_flow
          rw [Spends, Session.refreshes, InFlight.view_eq hcall]
          trivial
      · exact .stays
  | patchReads id =>
      simp only [sessionStep]
      split
      · next caller pair auth hcall => exact patchReads_flow hcall
      · exact .stays
  | patchWrites id =>
      simp only [sessionStep]
      split
      · next caller pair auth hcall =>
          exact patchWrites_flow caller auth (InFlight.view_eq hcall)
      · exact .stays
  | patchFails id =>
      simp only [sessionStep]
      split
      · next caller pair auth hcall => exact patchFails_flow caller auth (InFlight.view_eq hcall)
      · next caller pair auth hcall => exact patchFails_flow caller auth (InFlight.view_eq hcall)
      · exact .stays
  | worked id outcome =>
      simp only [sessionStep]
      split
      · next caller hcall => exact worked_flow hcall h
      · exact .stays
  | wakes id =>
      simp only [sessionStep]
      split
      · next caller wake hcall =>
          split_ifs
          · exact wakes_flow hcall
          · exact .stays
      · exact .stays
  | closeEnds id closes =>
      simp only [sessionStep]
      split
      · next caller t hcall => exact link_flow hcall fun hdone => by cases hdone.1
      · next caller t hcall => exact unlinked_flow hcall _
      · exact .stays
  | connects id =>
      simp only [sessionStep]
      split
      · next caller t hcall => exact link_flow hcall fun hdone => request_not_done _ _ hdone.1
      · exact .stays
  | connectFails id =>
      simp only [sessionStep]
      split
      · next caller t hcall => exact unlinked_flow hcall _
      · exact .stays
  | requestAnswered id wanted =>
      simp only [sessionStep]
      split
      · next caller r hcall =>
          apply link_flow hcall
          rintro ⟨hdone, hasks⟩
          apply h
          simp only [SendsToken, hcall]
          exact ⟨(answered_done s.conn wanted r).mp hdone, hasks⟩
      · exact .stays
  | requestFails id =>
      simp only [sessionStep]
      split
      · next caller r hcall => exact link_flow hcall fun hdone => clean_not_done _ hdone.1
      · exact .stays
  | heartbeatRuns i => exact .stays
  | drops t closes => exact .stays

end Steps

/-!
# Each token is sent once
-/

section Once

variable {t t' : Tokens} {r r' : InFlight Refresh}

theorem spends_cases {id : Nat} (h : Spends r id) :
    (exists token, r id = some (.asking token)) ∨ exists pair, r id = some (.given pair) := by
  unfold Spends at h
  split at h
  · next token hr => exact Or.inl ⟨token, hr⟩
  · next pair hr => exact Or.inr ⟨pair, hr⟩
  · exact absurd h fun hfalse => hfalse

theorem spends_of_asking {id token : Nat} (h : r id = some (.asking token)) : Spends r id := by
  rw [Spends, h]
  trivial

theorem spends_of_given {id pair : Nat} (h : r id = some (.given pair)) : Spends r id := by
  rw [Spends, h]
  trivial

theorem not_spends_of_storing {id pair : Nat} (h : r id = some (.storing pair)) :
    ¬ Spends r id := by
  rw [Spends, h]
  exact fun hfalse => hfalse

theorem not_spends_of_none {id : Nat} (h : r id = none) : ¬ Spends r id := by
  rw [Spends, h]
  exact fun hfalse => hfalse

theorem spends_congr {id : Nat} (h : r' id = r id) : Spends r' id ↔ Spends r id := by
  rw [Spends, Spends, h]

/-- As long as no token has been sent twice: one call at most spends a token, which is the
client's, and the client's token has been sent just when a call spends it or has failed
to. -/
structure Once (t : Tokens) (r : InFlight Refresh) : Prop where
  one : forall i j, Spends r i -> Spends r j -> i = j
  asking : forall id token, r id = some (.asking token) -> token = t.pair
  spent : t.pair ∈ t.requests ↔ (exists id, Spends r id) ∨ t.failed = true
  given : forall id pair, r id = some (.given pair) ->
    pair < t.next ∧ forall token, token ∈ t.requests -> token < pair
  fresh : t.pair < t.next ∧ forall token, token ∈ t.requests -> token < t.next

theorem once_new (now expiresAt : Int) :
    Once (Session.new now expiresAt).tokens (Session.new now expiresAt).refreshes := by
  refine ⟨?_, ?_, ?_, ?_, ?_⟩
  · intro i j hi
    cases hi
  · intro id token h
    cases h
  · constructor
    · intro h
      cases h
    · rintro (⟨id, h⟩ | h)
      · cases h
      · cases h
  · intro id pair h
    cases h
  · exact ⟨Nat.zero_lt_one, fun token h => by cases h⟩

theorem Once.asks (h : Once t r) (hnone : forall id, ¬ Spends r id) (id : Nat) :
    Once { t with requests := t.requests ++ [t.pair] } (r.put id (.asking t.pair)) := by
  have hothers : forall other, Spends (r.put id (.asking t.pair)) other -> other = id := by
    intro other hother
    by_contra hne
    exact hnone other ((spends_congr (InFlight.put_of_ne r _ hne)).mp hother)
  refine ⟨?_, ?_, ?_, ?_, ?_⟩
  · intro i j hi hj
    rw [hothers i hi, hothers j hj]
  · intro other token hother
    rcases InFlight.put_cases hother with ⟨-, heq⟩ | ⟨-, hold⟩
    · cases heq
      rfl
    · exact h.asking other token hold
  · refine iff_of_true (List.mem_append_right _ List.mem_cons_self) (Or.inl ⟨id, ?_⟩)
    exact spends_of_asking (InFlight.put_self r id _)
  · intro other pair hother
    rcases InFlight.put_cases hother with ⟨-, heq⟩ | ⟨-, hold⟩
    · cases heq
    · exact absurd (spends_of_given hold) (hnone other)
  · refine ⟨h.fresh.1, ?_⟩
    intro token htoken
    rcases List.mem_append.mp htoken with hold | hnew
    · exact h.fresh.2 token hold
    · rw [List.mem_singleton.mp hnew]
      exact h.fresh.1

theorem Once.drops (h : Once t r) {id : Nat} (hid : ¬ Spends r id) (ht : t'.pair = t.pair)
    (hnext : t'.next = t.next) (hrequests : t'.requests = t.requests)
    (hfailed : t'.failed = t.failed) : Once t' (r.drop id) := by
  have hspends : forall other, Spends (r.drop id) other ↔ Spends r other := by
    intro other
    by_cases heq : other = id
    · subst heq
      exact iff_of_false (not_spends_of_none (InFlight.drop_self r other)) hid
    · exact spends_congr (InFlight.drop_of_ne r heq)
  refine ⟨?_, ?_, ?_, ?_, ?_⟩
  · intro i j hi hj
    exact h.one i j ((hspends i).mp hi) ((hspends j).mp hj)
  · intro other token hother
    rw [ht]
    exact h.asking other token (InFlight.drop_cases hother).2
  · rw [ht, hrequests, hfailed, h.spent]
    simp only [hspends]
  · intro other pair hother
    rw [hnext, hrequests]
    exact h.given other pair (InFlight.drop_cases hother).2
  · rw [ht, hnext, hrequests]
    exact h.fresh

theorem Once.others (h : Once t r) {id other : Nat} (hid : Spends r id) (hne : other ≠ id)
    (hsame : r' other = r other) : ¬ Spends r' other :=
  fun hother => hne (h.one other id ((spends_congr hsame).mp hother) hid)

theorem Once.flow (h : Once t r) (hflow : Flow t r t' r') : Once t' r' := by
  cases hflow with
  | stays => exact h
  | gives id hid =>
      have hspends := spends_of_asking hid
      have hothers : forall other, Spends (r.put id (.given t.next)) other -> other = id := by
        intro other hother
        by_contra hne
        exact h.others hspends hne (InFlight.put_of_ne r _ hne) hother
      refine ⟨?_, ?_, ?_, ?_, ?_⟩
      · intro i j hi hj
        rw [hothers i hi, hothers j hj]
      · intro other token hother
        rcases InFlight.put_cases hother with ⟨-, heq⟩ | ⟨-, hold⟩
        · cases heq
        · exact h.asking other token hold
      · refine iff_of_true (h.spent.mpr (Or.inl ⟨id, hspends⟩)) (Or.inl ⟨id, ?_⟩)
        exact spends_of_given (InFlight.put_self r id _)
      · intro other pair hother
        rcases InFlight.put_cases hother with ⟨-, heq⟩ | ⟨hne, hold⟩
        · cases heq
          exact ⟨Nat.lt_succ_self _, h.fresh.2⟩
        · exact absurd (h.one other id (spends_of_given hold) hspends) hne
      · exact ⟨Nat.lt_succ_of_lt h.fresh.1, fun token htoken =>
          Nat.lt_succ_of_lt (h.fresh.2 token htoken)⟩
  | receives id pair hid =>
      have hspends := spends_of_given hid
      have hnone : forall other, ¬ Spends (r.put id (.storing pair)) other := by
        intro other hother
        by_cases heq : other = id
        · subst heq
          exact not_spends_of_storing (InFlight.put_self r other _) hother
        · exact h.others hspends heq (InFlight.put_of_ne r _ heq) hother
      rcases h.given id pair hid with ⟨hnext, hlarger⟩
      refine ⟨?_, ?_, ?_, ?_, ?_⟩
      · intro i j hi
        exact absurd hi (hnone i)
      · intro other token hother
        exact absurd (spends_of_asking hother) (hnone other)
      · refine iff_of_false (fun hmem => Nat.lt_irrefl _ (hlarger pair hmem)) ?_
        rintro (⟨other, hother⟩ | hfailed)
        · exact hnone other hother
        · cases hfailed
      · intro other pair' hother
        exact absurd (spends_of_given hother) (hnone other)
      · exact ⟨hnext, h.fresh.2⟩
  | fails id hid =>
      have hnone : forall other, ¬ Spends (r.drop id) other := by
        intro other hother
        by_cases heq : other = id
        · subst heq
          exact not_spends_of_none (InFlight.drop_self r other) hother
        · exact h.others hid heq (InFlight.drop_of_ne r heq) hother
      refine ⟨?_, ?_, ?_, ?_, h.fresh⟩
      · intro i j hi
        exact absurd hi (hnone i)
      · intro other token hother
        exact absurd (spends_of_asking hother) (hnone other)
      · exact iff_of_true (h.spent.mpr (Or.inl ⟨id, hid⟩)) (Or.inr rfl)
      · intro other pair hother
        exact absurd (spends_of_given hother) (hnone other)
  | stores id pair hid =>
      exact h.drops (not_spends_of_storing hid) rfl rfl rfl rfl
  | storeFails id pair hid =>
      exact h.drops (not_spends_of_storing hid) rfl rfl rfl rfl

theorem Flow.requests (hflow : Flow t r t' r') : t'.requests = t.requests := by
  cases hflow <;> rfl

end Once

/-!
# The stored pair
-/

section Stored

variable {t t' : Tokens} {r r' : InFlight Refresh}

/-- As long as each refresh is alone: what a callback stores is the client's pair, and
between the callbacks that pair is the stored one. -/
structure Stored (t : Tokens) (r : InFlight Refresh) : Prop where
  alone : InFlight.Alone r
  last : t.pair = t.last
  storing : forall id pair, r id = some (.storing pair) -> pair = t.pair
  stored : (forall id pair, r id ≠ some (.storing pair)) -> t.patchesOk = true ->
    t.stored = t.pair

theorem stored_new (now expiresAt : Int) :
    Stored (Session.new now expiresAt).tokens (Session.new now expiresAt).refreshes := by
  refine ⟨?_, rfl, ?_, fun _ _ => rfl⟩
  · intro i x j y hi
    cases hi
  · intro id pair h
    cases h

theorem Stored.asks (h : Stored t r) (hnone : forall id, r id = none) (id : Nat) :
    Stored { t with requests := t.requests ++ [t.pair] } (r.put id (.asking t.pair)) := by
  refine ⟨InFlight.alone_put_empty hnone id _, h.last, ?_, ?_⟩
  · intro other pair hother
    rcases InFlight.put_cases hother with ⟨-, heq⟩ | ⟨-, hold⟩
    · cases heq
    · exact h.storing other pair hold
  · intro _ hok
    apply h.stored _ hok
    intro other pair hother
    rw [hnone other] at hother
    cases hother

theorem Stored.flow (h : Stored t r) (hflow : Flow t r t' r') : Stored t' r' := by
  cases hflow with
  | stays => exact h
  | gives id hid =>
      refine ⟨h.alone.put hid, h.last, ?_, ?_⟩
      · intro other pair hother
        rcases InFlight.put_cases hother with ⟨-, heq⟩ | ⟨-, hold⟩
        · cases heq
        · exact h.storing other pair hold
      · intro _ hok
        apply h.stored _ hok
        intro other pair hother
        cases (h.alone other _ id _ hother hid rfl)
        cases hother.symm.trans hid
  | receives id pair hid =>
      refine ⟨h.alone.put hid, rfl, ?_, ?_⟩
      · intro other pair' hother
        rcases InFlight.put_cases hother with ⟨-, heq⟩ | ⟨hne, hold⟩
        · cases heq
          rfl
        · exact absurd (h.alone other _ id _ hold hid rfl) hne
      · intro hnot _
        exact absurd (InFlight.put_self r id _) (hnot id pair)
  | fails id hid =>
      refine ⟨h.alone.drop id, h.last, ?_, ?_⟩
      · intro other pair hother
        exact h.storing other pair (InFlight.drop_cases hother).2
      · intro _ hok
        apply h.stored _ hok
        intro other pair hother
        rcases spends_cases hid with ⟨token, hasking⟩ | ⟨pair', hgiven⟩
        · cases (h.alone other _ id _ hother hasking rfl)
          cases hother.symm.trans hasking
        · cases (h.alone other _ id _ hother hgiven rfl)
          cases hother.symm.trans hgiven
  | stores id pair hid =>
      have hpair := h.storing id pair hid
      refine ⟨h.alone.drop id, h.last, ?_, fun _ _ => hpair⟩
      intro other pair' hother
      exact h.storing other pair' (InFlight.drop_cases hother).2
  | storeFails id pair hid =>
      refine ⟨h.alone.drop id, h.last, ?_, fun _ hok => by cases hok⟩
      intro other pair' hother
      exact h.storing other pair' (InFlight.drop_cases hother).2

end Stored

/-!
# A token is spent once
-/

section Runs

variable {s : Session}

theorem none_everywhere (hnumbered : s.Numbered) (h : NoneRefreshes s) (id : Nat) :
    s.refreshes id = none := by
  cases hcall : s.calls id with
  | none => exact InFlight.view_absent hcall
  | some call => exact h id (hnumbered id call hcall)

theorem noneSpends_everywhere (hnumbered : s.Numbered) (h : NoneSpends s) (id : Nat) :
    ¬ Spends s.refreshes id := by
  cases hcall : s.calls id with
  | none => exact not_spends_of_none (InFlight.view_absent hcall)
  | some call => exact h id (hnumbered id call hcall)

def OnceUnlessTwice (s : Session) : Prop :=
  s.Numbered ∧ (s.tokens.requests.Nodup -> Once s.tokens s.refreshes)

theorem not_spent_iff (hnumbered : s.Numbered) (h : Once s.tokens s.refreshes) :
    s.tokens.pair ∉ s.tokens.requests ↔ NoneSpends s ∧ s.tokens.failed = false := by
  rw [h.spent, not_or, not_exists, Bool.not_eq_true]
  refine and_congr_left fun _ => ⟨fun hnone id _ => hnone id, fun hnone => ?_⟩
  exact noneSpends_everywhere hnumbered hnone

theorem nodup_of_step (hnumbered : s.Numbered) {op : SessionOp}
    (h : (sessionStep s op).tokens.requests.Nodup) : s.tokens.requests.Nodup := by
  by_cases hsends : SendsToken s op
  · rcases sessionStep_asks hnumbered hsends with ⟨id, -, hasks⟩
    rw [hasks.tokens] at h
    exact (List.nodup_append.mp h).1
  · rwa [(sessionStep_flow hnumbered hsends).requests] at h

theorem step_nodup_iff (h : OnceUnlessTwice s) (hnodup : s.tokens.requests.Nodup)
    (op : SessionOp) : (sessionStep s op).tokens.requests.Nodup ↔ SendsOnce s op := by
  by_cases hsends : SendsToken s op
  · rcases sessionStep_asks h.1 hsends with ⟨id, -, hasks⟩
    have hiff := not_spent_iff h.1 (h.2 hnodup)
    have hconcat : (s.tokens.requests ++ [s.tokens.pair]).Nodup ↔
        s.tokens.pair ∉ s.tokens.requests := by
      rw [<- List.concat_eq_append, List.nodup_concat]
      exact and_iff_left hnodup
    rw [hasks.tokens, hconcat, hiff]
    exact ⟨fun hfree _ => hfree, fun hfree => hfree hsends⟩
  · rw [(sessionStep_flow h.1 hsends).requests]
    exact iff_of_true hnodup fun hsends' => absurd hsends' hsends

theorem onceUnlessTwice_step (h : OnceUnlessTwice s) (op : SessionOp) :
    OnceUnlessTwice (sessionStep s op) := by
  refine ⟨sessionStep_numbered h.1 op, fun hnodup => ?_⟩
  have hbefore := nodup_of_step h.1 hnodup
  have honce := h.2 hbefore
  by_cases hsends : SendsToken s op
  · rcases sessionStep_asks h.1 hsends with ⟨id, -, hasks⟩
    have hfree := (step_nodup_iff h hbefore op).mp hnodup hsends
    rw [hasks.tokens, hasks.refreshes]
    exact honce.asks (noneSpends_everywhere h.1 hfree.1) id
  · exact honce.flow (sessionStep_flow h.1 hsends)

theorem sessionStep_stored (h : s.Numbered ∧ Stored s.tokens s.refreshes) {op : SessionOp}
    (hop : RefreshesAlone s op) :
    (sessionStep s op).Numbered ∧
      Stored (sessionStep s op).tokens (sessionStep s op).refreshes := by
  refine ⟨sessionStep_numbered h.1 op, ?_⟩
  by_cases hsends : SendsToken s op
  · rcases sessionStep_asks h.1 hsends with ⟨id, -, hasks⟩
    rw [hasks.tokens, hasks.refreshes]
    exact h.2.asks (none_everywhere h.1 (hop hsends).1) id
  · exact h.2.flow (sessionStep_flow h.1 hsends)

theorem settled_of_stored (h : Stored s.tokens s.refreshes) : Settled s := by
  intro hidle
  refine ⟨h.last, h.stored ?_⟩
  intro id pair hid
  cases (InFlight.view_absent (hidle id) : s.refreshes id = none).symm.trans hid

theorem sendsOnce_of_refreshesAlone {op : SessionOp} (h : RefreshesAlone s op) :
    SendsOnce s op := by
  intro hsends
  rcases h hsends with ⟨hnone, hfailed⟩
  exact ⟨fun id hid => not_spends_of_none (hnone id hid), hfailed⟩

theorem requests_nodup_iff (now expiresAt : Int) (ops : List SessionOp) :
    (runFrom sessionStep (Session.new now expiresAt) ops).tokens.requests.Nodup ↔
      EveryStep sessionStep SendsOnce (Session.new now expiresAt) ops :=
  runFrom_iff_everyStep OnceUnlessTwice (fun s => s.tokens.requests.Nodup)
    (fun _ op h => onceUnlessTwice_step h op) (fun _ op h hnodup => step_nodup_iff h hnodup op)
    (fun _ _ h hnodup => nodup_of_step h.1 hnodup)
    ⟨new_numbered now expiresAt, fun _ => once_new now expiresAt⟩ List.nodup_nil ops

end Runs

/-- In every run that sends a token request only while no other call refreshes and none
has failed to with the same token, no token is sent twice, and between the operations the
client and the account's row have the pair of the last response.  No token is sent twice
exactly when none is sent while another call spends it or after one has failed to. -/
theorem tokens_are_spent_once (now expiresAt : Int) (ops : List SessionOp) :
    (EveryStep sessionStep RefreshesAlone (Session.new now expiresAt) ops ->
        (runFrom sessionStep (Session.new now expiresAt) ops).tokens.requests.Nodup ∧
        Settled (runFrom sessionStep (Session.new now expiresAt) ops)) ∧
      ((runFrom sessionStep (Session.new now expiresAt) ops).tokens.requests.Nodup ↔
        EveryStep sessionStep SendsOnce (Session.new now expiresAt) ops) := by
  refine ⟨fun halone => ⟨?_, ?_⟩, requests_nodup_iff now expiresAt ops⟩
  · rw [requests_nodup_iff]
    exact everyStep_of_inv (fun _ => True) (fun _ _ _ _ => trivial)
      (fun _ _ _ h => sendsOnce_of_refreshesAlone h) trivial halone
  · have h := EveryStep.run_inv (fun s => s.Numbered ∧ Stored s.tokens s.refreshes)
      (fun s op hs hop => sessionStep_stored hs hop)
      ⟨new_numbered now expiresAt, stored_new now expiresAt⟩ halone
    exact settled_of_stored h.2

/-- A read near the expiry refreshes.  An hour later the socket is closed, and an order
refreshes and reconnects. -/
def twoRefreshes : List SessionOp :=
  [.read 3, .served 0, .tokensArrive 0 3600, .patchReads 0, .patchWrites 0, .worked 0 .returns,
    .clock 4590, .drops 0 true, .mutate, .served 1, .tokensArrive 1 3600, .patchReads 1,
    .patchWrites 1, .closeEnds 1 true, .connects 1, .requestAnswered 1 true,
    .requestAnswered 1 true, .requestAnswered 1 true, .requestAnswered 1 true,
    .worked 1 .returns]

/-- At the end no call is left, and the row has the pair of the second refresh. -/
theorem two_refreshes_one_after_the_other :
    (runFrom sessionStep (Session.new 1000 1030) twoRefreshes).tokens.requests.Nodup ∧
      Settled (runFrom sessionStep (Session.new 1000 1030) twoRefreshes) ∧
      (forall id, (runFrom sessionStep (Session.new 1000 1030) twoRefreshes).calls id = none) ∧
      (runFrom sessionStep (Session.new 1000 1030) twoRefreshes).tokens.stored = 2 := by
  have hspent := (tokens_are_spent_once 1000 1030 twoRefreshes).1 (by decide +kernel)
  refine ⟨hspent.1, hspent.2, ?_, by decide⟩
  intro id
  rcases id with _ | _ | id <;> rfl

/-- Two reads near the expiry send the same token.  A second refresh while the pair of the
first is being stored leaves the older pair in the row. -/
theorem tokens_are_sent_twice :
    ¬ (runFrom sessionStep (Session.new 1000 1030)
      [.read 3, .read 3]).tokens.requests.Nodup ∧
    ¬ Settled (runFrom sessionStep (Session.new 1000 1030)
      [.read 3, .served 0, .tokensArrive 0 3600, .patchReads 0, .read 3,
        .worked 1 .authFailure, .served 1, .tokensArrive 1 3600, .patchReads 1,
        .patchWrites 1, .patchWrites 0, .worked 0 .returns, .closeEnds 1 true,
        .connectFails 1]) := by
  refine ⟨by decide, fun h => ?_⟩
  have hsettled := h (by
    intro id
    rcases id with _ | _ | id <;> rfl)
  exact absurd (hsettled.2 (by decide)) (by decide)

end CTraderSession
end Broker
end Shamarx
