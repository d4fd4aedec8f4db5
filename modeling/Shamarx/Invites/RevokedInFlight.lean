import Shamarx.Invites.InviteRecord

/-!
# Invites revoked under an accept

An accept that has checked its invite goes on to hash the password.  A revocation that
takes effect meanwhile, or an expiry that passes, is not seen by the transaction.
-/

namespace Shamarx
namespace Invites

open Foundation

variable {token digest : Type} {libs : InviteLibs token digest}
  {s s' : InviteStore token digest} {o : InviteOp token digest}

namespace InviteStore

/-!
# What every run keeps
-/

def Known (libs : InviteLibs token digest) (db : Database digest)
    (c : InviteCall token digest) : Prop :=
  forall invite, c.opens libs = some invite -> db.Names invite.id invite.email

structure Inv (libs : InviteLibs token digest) (s : InviteStore token digest) : Prop where
  db : s.db.Ok
  held : InFlight.Forall (fun _ => Known libs s.db) s.calls
  fresh : InFlight.Forall (fun call _ => call < s.nextCall) s.calls

theorem Known.none {db : Database digest} {c : InviteCall token digest}
    (hopens : c.opens libs = none) : Known libs db c := by
  intro invite h
  rw [hopens] at h
  cases h

theorem Inv.write (h : Inv libs s) {db : Database digest} (hok : db.Ok)
    (hnames : forall id email, s.db.Names id email -> db.Names id email) :
    Inv libs { s with db := db } where
  db := hok
  held := h.held.imp fun _ _ hknown invite hopens => hnames _ _ (hknown invite hopens)
  fresh := h.fresh

theorem Inv.advance (h : Inv libs s) {call : Nat} {before c : InviteCall token digest}
    (hcall : s.calls call = some before) (hknown : Known libs s.db c) :
    Inv libs (s.advance call c) where
  db := h.db
  held := h.held.put hknown
  fresh := h.fresh.put (h.fresh call before hcall)

theorem Inv.finish (h : Inv libs s) (call : Nat) : Inv libs (s.finish call) where
  db := h.db
  held := h.held.drop call
  fresh := h.fresh.drop call

theorem inv_opened (libs : InviteLibs token digest) (users : List User) (nextUser : Nat)
    (now : Int) : Inv libs (opened token digest users nextUser now) where
  db := Database.ok_opened users nextUser
  held := InFlight.forall_empty _
  fresh := InFlight.forall_empty _

theorem Inv.change (h : Inv libs s) (hchange : Change libs s o s') : Inv libs s' := by
  cases hchange with
  | idle =>
      exact h
  | clock now =>
      exact ⟨h.db, h.held, h.fresh⟩
  | start c hopens =>
      constructor
      case db => exact h.db
      case held => exact h.held.put (Known.none hopens)
      case fresh =>
        apply InFlight.Forall.put
        · exact h.fresh.imp fun _ _ hlt => Nat.lt_succ_of_lt hlt
        · exact Nat.lt_succ_self s.nextCall
  | leave call failures =>
      exact ⟨h.db, h.held.drop call, h.fresh.drop call⟩
  | go hcall hopens =>
      apply h.advance hcall
      intro invite hinvite
      exact h.held _ _ hcall invite (hopens invite hinvite)
  | read a hcall hread =>
      apply h.advance hcall
      intro invite hinvite
      exact ⟨invite, hread invite (List.mem_of_find?_eq_some hinvite), rfl, rfl⟩
  | check hcall hverify =>
      apply h.advance hcall
      intro invite hinvite
      apply h.held _ _ hcall invite
      rw [InviteCall.opens_head _ hverify]
      exact hinvite
  | insert email tokenHash createdById expiresAt drawn hcall =>
      have hok : (s.db.insert email tokenHash createdById expiresAt).Ok := h.db.insert
      have hwritten := h.write hok fun _ _ hname => hname.insert
      exact hwritten.advance hcall (Known.none rfl)
  | enrol a invite passwordHash hcall hfree =>
      have hname := h.held _ _ hcall invite rfl
      have hok : (s.db.enrol invite passwordHash a.presetKey s.now).Ok :=
        h.db.enrol hname hfree
      have hwritten := h.write hok fun _ _ hother => hother.enrol
      exact hwritten.finish _
  | expire id expiresAt hcall =>
      have hok : (s.db.expire id expiresAt).Ok := h.db.expire
      have hwritten := h.write hok fun _ _ hname => hname.expire
      exact hwritten.finish _

/-!
# The users that a step creates
-/

def admitted (s s' : InviteStore token digest) : List Admission :=
  s'.db.admissions.drop s.db.admissions.length

def OncePerInvite (s : InviteStore token digest) : Prop :=
  (s.db.admissions.map Admission.inviteId).Nodup

/-- An invite becomes accepted in the step that creates its user, and users are created
in no other way. -/
structure Together (s s' : InviteStore token digest) : Prop where
  accepted : forall row, row ∈ s'.db.invites -> forall acceptedAt,
    row.acceptedAt = some acceptedAt ->
      (exists old, old ∈ s.db.invites ∧ old.id = row.id ∧ old.acceptedAt = some acceptedAt) ∨
        exists a, a ∈ admitted s s' ∧ a.inviteId = row.id ∧ a.user.email = row.email
  created : s'.db.users = s.db.users ++ (admitted s s').map Admission.user

/-- Every invite that leads to a user in this step stands at that moment. -/
def NoStaleAdmission (s s' : InviteStore token digest) : Prop :=
  forall a, a ∈ admitted s s' -> s.db.Standing s.now a.inviteId

instance (s s' : InviteStore token digest) : Decidable (NoStaleAdmission s s') :=
  inferInstanceAs (Decidable (forall a, a ∈ _ -> _))

theorem admitted_none (h : s'.db.admissions = s.db.admissions) : admitted s s' = [] := by
  rw [admitted, h, List.drop_length]

theorem admitted_enrol (s : InviteStore token digest) (call : Nat) (a : Acceptance token)
    (invite : Invite digest) (passwordHash : String) :
    admitted s { s.finish call with
      db := s.db.enrol invite passwordHash a.presetKey s.now } =
      [{ inviteId := invite.id
         user := s.db.newUser invite.email passwordHash a.presetKey }] :=
  List.drop_left

theorem noStaleAdmission_quiet (h : s'.db.admissions = s.db.admissions) :
    NoStaleAdmission s s' := by
  intro a ha
  rw [admitted_none h] at ha
  cases ha

theorem together_quiet (hadmissions : s'.db.admissions = s.db.admissions)
    (husers : s'.db.users = s.db.users)
    (hrows : forall row, row ∈ s'.db.invites -> row.acceptedAt.isSome ->
      exists old, old ∈ s.db.invites ∧ old.id = row.id ∧ old.acceptedAt = row.acceptedAt) :
    Together s s' where
  accepted := by
    intro row hrow acceptedAt haccepted
    rcases hrows row hrow (by rw [haccepted]; rfl) with ⟨old, hold, hid, hsame⟩
    exact Or.inl ⟨old, hold, hid, hsame.trans haccepted⟩
  created := by
    rw [admitted_none hadmissions, husers, List.map_nil, List.append_nil]

theorem together_same (h : s'.db = s.db) : Together s s' := by
  apply together_quiet
  · rw [h]
  · rw [h]
  · intro row hrow _
    rw [h] at hrow
    exact ⟨row, hrow, rfl, rfl⟩

theorem Inv.together (h : Inv libs s) (hchange : Change libs s o s') : Together s s' := by
  cases hchange with
  | idle | clock | start | leave | go | read | check =>
      exact together_same rfl
  | insert =>
      refine together_quiet rfl rfl ?_
      intro row hrow haccepted
      rcases List.mem_append.mp hrow with hold | hnew
      · exact ⟨row, hold, rfl, rfl⟩
      · rw [List.mem_singleton.mp hnew] at haccepted
        cases haccepted
  | @enrol call a invite passwordHash hcall hfree =>
      have hadmitted := admitted_enrol s call a invite passwordHash
      constructor
      case accepted =>
        intro row hrow acceptedAt haccepted
        rcases Database.mem_update hrow with ⟨old, hold, rfl⟩
        split_ifs at haccepted ⊢ with hid
        · right
          rw [hadmitted]
          have hname := h.held _ _ hcall invite rfl
          rw [<- hid] at hname
          exact ⟨_, List.mem_cons_self, hid.symm,
            h.db.email_unique hname ⟨old, hold, rfl, rfl⟩⟩
        · exact Or.inl ⟨old, hold, rfl, haccepted⟩
      case created =>
        rw [hadmitted]
        rfl
  | expire =>
      refine together_quiet rfl rfl ?_
      intro row hrow _
      rcases Database.mem_update hrow with ⟨old, hold, rfl⟩
      refine ⟨old, hold, ?_⟩
      split_ifs
      · exact ⟨rfl, rfl⟩
      · exact ⟨rfl, rfl⟩

/-!
# Runs without a disturbance
-/

/-- What a call holds is as it was read, and once it is checked it stands. -/
structure Watched (libs : InviteLibs token digest) (db : Database digest) (now : Int)
    (c : InviteCall token digest) : Prop where
  current : forall invite, c.opens libs = some invite -> db.Current invite
  unrevoked : forall invite, c.checked = some invite -> invite.id ∉ db.revocations
  unexpired : forall invite, c.checked = some invite -> ¬ invite.expiresAt < now

def AllWatched (libs : InviteLibs token digest) (s : InviteStore token digest) : Prop :=
  InFlight.Forall (fun _ => Watched libs s.db s.now) s.calls

/-- The clock does not pass the expiry of an invite that an accept has checked; no
revocation takes effect on an invite that an accept has read; and an accept that comes to
check a revoked invite does so after the moment of the revocation. -/
def Undisturbed (libs : InviteLibs token digest) (s : InviteStore token digest) :
    InviteOp token digest -> Prop
  | .clock now =>
      forall call, call < s.nextCall ->
        forall invite, invite ∈ (s.calls call).bind InviteCall.checked ->
          ¬ invite.expiresAt < now
  | .settle call =>
      match s.calls call with
      | some (.expiring id _) =>
          forall other, other < s.nextCall ->
            forall invite, invite ∈ (s.calls other).bind (InviteCall.opens libs) ->
              invite.id ≠ id
      | some (.verifying a (row :: _)) =>
          libs.verify row.tokenHash a.token = true -> row.id ∈ s.db.revocations ->
            row.expiresAt < s.now
      | _ => True
  | _ => True

instance undisturbedDecidable (libs : InviteLibs token digest) (s : InviteStore token digest)
    (o : InviteOp token digest) : Decidable (Undisturbed libs s o) := by
  unfold Undisturbed
  repeat' split
  all_goals infer_instance

theorem Watched.none {db : Database digest} {now : Int} {c : InviteCall token digest}
    (hopens : c.opens libs = none) (hchecked : c.checked = none) : Watched libs db now c := by
  constructor
  · intro invite h
    rw [hopens] at h
    cases h
  all_goals
    intro invite h
    rw [hchecked] at h
    cases h

theorem AllWatched.write (h : AllWatched libs s) {db : Database digest}
    (hcurrent : forall invite, s.db.Current invite -> db.Current invite)
    (hrevocations : db.revocations = s.db.revocations) : AllWatched libs { s with db := db } := by
  intro call c hcall
  have hc := h call c hcall
  constructor
  · exact fun invite hinvite => hcurrent invite (hc.current invite hinvite)
  · intro invite hinvite
    rw [show ({ s with db := db } : InviteStore token digest).db.revocations = _ from
      hrevocations]
    exact hc.unrevoked invite hinvite
  · exact hc.unexpired

theorem Inv.watched (h : Inv libs s) (hwatched : AllWatched libs s)
    (hchange : Change libs s o s') (hquiet : Undisturbed libs s o) : AllWatched libs s' := by
  cases hchange with
  | idle =>
      exact hwatched
  | clock now =>
      intro call c hcall
      have hc := hwatched call c hcall
      refine ⟨hc.current, hc.unrevoked, ?_⟩
      intro invite hchecked
      apply hquiet call (h.fresh call c hcall) invite
      rw [show s.calls call = some c from hcall]
      exact hchecked
  | start c hopens hchecked =>
      exact hwatched.put (Watched.none hopens hchecked)
  | leave call failures =>
      exact hwatched.drop call
  | go hcall hopens hchecked =>
      have hc := hwatched _ _ hcall
      apply hwatched.put
      constructor
      · exact fun invite hinvite => hc.current invite (hopens invite hinvite)
      · exact fun invite hinvite => hc.unrevoked invite (hchecked invite hinvite)
      · exact fun invite hinvite => hc.unexpired invite (hchecked invite hinvite)
  | read a hcall hread =>
      apply hwatched.put
      constructor
      · intro invite hinvite
        exact ⟨invite, hread invite (List.mem_of_find?_eq_some hinvite), rfl, rfl⟩
      all_goals
        intro invite hinvite
        cases hinvite
  | check hcall hverify hvalid =>
      have hc := hwatched _ _ hcall
      apply hwatched.put
      constructor
      · intro invite hinvite
        apply hc.current
        rw [InviteCall.opens_head _ hverify]
        exact hinvite
      · intro invite hinvite hrevoked
        cases hinvite
        simp only [Undisturbed, hcall] at hquiet
        exact hvalid (hquiet hverify hrevoked)
      · intro invite hinvite
        cases hinvite
        exact hvalid
  | insert email tokenHash createdById expiresAt drawn hcall =>
      have hwritten : AllWatched libs
          { s with db := s.db.insert email tokenHash createdById expiresAt } :=
        hwatched.write (fun _ hcurrent => hcurrent.insert) rfl
      exact hwritten.put (Watched.none rfl rfl)
  | @enrol call a invite passwordHash hcall hfree =>
      have hwritten : AllWatched libs
          { s with db := s.db.enrol invite passwordHash a.presetKey s.now } :=
        hwatched.write (fun _ hcurrent => hcurrent.enrol) rfl
      exact hwritten.drop call
  | @expire call id expiresAt hcall =>
      have hnone : forall other c invite, s.calls other = some c ->
          c.opens libs = some invite -> invite.id ≠ id := by
        intro other c invite hother hopens
        simp only [Undisturbed, hcall] at hquiet
        apply hquiet other (h.fresh other c hother) invite
        rw [hother]
        exact hopens
      apply InFlight.Forall.drop
      intro other c hother
      have hc := hwatched other c hother
      constructor
      · intro invite hinvite
        exact (hc.current invite hinvite).expire (hnone other c invite hother hinvite)
      · intro invite hinvite hrevoked
        rcases List.mem_append.mp hrevoked with hold | hnew
        · exact hc.unrevoked invite hinvite hold
        · apply hnone other c invite hother
          · exact InviteCall.opens_of_checked hinvite
          · exact List.mem_singleton.mp hnew
      · exact hc.unexpired

theorem Inv.noStale (h : Inv libs s) (hwatched : AllWatched libs s)
    (hchange : Change libs s o s') : NoStaleAdmission s s' := by
  cases hchange with
  | idle | clock | start | leave | go | read | check | insert | expire =>
      exact noStaleAdmission_quiet rfl
  | enrol a invite passwordHash hcall hfree =>
      intro admission hadmission
      rw [admitted_enrol] at hadmission
      rw [List.mem_singleton.mp hadmission]
      have hc := hwatched _ _ hcall
      exact h.db.standing (hc.current invite rfl) (hc.unrevoked invite rfl)
        (hc.unexpired invite rfl)

variable [DecidableEq digest]

theorem run_once_together (libs : InviteLibs token digest) (users : List User)
    (nextUser : Nat) (now : Int) (ops : List (InviteOp token digest)) :
    OncePerInvite (runFrom (inviteStep libs) (opened token digest users nextUser now) ops) ∧
      EveryStep (inviteStep libs) (fun s o => Together s (inviteStep libs s o))
        (opened token digest users nextUser now) ops := by
  have hstep : forall (s : InviteStore token digest) (o : InviteOp token digest),
      Inv libs s -> Inv libs (inviteStep libs s o) :=
    fun s o h => h.change (change_step libs s o)
  have hopened := inv_opened libs users nextUser now
  constructor
  · exact (runFrom_inv (Inv libs) hstep hopened ops).db.once
  · apply everyStep_of_inv (Inv libs) (C := fun _ _ => True)
    · exact fun s o h _ => hstep s o h
    · exact fun s o h _ => h.together (change_step libs s o)
    · exact hopened
    · exact everyStep_of_forall (fun _ _ => trivial) _ _

/-- In a run without a disturbance no user is created from an invite that does not
stand. -/
theorem invites_lead_to_one_user (libs : InviteLibs token digest) (users : List User)
    (nextUser : Nat) (now : Int) (ops : List (InviteOp token digest))
    (h : EveryStep (inviteStep libs) (Undisturbed libs)
      (opened token digest users nextUser now) ops) :
    OncePerInvite (runFrom (inviteStep libs) (opened token digest users nextUser now) ops) ∧
      EveryStep (inviteStep libs)
        (fun s o => Together s (inviteStep libs s o) ∧ NoStaleAdmission s (inviteStep libs s o))
        (opened token digest users nextUser now) ops := by
  rcases run_once_together libs users nextUser now ops with ⟨honce, htogether⟩
  refine ⟨honce, htogether.and ?_⟩
  apply everyStep_of_inv (fun s => Inv libs s ∧ AllWatched libs s) _ _ _ h
  · rintro s o ⟨hinv, hwatched⟩ hquiet
    have hchange := change_step libs s o
    exact ⟨hinv.change hchange, hinv.watched hwatched hchange hquiet⟩
  · rintro s o ⟨hinv, hwatched⟩ -
    exact hinv.noStale hwatched (change_step libs s o)
  · exact ⟨inv_opened libs users nextUser now, InFlight.forall_empty _⟩

/-!
# One accept, revoked or not
-/

/-- Tokens hashed as themselves, and emails that are written normally. -/
def plainLibs : InviteLibs Nat Nat :=
  { verify := fun tokenHash token => tokenHash = token
    normalize := id }

/-- An invite is created and an accept of it comes as far as the hash of its password. -/
def acceptUnderWay : List (InviteOp Nat Nat) :=
  [.create "ann@example.com" 1 7, .emailChecked 0 5, .tokenHashed 0 5, .settle 0, .settle 0,
    .accept { token := 5, password := "correct horse", presetKey := .balanced }, .settle 1,
    .settle 1, .settle 1]

def acceptedThenRevoked : List (InviteOp Nat Nat) :=
  acceptUnderWay ++ [.passwordHashed 1 "hash", .settle 1, .revoke 0, .settle 2, .settle 2]

def revokedMeanwhile : List (InviteOp Nat Nat) :=
  acceptUnderWay ++ [.revoke 0, .settle 2, .settle 2, .passwordHashed 1 "hash"]

theorem accepted_before_revoked :
    OncePerInvite (runFrom (inviteStep plainLibs) (opened Nat Nat [] 0 1000)
        acceptedThenRevoked) ∧
      EveryStep (inviteStep plainLibs)
        (fun s o => Together s (inviteStep plainLibs s o) ∧
          NoStaleAdmission s (inviteStep plainLibs s o))
        (opened Nat Nat [] 0 1000) acceptedThenRevoked :=
  invites_lead_to_one_user plainLibs [] 0 1000 acceptedThenRevoked (by decide +kernel)

/-- The revocation has gone through before the transaction, which creates the user all
the same. -/
theorem revoked_while_hashing :
    ¬ EveryStep (inviteStep plainLibs)
      (fun s o => Together s (inviteStep plainLibs s o) ∧
        NoStaleAdmission s (inviteStep plainLibs s o))
      (opened Nat Nat [] 0 1000) (revokedMeanwhile ++ [.settle 1]) := by
  intro h
  have hadmission := (everyStep_append.mp h).2.1.2
  revert hadmission
  decide +kernel

end InviteStore
end Invites
end Shamarx
