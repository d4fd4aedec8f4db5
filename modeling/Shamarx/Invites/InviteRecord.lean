import Shamarx.Invites.InviteService
import Mathlib.Data.List.Nodup

/-!
# What an interleaving of invites keeps

The unique email and the one transaction give every invite at most one user, whatever
overlaps.  That the invite still stands is only as fresh as the row that the accept has
read.
-/

namespace Shamarx
namespace Invites

open Foundation
open Live.SweepExecution (PresetKey)

/-!
# The tables
-/

namespace Database

variable {digest : Type} {db : Database digest} {id : Nat} {email : String}

def Names (db : Database digest) (id : Nat) (email : String) : Prop :=
  exists row, row ∈ db.invites ∧ row.id = id ∧ row.email = email

/-- The row still has the expiry that was read. -/
def Current (db : Database digest) (invite : Invite digest) : Prop :=
  exists row, row ∈ db.invites ∧ row.id = invite.id ∧ row.expiresAt = invite.expiresAt

/-- The invite has been neither revoked nor has it expired. -/
def Standing (db : Database digest) (now : Int) (id : Nat) : Prop :=
  id ∉ db.revocations ∧ forall row, row ∈ db.invites -> row.id = id -> ¬ row.expiresAt < now

instance (db : Database digest) (now : Int) (id : Nat) : Decidable (db.Standing now id) :=
  inferInstanceAs (Decidable (_ ∧ _))

structure Ok (db : Database digest) : Prop where
  ids : (db.invites.map Invite.id).Nodup
  below : forall row, row ∈ db.invites -> row.id < db.nextInvite
  named : forall a, a ∈ db.admissions -> db.Names a.inviteId a.user.email
  kept : forall a, a ∈ db.admissions -> a.user ∈ db.users
  once : (db.admissions.map Admission.inviteId).Nodup

theorem Ok.row_unique (h : db.Ok) {row other : Invite digest} (hrow : row ∈ db.invites)
    (hother : other ∈ db.invites) (hid : row.id = other.id) : row = other :=
  List.inj_on_of_nodup_map h.ids hrow hother hid

theorem Ok.email_unique (h : db.Ok) {email' : String} (hname : db.Names id email)
    (hname' : db.Names id email') : email = email' := by
  rcases hname with ⟨row, hrow, hid, rfl⟩
  rcases hname' with ⟨other, hother, hid', rfl⟩
  rw [h.row_unique hrow hother (hid.trans hid'.symm)]

theorem Ok.standing (h : db.Ok) {invite : Invite digest} {now : Int}
    (hcurrent : db.Current invite) (hnot : invite.id ∉ db.revocations)
    (hvalid : ¬ invite.expiresAt < now) : db.Standing now invite.id := by
  rcases hcurrent with ⟨row, hrow, hid, hexpires⟩
  constructor
  · exact hnot
  · intro other hother hsame
    rw [h.row_unique hother hrow (hsame.trans hid.symm), hexpires]
    exact hvalid

theorem hasUser_of_mem {user : User} (h : user ∈ db.users) : db.hasUser user.email = true :=
  List.any_eq_true.mpr ⟨user, h, decide_eq_true rfl⟩

/-!
# An update of one row
-/

section Update

variable {data : Invite digest -> Invite digest}

theorem update_ids (hid : forall row, (data row).id = row.id) :
    (db.update id data).invites.map Invite.id = db.invites.map Invite.id := by
  rw [update, List.map_map]
  apply List.map_congr_left
  intro row _
  rw [Function.comp_apply]
  split_ifs
  · exact hid row
  · rfl

theorem mem_update {row : Invite digest} (h : row ∈ (db.update id data).invites) :
    exists old, old ∈ db.invites ∧ row = if old.id = id then data old else old := by
  rcases List.mem_map.mp h with ⟨old, hold, rfl⟩
  exact ⟨old, hold, rfl⟩

theorem mem_update_of_mem {row : Invite digest} (h : row ∈ db.invites) :
    (if row.id = id then data row else row) ∈ (db.update id data).invites :=
  List.mem_map_of_mem h

theorem Names.update (hid : forall row, (data row).id = row.id)
    (hemail : forall row, (data row).email = row.email) {other : Nat}
    (h : db.Names other email) : (db.update id data).Names other email := by
  rcases h with ⟨row, hrow, hother, hname⟩
  refine ⟨_, mem_update_of_mem hrow, ?_⟩
  split_ifs
  · rw [hid, hemail]
    exact ⟨hother, hname⟩
  · exact ⟨hother, hname⟩

theorem Current.update (hid : forall row, (data row).id = row.id) {invite : Invite digest}
    (hexpires : invite.id = id -> forall row, (data row).expiresAt = row.expiresAt)
    (h : db.Current invite) : (db.update id data).Current invite := by
  rcases h with ⟨row, hrow, hsame, hread⟩
  refine ⟨_, mem_update_of_mem hrow, ?_⟩
  split_ifs with heq
  · rw [hid, hexpires (hsame.symm.trans heq)]
    exact ⟨hsame, hread⟩
  · exact ⟨hsame, hread⟩

theorem Ok.update (h : db.Ok) (hid : forall row, (data row).id = row.id)
    (hemail : forall row, (data row).email = row.email) : (db.update id data).Ok where
  ids := by
    rw [update_ids hid]
    exact h.ids
  below := by
    intro row hrow
    rcases mem_update hrow with ⟨old, hold, rfl⟩
    split_ifs
    · rw [hid]
      exact h.below old hold
    · exact h.below old hold
  named := fun a ha => (h.named a ha).update hid hemail
  kept := h.kept
  once := h.once

end Update

/-!
# The writes of the service
-/

section Writes

variable {tokenHash : digest} {createdById : Nat} {expiresAt now : Int}
  {invite : Invite digest} {passwordHash : String} {presetKey : PresetKey}

theorem ok_opened (users : List User) (nextUser : Nat) : (opened digest users nextUser).Ok where
  ids := List.nodup_nil
  below := fun _ hrow => absurd hrow List.not_mem_nil
  named := fun _ ha => absurd ha List.not_mem_nil
  kept := fun _ ha => absurd ha List.not_mem_nil
  once := List.nodup_nil

theorem Names.insert {other : Nat} {name : String} (h : db.Names other name) :
    (db.insert email tokenHash createdById expiresAt).Names other name := by
  rcases h with ⟨row, hrow, hid⟩
  exact ⟨row, List.mem_append_left _ hrow, hid⟩

theorem Current.insert (h : db.Current invite) :
    (db.insert email tokenHash createdById expiresAt).Current invite := by
  rcases h with ⟨row, hrow, hid⟩
  exact ⟨row, List.mem_append_left _ hrow, hid⟩

theorem Ok.insert (h : db.Ok) : (db.insert email tokenHash createdById expiresAt).Ok where
  ids := by
    rw [Database.insert, List.map_append, List.map_singleton, <- List.concat_eq_append]
    apply h.ids.concat
    intro hmem
    rcases List.mem_map.mp hmem with ⟨row, hrow, hid⟩
    exact absurd hid (Nat.ne_of_lt (h.below row hrow))
  below := by
    intro row hrow
    rcases List.mem_append.mp hrow with hold | hnew
    · exact Nat.lt_succ_of_lt (h.below row hold)
    · rw [List.mem_singleton.mp hnew]
      exact Nat.lt_succ_self _
  named := fun a ha => (h.named a ha).insert
  kept := h.kept
  once := h.once

theorem Names.enrol {other : Nat} (h : db.Names other email) :
    (db.enrol invite passwordHash presetKey now).Names other email := by
  have hupdate : (db.update invite.id fun row => { row with acceptedAt := some now }).Names
      other email := by
    refine Names.update ?_ ?_ h
    · exact fun _ => rfl
    · exact fun _ => rfl
  exact hupdate

theorem Current.enrol {other : Invite digest} (h : db.Current other) :
    (db.enrol invite passwordHash presetKey now).Current other := by
  have hupdate : (db.update invite.id fun row => { row with acceptedAt := some now }).Current
      other := by
    refine Current.update ?_ ?_ h
    · exact fun _ => rfl
    · exact fun _ _ => rfl
  exact hupdate

/-- The email of a user is unique, so an invite that has led to a user cannot lead to a
second one. -/
theorem Ok.not_admitted (h : db.Ok) (hname : db.Names invite.id invite.email)
    (hfree : db.hasUser invite.email = false) :
    invite.id ∉ db.admissions.map Admission.inviteId := by
  intro hmem
  rcases List.mem_map.mp hmem with ⟨a, ha, hid⟩
  have hnamed := h.named a ha
  rw [hid] at hnamed
  have huser := hasUser_of_mem (h.kept a ha)
  rw [h.email_unique hnamed hname, hfree] at huser
  cases huser

theorem Ok.enrol (h : db.Ok) (hname : db.Names invite.id invite.email)
    (hfree : db.hasUser invite.email = false) :
    (db.enrol invite passwordHash presetKey now).Ok := by
  have hupdate : (db.update invite.id fun row => { row with acceptedAt := some now }).Ok :=
    h.update (fun _ => rfl) (fun _ => rfl)
  constructor
  case ids => exact hupdate.ids
  case below => exact hupdate.below
  case named =>
    intro a ha
    rcases List.mem_append.mp ha with hold | hnew
    · exact (h.named a hold).enrol
    · rw [List.mem_singleton.mp hnew]
      exact hname.enrol
  case kept =>
    intro a ha
    rcases List.mem_append.mp ha with hold | hnew
    · exact List.mem_append_left _ (h.kept a hold)
    · rw [List.mem_singleton.mp hnew]
      exact List.mem_append_right _ List.mem_cons_self
  case once =>
    rw [Database.enrol, List.map_append, List.map_singleton, <- List.concat_eq_append]
    exact h.once.concat (h.not_admitted hname hfree)

theorem Names.expire {other : Nat} (h : db.Names other email) :
    (db.expire id expiresAt).Names other email := by
  have hupdate : (db.update id fun row => { row with expiresAt := expiresAt }).Names other
      email := by
    refine Names.update ?_ ?_ h
    · exact fun _ => rfl
    · exact fun _ => rfl
  exact hupdate

theorem Current.expire (h : db.Current invite) (hne : invite.id ≠ id) :
    (db.expire id expiresAt).Current invite := by
  have hupdate : (db.update id fun row => { row with expiresAt := expiresAt }).Current
      invite := by
    refine Current.update ?_ ?_ h
    · exact fun _ => rfl
    · exact fun heq => absurd heq hne
  exact hupdate

theorem Ok.expire (h : db.Ok) : (db.expire id expiresAt).Ok := by
  have hupdate : (db.update id fun row => { row with expiresAt := expiresAt }).Ok :=
    h.update (fun _ => rfl) (fun _ => rfl)
  exact ⟨hupdate.ids, hupdate.below, hupdate.named, hupdate.kept, hupdate.once⟩

end Writes

end Database

/-!
# What an accept holds
-/

variable {token digest : Type}

def InviteCall.opens (libs : InviteLibs token digest) :
    InviteCall token digest -> Option (Invite digest)
  | .verifying a candidates => candidates.find? fun row => libs.verify row.tokenHash a.token
  | .lookingUp _ invite => some invite
  | .hashingPassword _ invite => some invite
  | .admitting _ invite _ => some invite
  | _ => none

def InviteCall.checked : InviteCall token digest -> Option (Invite digest)
  | .lookingUp _ invite => some invite
  | .hashingPassword _ invite => some invite
  | .admitting _ invite _ => some invite
  | _ => none

theorem InviteCall.opens_of_checked {libs : InviteLibs token digest}
    {c : InviteCall token digest} {invite : Invite digest} (h : c.checked = some invite) :
    c.opens libs = some invite := by
  cases c <;> first | exact h | cases h

theorem InviteCall.opens_head {libs : InviteLibs token digest} {a : Acceptance token}
    {row : Invite digest} (rest : List (Invite digest))
    (hverify : libs.verify row.tokenHash a.token = true) :
    (InviteCall.verifying a (row :: rest)).opens libs = some row := by
  simp only [InviteCall.opens, List.find?_cons, hverify]

theorem InviteCall.opens_rest {libs : InviteLibs token digest} {a : Acceptance token}
    {row : Invite digest} (rest : List (Invite digest))
    (hverify : libs.verify row.tokenHash a.token = false) :
    (InviteCall.verifying a (row :: rest)).opens libs =
      (InviteCall.verifying a rest).opens libs := by
  simp only [InviteCall.opens, List.find?_cons, hverify]

namespace InviteStore

/-!
# What one step can change
-/

inductive Change (libs : InviteLibs token digest) (s : InviteStore token digest) :
    InviteOp token digest -> InviteStore token digest -> Prop where
  | idle {o} : Change libs s o s
  | clock (now : Int) : Change libs s (.clock now) { s with now := now }
  | start {o} (c : InviteCall token digest) (hopens : c.opens libs = none)
      (hchecked : c.checked = none) : Change libs s o (s.start c)
  | leave {o} (call : Nat) (failures : List (Nat × InviteError)) :
      Change libs s o { s with calls := s.calls.drop call, failures := failures }
  | go {o} {call : Nat} {before c : InviteCall token digest} (hcall : s.calls call = some before)
      (hopens : forall invite, c.opens libs = some invite -> before.opens libs = some invite)
      (hchecked : forall invite, c.checked = some invite -> before.checked = some invite) :
      Change libs s o (s.advance call c)
  | read {o} {call : Nat} {before : InviteCall token digest} (a : Acceptance token)
      {candidates : List (Invite digest)} (hcall : s.calls call = some before)
      (hread : forall row, row ∈ candidates -> row ∈ s.db.invites) :
      Change libs s o (s.advance call (.verifying a candidates))
  | check {call : Nat} {a : Acceptance token} {row : Invite digest}
      {rest : List (Invite digest)} (hcall : s.calls call = some (.verifying a (row :: rest)))
      (hverify : libs.verify row.tokenHash a.token = true) (hvalid : ¬ row.expiresAt < s.now) :
      Change libs s (.settle call) (s.advance call (.lookingUp a row))
  | insert {o} {call : Nat} {before : InviteCall token digest} (email : String)
      (tokenHash : digest) (createdById : Nat) (expiresAt : Int) (drawn : token)
      (hcall : s.calls call = some before) :
      Change libs s o { s.advance call (.mailing email drawn) with
        db := s.db.insert email tokenHash createdById expiresAt }
  | enrol {call : Nat} (a : Acceptance token) (invite : Invite digest) (passwordHash : String)
      (hcall : s.calls call = some (.admitting a invite passwordHash))
      (hfree : s.db.hasUser invite.email = false) :
      Change libs s (.settle call)
        { s.finish call with db := s.db.enrol invite passwordHash a.presetKey s.now }
  | expire {call : Nat} (id : Nat) (expiresAt : Int)
      (hcall : s.calls call = some (.expiring id expiresAt)) :
      Change libs s (.settle call) { s.finish call with db := s.db.expire id expiresAt }

section Steps

variable {libs : InviteLibs token digest} {s : InviteStore token digest}
  {o : InviteOp token digest} {call : Nat} {before : InviteCall token digest}

theorem change_fail (error : InviteError) : Change libs s o (s.fail call error) :=
  .leave call _

theorem change_finish : Change libs s o (s.finish call) :=
  .leave call s.failures

theorem change_holding_none {c : InviteCall token digest} (hcall : s.calls call = some before)
    (hopens : c.opens libs = none) (hchecked : c.checked = none) :
    Change libs s o (s.advance call c) := by
  apply Change.go hcall
  · intro invite h
    rw [hopens] at h
    cases h
  · intro invite h
    rw [hchecked] at h
    cases h

theorem change_nextCandidate {a : Acceptance token} {rest : List (Invite digest)}
    (hgo : Change libs s o (s.advance call (.verifying a rest))) :
    Change libs s o (s.nextCandidate call a rest) := by
  cases rest with
  | nil =>
      exact change_fail .invalid
  | cons row rest =>
      exact hgo

theorem change_verifying {a : Acceptance token} {row : Invite digest}
    {rest : List (Invite digest)} (hcall : s.calls call = some (.verifying a (row :: rest))) :
    Change libs s (.settle call)
      (if libs.verify row.tokenHash a.token then s.check call a row
        else s.nextCandidate call a rest) := by
  cases hverify : libs.verify row.tokenHash a.token with
  | true =>
      rw [if_pos rfl, check]
      split_ifs with hused hexpired
      · exact change_fail .used
      · exact change_fail .expired
      · exact .check hcall hverify hexpired
  | false =>
      rw [if_neg Bool.false_ne_true]
      apply change_nextCandidate
      apply Change.go hcall
      · intro invite h
        rw [InviteCall.opens_rest rest hverify]
        exact h
      · intro invite h
        cases h

variable [DecidableEq digest]

theorem change_settle (libs : InviteLibs token digest) (s : InviteStore token digest)
    (call : Nat) : Change libs s (.settle call) (s.settle libs call) := by
  unfold settle
  split
  case h_1 email tokenHash createdById expiresAt token hcall =>
    unfold insert
    split_ifs
    · exact change_fail .rejected
    · exact .insert email tokenHash createdById expiresAt token hcall
  case h_2 =>
    exact change_finish
  case h_3 a hcall =>
    apply change_nextCandidate
    apply Change.read a hcall
    intro row hrow
    exact List.mem_of_mem_filter hrow
  case h_4 hcall =>
    exact change_verifying hcall
  case h_5 a invite hcall =>
    split_ifs
    · exact change_fail .userExists
    · exact .go hcall (fun _ h => h) (fun _ h => h)
  case h_6 a invite passwordHash hcall =>
    unfold enrol
    split_ifs with htaken
    · exact change_fail .rejected
    · exact .enrol a invite passwordHash hcall (Bool.eq_false_of_not_eq_true htaken)
  case h_7 id hcall =>
    unfold afterFind
    split_ifs
    · exact change_holding_none hcall rfl rfl
    · exact change_fail .notFound
  case h_8 id expiresAt hcall =>
    exact .expire id expiresAt hcall
  case h_9 =>
    exact .idle

theorem change_step (libs : InviteLibs token digest) (s : InviteStore token digest)
    (o : InviteOp token digest) : Change libs s o (inviteStep libs s o) := by
  cases o with
  | clock now =>
      exact .clock now
  | create email createdById expiresInDays =>
      exact .start _ rfl rfl
  | accept a =>
      exact .start _ rfl rfl
  | revoke id =>
      exact .start _ rfl rfl
  | emailChecked call token =>
      rw [inviteStep]
      split
      case h_1 hcall =>
        split_ifs
        · exact change_fail _
        · exact change_holding_none hcall rfl rfl
      case h_2 =>
        exact .idle
  | tokenHashed call tokenHash =>
      rw [inviteStep]
      split
      case h_1 hcall =>
        exact change_holding_none hcall rfl rfl
      case h_2 =>
        exact .idle
  | passwordHashed call passwordHash =>
      rw [inviteStep]
      split
      case h_1 hcall =>
        exact .go hcall (fun _ h => h) (fun _ h => h)
      case h_2 =>
        exact .idle
  | settle call =>
      exact change_settle libs s call
  | rejects call =>
      rw [inviteStep]
      split
      case h_1 =>
        exact change_fail .rejected
      case h_2 =>
        exact .idle

end Steps

end InviteStore
end Invites
end Shamarx
