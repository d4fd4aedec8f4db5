import Shamarx.Accounts.AccountHosting

/-!
# The soft cap

`create` and `update` count the enabled accounts of a user before they write, and other
calls may write between.  So the cap holds up to the calls that overlap.
-/

namespace Shamarx
namespace Accounts
namespace Hosting

open Foundation

/-!
# Calls that enable
-/

def AccountCall.enables (user : String) : AccountCall -> Bool
  | .createCounting userId dto _ => userId = user ∧ dto.isEnabled = some true
  | .createInserting userId dto _ => userId = user ∧ dto.isEnabled = some true
  | .updateFinding userId _ dto => userId = user ∧ dto.isEnabled = some true
  | .updateCounting userId _ dto => userId = user ∧ dto.isEnabled = some true
  | .updateWriting userId _ dto => userId = user ∧ dto.isEnabled = some true
  | _ => false

def AccountSystem.enabling (s : AccountSystem) (user : String) : Nat :=
  s.calls.countP fun entry => entry.2.enables user

def AccountCall.enablesRow (user : String) : AccountCall -> Option String
  | .updateWriting userId id dto =>
      if userId = user ∧ dto.isEnabled = some true then some id else none
  | _ => none

def AccountCall.enablesNew (user : String) : AccountCall -> Bool
  | .createInserting userId dto _ => userId = user ∧ dto.isEnabled = some true
  | _ => false

namespace AccountSystem

def Targeted (s : AccountSystem) (user id : String) : Prop :=
  exists entry, entry ∈ s.calls ∧ entry.2.enablesRow user = some id

instance (s : AccountSystem) (user id : String) : Decidable (s.Targeted user id) :=
  inferInstanceAs (Decidable (exists entry, entry ∈ s.calls ∧ entry.2.enablesRow user = some id))

def Claims (s : AccountSystem) (user : String) (a : BrokerAccount) : Prop :=
  a.userId = user ∧ (a.isEnabled = true ∨ s.Targeted user a.id)

instance (s : AccountSystem) (user : String) (a : BrokerAccount) :
    Decidable (s.Claims user a) :=
  inferInstanceAs (Decidable (a.userId = user ∧ (a.isEnabled = true ∨ s.Targeted user a.id)))

def claimed (s : AccountSystem) (user : String) : Nat :=
  (s.accounts.countP fun a => s.Claims user a) +
    s.calls.countP fun entry => entry.2.enablesNew user

end AccountSystem

section Counts

variable {user : String} {s t : AccountSystem}

theorem enabledCount_le_claimed (s : AccountSystem) (user : String) :
    s.enabledCount user <= s.claimed user := by
  refine Nat.le_trans (List.countP_mono_left ?_) (Nat.le_add_right _ _)
  intro a _ ha
  rw [decide_eq_true_iff] at ha ⊢
  exact ⟨ha.1, Or.inl ha.2⟩

theorem enables_of_enablesRow {c : AccountCall} {id : String}
    (h : c.enablesRow user = some id) : c.enables user = true := by
  cases c with
  | updateWriting userId id' dto =>
      dsimp only [AccountCall.enablesRow] at h
      split_ifs at h with henables
      exact decide_eq_true henables
  | _ =>
      cases h

theorem enables_of_enablesNew {c : AccountCall} (h : c.enablesNew user = true) :
    c.enables user = true ∧ c.enablesRow user = none := by
  cases c with
  | createInserting userId dto extra =>
      exact ⟨h, rfl⟩
  | _ =>
      cases h

theorem countP_targeted_le (h : AccountsSound s) (user : String) :
    (s.accounts.countP fun a => s.Targeted user a.id) <=
      s.calls.countP fun entry => (entry.2.enablesRow user).isSome := by
  have hsub : ((s.accounts.filter fun a => s.Targeted user a.id).map BrokerAccount.id).Subperm
      (s.calls.filterMap fun entry => entry.2.enablesRow user) := by
    refine List.subperm_of_subset ?_ ?_
    · exact h.ids.sublist (List.filter_sublist.map BrokerAccount.id)
    · intro id hid
      rcases List.mem_map.mp hid with ⟨a, ha, rfl⟩
      rcases of_decide_eq_true (List.mem_filter.mp ha).2 with ⟨entry, hentry, hrow⟩
      exact List.mem_filterMap.mpr ⟨entry, hentry, hrow⟩
  have hlength := hsub.length_le
  rw [List.length_map, <- List.countP_eq_length_filter, List.length_filterMap_eq_countP] at hlength
  exact hlength

/-- The rows that are enabled, and at most one more for each call that may enable one. -/
theorem claimed_le_enabledCount_add (h : AccountsSound s) (user : String) :
    s.claimed user <= s.enabledCount user + s.enabling user := by
  have hrows : (s.accounts.countP fun a => s.Claims user a) <=
      s.enabledCount user + s.accounts.countP fun a => s.Targeted user a.id := by
    unfold AccountSystem.enabledCount
    induction s.accounts with
    | nil =>
        exact Nat.le_refl 0
    | cons a rest ih =>
        rw [List.countP_cons, List.countP_cons, List.countP_cons]
        by_cases henabled : a.userId = user ∧ a.isEnabled = true
        · simp only [henabled.1, henabled.2, and_self, decide_true, if_true]
          split_ifs <;> omega
        · by_cases htargeted : s.Targeted user a.id
          · simp only [htargeted, decide_true, if_true]
            split_ifs <;> omega
          · have hnot : ¬ s.Claims user a := by
              rintro ⟨huser, hrow | hrow⟩
              · exact henabled ⟨huser, hrow⟩
              · exact htargeted hrow
            simp only [hnot, decide_false, Bool.false_eq_true, if_false]
            omega
  have hcalls : (s.calls.countP fun entry => (entry.2.enablesRow user).isSome) +
      (s.calls.countP fun entry => entry.2.enablesNew user) <= s.enabling user := by
    unfold AccountSystem.enabling
    induction s.calls with
    | nil =>
        exact Nat.le_refl 0
    | cons entry rest ih =>
        rw [List.countP_cons, List.countP_cons, List.countP_cons]
        by_cases hnew : entry.2.enablesNew user = true
        · rcases enables_of_enablesNew hnew with ⟨henables, hrow⟩
          rw [henables, hrow, hnew]
          simp
          omega
        · by_cases hrow : (entry.2.enablesRow user).isSome = true
          · rcases Option.isSome_iff_exists.mp hrow with ⟨id, hid⟩
            rw [enables_of_enablesRow hid]
            simp [hnew, hrow]
            omega
          · simp [hnew, hrow]
            omega
  have htargeted := countP_targeted_le h user
  unfold AccountSystem.claimed
  omega

/-!
# What a step adds to the claims
-/

structure FewerClaims (user : String) (s t : AccountSystem) : Prop where
  targeted : forall id, t.Targeted user id -> s.Targeted user id
  inserting : (t.calls.countP fun entry => entry.2.enablesNew user) <=
    s.calls.countP fun entry => entry.2.enablesNew user

theorem fewerClaims_erase {call : Nat} (h : t.calls = s.calls.erase call) :
    FewerClaims user s t := by
  have hsub := InsertionMap.erase_sublist s.calls call
  constructor
  · rintro id ⟨entry, hentry, hrow⟩
    rw [h] at hentry
    exact ⟨entry, hsub.subset hentry, hrow⟩
  · rw [h]
    exact hsub.countP_le

structure Quiet (user : String) (c : AccountCall) : Prop where
  row : c.enablesRow user = none
  new : c.enablesNew user = false

theorem fewerClaims_set (hs : AccountsSound s) {call : Nat} {c : AccountCall} (hc : Quiet user c)
    (h : t.calls = s.calls.set call c) : FewerClaims user s t := by
  have hperm := InsertionMap.set_perm hs.numbers call c
  have hsub := InsertionMap.erase_sublist s.calls call
  constructor
  · rintro id ⟨entry, hentry, hrow⟩
    rw [h] at hentry
    rcases List.mem_cons.mp (hperm.mem_iff.mp hentry) with rfl | hold
    · cases hc.row.symm.trans hrow
    · exact ⟨entry, hsub.subset hold, hrow⟩
  · rw [h, hperm.countP_eq, List.countP_cons_of_neg (by rw [hc.new]; exact Bool.false_ne_true)]
    exact hsub.countP_le

theorem FewerClaims.claims (h : FewerClaims user s t) {a : BrokerAccount}
    (ha : t.Claims user a) : s.Claims user a :=
  ⟨ha.1, ha.2.imp_right (h.targeted a.id)⟩

theorem claimed_le_of_sublist (h : FewerClaims user s t)
    (hrows : t.accounts.Sublist s.accounts) : t.claimed user <= s.claimed user := by
  refine Nat.add_le_add ?_ h.inserting
  refine Nat.le_trans hrows.countP_le (List.countP_mono_left ?_)
  intro a _ ha
  exact decide_eq_true (h.claims (of_decide_eq_true ha))

theorem claimed_le_of_map (h : FewerClaims user s t) {change : BrokerAccount -> BrokerAccount}
    (hrows : t.accounts = s.accounts.map change)
    (hclaims : forall a, a ∈ s.accounts -> t.Claims user (change a) -> s.Claims user a) :
    t.claimed user <= s.claimed user := by
  refine Nat.add_le_add ?_ h.inserting
  rw [hrows, List.countP_map]
  refine List.countP_mono_left ?_
  intro a hmem ha
  exact decide_eq_true (hclaims a hmem (of_decide_eq_true ha))

theorem claimed_le_of_same (hrows : t.accounts = s.accounts) (hcalls : t.calls = s.calls) :
    t.claimed user <= s.claimed user := by
  refine claimed_le_of_sublist ⟨?_, ?_⟩ ?_
  · unfold AccountSystem.Targeted
    rw [hcalls]
    exact fun _ h => h
  · rw [hcalls]
  · rw [hrows]

theorem claimed_finish_le (s : AccountSystem) (user : String) (call : Nat)
    (result : AccountResult) : (s.finish call result).claimed user <= s.claimed user :=
  claimed_le_of_sublist (fewerClaims_erase rfl) (List.Sublist.refl _)

theorem claimed_advance_le (hs : AccountsSound s) (call : Nat) {c : AccountCall}
    (hc : Quiet user c) : (s.advance call c).claimed user <= s.claimed user :=
  claimed_le_of_sublist (fewerClaims_set hs hc rfl) (List.Sublist.refl _)

theorem claimed_changeRow_finish_le {id : String} {change : BrokerAccount -> BrokerAccount}
    (hchange : KeepsOwner change)
    (henabled : forall a, a ∈ s.accounts -> a.id = id -> (change a).isEnabled = true ->
      a.userId = user -> a.isEnabled = true ∨ s.Targeted user id)
    (call : Nat) (result : AccountResult) :
    ((s.changeRow id change).finish call result).claimed user <= s.claimed user := by
  have hfewer : FewerClaims user s ((s.changeRow id change).finish call result) :=
    fewerClaims_erase rfl
  refine claimed_le_of_map hfewer rfl ?_
  intro a hmem ha
  split_ifs at ha with hid
  · rcases ha with ⟨huser, hclaim⟩
    rw [hchange.userId] at huser
    refine ⟨huser, ?_⟩
    rcases hclaim with hnow | htargeted
    · rw [hid]
      exact henabled a hmem hid hnow huser
    · rw [hchange.id] at htargeted
      exact Or.inr (hfewer.targeted a.id htargeted)
  · exact hfewer.claims ha

theorem claimed_advance_enabled (hs : AccountsSound s) (call : Nat) {a : BrokerAccount}
    (ha : a ∈ s.accounts) (henabled : a.isEnabled = true) (userId : String)
    (dto : UpdateBrokerAccountDto) :
    (s.advance call (.updateWriting userId a.id dto)).claimed user <= s.claimed user := by
  have hperm := InsertionMap.set_perm hs.numbers call (AccountCall.updateWriting userId a.id dto)
  have hsub := InsertionMap.erase_sublist s.calls call
  refine Nat.add_le_add (List.countP_mono_left ?_) ?_
  · intro b hb hclaims
    refine decide_eq_true ?_
    rcases of_decide_eq_true hclaims with ⟨huser, hrow | ⟨entry, hentry, hrow⟩⟩
    · exact ⟨huser, Or.inl hrow⟩
    · rcases List.mem_cons.mp (hperm.mem_iff.mp hentry) with rfl | hold
      · dsimp only [AccountCall.enablesRow] at hrow
        split_ifs at hrow
        cases hs.eq_of_id ha hb (Option.some.inj hrow)
        exact ⟨huser, Or.inl henabled⟩
      · exact ⟨huser, Or.inr ⟨entry, hsub.subset hold, hrow⟩⟩
  · change List.countP _ (s.calls.set call _) <= _
    rw [hperm.countP_eq, List.countP_cons_of_neg (by exact Bool.false_ne_true)]
    exact hsub.countP_le

theorem claimed_insertRow_le (hs : AccountsSound s) {call : Nat} {userId newId : String}
    {dto : CreateBrokerAccountDto} {extra : Option OAuthExtra}
    (hcall : s.calls.get call = some (.createInserting userId dto extra))
    (hnew : newId ∉ s.usedIds)
    (hrows : t.accounts = s.accounts ++ [newAccount newId userId dto extra])
    (hcalls : t.calls.Perm (s.calls.erase call) ∨
      exists c, Quiet user c ∧ t.calls.Perm ((call, c) :: s.calls.erase call)) :
    t.claimed user <= s.claimed user := by
  have hperm := InsertionMap.perm_erase hs.numbers hcall
  have hquiet : forall entry, entry ∈ t.calls ->
      entry ∈ s.calls.erase call ∨ Quiet user entry.2 := by
    intro entry hentry
    rcases hcalls with hsame | ⟨c, hc, hsame⟩
    · exact Or.inl (hsame.mem_iff.mp hentry)
    · rcases List.mem_cons.mp (hsame.mem_iff.mp hentry) with rfl | hold
      · exact Or.inr hc
      · exact Or.inl hold
  have htargeted : forall id, t.Targeted user id -> s.Targeted user id := by
    rintro id ⟨entry, hentry, hrow⟩
    rcases hquiet entry hentry with hold | hc
    · exact ⟨entry, (InsertionMap.erase_sublist s.calls call).subset hold, hrow⟩
    · cases hc.row.symm.trans hrow
  have hinserting : (t.calls.countP fun entry => entry.2.enablesNew user) =
      (s.calls.erase call).countP fun entry => entry.2.enablesNew user := by
    rcases hcalls with hsame | ⟨c, hc, hsame⟩
    · exact hsame.countP_eq _
    · rw [hsame.countP_eq, List.countP_cons_of_neg (by rw [hc.new]; exact Bool.false_ne_true)]
  have hbefore : (s.calls.countP fun entry => entry.2.enablesNew user) =
      ((s.calls.erase call).countP fun entry => entry.2.enablesNew user) +
        if userId = user ∧ dto.isEnabled = some true then 1 else 0 := by
    rw [hperm.countP_eq, List.countP_cons]
    simp [AccountCall.enablesNew]
  have hrest : (s.accounts.countP fun a => t.Claims user a) <=
      s.accounts.countP fun a => s.Claims user a := by
    refine List.countP_mono_left ?_
    intro a _ ha
    rcases of_decide_eq_true ha with ⟨huser, hclaim⟩
    exact decide_eq_true ⟨huser, hclaim.imp_right (htargeted a.id)⟩
  have hrow : ([newAccount newId userId dto extra].countP fun a => t.Claims user a) <=
      if userId = user ∧ dto.isEnabled = some true then 1 else 0 := by
    rw [List.countP_singleton]
    split_ifs with hclaims henabled
    · exact Nat.le_refl 1
    · rcases of_decide_eq_true hclaims with ⟨huser, hnow | hlater⟩
      · refine absurd ⟨huser, ?_⟩ henabled
        change dto.isEnabled.getD false = true at hnow
        cases hflag : dto.isEnabled with
        | none =>
            rw [hflag] at hnow
            cases hnow
        | some flag =>
            rw [hflag] at hnow
            exact congrArg some hnow
      · rcases htargeted _ hlater with ⟨⟨other, c⟩, hentry, henables⟩
        have hget := InsertionMap.get_of_mem hs.numbers hentry
        cases c with
        | updateWriting userId' id dto' =>
            dsimp only [AccountCall.enablesRow] at henables
            split_ifs at henables
            cases henables
            exact absurd (hs.targets other _ hget _ rfl).1 hnew
        | _ =>
            cases henables
    · exact Nat.zero_le _
    · exact Nat.zero_le _
  unfold AccountSystem.claimed
  rw [hrows, List.countP_append, hinserting, hbefore]
  omega

/-!
# The steps
-/

/-- A step claims no more, or a call has just been let through under the cap. -/
def Capped (cap : Nat) (user : String) (s t : AccountSystem) : Prop :=
  t.claimed user <= s.claimed user ∨ (t.enabledCount user < cap ∧ 0 < t.enabling user)

theorem Capped.reading {cap : Nat} (call : Nat) (r : WriteResult) (h : Capped cap user s t) :
    Capped cap user s (s.reading call r t) := by
  unfold AccountSystem.reading
  split
  · exact h
  · exact Or.inl (claimed_finish_le s user call _)

theorem capped_owned {cap call : Nat} {userId id : String} {next : BrokerAccount -> AccountSystem}
    (hnext : forall acct, acct ∈ s.accounts -> acct.userId = userId ->
      Capped cap user s (next acct)) :
    Capped cap user s (s.owned call userId id next) := by
  unfold AccountSystem.owned
  split
  · exact Or.inl (claimed_finish_le s user call _)
  · next acct hfind =>
      split_ifs with howner
      · exact Or.inl (claimed_finish_le s user call _)
      · exact hnext acct (find_some hfind).1 (not_not.mp howner)

theorem capped_writing (cap : Nat) (env : AccountEnv) (call : Nat) (id : String) (r : WriteResult)
    (result : Option BrokerAccount)
    (h : forall result, (t.finish call result).claimed user <= s.claimed user) :
    Capped cap user s (s.writing env call id r t result) := by
  unfold AccountSystem.writing
  split
  · exact Or.inl (claimed_finish_le s user call _)
  · exact Or.inl (claimed_finish_le s user call _)
  · exact Or.inl (h _)
  · split_ifs
    · exact Or.inl (h _)
    · exact Or.inl (claimed_finish_le s user call _)

theorem capped_underCap {env : AccountEnv} {cap : Nat} (hcap : env.softCap = some (cap : Int))
    (call : Nat) {userId : String}
    (h : s.enabledCount userId < cap -> Capped cap user s t) :
    Capped cap user s (s.underCap env call userId t) := by
  unfold AccountSystem.underCap
  split_ifs with hfull
  · exact Or.inl (claimed_finish_le s user call _)
  · refine h ?_
    unfold AccountSystem.full at hfull
    rw [hcap] at hfull
    simpa using hfull

theorem capped_advance (hs : AccountsSound s) {cap : Nat} {userId : String}
    (hroom : s.enabledCount userId < cap) (call : Nat) {c : AccountCall}
    (hc : Quiet user c ∨ (c.enables user = true ∧ userId = user)) :
    Capped cap user s (s.advance call c) := by
  rcases hc with hquiet | ⟨henables, rfl⟩
  · exact Or.inl (claimed_advance_le hs call hquiet)
  · refine Or.inr ⟨hroom, List.countP_pos_iff.mpr ⟨(call, c), ?_, henables⟩⟩
    exact InsertionMap.mem_of_get (InsertionMap.get_set_self s.calls call c)

theorem capped_checked (hs : AccountsSound s) {cap : Nat} {userId : String}
    {dto : CreateBrokerAccountDto}
    (hroom : dto.isEnabled = some true -> s.enabledCount userId < cap) (call : Nat)
    (extra : Option OAuthExtra) : Capped cap user s (s.checked call userId dto extra) := by
  unfold AccountSystem.checked
  split
  · by_cases henabled : userId = user ∧ dto.isEnabled = some true
    · exact capped_advance hs (hroom henabled.2) call
        (Or.inr ⟨decide_eq_true henabled, henabled.1⟩)
    · exact Or.inl (claimed_advance_le hs call ⟨rfl, decide_eq_false henabled⟩)
  · exact Or.inl (claimed_finish_le s user call _)

theorem capped_inserting (hs : AccountsSound s) (cap : Nat) {call : Nat} {userId : String}
    {dto : CreateBrokerAccountDto} {extra : Option OAuthExtra}
    (hcall : s.calls.get call = some (.createInserting userId dto extra)) (newId : String)
    (r : WriteResult) :
    Capped cap user s (s.inserting call (newAccount newId userId dto extra) r) := by
  unfold AccountSystem.inserting
  split
  · next hlanded =>
      split
      · exact Or.inl (claimed_insertRow_le hs hcall hlanded.2 rfl (Or.inl (List.Perm.refl _)))
      · split
        · refine Or.inl (claimed_insertRow_le hs hcall hlanded.2 rfl (Or.inr
            ⟨.selecting (newAccount newId userId dto extra), ⟨rfl, rfl⟩, ?_⟩))
          exact InsertionMap.set_perm hs.numbers call _
        · exact Or.inl (claimed_insertRow_le hs hcall hlanded.2 rfl (Or.inl (List.Perm.refl _)))
  · exact Or.inl (claimed_finish_le s user call _)

theorem claimed_stamp_le (hs : AccountsSound s) (call : Nat) (id host : String) (now : Int)
    {c : Option AccountCall} (hc : forall d, c = some d -> Quiet user d)
    (hrows : t.accounts = (s.changeRow id (BrokerAccount.stamp host now)).accounts)
    (hcalls : t.calls = match c with
      | some d => s.calls.set call d
      | none => s.calls.erase call) : t.claimed user <= s.claimed user := by
  have hfewer : FewerClaims user s t := by
    cases c with
    | some d =>
        exact fewerClaims_set hs (hc d rfl) hcalls
    | none =>
        exact fewerClaims_erase hcalls
  refine claimed_le_of_map hfewer hrows ?_
  intro a _ ha
  split_ifs at ha
  · exact ⟨ha.1, ha.2.imp_right (hfewer.targeted a.id)⟩
  · exact hfewer.claims ha

theorem claimed_unprovisioned_le (hs : AccountsSound s) (call : Nat) (account : BrokerAccount)
    (host : String) (err : AccountError) :
    (s.unprovisioned call account host err).claimed user <= s.claimed user :=
  claimed_le_of_sublist (fewerClaims_set hs (c := .cleaning account err) ⟨rfl, rfl⟩ rfl)
    (List.Sublist.refl _)

theorem capped_stamping (hs : AccountsSound s) (cap : Nat) (env : AccountEnv) (call : Nat)
    (account : BrokerAccount) (host : String) (r : WriteResult) (now : Int) :
    Capped cap user s (s.stamping env call account host r now) := by
  unfold AccountSystem.stamping
  dsimp only
  split
  · refine Or.inl (claimed_stamp_le hs call account.id host now (c := none) ?_ rfl rfl)
    rintro d ⟨⟩
  · exact Or.inl (claimed_unprovisioned_le hs call account host _)
  · split_ifs
    · refine Or.inl (claimed_stamp_le hs call account.id host now
        (c := some (.cleaning account _)) ?_ rfl rfl)
      rintro d ⟨⟩
      exact ⟨rfl, rfl⟩
    · exact Or.inl (claimed_unprovisioned_le hs call account host _)

theorem claimed_endCreate_le (s : AccountSystem) (user : String) (call : Nat) (id : String)
    (e : CreateEnd) (result : AccountResult) :
    (s.endCreate call id e result).claimed user <= s.claimed user :=
  claimed_le_of_sublist (fewerClaims_erase rfl) (List.Sublist.refl _)

theorem claimed_deleteRow_endCreate_le (id : String) (call : Nat) (e : CreateEnd)
    (result : AccountResult) :
    ((s.deleteRow id none).endCreate call id e result).claimed user <= s.claimed user :=
  claimed_le_of_sublist (fewerClaims_erase rfl) List.filter_sublist

theorem claimed_deleteRow_finish_le (id : String) (torn : Option String) (call : Nat)
    (result : AccountResult) :
    ((s.deleteRow id torn).finish call result).claimed user <= s.claimed user :=
  claimed_le_of_sublist (fewerClaims_erase rfl) List.filter_sublist

theorem capped_cleaning (cap : Nat) (env : AccountEnv) (call : Nat) (account : BrokerAccount)
    (err : AccountError) (r : WriteResult) :
    Capped cap user s (s.cleaning env call account err r) := by
  unfold AccountSystem.cleaning
  split
  · exact Or.inl (claimed_endCreate_le s user call account.id _ _)
  · exact Or.inl (claimed_endCreate_le s user call account.id _ _)
  · exact Or.inl (claimed_deleteRow_endCreate_le account.id call _ _)
  · split_ifs
    · exact Or.inl (claimed_deleteRow_endCreate_le account.id call _ _)
    · exact Or.inl (claimed_endCreate_le s user call account.id _ _)

theorem capped_resume (hs : AccountsSound s) {env : AccountEnv} {cap : Nat}
    (hcap : env.softCap = some (cap : Int)) {call : Nat} {c : AccountCall}
    (hcall : s.calls.get call = some c) (r : WriteResult) (newId : String) (now : Int) :
    Capped cap user s (s.resume env call r newId now c) := by
  have hidle : Capped cap user s s := Or.inl (Nat.le_refl _)
  cases c with
  | createCounting userId dto extra =>
      refine (capped_underCap hcap call ?_).reading call r
      intro hroom
      exact capped_checked hs (fun _ => hroom) call extra
  | createInserting userId dto extra =>
      exact capped_inserting hs cap hcall newId r
  | selecting account =>
      dsimp only [AccountSystem.resume]
      unfold AccountSystem.selecting
      split
      · exact Or.inl (claimed_advance_le hs call ⟨rfl, rfl⟩)
      · exact Or.inl (claimed_advance_le hs call ⟨rfl, rfl⟩)
      · next host _ _ =>
          exact Or.inl (claimed_advance_le hs call
            (c := .provisioning account host.id (List.length s.requests)) ⟨rfl, rfl⟩)
  | provisioning account host request =>
      exact hidle
  | stamping account host =>
      exact capped_stamping hs cap env call account host r now
  | cleaning account err =>
      exact capped_cleaning cap env call account err r
  | updateFinding userId id dto =>
      refine (capped_owned ?_).reading call r
      intro acct hacct howner
      unfold AccountSystem.updateFound
      split_ifs with hcheck
      · exact Or.inl (claimed_advance_le hs call ⟨rfl, rfl⟩)
      · by_cases henables : userId = user ∧ dto.isEnabled = some true
        · have henabled : acct.isEnabled = true := by
            by_contra hdisabled
            exact hcheck ⟨henables.2, Bool.eq_false_of_not_eq_true hdisabled⟩
          exact Or.inl (claimed_advance_enabled hs call hacct henabled userId dto)
        · exact Or.inl (claimed_advance_le hs call ⟨if_neg henables, rfl⟩)
  | updateCounting userId id dto =>
      refine (capped_underCap hcap call ?_).reading call r
      intro hroom
      refine capped_advance hs hroom call ?_
      by_cases henables : userId = user ∧ dto.isEnabled = some true
      · exact Or.inr ⟨decide_eq_true henables, henables.1⟩
      · exact Or.inl ⟨if_neg henables, rfl⟩
  | updateWriting userId id dto =>
      refine capped_writing cap env call id r _ ?_
      refine claimed_changeRow_finish_le (keepsOwner_applyUpdate dto) ?_ call
      intro a hmem hid henabled huser
      cases hflag : dto.isEnabled with
      | none =>
          unfold BrokerAccount.applyUpdate at henabled
          rw [hflag] at henabled
          exact Or.inl henabled
      | some flag =>
          unfold BrokerAccount.applyUpdate at henabled
          rw [hflag] at henabled
          cases (show flag = true from henabled)
          refine Or.inr ⟨_, InsertionMap.mem_of_get hcall, if_pos ⟨?_, hflag⟩⟩
          exact ((hs.targets call _ hcall id rfl).2 a hmem hid).symm.trans huser
  | deleteFinding userId id force =>
      refine (capped_owned ?_).reading call r
      intro acct _ _
      exact Or.inl (claimed_advance_le hs call ⟨rfl, rfl⟩)
  | deleteCounting userId acct force =>
      exact hidle.reading call r
  | deleteDisabling userId id =>
      refine capped_writing cap env call id r _ ?_
      refine claimed_changeRow_finish_le keepsOwner_disable ?_ call
      intro a _ _ henabled
      cases henabled
  | deleteLooking userId id =>
      refine Capped.reading call r ?_
      unfold AccountSystem.deleteLooked
      split
      · exact Or.inl (claimed_advance_le hs call ⟨rfl, rfl⟩)
      · next host _ =>
          exact Or.inl (claimed_advance_le hs call
            (c := .deprovisioning userId id host (List.length s.requests)) ⟨rfl, rfl⟩)
  | deprovisioning userId id host request =>
      exact hidle
  | deleteDeleting userId id torn =>
      exact capped_writing cap env call id r _ (claimed_deleteRow_finish_le id torn call)

theorem capped_step (hs : AccountsSound s) {env : AccountEnv} {cap : Nat}
    (hcap : env.softCap = some (cap : Int)) (op : AccountOp) :
    Capped cap user s (accountStep env s op) := by
  have hidle : Capped cap user s s := Or.inl (Nat.le_refl _)
  cases op with
  | create userId dto extra =>
      have hbegin : (s.begin userId (.createCounting userId dto extra)).claimed user <= s.claimed user :=
        claimed_le_of_sublist (fewerClaims_set hs ⟨rfl, rfl⟩ rfl) (List.Sublist.refl _)
      have hbegun := accountsSound_begin hs (c := .createCounting userId dto extra) rfl
      dsimp only [accountStep]
      unfold AccountSystem.create
      dsimp only
      split_ifs with hchecks
      · exact Or.inl hbegin
      · have hdisabled := not_not.mp hchecks
        have hchecked : Capped cap user (s.begin userId (.createCounting userId dto extra))
            ((s.begin userId (.createCounting userId dto extra)).checked s.nextCall userId dto extra) := by
          refine capped_checked hbegun ?_ s.nextCall extra
          intro henabled
          cases hdisabled.symm.trans henabled
        rcases hchecked with hfewer | hpassed
        · exact Or.inl (hfewer.trans hbegin)
        · exact Or.inr hpassed
  | update userId id dto =>
      exact Or.inl (claimed_le_of_sublist (fewerClaims_set hs ⟨rfl, rfl⟩ rfl)
        (List.Sublist.refl _))
  | delete userId id force =>
      exact Or.inl (claimed_le_of_sublist (fewerClaims_set hs ⟨rfl, rfl⟩ rfl)
        (List.Sublist.refl _))
  | answer call r newId now =>
      dsimp only [accountStep]
      split
      · next c hcall =>
          exact capped_resume hs hcap hcall r newId now
      · exact hidle
  | tradesCounted call openTrades =>
      dsimp only [accountStep]
      split
      · unfold AccountSystem.afterCount
        split_ifs
        · exact Or.inl (claimed_finish_le s user call _)
        · exact Or.inl (claimed_advance_le hs call ⟨rfl, rfl⟩)
        · exact Or.inl (claimed_advance_le hs call ⟨rfl, rfl⟩)
        · exact Or.inl (claimed_advance_le hs call ⟨rfl, rfl⟩)
      · exact hidle
  | respond call =>
      dsimp only [accountStep]
      split
      · next c hcall =>
          cases c with
          | provisioning account host request =>
              dsimp only [AccountSystem.respond]
              split
              · exact Or.inl (claimed_advance_le hs call ⟨rfl, rfl⟩)
              · exact Or.inl (claimed_unprovisioned_le hs call account host _)
              · exact hidle
          | deprovisioning userId id host request =>
              dsimp only [AccountSystem.respond]
              split
              · exact Or.inl (claimed_advance_le hs call ⟨rfl, rfl⟩)
              · exact Or.inl (claimed_advance_le hs call ⟨rfl, rfl⟩)
              · exact hidle
          | _ =>
              exact hidle
      · exact hidle
  | httpFails call message =>
      dsimp only [accountStep]
      split
      · next c hcall =>
          cases c with
          | provisioning account host request =>
              exact Or.inl (claimed_unprovisioned_le hs call account host _)
          | deprovisioning userId id host request =>
              exact Or.inl (claimed_advance_le hs call ⟨rfl, rfl⟩)
          | _ =>
              exact hidle
      · exact hidle
  | provisions request f status message =>
      rcases handleProvision_fields env s request f status message with ⟨haccounts, -, hcalls, -⟩
      exact Or.inl (claimed_le_of_same haccounts hcalls)
  | deprovisions request raised f =>
      rcases handleDeprovision_fields s request raised f with ⟨haccounts, -, hcalls, -⟩
      exact Or.inl (claimed_le_of_same haccounts hcalls)
  | restarts host accountId f =>
      exact hidle

end Counts

/-!
# Runs
-/

/-- At most so many calls that may enable an account of the user are under way. -/
def Overlap (env : AccountEnv) (n : Nat) (user : String) (s : AccountSystem) (op : AccountOp) :
    Prop :=
  (accountStep env s op).enabling user <= n

instance (env : AccountEnv) (n : Nat) (user : String) (s : AccountSystem) (op : AccountOp) :
    Decidable (Overlap env n user s op) :=
  inferInstanceAs (Decidable ((accountStep env s op).enabling user <= n))

/-- In every interleaving, a user has no more enabled accounts than the cap and the calls
that overlap another one. -/
theorem enabled_accounts_capped (env : AccountEnv) (cap n : Nat)
    (hcap : env.softCap = some (cap : Int)) (hosts : List Mt5Host) (user : String)
    (ops : List AccountOp)
    (h : EveryStep (accountStep env) (Overlap env n user) (.start hosts) ops) :
    (runFrom (accountStep env) (.start hosts) ops).enabledCount user <= cap + (n - 1) := by
  have hrun := h.run_inv (fun s => AccountsSound s ∧ s.claimed user <= cap + (n - 1)) ?_
    ⟨accountsSound_start hosts, Nat.zero_le _⟩
  · exact (enabledCount_le_claimed _ user).trans hrun.2
  · intro s op hs hoverlap
    have hsound := (stepKept env hs.1 op).sound
    refine ⟨hsound, ?_⟩
    have hcapped : Capped cap user s (accountStep env s op) := capped_step hs.1 hcap op
    rcases hcapped with hfewer | ⟨hroom, hsome⟩
    · exact hfewer.trans hs.2
    · have hclaimed := claimed_le_enabledCount_add hsound user
      unfold Overlap at hoverlap
      omega

def capOfOne : AccountEnv :=
  { capOfFive with softCap := some 1 }

/-- Calls one after the other keep a cap of one. -/
theorem enabled_accounts_capped_in_turn :
    (runFrom (accountStep capOfOne) (.start [])
      [.create "u1" mockDto none, .answer 0 .ok "" 0, .answer 0 .ok "a1" 1,
        .create "u1" mockDto none, .answer 1 .ok "" 2]).enabledCount "u1" <= 1 + (1 - 1) :=
  enabled_accounts_capped capOfOne 1 1 rfl [] "u1" _ (by decide +kernel)

/-- Two calls that overlap pass the cap by one. -/
example : (runFrom (accountStep capOfOne) (.start [])
    [.create "u1" mockDto none, .create "u1" mockDto none, .answer 0 .ok "" 0,
      .answer 1 .ok "" 0, .answer 0 .ok "a1" 1, .answer 1 .ok "a2" 1]).enabledCount "u1" = 2 := by
  decide +kernel

end Hosting
end Accounts
end Shamarx
