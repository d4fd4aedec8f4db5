import Shamarx.Auth.TokenRecord

/-!
# Safety of the rotation
-/

namespace Shamarx
namespace Auth
namespace RefreshTokens

open Foundation

/-!
# Every step keeps the record
-/

section Invariant

variable {token digest : Type}

structure Inv (s : TokenStore digest) : Prop where
  minted : Minted s.calls s.nextCall s.nextId s.drawn s.creations s.failures
  chain : Chain s.rows s.creations s.rotations s.nextId s.reuses
  reads : Reads s.calls s.reuseReads s.reuses s.failures

variable {s : TokenStore digest} {call : Nat} {c : TokenCall digest}

theorem reusing_drop {calls : InFlight (TokenCall digest)} (hcall : calls call = some c)
    (hne : forall userId revokedAt, c ≠ .reusing userId revokedAt) (other userId : Nat)
    (revokedAt : Int) (h : calls other = some (.reusing userId revokedAt)) :
    calls.drop call other = some (.reusing userId revokedAt) := by
  by_cases heq : other = call
  · rw [heq, hcall] at h
    exact absurd (Option.some.inj h) (hne userId revokedAt)
  · rw [InFlight.drop_of_ne _ heq]
    exact h

theorem reusing_put {calls : InFlight (TokenCall digest)} (hcall : calls call = some c)
    (hne : forall userId revokedAt, c ≠ .reusing userId revokedAt) (c' : TokenCall digest)
    (other userId : Nat) (revokedAt : Int)
    (h : calls other = some (.reusing userId revokedAt)) :
    calls.put call c' other = some (.reusing userId revokedAt) := by
  by_cases heq : other = call
  · rw [heq, hcall] at h
    exact absurd (Option.some.inj h) (hne userId revokedAt)
  · rw [InFlight.put_of_ne _ _ heq]
    exact h

theorem Inv.draw (h : Inv s) (drew : digest) : Inv (s.draw drew) :=
  { minted := h.minted.draw drew
    chain := h.chain
    reads := h.reads }

theorem Inv.start (h : Inv s) (hok : CallOk s.drawn s.creations c)
    (hnew : forall other q, s.calls other = some q -> issuingHash q = none ∨
      issuingHash q ≠ issuingHash c) : Inv (s.start c) where
  minted := h.minted.start hok hnew
  chain := h.chain
  reads := by
    rw [<- List.append_nil (s.start c).failures]
    apply h.reads.quiet
    intro other userId revokedAt hother
    have hlt := (h.minted.fresh other _ hother).1
    exact (InFlight.put_of_ne s.calls c (Nat.ne_of_lt hlt)).trans hother

theorem Inv.finish (h : Inv s) (hcall : s.calls call = some c)
    (hne : forall userId revokedAt, c ≠ .reusing userId revokedAt) :
    Inv (s.finish call) where
  minted := h.minted.drop call
  chain := h.chain
  reads := by
    rw [<- List.append_nil (s.finish call).failures]
    exact h.reads.quiet (reusing_drop hcall hne) []

theorem Inv.fail (h : Inv s) (hcall : s.calls call = some c)
    (hne : forall userId revokedAt, c ≠ .reusing userId revokedAt) (thrown : Thrown) :
    Inv (s.fail call thrown) where
  minted := h.minted.fail hcall thrown
  chain := h.chain
  reads := h.reads.quiet (reusing_drop hcall hne) [(call, thrown)]

theorem Inv.databaseFails (h : Inv s) (hcall : s.calls call = some c) :
    Inv (s.fail call .database) where
  minted := h.minted.fail hcall .database
  chain := h.chain
  reads := by
    intro read hread
    by_cases heq : read.1 = call
    · refine Or.inr (Or.inl (List.mem_append_right _ ?_))
      rw [heq]
      exact List.mem_cons_self
    · rcases h.reads read hread with ⟨revokedAt, hat⟩ | hfailed | hreuse
      · exact Or.inl ⟨revokedAt, (InFlight.drop_of_ne s.calls heq).trans hat⟩
      · exact Or.inr (Or.inl (List.mem_append_left _ hfailed))
      · exact Or.inr (Or.inr hreuse)

theorem Inv.withRows (h : Inv s) {rows : List (TokenRow digest)} (hkeeps : Keeps s.rows rows)
    (hsame : SameSuccessors s.rows rows) : Inv { s with rows := rows } :=
  { minted := h.minted
    chain := h.chain.keeps hkeeps hsame
    reads := h.reads }

theorem keeps_revokeUser (s : TokenStore digest) (userId : Nat) (revokedAt : Int) :
    Keeps s.rows (s.revokeUser userId revokedAt).rows :=
  keeps_map _ (fun _ => rfl) (fun _ => rfl) (fun _ => rfl)

theorem sameSuccessors_revokeUser (s : TokenStore digest) (userId : Nat) (revokedAt : Int) :
    SameSuccessors s.rows (s.revokeUser userId revokedAt).rows :=
  sameSuccessors_map _ (fun _ => rfl) (fun _ => rfl)

theorem Inv.revokeUser (h : Inv s) (userId : Nat) (revokedAt : Int) :
    Inv (s.revokeUser userId revokedAt) :=
  h.withRows (keeps_revokeUser s userId revokedAt) (sameSuccessors_revokeUser s userId revokedAt)

theorem mem_existed {rows : List (TokenRow digest)} {userId i : Nat} :
    i ∈ (rows.filter fun row => row.userId = userId).map TokenRow.id ↔
      exists row, row ∈ rows ∧ row.userId = userId ∧ row.id = i := by
  simp only [List.mem_map, List.mem_filter, decide_eq_true_eq, and_assoc]

theorem Inv.row_unique (h : Inv s) {row row' : TokenRow digest} (hrow : row ∈ s.rows)
    (hrow' : row' ∈ s.rows) (hid : row.id = row'.id) : row = row' :=
  List.inj_on_of_nodup_map h.chain.rowIds hrow hrow' hid

theorem Inv.row_lt (h : Inv s) {row : TokenRow digest} (hrow : row ∈ s.rows) :
    row.id < s.nextId :=
  h.minted.made_lt (h.chain.rowsMade row hrow)

theorem Inv.spent_revokeUser (h : Inv s) {userId i : Nat} (revokedAt : Int)
    (hi : i ∈ (s.rows.filter fun row => row.userId = userId).map TokenRow.id) :
    Spent (s.revokeUser userId revokedAt).rows i := by
  rcases mem_existed.mp hi with ⟨own, hown, huser, rfl⟩
  apply spent_map (fun _ => rfl)
  intro row hrow hid hnone
  rw [decide_eq_true_eq]
  rw [h.row_unique hrow hown hid] at hnone ⊢
  exact ⟨huser, hnone⟩

theorem Inv.reuse (h : Inv s) {userId : Nat} {revokedAt : Int}
    (hcall : s.calls call = some (.reusing userId revokedAt)) :
    Inv { (s.revokeUser userId revokedAt).fail call .unauthorized with
      reuses := s.reuses ++
        [{ call := call
           userId := userId
           existed := (s.rows.filter fun row => row.userId = userId).map TokenRow.id }] } where
  minted := h.minted.fail hcall .unauthorized
  chain := by
    apply (h.revokeUser userId revokedAt).chain.reuse
    · intro i hi
      rcases mem_existed.mp hi with ⟨row, hrow, -, rfl⟩
      exact h.row_lt hrow
    · intro i hi
      exact h.spent_revokeUser revokedAt hi
  reads := by
    intro read hread
    rcases h.reads read hread with ⟨at_, hat⟩ | hfailed | ⟨u, hu, hends⟩
    · by_cases heq : read.1 = call
      · rw [heq, hcall] at hat
        have huser : userId = read.2 := by
          cases hat
          rfl
        exact Or.inr (Or.inr ⟨_, List.mem_append_right _ List.mem_cons_self, heq.symm, huser⟩)
      · exact Or.inl ⟨at_, (InFlight.drop_of_ne s.calls heq).trans hat⟩
    · exact Or.inr (Or.inl (List.mem_append_left _ hfailed))
    · exact Or.inr (Or.inr ⟨u, List.mem_append_left _ hu, hends⟩)

theorem Inv.create (h : Inv s) (userId : Nat) {tokenHash : digest} (expiresAt : Int)
    (hcall : s.calls call = some c)
    (hne : forall userId revokedAt, c ≠ .reusing userId revokedAt)
    (hdrawn : tokenHash ∈ s.drawn)
    (hfree : forall d, d ∈ s.creations -> d.tokenHash ≠ tokenHash)
    (halone : forall other q, other ≠ call -> s.calls other = some q ->
      issuingHash q ≠ some tokenHash) :
    Inv ((s.create call userId tokenHash expiresAt).finish call) where
  minted := h.minted.create hcall hdrawn hfree halone
  chain := h.chain.create (fun d hd => (h.minted.created d hd).2.1) rfl rfl rfl rfl
  reads := (h.finish hcall hne).reads

/-- The `updateMany` of the transaction finds a row only when the row that was read is
still valid. -/
theorem exists_current {rows : List (TokenRow digest)} {row created : TokenRow digest}
    (hne : created.id ≠ row.id)
    (hcount : (rows ++ [created]).countP
      (fun r => decide (r.id = row.id ∧ r.revokedAt = none)) ≠ 0) :
    exists r, r ∈ rows ∧ r.id = row.id ∧ r.revokedAt = none := by
  rcases List.countP_pos_iff.mp (Nat.pos_of_ne_zero hcount) with ⟨r, hr, hcurrent⟩
  rw [decide_eq_true_eq] at hcurrent
  rcases List.mem_append.mp hr with hold | hnew
  · exact ⟨r, hold, hcurrent⟩
  · rw [List.mem_singleton.mp hnew] at hcurrent
    exact absurd hcurrent.1 hne

theorem Inv.fresh_hash (h : Inv s) {tokenHash : digest} (hnew : tokenHash ∉ s.drawn) :
    (forall d, d ∈ s.creations -> d.tokenHash ≠ tokenHash) ∧
      forall other q, s.calls other = some q -> issuingHash q ≠ some tokenHash := by
  constructor
  · rintro d hd rfl
    exact hnew (h.minted.created d hd).2.2.1
  · intro other q hq heq
    have hok := h.minted.callsOk other q hq
    cases q with
    | issuing userId hash expiresAt =>
        rw [<- Option.some.inj heq] at hnew
        exact hnew hok.1
    | finding _ => cases heq
    | reusing _ _ => cases heq
    | exchanging _ => cases heq
    | revoking _ _ => cases heq
    | revokingAll _ _ => cases heq
    | cleaning _ => cases heq

theorem Inv.exchange (h : Inv s) {row : TokenRow digest} {hashForNew : digest}
    (hcall : s.calls call = some (.exchanging row)) (hdrawn : hashForNew ∈ s.drawn)
    (hfree : forall d, d ∈ s.creations -> d.tokenHash ≠ hashForNew)
    (halone : forall other q, s.calls other = some q -> issuingHash q ≠ some hashForNew) :
    Inv (s.exchange call row hashForNew) := by
  have hmade : Made s.creations row.id row.tokenHash := h.minted.callsOk call _ hcall
  have hlt : row.id < s.nextId := h.minted.made_lt hmade
  have hcreated := h.create row.userId (s.now + refreshTtlMs) hcall
    (fun _ _ heq => by cases heq) hdrawn hfree (fun other q _ => halone other q)
  unfold TokenStore.exchange
  dsimp only
  split_ifs with hcount
  · exact h.fail hcall (fun _ _ heq => by cases heq) .unauthorized
  · rcases exists_current (Nat.ne_of_gt hlt) hcount with ⟨valid, hvalid, hid, hnone⟩
    constructor
    · exact hcreated.minted
    · apply hcreated.chain.exchange
        (r := { tokenHash := row.tokenHash, oldId := row.id, newId := s.nextId })
      · exact hmade.append _
      · exact ⟨valid, List.mem_append_left _ hvalid, hid, hnone⟩
      · exact Nat.lt_succ_self s.nextId
      · exact fun r hr => Nat.ne_of_lt (h.chain.newIds_lt r hr)
      · exact keeps_map _ (fun _ => rfl) (fun _ => rfl) (fun _ => rfl)
      · apply spent_map (fun _ => rfl)
        intro r _ hrid hrnone
        rw [decide_eq_true_eq]
        exact ⟨hrid, hrnone⟩
      · intro r hr
        rcases List.mem_map.mp hr with ⟨old, hold, rfl⟩
        split_ifs with hcurrent
        · rw [decide_eq_true_eq] at hcurrent
          exact Or.inr ⟨hcurrent.1, rfl⟩
        · exact Or.inl ⟨old, hold, rfl, rfl⟩
    · exact hcreated.reads

variable [DecidableEq digest]

theorem keeps_revokeHash (s : TokenStore digest) (tokenHash : digest) (revokedAt : Int) :
    Keeps s.rows (s.revokeHash tokenHash revokedAt).rows :=
  keeps_map _ (fun _ => rfl) (fun _ => rfl) (fun _ => rfl)

theorem Inv.revokeHash (h : Inv s) (tokenHash : digest) (revokedAt : Int) :
    Inv (s.revokeHash tokenHash revokedAt) :=
  h.withRows (keeps_revokeHash s tokenHash revokedAt)
    (sameSuccessors_map _ (fun _ => rfl) (fun _ => rfl))

/-- `rotate` has read the row under the presented hash, or none. -/
theorem Inv.afterFind (h : Inv s) {tokenHash : digest}
    (hcall : s.calls call = some (.finding tokenHash)) : Inv (s.afterFind call tokenHash) := by
  have hfail : Inv (s.fail call .unauthorized) :=
    h.fail hcall (fun _ _ heq => by cases heq) .unauthorized
  have hput : forall (c' : TokenCall digest) (other userId : Nat) (revokedAt : Int),
      s.calls other = some (.reusing userId revokedAt) ->
      s.calls.put call c' other = some (.reusing userId revokedAt) :=
    reusing_put hcall (fun _ _ heq => by cases heq)
  unfold TokenStore.afterFind
  split
  · exact hfail
  · next row hfind =>
      split_ifs
      · constructor
        · exact h.minted.advance hcall trivial rfl
        · exact h.chain
        · intro read hread
          rcases List.mem_append.mp hread with hold | hnew
          · rcases h.reads read hold with ⟨revokedAt, hat⟩ | hdone
            · exact Or.inl ⟨revokedAt, hput _ _ _ _ hat⟩
            · exact Or.inr hdone
          · rw [List.mem_singleton.mp hnew]
            exact Or.inl ⟨s.now, InFlight.put_self _ _ _⟩
      · exact hfail
      · constructor
        · exact h.minted.advance hcall (h.chain.rowsMade row (List.mem_of_find?_eq_some hfind)) rfl
        · exact h.chain
        · rw [<- List.append_nil (s.advance call (.exchanging row)).failures]
          exact h.reads.quiet (hput _) []

theorem Inv.settle (h : Inv s) (call : Nat) : Inv (s.settle call) := by
  unfold TokenStore.settle
  split
  · next userId tokenHash expiresAt hcall =>
      rcases h.minted.callsOk call _ hcall with ⟨hdrawn, hfree⟩
      apply h.create userId expiresAt hcall (fun _ _ heq => by cases heq) hdrawn hfree
      intro other q hne hq heq
      apply hne
      exact h.minted.issuing other tokenHash call tokenHash
        ((InFlight.view_eq hq).trans heq) (InFlight.view_eq hcall) rfl
  · next tokenHash hcall =>
      exact h.afterFind hcall
  · next userId revokedAt hcall =>
      exact h.reuse hcall
  · next tokenHash revokedAt hcall =>
      exact (h.revokeHash tokenHash revokedAt).finish hcall (fun _ _ heq => by cases heq)
  · next userId revokedAt hcall =>
      exact (h.revokeUser userId revokedAt).finish hcall (fun _ _ heq => by cases heq)
  · next cutoff hcall =>
      exact (h.withRows (keeps_filter _) (sameSuccessors_filter _)).finish hcall
        (fun _ _ heq => by cases heq)
  · exact h
  · exact h

theorem tokenStep_inv (hash : token -> digest) (h : Inv s) (op : TokenOp token) :
    Inv (tokenStep hash s op) := by
  have hquiet : forall c : TokenCall digest, CallOk s.drawn s.creations c ->
      issuingHash c = none -> Inv (s.start c) := by
    intro c hok hnone
    apply h.start hok
    intro other q _
    cases hq : issuingHash q with
    | none => exact Or.inl rfl
    | some tokenHash =>
        rw [hnone]
        exact Or.inr (fun heq => by cases heq)
  cases op with
  | clock now => exact ⟨h.minted, h.chain, h.reads⟩
  | issue userId token =>
      simp only [tokenStep]
      split_ifs with hdrawn
      · exact h
      · rcases h.fresh_hash hdrawn with ⟨hfree, halone⟩
        apply (h.draw (hash token)).start
        · exact ⟨List.mem_append_right _ List.mem_cons_self, hfree⟩
        · exact fun other q hq => Or.inr (halone other q hq)
  | rotate presentedToken => exact hquiet _ trivial rfl
  | revoke presentedToken => exact hquiet _ trivial rfl
  | revokeAllForUser userId => exact hquiet _ trivial rfl
  | cleanupExpired => exact hquiet _ trivial rfl
  | settle call => exact h.settle call
  | transaction call tokenForNew =>
      simp only [tokenStep]
      split
      · next row hcall =>
          split_ifs with hdrawn
          · exact h
          · rcases h.fresh_hash hdrawn with ⟨hfree, halone⟩
            exact (h.draw (hash tokenForNew)).exchange hcall
              (List.mem_append_right _ List.mem_cons_self) hfree halone
      · exact h
  | databaseFails call =>
      simp only [tokenStep]
      split
      · next c hcall => exact h.databaseFails hcall
      · exact h

end Invariant

/-!
# What every interleaving keeps
-/

section Safety

variable {token digest : Type} {s : TokenStore digest}

def Valid (s : TokenStore digest) (tokenHash : digest) : Prop :=
  exists row, row ∈ s.rows ∧ row.tokenHash = tokenHash ∧ row.revokedAt = none ∧
    ¬ row.expiresAt < s.now

variable [DecidableEq digest]

theorem Inv.run (hash : token -> digest) (h : Inv s) (ops : List (TokenOp token)) :
    Inv (runFrom (tokenStep hash) s ops) :=
  runFrom_inv Inv (fun _ op hs => tokenStep_inv hash hs op) h ops

/-- Two rotates that have read the same valid row: the second transaction is rolled
back. -/
example :
    let s := runFrom (tokenStep (id : Nat -> Nat)) (TokenStore.empty Nat 0)
      [.issue 1 10, .settle 0, .rotate 10, .rotate 10, .settle 1, .settle 2,
        .transaction 1 11, .transaction 2 12]
    s.rotations.map Rotation.newId = [1] ∧ s.failures = [(2, .unauthorized)] := by
  decide

end Safety

end RefreshTokens
end Auth
end Shamarx
