import Shamarx.Auth.RefreshTokens
import Mathlib.Data.List.Nodup

/-!
# What the record of the tokens says

The facts about rows, hashes, rotations and answers to reuse that every
interleaving keeps, each with the effect on it of the few things a step can do.
-/

namespace Shamarx
namespace Auth
namespace RefreshTokens

open Foundation

/-!
# Rows that are spent
-/

section Rows

variable {digest : Type} {rows before after : List (TokenRow digest)} {i : Nat}

def Spent (rows : List (TokenRow digest)) (i : Nat) : Prop :=
  forall row, row ∈ rows -> row.id = i -> row.revokedAt.isSome

structure Keeps (before after : List (TokenRow digest)) : Prop where
  comes : forall row, row ∈ after -> exists old, old ∈ before ∧ old.id = row.id ∧
    old.tokenHash = row.tokenHash ∧ (old.revokedAt.isSome -> row.revokedAt.isSome)
  ids : (after.map TokenRow.id).Sublist (before.map TokenRow.id)

def SameSuccessors (before after : List (TokenRow digest)) : Prop :=
  forall row, row ∈ after -> exists old, old ∈ before ∧ old.id = row.id ∧
    old.replacedById = row.replacedById

theorem Spent.keeps (h : Spent before i) (hkeeps : Keeps before after) : Spent after i := by
  intro row hrow hid
  rcases hkeeps.comes row hrow with ⟨old, hold, hsame, -, hrevoked⟩
  exact hrevoked (h old hold (hsame.trans hid))

theorem Spent.append (h : Spent rows i) {row : TokenRow digest} (hne : row.id ≠ i) :
    Spent (rows ++ [row]) i := by
  intro other hother hid
  rcases List.mem_append.mp hother with hold | hnew
  · exact h other hold hid
  · rw [List.mem_singleton.mp hnew] at hid
    exact absurd hid hne

theorem Keeps.refl (rows : List (TokenRow digest)) : Keeps rows rows where
  comes := fun row hrow => ⟨row, hrow, rfl, rfl, id⟩
  ids := List.Sublist.refl _

theorem keeps_map (wanted : TokenRow digest -> Bool) {data : TokenRow digest -> TokenRow digest}
    (hid : forall row, (data row).id = row.id)
    (hhash : forall row, (data row).tokenHash = row.tokenHash)
    (hrevokes : forall row, (data row).revokedAt.isSome) :
    Keeps rows (rows.map fun row => if wanted row then data row else row) where
  comes := by
    intro row hrow
    rcases List.mem_map.mp hrow with ⟨old, hold, rfl⟩
    exists old
    cases wanted old with
    | true => exact ⟨hold, (hid old).symm, (hhash old).symm, fun _ => hrevokes old⟩
    | false => exact ⟨hold, rfl, rfl, id⟩
  ids := by
    have hsame : (rows.map fun row => if wanted row then data row else row).map TokenRow.id =
        rows.map TokenRow.id := by
      rw [List.map_map]
      apply List.map_congr_left
      intro row _
      rw [Function.comp_apply]
      split_ifs
      · exact hid row
      · rfl
    rw [hsame]

theorem sameSuccessors_map (wanted : TokenRow digest -> Bool)
    {data : TokenRow digest -> TokenRow digest} (hid : forall row, (data row).id = row.id)
    (hsame : forall row, (data row).replacedById = row.replacedById) :
    SameSuccessors rows (rows.map fun row => if wanted row then data row else row) := by
  intro row hrow
  rcases List.mem_map.mp hrow with ⟨old, hold, rfl⟩
  exists old
  cases wanted old with
  | true => exact ⟨hold, (hid old).symm, (hsame old).symm⟩
  | false => exact ⟨hold, rfl, rfl⟩

theorem keeps_filter (p : TokenRow digest -> Bool) : Keeps rows (rows.filter p) where
  comes := fun row hrow => ⟨row, List.mem_of_mem_filter hrow, rfl, rfl, id⟩
  ids := List.filter_sublist.map TokenRow.id

theorem sameSuccessors_filter (p : TokenRow digest -> Bool) :
    SameSuccessors rows (rows.filter p) := by
  intro row hrow
  exact ⟨row, List.mem_of_mem_filter hrow, rfl, rfl⟩

theorem spent_map {wanted : TokenRow digest -> Bool} {data : TokenRow digest -> TokenRow digest}
    (hrevokes : forall row, (data row).revokedAt.isSome)
    (hwanted : forall row, row ∈ rows -> row.id = i -> row.revokedAt = none ->
      wanted row = true) :
    Spent (rows.map fun row => if wanted row then data row else row) i := by
  intro row hrow heq
  rcases List.mem_map.mp hrow with ⟨old, hold, rfl⟩
  cases hw : wanted old with
  | true =>
      rw [if_pos rfl]
      exact hrevokes old
  | false =>
      rw [hw, if_neg Bool.false_ne_true] at heq
      rw [if_neg Bool.false_ne_true]
      cases hrevoked : old.revokedAt with
      | some at_ => rfl
      | none =>
          rw [hwanted old hold heq hrevoked] at hw
          cases hw

end Rows

/-!
# Hashes and ids are given once
-/

section Minted

variable {digest : Type}

def issuingHash : TokenCall digest -> Option digest
  | .issuing _ tokenHash _ => some tokenHash
  | _ => none

def Made (creations : List (Creation digest)) (i : Nat) (tokenHash : digest) : Prop :=
  exists c, c ∈ creations ∧ c.id = i ∧ c.tokenHash = tokenHash

def CallOk (drawn : List digest) (creations : List (Creation digest)) :
    TokenCall digest -> Prop
  | .issuing _ tokenHash _ =>
      tokenHash ∈ drawn ∧ forall c, c ∈ creations -> c.tokenHash ≠ tokenHash
  | .exchanging row => Made creations row.id row.tokenHash
  | _ => True

/-- Ids and hashes name one row each, and a call in flight has neither created a row
nor failed. -/
structure Minted (calls : InFlight (TokenCall digest)) (nextCall nextId : Nat)
    (drawn : List digest) (creations : List (Creation digest))
    (failures : List (Nat × Thrown)) : Prop where
  fresh : calls.Forall fun call _ => call < nextCall ∧
    (forall c, c ∈ creations -> c.call ≠ call) ∧ forall f, f ∈ failures -> f.1 ≠ call
  callsOk : calls.Forall fun _ c => CallOk drawn creations c
  issuing : InFlight.Distinct id (calls.view issuingHash)
  created : forall c, c ∈ creations -> c.call < nextCall ∧ c.id < nextId ∧
    c.tokenHash ∈ drawn ∧ forall f, f ∈ failures -> f.1 ≠ c.call
  failed : forall f, f ∈ failures -> f.1 < nextCall
  ids : (creations.map Creation.id).Nodup
  hashes : (creations.map Creation.tokenHash).Nodup

variable {calls : InFlight (TokenCall digest)} {nextCall nextId : Nat} {drawn : List digest}
  {creations : List (Creation digest)} {failures : List (Nat × Thrown)} {i j : Nat}
  {tokenHash : digest}

theorem Made.append (h : Made creations i tokenHash) (more : List (Creation digest)) :
    Made (creations ++ more) i tokenHash := by
  rcases h with ⟨c, hc, hid, hhash⟩
  exact ⟨c, List.mem_append_left _ hc, hid, hhash⟩

theorem Minted.made_lt (h : Minted calls nextCall nextId drawn creations failures)
    (hmade : Made creations i tokenHash) : i < nextId := by
  rcases hmade with ⟨c, hc, rfl, -⟩
  exact (h.created c hc).2.1

theorem CallOk.draw {c : TokenCall digest} (h : CallOk drawn creations c) (drew : digest) :
    CallOk (drawn ++ [drew]) creations c := by
  cases c with
  | issuing userId tokenHash expiresAt => exact ⟨List.mem_append_left _ h.1, h.2⟩
  | exchanging row => exact h
  | finding _ => trivial
  | reusing _ _ => trivial
  | revoking _ _ => trivial
  | revokingAll _ _ => trivial
  | cleaning _ => trivial

theorem CallOk.create {c : TokenCall digest} (h : CallOk drawn creations c)
    {creation : Creation digest} (hne : issuingHash c ≠ some creation.tokenHash) :
    CallOk drawn (creations ++ [creation]) c := by
  cases c with
  | issuing userId tokenHash expiresAt =>
      refine ⟨h.1, fun other hother => ?_⟩
      rcases List.mem_append.mp hother with hold | hnew
      · exact h.2 other hold
      · rw [List.mem_singleton.mp hnew]
        intro heq
        exact hne (congrArg some heq.symm)
  | exchanging row => exact Made.append h _
  | finding _ => trivial
  | reusing _ _ => trivial
  | revoking _ _ => trivial
  | revokingAll _ _ => trivial
  | cleaning _ => trivial

theorem Minted.draw (h : Minted calls nextCall nextId drawn creations failures)
    (drew : digest) : Minted calls nextCall nextId (drawn ++ [drew]) creations failures where
  fresh := h.fresh
  callsOk := h.callsOk.imp fun _ _ hc => hc.draw drew
  issuing := h.issuing
  created := by
    intro c hc
    rcases h.created c hc with ⟨hcall, hid, hdrawn, hfailed⟩
    exact ⟨hcall, hid, List.mem_append_left _ hdrawn, hfailed⟩
  failed := h.failed
  ids := h.ids
  hashes := h.hashes

theorem Minted.drop (h : Minted calls nextCall nextId drawn creations failures) (call : Nat) :
    Minted (calls.drop call) nextCall nextId drawn creations failures where
  fresh := h.fresh.drop call
  callsOk := h.callsOk.drop call
  issuing := by
    rw [InFlight.view_drop]
    exact h.issuing.drop call
  created := h.created
  failed := h.failed
  ids := h.ids
  hashes := h.hashes

theorem Minted.fail (h : Minted calls nextCall nextId drawn creations failures) {call : Nat}
    {c : TokenCall digest} (hcall : calls call = some c) (thrown : Thrown) :
    Minted (calls.drop call) nextCall nextId drawn creations
      (failures ++ [(call, thrown)]) where
  fresh := by
    intro other c' hc'
    rcases InFlight.drop_cases hc' with ⟨hne, hold⟩
    rcases h.fresh other c' hold with ⟨hlt, hcreated, hfailed⟩
    refine ⟨hlt, hcreated, fun f hf => ?_⟩
    rcases List.mem_append.mp hf with hf | hf
    · exact hfailed f hf
    · rw [List.mem_singleton.mp hf]
      exact hne.symm
  callsOk := h.callsOk.drop call
  issuing := (h.drop call).issuing
  created := by
    intro c' hc'
    rcases h.created c' hc' with ⟨hlt, hid, hdrawn, hfailed⟩
    refine ⟨hlt, hid, hdrawn, fun f hf => ?_⟩
    rcases List.mem_append.mp hf with hf | hf
    · exact hfailed f hf
    · rw [List.mem_singleton.mp hf]
      exact ((h.fresh call c hcall).2.1 c' hc').symm
  failed := by
    intro f hf
    rcases List.mem_append.mp hf with hf | hf
    · exact h.failed f hf
    · rw [List.mem_singleton.mp hf]
      exact (h.fresh call c hcall).1
  ids := h.ids
  hashes := h.hashes

theorem Minted.advance (h : Minted calls nextCall nextId drawn creations failures) {call : Nat}
    {c c' : TokenCall digest} (hcall : calls call = some c) (hok : CallOk drawn creations c')
    (hnone : issuingHash c' = none) :
    Minted (calls.put call c') nextCall nextId drawn creations failures where
  fresh := h.fresh.put (h.fresh call c hcall)
  callsOk := h.callsOk.put hok
  issuing := by
    rw [InFlight.view_put_none hnone]
    exact h.issuing.drop call
  created := h.created
  failed := h.failed
  ids := h.ids
  hashes := h.hashes

theorem Minted.start (h : Minted calls nextCall nextId drawn creations failures)
    {c : TokenCall digest} (hok : CallOk drawn creations c)
    (hnew : forall other q, calls other = some q -> issuingHash q = none ∨
      issuingHash q ≠ issuingHash c) :
    Minted (calls.put nextCall c) (nextCall + 1) nextId drawn creations failures where
  fresh := by
    apply InFlight.Forall.put
    · exact h.fresh.imp fun _ _ hc => ⟨Nat.lt_succ_of_lt hc.1, hc.2⟩
    · exact ⟨Nat.lt_succ_self _, fun d hd => Nat.ne_of_lt (h.created d hd).1,
        fun f hf => Nat.ne_of_lt (h.failed f hf)⟩
  callsOk := h.callsOk.put hok
  issuing := by
    cases hissues : issuingHash c with
    | none =>
        rw [InFlight.view_put_none hissues]
        exact h.issuing.drop nextCall
    | some tokenHash =>
        rw [InFlight.view_put hissues]
        apply h.issuing.put
        intro other q _ hq heq
        rcases Option.bind_eq_some_iff.mp hq with ⟨p, hp, hpq⟩
        rcases hnew other p hp with hnone | hne
        · rw [hnone] at hpq
          cases hpq
        · exact hne (hpq.trans ((congrArg some heq).trans hissues.symm))
  created := by
    intro d hd
    rcases h.created d hd with ⟨hlt, hrest⟩
    exact ⟨Nat.lt_succ_of_lt hlt, hrest⟩
  failed := fun f hf => Nat.lt_succ_of_lt (h.failed f hf)
  ids := h.ids
  hashes := h.hashes

theorem nodup_map_append {key : row -> index} {rows : List row} {new : row}
    (h : (rows.map key).Nodup) (hne : forall old, old ∈ rows -> key old ≠ key new) :
    ((rows ++ [new]).map key).Nodup := by
  rw [List.map_append, List.map_singleton]
  refine List.Nodup.append h (List.nodup_singleton _) ?_
  intro k hk hnew
  rcases List.mem_map.mp hk with ⟨old, hold, rfl⟩
  exact hne old hold (List.mem_singleton.mp hnew)

theorem Minted.create (h : Minted calls nextCall nextId drawn creations failures) {call : Nat}
    {c : TokenCall digest} (hcall : calls call = some c) (hdrawn : tokenHash ∈ drawn)
    (hfree : forall d, d ∈ creations -> d.tokenHash ≠ tokenHash)
    (halone : forall other q, other ≠ call -> calls other = some q ->
      issuingHash q ≠ some tokenHash) :
    Minted (calls.drop call) nextCall (nextId + 1) drawn
      (creations ++ [{ call := call, id := nextId, tokenHash := tokenHash }]) failures where
  fresh := by
    intro other q hq
    rcases InFlight.drop_cases hq with ⟨hne, hold⟩
    rcases h.fresh other q hold with ⟨hlt, hcreated, hfailed⟩
    refine ⟨hlt, fun d hd => ?_, hfailed⟩
    rcases List.mem_append.mp hd with hd | hd
    · exact hcreated d hd
    · rw [List.mem_singleton.mp hd]
      exact hne.symm
  callsOk := by
    intro other q hq
    rcases InFlight.drop_cases hq with ⟨hne, hold⟩
    exact (h.callsOk other q hold).create (halone other q hne hold)
  issuing := (h.drop call).issuing
  created := by
    intro d hd
    rcases List.mem_append.mp hd with hd | hd
    · rcases h.created d hd with ⟨hlt, hid, hrest⟩
      exact ⟨hlt, Nat.lt_succ_of_lt hid, hrest⟩
    · rw [List.mem_singleton.mp hd]
      rcases h.fresh call c hcall with ⟨hlt, -, hfailed⟩
      exact ⟨hlt, Nat.lt_succ_self nextId, hdrawn, hfailed⟩
  failed := h.failed
  ids := nodup_map_append h.ids fun d hd => Nat.ne_of_lt (h.created d hd).2.1
  hashes := nodup_map_append h.hashes hfree

end Minted

/-!
# Successors and predecessors
-/

section Chain

variable {digest : Type}

/-- Each rotation has spent its row, and the successors in the table are those of the
rotations. -/
structure Chain (rows : List (TokenRow digest)) (creations : List (Creation digest))
    (rotations : List (Rotation digest)) (nextId : Nat) (reuses : List Reuse) : Prop where
  rowIds : (rows.map TokenRow.id).Nodup
  rowsMade : forall row, row ∈ rows -> Made creations row.id row.tokenHash
  rotatedMade : forall r, r ∈ rotations -> Made creations r.oldId r.tokenHash
  rotatedSpent : forall r, r ∈ rotations -> Spent rows r.oldId
  newIds_lt : forall r, r ∈ rotations -> r.newId < nextId
  oldIds : (rotations.map Rotation.oldId).Nodup
  newIds : (rotations.map Rotation.newId).Nodup
  successors : forall row, row ∈ rows -> forall n, row.replacedById = some n ->
    exists r, r ∈ rotations ∧ r.oldId = row.id ∧ r.newId = n
  existed_lt : forall u, u ∈ reuses -> forall i, i ∈ u.existed -> i < nextId
  existedSpent : forall u, u ∈ reuses -> forall i, i ∈ u.existed -> Spent rows i

variable {rows rows' : List (TokenRow digest)} {creations : List (Creation digest)}
  {rotations : List (Rotation digest)} {nextId : Nat} {reuses : List Reuse}

theorem Chain.keeps (h : Chain rows creations rotations nextId reuses)
    (hkeeps : Keeps rows rows') (hsame : SameSuccessors rows rows') :
    Chain rows' creations rotations nextId reuses where
  rowIds := h.rowIds.sublist hkeeps.ids
  rowsMade := by
    intro row hrow
    rcases hkeeps.comes row hrow with ⟨old, hold, hid, hhash, -⟩
    rw [<- hid, <- hhash]
    exact h.rowsMade old hold
  rotatedMade := h.rotatedMade
  rotatedSpent := fun r hr => (h.rotatedSpent r hr).keeps hkeeps
  newIds_lt := h.newIds_lt
  oldIds := h.oldIds
  newIds := h.newIds
  successors := by
    intro row hrow n hn
    rcases hsame row hrow with ⟨old, hold, hid, hreplaced⟩
    rw [<- hid]
    exact h.successors old hold n (hreplaced.trans hn)
  existed_lt := h.existed_lt
  existedSpent := fun u hu i hi => (h.existedSpent u hu i hi).keeps hkeeps

theorem Chain.reuse (h : Chain rows creations rotations nextId reuses) {u : Reuse}
    (hlt : forall i, i ∈ u.existed -> i < nextId)
    (hspent : forall i, i ∈ u.existed -> Spent rows i) :
    Chain rows creations rotations nextId (reuses ++ [u]) where
  rowIds := h.rowIds
  rowsMade := h.rowsMade
  rotatedMade := h.rotatedMade
  rotatedSpent := h.rotatedSpent
  newIds_lt := h.newIds_lt
  oldIds := h.oldIds
  newIds := h.newIds
  successors := h.successors
  existed_lt := by
    intro v hv
    rcases List.mem_append.mp hv with hv | hv
    · exact h.existed_lt v hv
    · rw [List.mem_singleton.mp hv]
      exact hlt
  existedSpent := by
    intro v hv
    rcases List.mem_append.mp hv with hv | hv
    · exact h.existedSpent v hv
    · rw [List.mem_singleton.mp hv]
      exact hspent

theorem Chain.create (h : Chain rows creations rotations nextId reuses)
    (hmade : forall c, c ∈ creations -> c.id < nextId)
    {row : TokenRow digest} (hid : row.id = nextId) (hreplaced : row.replacedById = none)
    {creation : Creation digest} (hcid : creation.id = row.id)
    (hchash : creation.tokenHash = row.tokenHash) :
    Chain (rows ++ [row]) (creations ++ [creation]) rotations (nextId + 1) reuses where
  rowIds := by
    apply nodup_map_append h.rowIds
    intro old hold
    rcases h.rowsMade old hold with ⟨c, hc, hcid, -⟩
    rw [hid, <- hcid]
    exact Nat.ne_of_lt (hmade c hc)
  rowsMade := by
    intro other hother
    rcases List.mem_append.mp hother with hold | hnew
    · exact (h.rowsMade other hold).append _
    · rw [List.mem_singleton.mp hnew]
      exact ⟨creation, List.mem_append_right _ List.mem_cons_self, hcid, hchash⟩
  rotatedMade := fun r hr => (h.rotatedMade r hr).append _
  rotatedSpent := by
    intro r hr
    rcases h.rotatedMade r hr with ⟨c, hc, hcid, -⟩
    apply (h.rotatedSpent r hr).append
    rw [hid, <- hcid]
    exact Nat.ne_of_gt (hmade c hc)
  newIds_lt := fun r hr => Nat.lt_succ_of_lt (h.newIds_lt r hr)
  oldIds := h.oldIds
  newIds := h.newIds
  successors := by
    intro other hother n hn
    rcases List.mem_append.mp hother with hold | hnew
    · exact h.successors other hold n hn
    · rw [List.mem_singleton.mp hnew, hreplaced] at hn
      cases hn
  existed_lt := fun u hu i hi => Nat.lt_succ_of_lt (h.existed_lt u hu i hi)
  existedSpent := by
    intro u hu i hi
    apply (h.existedSpent u hu i hi).append
    rw [hid]
    exact Nat.ne_of_gt (h.existed_lt u hu i hi)

theorem Chain.exchange (h : Chain rows creations rotations nextId reuses)
    {r : Rotation digest} (hmade : Made creations r.oldId r.tokenHash)
    (hvalid : exists row, row ∈ rows ∧ row.id = r.oldId ∧ row.revokedAt = none)
    (hnew : r.newId < nextId) (hfree : forall r', r' ∈ rotations -> r'.newId ≠ r.newId)
    (hkeeps : Keeps rows rows') (hspent : Spent rows' r.oldId)
    (hsame : forall row, row ∈ rows' -> (exists old, old ∈ rows ∧ old.id = row.id ∧
      old.replacedById = row.replacedById) ∨
      row.id = r.oldId ∧ row.replacedById = some r.newId) :
    Chain rows' creations (rotations ++ [r]) nextId reuses where
  rowIds := h.rowIds.sublist hkeeps.ids
  rowsMade := by
    intro row hrow
    rcases hkeeps.comes row hrow with ⟨old, hold, hid, hhash, -⟩
    rw [<- hid, <- hhash]
    exact h.rowsMade old hold
  rotatedMade := by
    intro r' hr'
    rcases List.mem_append.mp hr' with hr' | hr'
    · exact h.rotatedMade r' hr'
    · rw [List.mem_singleton.mp hr']
      exact hmade
  rotatedSpent := by
    intro r' hr'
    rcases List.mem_append.mp hr' with hr' | hr'
    · exact (h.rotatedSpent r' hr').keeps hkeeps
    · rw [List.mem_singleton.mp hr']
      exact hspent
  newIds_lt := by
    intro r' hr'
    rcases List.mem_append.mp hr' with hr' | hr'
    · exact h.newIds_lt r' hr'
    · rw [List.mem_singleton.mp hr']
      exact hnew
  oldIds := by
    apply nodup_map_append h.oldIds
    intro r' hr' heq
    rcases hvalid with ⟨row, hrow, hid, hnone⟩
    have hsome := h.rotatedSpent r' hr' row hrow (hid.trans heq.symm)
    rw [hnone] at hsome
    cases hsome
  newIds := nodup_map_append h.newIds hfree
  successors := by
    intro row hrow n hn
    rcases hsame row hrow with ⟨old, hold, hid, hreplaced⟩ | ⟨hid, hreplaced⟩
    · rw [<- hid]
      rcases h.successors old hold n (hreplaced.trans hn) with ⟨r', hr', hends⟩
      exact ⟨r', List.mem_append_left _ hr', hends⟩
    · exact ⟨r, List.mem_append_right _ List.mem_cons_self, hid.symm,
        Option.some.inj (hreplaced.symm.trans hn)⟩
  existed_lt := h.existed_lt
  existedSpent := fun u hu i hi => (h.existedSpent u hu i hi).keeps hkeeps

end Chain

/-!
# Answers to reuse
-/

section Reads

variable {digest : Type}

/-- Each rotate that has read a revoked row is at its `revokeAllForUser` call, has
failed there, or has revoked the rows of the user. -/
def Reads (calls : InFlight (TokenCall digest)) (reuseReads : List (Nat × Nat))
    (reuses : List Reuse) (failures : List (Nat × Thrown)) : Prop :=
  forall read, read ∈ reuseReads ->
    (exists revokedAt, calls read.1 = some (.reusing read.2 revokedAt)) ∨
    (read.1, .database) ∈ failures ∨
    exists u, u ∈ reuses ∧ u.call = read.1 ∧ u.userId = read.2

variable {calls calls' : InFlight (TokenCall digest)} {reuseReads : List (Nat × Nat)}
  {reuses : List Reuse} {failures : List (Nat × Thrown)}

theorem Reads.quiet (h : Reads calls reuseReads reuses failures)
    (hcalls : forall call userId revokedAt, calls call = some (.reusing userId revokedAt) ->
      calls' call = some (.reusing userId revokedAt)) (more : List (Nat × Thrown)) :
    Reads calls' reuseReads reuses (failures ++ more) := by
  intro read hread
  rcases h read hread with ⟨revokedAt, hcall⟩ | hfailed | hreuse
  · exact Or.inl ⟨revokedAt, hcalls _ _ _ hcall⟩
  · exact Or.inr (Or.inl (List.mem_append_left _ hfailed))
  · exact Or.inr (Or.inr hreuse)

end Reads

end RefreshTokens
end Auth
end Shamarx
