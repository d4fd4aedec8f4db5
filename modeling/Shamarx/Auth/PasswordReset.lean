import Shamarx.Foundation.Runs
import Shamarx.Foundation.SingleUse

/-!
# Password reset links

`resetPassword` checks the row of its token, hashes the new password, and only then
writes the password and marks the row used, in one transaction that does not look at the
row again.
-/

namespace Shamarx
namespace Auth
namespace PasswordReset

open Foundation

/-!
# The tables and the calls
-/

def resetTokenTtlMs : Int :=
  60 * 60 * 1000

structure ResetRow (token : Type) where
  id : Nat
  userId : Nat
  token : token
  isUsed : Bool
  expiresAt : Int

structure UserRow where
  id : Nat
  passwordHash : String

inductive ResetCall (token : Type) where
  | finding (token : token) (newPassword : String)
  | hashing (row : ResetRow token) (newPassword : String)
  | writing (row : ResetRow token) (passwordHash : String)

inductive ResetError where
  | invalid
  | used
  | expired
  | rejected
  deriving DecidableEq

def ResetError.message : ResetError -> Option String
  | .invalid => some "Invalid or expired reset link"
  | .used => some "This reset link has already been used"
  | .expired => some "This reset link has expired"
  | .rejected => none

structure ResetStore (token : Type) where
  now : Int
  users : List UserRow
  rows : List (ResetRow token)
  nextId : Nat
  nextCall : Nat
  calls : InFlight (ResetCall token)
  changes : List token
  failures : List (Nat × ResetError)

def ResetStore.opened (token : Type) (users : List UserRow) (now : Int) : ResetStore token :=
  { now := now
    users := users
    rows := []
    nextId := 0
    nextCall := 0
    calls := InFlight.empty
    changes := []
    failures := [] }

/-- `issue` is the insert of a requested reset; the others are `resetPassword` and what
ends its awaits. -/
inductive ResetOp (token : Type) where
  | clock (now : Int)
  | issue (userId : Nat) (token : token)
  | resetPassword (token : token) (newPassword : String)
  | settle (call : Nat)
  | passwordHashed (call : Nat) (passwordHash : String)
  | rejects (call : Nat)

namespace ResetStore

variable {token : Type}

def start (s : ResetStore token) (c : ResetCall token) : ResetStore token :=
  { s with calls := s.calls.put s.nextCall c, nextCall := s.nextCall + 1 }

def advance (s : ResetStore token) (call : Nat) (c : ResetCall token) : ResetStore token :=
  { s with calls := s.calls.put call c }

def fail (s : ResetStore token) (call : Nat) (error : ResetError) : ResetStore token :=
  { s with
    calls := s.calls.drop call
    failures := s.failures ++ [(call, error)] }

/-- The transaction of `resetPassword`: both updates are by id, and a missing row rolls
it back. -/
def write (s : ResetStore token) (call : Nat) (row : ResetRow token) (passwordHash : String) :
    ResetStore token :=
  if (s.users.any fun user => user.id = row.userId) ∧ s.rows.any fun r => r.id = row.id then
    { s with
      calls := s.calls.drop call
      users := s.users.map fun user =>
        if user.id = row.userId then { user with passwordHash := passwordHash } else user
      rows := s.rows.map fun r => if r.id = row.id then { r with isUsed := true } else r
      changes := s.changes ++ [row.token] }
  else s.fail call .rejected

variable [DecidableEq token]

/-- `passwordResetToken.create`: the token is unique. -/
def issue (s : ResetStore token) (userId : Nat) (drawn : token) : ResetStore token :=
  if s.rows.any fun row => row.token = drawn then s
  else
    { s with
      rows := s.rows ++
        [{ id := s.nextId
           userId := userId
           token := drawn
           isUsed := false
           expiresAt := s.now + resetTokenTtlMs }]
      nextId := s.nextId + 1 }

def check (s : ResetStore token) (presented : token) : Except ResetError (ResetRow token) :=
  match s.rows.find? fun row => row.token = presented with
  | none => .error .invalid
  | some row =>
      if row.isUsed then .error .used
      else if row.expiresAt < s.now then .error .expired
      else .ok row

def settle (s : ResetStore token) (call : Nat) : ResetStore token :=
  match s.calls call with
  | some (.finding presented newPassword) =>
      match s.check presented with
      | .error error => s.fail call error
      | .ok row => s.advance call (.hashing row newPassword)
  | some (.writing row passwordHash) => s.write call row passwordHash
  | _ => s

end ResetStore

section Steps

variable {token : Type} [DecidableEq token]

def resetStep (s : ResetStore token) : ResetOp token -> ResetStore token
  | .clock now => { s with now := now }
  | .issue userId drawn => s.issue userId drawn
  | .resetPassword presented newPassword => s.start (.finding presented newPassword)
  | .settle call => s.settle call
  | .passwordHashed call passwordHash =>
      match s.calls call with
      | some (.hashing row _) => s.advance call (.writing row passwordHash)
      | _ => s
  | .rejects call =>
      match s.calls call with
      | some _ => s.fail call .rejected
      | none => s

end Steps

/-!
# The token of a reset
-/

namespace ResetStore

variable {token : Type} {s : ResetStore token} {call : Nat}

def rowOf : ResetCall token -> Option (ResetRow token)
  | .finding _ _ => none
  | .hashing row _ => some row
  | .writing row _ => some row

def holds (c : ResetCall token) : Option token :=
  (rowOf c).map ResetRow.token

def Live (rows : List (ResetRow token)) (k : token) : Prop :=
  exists row, row ∈ rows ∧ row.token = k ∧ row.isUsed = false

structure Inv (s : ResetStore token) : Prop where
  tokens : (s.rows.map ResetRow.token).Nodup
  known : s.calls.Forall fun _ c => forall row, rowOf c = some row ->
    exists r, r ∈ s.rows ∧ r.id = row.id ∧ r.token = row.token
  fresh : s.calls.Forall fun call _ => call < s.nextCall
  recorded : forall k, k ∈ s.changes -> k ∈ s.rows.map ResetRow.token
  single : SingleUse (Live s.rows) (s.calls.view holds) InFlight.empty s.changes

theorem inv_opened (users : List UserRow) (now : Int) : (opened token users now).Inv where
  tokens := List.nodup_nil
  known := InFlight.forall_empty _
  fresh := InFlight.forall_empty _
  recorded := fun _ hk => absurd hk List.not_mem_nil
  single := SingleUse.start _

theorem Inv.start (h : s.Inv) (presented : token) (newPassword : String) :
    (s.start (.finding presented newPassword)).Inv := by
  have hnone : s.calls s.nextCall = none := by
    cases hcall : s.calls s.nextCall with
    | none => rfl
    | some c => exact absurd (h.fresh _ c hcall) (Nat.lt_irrefl _)
  constructor
  case tokens => exact h.tokens
  case known =>
    apply h.known.put
    intro row hrow
    cases hrow
  case fresh =>
    apply InFlight.Forall.put
    · exact h.fresh.imp fun _ _ hlt => Nat.lt_succ_of_lt hlt
    · exact Nat.lt_succ_self s.nextCall
  case recorded => exact h.recorded
  case single =>
    have hview : (s.calls.put s.nextCall (.finding presented newPassword)).view holds =
        s.calls.view holds := by
      apply InFlight.view_put_same
      rw [InFlight.view_absent hnone]
      rfl
    rw [ResetStore.start, hview]
    exact h.single

theorem Inv.fail (h : s.Inv) (call : Nat) (error : ResetError) : (s.fail call error).Inv where
  tokens := h.tokens
  known := h.known.drop call
  fresh := h.fresh.drop call
  recorded := h.recorded
  single := by
    rw [ResetStore.fail, InFlight.view_drop]
    exact h.single.release call

def HeldByNone (s : ResetStore token) (presented : token) : Prop :=
  forall other, other < s.nextCall -> forall k, k ∈ (s.calls other).bind holds -> k ≠ presented

theorem Inv.checked (h : s.Inv) {row : ResetRow token} {newPassword : String}
    (hcall : s.calls call = some (.finding row.token newPassword)) (hrow : row ∈ s.rows)
    (hunused : row.isUsed = false) (hnone : s.HeldByNone row.token) :
    (s.advance call (.hashing row newPassword)).Inv where
  tokens := h.tokens
  known := by
    apply h.known.put
    intro held hheld
    cases hheld
    exact ⟨row, hrow, rfl, rfl⟩
  fresh := h.fresh.put (h.fresh call _ hcall)
  recorded := h.recorded
  single := by
    have hview : (s.calls.put call (.hashing row newPassword)).view holds =
        (s.calls.view holds).put call row.token := InFlight.view_put rfl
    rw [advance, hview]
    apply h.single.take
    · exact ⟨row, hrow, rfl, hunused⟩
    · intro other k hother
      rcases Option.bind_eq_some_iff.mp hother with ⟨c, hc, hk⟩
      exact hnone other (h.fresh other c hc) k hother
    · exact InFlight.forall_empty _

theorem Inv.hashed (h : s.Inv) {row : ResetRow token} {newPassword : String}
    (hcall : s.calls call = some (.hashing row newPassword)) (passwordHash : String) :
    (s.advance call (.writing row passwordHash)).Inv where
  tokens := h.tokens
  known := h.known.put (h.known call (.hashing row newPassword) hcall)
  fresh := h.fresh.put (h.fresh call _ hcall)
  recorded := h.recorded
  single := by
    have hview : (s.calls.put call (.writing row passwordHash)).view holds =
        s.calls.view holds := by
      apply InFlight.view_put_same
      rw [InFlight.view_eq hcall]
      rfl
    rw [advance, hview]
    exact h.single

theorem Inv.not_live_marked (h : s.Inv) {row r : ResetRow token} (hr : r ∈ s.rows)
    (hid : r.id = row.id) (htoken : r.token = row.token) :
    ¬ Live (s.rows.map fun r => if r.id = row.id then { r with isUsed := true } else r)
      row.token := by
  rintro ⟨marked, hmem, hsame, hunused⟩
  rcases List.mem_map.mp hmem with ⟨old, hold, rfl⟩
  have htokens : old.token = r.token := by
    rw [htoken, <- hsame]
    split_ifs <;> rfl
  rw [List.inj_on_of_nodup_map h.tokens hold hr htokens, if_pos hid] at hunused
  cases hunused

theorem live_of_marked {rows : List (ResetRow token)} {id : Nat} {k : token}
    (h : Live (rows.map fun r => if r.id = id then { r with isUsed := true } else r) k) :
    Live rows k := by
  rcases h with ⟨marked, hmem, hsame, hunused⟩
  rcases List.mem_map.mp hmem with ⟨old, hold, rfl⟩
  split_ifs at hsame hunused
  exact ⟨old, hold, hsame, hunused⟩

theorem marked_tokens (rows : List (ResetRow token)) (id : Nat) :
    (rows.map fun r => if r.id = id then { r with isUsed := true } else r).map ResetRow.token =
      rows.map ResetRow.token := by
  rw [List.map_map]
  apply List.map_congr_left
  intro r _
  rw [Function.comp_apply]
  split_ifs <;> rfl

theorem Inv.write (h : s.Inv) {row : ResetRow token} {passwordHash : String}
    (hcall : s.calls call = some (.writing row passwordHash)) :
    (s.write call row passwordHash).Inv := by
  rw [ResetStore.write]
  split_ifs
  · rcases h.known call _ hcall row rfl with ⟨r, hr, hid, htoken⟩
    constructor
    case tokens =>
      rw [marked_tokens]
      exact h.tokens
    case known =>
      intro other c hother held hheld
      rcases h.known other c (InFlight.drop_cases hother).2 held hheld with
        ⟨r, hr, hid, htoken⟩
      refine ⟨_, List.mem_map_of_mem hr, ?_⟩
      split_ifs
      · exact ⟨hid, htoken⟩
      · exact ⟨hid, htoken⟩
    case fresh => exact h.fresh.drop call
    case recorded =>
      intro k hk
      rw [marked_tokens]
      rcases List.mem_append.mp hk with hold | hnew
      · exact h.recorded k hold
      · rw [List.mem_singleton.mp hnew, <- htoken]
        exact List.mem_map_of_mem hr
    case single =>
      rw [InFlight.view_drop]
      apply h.single.useUp
      · rw [InFlight.view_eq hcall]
        rfl
      · exact fun _ _ hlive => live_of_marked hlive
      · exact h.not_live_marked hr hid htoken
  · exact h.fail call .rejected

variable [DecidableEq token]

theorem Inv.issue (h : s.Inv) (userId : Nat) (drawn : token) : (s.issue userId drawn).Inv := by
  rw [ResetStore.issue]
  split_ifs with htaken
  · exact h
  · have hnew : drawn ∉ s.rows.map ResetRow.token := by
      intro hmem
      rcases List.mem_map.mp hmem with ⟨row, hrow, hsame⟩
      exact htaken (List.any_eq_true.mpr ⟨row, hrow, decide_eq_true hsame⟩)
    constructor
    case tokens =>
      rw [List.map_append, List.map_singleton, <- List.concat_eq_append]
      exact h.tokens.concat hnew
    case known =>
      intro other c hother row hrow
      rcases h.known other c hother row hrow with ⟨r, hr, hsame⟩
      exact ⟨r, List.mem_append_left _ hr, hsame⟩
    case fresh => exact h.fresh
    case recorded =>
      intro k hk
      rw [List.map_append]
      exact List.mem_append_left _ (h.recorded k hk)
    case single =>
      apply h.single.renew
      rintro k hk ⟨row, hrow, hsame, hunused⟩
      rcases List.mem_append.mp hrow with hold | hadded
      · exact ⟨row, hold, hsame, hunused⟩
      · rw [List.mem_singleton.mp hadded] at hsame
        rw [<- hsame] at hk
        exact absurd (h.recorded drawn hk) hnew

/-!
# Resets that do not overlap
-/

def NoOverlap (s : ResetStore token) : ResetOp token -> Prop
  | .settle call =>
      match s.calls call with
      | some (.finding presented _) => (s.check presented).isOk = true -> s.HeldByNone presented
      | _ => True
  | _ => True

instance noOverlapDecidable (s : ResetStore token) (o : ResetOp token) :
    Decidable (s.NoOverlap o) := by
  unfold NoOverlap HeldByNone
  repeat' split
  all_goals infer_instance

theorem check_ok {presented : token} {row : ResetRow token}
    (h : s.check presented = .ok row) :
    row ∈ s.rows ∧ row.token = presented ∧ row.isUsed = false := by
  rw [check] at h
  split at h
  case h_1 => cases h
  case h_2 found hfind =>
    split_ifs at h with hused hexpired
    cases h
    have htoken := List.find?_some hfind
    exact ⟨List.mem_of_find?_eq_some hfind, of_decide_eq_true htoken,
      eq_false_of_ne_true hused⟩

theorem Inv.settle (h : s.Inv) (hquiet : s.NoOverlap (.settle call)) : (s.settle call).Inv := by
  rw [ResetStore.settle]
  split
  case h_1 presented newPassword hcall =>
    simp only [NoOverlap, hcall] at hquiet
    cases hcheck : s.check presented with
    | error error =>
        exact h.fail call error
    | ok row =>
        rw [hcheck] at hquiet
        rcases check_ok hcheck with ⟨hrow, rfl, hunused⟩
        exact h.checked hcall hrow hunused (hquiet rfl)
  case h_2 row passwordHash hcall =>
    exact h.write hcall
  case h_3 =>
    exact h

theorem Inv.step (h : s.Inv) {o : ResetOp token} (hquiet : s.NoOverlap o) :
    (resetStep s o).Inv := by
  cases o with
  | clock now =>
      exact ⟨h.tokens, h.known, h.fresh, h.recorded, h.single⟩
  | issue userId drawn =>
      exact h.issue userId drawn
  | resetPassword presented newPassword =>
      exact h.start presented newPassword
  | settle call =>
      exact h.settle hquiet
  | passwordHashed call passwordHash =>
      rw [resetStep]
      split
      case h_1 hcall => exact h.hashed hcall passwordHash
      case h_2 => exact h
  | rejects call =>
      rw [resetStep]
      split
      case h_1 => exact h.fail call .rejected
      case h_2 => exact h

theorem changes_nodup {users : List UserRow} {now : Int} {ops : List (ResetOp token)}
    (h : EveryStep resetStep NoOverlap (opened token users now) ops) :
    (runFrom resetStep (opened token users now) ops).changes.Nodup :=
  (h.run_inv Inv (fun _ _ hinv hquiet => hinv.step hquiet) (inv_opened users now)).single.once

end ResetStore
end PasswordReset
end Auth
end Shamarx
