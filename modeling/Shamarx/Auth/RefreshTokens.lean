import Shamarx.Foundation.Calendar
import Shamarx.Foundation.InFlight
import Shamarx.Foundation.Runs

/-!
# Rotation of refresh tokens

`RefreshTokenService` keeps one row for each refresh token, under the hash of the
token.  Every prisma call takes effect at once when it settles, and calls overlap
at their awaits: `rotate` checks the row it has read outside the transaction that
creates the successor and revokes the row.
-/

namespace Shamarx
namespace Auth
namespace RefreshTokens

open Foundation

/-!
# The table and the calls
-/

def refreshTtlMs : Int :=
  7 * msPerDay

structure TokenRow (digest : Type) where
  id : Nat
  userId : Nat
  tokenHash : digest
  expiresAt : Int
  revokedAt : Option Int
  replacedById : Option Nat

/-- A call between its awaits, with what it has computed before the prisma call that
it waits for. -/
inductive TokenCall (digest : Type) where
  | issuing (userId : Nat) (tokenHash : digest) (expiresAt : Int)
  | finding (tokenHash : digest)
  | reusing (userId : Nat) (revokedAt : Int)
  | exchanging (row : TokenRow digest)
  | revoking (tokenHash : digest) (revokedAt : Int)
  | revokingAll (userId : Nat) (revokedAt : Int)
  | cleaning (cutoff : Int)

/-- How a call fails: with the one external message, or with the error of the
database. -/
inductive Thrown where
  | unauthorized
  | database
  deriving DecidableEq

structure Creation (digest : Type) where
  call : Nat
  id : Nat
  tokenHash : digest

structure Rotation (digest : Type) where
  tokenHash : digest
  oldId : Nat
  newId : Nat

/-- The `revokeAllForUser` step of a rotate that has read a revoked row, with the rows
that the user had then. -/
structure Reuse where
  call : Nat
  userId : Nat
  existed : List Nat

/-- The table with the calls in flight, and the record of what has happened: the
hashes drawn, the rows created, the rotations, the revoked rows read, the answers to
them and the failures. -/
structure TokenStore (digest : Type) where
  now : Int
  rows : List (TokenRow digest)
  nextId : Nat
  nextCall : Nat
  calls : InFlight (TokenCall digest)
  drawn : List digest
  creations : List (Creation digest)
  rotations : List (Rotation digest)
  reuseReads : List (Nat × Nat)
  reuses : List Reuse
  failures : List (Nat × Thrown)

def TokenStore.empty (digest : Type) (now : Int) : TokenStore digest :=
  { now := now
    rows := []
    nextId := 0
    nextCall := 0
    calls := InFlight.empty
    drawn := []
    creations := []
    rotations := []
    reuseReads := []
    reuses := []
    failures := [] }

/-- The calls of the service with the tokens that `generateToken` draws, and the
settling of the prisma calls they wait for. -/
inductive TokenOp (token : Type) where
  | clock (now : Int)
  | issue (userId : Nat) (token : token)
  | rotate (presentedToken : token)
  | revoke (presentedToken : token)
  | revokeAllForUser (userId : Nat)
  | cleanupExpired
  | settle (call : Nat)
  | transaction (call : Nat) (tokenForNew : token)
  | databaseFails (call : Nat)

namespace TokenStore

variable {token digest : Type}

def start (s : TokenStore digest) (c : TokenCall digest) : TokenStore digest :=
  { s with calls := s.calls.put s.nextCall c, nextCall := s.nextCall + 1 }

def advance (s : TokenStore digest) (call : Nat) (c : TokenCall digest) :
    TokenStore digest :=
  { s with calls := s.calls.put call c }

def finish (s : TokenStore digest) (call : Nat) : TokenStore digest :=
  { s with calls := s.calls.drop call }

def fail (s : TokenStore digest) (call : Nat) (thrown : Thrown) : TokenStore digest :=
  { s with
    calls := s.calls.drop call
    failures := s.failures ++ [(call, thrown)] }

def draw (s : TokenStore digest) (tokenHash : digest) : TokenStore digest :=
  { s with drawn := s.drawn ++ [tokenHash] }

def create (s : TokenStore digest) (call userId : Nat) (tokenHash : digest)
    (expiresAt : Int) : TokenStore digest :=
  { s with
    rows := s.rows ++
      [{ id := s.nextId
         userId := userId
         tokenHash := tokenHash
         expiresAt := expiresAt
         revokedAt := none
         replacedById := none }]
    nextId := s.nextId + 1
    creations := s.creations ++ [{ call := call, id := s.nextId, tokenHash := tokenHash }] }

def updateMany (s : TokenStore digest) (wanted : TokenRow digest -> Bool)
    (data : TokenRow digest -> TokenRow digest) : TokenStore digest :=
  { s with rows := s.rows.map fun row => if wanted row then data row else row }

def revokeUser (s : TokenStore digest) (userId : Nat) (revokedAt : Int) :
    TokenStore digest :=
  s.updateMany (fun row => row.userId = userId ∧ row.revokedAt = none)
    (fun row => { row with revokedAt := some revokedAt })

variable [DecidableEq digest]

def revokeHash (s : TokenStore digest) (tokenHash : digest) (revokedAt : Int) :
    TokenStore digest :=
  s.updateMany (fun row => row.tokenHash = tokenHash ∧ row.revokedAt = none)
    (fun row => { row with revokedAt := some revokedAt })

def afterFind (s : TokenStore digest) (call : Nat) (tokenHash : digest) :
    TokenStore digest :=
  match s.rows.find? (fun row => row.tokenHash = tokenHash) with
  | none => s.fail call .unauthorized
  | some row =>
      if row.revokedAt.isSome then
        { s.advance call (.reusing row.userId s.now) with
          reuseReads := s.reuseReads ++ [(call, row.userId)] }
      else if row.expiresAt < s.now then s.fail call .unauthorized
      else s.advance call (.exchanging row)

/-- A prisma call other than the transaction takes effect and its caller goes on. -/
def settle (s : TokenStore digest) (call : Nat) : TokenStore digest :=
  match s.calls call with
  | some (.issuing userId tokenHash expiresAt) =>
      (s.create call userId tokenHash expiresAt).finish call
  | some (.finding tokenHash) => s.afterFind call tokenHash
  | some (.reusing userId revokedAt) =>
      { (s.revokeUser userId revokedAt).fail call .unauthorized with
        reuses := s.reuses ++
          [{ call := call
             userId := userId
             existed := (s.rows.filter fun row => row.userId = userId).map TokenRow.id }] }
  | some (.revoking tokenHash revokedAt) => (s.revokeHash tokenHash revokedAt).finish call
  | some (.revokingAll userId revokedAt) => (s.revokeUser userId revokedAt).finish call
  | some (.cleaning cutoff) =>
      { s with rows := s.rows.filter fun row => !decide (row.expiresAt < cutoff) }.finish call
  | some (.exchanging _) => s
  | none => s

/-- The transaction of `rotate`: when its `updateMany` finds no row, the created row
is rolled back. -/
def exchange (s : TokenStore digest) (call : Nat) (row : TokenRow digest)
    (hashForNew : digest) : TokenStore digest :=
  let created := s.create call row.userId hashForNew (s.now + refreshTtlMs)
  let current := fun r : TokenRow digest => decide (r.id = row.id ∧ r.revokedAt = none)
  if created.rows.countP current = 0 then s.fail call .unauthorized
  else
    { (created.updateMany current fun r =>
          { r with revokedAt := some s.now, replacedById := some s.nextId }).finish call with
      rotations := s.rotations ++
        [{ tokenHash := row.tokenHash, oldId := row.id, newId := s.nextId }] }

end TokenStore

section Steps

variable {token digest : Type} [DecidableEq digest]

/-- One step of the service.  A token is drawn once only. -/
def tokenStep (hash : token -> digest) (s : TokenStore digest) :
    TokenOp token -> TokenStore digest
  | .clock now => { s with now := now }
  | .issue userId token =>
      if hash token ∈ s.drawn then s
      else (s.draw (hash token)).start (.issuing userId (hash token) (s.now + refreshTtlMs))
  | .rotate presentedToken => s.start (.finding (hash presentedToken))
  | .revoke presentedToken => s.start (.revoking (hash presentedToken) s.now)
  | .revokeAllForUser userId => s.start (.revokingAll userId s.now)
  | .cleanupExpired => s.start (.cleaning s.now)
  | .settle call => s.settle call
  | .transaction call tokenForNew =>
      match s.calls call with
      | some (.exchanging row) =>
          if hash tokenForNew ∈ s.drawn then s
          else (s.draw (hash tokenForNew)).exchange call row (hash tokenForNew)
      | _ => s
  | .databaseFails call =>
      match s.calls call with
      | some _ => s.fail call .database
      | none => s

end Steps

end RefreshTokens
end Auth
end Shamarx
