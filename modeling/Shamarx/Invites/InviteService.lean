import Shamarx.Foundation.Calendar
import Shamarx.Foundation.InFlight
import Shamarx.Foundation.Runs
import Shamarx.Live.SweepExecution

/-!
# Invites

`InviteService` keeps the open invites under salted hashes of their tokens.  An accept
reads the pending rows, tries the token on one after the other, checks the row that it
opens and hashes the password; the transaction that creates the user comes last.
-/

namespace Shamarx
namespace Invites

open Foundation
open Live.SweepExecution (PresetKey)

/-!
# The database
-/

structure Invite (digest : Type) where
  id : Nat
  email : String
  tokenHash : digest
  createdById : Nat
  expiresAt : Int
  acceptedAt : Option Int

inductive UserRole where
  | user
  | superadmin
  deriving DecidableEq

structure User where
  id : Nat
  email : String
  passwordHash : String
  role : UserRole
  presetKey : PresetKey
  botEnabled : Bool
  deriving DecidableEq

structure Admission where
  inviteId : Nat
  user : User

/-- The two tables, with the record of the users created from invites and of the
invites revoked. -/
structure Database (digest : Type) where
  invites : List (Invite digest)
  users : List User
  nextInvite : Nat
  nextUser : Nat
  admissions : List Admission
  revocations : List Nat

namespace Database

variable {digest : Type}

def opened (digest : Type) (users : List User) (nextUser : Nat) : Database digest :=
  { invites := []
    users := users
    nextInvite := 0
    nextUser := nextUser
    admissions := []
    revocations := [] }

def hasUser (db : Database digest) (email : String) : Bool :=
  db.users.any fun user => user.email = email

def insert (db : Database digest) (email : String) (tokenHash : digest) (createdById : Nat)
    (expiresAt : Int) : Database digest :=
  { db with
    invites := db.invites ++
      [{ id := db.nextInvite
         email := email
         tokenHash := tokenHash
         createdById := createdById
         expiresAt := expiresAt
         acceptedAt := none }]
    nextInvite := db.nextInvite + 1 }

def update (db : Database digest) (id : Nat) (data : Invite digest -> Invite digest) :
    Database digest :=
  { db with invites := db.invites.map fun row => if row.id = id then data row else row }

def newUser (db : Database digest) (email passwordHash : String) (presetKey : PresetKey) :
    User :=
  { id := db.nextUser
    email := email
    passwordHash := passwordHash
    role := .user
    presetKey := presetKey
    botEnabled := true }

def enrol (db : Database digest) (invite : Invite digest) (passwordHash : String)
    (presetKey : PresetKey) (now : Int) : Database digest :=
  let user := db.newUser invite.email passwordHash presetKey
  { db.update invite.id fun row => { row with acceptedAt := some now } with
    users := db.users ++ [user]
    nextUser := db.nextUser + 1
    admissions := db.admissions ++ [{ inviteId := invite.id, user := user }] }

def expire (db : Database digest) (id : Nat) (expiresAt : Int) : Database digest :=
  { db.update id fun row => { row with expiresAt := expiresAt } with
    revocations := db.revocations ++ [id] }

end Database

/-!
# Calls between their awaits
-/

structure Acceptance (token : Type) where
  token : token
  password : String
  presetKey : PresetKey

/-- A call with what it waits for: `create` goes through the first four, `accept`
through the next five, `revoke` through the last two. -/
inductive InviteCall (token digest : Type) where
  | checkingEmail (email : String) (createdById expiresInDays : Nat)
  | hashingToken (email : String) (createdById expiresInDays : Nat) (token : token)
  | inserting (email : String) (tokenHash : digest) (createdById : Nat) (expiresAt : Int)
      (token : token)
  | mailing (email : String) (token : token)
  | reading (a : Acceptance token)
  | verifying (a : Acceptance token) (candidates : List (Invite digest))
  | lookingUp (a : Acceptance token) (invite : Invite digest)
  | hashingPassword (a : Acceptance token) (invite : Invite digest)
  | admitting (a : Acceptance token) (invite : Invite digest) (passwordHash : String)
  | finding (id : Nat)
  | expiring (id : Nat) (expiresAt : Int)

inductive InviteError where
  | accountExists (email : String)
  | invalid
  | used
  | expired
  | userExists
  | notFound
  | rejected
  deriving DecidableEq

/-- The text that a failed call answers with; what a dependency rejects with is its
own. -/
def InviteError.message : InviteError -> Option String
  | .accountExists email => some ("A Shamarx account already exists for " ++ email)
  | .invalid => some "Invalid invite"
  | .used => some "Invite already used"
  | .expired => some "Invite expired"
  | .userExists => some "User already exists for this email"
  | .notFound => some "Invite not found"
  | .rejected => none

structure InviteStore (token digest : Type) where
  now : Int
  db : Database digest
  nextCall : Nat
  calls : InFlight (InviteCall token digest)
  failures : List (Nat × InviteError)

def InviteStore.opened (token digest : Type) (users : List User) (nextUser : Nat)
    (now : Int) : InviteStore token digest :=
  { now := now
    db := Database.opened digest users nextUser
    nextCall := 0
    calls := InFlight.empty
    failures := [] }

/-- The calls of the service, and what ends their awaits: a token and a hash come from
the libraries, every other answer from the state. -/
inductive InviteOp (token digest : Type) where
  | clock (now : Int)
  | create (email : String) (createdById expiresInDays : Nat)
  | accept (a : Acceptance token)
  | revoke (id : Nat)
  | emailChecked (call : Nat) (token : token)
  | tokenHashed (call : Nat) (tokenHash : digest)
  | passwordHashed (call : Nat) (passwordHash : String)
  | settle (call : Nat)
  | rejects (call : Nat)

/-- `argon2.verify`, and the lower case and trim of an email. -/
structure InviteLibs (token digest : Type) where
  verify : digest -> token -> Bool
  normalize : String -> String

namespace InviteStore

variable {token digest : Type}

def start (s : InviteStore token digest) (c : InviteCall token digest) :
    InviteStore token digest :=
  { s with calls := s.calls.put s.nextCall c, nextCall := s.nextCall + 1 }

def advance (s : InviteStore token digest) (call : Nat) (c : InviteCall token digest) :
    InviteStore token digest :=
  { s with calls := s.calls.put call c }

def finish (s : InviteStore token digest) (call : Nat) : InviteStore token digest :=
  { s with calls := s.calls.drop call }

def fail (s : InviteStore token digest) (call : Nat) (error : InviteError) :
    InviteStore token digest :=
  { s with
    calls := s.calls.drop call
    failures := s.failures ++ [(call, error)] }

def nextCandidate (s : InviteStore token digest) (call : Nat) (a : Acceptance token) :
    List (Invite digest) -> InviteStore token digest
  | [] => s.fail call .invalid
  | row :: rest => s.advance call (.verifying a (row :: rest))

def check (s : InviteStore token digest) (call : Nat) (a : Acceptance token)
    (invite : Invite digest) : InviteStore token digest :=
  if invite.acceptedAt.isSome then s.fail call .used
  else if invite.expiresAt < s.now then s.fail call .expired
  else s.advance call (.lookingUp a invite)

def insert [DecidableEq digest] (s : InviteStore token digest) (call : Nat) (email : String)
    (tokenHash : digest) (createdById : Nat) (expiresAt : Int) (drawn : token) :
    InviteStore token digest :=
  if s.db.invites.any fun row => row.tokenHash = tokenHash then s.fail call .rejected
  else
    { s.advance call (.mailing email drawn) with
      db := s.db.insert email tokenHash createdById expiresAt }

/-- The transaction of `accept`: the email of a user is unique, and a second user with
it rolls everything back. -/
def enrol (s : InviteStore token digest) (call : Nat) (a : Acceptance token)
    (invite : Invite digest) (passwordHash : String) : InviteStore token digest :=
  if s.db.hasUser invite.email then s.fail call .rejected
  else
    { s.finish call with db := s.db.enrol invite passwordHash a.presetKey s.now }

def afterFind (s : InviteStore token digest) (call id : Nat) : InviteStore token digest :=
  if s.db.invites.any fun row => row.id = id then s.advance call (.expiring id s.now)
  else s.fail call .notFound

section Settle

variable [DecidableEq digest]

def settle (libs : InviteLibs token digest) (s : InviteStore token digest) (call : Nat) :
    InviteStore token digest :=
  match s.calls call with
  | some (.inserting email tokenHash createdById expiresAt token) =>
      s.insert call email tokenHash createdById expiresAt token
  | some (.mailing _ _) => s.finish call
  | some (.reading a) =>
      s.nextCandidate call a (s.db.invites.filter fun row => row.acceptedAt = none)
  | some (.verifying a (row :: rest)) =>
      if libs.verify row.tokenHash a.token then s.check call a row
      else s.nextCandidate call a rest
  | some (.lookingUp a invite) =>
      if s.db.hasUser invite.email then s.fail call .userExists
      else s.advance call (.hashingPassword a invite)
  | some (.admitting a invite passwordHash) => s.enrol call a invite passwordHash
  | some (.finding id) => s.afterFind call id
  | some (.expiring id expiresAt) =>
      { s.finish call with db := s.db.expire id expiresAt }
  | _ => s

end Settle

end InviteStore

section Steps

variable {token digest : Type} [DecidableEq digest]

def inviteStep (libs : InviteLibs token digest) (s : InviteStore token digest) :
    InviteOp token digest -> InviteStore token digest
  | .clock now => { s with now := now }
  | .create email createdById expiresInDays =>
      s.start (.checkingEmail (libs.normalize email) createdById expiresInDays)
  | .accept a => s.start (.reading a)
  | .revoke id => s.start (.finding id)
  | .emailChecked call token =>
      match s.calls call with
      | some (.checkingEmail email createdById expiresInDays) =>
          if s.db.hasUser email then s.fail call (.accountExists email)
          else s.advance call (.hashingToken email createdById expiresInDays token)
      | _ => s
  | .tokenHashed call tokenHash =>
      match s.calls call with
      | some (.hashingToken email createdById expiresInDays token) =>
          s.advance call (.inserting email tokenHash createdById
            (s.now + expiresInDays * msPerDay) token)
      | _ => s
  | .passwordHashed call passwordHash =>
      match s.calls call with
      | some (.hashingPassword a invite) => s.advance call (.admitting a invite passwordHash)
      | _ => s
  | .settle call => s.settle libs call
  | .rejects call =>
      match s.calls call with
      | some _ => s.fail call .rejected
      | none => s

end Steps

end Invites
end Shamarx
