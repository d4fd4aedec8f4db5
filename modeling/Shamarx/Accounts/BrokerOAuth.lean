import Shamarx.Foundation.InFlight
import Shamarx.Foundation.Runs
import Mathlib.Logic.Function.Basic

/-!
# The cTrader OAuth flow

`startOAuth` keeps the user under a drawn state in Redis, `handleCallback` turns a state
into a session with the tokens of the broker, and `finalize` turns a session into a
broker account.  Every Redis command and prisma call takes effect when it settles.
-/

namespace Shamarx
namespace Accounts
namespace BrokerOAuth

open Foundation

/-!
# What is stored
-/

structure SpotwareAccount where
  ctidTraderAccountId : Nat
  accountNumber : String
  live : Bool
  brokerTitle : Option String
  brokerName : Option String
  deriving DecidableEq

structure Tokens where
  accessToken : String
  refreshToken : String
  expiresAt : Int
  deriving DecidableEq

structure SpotwareSession where
  userId : Nat
  tokens : Tokens
  accounts : List SpotwareAccount

inductive AccountKind where
  | live
  | demo
  deriving DecidableEq

structure FinalizeInput (key : Type) where
  userId : Nat
  oauthSessionId : key
  ctidTraderAccountId : Nat
  name : String
  isEnabled : Bool

structure BrokerAccount where
  id : Nat
  userId : Nat
  name : String
  isEnabled : Bool
  tokens : Tokens
  ctidTraderAccountId : Nat
  accountNumber : String
  accountKind : AccountKind
  brokerName : Option String
  oauthExpiresAt : Int
  deriving DecidableEq

inductive OAuthCall (key : Type) where
  | readingState (code : String) (state : key)
  | deletingState (code : String) (state : key) (userId : Nat)
  | exchanging (code : String) (state : key) (userId : Nat)
  | listing (state : key) (userId : Nat) (tokens : Tokens)
  | storingSession (state : key) (session : SpotwareSession)
  | readingSession (f : FinalizeInput key)
  | counting (f : FinalizeInput key) (session : SpotwareSession) (account : SpotwareAccount)
  | inserting (f : FinalizeInput key) (session : SpotwareSession) (account : SpotwareAccount)
  | deletingSession (oauthSessionId : key) (accountId : Nat)

inductive OAuthError where
  | stateExpired
  | sessionExpired
  | forbidden
  | notInSession
  | softCap (cap : Nat)
  | rejected
  deriving DecidableEq

def OAuthError.message : OAuthError -> Option String
  | .stateExpired => some "OAuth state expired or invalid"
  | .sessionExpired => some "OAuth session expired or invalid"
  | .notInSession => some "ctidTraderAccountId not in OAuth session"
  | .softCap cap => some ("Soft cap of " ++ toString cap ++ " enabled accounts reached")
  | .forbidden => none
  | .rejected => none

structure OAuthStore (key : Type) where
  now : Int
  states : key -> Option Nat
  sessions : key -> Option SpotwareSession
  accounts : List BrokerAccount
  nextAccount : Nat
  nextCall : Nat
  calls : InFlight (OAuthCall key)
  drawnStates : List key
  drawnSessions : List key
  stored : List (key × key)
  created : List (key × Nat)
  failures : List (Nat × OAuthError)

def OAuthStore.opened (key : Type) (accounts : List BrokerAccount) (nextAccount : Nat)
    (now : Int) : OAuthStore key :=
  { now := now
    states := fun _ => none
    sessions := fun _ => none
    accounts := accounts
    nextAccount := nextAccount
    nextCall := 0
    calls := InFlight.empty
    drawnStates := []
    drawnSessions := []
    stored := []
    created := []
    failures := [] }

/-- The calls, what the broker answers, the drawing of a session id, and the keys that
outlive their time in Redis. -/
inductive OAuthOp (key : Type) where
  | clock (now : Int)
  | startOAuth (userId : Nat) (state : key)
  | handleCallback (code : String) (state : key)
  | finalize (f : FinalizeInput key)
  | settle (call : Nat)
  | exchanged (call : Nat) (accessToken refreshToken : String) (expiresIn : Int)
  | listed (call : Nat) (accounts : List SpotwareAccount)
  | sessionStored (call : Nat) (sessionId : key)
  | rejects (call : Nat)
  | stateExpires (state : key)
  | sessionExpires (oauthSessionId : key)
  | accountDeleted (id : Nat)

/-!
# The calls
-/

namespace OAuthStore

variable {key : Type}

def start (s : OAuthStore key) (c : OAuthCall key) : OAuthStore key :=
  { s with calls := s.calls.put s.nextCall c, nextCall := s.nextCall + 1 }

def advance (s : OAuthStore key) (call : Nat) (c : OAuthCall key) : OAuthStore key :=
  { s with calls := s.calls.put call c }

def fail (s : OAuthStore key) (call : Nat) (error : OAuthError) : OAuthStore key :=
  { s with
    calls := s.calls.drop call
    failures := s.failures ++ [(call, error)] }

def afterState (s : OAuthStore key) (call : Nat) (code : String) (state : key) :
    OAuthStore key :=
  match s.states state with
  | none => s.fail call .stateExpired
  | some userId => s.advance call (.deletingState code state userId)

def checkSession (s : OAuthStore key) (f : FinalizeInput key) :
    Except OAuthError (SpotwareSession × SpotwareAccount) :=
  match s.sessions f.oauthSessionId with
  | none => .error .sessionExpired
  | some session =>
      if session.userId ≠ f.userId then .error .forbidden
      else
        match session.accounts.find? fun a => a.ctidTraderAccountId = f.ctidTraderAccountId with
        | none => .error .notInSession
        | some account => .ok (session, account)

/-- `finalize` goes on to `BrokerAccountsService.create`, which counts the enabled
accounts only for one that is to be enabled. -/
def afterSession (s : OAuthStore key) (call : Nat) (f : FinalizeInput key) : OAuthStore key :=
  match s.checkSession f with
  | .error error => s.fail call error
  | .ok (session, account) =>
      if f.isEnabled then s.advance call (.counting f session account)
      else s.advance call (.inserting f session account)

def enabledCount (s : OAuthStore key) (userId : Nat) : Nat :=
  s.accounts.countP fun a => a.userId = userId ∧ a.isEnabled

def afterCount (softCap : Nat) (s : OAuthStore key) (call : Nat) (f : FinalizeInput key)
    (session : SpotwareSession) (account : SpotwareAccount) : OAuthStore key :=
  if softCap ≤ s.enabledCount f.userId then s.fail call (.softCap softCap)
  else s.advance call (.inserting f session account)

def newAccount (s : OAuthStore key) (f : FinalizeInput key) (session : SpotwareSession)
    (account : SpotwareAccount) : BrokerAccount :=
  { id := s.nextAccount
    userId := f.userId
    name := f.name
    isEnabled := f.isEnabled
    tokens := session.tokens
    ctidTraderAccountId := f.ctidTraderAccountId
    accountNumber := account.accountNumber
    accountKind := if account.live then .live else .demo
    brokerName := account.brokerName <|> account.brokerTitle
    oauthExpiresAt := session.tokens.expiresAt * 1000 }

/-- `brokerAccount.create`: a name is unique for its user. -/
def insert (s : OAuthStore key) (call : Nat) (f : FinalizeInput key)
    (session : SpotwareSession) (account : SpotwareAccount) : OAuthStore key :=
  if s.accounts.any fun a => a.userId = f.userId ∧ a.name = f.name then s.fail call .rejected
  else
    { s.advance call (.deletingSession f.oauthSessionId s.nextAccount) with
      accounts := s.accounts ++ [s.newAccount f session account]
      nextAccount := s.nextAccount + 1
      created := s.created ++ [(f.oauthSessionId, s.nextAccount)] }

variable [DecidableEq key]

def deleteState (s : OAuthStore key) (state : key) : OAuthStore key :=
  { s with states := Function.update s.states state none }

def deleteSession (s : OAuthStore key) (oauthSessionId : key) : OAuthStore key :=
  { s with sessions := Function.update s.sessions oauthSessionId none }

def settle (softCap : Nat) (s : OAuthStore key) (call : Nat) : OAuthStore key :=
  match s.calls call with
  | some (.readingState code state) => s.afterState call code state
  | some (.deletingState code state userId) =>
      (s.deleteState state).advance call (.exchanging code state userId)
  | some (.readingSession f) => s.afterSession call f
  | some (.counting f session account) => s.afterCount softCap call f session account
  | some (.inserting f session account) => s.insert call f session account
  | some (.deletingSession oauthSessionId _) =>
      { s.deleteSession oauthSessionId with calls := s.calls.drop call }
  | _ => s

def storeSession (s : OAuthStore key) (call : Nat) (state : key) (session : SpotwareSession)
    (sessionId : key) : OAuthStore key :=
  { s with
    calls := s.calls.drop call
    sessions := Function.update s.sessions sessionId (some session)
    drawnSessions := s.drawnSessions ++ [sessionId]
    stored := s.stored ++ [(state, sessionId)] }

end OAuthStore

section Steps

variable {key : Type} [DecidableEq key]

/-- One step of the service.  A state and a session id are drawn once only. -/
def oauthStep (softCap : Nat) (s : OAuthStore key) : OAuthOp key -> OAuthStore key
  | .clock now => { s with now := now }
  | .startOAuth userId state =>
      if state ∈ s.drawnStates then s
      else
        { s with
          states := Function.update s.states state (some userId)
          drawnStates := s.drawnStates ++ [state] }
  | .handleCallback code state => s.start (.readingState code state)
  | .finalize f => s.start (.readingSession f)
  | .settle call => s.settle softCap call
  | .exchanged call accessToken refreshToken expiresIn =>
      match s.calls call with
      | some (.exchanging _ state userId) =>
          s.advance call (.listing state userId
            { accessToken := accessToken
              refreshToken := refreshToken
              expiresAt := s.now / 1000 + expiresIn })
      | _ => s
  | .listed call accounts =>
      match s.calls call with
      | some (.listing state userId tokens) =>
          s.advance call (.storingSession state
            { userId := userId, tokens := tokens, accounts := accounts })
      | _ => s
  | .sessionStored call sessionId =>
      match s.calls call with
      | some (.storingSession state session) =>
          if sessionId ∈ s.drawnSessions then s
          else s.storeSession call state session sessionId
      | _ => s
  | .rejects call =>
      match s.calls call with
      | some _ => s.fail call .rejected
      | none => s
  | .stateExpires state => s.deleteState state
  | .sessionExpires oauthSessionId => s.deleteSession oauthSessionId
  | .accountDeleted id =>
      { s with accounts := s.accounts.filter fun a => a.id ≠ id }

end Steps

end BrokerOAuth
end Accounts
end Shamarx
