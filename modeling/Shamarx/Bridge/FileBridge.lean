import Shamarx.Foundation.Runs
import Shamarx.Foundation.Text

/-!
# The file bridge

The worker writes a request file and polls for a response file; the expert in the
terminal polls the request file and writes the response.  Each side can be anywhere
between two steps when the other one acts, and the expert can be restarted at any time.
-/

namespace Shamarx
namespace Bridge

open Foundation

/-!
# Texts
-/

def hexDigits : List Char :=
  "0123456789abcdef".toList

def isSpace (c : Char) : Bool :=
  (9 ≤ c.toNat && c.toNat ≤ 13) || (28 ≤ c.toNat && c.toNat ≤ 32) || c.toNat = 133 ||
    c.toNat = 160 || c.toNat = 5760 || (8192 ≤ c.toNat && c.toNat ≤ 8202) ||
    c.toNat = 8232 || c.toNat = 8233 || c.toNat = 8239 || c.toNat = 8287 || c.toNat = 12288

/-- The characters that `StringTrimRight` removes. -/
def isTrimmed (c : Char) : Bool :=
  c = ' ' || c = '\t' || c = '\n' || c = '\r'

structure RequestId where
  text : List Char
  hex : forall c, c ∈ text -> c ∈ hexDigits
  length : text.length = 8
  deriving DecidableEq

structure Request where
  rid : RequestId
  op : List Char
  args : List (List Char)
  deriving DecidableEq

def Request.line (r : Request) : List Char :=
  ['|'].intercalate (r.rid.text :: r.op :: r.args) ++ ['\n']

def writeText (s : List Char) : List Char :=
  s.flatMap fun c => if c = '\n' then ['\r', '\n'] else [c]

def Request.content (r : Request) : List Char :=
  writeText r.line

/-!
# The worker
-/

inductive CallResult where
  | returned (payload : List Char)
  | raised (message : List Char)
  deriving DecidableEq

def answer (op raw : List Char) : CallResult :=
  let rest := (Text.partition '|' raw).2
  let fields := Text.partition '|' rest
  if fields.1 ≠ "ok".toList then
    .raised ("bridge op ".toList ++ op ++ " failed: ".toList ++
      if fields.2 = [] then rest else fields.2)
  else .returned fields.2

/-- The call that holds the lock: it has removed the old response, or it polls. -/
inductive Call where
  | starting (r : Request)
  | polling (r : Request)
  deriving DecidableEq

/-- A call that has returned or raised, with the text it read. -/
structure Ended where
  request : Request
  raw : List Char
  deriving DecidableEq

def Ended.result (e : Ended) : CallResult :=
  answer e.request.op e.raw

/-!
# The expert
-/

/-- What an operation sends: every branch of `Handle` sends once, with the id first. -/
inductive Reply where
  | ok (fields : List Char)
  | err (message : List Char)
  deriving DecidableEq

structure Execution where
  id : List Char
  reply : Reply
  deriving DecidableEq

def Reply.text : Reply -> List Char
  | .ok fields => "ok|".toList ++ fields
  | .err message => "err|".toList ++ message

def Execution.line (x : Execution) : List Char :=
  x.id ++ '|' :: x.reply.text

/-- Where `OnTimer` is: it has read a new request, has executed it, has deleted the old
response, or is writing the new one. -/
inductive Expert where
  | idle
  | handling (line : List Char)
  | sending (line : List Char)
  | opening (line : List Char)
  | writing
  deriving DecidableEq

/-- `FileReadString` reads one line; a zero character ends a string. -/
def readString : List Char -> List Char
  | [] => []
  | c :: rest =>
      if c = '\x00' ∨ c = '\r' ∧ rest.head? = some '\n' then [] else c :: readString rest

def requestLine (content : List Char) : List Char :=
  Text.trimRight isTrimmed (readString content)

def requestId (content : List Char) : List Char :=
  (Text.partition '|' (requestLine content)).1

/-!
# The bridge
-/

/-- The response file.  Until it is closed a reader sees some part of it. -/
structure ResponseFile where
  line : List Char
  closed : Bool
  deriving DecidableEq

def ResponseFile.shown (file : ResponseFile) (n : Nat) : List Char :=
  if file.closed then file.line else file.line.take n

structure FileBridge where
  request : Option (List Char)
  response : Option ResponseFile
  active : Option Call
  used : List RequestId
  ended : List Ended
  lastId : List Char
  expert : Expert
  executed : List Execution
  deriving DecidableEq

def FileBridge.empty : FileBridge :=
  { request := none
    response := none
    active := none
    used := []
    ended := []
    lastId := []
    expert := .idle
    executed := [] }

inductive BridgeOp where
  | call (r : Request)
  | sends (ok : Bool)
  | polls (n : Nat)
  | timesOut
  | tick
  | handles (reply : Reply)
  | deletes (ok : Bool)
  | opens (ok : Bool)
  | closes
  | restart
  deriving DecidableEq

namespace FileBridge

/-- `call` takes the lock.  Request ids never repeat. -/
def call (b : FileBridge) (r : Request) : FileBridge :=
  match b.active with
  | some _ => b
  | none =>
      if r.rid ∈ b.used then b
      else { b with response := none, active := some (.starting r), used := b.used ++ [r.rid] }

/-- The request file is replaced in one step, or `os.replace` raises. -/
def sends (b : FileBridge) (ok : Bool) : FileBridge :=
  match b.active with
  | some (.starting r) =>
      if ok then { b with request := some r.content, active := some (.polling r) }
      else { b with active := none }
  | _ => b

def Own (r : Request) (raw : List Char) : Prop :=
  r.rid.text ++ ['|'] <+: raw

instance (r : Request) (raw : List Char) : Decidable (Own r raw) :=
  inferInstanceAs (Decidable (_ <+: _))

def polls (b : FileBridge) (n : Nat) : FileBridge :=
  match b.active, b.response with
  | some (.polling r), some file =>
      if Own r (Text.strip isSpace (file.shown n)) then
        { b with
          active := none
          ended := b.ended ++ [{ request := r, raw := Text.strip isSpace (file.shown n) }] }
      else b
  | _, _ => b

def timesOut (b : FileBridge) : FileBridge :=
  match b.active with
  | some (.polling _) => { b with active := none }
  | _ => b

def tick (b : FileBridge) : FileBridge :=
  match b.expert, b.request with
  | .idle, some content =>
      if '|' ∉ requestLine content ∨ requestId content = [] then b
      else if requestId content = b.lastId then b
      else
        { b with
          lastId := requestId content
          expert := .handling (requestLine content) }
  | _, _ => b

def handles (b : FileBridge) (reply : Reply) : FileBridge :=
  match b.expert with
  | .handling line =>
      let x : Execution := { id := (Text.partition '|' line).1, reply := reply }
      { b with expert := .sending x.line, executed := b.executed ++ [x] }
  | _ => b

def deletes (b : FileBridge) (ok : Bool) : FileBridge :=
  match b.expert with
  | .sending line =>
      { b with response := if ok then none else b.response, expert := .opening line }
  | _ => b

def opens (b : FileBridge) (ok : Bool) : FileBridge :=
  match b.expert with
  | .opening line =>
      if ok then
        { b with response := some { line := line, closed := false }, expert := .writing }
      else { b with expert := .idle }
  | _ => b

/-- The response file is complete, unless a new call has removed it. -/
def closes (b : FileBridge) : FileBridge :=
  match b.expert with
  | .writing =>
      { b with
        response := b.response.map fun file => { file with closed := true }
        expert := .idle }
  | _ => b

def restart (b : FileBridge) : FileBridge :=
  { b with lastId := [], expert := .idle }

end FileBridge

def bridgeStep (b : FileBridge) : BridgeOp -> FileBridge
  | .call r => b.call r
  | .sends ok => b.sends ok
  | .polls n => b.polls n
  | .timesOut => b.timesOut
  | .tick => b.tick
  | .handles reply => b.handles reply
  | .deletes ok => b.deletes ok
  | .opens ok => b.opens ok
  | .closes => b.closes
  | .restart => b.restart

end Bridge
end Shamarx
