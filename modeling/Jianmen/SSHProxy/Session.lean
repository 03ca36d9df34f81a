import Jianmen.DBProxy.Sink

/-!
# SSH sessions

A session is one channel of a client that is relayed to a channel of the target.  One goroutine
handles the channel's requests; once a shell or a command runs, another one copies the client's
data to the target.  Both work in steps that may fail at any time, and anything may happen between
two steps.
-/

namespace Jianmen.SSHProxy

open DBProxy (Bytes ascii bigEndian)

/-! ## Requests -/

inductive RequestType where
  | ptyReq
  | windowChange
  | shell
  | exec
  | subsystem
  | env
  | signal
  | other
  deriving DecidableEq

structure Request where
  type : RequestType
  wantReply : Bool
  payload : Bytes
  deriving DecidableEq

/-- Whether the target is asked for a reply. -/
def Request.replies (request : Request) : Bool :=
  match request.type with
  | .ptyReq | .shell | .exec | .subsystem => true
  | .env => request.wantReply
  | .windowChange | .signal | .other => false

/-- The string at the start of a message and what follows it. -/
def parseString (data : Bytes) : Option (Bytes × Bytes) :=
  if data.length < 4 then none
  else
    let length := bigEndian (data.take 4)
    let rest := data.drop 4
    if rest.length < length then none else some (rest.take length, rest.drop length)

/-- A message that is one string and nothing else. -/
def unmarshalString (payload : Bytes) : Option Bytes :=
  match parseString payload with
  | some (value, []) => some value
  | _ => none

def parseSubsystemName (payload : Bytes) : Bytes :=
  (unmarshalString payload).getD []

def parseExecRequest (payload : Bytes) : Option Bytes :=
  unmarshalString payload

structure Access where
  ssh : Bool
  sftp : Bool

def Access.allows (a : Access) (type : RequestType) (subsystem : Bytes) : Bool :=
  match type with
  | .ptyReq | .windowChange | .shell | .exec | .env | .signal => a.ssh
  | .subsystem => if subsystem = ascii "sftp" then a.sftp else a.ssh
  | .other => true

/-! ## Sessions -/

/-- Where the goroutine stands that handles requests. -/
inductive Handler where
  | waiting
  /-- The request is about to be forwarded. -/
  | forwarding (request : Request)
  /-- The request was sent to the target, which is to reply. -/
  | awaitingReply (request : Request)
  /-- The command of an exec request is about to be recorded. -/
  | recording (payload : Bytes) (delivered : Bool)
  /-- The SFTP proxy has taken over. -/
  | serving
  | ended
  deriving DecidableEq

/-- Where the goroutine stands that copies from the client to the target. -/
inductive Copy where
  | idle
  | reading
  /-- Data was read that is about to be recorded. -/
  | recording (data : Bytes)
  /-- What is left to write of the data. -/
  | writing (rest : Bytes)
  | stopped
  deriving DecidableEq

/-- The channel to the target. -/
inductive TargetChannel where
  | unopened
  | opened
  | closed
  deriving DecidableEq

/-- A session, with the bytes it has written to the target. -/
structure Session where
  handler : Handler := .waiting
  copy : Copy := .idle
  target : TargetChannel := .unopened
  written : Bytes := []
  deriving DecidableEq

/-- What a step of a session asks of the recorder, or delivers to the target as an exec request. -/
inductive Effect where
  | silent
  | recordInput (data : Bytes)
  | recordOutput (data : Bytes)
  | recordCommand (payload : Bytes)
  | deliver (payload : Bytes)
  deriving DecidableEq

inductive SessionAction where
  | receive (request : Request)
  | openTarget
  | send
  | forwardError
  | reply (ok : Bool)
  | recordCommand
  /-- The SFTP proxy passes data of the client on, over a channel of its own. -/
  | serve (data : Bytes)
  | endServe
  | read (data : Bytes)
  | recordInput
  | write (count : ℕ)
  | stopCopy
  | output (data : Bytes)
  | close
  deriving DecidableEq

namespace Session

def closeTarget (s : Session) : Session :=
  { s with target := if s.target = .opened then .closed else s.target }

def startCopy (s : Session) : Session :=
  if s.copy = .idle then { s with copy := .reading } else s

/-- What handling a request does first. -/
def handleRequest (access : Access) (s : Session) (request : Request) : Session :=
  let subsystem :=
    if request.type = .subsystem then parseSubsystemName request.payload else []
  if !access.allows request.type subsystem ∨ request.type = .other then s
  else if request.type = .subsystem ∧ subsystem = ascii "sftp" then { s with handler := .serving }
  else { s with handler := .forwarding request }

/-- What handling a request does after it was forwarded. -/
def forwarded (s : Session) (request : Request) (delivered ok : Bool) : Session :=
  match request.type with
  | .shell | .subsystem =>
    let s := if ok then s.startCopy else s
    { s with handler := .waiting }
  | .exec =>
    let s := if ok then s.startCopy else s
    { s with handler := .recording request.payload delivered }
  | _ => { s with handler := .waiting }

/-- A step of a session, if it is enabled.  The connection to the target may be closed. -/
def step (access : Access) (connected : Bool) (s : Session) :
    SessionAction → Option (Session × Effect)
  | .receive request =>
    match s.handler with
    | .waiting => some (s.handleRequest access request, .silent)
    | _ => none
  | .openTarget =>
    match s.handler, s.target with
    | .forwarding _, .unopened =>
      if connected then some ({ s with target := .opened }, .silent) else none
    | _, _ => none
  | .send =>
    match s.handler, s.target with
    | .forwarding request, .opened =>
      if connected then
        some
          (if request.replies then { s with handler := .awaitingReply request }
            else s.forwarded request true true,
            if request.type = .exec then .deliver request.payload else .silent)
      else none
    | _, _ => none
  | .forwardError =>
    match s.handler with
    | .forwarding request => some (s.forwarded request false false, .silent)
    | _ => none
  | .reply ok =>
    match s.handler with
    | .awaitingReply request => some (s.forwarded request true ok, .silent)
    | _ => none
  | .recordCommand =>
    match s.handler with
    | .recording payload _ => some ({ s with handler := .waiting }, .recordCommand payload)
    | _ => none
  | .serve data =>
    match s.handler with
    | .serving =>
      if connected then some ({ s with written := s.written ++ data }, .silent) else none
    | _ => none
  | .endServe =>
    match s.handler with
    | .waiting | .serving => some (closeTarget { s with handler := .ended }, .silent)
    | _ => none
  | .read data =>
    match s.copy with
    | .reading => if data = [] then none else some ({ s with copy := .recording data }, .silent)
    | _ => none
  | .recordInput =>
    match s.copy with
    | .recording data => some ({ s with copy := .writing data }, .recordInput data)
    | _ => none
  | .write count =>
    match s.copy, s.target with
    | .writing rest, .opened =>
      if connected then
        some
          ({ s with
            copy := if rest.length ≤ count then .reading else .writing (rest.drop count)
            written := s.written ++ rest.take count }, .silent)
      else none
    | _, _ => none
  | .stopCopy =>
    match s.copy with
    | .reading | .writing _ => some ({ s with copy := .stopped }, .silent)
    | _ => none
  | .output data =>
    match s.copy with
    | .idle => none
    | _ => some (s, .recordOutput data)
  | .close =>
    match s.copy with
    | .idle => none
    | _ => some (s.closeTarget, .silent)

end Session
end Jianmen.SSHProxy
