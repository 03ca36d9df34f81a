import Jianmen.Library.Actions
import Jianmen.Library.Interleaving
import Jianmen.Recording.Channels
import Jianmen.SSHProxy.Session

/-!
# SSH connections

All sessions of a connection share its recorder and its connection to the target.  When the client
has gone, the connection is torn down: the recorder is closed, and after it the connection to the
target.  Nobody waits for the goroutines of the sessions.
-/

namespace Jianmen.SSHProxy

open DBProxy (Bytes ascii)
open Recording (AuditRedactor SessionRecorder CommandEvent)

/-- How far the connection's own goroutine has come. -/
inductive Stage where
  | accepting
  | leaving
  | recorderClosed
  | gone
  deriving DecidableEq

/-- A connection, with what has become of the data of its sessions: the input that was recorded,
the exec requests that were delivered to the target, and the commands that were recorded. -/
structure Connection where
  access : Access
  recorder : SessionRecorder
  stage : Stage := .accepting
  connected : Bool := true
  sessions : List Session := []
  processed : List (ℕ × Bytes) := []
  delivered : List (ℕ × Bytes) := []
  logged : List (ℕ × Bytes) := []

inductive Action where
  | accept
  /-- The client has gone. -/
  | leave
  | closeRecorder
  | closeTarget
  /-- The connection to the target is lost, or closed by an administrator. -/
  | lose
  | session (number : ℕ) (action : SessionAction)
  deriving DecidableEq

namespace Connection

variable (redactor : AuditRedactor)

/-- Record the command of an exec request, if it can be read. -/
def recordExec (c : Connection) (number : ℕ) (payload : Bytes) : Connection :=
  match parseExecRequest payload with
  | none => c
  | some command =>
    { c with
      recorder := c.recorder.recordCommand redactor command
      logged :=
        if c.recorder.closed ∨ Utf8.trimSpace command = [] then c.logged
        else c.logged ++ [(number, command)] }

/-- What a session's step does to the connection. -/
def apply (c : Connection) (number : ℕ) : Effect → Connection
  | .silent => c
  | .recordInput data =>
    { c with
      recorder := c.recorder.recordInputBytes redactor data
      processed := if c.recorder.closed then c.processed else c.processed ++ [(number, data)] }
  | .recordOutput data => { c with recorder := c.recorder.recordOutput redactor data }
  | .recordCommand payload => c.recordExec redactor number payload
  | .deliver payload => { c with delivered := c.delivered ++ [(number, payload)] }

def step (c : Connection) : Action → Option Connection
  | .accept =>
    if c.stage = .accepting then some { c with sessions := c.sessions ++ [{}] } else none
  | .leave => if c.stage = .accepting then some { c with stage := .leaving } else none
  | .closeRecorder =>
    if c.stage = .leaving then
      some { c with stage := .recorderClosed, recorder := c.recorder.close redactor }
    else none
  | .closeTarget =>
    if c.stage = .recorderClosed then some { c with stage := .gone, connected := false }
    else none
  | .lose => some { c with connected := false }
  | .session number action =>
    match c.sessions[number]? with
    | none => none
    | some s =>
      match s.step c.access c.connected action with
      | none => none
      | some (s', effect) =>
        some (apply redactor { c with sessions := c.sessions.set number s' } number effect)

/-- A connection whose recorder records commands. -/
def established (access : Access) (recordInput : Bool) : Connection where
  access := access
  recorder := SessionRecorder.fresh recordInput

end Connection
end Jianmen.SSHProxy
