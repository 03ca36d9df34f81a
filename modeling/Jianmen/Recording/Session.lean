import Jianmen.Recording.Command

/-!
# The session recorder

One recorder follows a whole connection.  Output is searched for sensitive prompts as it comes and
redacted before it is stored; keystrokes go to the command recorder and, if they are recorded at
all, redacted to the terminal recording.  Output that is still held back is stored before any
input.
-/

namespace Jianmen.Recording

open DBProxy (Bytes ascii)

/-- A row of the terminal recording. -/
inductive TerminalRow where
  | output (data : Bytes)
  | input (data : Bytes)
  deriving DecidableEq

/-- What a failed recording reports. -/
inductive AuditFailure where
  | redactOutput
  | redactInput
  deriving DecidableEq

structure SessionRecorder where
  recordInput : Bool
  recordCommands : Bool
  commands : CommandRecorder := {}
  output : AuditStreamRedactor := { kind := .output }
  input : AuditStreamRedactor := { kind := .input }
  promptTail : Bytes := []
  redactInput : Bool := false
  inputSeen : Bool := false
  closed : Bool := false
  terminal : List TerminalRow := []
  failures : List AuditFailure := []
  deriving DecidableEq

namespace SessionRecorder

variable (redactor : AuditRedactor)

def reportFatal (r : SessionRecorder) (failure : AuditFailure) : SessionRecorder :=
  { r with failures := r.failures ++ [failure] }

def writeOutput (r : SessionRecorder) (data : Bytes) : SessionRecorder :=
  if data.length = 0 then r else { r with terminal := r.terminal ++ [.output data] }

def writeInput (r : SessionRecorder) (data : Bytes) : SessionRecorder :=
  if data.length = 0 then r else { r with terminal := r.terminal ++ [.input data] }

def promptTailBytes : ℕ := 64

/-- Whether a chunk of output completes a sensitive prompt. -/
def detectsPrompt (r : SessionRecorder) (data : Bytes) : Bool :=
  redactor.redactionEnabled && isSensitivePrompt (r.promptTail ++ toLower data)

def observeSensitivePrompt (r : SessionRecorder) (data : Bytes) : SessionRecorder :=
  if !redactor.redactionEnabled then r
  else
    let combined := r.promptTail ++ toLower data
    if isSensitivePrompt combined then
      { r with
        redactInput := true
        inputSeen := false
        promptTail := []
        commands := r.commands.markSensitivePrompt }
    else { r with promptTail := combined.drop (combined.length - promptTailBytes) }

/-- Hand redacted output to the command recorder and the terminal recording. -/
def storeOutput (r : SessionRecorder) (redacted : Bytes) : SessionRecorder :=
  let r :=
    if r.recordCommands then { r with commands := r.commands.observeOutput redacted } else r
  r.writeOutput redacted

def recordOutput (r : SessionRecorder) (data : Bytes) : SessionRecorder :=
  if data.length = 0 ∨ r.closed then r
  else
    let r := r.observeSensitivePrompt redactor data
    match r.output.write redactor data with
    | none => r.reportFatal .redactOutput
    | some (output, redacted) => storeOutput { r with output := output } redacted

def flushPendingOutputLocked (r : SessionRecorder) : SessionRecorder :=
  let flushed := r.output.flush redactor
  let r := { r with output := flushed.1 }
  if flushed.2.length = 0 then r else r.storeOutput flushed.2

/-- Redact a chunk of input: the line that answers a sensitive prompt is a marker. -/
def redactInputFrame (r : SessionRecorder) (data : Bytes) : Option (SessionRecorder × Bytes) :=
  if !redactor.redactionEnabled ∨ !r.redactInput then
    (r.input.write redactor data).map fun written => ({ r with input := written.1 }, written.2)
  else
    match data.findIdx? isLineEnd with
    | none => some ({ r with inputSeen := r.inputSeen || decide (0 < data.length) }, [])
    | some lineEnd =>
      let remainderStart :=
        if (data.drop lineEnd).take 2 = [0x0D, 0x0A] then lineEnd + 2 else lineEnd + 1
      let r := { r with redactInput := false, inputSeen := false }
      let marker := ascii "[REDACTED]\n"
      if remainderStart < data.length then
        (r.input.write redactor (data.drop remainderStart)).map fun written =>
          ({ r with input := written.1 }, marker ++ written.2)
      else some (r, marker)

def recordInputBytes (r : SessionRecorder) (data : Bytes) : SessionRecorder :=
  if data.length = 0 ∨ r.closed then r
  else
    let r := r.flushPendingOutputLocked redactor
    let r :=
      if r.recordCommands then { r with commands := r.commands.observeInput redactor data } else r
    if r.recordInput then
      match r.redactInputFrame redactor data with
      | none =>
        let r :=
          if redactor.redactionEnabled ∧ r.redactInput then
            { r with redactInput := false, inputSeen := false }
          else r
        r.reportFatal .redactInput
      | some (r, redacted) => r.writeInput redacted
    else r

def recordCommand (r : SessionRecorder) (command : Bytes) : SessionRecorder :=
  if !r.recordCommands ∨ command.length = 0 ∨ r.closed then r
  else
    let r := r.flushPendingOutputLocked redactor
    { r with commands := r.commands.recordDirect redactor command }

/-- What is left of the input at the end. -/
def flushInput (r : SessionRecorder) : SessionRecorder × Bytes :=
  let flushed := r.input.flush redactor
  ({ r with redactInput := false, inputSeen := false, input := flushed.1 },
    (if r.redactInput && r.inputSeen then ascii "[REDACTED]" else []) ++ flushed.2)

def close (r : SessionRecorder) : SessionRecorder :=
  if r.closed then r
  else
    let r := flushPendingOutputLocked redactor { r with closed := true }
    let flushed := r.flushInput redactor
    let r := flushed.1.writeInput flushed.2
    { r with commands := r.commands.close redactor }

end SessionRecorder

/-- A call on the recorder. -/
inductive RecorderCall where
  | output (data : Bytes)
  | input (data : Bytes)
  deriving DecidableEq

namespace SessionRecorder

variable (redactor : AuditRedactor)

def act (r : SessionRecorder) : RecorderCall → SessionRecorder
  | .output data => r.recordOutput redactor data
  | .input data => r.recordInputBytes redactor data

def run (r : SessionRecorder) (calls : List RecorderCall) : SessionRecorder :=
  calls.foldl (act redactor) r

@[simp] theorem run_concat (r : SessionRecorder) (calls : List RecorderCall) (call : RecorderCall) :
    r.run redactor (calls ++ [call]) = (r.run redactor calls).act redactor call := by
  simp [run]

end SessionRecorder
end Jianmen.Recording
