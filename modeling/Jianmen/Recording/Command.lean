import Jianmen.Recording.Redactor

/-!
# The command recorder

The recorder edits the keystrokes of a session into lines and stores every submitted line as a
command, together with the output up to the next one.  The line that answers a sensitive prompt is
not stored.  A command is written out when the next one starts or the recorder is closed.
-/

namespace Jianmen.Recording

open DBProxy (Bytes ascii)

/-- How a command was found: edited from keystrokes, or taken from a request. -/
inductive Confidence where
  | edited
  | exact
  deriving DecidableEq

structure CommandEvent where
  seq : ℕ
  command : Bytes
  preview : Bytes := []
  outputOffset : ℕ
  outputBytes : ℕ := 0
  auditDataRedacted : Bool
  confidence : Confidence
  auditSinkWritten : Bool := false
  deriving DecidableEq

/-- The recorder with what it has written: the events in its file, the output in the output file,
and the commands the audit sink was given. -/
structure CommandRecorder where
  outputOffset : ℕ := 0
  seq : ℕ := 0
  /-- The values of the runes typed since the last submitted line. -/
  line : List ℕ := []
  current : Option CommandEvent := none
  sensitivePrompt : Bool := false
  events : List CommandEvent := []
  outputFile : Bytes := []
  auditSink : List Bytes := []
  deriving DecidableEq

/-! ## Previews -/

def isASCIILetter (value : ℕ) : Bool :=
  (0x41 ≤ value && value ≤ 0x5A) || (0x61 ≤ value && value ≤ 0x7A)

/-- What follows an OSC sequence: it ends with BEL, or with ESC and a backslash. -/
def skipOSC : List ℕ → List ℕ
  | [] => []
  | 0x07 :: rest => rest
  | 0x1B :: 0x5C :: rest => rest
  | _ :: rest => skipOSC rest

/-- The printable part of a text, read in at most `fuel` steps: control sequences are dropped, a
carriage return is a line end. -/
def stripControlsUpTo : ℕ → List ℕ → List ℕ
  | 0, _ => []
  | _ + 1, [] => []
  | fuel + 1, 0x1B :: 0x5B :: rest =>
    stripControlsUpTo fuel ((rest.dropWhile fun value => !isASCIILetter value).drop 1)
  | fuel + 1, 0x1B :: 0x5D :: rest => stripControlsUpTo fuel (skipOSC rest)
  | fuel + 1, value :: rest =>
    if value = 0x1B then stripControlsUpTo fuel rest
    else if value = 0x0D then 0x0A :: stripControlsUpTo fuel rest
    else if value = 0x09 ∨ value = 0x0A then value :: stripControlsUpTo fuel rest
    else if 0x20 ≤ value ∧ value ≠ 0x7F then value :: stripControlsUpTo fuel rest
    else stripControlsUpTo fuel rest

def stripControlPreview (text : Bytes) : Bytes :=
  let values := (Utf8.runes text).map Utf8.Rune.lossy
  Utf8.trimSpace ((stripControlsUpTo values.length values).flatMap Utf8.encode)

def maxPreview : ℕ := 4096

/-! ## Recording -/

namespace CommandRecorder

variable (redactor : AuditRedactor)

def markSensitivePrompt (r : CommandRecorder) : CommandRecorder :=
  { r with sensitivePrompt := true }

/-- Write the current command out. -/
def flushCurrentLocked (r : CommandRecorder) : CommandRecorder :=
  match r.current with
  | none => r
  | some event =>
    let stripped := Utf8.trimSpace (stripControlPreview event.preview)
    { r with
      current := none
      events := r.events ++ [{ event with preview := redactor.redact .output stripped }]
      auditSink :=
        if event.auditSinkWritten then r.auditSink else r.auditSink ++ [event.command] }

/-- Start a command after writing out the one before it. -/
def startCommand (r : CommandRecorder) (command : Bytes) (confidence : Confidence) :
    CommandRecorder :=
  let r := r.flushCurrentLocked redactor
  { r with
    seq := r.seq + 1
    current := some
      { seq := r.seq + 1
        command := redactor.redact .command command
        outputOffset := r.outputOffset
        auditDataRedacted := redactor.redactionEnabled
        confidence := confidence } }

/-- The text of an edited line: tabs are blanks, and blanks around it are dropped. -/
def lineText (line : List ℕ) : Bytes :=
  Utf8.trimSpace ((line.flatMap Utf8.encode).map fun byte => if byte = 0x09 then 0x20 else byte)

def submitLineLocked (r : CommandRecorder) : CommandRecorder :=
  let command := lineText r.line
  let r := { r with line := [] }
  if command = [] then r
  else if r.sensitivePrompt then { r with sensitivePrompt := false }
  else r.startCommand redactor command .edited

/-- Type one rune. -/
def observeRune (r : CommandRecorder) (value : ℕ) : CommandRecorder :=
  if value = 0x0D ∨ value = 0x0A then r.submitLineLocked redactor
  else if value = 0x08 ∨ value = 0x7F then { r with line := r.line.dropLast }
  else if value = 0x09 then { r with line := r.line ++ [value] }
  else if 0x20 ≤ value ∧ value ≠ 0x1B then { r with line := r.line ++ [value] }
  else r

def observeInput (r : CommandRecorder) (data : Bytes) : CommandRecorder :=
  ((Utf8.runes data).map Utf8.Rune.lossy).foldl (observeRune redactor) r

def observeOutput (r : CommandRecorder) (data : Bytes) : CommandRecorder :=
  if data.length = 0 then r
  else
    let r := if isSensitivePrompt data then { r with sensitivePrompt := true } else r
    match r.current with
    | none => r
    | some event =>
      { r with
        outputOffset := r.outputOffset + data.length
        outputFile := r.outputFile ++ data
        current := some
          { event with
            outputBytes := event.outputBytes + data.length
            preview := event.preview ++ data.take (maxPreview - event.preview.length) } }

/-- Record a command that came with a request, and give it to the audit sink at once. -/
def recordDirect (r : CommandRecorder) (command : Bytes) : CommandRecorder :=
  let command := Utf8.trimSpace command
  if command = [] then r
  else
    let r := r.startCommand redactor command .exact
    { r with
      auditSink := r.auditSink ++ [redactor.redact .command command]
      current := r.current.map fun event => { event with auditSinkWritten := true } }

def close (r : CommandRecorder) : CommandRecorder :=
  r.flushCurrentLocked redactor

end CommandRecorder
end Jianmen.Recording
