import Jianmen.Library.Base64
import Mathlib.Algebra.Ring.Int.Defs
import Mathlib.Algebra.Ring.Nat
import Mathlib.Data.Int.Notation
import Mathlib.Data.List.Basic
import Mathlib.Data.Nat.Notation
import Mathlib.Tactic.Common

/-!
# Channels of a remote desktop

A relay passes Guacamole instructions between a browser and a remote desktop.  The filter of each
direction looks at those that open a stream or move data: what the policy of the session or the
direction forbids is dropped, together with the rest of its stream, and every decision is recorded
before the instruction goes on.
-/

namespace Jianmen.WebRDP

/-! ## Instructions and events -/

structure Instruction where
  opcode : String
  args : List String
  deriving DecidableEq

structure WebRDPChannelPolicy where
  clipboardRead : Bool
  clipboardWrite : Bool
  fileUpload : Bool
  fileDownload : Bool
  driveMapping : Bool

inductive Direction where
  | browserToRemote
  | remoteToBrowser
  deriving DecidableEq

inductive Channel where
  | clipboard
  | file
  | drive
  deriving DecidableEq

inductive Outcome where
  | allowed
  | denied
  deriving DecidableEq

structure AuditRDPChannelEvent where
  auditSessionId : String
  channel : Channel
  direction : Direction
  operation : String
  bytes : ℤ
  outcome : Outcome
  reason : String
  deriving DecidableEq

/-! ## Validation -/

def maxTrackedChannelStreams : ℕ := 256
def maxChannelAuditEvents : ℕ := 4096

/-- `strconv.ParseUint` in base ten, for numbers below `bound`. -/
def parseUint (raw : String) (bound : ℕ) : Option ℕ :=
  if raw.toList.isEmpty || !raw.toList.all Char.isDigit then none
  else
    let index := raw.toList.foldl (fun index digit => 10 * index + (digit.toNat - '0'.toNat)) 0
    if index < bound then some index else none

def validateGuacamoleIndex (name raw : String) : Except String Unit :=
  match parseUint raw 2147483648 with
  | some index =>
    if raw = toString index then .ok ()
    else .error ("RDP " ++ name ++ " ID must be a canonical non-negative 31-bit integer")
  | none => .error ("RDP " ++ name ++ " ID must be a canonical non-negative 31-bit integer")

/-- How many arguments an instruction has. -/
def wantArgs (opcode : String) : ℕ :=
  if opcode = "clipboard" then 2
  else if opcode = "file" then 3
  else if opcode = "put" then 4
  else if opcode = "get" then 2
  else if opcode = "body" then 4
  else if opcode = "filesystem" then 2
  else 0

def argument (instruction : Instruction) (index : ℕ) : String :=
  instruction.args.getD index ""

def firstArg (instruction : Instruction) : String :=
  argument instruction 0

def validateChannelInstruction (instruction : Instruction) : Except String Unit :=
  let opcode := instruction.opcode
  if instruction.args.length ≠ wantArgs opcode then
    .error ("RDP " ++ opcode ++ " instruction has " ++ toString instruction.args.length ++
      " arguments; want " ++ toString (wantArgs opcode))
  else if opcode = "put" ∨ opcode = "body" then do
    validateGuacamoleIndex (opcode ++ " object") (argument instruction 0)
    validateGuacamoleIndex (opcode ++ " stream") (argument instruction 1)
  else if opcode = "get" ∨ opcode = "filesystem" then
    validateGuacamoleIndex (opcode ++ " object") (argument instruction 0)
  else validateGuacamoleIndex (opcode ++ " stream") (argument instruction 0)

/-- The stream that an instruction opens. -/
def channelStreamID (instruction : Instruction) : Option String :=
  if instruction.opcode = "clipboard" ∨ instruction.opcode = "file" then some (firstArg instruction)
  else if instruction.opcode = "put" ∨ instruction.opcode = "body" then some (argument instruction 1)
  else none

/-! ## The filter -/

structure ChannelStream where
  channel : Channel
  bytes : ℤ := 0
  deriving DecidableEq

/-- The filter of one direction.  The maps of the source are lists: a stream is added only when it
is in neither of them. -/
structure ChannelFilter where
  sessionId : String
  direction : Direction
  policy : WebRDPChannelPolicy
  blocked : List String := []
  streams : List (String × ChannelStream) := []
  auditEvents : ℕ := 0

def newChannelFilter (sessionId : String) (direction : Direction) (policy : WebRDPChannelPolicy) :
    ChannelFilter :=
  { sessionId := sessionId, direction := direction, policy := policy }

/-- A number as a signed 64-bit word. -/
def int64 (number : ℤ) : ℤ :=
  number.bmod 18446744073709551616

/-- What a blob decodes to. -/
def decodedBlob (encoded : String) : Except Base64.DecodeError (List UInt8) :=
  Base64.decodeStream ⟨true, true⟩ encoded.toByteArray.data.toList

/-- The size of a decoded blob, counted in 64 bits. -/
def decodedBlobSize (encoded : String) : Except String ℤ :=
  match decodedBlob encoded with
  | .ok data => .ok (int64 data.length)
  | .error (.corrupt offset) => .error ("illegal base64 data at input byte " ++ toString offset)
  | .error .unexpectedEOF => .error "unexpected EOF"

/-- A call of the filter, with the error that the store would give for an event. -/
structure Call where
  instruction : Instruction
  failure : Option String := none

/-- What the filter answered, and the event it stored. -/
structure Answer where
  instruction : Instruction
  allowed : Bool
  event : Option AuditRDPChannelEvent := none
  deriving DecidableEq

def quoted (streamId : String) : String :=
  "\"" ++ streamId ++ "\""

namespace ChannelFilter

/-- The channel of an instruction, whether it is allowed, and what forbids it besides the policy. -/
def channelDecision (filter : ChannelFilter) (opcode : String) : Option (Channel × Bool × String) :=
  let browserToRemote := filter.direction == .browserToRemote
  if opcode = "clipboard" then
    if browserToRemote then some (.clipboard, filter.policy.clipboardWrite, "")
    else some (.clipboard, filter.policy.clipboardRead, "")
  else if opcode = "file" then
    if browserToRemote then some (.file, filter.policy.fileUpload, "")
    else some (.file, filter.policy.fileDownload, "")
  else if opcode = "put" then
    if !browserToRemote then some (.file, false, "put is only valid from browser to remote")
    else some (.file, filter.policy.fileUpload, "")
  else if opcode = "get" then
    if !browserToRemote then some (.file, false, "get is only valid from browser to remote")
    else some (.file, filter.policy.fileDownload, "")
  else if opcode = "body" then
    if browserToRemote then some (.file, false, "body is only valid from remote to browser")
    else some (.file, filter.policy.fileDownload, "")
  else if opcode = "filesystem" then
    if browserToRemote then some (.drive, false, "filesystem is only valid from remote to browser")
    else some (.drive, filter.policy.driveMapping, "")
  else none

/-- Store an event, if there is room for it. -/
def writeAuditEvent (filter : ChannelFilter) (failure : Option String) (channel : Channel)
    (operation : String) (outcome : Outcome) (reason : String) (bytes : ℤ) :
    Except String (AuditRDPChannelEvent × ChannelFilter) :=
  if filter.auditEvents ≥ maxChannelAuditEvents then
    .error ("RDP channel audit event limit of " ++ toString maxChannelAuditEvents ++ " exceeded")
  else
    match failure with
    | some cause => .error ("record RDP channel event: " ++ cause)
    | none =>
      .ok ({ auditSessionId := filter.sessionId, channel := channel, direction := filter.direction,
             operation := operation, bytes := bytes, outcome := outcome, reason := reason },
        { filter with auditEvents := filter.auditEvents + 1 })

/-- A stream may be opened. -/
def checkStream (filter : ChannelFilter) (streamId : String) : Except String Unit :=
  if filter.blocked.contains streamId then
    .error ("RDP channel stream " ++ quoted streamId ++ " was reused before end")
  else if (filter.streams.lookup streamId).isSome then
    .error ("RDP channel stream " ++ quoted streamId ++ " was reused before end")
  else if filter.blocked.length + filter.streams.length ≥ maxTrackedChannelStreams then
    .error ("RDP channel stream limit of " ++ toString maxTrackedChannelStreams ++ " exceeded")
  else .ok ()

def allowBlob (filter : ChannelFilter) (instruction : Instruction) :
    Except String (Answer × ChannelFilter) :=
  if instruction.args.length ≠ 2 then
    .error "RDP blob instruction must contain a stream ID and data"
  else do
    let streamId := firstArg instruction
    validateGuacamoleIndex "blob stream" streamId
    if filter.blocked.contains streamId then
      .ok ({ instruction := instruction, allowed := false }, filter)
    else
      match filter.streams.lookup streamId with
      | none => .ok ({ instruction := instruction, allowed := true }, filter)
      | some stream =>
        match decodedBlobSize (argument instruction 1) with
        | .error cause =>
          .error ("decode RDP blob for stream " ++ quoted streamId ++ ": " ++ cause)
        | .ok size =>
          let total := int64 (stream.bytes + size)
          if total < stream.bytes then
            .error ("RDP channel stream " ++ quoted streamId ++ " byte count overflow")
          else
            .ok ({ instruction := instruction, allowed := true },
              { filter with
                streams := filter.streams.map fun entry =>
                  if entry.1 = streamId then (entry.1, { stream with bytes := total })
                  else entry })

def allowEnd (filter : ChannelFilter) (failure : Option String) (instruction : Instruction) :
    Except String (Answer × ChannelFilter) :=
  if instruction.args.length ≠ 1 then
    .error "RDP end instruction must contain exactly one stream ID"
  else do
    let streamId := firstArg instruction
    validateGuacamoleIndex "end stream" streamId
    if filter.blocked.contains streamId then
      .ok ({ instruction := instruction, allowed := false },
        { filter with blocked := filter.blocked.filter (· != streamId) })
    else
      match filter.streams.lookup streamId with
      | none => .ok ({ instruction := instruction, allowed := true }, filter)
      | some stream =>
        let (event, filter) ← filter.writeAuditEvent failure stream.channel instruction.opcode
          .allowed "" stream.bytes
        .ok ({ instruction := instruction, allowed := true, event := some event },
          { filter with streams := filter.streams.filter fun entry => entry.1 != streamId })

/-- Follow a stream that is opened. -/
def openStream (filter : ChannelFilter) (channel : Channel) (allowed : Bool) (streamId : String) :
    ChannelFilter :=
  if allowed then
    { filter with streams := filter.streams ++ [(streamId, { channel := channel })] }
  else { filter with blocked := filter.blocked ++ [streamId] }

/-- `Allow`. -/
def allow (filter : ChannelFilter) (call : Call) :
    Except String (Answer × ChannelFilter) :=
  let instruction := call.instruction
  if instruction.opcode = "blob" then filter.allowBlob instruction
  else if instruction.opcode = "end" then filter.allowEnd call.failure instruction
  else
    match filter.channelDecision instruction.opcode with
    | none => .ok ({ instruction := instruction, allowed := true }, filter)
    | some (channel, allowed, denialReason) => do
        validateChannelInstruction instruction
        match channelStreamID instruction with
        | some streamId => filter.checkStream streamId
        | none => .ok ()
        let outcome := if allowed then .allowed else .denied
        let reason :=
          if allowed then ""
          else if denialReason = "" then "channel disabled by effective policy"
          else denialReason
        let (event, filter) ← filter.writeAuditEvent call.failure channel instruction.opcode outcome
          reason 0
        .ok ({ instruction := instruction, allowed := allowed, event := some event },
          match channelStreamID instruction with
          | some streamId => filter.openStream channel allowed streamId
          | none => filter)

/-- Instructions are given to the filter until it returns an error. -/
def run : ChannelFilter → List Call → List Answer × ChannelFilter
  | filter, [] => ([], filter)
  | filter, call :: rest =>
    match filter.allow call with
    | .error _ => ([], filter)
    | .ok (answer, next) =>
      let (answers, last) := run next rest
      (answer :: answers, last)

end ChannelFilter

end Jianmen.WebRDP
