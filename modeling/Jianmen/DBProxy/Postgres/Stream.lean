import Jianmen.DBProxy.PreviewRedaction
import Jianmen.DBProxy.Postgres.Messages

/-!
# Streamed PostgreSQL frontend frames

A frame too large to buffer is passed on in chunks while a parser follows its payload.  The
parser keeps the names, the first bytes of the statement and enough of the rest to tell whether
the payload is well formed.
-/

namespace Jianmen.DBProxy

open Postgres

def postgresStreamNameBytes : ℕ := 4 * 1024

/-- Why a parser gives up: the payload is malformed, or storing the statement failed. -/
inductive StreamError where
  | malformed (message : String)
  | artifactWrite
  deriving DecidableEq

def StreamError.code : StreamError → ErrorCode
  | .malformed _ => .protocol
  | .artifactWrite => .auditFailure

def StreamError.message : StreamError → String
  | .malformed message => message
  | .artifactWrite => "database audit artifact write failed"

/-! ## The tail of a Bind -/

inductive PostgresBindPhase where
  | formatCount
  | formatCode
  | parameterCount
  | parameterLength
  | parameterValue
  | resultCount
  | resultCode
  | complete
  deriving DecidableEq

structure PostgresBindStreamValidator where
  phase : PostgresBindPhase := .formatCount
  scratch : Bytes := []
  formatCount : ℕ := 0
  formatRemaining : ℕ := 0
  parameterRemaining : ℕ := 0
  parameterValueBytes : ℕ := 0
  resultRemaining : ℕ := 0
  deriving DecidableEq

namespace PostgresBindStreamValidator

/-- Collect bytes of a number of `width` bytes: the number when it is complete, and the rest. -/
def readNumber (v : PostgresBindStreamValidator) (width : ℕ) (data : Bytes) :
    PostgresBindStreamValidator × Bytes × Option Bytes :=
  let needed := min (width - v.scratch.length) data.length
  let scratch := v.scratch ++ data.take needed
  if scratch.length < width then ({ v with scratch := scratch }, data.drop needed, none)
  else ({ v with scratch := [] }, data.drop needed, some scratch)

def readUint16 (v : PostgresBindStreamValidator) (data : Bytes) :=
  v.readNumber 2 data

def readInt32 (v : PostgresBindStreamValidator) (data : Bytes) :=
  v.readNumber 4 data

def finishParameter (v : PostgresBindStreamValidator) : PostgresBindStreamValidator :=
  { v with
    parameterRemaining := v.parameterRemaining - 1
    phase := if v.parameterRemaining - 1 = 0 then .resultCount else .parameterLength }

/-- What a complete number means in a phase that reads one. -/
def accept (v : PostgresBindStreamValidator) (number : Bytes) :
    Except StreamError PostgresBindStreamValidator :=
  match v.phase with
  | .formatCount =>
    .ok
      { v with
        formatCount := bigEndian number
        formatRemaining := bigEndian number
        phase := if bigEndian number = 0 then .parameterCount else .formatCode }
  | .formatCode =>
    if 1 < bigEndian number then
      .error (.malformed "malformed streamed PostgreSQL Bind format code")
    else
      .ok
        { v with
          formatRemaining := v.formatRemaining - 1
          phase := if v.formatRemaining - 1 = 0 then .parameterCount else .formatCode }
  | .parameterCount =>
    if v.formatCount ≠ 0 ∧ v.formatCount ≠ 1 ∧ v.formatCount ≠ bigEndian number then
      .error (.malformed "malformed streamed PostgreSQL Bind format count")
    else
      .ok
        { v with
          parameterRemaining := bigEndian number
          phase := if bigEndian number = 0 then .resultCount else .parameterLength }
  | .parameterLength =>
    if int32 number < -1 then
      .error (.malformed "malformed streamed PostgreSQL Bind parameter length")
    else if int32 number ≤ 0 then .ok v.finishParameter
    else
      .ok
        { v with
          parameterValueBytes := (int32 number).toNat
          phase := .parameterValue }
  | .resultCount =>
    .ok
      { v with
        resultRemaining := bigEndian number
        phase := if bigEndian number = 0 then .complete else .resultCode }
  | .resultCode =>
    if 1 < bigEndian number then
      .error (.malformed "malformed streamed PostgreSQL Bind result format code")
    else
      .ok
        { v with
          resultRemaining := v.resultRemaining - 1
          phase := if v.resultRemaining - 1 = 0 then .complete else .resultCode }
  | .parameterValue | .complete => .ok v

/-- One pass of the loop over the bytes of a chunk. -/
def pass (v : PostgresBindStreamValidator) (data : Bytes) :
    Except StreamError (PostgresBindStreamValidator × Bytes) :=
  match v.phase with
  | .complete => .error (.malformed "malformed streamed PostgreSQL Bind trailing data")
  | .parameterValue =>
    let consume := min data.length v.parameterValueBytes
    let v := { v with parameterValueBytes := v.parameterValueBytes - consume }
    .ok (if v.parameterValueBytes = 0 then v.finishParameter else v, data.drop consume)
  | phase =>
    let read := if phase = .parameterLength then v.readInt32 data else v.readUint16 data
    match read.2.2 with
    | none => .ok (read.1, read.2.1)
    | some number => (read.1.accept number).map fun v => (v, read.2.1)

/-- Consume a chunk in at most `fuel` passes. -/
def consumeUpTo : ℕ → PostgresBindStreamValidator → Bytes →
    Except StreamError PostgresBindStreamValidator
  | 0, v, _ => .ok v
  | fuel + 1, v, data =>
    if data.length = 0 then .ok v
    else
      match v.pass data with
      | .error error => .error error
      | .ok (v, rest) => consumeUpTo fuel v rest

def consume (v : PostgresBindStreamValidator) (data : Bytes) :
    Except StreamError PostgresBindStreamValidator :=
  consumeUpTo data.length v data

def isComplete (v : PostgresBindStreamValidator) : Bool :=
  v.phase == .complete && v.scratch.isEmpty

end PostgresBindStreamValidator

/-! ## The parser -/

structure PostgresStreamParser where
  messageType : MessageType
  phase : ℕ := 0
  name : Bytes := []
  statement : Bytes := []
  preview : Bytes := []
  previewMax : ℕ
  previewCaptureMax : ℕ
  sqlBytes : ℕ := 0
  redact : Bool
  /-- Whether a capture of the statement is open. -/
  capturing : Bool := false
  artifact : DatabaseAuditArtifact := .zero
  parameterArtifact : DatabaseAuditArtifact := .zero
  countBuf : Bytes := []
  typeBytes : ℕ := 0
  bind : PostgresBindStreamValidator := {}
  deriving DecidableEq

def newPostgresStreamParser (messageType : MessageType) (previewBytes : ℕ) (redact : Bool) :
    PostgresStreamParser where
  messageType := messageType
  previewMax := previewBytes
  previewCaptureMax := if redact ∧ 0 < previewBytes then previewBytes + 256 else previewBytes
  redact := redact

/-- Extend a name by the bytes up to a zero byte: the name, the rest and whether it is complete. -/
def appendPostgresStreamCString (current data : Bytes) : Except StreamError (Bytes × Bytes × Bool) :=
  let part := data.takeWhile (· != 0)
  if postgresStreamNameBytes - current.length < part.length then
    .error (.malformed "PostgreSQL streamed object name exceeds 4096 bytes")
  else if data.contains 0 then
    .ok (current ++ part, (data.dropWhile (· != 0)).drop 1, true)
  else .ok (current ++ part, [], false)

namespace PostgresStreamParser

variable (sink : QuerySink)

/-- What a parser does to the calls made on the sink, and its result. -/
abbrev Consumed := List SinkCall × Except StreamError PostgresStreamParser

/-- Store a part of the statement and keep what of it fits into the preview. -/
def appendSQL (p : PostgresStreamParser) (calls : List SinkCall) (data : Bytes) : Consumed :=
  if data.length = 0 then (calls, .ok p)
  else
    let kept :=
      { p with
        sqlBytes := p.sqlBytes + data.length
        preview := p.preview ++ data.take (p.previewCaptureMax - p.preview.length) }
    match sink.artifacts, p.capturing with
    | some store, true =>
      let written := store.writeCapture calls data
      let calls := calls ++ [.writeCapture data written]
      if !written then (calls, .error .artifactWrite) else (calls, .ok kept)
    | _, _ => (calls, .ok kept)

def consumeQuery (p : PostgresStreamParser) (calls : List SinkCall) (data : Bytes)
    (final : Bool) : Consumed :=
  let malformed : Consumed := (calls, .error (.malformed "malformed streamed PostgreSQL Query"))
  if p.phase ≠ 0 then malformed
  else if !final then
    if data.contains 0 then malformed else p.appendSQL sink calls data
  else if data.length = 0 ∨ data.getLast? ≠ some 0 ∨ data.dropLast.contains 0 then malformed
  else
    match p.appendSQL sink calls data.dropLast with
    | (calls, .error error) => (calls, .error error)
    | (calls, .ok p) => (calls, .ok { p with phase := 1 })

/-- Extend a name, and go to the next phase when it is complete. -/
def consumeName (p : PostgresStreamParser) (current data : Bytes) (next : ℕ)
    (store : PostgresStreamParser → Bytes → PostgresStreamParser) :
    Except StreamError (PostgresStreamParser × Bytes) :=
  (appendPostgresStreamCString current data).map fun appended =>
    let p := store p appended.1
    if appended.2.2 then ({ p with phase := next }, appended.2.1) else (p, [])

/-- One pass of the loop over the bytes of a Parse: the calls, the parser and the rest. -/
def parsePass (p : PostgresStreamParser) (calls : List SinkCall) (data : Bytes) :
    List SinkCall × Except StreamError (PostgresStreamParser × Bytes) :=
  match p.phase with
  | 0 => (calls, p.consumeName p.name data 1 fun p name => { p with name := name })
  | 1 =>
    let appended := p.appendSQL sink calls (data.takeWhile (· != 0))
    (appended.1, appended.2.map fun p =>
      if data.contains 0 then ({ p with phase := 2 }, (data.dropWhile (· != 0)).drop 1)
      else (p, []))
  | 2 =>
    let needed := min (2 - p.countBuf.length) data.length
    let p := { p with countBuf := p.countBuf ++ data.take needed }
    if p.countBuf.length < 2 then (calls, .ok (p, []))
    else
      let typeBytes := bigEndian p.countBuf * 4
      (calls, .ok ({ p with
        typeBytes := typeBytes
        phase := if typeBytes = 0 then 4 else 3 }, data.drop needed))
  | 3 =>
    let consume := min p.typeBytes data.length
    let p := { p with typeBytes := p.typeBytes - consume }
    (calls, .ok (if p.typeBytes = 0 then { p with phase := 4 } else p, data.drop consume))
  | _ => (calls, .error (.malformed "malformed streamed PostgreSQL Parse"))

/-- One pass of the loop over the bytes of a Bind. -/
def bindPass (p : PostgresStreamParser) (calls : List SinkCall) (data : Bytes) :
    List SinkCall × Except StreamError (PostgresStreamParser × Bytes) :=
  match p.phase with
  | 0 => (calls, p.consumeName p.name data 1 fun p name => { p with name := name })
  | 1 =>
    (calls, p.consumeName p.statement data 2 fun p statement =>
      { p with statement := statement })
  | _ => (calls, (p.bind.consume data).map fun bind => ({ p with bind := bind }, []))

/-- Consume a chunk in at most `fuel` passes. -/
def consumeUpTo
    (pass : PostgresStreamParser → List SinkCall → Bytes →
      List SinkCall × Except StreamError (PostgresStreamParser × Bytes)) :
    ℕ → PostgresStreamParser → List SinkCall → Bytes → Consumed
  | 0, p, calls, _ => (calls, .ok p)
  | fuel + 1, p, calls, data =>
    if data.length = 0 then (calls, .ok p)
    else
      match pass p calls data with
      | (calls, .error error) => (calls, .error error)
      | (calls, .ok (p, rest)) => consumeUpTo pass fuel p calls rest

def consumeParse (p : PostgresStreamParser) (calls : List SinkCall) (data : Bytes) : Consumed :=
  consumeUpTo (parsePass sink) data.length p calls data

def consumeBind (p : PostgresStreamParser) (calls : List SinkCall) (data : Bytes) : Consumed :=
  consumeUpTo bindPass data.length p calls data

def consume (p : PostgresStreamParser) (calls : List SinkCall) (data : Bytes) (final : Bool) :
    Consumed :=
  if p.messageType = queryType then p.consumeQuery sink calls data final
  else if p.messageType = parseType then p.consumeParse sink calls data
  else if p.messageType = bindType then p.consumeBind calls data
  else (calls, .error (.malformed "unsupported streamed PostgreSQL message"))

/-- The audit text of a statement of which no preview could be kept. -/
def omittedPreview : Bytes :=
  ascii "/* SQL audit preview omitted: global memory budget exhausted */"

/-- The audit copy of the streamed statement. -/
def audit (p : PostgresStreamParser) : DatabaseSQLAudit :=
  let adjusted :=
    if p.redact then redactDatabaseSQLWithLimit p.preview p.previewMax
    else normalizeAuditSQLUTF8 p.preview p.previewMax
  { text := if p.previewMax = 0 ∧ 0 < p.sqlBytes then omittedPreview else adjusted.1
    originalBytes := p.sqlBytes
    truncated := adjusted.2 || decide (p.preview.length < p.sqlBytes)
    artifact := p.artifact }

end PostgresStreamParser

/-! ## The stream -/

structure PostgresClientFrameStream where
  messageType : MessageType
  remaining : ℕ
  forward : Bool
  reject : Option QueryDecision := none
  parser : Option PostgresStreamParser := none
  /-- Whether a capture of the whole frame is open. -/
  frameCapture : Bool := false
  /-- The bytes leased from the shared memory budget. -/
  lease : Option ℕ := none
  deriving DecidableEq

namespace PostgresClientFrameStream

variable (sink : QuerySink)

/-- What closing a stream does to the sink: open captures are aborted. -/
def closeCalls : Option PostgresClientFrameStream → List SinkCall
  | none => []
  | some stream =>
    (if stream.parser.any (·.capturing) then [.abortCapture] else []) ++
      if stream.frameCapture then [.abortCapture] else []

/-- Store a chunk of a frame that is captured as a whole; the frame is rejected when that fails. -/
def storeChunk (stream : PostgresClientFrameStream) (calls : List SinkCall) (chunk : Bytes) :
    List SinkCall × PostgresClientFrameStream :=
  match sink.artifacts, stream.frameCapture with
  | some store, true =>
    let written := store.writeCapture calls chunk
    let calls := calls ++ [.writeCapture chunk written]
    if written then (calls, stream)
    else
      (calls ++ [.abortCapture],
        { stream with
          frameCapture := false
          forward := false
          reject := some (newObserverFatalDecision .auditFailure
            "database parameter audit recording failed") })
  | _, _ => (calls, stream)

/-- Parse a chunk of a frame that is not rejected; the frame is rejected when that fails. -/
def parseChunk (stream : PostgresClientFrameStream) (calls : List SinkCall) (chunk : Bytes) :
    List SinkCall × PostgresClientFrameStream :=
  match stream.parser, stream.reject with
  | some parser, none =>
    match parser.consume sink calls chunk (decide (stream.remaining = 0)) with
    | (calls, .ok parser) => (calls, { stream with parser := some parser })
    | (calls, .error error) =>
      (calls ++ closeCalls (some stream),
        { stream with
          parser := none
          frameCapture := false
          forward := false
          reject := some (newObserverFatalDecision error.code error.message) })
  | _, _ => (calls, stream)

/-- Follow a chunk of the payload. -/
def follow (stream : PostgresClientFrameStream) (calls : List SinkCall) (chunk : Bytes) :
    List SinkCall × PostgresClientFrameStream :=
  let stored := stream.storeChunk sink calls chunk
  stored.2.parseChunk sink stored.1 chunk

end PostgresClientFrameStream

/-- A budget shared with the other connections: whether the n-th request for a number of bytes is
granted depends on them, so it is a parameter. -/
structure ObserverMemoryBudget where
  grants : ℕ → ℕ → Bool

/-- The lease that the n-th request gets; nothing is leased for no bytes. -/
def ObserverMemoryBudget.tryAcquire (shared : ObserverMemoryBudget) (leases size : ℕ) : Option ℕ :=
  if 0 < size ∧ shared.grants leases size then some size else none

/-- A new stream, the calls made on the sink and the requests made to the budget. -/
def newPostgresClientFrameStream (sink : QuerySink) (budget : Option ObserverMemoryBudget)
    (calls : List SinkCall) (leases : ℕ) (messageType : MessageType) (payloadBytes : ℕ)
    (forward : Bool) (reject : Option QueryDecision) :
    List SinkCall × ℕ × PostgresClientFrameStream :=
  let stream : PostgresClientFrameStream :=
    { messageType := messageType, remaining := payloadBytes, forward := forward, reject := reject }
  if !forward ∨ (messageType ≠ queryType ∧ messageType ≠ parseType ∧ messageType ≠ bindType) then
    (calls, leases, stream)
  else
    let policy := databaseAuditPolicy sink postgresStreamAuditPreviewBytes
    let granted := budget.all fun shared => shared.grants leases (policy.1 * 8)
    let previewBytes := if granted then policy.1 else 0
    let stream :=
      { stream with lease := budget.bind fun shared => shared.tryAcquire leases (policy.1 * 8) }
    let leases := if budget.isSome then leases + 1 else leases
    let parser := newPostgresStreamParser messageType previewBytes policy.2
    match sink.artifacts with
    | none => (calls, leases, { stream with parser := some parser })
    | some store =>
      let kind : ArtifactKind := if messageType = bindType then .parameters else .sql
      let opened := store.beginCapture calls kind
      let calls := calls ++ [.beginCapture kind opened]
      if !opened then
        (calls, leases,
          { stream with
            forward := false
            reject := some (newObserverFatalDecision .auditFailure
              "database full audit recording failed") })
      else if messageType = bindType then
        (calls, leases, { stream with parser := some parser, frameCapture := true })
      else (calls, leases, { stream with parser := some { parser with capturing := true } })

end Jianmen.DBProxy
