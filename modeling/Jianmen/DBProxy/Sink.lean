import Mathlib.Algebra.Ring.Int.Defs
import Mathlib.Algebra.Ring.Nat
import Mathlib.Data.List.Basic
import Mathlib.Tactic.Common

/-!
# Observer policy and the audit sink

The vocabulary shared by the three protocol observers: decisions, error codes, the buffer
policy, and the audit sink an observer reports to.  The sink is arbitrary code, so it is a
parameter: each answer is a function of the calls made on it so far, which covers every
stateful sink, and an answer may be a panic.  An observer carries that list of calls.
-/

namespace Jianmen.DBProxy

open List

/-- Go byte slices and byte strings. -/
abbrev Bytes := List UInt8

/-- The bytes of an ASCII literal. -/
def ascii (literal : String) : Bytes :=
  literal.toList.map fun character => character.toNat.toUInt8

/-- The number written in little-endian bytes. -/
def littleEndian : Bytes → ℕ
  | [] => 0
  | byte :: rest => byte.toNat + 256 * littleEndian rest

theorem littleEndian_lt (bytes : Bytes) : littleEndian bytes < 256 ^ bytes.length := by
  induction bytes with
  | nil => exact Nat.one_pos
  | cons byte rest ih =>
    have small := byte.toNat_lt
    rw [littleEndian, List.length_cons, Nat.pow_succ]
    omega

/-- The number written in big-endian bytes. -/
def bigEndian (bytes : Bytes) : ℕ :=
  littleEndian bytes.reverse

/-- A number in decimal digits. -/
def decimal (number : ℕ) : Bytes :=
  (Nat.toDigits 10 number).map fun digit => digit.toNat.toUInt8

/-! ## Decisions -/

/-- Error codes: the observer's own ones, and any other text. -/
inductive ErrorCode where
  | bufferLimit
  | clientMessageLimit
  | protocol
  | pendingLimit
  | relay
  | drainTimeout
  | auditFailure
  | other (text : Bytes)
  deriving DecidableEq

/-- The text an error code is persisted as. -/
def ErrorCode.text : ErrorCode → Bytes
  | .bufferLimit => ascii "OBSERVER_BUFFER_LIMIT"
  | .clientMessageLimit => ascii "OBSERVER_CLIENT_MESSAGE_LIMIT"
  | .protocol => ascii "OBSERVER_PROTOCOL_ERROR"
  | .pendingLimit => ascii "OBSERVER_PENDING_LIMIT"
  | .relay => ascii "OBSERVER_RELAY_TERMINATED"
  | .drainTimeout => ascii "OBSERVER_DRAIN_TIMEOUT"
  | .auditFailure => ascii "OBSERVER_AUDIT_FAILURE"
  | .other text => text

/-- Statuses persisted with a query; `none` elsewhere stands for the empty text. -/
inductive QueryStatus where
  | success
  | error
  | unknown
  | policyDenied
  deriving DecidableEq

/-- The verdict on a query. -/
structure QueryDecision where
  allowed : Bool
  status : Option QueryStatus
  errorCode : ErrorCode
  errorMessage : String
  deriving DecidableEq

def newObserverRelayDecision : QueryDecision where
  allowed := false
  status := some .error
  errorCode := .relay
  errorMessage := "database proxy relay terminated"

def newObserverFatalDecision (code : ErrorCode) (message : String) : QueryDecision where
  allowed := false
  status := some .policyDenied
  errorCode := code
  errorMessage := message

def auditSinkFailureDecision : QueryDecision where
  allowed := false
  status := some .error
  errorCode := .auditFailure
  errorMessage := "database proxy audit persistence failed"

/-! ## Limits and buffers -/

def defaultMaxClientMessageBytes : ℕ := 10 * 1024 * 1024
def maxMySQLObserverBufferBytes : ℕ := 256 * 1024
def maxPostgresObserverBufferBytes : ℕ := 256 * 1024
def maxObserverPendingQueries : ℕ := 32
def maxObserverPreparedObjects : ℕ := 128
def postgresStreamAuditPreviewBytes : ℕ := 64 * 1024

def normalizeMaxClientMessageBytes (limit : Int) : ℕ :=
  if limit ≤ 0 then defaultMaxClientMessageBytes else limit.toNat

/-- Move as much of `data` into `buffer` as `limit` allows; `none` when the buffer is full. -/
def appendObserverBufferChunk (buffer data : Bytes) (limit : ℕ) : Option (Bytes × Bytes) :=
  if data.length = 0 then
    some (buffer, data)
  else if limit ≤ buffer.length then
    none
  else
    let appendLength := min data.length (limit - buffer.length)
    some (buffer ++ data.take appendLength, data.drop appendLength)

variable {buffer data buffer' data' : Bytes} {limit : ℕ} {first second calls : List SinkCall}

theorem appendObserverBufferChunk_cases
    (appended : appendObserverBufferChunk buffer data limit = some (buffer', data')) :
    buffer' ++ data' = buffer ++ data ∧ (0 < data.length → data'.length < data.length) ∧
      2 * data'.length + buffer'.length + (data.length - data'.length) =
        2 * data.length + buffer.length ∧
      data'.length ≤ data.length := by
  unfold appendObserverBufferChunk at appended
  split at appended
  · obtain ⟨rfl, rfl⟩ := appended
    exact ⟨rfl, by omega, by omega, Nat.le_refl _⟩
  split at appended
  · simp at appended
  obtain ⟨rfl, rfl⟩ := appended
  refine ⟨by simp, ?_, ?_, ?_⟩ <;>
    simp only [length_append, length_take, length_drop] <;> omega

theorem appendObserverBufferChunk_bounded
    (appended : appendObserverBufferChunk buffer data limit = some (buffer', data'))
    (bounded : buffer.length ≤ limit) : buffer'.length ≤ limit := by
  unfold appendObserverBufferChunk at appended
  repeat' split at appended
  · simp only [Option.some.injEq, Prod.mk.injEq] at appended
    rwa [← appended.1]
  · simp at appended
  · simp only [Option.some.injEq, Prod.mk.injEq] at appended
    rw [← appended.1]
    simp only [length_append, length_take]
    omega

/-- Where a relay loop stands: the observer, the chunk still to read and the bytes to forward. -/
structure Relaying (Observer : Type) where
  observer : Observer
  data : Bytes
  forward : Bytes

/-- What a relay call returns: the observer after it, the bytes to forward and the decision. -/
structure Relayed (Observer : Type) where
  observer : Observer
  forward : Bytes
  decision : Option QueryDecision

/-! ## Audit artifacts -/

/-- What a full-text capture is of. -/
inductive ArtifactKind where
  | sql
  | parameters
  deriving DecidableEq

/-- A stored section of the audit data file; a negative offset means there is none. -/
structure DatabaseAuditArtifact where
  offset : Int
  bytes : Int
  redacted : Bool
  deriving DecidableEq

/-- The zero value of a capture that failed. -/
def DatabaseAuditArtifact.zero : DatabaseAuditArtifact := ⟨0, 0, false⟩

/-- The artifact of a sink that captures nothing. -/
def DatabaseAuditArtifact.discarded : DatabaseAuditArtifact := ⟨-1, 0, false⟩

/-- The audit copy of a statement. -/
structure DatabaseSQLAudit where
  text : Bytes
  originalBytes : ℕ
  truncated : Bool
  artifact : DatabaseAuditArtifact
  deriving DecidableEq

/-! ## Records and finishes -/

/-- What a started query is, as the sink is told. -/
inductive AuditedCommand where
  | comQuery
  | comStmtPrepare
  | comStmtSendLongData (statementID parameterID : ℕ)
  | comStmtExecute (statementID : ℕ)
  | postgresQuery
  | postgresExecute
  | redis (command : Bytes)
  deriving DecidableEq

/-- The detail handed to the sink with the audit text. -/
structure QueryDetail where
  command : AuditedCommand
  /-- The prepared audit copy whose text is handed over, if it was prepared. -/
  audit : Option DatabaseSQLAudit
  /-- Stored parameters, for commands that carry some. -/
  parameters : Option DatabaseAuditArtifact
  deriving DecidableEq

/-- A started query, as the sink returned it. -/
structure QueryRecord where
  seq : Int
  sql : Bytes
  originalSQLBytes : ℕ
  sqlTruncated : Bool
  sqlArtifact : DatabaseAuditArtifact
  parameterArtifact : DatabaseAuditArtifact
  deriving DecidableEq

/-- Go's zero record. -/
def QueryRecord.zero : QueryRecord where
  seq := 0
  sql := []
  originalSQLBytes := 0
  sqlTruncated := false
  sqlArtifact := .zero
  parameterArtifact := .zero

/-- The detail of a finish, where an observer gives one. -/
inductive FinishDetail where
  | portalSuspended
  | commandTags (tags : List Bytes)
  deriving DecidableEq

/-- The outcome a query is finished with. -/
structure QueryFinish where
  status : Option QueryStatus := none
  errorCode : ErrorCode := .other []
  errorMessage : String := ""
  rowsAffected : Option Int := none
  detail : Option FinishDetail := none
  deriving DecidableEq

/-- Audit text already pending plus the next one stays within the message limit. -/
def observerPendingAuditWithinLimit (pending : List QueryRecord) (next : DatabaseSQLAudit)
    (limit : Int) : Bool :=
  let bound := normalizeMaxClientMessageBytes limit
  if bound < next.text.length then false else fits bound pending next.text.length
where
  fits (bound : ℕ) : List QueryRecord → ℕ → Bool
    | [], _ => true
    | record :: rest, total =>
      if bound - total < record.sql.length then false
      else fits bound rest (total + record.sql.length)

/-! ## The sink -/

/-- How a call of `StartQuery` ends. -/
inductive StartOutcome where
  | returned (record : QueryRecord) (decision : QueryDecision)
  | panicked
  deriving DecidableEq

/-- A call made on the sink, with what came of it. -/
inductive SinkCall where
  | start (sql : Bytes) (detail : QueryDetail) (outcome : StartOutcome)
  | finish (record : QueryRecord) (finish : QueryFinish) (returned : Bool)
  | beginCapture (kind : ArtifactKind) (opened : Bool)
  | writeCapture (data : Bytes) (written : Bool)
  | completeCapture (artifact : Option DatabaseAuditArtifact)
  | abortCapture
  deriving DecidableEq

/-- The optional full-text store of a sink; `false` and `none` are errors. -/
structure ArtifactSink where
  beginCapture : List SinkCall → ArtifactKind → Bool
  writeCapture : List SinkCall → Bytes → Bool
  completeCapture : List SinkCall → Option DatabaseAuditArtifact

/-- The optional audit policy of a sink. -/
structure AuditPolicy where
  previewBytes : Int
  redactionEnabled : Bool
  deriving DecidableEq

/-- An audit sink.  Every answer depends on the calls made so far. -/
structure QuerySink where
  startQuery : List SinkCall → Bytes → QueryDetail → StartOutcome
  /-- Whether the call returns rather than panics. -/
  finishQuery : List SinkCall → QueryRecord → QueryFinish → Bool
  policy : Option AuditPolicy
  artifacts : Option ArtifactSink

/-- `startObservedQuery`: the outcome of `StartQuery`, with a panic turned into `panicked`, and
the calls made on the sink so far. -/
def startObservedQuery (sink : QuerySink) (calls : List SinkCall) (sql : Bytes)
    (detail : QueryDetail) : List SinkCall × StartOutcome :=
  let outcome := sink.startQuery calls sql detail
  (calls ++ [.start sql detail outcome], outcome)

/-- The detail of a query started under a prepared audit copy. -/
def DatabaseSQLAudit.withDetail (audit : DatabaseSQLAudit) (command : AuditedCommand)
    (parameters : Option DatabaseAuditArtifact) : QueryDetail where
  command := command
  audit := some audit
  parameters := parameters

def startPreparedObservedSQLQuery (sink : QuerySink) (calls : List SinkCall)
    (audit : DatabaseSQLAudit) (command : AuditedCommand)
    (parameters : Option DatabaseAuditArtifact) : List SinkCall × StartOutcome :=
  startObservedQuery sink calls audit.text (audit.withDetail command parameters)

def finishObservedQuery (sink : QuerySink) (calls : List SinkCall) (record : QueryRecord)
    (finish : QueryFinish) : List SinkCall × Bool :=
  let returned := sink.finishQuery calls record finish
  (calls ++ [.finish record finish returned], returned)

/-- Capture a whole text in one go; `none` is an error. -/
def captureDatabaseAuditBytes (sink : QuerySink) (calls : List SinkCall) (kind : ArtifactKind)
    (data : Bytes) : List SinkCall × Option DatabaseAuditArtifact :=
  match sink.artifacts with
  | none => (calls, some .discarded)
  | some store =>
    let opened := store.beginCapture calls kind
    let calls := calls ++ [.beginCapture kind opened]
    if !opened then
      (calls, none)
    else
      let written := store.writeCapture calls data
      let calls := calls ++ [.writeCapture data written]
      if !written then
        (calls ++ [.abortCapture], none)
      else
        let artifact := store.completeCapture calls
        (calls ++ [.completeCapture artifact], artifact)

/-! ## What the calls amount to -/

/-- A call of `StartQuery`. -/
def SinkCall.isStart : SinkCall → Bool
  | .start .. => true
  | _ => false

/-- The command, the text and the record of a call that started a query and was allowed. -/
def SinkCall.allowedStart : SinkCall → Option (AuditedCommand × Bytes × QueryRecord)
  | .start sql detail (.returned record decision) =>
    if decision.allowed then some (detail.command, sql, record) else none
  | _ => none

/-- The record of a call that tried to finish a query. -/
def SinkCall.finishedRecord : SinkCall → Option QueryRecord
  | .finish record _ _ => some record
  | _ => none

/-- The allowed starts, oldest first. -/
def allowedStarts (calls : List SinkCall) : List (AuditedCommand × Bytes × QueryRecord) :=
  calls.filterMap SinkCall.allowedStart

/-- Records of the allowed starts, oldest first. -/
def allowedRecords (calls : List SinkCall) : List QueryRecord :=
  (allowedStarts calls).map fun start => start.2.2

/-- Records of the finish attempts, oldest first. -/
def finishAttempts (calls : List SinkCall) : List QueryRecord :=
  calls.filterMap SinkCall.finishedRecord

@[simp] theorem allowedStarts_append (first second : List SinkCall) :
    allowedStarts (first ++ second) = allowedStarts first ++ allowedStarts second :=
  filterMap_append

@[simp] theorem allowedRecords_append (first second : List SinkCall) :
    allowedRecords (first ++ second) = allowedRecords first ++ allowedRecords second := by
  simp [allowedRecords]

@[simp] theorem finishAttempts_append (first second : List SinkCall) :
    finishAttempts (first ++ second) = finishAttempts first ++ finishAttempts second :=
  filterMap_append

section Cons

variable (sql : Bytes) (detail : QueryDetail) (record : QueryRecord) (decision : QueryDecision)
  (finish : QueryFinish) (returned : Bool) (calls : List SinkCall)

@[simp] theorem allowedStarts_nil : allowedStarts [] = [] := rfl

@[simp] theorem allowedRecords_nil : allowedRecords [] = [] := rfl

@[simp] theorem finishAttempts_nil : finishAttempts [] = [] := rfl

@[simp] theorem allowedStarts_finish :
    allowedStarts (.finish record finish returned :: calls) = allowedStarts calls := rfl

@[simp] theorem allowedRecords_finish :
    allowedRecords (.finish record finish returned :: calls) = allowedRecords calls := rfl

@[simp] theorem finishAttempts_finish :
    finishAttempts (.finish record finish returned :: calls) = record :: finishAttempts calls :=
  rfl

@[simp] theorem allowedStarts_panicked :
    allowedStarts (.start sql detail .panicked :: calls) = allowedStarts calls := rfl

@[simp] theorem allowedRecords_panicked :
    allowedRecords (.start sql detail .panicked :: calls) = allowedRecords calls := rfl

@[simp] theorem allowedStarts_returned :
    allowedStarts (.start sql detail (.returned record decision) :: calls) =
      (if decision.allowed then [(detail.command, sql, record)] else []) ++
        allowedStarts calls := by
  cases allowed : decision.allowed <;> simp [allowedStarts, SinkCall.allowedStart, allowed]

@[simp] theorem allowedRecords_returned :
    allowedRecords (.start sql detail (.returned record decision) :: calls) =
      (if decision.allowed then [record] else []) ++ allowedRecords calls := by
  cases allowed : decision.allowed <;> simp [allowedRecords, allowed]

@[simp] theorem withDetail_command (audit : DatabaseSQLAudit) (command : AuditedCommand)
    (parameters : Option DatabaseAuditArtifact) :
    (audit.withDetail command parameters).command = command := rfl

@[simp] theorem finishAttempts_start (outcome : StartOutcome) :
    finishAttempts (.start sql detail outcome :: calls) = finishAttempts calls := rfl

end Cons

/-- Calls among which there is no start. -/
def NoStart (calls : List SinkCall) : Prop :=
  ∀ call ∈ calls, call.isStart = false

theorem NoStart.nil : NoStart [] := by
  simp [NoStart]

theorem NoStart.append (firstQuiet : NoStart first)
    (secondQuiet : NoStart second) : NoStart (first ++ second) :=
  forall_mem_append.mpr ⟨firstQuiet, secondQuiet⟩

theorem NoStart.finish (record : QueryRecord) (finish : QueryFinish) (returned : Bool) :
    NoStart [.finish record finish returned] := by
  simp [NoStart, SinkCall.isStart]

@[simp] theorem NoStart.allowedStarts (quiet : NoStart calls) :
    allowedStarts calls = [] := by
  refine filterMap_eq_nil_iff.mpr fun call member => ?_
  have notStart := quiet call member
  cases call <;> simp_all [SinkCall.isStart, SinkCall.allowedStart]

@[simp] theorem NoStart.allowedRecords (quiet : NoStart calls) :
    allowedRecords calls = [] := by
  simp [DBProxy.allowedRecords, quiet.allowedStarts]

/-- Calls that neither start nor finish a query. -/
def Quiet (calls : List SinkCall) : Prop :=
  NoStart calls ∧ finishAttempts calls = []

theorem Quiet.nil : Quiet [] :=
  ⟨NoStart.nil, rfl⟩

theorem Quiet.append (firstQuiet : Quiet first)
    (secondQuiet : Quiet second) : Quiet (first ++ second) :=
  ⟨firstQuiet.1.append secondQuiet.1, by simp [firstQuiet.2, secondQuiet.2]⟩

theorem Quiet.writeCapture (data : Bytes) (written : Bool) : Quiet [.writeCapture data written] :=
  ⟨by simp [NoStart, SinkCall.isStart], rfl⟩

theorem Quiet.beginCapture (kind : ArtifactKind) (opened : Bool) :
    Quiet [.beginCapture kind opened] :=
  ⟨by simp [NoStart, SinkCall.isStart], rfl⟩

theorem Quiet.completeCapture (artifact : Option DatabaseAuditArtifact) :
    Quiet [.completeCapture artifact] :=
  ⟨by simp [NoStart, SinkCall.isStart], rfl⟩

theorem Quiet.abortCapture : Quiet [.abortCapture] :=
  ⟨by simp [NoStart, SinkCall.isStart], rfl⟩

/-- A full-text capture neither starts nor finishes a query. -/
theorem captureDatabaseAuditBytes_calls (sink : QuerySink) (calls : List SinkCall)
    (kind : ArtifactKind) (data : Bytes) :
    ∃ more, (captureDatabaseAuditBytes sink calls kind data).1 = calls ++ more ∧ Quiet more := by
  unfold captureDatabaseAuditBytes
  split
  · exact ⟨[], by simp, Quiet.nil⟩
  simp only
  split
  · exact ⟨_, rfl, Quiet.beginCapture _ _⟩
  split
  · exact ⟨_, by simp only [append_assoc]; rfl,
      (Quiet.beginCapture _ _).append ((Quiet.writeCapture _ _).append Quiet.abortCapture)⟩
  · exact ⟨_, by simp only [append_assoc]; rfl, (Quiet.beginCapture _ _).append
        ((Quiet.writeCapture _ _).append (Quiet.completeCapture _))⟩

end Jianmen.DBProxy
