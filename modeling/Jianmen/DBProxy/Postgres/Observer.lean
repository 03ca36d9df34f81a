import Mathlib.Data.List.AList
import Jianmen.DBProxy.Postgres.Stream

/-!
# The PostgreSQL observer

The observer follows both directions of a connection.  Frontend messages it lets through are
queued as operations; a response completes the operation at the head of the queue, and only then
does a Parse, Bind or Close change the prepared statements and portals the observer knows.  Names
are resolved against the state projected over the queue.  Started queries are grouped in cycles
that a ReadyForQuery finishes.
-/

namespace Jianmen.DBProxy

open Postgres

def maxPostgresPendingOperations : ℕ := 512
def postgresAuditStateBytes : ℕ := 2 * 1024 * 1024
def maxDatabaseGatewayMaxClientMessageBytes : ℕ := 256 * 1024 * 1024
def maxPostgresMessageBytes : ℕ := 128 * 1024 * 1024

/-- A prepared statement behind its pointer, which is the number of the operation it came with. -/
structure PostgresPreparedStatement where
  pointer : ℕ
  audit : DatabaseSQLAudit
  deriving DecidableEq

/-- A portal.  `pointer` is a trace, the number of the operation the portal came with. -/
structure PostgresPortal where
  pointer : ℕ
  statement : Bytes
  prepared : PostgresPreparedStatement
  parameterArtifact : DatabaseAuditArtifact
  deriving DecidableEq

/-- A frontend message that waits for its response, with what completing it changes. -/
inductive PostgresFrontendOperation where
  | query
  | parse (name : Bytes) (prepared : PostgresPreparedStatement)
  | bind (name : Bytes) (portal : PostgresPortal)
  | execute
  | close (target : UInt8) (name : Bytes)
  | describe
  | sync
  deriving DecidableEq

def PostgresFrontendOperation.messageType : PostgresFrontendOperation → MessageType
  | .query => queryType
  | .parse .. => parseType
  | .bind .. => bindType
  | .execute => executeType
  | .close .. => closeType
  | .describe => describeType
  | .sync => syncType

/-- A trace entry: an operation as it was queued, an Execute with the portal it names. -/
structure AcceptedOperation where
  operation : PostgresFrontendOperation
  portal : Option PostgresPortal := none
  deriving DecidableEq

structure PostgresQueryEntry where
  record : QueryRecord
  finish : QueryFinish := {}
  completed : Bool := false
  finishFailed : Bool := false
  rows : Int := 0
  hasRows : Bool := false
  commandTags : List Bytes := []
  deriving DecidableEq

structure PostgresQueryCycle where
  simple : Bool
  entries : List PostgresQueryEntry
  deriving DecidableEq

/-- Add the rows of a command tag, unless the sum would overflow. -/
def PostgresQueryEntry.addRows (entry : PostgresQueryEntry) (tag : Bytes) : PostgresQueryEntry :=
  match parsePostgresRowsFromCommandTag tag with
  | none => entry
  | some rows =>
    if !entry.hasRows ∨ rows ≤ maxInt64 - entry.rows then
      { entry with rows := entry.rows + rows, hasRows := true }
    else entry

/-- The outcome an entry is finished with. -/
def PostgresQueryEntry.settle (entry : PostgresQueryEntry) : PostgresQueryEntry :=
  { entry with
    finish := { entry.finish with
      status := some (entry.finish.status.getD .unknown)
      rowsAffected := if entry.hasRows then some entry.rows else entry.finish.rowsAffected
      detail :=
        if 0 < entry.commandTags.length then some (.commandTags entry.commandTags)
        else entry.finish.detail } }

/-- A frame on its way to the server: the bytes let through, and whether these are all of it. -/
structure SentFrame where
  bytes : Bytes
  whole : Bool
  deriving DecidableEq

/-- Prepared statements and portals by name. -/
abbrev PreparedStatements := AList fun _ : Bytes => PostgresPreparedStatement
abbrev Portals := AList fun _ : Bytes => PostgresPortal

/-- The observer.  `calls`, `accepted` and `sent` are traces: the calls made on the sink, the
operations ever queued and the client frames let through.  `leases` counts the requests made to
the shared memory budget, and `released` has the leases given back to it. -/
structure PostgresObserver where
  maxClientMessageBytes : Int
  clientBuf : Bytes := []
  serverBuf : Bytes := []
  clientStream : Option PostgresClientFrameStream := none
  serverStream : Option ℕ := none
  startupDone : Bool := true
  pending : List QueryRecord := []
  preparedStatements : PreparedStatements := ∅
  portals : Portals := ∅
  operations : List PostgresFrontendOperation := []
  cycles : List PostgresQueryCycle := []
  openCycle : Option PostgresQueryCycle := none
  fatal : Option QueryDecision := none
  leases : ℕ := 0
  released : List ℕ := []
  accepted : List AcceptedOperation := []
  sent : List SentFrame := []
  calls : List SinkCall := []

namespace PostgresObserver

variable (sink : QuerySink)

/-! ## Failing -/

def postgresPendingFinishFailed (o : PostgresObserver) (record : QueryRecord) : Bool :=
  (o.cycles ++ o.openCycle.toList).any fun cycle =>
    cycle.entries.any fun entry => entry.record.seq == record.seq && entry.finishFailed

/-- How a pending query is finished when the observer fails. -/
def terminatedFinish (code : ErrorCode) : QueryFinish where
  status := some .error
  errorCode := code
  errorMessage := "postgres observer terminated the command"

/-- Finish the pending queries; the flag says whether a finish panicked. -/
def finishPendingWith (o : PostgresObserver) (code : ErrorCode) :
    List QueryRecord → List SinkCall → Bool → List SinkCall × Bool
  | [], calls, auditFailed => (calls, auditFailed)
  | record :: rest, calls, auditFailed =>
    if o.postgresPendingFinishFailed record then finishPendingWith o code rest calls auditFailed
    else
      let finished := finishObservedQuery sink calls record (terminatedFinish code)
      finishPendingWith o code rest finished.1 (auditFailed || !finished.2)

def failDecision (o : PostgresObserver) (decision : QueryDecision) :
    PostgresObserver × QueryDecision :=
  let fatal := o.fatal.getD decision
  let finished := finishPendingWith sink o fatal.errorCode o.pending o.calls false
  let final := if finished.2 then auditSinkFailureDecision else fatal
  ({ o with
      fatal := some final
      clientBuf := []
      serverBuf := []
      clientStream := none
      serverStream := none
      pending := []
      preparedStatements := ∅
      portals := ∅
      operations := []
      cycles := []
      openCycle := none
      released := o.released ++ (o.clientStream.bind (·.lease)).toList
      calls := finished.1 ++ PostgresClientFrameStream.closeCalls o.clientStream }, final)

def fail (o : PostgresObserver) (code : ErrorCode) (message : String) :
    PostgresObserver × QueryDecision :=
  o.failDecision sink (newObserverFatalDecision code message)

/-- Fail and return the decision. -/
def refuse (o : PostgresObserver) (code : ErrorCode) (message : String) :
    PostgresObserver × Option QueryDecision :=
  let failed := o.fail sink code message
  (failed.1, some failed.2)

/-- `Abort`; an empty code keeps the relay's own one. -/
def abort (o : PostgresObserver) (code : ErrorCode) : PostgresObserver :=
  let decision := if code = .other [] then newObserverRelayDecision
    else { newObserverRelayDecision with errorCode := code }
  (o.failDecision sink decision).1

/-! ## Operations -/

def isTrackedPostgresFrontendOperation (messageType : MessageType) : Bool :=
  messageType == queryType || messageType == parseType || messageType == bindType ||
    messageType == executeType || messageType == closeType || messageType == describeType ||
    messageType == syncType

def enqueuePostgresOperation (o : PostgresObserver) (operation : PostgresFrontendOperation)
    (portal : Option PostgresPortal := none) : PostgresObserver :=
  { o with
    operations := o.operations ++ [operation]
    accepted := o.accepted ++ [⟨operation, portal⟩] }

/-- What completing an operation does to the known statements and portals. -/
def applyPostgresStateOperation (state : PreparedStatements × Portals) :
    PostgresFrontendOperation → PreparedStatements × Portals
  | .query => (state.1.erase [], state.2.erase [])
  | .parse name prepared => (state.1.insert name prepared, state.2)
  | .bind name portal => (state.1, state.2.insert name portal)
  | .close target name =>
    if target = statementTarget then (state.1.erase name, state.2)
    else if target = portalTarget then (state.1, state.2.erase name)
    else state
  | .execute | .describe | .sync => state

theorem lookup_of_erase {β : Type} {names : AList fun _ : Bytes => β} {gone name : Bytes} {value : β}
    (found : (names.erase gone).lookup name = some value) : names.lookup name = some value := by
  by_cases same : name = gone
  · rw [same, AList.lookup_erase] at found
    cases found
  · rwa [AList.lookup_erase_ne same] at found

section Apply

variable {state : PreparedStatements × Portals} {operation : PostgresFrontendOperation} {name : Bytes}

/-- A known statement was made by the operation, or known before and left alone. -/
theorem apply_statements {prepared : PostgresPreparedStatement}
    (found : (applyPostgresStateOperation state operation).1.lookup name = some prepared) :
    operation = .parse name prepared ∨
      state.1.lookup name = some prepared ∧ ∀ other, operation ≠ .parse name other := by
  cases operation with
  | parse known =>
    by_cases same : name = known
    · subst same
      cases (AList.lookup_insert _).symm.trans found
      exact .inl rfl
    · refine .inr ⟨(AList.lookup_insert_ne same).symm.trans found, ?_⟩
      rintro _ ⟨⟩
      exact same rfl
  | query => exact .inr ⟨lookup_of_erase found, nofun⟩
  | close target known =>
    refine .inr ⟨?_, nofun⟩
    simp only [applyPostgresStateOperation] at found
    split at found
    · exact lookup_of_erase found
    · split at found
      · exact found
      · exact found
  | bind | execute | describe | sync => exact .inr ⟨found, nofun⟩

theorem apply_portals {portal : PostgresPortal}
    (found : (applyPostgresStateOperation state operation).2.lookup name = some portal) :
    operation = .bind name portal ∨
      state.2.lookup name = some portal ∧ ∀ other, operation ≠ .bind name other := by
  cases operation with
  | bind known =>
    by_cases same : name = known
    · subst same
      cases (AList.lookup_insert _).symm.trans found
      exact .inl rfl
    · refine .inr ⟨(AList.lookup_insert_ne same).symm.trans found, ?_⟩
      rintro _ ⟨⟩
      exact same rfl
  | query => exact .inr ⟨lookup_of_erase found, nofun⟩
  | close target known =>
    refine .inr ⟨?_, nofun⟩
    simp only [applyPostgresStateOperation] at found
    split at found
    · exact found
    · split at found
      · exact lookup_of_erase found
      · exact found
  | parse | execute | describe | sync => exact .inr ⟨found, nofun⟩

end Apply

def projectedPostgresState (o : PostgresObserver) : PreparedStatements × Portals :=
  o.operations.foldl applyPostgresStateOperation (o.preparedStatements, o.portals)

def auditStateLimit (o : PostgresObserver) : ℕ :=
  min (normalizeMaxClientMessageBytes o.maxClientMessageBytes) postgresAuditStateBytes

/-- What the names and the distinct audit texts of a state take up. -/
structure StateUsage where
  nameBytes : ℕ := 0
  sqlBytes : ℕ := 0
  seenPrepared : List ℕ := []

def StateUsage.addName (usage : StateUsage) (limit : ℕ) (value : Bytes) : Option StateUsage :=
  if limit - usage.nameBytes < value.length then none
  else some { usage with nameBytes := usage.nameBytes + value.length }

def StateUsage.addPrepared (usage : StateUsage) (limit : ℕ)
    (value : PostgresPreparedStatement) : Option StateUsage :=
  if usage.seenPrepared.contains value.pointer then some usage
  else if limit - usage.sqlBytes < value.audit.text.length then none
  else
    some
      { usage with
        sqlBytes := usage.sqlBytes + value.audit.text.length
        seenPrepared := value.pointer :: usage.seenPrepared }

def postgresPreparedStateWithinLimit (state : PreparedStatements × Portals)
    (configuredLimit : Int) : Bool :=
  if maxObserverPreparedObjects < state.1.entries.length ∨
      maxObserverPreparedObjects < state.2.entries.length then false
  else
    let limit := normalizeMaxClientMessageBytes configuredLimit
    let statements : Option StateUsage := state.1.entries.foldlM
      (fun usage entry =>
        (usage.addName limit entry.1).bind fun usage => usage.addPrepared limit entry.2) {}
    let all : Option StateUsage := statements.bind fun usage => state.2.entries.foldlM
      (fun usage entry =>
        ((usage.addName limit entry.1).bind fun usage =>
          usage.addName limit entry.2.statement).bind fun usage =>
            usage.addPrepared limit entry.2.prepared) usage
    all.isSome

def canQueuePostgresStateOperation (o : PostgresObserver)
    (operation : PostgresFrontendOperation) : Bool :=
  postgresPreparedStateWithinLimit
    (applyPostgresStateOperation o.projectedPostgresState operation) o.auditStateLimit

def projectedPostgresPreparedStatement (o : PostgresObserver) (name : Bytes) :
    Option PostgresPreparedStatement :=
  o.projectedPostgresState.1.lookup name

def projectedPostgresPortal (o : PostgresObserver) (name : Bytes) : Option PostgresPortal :=
  o.projectedPostgresState.2.lookup name

/-! ## Client messages -/

/-- Queue an operation that changes the prepared state, if the state stays within its limit. -/
def queueStateOperation (o : PostgresObserver) (operation : PostgresFrontendOperation)
    (message : String) : PostgresObserver × Option QueryDecision :=
  if !o.canQueuePostgresStateOperation operation then o.refuse sink .pendingLimit message
  else (o.enqueuePostgresOperation operation, none)

def observePostgresParseSummary (o : PostgresObserver) (name : Bytes) (audit : DatabaseSQLAudit) :
    PostgresObserver × Option QueryDecision :=
  if name ≠ [] ∧ (o.projectedPostgresPreparedStatement name).isSome then
    o.refuse sink .protocol "PostgreSQL named prepared statement already exists"
  else
    queueStateOperation sink o (.parse name ⟨o.accepted.length, audit⟩)
      "PostgreSQL prepared statement audit state exceeds the configured limit"

def observePostgresBindNames (o : PostgresObserver) (portal statement : Bytes)
    (parameterArtifact : DatabaseAuditArtifact) : PostgresObserver × Option QueryDecision :=
  if portal ≠ [] ∧ (o.projectedPostgresPortal portal).isSome then
    o.refuse sink .protocol "PostgreSQL named portal already exists"
  else
    match o.projectedPostgresPreparedStatement statement with
    | none => o.refuse sink .protocol "PostgreSQL Bind references an unknown statement"
    | some prepared =>
      queueStateOperation sink o
        (.bind portal ⟨o.accepted.length, statement, prepared, parameterArtifact⟩)
        "PostgreSQL portal audit state exceeds the configured limit"

def startPostgresSimpleQuery (o : PostgresObserver) (audit : DatabaseSQLAudit) :
    PostgresObserver × Option QueryDecision :=
  if maxObserverPendingQueries ≤ o.pending.length then
    o.refuse sink .pendingLimit "too many in-flight PostgreSQL commands"
  else if !observerPendingAuditWithinLimit o.pending audit o.auditStateLimit then
    o.refuse sink .pendingLimit "pending PostgreSQL audit text exceeds the configured limit"
  else
    match startPreparedObservedSQLQuery sink o.calls audit .postgresQuery none with
    | (calls, .panicked) => ({ o with calls := calls }, some auditSinkFailureDecision)
    | (calls, .returned record decision) =>
      if !decision.allowed then ({ o with calls := calls }, some decision)
      else
        (enqueuePostgresOperation
          { o with
            calls := calls
            pending := o.pending ++ [record]
            cycles := o.cycles ++ [⟨true, [{ record := record }]⟩] } .query, none)

def startPostgresPortalExecution (o : PostgresObserver) (portal : Bytes) :
    PostgresObserver × Option QueryDecision :=
  match o.projectedPostgresPortal portal with
  | none => o.refuse sink .protocol "PostgreSQL Execute references an unknown portal"
  | some binding =>
    let audit := binding.prepared.audit
    if maxObserverPendingQueries ≤ o.pending.length then
      o.refuse sink .pendingLimit "too many in-flight PostgreSQL commands"
    else if !observerPendingAuditWithinLimit o.pending audit o.auditStateLimit then
      o.refuse sink .pendingLimit "pending PostgreSQL audit text exceeds the configured limit"
    else
      match startPreparedObservedSQLQuery sink o.calls audit .postgresExecute
          (some binding.parameterArtifact) with
      | (calls, .panicked) => ({ o with calls := calls }, some auditSinkFailureDecision)
      | (calls, .returned record decision) =>
        if !decision.allowed then ({ o with calls := calls }, some decision)
        else
          let cycle := o.openCycle.getD ⟨false, []⟩
          (enqueuePostgresOperation
            { o with
              calls := calls
              pending := o.pending ++ [record]
              openCycle := some
                { cycle with entries := cycle.entries ++ [{ record := record }] } }
            .execute binding, none)

/-- Audit the text a message comes with, and go on with the audit copy. -/
def withAudit (o : PostgresObserver) (sql : Bytes)
    (next : PostgresObserver → DatabaseSQLAudit → PostgresObserver × Option QueryDecision) :
    PostgresObserver × Option QueryDecision :=
  match prepareAndCaptureDatabaseSQLBytes sink o.calls sql postgresStreamAuditPreviewBytes with
  | (calls, none) =>
    refuse sink { o with calls := calls } .auditFailure
      "database full SQL audit recording failed"
  | (calls, some audit) => next { o with calls := calls } audit

def observePostgresClientMessage (o : PostgresObserver) (messageType : MessageType)
    (payload : Bytes) : PostgresObserver × Option QueryDecision :=
  if isTrackedPostgresFrontendOperation messageType ∧
      maxPostgresPendingOperations ≤ o.operations.length then
    o.refuse sink .pendingLimit "too many in-flight PostgreSQL protocol operations"
  else if messageType = queryType then
    withAudit sink o (splitCString payload).1 (startPostgresSimpleQuery sink)
  else if messageType = parseType then
    let split := splitCString payload
    withAudit sink o (splitCString split.2).1 fun o audit =>
      observePostgresParseSummary sink o split.1 audit
  else if messageType = bindType then
    match captureDatabaseAuditBytes sink o.calls .parameters payload with
    | (calls, none) =>
      refuse sink { o with calls := calls } .auditFailure
        "database parameter audit recording failed"
    | (calls, some artifact) =>
      let split := splitCString payload
      observePostgresBindNames sink { o with calls := calls } split.1 (splitCString split.2).1
        artifact
  else if messageType = executeType then
    startPostgresPortalExecution sink o (splitCString payload).1
  else if messageType = syncType then
    (enqueuePostgresOperation
      { o with cycles := o.cycles ++ o.openCycle.toList, openCycle := none } .sync, none)
  else if messageType = closeType then
    queueStateOperation sink o (.close (payload.headD 0) (splitCString (payload.drop 1)).1)
      "PostgreSQL prepared-state audit data exceeds the configured limit"
  else if messageType = describeType then (o.enqueuePostgresOperation .describe, none)
  else (o, none)

/-! ## Server messages -/

/-- Complete the operation at the head, if it is of the expected type. -/
def completeOperation (o : PostgresObserver) (expectedType : MessageType) (message : String) :
    PostgresObserver × Option QueryDecision :=
  match o.operations with
  | [] => (o, some (newObserverFatalDecision .protocol message))
  | operation :: rest =>
    if operation.messageType ≠ expectedType then
      (o, some (newObserverFatalDecision .protocol message))
    else
      let state := applyPostgresStateOperation (o.preparedStatements, o.portals) operation
      ({ o with
          preparedStatements := state.1
          portals := state.2
          operations := rest }, none)

def completePostgresStateOperation (o : PostgresObserver) (expectedType : MessageType) :
    PostgresObserver × Option QueryDecision :=
  o.completeOperation expectedType "unexpected PostgreSQL prepared-state response"

/-- Describe and Execute change no state, so completing them is completing an operation. -/
def completePostgresProtocolOperation (o : PostgresObserver) (expectedType : MessageType) :
    PostgresObserver × Option QueryDecision :=
  o.completeOperation expectedType "unexpected PostgreSQL operation response"

def rejectCurrentPostgresOperation (o : PostgresObserver) :
    PostgresObserver × Option QueryDecision :=
  match o.operations with
  | [] => (o, none)
  | .query :: _ => (o, none)
  | .sync :: _ =>
    (o, some (newObserverFatalDecision .protocol
      "unexpected PostgreSQL error at a Sync boundary"))
  | operations => ({ o with operations := operations.dropWhile (· != .sync) }, none)

/-- ReadyForQuery: the Query or Sync at the head is done; outside a transaction no portal
survives it. -/
def completeReadyForQuery (o : PostgresObserver) (payload : Bytes) :
    PostgresObserver × Option QueryDecision :=
  match o.operations with
  | [] => (o, none)
  | operation :: rest =>
    if operation = .query ∨ operation = .sync then
      let state := applyPostgresStateOperation (o.preparedStatements, o.portals) operation
      ({ o with
          preparedStatements := state.1
          portals := if payload = [idleStatus] then ∅ else state.2
          operations := rest }, none)
    else
      (o, some (newObserverFatalDecision .protocol
        "unexpected PostgreSQL ReadyForQuery operation boundary"))

def observePostgresOperationResponse (o : PostgresObserver) (messageType : MessageType)
    (payload : Bytes) : PostgresObserver × Option QueryDecision :=
  if messageType = errorType then o.rejectCurrentPostgresOperation
  else if o.operations.length = 0 then (o, none)
  else if messageType = parseCompleteType then o.completePostgresStateOperation parseType
  else if messageType = bindCompleteType then o.completePostgresStateOperation bindType
  else if messageType = closeCompleteType then o.completePostgresStateOperation closeType
  else if messageType = rowDescriptionType ∨ messageType = noDataType then
    if o.operations.head? = some .query then (o, none)
    else o.completePostgresProtocolOperation describeType
  else if messageType = commandCompleteType ∨ messageType = emptyQueryType then
    if o.operations.head? = some .query then (o, none)
    else o.completePostgresProtocolOperation executeType
  else if messageType = portalSuspendedType then o.completePostgresProtocolOperation executeType
  else if messageType = readyForQueryType then o.completeReadyForQuery payload
  else (o, none)

/-! ## Cycles -/

def activePostgresCycle (o : PostgresObserver) : Option PostgresQueryCycle :=
  match o.cycles with
  | cycle :: _ => some cycle
  | [] => o.openCycle

/-- Put a new version of the active cycle in its place. -/
def setActiveCycle (o : PostgresObserver) (cycle : PostgresQueryCycle) : PostgresObserver :=
  match o.cycles with
  | _ :: rest => { o with cycles := cycle :: rest }
  | [] => { o with openCycle := some cycle }

/-- Take the active cycle out. -/
def dropActiveCycle (o : PostgresObserver) : PostgresObserver :=
  match o.cycles with
  | _ :: rest => { o with cycles := rest }
  | [] => { o with openCycle := none }

/-- Change the first entry that is not completed; `none` when all are. -/
def updateNextIncomplete (change : PostgresQueryEntry → PostgresQueryEntry) :
    List PostgresQueryEntry → Option (List PostgresQueryEntry)
  | [] => none
  | entry :: rest =>
    if entry.completed then (updateNextIncomplete change rest).map (entry :: ·)
    else some (change entry :: rest)

/-- The entry a command tag or an error is for: the next one that is not completed, and for a
simple query its only one in any case. -/
def updateAnswered (cycle : PostgresQueryCycle)
    (change : PostgresQueryEntry → PostgresQueryEntry) : PostgresQueryCycle :=
  match updateNextIncomplete change cycle.entries with
  | some entries => { cycle with entries := entries }
  | none =>
    if cycle.simple then
      match cycle.entries with
      | [] => cycle
      | entry :: rest => { cycle with entries := change entry :: rest }
    else cycle

def completePostgresPortalSuspended (cycle : PostgresQueryCycle) : PostgresQueryCycle :=
  if cycle.simple then cycle
  else
    match updateNextIncomplete
        (fun entry =>
          { entry with
            finish := { entry.finish with
              status := some .success
              detail := some .portalSuspended }
            completed := true }) cycle.entries with
    | some entries => { cycle with entries := entries }
    | none => cycle

def completePostgresCommand (cycle : PostgresQueryCycle) (tag : Bytes) : PostgresQueryCycle :=
  updateAnswered cycle fun entry =>
    let entry := PostgresQueryEntry.addRows
      { entry with
        finish := { entry.finish with status := some .success }
        commandTags := entry.commandTags ++ [tag] } tag
    if cycle.simple then entry else { entry with completed := true }

def completePostgresError (cycle : PostgresQueryCycle) (code : Bytes) : PostgresQueryCycle :=
  updateAnswered cycle fun entry =>
    { entry with
      finish :=
        { status := some .error
          errorCode := .other code
          errorMessage := "postgres upstream error" }
      completed := true }

/-- Remove the first pending record with this sequence number. -/
def removePostgresPending (o : PostgresObserver) (record : QueryRecord) : PostgresObserver :=
  { o with pending := o.pending.eraseP fun other => other.seq == record.seq }

/-- Finish the entries of the active cycle after those already `settled`. -/
def finishPostgresEntries (simple : Bool) :
    PostgresObserver → List PostgresQueryEntry → List PostgresQueryEntry → PostgresObserver
  | o, _, [] => o.dropActiveCycle
  | o, settled, entry :: rest =>
    let entry := entry.settle
    let finished := finishObservedQuery sink o.calls entry.record entry.finish
    let o := { o with calls := finished.1 }
    if !finished.2 then
      ((o.setActiveCycle ⟨simple, settled ++ { entry with finishFailed := true } :: rest⟩
        ).failDecision sink auditSinkFailureDecision).1
    else finishPostgresEntries simple (o.removePostgresPending entry.record)
      (settled ++ [entry]) rest

def finishPostgresCycle (o : PostgresObserver) (cycle : PostgresQueryCycle) : PostgresObserver :=
  finishPostgresEntries sink cycle.simple o [] cycle.entries

/-- What a message does to the active cycle. -/
def observeActiveCycle (o : PostgresObserver) (cycle : PostgresQueryCycle)
    (messageType : MessageType) (payload : Bytes) : PostgresObserver :=
  if messageType = commandCompleteType then
    o.setActiveCycle (completePostgresCommand cycle (trimCString payload))
  else if messageType = portalSuspendedType then
    o.setActiveCycle (completePostgresPortalSuspended cycle)
  else if messageType = emptyQueryType then
    o.setActiveCycle (completePostgresCommand cycle (ascii "EMPTY"))
  else if messageType = errorType then
    o.setActiveCycle (completePostgresError cycle
      (sanitizedPostgresErrorCode (parsePostgresError payload).1))
  else if messageType = readyForQueryType then finishPostgresCycle sink o cycle
  else o

def observePostgresServerMessage (o : PostgresObserver) (messageType : MessageType)
    (payload : Bytes) : PostgresObserver :=
  match o.observePostgresOperationResponse messageType payload with
  | (o, some decision) => (o.failDecision sink decision).1
  | (o, none) =>
    match o.activePostgresCycle with
    | none => o
    | some cycle =>
      if cycle.entries.length = 0 then o
      else observeActiveCycle sink o cycle messageType payload

end PostgresObserver
end Jianmen.DBProxy
