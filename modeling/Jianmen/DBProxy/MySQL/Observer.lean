import Jianmen.DBProxy.Redaction

/-!
# The MySQL observer

`mysqlObserver` watches the command phase of a MySQL connection from both sides.  Commands that
expect a response are queued in five parallel lists; server packets drive a response state that
pops the head of the queue, and a completed PREPARE enters the map of statement identifiers.
Every violation ends in `failDecision`, which finishes what is pending and drops all state.
-/

namespace Jianmen.DBProxy

/-- A prepared statement is the audit copy of its text. -/
structure MySQLPreparedStatement where
  audit : DatabaseSQLAudit
  deriving DecidableEq

/-- Go's zero value of an audit copy. -/
def DatabaseSQLAudit.zero : DatabaseSQLAudit := ⟨[], 0, false, .zero⟩

def MySQLPreparedStatement.zero : MySQLPreparedStatement := ⟨.zero⟩

inductive MySQLResponsePhase where
  | initial
  | columns
  | columnTerminator
  | rows
  | prepareParams
  | prepareParamTerminator
  | prepareColumns
  | prepareColumnTerminator
  | localInfile
  deriving DecidableEq

/-- How far the response to the first pending command has been read. -/
structure MySQLResponseState where
  command : UInt8
  phase : MySQLResponsePhase := .initial
  remaining : Int := 0
  columns : Int := 0
  preparedStatementID : ℕ := 0
  hasPreparedID : Bool := false
  deriving DecidableEq

/-- The first bytes of a server packet that is read in fragments. -/
structure MySQLServerLogicalPacket where
  prefixBytes : Bytes
  deriving DecidableEq

/-- A server packet too large to buffer, forwarded as it arrives. -/
structure MySQLServerPacketStream where
  remaining : ℕ
  sequence : UInt8
  collectPrefix : Bool
  finalFragment : Bool
  deriving DecidableEq

structure MySQLObserver where
  maxClientMessageBytes : Int
  clientBuf : Bytes := []
  serverBuf : Bytes := []
  serverStream : Option MySQLServerPacketStream := none
  serverLogical : Option MySQLServerLogicalPacket := none
  pending : List QueryRecord := []
  pendingRecorded : List Bool := []
  pendingFailed : List Bool := []
  pendingCommands : List UInt8 := []
  pendingPrepared : List MySQLPreparedStatement := []
  prepared : List (ℕ × MySQLPreparedStatement) := []
  response : Option MySQLResponseState := none
  fatal : Option QueryDecision := none
  nextErrorSeq : UInt8 := 0
  hasErrorSeq : Bool := false
  expectedServerSeq : UInt8 := 0
  serverSeqActive : Bool := false
  /-- The calls made on the sink so far. -/
  calls : List SinkCall := []

def maxMySQLObservedPacketPrefixBytes : ℕ := 64
def maxMySQLPhysicalPacketPayloadBytes : ℕ := 0xFFFFFF
def mysqlServerMoreResultsExists : ℕ := 0x0008
def maxMySQLObservedColumns : ℕ := 4096

def mysqlCommandQuery : UInt8 := 0x03
def mysqlCommandStmtPrepare : UInt8 := 0x16
def mysqlCommandStmtExecute : UInt8 := 0x17
def mysqlCommandStmtLongData : UInt8 := 0x18
def mysqlCommandStmtClose : UInt8 := 0x19
def mysqlCommandStmtReset : UInt8 := 0x1a

def validMySQLClientCommand (command : UInt8) (payload : Bytes) : Bool :=
  if command == 0x01 || command == 0x0e then payload.length == 1
  else if command == 0x02 then 1 < payload.length
  else if command == 0x03 then 1 ≤ payload.length
  else if command == 0x16 then 1 < payload.length
  else if command == 0x17 then 10 ≤ payload.length
  else if command == 0x18 then 7 ≤ payload.length
  else if command == 0x19 || command == 0x1a then payload.length == 5
  else false

def mysqlCommandExpectsResponse (command : UInt8) : Bool :=
  command == 0x02 || command == 0x03 || command == 0x0e || command == 0x16 ||
    command == 0x17 || command == 0x1a

/-- The statement identifier of a prepared-statement command. -/
def mysqlStatementID (payload : Bytes) : ℕ :=
  littleEndian ((payload.drop 1).take 4)

def mysqlIsResultTerminator (payload : Bytes) : Bool :=
  5 ≤ payload.length && payload.length < 9 && payload.head? == some 0xfe

def mysqlTerminatorStatus (payload : Bytes) : ℕ :=
  if 5 ≤ payload.length && payload.head? == some 0xfe then
    littleEndian ((payload.drop 3).take 2)
  else 0

/-- A length-encoded integer at the head of `data`, with its width. -/
def readLengthEncodedInt (data : Bytes) : Option (ℕ × ℕ) :=
  match data with
  | [] => none
  | first :: rest =>
    if first == 0xfc then
      if data.length < 3 then none else some (littleEndian (rest.take 2), 3)
    else if first == 0xfd then
      if data.length < 4 then none else some (littleEndian (rest.take 3), 4)
    else if first == 0xfe then
      if data.length < 9 then none else some (littleEndian (rest.take 8), 9)
    else some (first.toNat, 1)

/-- The finish of an OK packet and its status flags. -/
def mysqlOKFinish (payload : Bytes) : QueryFinish × ℕ :=
  match readLengthEncodedInt (payload.drop 1) with
  | none => ({ status := some .success }, 0)
  | some (affected, offset) =>
    let finish : QueryFinish :=
      { status := some .success
        rowsAffected := if affected ≤ 2 ^ 63 - 1 then some (affected : Int) else none }
    match readLengthEncodedInt (payload.drop (1 + offset)) with
    | none => (finish, 0)
    | some (_, insertOffset) =>
      let statusOffset := 1 + offset + insertOffset
      if payload.length < statusOffset + 2 then (finish, 0)
      else (finish, littleEndian ((payload.drop statusOffset).take 2))

def mysqlErrorFinish (payload : Bytes) : QueryFinish where
  status := some .error
  errorCode :=
    if 3 ≤ payload.length then .other (decimal (littleEndian ((payload.drop 1).take 2)))
    else .other []
  errorMessage := "mysql upstream error"

namespace MySQLObserver

variable (sink : QuerySink)

/-! ## Pending commands -/

def enqueueMySQLResponse (o : MySQLObserver) (record : QueryRecord) (recorded : Bool)
    (command : UInt8) : MySQLObserver :=
  { o with
    pending := o.pending ++ [record]
    pendingRecorded := o.pendingRecorded ++ [recorded]
    pendingFailed := o.pendingFailed ++ [false]
    pendingCommands := o.pendingCommands ++ [command]
    pendingPrepared := o.pendingPrepared ++ [.zero] }

def setLastMySQLPendingPrepared (o : MySQLObserver) (statement : MySQLPreparedStatement) :
    MySQLObserver :=
  if o.pendingPrepared.length = 0 then o
  else { o with pendingPrepared := o.pendingPrepared.dropLast ++ [statement] }

def mysqlPendingIsRecorded (o : MySQLObserver) (index : ℕ) : Bool :=
  match o.pendingRecorded[index]? with
  | some recorded => recorded
  | none =>
    match o.pending[index]? with
    | some record => record.seq != 0
    | none => false

def mysqlPendingFinishFailed (o : MySQLObserver) (index : ℕ) : Bool :=
  o.pendingFailed[index]?.getD false

def markMySQLPendingFinishFailed (o : MySQLObserver) (index : ℕ) : MySQLObserver :=
  let padded := o.pendingFailed ++
    List.replicate (o.pending.length - o.pendingFailed.length) false
  { o with pendingFailed := padded.set index true }

/-! ## Failing -/

/-- The finish of a command the observer gives up on. -/
def terminatedFinish (code : ErrorCode) : QueryFinish where
  status := some .error
  errorCode := code
  errorMessage := "mysql observer terminated the command"

/-- Finish the pending records from `index` on; the flag says whether a finish panicked. -/
def finishPendingFrom (o : MySQLObserver) (code : ErrorCode) :
    ℕ → List QueryRecord → List SinkCall → Bool → List SinkCall × Bool
  | _, [], calls, auditFailed => (calls, auditFailed)
  | index, record :: rest, calls, auditFailed =>
    if !o.mysqlPendingIsRecorded index || o.mysqlPendingFinishFailed index then
      finishPendingFrom o code (index + 1) rest calls auditFailed
    else
      let finished := finishObservedQuery sink calls record (terminatedFinish code)
      finishPendingFrom o code (index + 1) rest finished.1 (auditFailed || !finished.2)

def failDecision (o : MySQLObserver) (decision : QueryDecision) :
    MySQLObserver × QueryDecision :=
  let fatal := o.fatal.getD decision
  let finished := finishPendingFrom sink o fatal.errorCode 0 o.pending o.calls false
  let final := if finished.2 then auditSinkFailureDecision else fatal
  ({ o with
      fatal := some final
      clientBuf := []
      serverBuf := []
      serverStream := none
      serverLogical := none
      pending := []
      pendingRecorded := []
      pendingFailed := []
      pendingCommands := []
      pendingPrepared := []
      prepared := []
      response := none
      expectedServerSeq := 0
      serverSeqActive := false
      calls := finished.1 }, final)

def fail (o : MySQLObserver) (code : ErrorCode) (message : String) :
    MySQLObserver × QueryDecision :=
  o.failDecision sink (newObserverFatalDecision code message)

/-- `Abort`; an empty code keeps the relay's own one. -/
def abort (o : MySQLObserver) (code : ErrorCode) : MySQLObserver :=
  let decision := if code = .other [] then newObserverRelayDecision
    else { newObserverRelayDecision with errorCode := code }
  (o.failDecision sink decision).1

/-! ## Server sequence numbers -/

/-- `none` when the packet does not carry the next sequence number of a response. -/
def acceptMySQLServerSequence (o : MySQLObserver) (sequence : UInt8) : Option MySQLObserver :=
  if o.pending.length = 0 then none
  else if sequence != (if o.serverSeqActive then o.expectedServerSeq else 1) then none
  else some { o with serverSeqActive := true, expectedServerSeq := sequence + 1 }

/-! ## Responses -/

/-- The statement registered under an identifier. -/
def lookupPrepared (o : MySQLObserver) (statementID : ℕ) : Option MySQLPreparedStatement :=
  o.prepared.lookup statementID

/-- Audit text of the registered statements fits under the limit; returns what is left. -/
def preparedRoom (limit : ℕ) : List (ℕ × MySQLPreparedStatement) → ℕ → Option ℕ
  | [], used => some (limit - used)
  | (_, statement) :: rest, used =>
    if limit - used < statement.audit.text.length then none
    else preparedRoom limit rest (used + statement.audit.text.length)

/-- `none` when the identifier is taken or a limit is reached. -/
def registerCompletedMySQLPrepare (o : MySQLObserver) (statementID : ℕ)
    (statement : MySQLPreparedStatement) : Option MySQLObserver :=
  if (o.lookupPrepared statementID).isSome then none
  else if maxObserverPreparedObjects ≤ o.prepared.length then none
  else
    match preparedRoom (normalizeMaxClientMessageBytes o.maxClientMessageBytes) o.prepared 0 with
    | none => none
    | some room =>
      if room < statement.audit.text.length then none
      else some { o with prepared := (statementID, statement) :: o.prepared }

/-- Drop the first pending command and reset the response. -/
def popMySQLPending (o : MySQLObserver) : MySQLObserver :=
  { o with
    pending := o.pending.tail
    pendingRecorded := o.pendingRecorded.tail
    pendingFailed := o.pendingFailed.tail
    pendingCommands := o.pendingCommands.tail
    pendingPrepared := o.pendingPrepared.tail
    response := none
    serverSeqActive := false
    expectedServerSeq := 0 }

/-- Finish the record of the first pending command, if it has one, and drop the command. -/
def settleMySQLPending (o : MySQLObserver) (record : QueryRecord) (finish : QueryFinish) :
    MySQLObserver :=
  if o.mysqlPendingIsRecorded 0 then
    let finished := finishObservedQuery sink o.calls record finish
    let o := { o with calls := finished.1 }
    if finished.2 then o.popMySQLPending
    else ((o.markMySQLPendingFinishFailed 0).failDecision sink auditSinkFailureDecision).1
  else o.popMySQLPending

def finishMySQLPending (o : MySQLObserver) (finish : QueryFinish) : MySQLObserver :=
  match o.pending with
  | [] => o
  | record :: _ =>
    if o.pendingCommands.head? = some mysqlCommandStmtPrepare ∧
        finish.status = some .success then
      match o.response, o.pendingPrepared.head? with
      | some response, some statement =>
        if !response.hasPreparedID then
          (o.fail sink .protocol "invalid MySQL prepared statement lifecycle").1
        else
          match o.registerCompletedMySQLPrepare response.preparedStatementID statement with
          | none => (o.fail sink .protocol "invalid MySQL prepared statement lifecycle").1
          | some o => o.settleMySQLPending sink record finish
      | _, _ => (o.fail sink .protocol "invalid MySQL prepared statement lifecycle").1
    else o.settleMySQLPending sink record finish

/-- A response packet of any command but PREPARE. -/
def observeMySQLCommandResponse (o : MySQLObserver) (state : MySQLResponseState)
    (payload : Bytes) : MySQLObserver :=
  match state.phase with
  | .initial =>
    if payload.head? = some 0x00 then
      let finish := mysqlOKFinish payload
      if finish.2 &&& mysqlServerMoreResultsExists != 0 then
        { o with response := some { state with phase := .initial } }
      else o.finishMySQLPending sink finish.1
    else if payload.head? = some 0xfb then
      { o with response := some { state with phase := .localInfile } }
    else
      match readLengthEncodedInt payload with
      | none => (o.fail sink .protocol "malformed MySQL result set").1
      | some (columnCount, _) =>
        if columnCount = 0 ∨ maxMySQLObservedColumns < columnCount then
          (o.fail sink .protocol "malformed MySQL result set").1
        else
          { o with response := some { state with phase := .columns, remaining := columnCount } }
  | .columns =>
    let remaining := state.remaining - 1
    let phase := if remaining = 0 then .columnTerminator else state.phase
    { o with response := some { state with remaining := remaining, phase := phase } }
  | .columnTerminator => { o with response := some { state with phase := .rows } }
  | .rows =>
    if !mysqlIsResultTerminator payload then o
    else if mysqlTerminatorStatus payload &&& mysqlServerMoreResultsExists != 0 then
      { o with response := some { state with phase := .initial } }
    else o.finishMySQLPending sink { status := some .success }
  | .localInfile =>
    if payload.head? = some 0x00 then o.finishMySQLPending sink (mysqlOKFinish payload).1
    else o
  | _ => o

/-- A response packet of PREPARE. -/
def observeMySQLPrepareResponse (o : MySQLObserver) (state : MySQLResponseState)
    (payload : Bytes) : MySQLObserver :=
  match state.phase with
  | .initial =>
    if payload.head? ≠ some 0x00 ∨ payload.length < 12 then
      (o.fail sink .protocol "malformed MySQL prepare response").1
    else if (o.lookupPrepared (mysqlStatementID payload)).isSome then
      (o.fail sink .protocol "duplicate MySQL prepared statement identifier").1
    else
      let columns : Int := littleEndian ((payload.drop 5).take 2)
      let params : Int := littleEndian ((payload.drop 7).take 2)
      let state :=
        { state with
          preparedStatementID := mysqlStatementID payload
          hasPreparedID := true
          columns := columns
          remaining := params }
      if 0 < params then
        { o with response := some { state with phase := .prepareParams } }
      else if 0 < columns then
        { o with response := some { state with phase := .prepareColumns, remaining := columns } }
      else
        { o with response := some state }.finishMySQLPending sink { status := some .success }
  | .prepareParams =>
    let remaining := state.remaining - 1
    let phase := if remaining = 0 then .prepareParamTerminator else state.phase
    { o with response := some { state with remaining := remaining, phase := phase } }
  | .prepareParamTerminator =>
    if mysqlIsResultTerminator payload then
      if state.columns = 0 then o.finishMySQLPending sink { status := some .success }
      else
        let next := { state with remaining := state.columns, phase := .prepareColumns }
        { o with response := some next }
    else if state.columns = 0 then
      (o.fail sink .protocol "malformed MySQL prepare metadata").1
    else
      let remaining := state.columns - 1
      let phase := if remaining = 0 then .prepareColumnTerminator else .prepareColumns
      { o with response := some { state with remaining := remaining, phase := phase } }
  | .prepareColumns =>
    let remaining := state.remaining - 1
    let phase := if remaining = 0 then .prepareColumnTerminator else state.phase
    { o with response := some { state with remaining := remaining, phase := phase } }
  | .prepareColumnTerminator =>
    if !mysqlIsResultTerminator payload then
      (o.fail sink .protocol "malformed MySQL prepare metadata").1
    else o.finishMySQLPending sink { status := some .success }
  | _ => o

def observeMySQLResponsePacket (o : MySQLObserver) (payload : Bytes) : MySQLObserver :=
  if payload.length = 0 ∨ o.pending.length = 0 then o
  else
    let state := o.response.getD { command := o.pendingCommands.headD 0x03 }
    let o := { o with response := some state }
    if payload.head? = some 0xff then o.finishMySQLPending sink (mysqlErrorFinish payload)
    else if state.command == 0x16 then o.observeMySQLPrepareResponse sink state payload
    else o.observeMySQLCommandResponse sink state payload

/-- A PREPARE whose last terminator the server left out is complete when the next command
arrives. -/
def finishMySQLPrepareWithOmittedTerminator (o : MySQLObserver) : MySQLObserver :=
  match o.response with
  | none => o
  | some response =>
    if response.command != 0x16 then o
    else
      match response.phase with
      | .prepareColumnTerminator => o.finishMySQLPending sink { status := some .success }
      | .prepareParamTerminator =>
        if response.columns = 0 then o.finishMySQLPending sink { status := some .success }
        else o
      | _ => o

def handleServerPacket (o : MySQLObserver) (payload : Bytes) :
    MySQLObserver × Option QueryDecision :=
  if payload.length = 0 ∨ o.pending.length = 0 then (o, none)
  else
    let o := o.observeMySQLResponsePacket sink payload
    (o, o.fatal)

/-! ## Client commands -/

/-- The statement a command names; CLOSE takes it out of the map. -/
def resolveMySQLStatementCommand (o : MySQLObserver) (command : UInt8) (payload : Bytes) :
    MySQLObserver × Except QueryDecision MySQLPreparedStatement :=
  if command == mysqlCommandStmtExecute || command == mysqlCommandStmtLongData ||
      command == mysqlCommandStmtClose || command == mysqlCommandStmtReset then
    match o.lookupPrepared (mysqlStatementID payload) with
    | none =>
      (o, .error (newObserverFatalDecision .protocol
        "MySQL command references an unknown prepared statement"))
    | some statement =>
      if command == mysqlCommandStmtClose then
        ({ o with
            prepared := o.prepared.filter fun entry => entry.1 != mysqlStatementID payload },
          .ok statement)
      else (o, .ok statement)
  else (o, .ok .zero)

/-- Start a record for a command and queue the command behind it. -/
def startAndEnqueue (o : MySQLObserver) (audit : DatabaseSQLAudit) (named : AuditedCommand)
    (parameters : Option DatabaseAuditArtifact) (command : UInt8) :
    MySQLObserver × Option QueryDecision :=
  match startPreparedObservedSQLQuery sink o.calls audit named parameters with
  | (calls, .panicked) => ({ o with calls := calls }, some auditSinkFailureDecision)
  | (calls, .returned record decision) =>
    let o := { o with calls := calls }
    if !decision.allowed then (o, some decision)
    else (o.enqueueMySQLResponse record true command, none)

/-- Start a record for PREPARE and keep its audit copy with the queued command. -/
def startMySQLPrepare (o : MySQLObserver) (audit : DatabaseSQLAudit) :
    MySQLObserver × Option QueryDecision :=
  match o.startAndEnqueue sink audit .comStmtPrepare none mysqlCommandStmtPrepare with
  | (o, some decision) => (o, some decision)
  | (o, none) => (o.setLastMySQLPendingPrepared ⟨audit⟩, none)

/-- Start a record for LONG_DATA and finish it at once, as no response will come.  The finish is
not guarded; a panic in it is recovered by the caller as a malformed command. -/
def startMySQLLongData (o : MySQLObserver) (audit : DatabaseSQLAudit) (named : AuditedCommand)
    (artifact : DatabaseAuditArtifact) : MySQLObserver × Option QueryDecision :=
  match startPreparedObservedSQLQuery sink o.calls audit named (some artifact) with
  | (calls, .panicked) => ({ o with calls := calls }, some auditSinkFailureDecision)
  | (calls, .returned record decision) =>
    if !decision.allowed then ({ o with calls := calls }, some decision)
    else
      let finished := finishObservedQuery sink calls record { status := some .success }
      let o := { o with calls := finished.1 }
      if finished.2 then (o, none)
      else
        let failed := o.fail sink .protocol "malformed MySQL command"
        (failed.1, some failed.2)

def pendingTextExceeded (o : MySQLObserver) : MySQLObserver × Option QueryDecision :=
  let failed := o.fail sink .pendingLimit "pending MySQL audit text exceeds the configured limit"
  (failed.1, some failed.2)

def auditRecordingFailed (o : MySQLObserver) (message : String) :
    MySQLObserver × Option QueryDecision :=
  let failed := o.fail sink .auditFailure message
  (failed.1, some failed.2)

/-- COM_QUERY and COM_STMT_PREPARE: audit the text that comes with the command. -/
def handleMySQLText (o : MySQLObserver) (command : UInt8) (payload : Bytes) :
    MySQLObserver × Option QueryDecision :=
  match prepareAndCaptureDatabaseSQLBytes sink o.calls (payload.drop 1)
      postgresStreamAuditPreviewBytes with
  | (calls, none) =>
    auditRecordingFailed sink { o with calls := calls }
      "database full SQL audit recording failed"
  | (calls, some audit) =>
    let o := { o with calls := calls }
    if !observerPendingAuditWithinLimit o.pending audit o.maxClientMessageBytes then
      o.pendingTextExceeded sink
    else if command == mysqlCommandStmtPrepare then o.startMySQLPrepare sink audit
    else o.startAndEnqueue sink audit .comQuery none command

/-- COM_STMT_EXECUTE: audit under the text of its statement. -/
def handleMySQLExecute (o : MySQLObserver) (statement : MySQLPreparedStatement)
    (payload : Bytes) : MySQLObserver × Option QueryDecision :=
  if !observerPendingAuditWithinLimit o.pending statement.audit o.maxClientMessageBytes then
    o.pendingTextExceeded sink
  else
    match captureDatabaseAuditBytes sink o.calls .parameters payload with
    | (calls, none) =>
      auditRecordingFailed sink { o with calls := calls }
        "database parameter audit recording failed"
    | (calls, some artifact) =>
      { o with calls := calls }.startAndEnqueue sink statement.audit
        (.comStmtExecute (mysqlStatementID payload)) (some artifact) mysqlCommandStmtExecute

/-- COM_STMT_SEND_LONG_DATA: audit under the text of its statement. -/
def handleMySQLLongData (o : MySQLObserver) (statement : MySQLPreparedStatement)
    (payload : Bytes) : MySQLObserver × Option QueryDecision :=
  if !observerPendingAuditWithinLimit o.pending statement.audit o.maxClientMessageBytes then
    o.pendingTextExceeded sink
  else
    match captureDatabaseAuditBytes sink o.calls .parameters payload with
    | (calls, none) =>
      auditRecordingFailed sink { o with calls := calls }
        "database long parameter audit recording failed"
    | (calls, some artifact) =>
      { o with calls := calls }.startMySQLLongData sink statement.audit
        (.comStmtSendLongData (mysqlStatementID payload)
          (littleEndian ((payload.drop 5).take 2))) artifact

/-- Handle a valid command once its statement is resolved. -/
def dispatchMySQLCommand (o : MySQLObserver) (statement : MySQLPreparedStatement)
    (payload : Bytes) (command : UInt8) : MySQLObserver × Option QueryDecision :=
  if command == mysqlCommandQuery || command == mysqlCommandStmtPrepare then
    o.handleMySQLText sink command payload
  else if command == mysqlCommandStmtLongData then o.handleMySQLLongData sink statement payload
  else if command == mysqlCommandStmtExecute then o.handleMySQLExecute sink statement payload
  else if mysqlCommandExpectsResponse command then
    (o.enqueueMySQLResponse .zero false command, none)
  else (o, none)

def handleClientPacket (o : MySQLObserver) (payload : Bytes) :
    MySQLObserver × Option QueryDecision :=
  match payload with
  | [] => (o, some (newObserverFatalDecision .protocol "malformed MySQL command"))
  | command :: _ =>
    let o := o.finishMySQLPrepareWithOmittedTerminator sink
    if o.fatal.isSome then (o, o.fatal)
    else if !validMySQLClientCommand command payload then
      (o, some (newObserverFatalDecision .protocol
        "MySQL command is not supported after gateway authentication"))
    else if mysqlCommandExpectsResponse command &&
        maxObserverPendingQueries ≤ o.pending.length then
      let failed := o.fail sink .pendingLimit "too many in-flight MySQL commands"
      (failed.1, some failed.2)
    else
      match o.resolveMySQLStatementCommand command payload with
      | (o, .error decision) => (o, some decision)
      | (o, .ok statement) => o.dispatchMySQLCommand sink statement payload command

/-- The payload length in the first three bytes of a packet. -/
def packetPayloadLength (buffer : Bytes) : ℕ :=
  littleEndian (buffer.take 3)

/-- Leave a relay loop with a failure. -/
def leaveFailed (relaying : Relaying MySQLObserver) (failed : MySQLObserver × QueryDecision) :
    Loop.Pass (Relaying MySQLObserver) (Relayed MySQLObserver) :=
  .leave { observer := failed.1, forward := relaying.forward, decision := some failed.2 }

/-- Read more of the chunk into the client buffer, or leave the loop. -/
def fillClient (limit : ℕ) (relaying : Relaying MySQLObserver) :
    Loop.Pass (Relaying MySQLObserver) (Relayed MySQLObserver) :=
  let o := relaying.observer
  if relaying.data.length = 0 then
    .leave { observer := o, forward := relaying.forward, decision := none }
  else
    match appendObserverBufferChunk o.clientBuf relaying.data limit with
    | none =>
      leaveFailed relaying
        (o.fail sink .bufferLimit "MySQL observer frame exceeds the audit limit")
    | some (buffer, data) =>
      .again { relaying with observer := { o with clientBuf := buffer }, data := data }

/-- Handle the complete packet at the head of the client buffer. -/
def handleBufferedCommand (total : ℕ) (relaying : Relaying MySQLObserver) :
    Loop.Pass (Relaying MySQLObserver) (Relayed MySQLObserver) :=
  let buffer := relaying.observer.clientBuf
  let o := { relaying.observer with nextErrorSeq := 1, hasErrorSeq := true }
  if buffer[3]? ≠ some 0 then
    leaveFailed relaying (o.fail sink .protocol "unexpected MySQL client packet sequence")
  else
    let handled := o.handleClientPacket sink ((buffer.take total).drop 4)
    let o := handled.1
    match handled.2.filter (!·.allowed), o.fatal with
    | some decision, _ => leaveFailed relaying (o.failDecision sink decision)
    | none, some fatal =>
      .leave { observer := o, forward := relaying.forward, decision := some fatal }
    | none, none =>
      .again
        { observer := { o with clientBuf := o.clientBuf.drop total }
          data := relaying.data
          forward := relaying.forward ++ buffer.take total }

/-- One pass of the client relay loop. -/
def clientPass (limit : ℕ) (relaying : Relaying MySQLObserver) :
    Loop.Pass (Relaying MySQLObserver) (Relayed MySQLObserver) :=
  let o := relaying.observer
  if o.clientBuf.length < 4 then fillClient sink limit relaying
  else
    let total := 4 + packetPayloadLength o.clientBuf
    if limit < total then
      leaveFailed relaying
        (o.fail sink .bufferLimit "MySQL observer frame exceeds the audit limit")
    else if o.clientBuf.length < total then fillClient sink limit relaying
    else handleBufferedCommand sink total relaying

/-- Bytes still to be read, those of the chunk counted twice. -/
def clientMeasure (relaying : Relaying MySQLObserver) : ℕ :=
  2 * relaying.data.length + relaying.observer.clientBuf.length

def observeClientRelayBytes (o : MySQLObserver) (data : Bytes) : Relayed MySQLObserver :=
  match o.fatal with
  | some fatal => { observer := o, forward := [], decision := some fatal }
  | none =>
    if data.length = 0 then { observer := o, forward := [], decision := none }
    else
      Loop.run (clientPass sink (normalizeMaxClientMessageBytes o.maxClientMessageBytes))
        clientMeasure { observer := o, forward := [], decision := none }
        { observer := o, data := data, forward := [] }

/-! ## Server packets -/

/-- Handle a packet read in fragments through the bytes kept of it. -/
def finishMySQLServerLogicalPacket (o : MySQLObserver) (sequence : UInt8) :
    MySQLObserver × Option QueryDecision :=
  match o.serverLogical with
  | none =>
    let failed := o.fail sink .protocol "malformed MySQL logical packet"
    (failed.1, some failed.2)
  | some logical =>
    let handled := { o with serverLogical := none }.handleServerPacket sink logical.prefixBytes
    let o := handled.1
    match handled.2, o.fatal with
    | some decision, _ => (o, some decision)
    | none, some fatal => (o, some fatal)
    | none, none => ({ o with nextErrorSeq := sequence + 1, hasErrorSeq := true }, none)

/-- Pass on the part of a large packet that has arrived: the observer, the bytes passed on, how
many they are, and the decision. -/
def consumeMySQLServerPacketStream (o : MySQLObserver) (data : Bytes) :
    MySQLObserver × Bytes × ℕ × Option QueryDecision :=
  match o.serverStream with
  | none => (o, [], 0, none)
  | some stream =>
    if data.length = 0 then (o, [], 0, none)
    else
      let consume := min stream.remaining data.length
      let chunk := data.take consume
      let logical :=
        if stream.collectPrefix then
          o.serverLogical.map fun logical =>
            { logical with
              prefixBytes := logical.prefixBytes ++
                chunk.take (maxMySQLObservedPacketPrefixBytes - logical.prefixBytes.length) }
        else o.serverLogical
      let remaining := stream.remaining - consume
      if 0 < remaining then
        ({ o with
            serverLogical := logical
            serverStream := some { stream with remaining := remaining } }, chunk, consume, none)
      else
        let o := { o with serverLogical := logical, serverStream := none }
        if stream.finalFragment then
          let finished := o.finishMySQLServerLogicalPacket sink stream.sequence
          (finished.1, chunk, consume, finished.2 <|> finished.1.fatal)
        else
          ({ o with nextErrorSeq := stream.sequence + 1, hasErrorSeq := true },
            chunk, consume, none)

/-- Read more of the chunk into the server buffer, or leave the loop. -/
def fillServer (relaying : Relaying MySQLObserver) :
    Loop.Pass (Relaying MySQLObserver) (Relayed MySQLObserver) :=
  let o := relaying.observer
  if relaying.data.length = 0 then
    .leave { observer := o, forward := relaying.forward, decision := none }
  else
    match appendObserverBufferChunk o.serverBuf relaying.data maxMySQLObserverBufferBytes with
    | none =>
      leaveFailed relaying
        (o.fail sink .bufferLimit "MySQL observer frame exceeds the audit limit")
    | some (buffer, data) =>
      .again { relaying with observer := { o with serverBuf := buffer }, data := data }

/-- Switch to passing on a packet too large to buffer. -/
def startServerStream (payloadLen : ℕ) (relaying : Relaying MySQLObserver) :
    Loop.Pass (Relaying MySQLObserver) (Relayed MySQLObserver) :=
  let buffer := relaying.observer.serverBuf
  let sequence := buffer[3]?.getD 0
  match relaying.observer.acceptMySQLServerSequence sequence with
  | none =>
    leaveFailed relaying (relaying.observer.fail sink .protocol
      "unexpected MySQL server packet sequence")
  | some o =>
    let stream : MySQLServerPacketStream :=
      { remaining := payloadLen
        sequence := sequence
        collectPrefix := o.serverLogical.isNone
        finalFragment := decide (payloadLen < maxMySQLPhysicalPacketPayloadBytes) }
    let o :=
      { o with
        serverLogical := some (o.serverLogical.getD ⟨[]⟩)
        serverStream := some stream
        serverBuf := [] }
    let consumed := o.consumeMySQLServerPacketStream sink (buffer.drop 4)
    let forward := relaying.forward ++ buffer.take 4 ++ consumed.2.1
    match consumed.2.2.2 with
    | some decision =>
      .leave { observer := consumed.1, forward := forward, decision := some decision }
    | none => .again { observer := consumed.1, data := relaying.data, forward := forward }

/-- Handle the complete packet at the head of the server buffer. -/
def handleBufferedResponse (total : ℕ) (relaying : Relaying MySQLObserver) :
    Loop.Pass (Relaying MySQLObserver) (Relayed MySQLObserver) :=
  let buffer := relaying.observer.serverBuf
  let packet := buffer.take total
  let sequence := packet[3]?.getD 0
  match relaying.observer.acceptMySQLServerSequence sequence with
  | none =>
    leaveFailed relaying (relaying.observer.fail sink .protocol
      "unexpected MySQL server packet sequence")
  | some o =>
    if o.serverLogical.isSome then
      let forward := relaying.forward ++ packet
      let finished :=
        { o with serverBuf := buffer.drop total }.finishMySQLServerLogicalPacket sink sequence
      match finished.2, finished.1.fatal with
      | some decision, _ =>
        .leave { observer := finished.1, forward := forward, decision := some decision }
      | none, some fatal =>
        .leave { observer := finished.1, forward := forward, decision := some fatal }
      | none, none =>
        .again { observer := finished.1, data := relaying.data, forward := forward }
    else
      let handled := o.handleServerPacket sink (packet.drop 4)
      match handled.2, handled.1.fatal with
      | some decision, _ =>
        .leave
          { observer := handled.1, forward := relaying.forward, decision := some decision }
      | none, some fatal =>
        .leave { observer := handled.1, forward := relaying.forward, decision := some fatal }
      | none, none =>
        let o :=
          { handled.1 with
            nextErrorSeq := sequence + 1
            hasErrorSeq := true
            serverBuf := handled.1.serverBuf.drop total }
        .again { observer := o, data := relaying.data, forward := relaying.forward ++ packet }

/-- One pass of the server relay loop. -/
def serverPass (relaying : Relaying MySQLObserver) :
    Loop.Pass (Relaying MySQLObserver) (Relayed MySQLObserver) :=
  let o := relaying.observer
  if o.serverStream.isSome then
    let consumed := o.consumeMySQLServerPacketStream sink relaying.data
    let forward := relaying.forward ++ consumed.2.1
    let data := relaying.data.drop consumed.2.2.1
    match consumed.2.2.2 with
    | some decision =>
      .leave { observer := consumed.1, forward := forward, decision := some decision }
    | none =>
      if data.length = 0 then
        .leave { observer := consumed.1, forward := forward, decision := none }
      else .again { observer := consumed.1, data := data, forward := forward }
  else if o.serverBuf.length < 4 then fillServer sink relaying
  else
    let payloadLen := packetPayloadLength o.serverBuf
    let total := 4 + payloadLen
    if maxMySQLObserverBufferBytes < total then startServerStream sink payloadLen relaying
    else if o.serverBuf.length < total then fillServer sink relaying
    else handleBufferedResponse sink total relaying

/-- Bytes still to be read, those of the chunk counted twice, and the open stream. -/
def serverMeasure (relaying : Relaying MySQLObserver) : ℕ :=
  2 * relaying.data.length + relaying.observer.serverBuf.length +
    if relaying.observer.serverStream.isSome then 1 else 0

def observeServerRelayBytes (o : MySQLObserver) (data : Bytes) : Relayed MySQLObserver :=
  match o.fatal with
  | some fatal => { observer := o, forward := [], decision := some fatal }
  | none =>
    if data.length = 0 then { observer := o, forward := [], decision := none }
    else
      Loop.run (serverPass sink) serverMeasure
        { observer := o, forward := [], decision := none }
        { observer := o, data := data, forward := [] }

/-- A fresh observer. -/
def new (maxClientMessageBytes : Int) : MySQLObserver where
  maxClientMessageBytes := normalizeMaxClientMessageBytes maxClientMessageBytes

end MySQLObserver
end Jianmen.DBProxy
