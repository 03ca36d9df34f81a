import Jianmen.Library.Loop
import Jianmen.DBProxy.Session
import Jianmen.DBProxy.Postgres.Observer

/-!
# The relay loops of the PostgreSQL observer

Each direction is read frame by frame.  A frame is forwarded once its message was observed; a
frame too large to buffer is forwarded chunk by chunk, its last chunk once the message was
observed.
-/

namespace Jianmen.DBProxy

open Postgres

namespace PostgresObserver

variable (sink : QuerySink) (budget : Option ObserverMemoryBudget)

/-! ## What is let through -/

/-- Record that a part of a new frame was let through. -/
def send (o : PostgresObserver) (bytes : Bytes) (whole : Bool) : PostgresObserver :=
  { o with sent := o.sent ++ [⟨bytes, whole⟩] }

/-- Record that a further chunk of the last frame was let through. -/
def sendChunk (o : PostgresObserver) (chunk : Bytes) (last : Bool) : PostgresObserver :=
  match o.sent.getLast? with
  | none => o
  | some frame => { o with sent := o.sent.dropLast ++ [⟨frame.bytes ++ chunk, last⟩] }

/-! ## Streamed client frames -/

/-- Complete the capture of a streamed statement and go on with its audit copy. -/
def finishSQLStream (o : PostgresObserver) (p : PostgresStreamParser) (complete : Bool)
    (message : String)
    (next : PostgresObserver → DatabaseSQLAudit → PostgresObserver × Option QueryDecision) :
    PostgresObserver × Option QueryDecision :=
  if !complete then
    let refused := o.refuse sink .protocol message
    ({ refused.1 with
        calls := refused.1.calls ++ if p.capturing then [.abortCapture] else [] }, refused.2)
  else
    match sink.artifacts, p.capturing with
    | some store, true =>
      let artifact := store.completeCapture o.calls
      let o := { o with calls := o.calls ++ [.completeCapture artifact] }
      match artifact with
      | none => o.refuse sink .auditFailure "database full SQL audit recording failed"
      | some artifact => next o (PostgresStreamParser.audit { p with artifact := artifact })
    | _, _ => next o p.audit

/-- Observe the message of a streamed frame. -/
def finishStreamParser (o : PostgresObserver) (p : PostgresStreamParser) :
    PostgresObserver × Option QueryDecision :=
  if p.messageType = queryType then
    finishSQLStream sink o p (p.phase == 1) "malformed streamed PostgreSQL Query"
      (startPostgresSimpleQuery sink)
  else if p.messageType = parseType then
    finishSQLStream sink o p (p.phase == 4) "malformed streamed PostgreSQL Parse"
      fun o audit => observePostgresParseSummary sink o p.name audit
  else if p.messageType = bindType then
    if p.phase ≠ 2 ∨ !p.bind.isComplete then
      o.refuse sink .protocol "malformed streamed PostgreSQL Bind"
    else observePostgresBindNames sink o p.name p.statement p.parameterArtifact
  else o.refuse sink .protocol "unsupported streamed PostgreSQL message"

/-- The end of a streamed frame. -/
def finishClientStream (o : PostgresObserver) (stream : PostgresClientFrameStream) :
    PostgresObserver × Option QueryDecision :=
  match stream.reject with
  | some decision =>
    let failed := o.failDecision sink decision
    ({ failed.1 with
        calls := failed.1.calls ++ PostgresClientFrameStream.closeCalls (some stream) },
      some failed.2)
  | none =>
    match stream.parser with
    | none => (o, none)
    | some parser =>
      match sink.artifacts, stream.frameCapture with
      | some store, true =>
        let artifact := store.completeCapture o.calls
        let o := { o with calls := o.calls ++ [.completeCapture artifact] }
        match artifact with
        | none => o.refuse sink .auditFailure "database parameter audit recording failed"
        | some artifact =>
          finishStreamParser sink o { parser with parameterArtifact := artifact }
      | _, _ => finishStreamParser sink o parser

/-- Pass on the part of a streamed frame that has arrived: the observer, the bytes passed on, how
many were read, and the decision. -/
def consumePostgresClientFrameStream (o : PostgresObserver) (data : Bytes) :
    PostgresObserver × Bytes × ℕ × Option QueryDecision :=
  match o.clientStream with
  | none => (o, [], 0, none)
  | some stream =>
    if data.length = 0 then (o, [], 0, none)
    else
      let consumed := min stream.remaining data.length
      let chunk := data.take consumed
      let followed := PostgresClientFrameStream.follow sink
        { stream with remaining := stream.remaining - consumed } o.calls chunk
      let stream := followed.2
      if 0 < stream.remaining then
        let o := { o with calls := followed.1, clientStream := some stream }
        if stream.forward then (o.sendChunk chunk false, chunk, consumed, none)
        else (o, [], consumed, none)
      else
        let finished := finishClientStream sink
          { o with
            calls := followed.1
            clientStream := none
            released := o.released ++ stream.lease.toList } stream
        match finished.2 with
        | some decision => (finished.1, [], consumed, some decision)
        | none =>
          if stream.forward then (finished.1.sendChunk chunk true, chunk, consumed, none)
          else (finished.1, [], consumed, none)

def canStreamPostgresFrontendFrame (messageType : MessageType) : Bool :=
  messageType == queryType || messageType == parseType || messageType == bindType ||
    messageType == copyDataType

/-! ## The client loop -/

/-- Leave a relay loop with a decision. -/
def leaveFailed (relaying : Relaying PostgresObserver)
    (failed : PostgresObserver × QueryDecision) :
    Loop.Pass (Relaying PostgresObserver) (Relayed PostgresObserver) :=
  .leave { observer := failed.1, forward := relaying.forward, decision := some failed.2 }

/-- Read more of the chunk into the client buffer, or leave the loop. -/
def fillClient (limit : ℕ) (message : String) (relaying : Relaying PostgresObserver) :
    Loop.Pass (Relaying PostgresObserver) (Relayed PostgresObserver) :=
  let o := relaying.observer
  if relaying.data.length = 0 then
    .leave { observer := o, forward := relaying.forward, decision := none }
  else
    match appendObserverBufferChunk o.clientBuf relaying.data limit with
    | none => leaveFailed relaying (o.fail sink .bufferLimit message)
    | some (buffer, data) =>
      .again { relaying with observer := { o with clientBuf := buffer }, data := data }

/-- Take a startup frame, or read more; two request codes leave the startup open. -/
def startupPass (relaying : Relaying PostgresObserver) :
    Loop.Pass (Relaying PostgresObserver) (Relayed PostgresObserver) :=
  let o := relaying.observer
  let message := "PostgreSQL observer frame exceeds the audit limit"
  if o.clientBuf.length < 4 then fillClient sink maxPostgresObserverBufferBytes message relaying
  else
    let msgLen := bigEndian (o.clientBuf.take 4)
    if msgLen < 8 ∨ maxPostgresMessageBytes < msgLen then
      leaveFailed relaying (o.fail sink .protocol "malformed PostgreSQL startup message")
    else if maxPostgresObserverBufferBytes < msgLen then
      leaveFailed relaying (o.fail sink .bufferLimit message)
    else if o.clientBuf.length < msgLen then
      fillClient sink maxPostgresObserverBufferBytes message relaying
    else
      let code := bigEndian ((o.clientBuf.drop 4).take 4)
      .again
        { observer :=
            { o with
              clientBuf := o.clientBuf.drop msgLen
              startupDone := decide (code ≠ 80877103 ∧ code ≠ 80877104) }
          data := relaying.data
          forward := relaying.forward ++ o.clientBuf.take msgLen }

/-- Switch to passing on a frame in chunks; what is buffered is its first one. -/
def startClientStream (total : ℕ) (forward : Bool) (reject : Option QueryDecision)
    (relaying : Relaying PostgresObserver) :
    Loop.Pass (Relaying PostgresObserver) (Relayed PostgresObserver) :=
  let o := relaying.observer
  let created := newPostgresClientFrameStream sink budget o.calls o.leases
    (o.clientBuf.headD 0) (total - 5) forward reject
  let header := if created.2.2.forward then o.clientBuf.take 5 else []
  let opened :=
    { o with
      calls := created.1
      leases := created.2.1
      clientStream := some created.2.2
      clientBuf := [] }
  let opened := if created.2.2.forward then opened.send header false else opened
  let consumed := consumePostgresClientFrameStream sink opened (o.clientBuf.drop 5)
  let forwarded := relaying.forward ++ header ++ consumed.2.1
  match consumed.2.2.2 with
  | some decision =>
    .leave { observer := consumed.1, forward := forwarded, decision := some decision }
  | none => .again { observer := consumed.1, data := relaying.data, forward := forwarded }

/-- Observe the complete frame at the head of the client buffer. -/
def handleBufferedMessage (total : ℕ) (relaying : Relaying PostgresObserver) :
    Loop.Pass (Relaying PostgresObserver) (Relayed PostgresObserver) :=
  let o := relaying.observer
  let frame := o.clientBuf.take total
  let messageType := o.clientBuf.headD 0
  let payload := frame.drop 5
  if !validPostgresFrontendMessage messageType payload then
    leaveFailed relaying (o.fail sink .protocol
      "malformed or unsupported PostgreSQL frontend message")
  else
    let handled := observePostgresClientMessage sink o messageType payload
    let o := handled.1
    match handled.2.filter (!·.allowed), o.fatal with
    | some decision, _ => leaveFailed relaying (o.failDecision sink decision)
    | none, some fatal =>
      .leave { observer := o, forward := relaying.forward, decision := some fatal }
    | none, none =>
      .again
        { observer := send { o with clientBuf := o.clientBuf.drop total } frame true
          data := relaying.data
          forward := relaying.forward ++ frame }

/-- One pass of the client relay loop. -/
def clientPass (limit : ℕ) (relaying : Relaying PostgresObserver) :
    Loop.Pass (Relaying PostgresObserver) (Relayed PostgresObserver) :=
  let o := relaying.observer
  if o.clientStream.isSome then
    let consumed := consumePostgresClientFrameStream sink o relaying.data
    let forward := relaying.forward ++ consumed.2.1
    let data := relaying.data.drop consumed.2.2.1
    match consumed.2.2.2 with
    | some decision =>
      .leave { observer := consumed.1, forward := forward, decision := some decision }
    | none =>
      if data.length = 0 then
        .leave { observer := consumed.1, forward := forward, decision := none }
      else .again { observer := consumed.1, data := data, forward := forward }
  else if !o.startupDone then startupPass sink relaying
  else if o.clientBuf.length < 5 then
    fillClient sink (min limit maxPostgresObserverBufferBytes)
      "PostgreSQL observer frame exceeds the audit limit" relaying
  else
    let messageType := o.clientBuf.headD 0
    let msgLen := bigEndian ((o.clientBuf.drop 1).take 4)
    let total := 1 + msgLen
    if msgLen < 4 ∨ maxDatabaseGatewayMaxClientMessageBytes < msgLen then
      leaveFailed relaying (o.fail sink .protocol "malformed PostgreSQL message")
    else if messageType = copyDataType ∧ maxPostgresObserverBufferBytes < total then
      startClientStream sink budget total true none relaying
    else if limit < total then
      startClientStream sink budget total false
        (some (newObserverFatalDecision .clientMessageLimit
          "PostgreSQL client message exceeds the configured limit")) relaying
    else if maxPostgresObserverBufferBytes < total ∧
        canStreamPostgresFrontendFrame messageType then
      startClientStream sink budget total true none relaying
    else if o.clientBuf.length < total then
      fillClient sink maxPostgresObserverBufferBytes
        "PostgreSQL observer frame exceeds the audit buffer limit" relaying
    else handleBufferedMessage sink total relaying

/-- Bytes still to be read, those of the chunk counted twice, and the open stream. -/
def clientMeasure (relaying : Relaying PostgresObserver) : ℕ :=
  2 * relaying.data.length + relaying.observer.clientBuf.length +
    if relaying.observer.clientStream.isSome then 1 else 0

def observeClientRelayBytes (o : PostgresObserver) (data : Bytes) : Relayed PostgresObserver :=
  match o.fatal with
  | some fatal => { observer := o, forward := [], decision := some fatal }
  | none =>
    if data.length = 0 then { observer := o, forward := [], decision := none }
    else
      Loop.run (clientPass sink budget (normalizeMaxClientMessageBytes o.maxClientMessageBytes))
        clientMeasure { observer := o, forward := [], decision := none }
        { observer := o, data := data, forward := [] }

/-! ## The server loop -/

def canStreamPostgresBackendFrame (messageType : MessageType) : Bool :=
  messageType == dataRowType || messageType == copyDataType

/-- The chunk of a streamed frame that has arrived, and the stream after it. -/
def consumePostgresFrameStream (stream : Option ℕ) (data : Bytes) : Bytes × Option ℕ :=
  match stream with
  | none => ([], none)
  | some remaining =>
    if data.length = 0 then ([], some remaining)
    else
      let consume := min remaining data.length
      (data.take consume, if remaining - consume = 0 then none else some (remaining - consume))

/-- Read more of the chunk into the server buffer, or leave the loop. -/
def fillServer (relaying : Relaying PostgresObserver) :
    Loop.Pass (Relaying PostgresObserver) (Relayed PostgresObserver) :=
  let o := relaying.observer
  if relaying.data.length = 0 then
    .leave { observer := o, forward := relaying.forward, decision := none }
  else
    match appendObserverBufferChunk o.serverBuf relaying.data maxPostgresObserverBufferBytes with
    | none =>
      leaveFailed relaying (o.fail sink .bufferLimit
        "PostgreSQL observer frame exceeds the audit limit")
    | some (buffer, data) =>
      .again { relaying with observer := { o with serverBuf := buffer }, data := data }

/-- Observe the complete frame at the head of the server buffer. -/
def handleBufferedResponse (total : ℕ) (relaying : Relaying PostgresObserver) :
    Loop.Pass (Relaying PostgresObserver) (Relayed PostgresObserver) :=
  let o := relaying.observer
  let frame := o.serverBuf.take total
  let messageType := o.serverBuf.headD 0
  let payload := frame.drop 5
  if !validPostgresBackendMessage messageType payload then
    leaveFailed relaying (o.fail sink .protocol
      "malformed or unsupported PostgreSQL backend message")
  else
    let o := observePostgresServerMessage sink o messageType payload
    match o.fatal with
    | some fatal => .leave { observer := o, forward := relaying.forward, decision := some fatal }
    | none =>
      .again
        { observer := { o with serverBuf := o.serverBuf.drop total }
          data := relaying.data
          forward := relaying.forward ++ frame }

/-- One pass of the server relay loop. -/
def serverPass (relaying : Relaying PostgresObserver) :
    Loop.Pass (Relaying PostgresObserver) (Relayed PostgresObserver) :=
  let o := relaying.observer
  if o.serverStream.isSome then
    let consumed := consumePostgresFrameStream o.serverStream relaying.data
    let o := { o with serverStream := consumed.2 }
    let forward := relaying.forward ++ consumed.1
    let data := relaying.data.drop consumed.1.length
    if data.length = 0 then .leave { observer := o, forward := forward, decision := none }
    else .again { observer := o, data := data, forward := forward }
  else if o.serverBuf.length < 5 then fillServer sink relaying
  else
    let messageType := o.serverBuf.headD 0
    let msgLen := bigEndian ((o.serverBuf.drop 1).take 4)
    let total := 1 + msgLen
    if msgLen < 4 ∨ maxPostgresMessageBytes < msgLen then
      leaveFailed relaying (o.fail sink .protocol "malformed PostgreSQL message")
    else if maxPostgresObserverBufferBytes < total then
      if !canStreamPostgresBackendFrame messageType then
        leaveFailed relaying (o.fail sink .bufferLimit
          "PostgreSQL observer frame exceeds the audit limit")
      else
        let consumed := consumePostgresFrameStream (some (total - 5)) (o.serverBuf.drop 5)
        .again
          { observer := { o with serverBuf := [], serverStream := consumed.2 }
            data := relaying.data
            forward := relaying.forward ++ o.serverBuf.take 5 ++ consumed.1 }
    else if o.serverBuf.length < total then fillServer sink relaying
    else handleBufferedResponse sink total relaying

/-- Bytes still to be read, those of the chunk counted twice, and the open stream. -/
def serverMeasure (relaying : Relaying PostgresObserver) : ℕ :=
  2 * relaying.data.length + relaying.observer.serverBuf.length +
    if relaying.observer.serverStream.isSome then 1 else 0

def observeServerRelayBytes (o : PostgresObserver) (data : Bytes) : Relayed PostgresObserver :=
  match o.fatal with
  | some fatal => { observer := o, forward := [], decision := some fatal }
  | none =>
    if data.length = 0 then { observer := o, forward := [], decision := none }
    else
      Loop.run (serverPass sink) serverMeasure
        { observer := o, forward := [], decision := none }
        { observer := o, data := data, forward := [] }

/-- A fresh observer of a connection whose startup is over. -/
def new (maxClientMessageBytes : Int) : PostgresObserver where
  maxClientMessageBytes := normalizeMaxClientMessageBytes maxClientMessageBytes

/-- The observer as the relay calls it. -/
def relay : RelayObserver PostgresObserver where
  observeClientRelayBytes := observeClientRelayBytes sink budget
  observeServerRelayBytes := observeServerRelayBytes sink
  abort := abort sink

end PostgresObserver
end Jianmen.DBProxy
