import Jianmen.DBProxy.Postgres.Frames

/-!
# What observing a message does

Observing a frontend message either accepts it, which queues its operation and starts its query,
or refuses it, which fails the observer or leaves it as it was after a denied start.  Captures of
statements and parameters aside, nothing else happens.  The relay loop is a sequence of such
moves, whether frames are buffered or streamed, and what it forwards is what the moves send.
-/

namespace Jianmen.DBProxy

open Postgres List PostgresClientFrameStream

namespace PostgresObserver

variable (sink : QuerySink)

/-- The observer after further calls on the sink. -/
def called (o : PostgresObserver) (more : List SinkCall) : PostgresObserver :=
  { o with calls := o.calls ++ more }

@[simp] theorem called_calls (o : PostgresObserver) (more : List SinkCall) :
    (o.called more).calls = o.calls ++ more := rfl

@[simp] theorem called_nil (o : PostgresObserver) : o.called [] = o := by
  simp [called]

@[simp] theorem called_called (o : PostgresObserver) (first second : List SinkCall) :
    (o.called first).called second = o.called (first ++ second) := by
  simp [called]

/-- The call that starts a query under an audit copy, and is allowed. -/
def startCall (audit : DatabaseSQLAudit) (command : AuditedCommand)
    (parameters : Option DatabaseAuditArtifact) (record : QueryRecord)
    (decision : QueryDecision) : SinkCall :=
  .start audit.text (audit.withDetail command parameters) (.returned record decision)

/-- The sink allows a query under an audit copy. -/
structure Allows (calls : List SinkCall) (audit : DatabaseSQLAudit) (command : AuditedCommand)
    (parameters : Option DatabaseAuditArtifact) (record : QueryRecord)
    (decision : QueryDecision) : Prop where
  answer : sink.startQuery calls audit.text (audit.withDetail command parameters) =
    .returned record decision
  allowed : decision.allowed = true

/-- Accepting a message: what it takes and what it does. -/
inductive Accepts : FrontendMessage → PostgresObserver → PostgresObserver → Prop where
  | query {o : PostgresObserver} {sql : Bytes} {audit : DatabaseSQLAudit} {record : QueryRecord}
      {decision : QueryDecision} (text : IsAuditText sink sql audit.text)
      (allows : Allows sink o.calls audit .postgresQuery none record decision) :
      Accepts (.query sql) o (enqueuePostgresOperation
        { o.called [startCall audit .postgresQuery none record decision] with
          pending := o.pending ++ [record]
          cycles := o.cycles ++ [⟨true, [{ record := record }]⟩] } .query)
  | parse {o : PostgresObserver} {name sql : Bytes} {audit : DatabaseSQLAudit}
      (text : IsAuditText sink sql audit.text)
      (fresh : name = [] ∨ o.projectedPostgresPreparedStatement name = none) :
      Accepts (.parse name sql) o
        (o.enqueuePostgresOperation (.parse name ⟨o.accepted.length, audit⟩))
  | bind {o : PostgresObserver} {portal statement : Bytes} {artifact : DatabaseAuditArtifact}
      {prepared : PostgresPreparedStatement}
      (fresh : portal = [] ∨ o.projectedPostgresPortal portal = none)
      (known : o.projectedPostgresPreparedStatement statement = some prepared) :
      Accepts (.bind portal statement) o
        (o.enqueuePostgresOperation
          (.bind portal ⟨o.accepted.length, statement, prepared, artifact⟩))
  | execute {o : PostgresObserver} {portal : Bytes} {binding : PostgresPortal}
      {record : QueryRecord} {decision : QueryDecision}
      (known : o.projectedPostgresPortal portal = some binding)
      (allows : Allows sink o.calls binding.prepared.audit .postgresExecute
        (some binding.parameterArtifact) record decision) :
      Accepts (.execute portal) o (enqueuePostgresOperation
        { o.called [startCall binding.prepared.audit .postgresExecute
            (some binding.parameterArtifact) record decision] with
          pending := o.pending ++ [record]
          openCycle := some
            { o.openCycle.getD ⟨false, []⟩ with
              entries := (o.openCycle.getD ⟨false, []⟩).entries ++ [{ record := record }] } }
        .execute binding)
  | close {o : PostgresObserver} {target : UInt8} {name : Bytes} :
      Accepts (.close target name) o (o.enqueuePostgresOperation (.close target name))
  | describe {o : PostgresObserver} :
      Accepts .describe o (o.enqueuePostgresOperation .describe)
  | sync {o : PostgresObserver} :
      Accepts .sync o (enqueuePostgresOperation
        { o with cycles := o.cycles ++ o.openCycle.toList, openCycle := none } .sync)
  | other {o : PostgresObserver} : Accepts .other o o

/-- A start that panicked or was denied. -/
def Unallowed : StartOutcome → Prop
  | .panicked => True
  | .returned _ decision => decision.allowed = false

theorem Unallowed.allowedStarts {outcome : StartOutcome} (unallowed : Unallowed outcome)
    (sql : Bytes) (detail : QueryDetail) : allowedStarts [.start sql detail outcome] = [] := by
  cases outcome with
  | panicked => rfl
  | returned _ decision =>
    have refused : decision.allowed = false := unallowed
    simp [refused]

/-- Refusing a message: the observer fails, or only a start was denied. -/
inductive Refuses : PostgresObserver → PostgresObserver → QueryDecision → Prop where
  | failed {o : PostgresObserver} {more last : List SinkCall} {decision : QueryDecision}
      (quiet : Quiet more) (last_quiet : Quiet last) :
      Refuses o (called ((o.called more).failDecision sink decision).1 last)
        ((o.called more).failDecision sink decision).2
  | denied {o : PostgresObserver} {more : List SinkCall} {sql : Bytes} {detail : QueryDetail}
      {outcome : StartOutcome} {decision : QueryDecision} (quiet : Quiet more)
      (unallowed : Unallowed outcome) (refused : decision.allowed = false) :
      Refuses o (o.called (more ++ [.start sql detail outcome])) decision

/-- Accepting a message after captures. -/
def Observes (message : FrontendMessage) (o o' : PostgresObserver) : Prop :=
  ∃ more, Quiet more ∧ Accepts sink message (o.called more) o'

/-- A message is accepted without a decision, or refused with one. -/
def Handles (message : FrontendMessage) (o : PostgresObserver)
    (result : PostgresObserver × Option QueryDecision) : Prop :=
  (result.2 = none ∧ Observes sink message o result.1) ∨
    ∃ decision, result.2 = some decision ∧ Refuses sink o result.1 decision

variable {message : FrontendMessage} {o o' : PostgresObserver} {decision : QueryDecision}
  {stream : PostgresClientFrameStream} {sql payload seen : Bytes} {audit : DatabaseSQLAudit}
  {next : PostgresObserver → DatabaseSQLAudit → PostgresObserver × Option QueryDecision}
  {p : PostgresStreamParser}

theorem Accepts.handles (accepts : Accepts sink message o o') : Handles sink message o (o', none) :=
  .inl ⟨rfl, [], Quiet.nil, by simpa using accepts⟩

theorem Refuses.fail (o : PostgresObserver) (decision : QueryDecision) :
    Refuses sink o (o.failDecision sink decision).1 (o.failDecision sink decision).2 := by
  have failed : Refuses sink o (called ((o.called []).failDecision sink decision).1 [])
      ((o.called []).failDecision sink decision).2 := .failed Quiet.nil Quiet.nil
  rwa [called_nil, called_nil] at failed

theorem refuse_handles (message : FrontendMessage) (o : PostgresObserver) (code : ErrorCode)
    (reason : String) : Handles sink message o (o.refuse sink code reason) :=
  .inr ⟨_, rfl, .fail sink o _⟩

/-- Captures made before a message is handled belong to handling it. -/
theorem Handles.after_calls {more : List SinkCall}
    {result : PostgresObserver × Option QueryDecision} (quiet : Quiet more)
    (handles : Handles sink message (o.called more) result) : Handles sink message o result := by
  obtain ⟨_, _⟩ := result
  rcases handles with ⟨undecided, later, later_quiet, accepts⟩ | ⟨decision, decided, refuses⟩
  · rw [called_called] at accepts
    exact .inl ⟨undecided, more ++ later, quiet.append later_quiet, accepts⟩
  · refine .inr ⟨decision, decided, ?_⟩
    dsimp only at refuses ⊢
    cases refuses with
    | failed later_quiet last_quiet =>
      rw [called_called]
      exact .failed (quiet.append later_quiet) last_quiet
    | denied later_quiet unallowed refused =>
      rw [called_called, ← append_assoc]
      exact .denied (quiet.append later_quiet) unallowed refused

/-! ## Accepting by message -/

theorem queueStateOperation_cases (o : PostgresObserver) (operation : PostgresFrontendOperation)
    (reason : String) :
    queueStateOperation sink o operation reason = o.refuse sink .pendingLimit reason ∨
      queueStateOperation sink o operation reason =
        (o.enqueuePostgresOperation operation, none) := by
  unfold queueStateOperation
  split
  · exact .inl rfl
  · exact .inr rfl

theorem observePostgresParseSummary_handles {name : Bytes}
    (text : IsAuditText sink sql audit.text) :
    Handles sink (.parse name sql) o (observePostgresParseSummary sink o name audit) := by
  unfold observePostgresParseSummary
  split
  · exact refuse_handles sink _ o _ _
  rename_i unused
  have fresh : name = [] ∨ o.projectedPostgresPreparedStatement name = none := by
    by_cases unnamed : name = []
    · exact .inl unnamed
    · exact .inr (by simpa [unnamed] using unused)
  rcases queueStateOperation_cases sink o (.parse name ⟨o.accepted.length, audit⟩)
    "PostgreSQL prepared statement audit state exceeds the configured limit" with full | queued
  · rw [full]
    exact refuse_handles sink _ o _ _
  · rw [queued]
    exact (Accepts.parse text fresh).handles

theorem observePostgresBindNames_handles (o : PostgresObserver) (portal statement : Bytes)
    (artifact : DatabaseAuditArtifact) :
    Handles sink (.bind portal statement) o
      (observePostgresBindNames sink o portal statement artifact) := by
  unfold observePostgresBindNames
  split
  · exact refuse_handles sink _ o _ _
  rename_i unused
  have fresh : portal = [] ∨ o.projectedPostgresPortal portal = none := by
    by_cases unnamed : portal = []
    · exact .inl unnamed
    · exact .inr (by simpa [unnamed] using unused)
  split
  · exact refuse_handles sink _ o _ _
  rename_i prepared known
  rcases queueStateOperation_cases sink o
    (.bind portal ⟨o.accepted.length, statement, prepared, artifact⟩)
    "PostgreSQL portal audit state exceeds the configured limit" with full | queued
  · rw [full]
    exact refuse_handles sink _ o _ _
  · rw [queued]
    exact (Accepts.bind fresh known).handles

/-- A start that is not allowed leaves everything but the calls alone. -/
private theorem denied_handles (o : PostgresObserver) {detail : QueryDetail}
    {outcome : StartOutcome} (unallowed : Unallowed outcome) (refused : decision.allowed = false) :
    Handles sink message o (o.called [.start sql detail outcome], some decision) := by
  have denied : Refuses sink o (o.called ([] ++ [.start sql detail outcome])) decision :=
    .denied Quiet.nil unallowed refused
  exact .inr ⟨decision, rfl, denied⟩

theorem startPostgresSimpleQuery_handles (text : IsAuditText sink sql audit.text) :
    Handles sink (.query sql) o (startPostgresSimpleQuery sink o audit) := by
  simp only [startPostgresSimpleQuery, startPreparedObservedSQLQuery, startObservedQuery]
  split
  · exact refuse_handles sink _ o _ _
  split
  · exact refuse_handles sink _ o _ _
  cases answer : sink.startQuery o.calls audit.text (audit.withDetail .postgresQuery none) with
  | panicked => exact denied_handles sink o trivial rfl
  | returned _ decision =>
    dsimp only
    split
    · rename_i refused
      have refused : decision.allowed = false := by simpa using refused
      exact denied_handles sink o refused refused
    · rename_i allowed
      exact (Accepts.query text ⟨answer, by simpa using allowed⟩).handles

theorem startPostgresPortalExecution_handles (o : PostgresObserver) (portal : Bytes) :
    Handles sink (.execute portal) o (startPostgresPortalExecution sink o portal) := by
  simp only [startPostgresPortalExecution, startPreparedObservedSQLQuery, startObservedQuery]
  split
  · exact refuse_handles sink _ o _ _
  rename_i binding known
  split
  · exact refuse_handles sink _ o _ _
  split
  · exact refuse_handles sink _ o _ _
  cases answer : sink.startQuery o.calls binding.prepared.audit.text
      (binding.prepared.audit.withDetail .postgresExecute (some binding.parameterArtifact)) with
  | panicked => exact denied_handles sink o trivial rfl
  | returned _ decision =>
    dsimp only
    split
    · rename_i refused
      have refused : decision.allowed = false := by simpa using refused
      exact denied_handles sink o refused refused
    · rename_i allowed
      exact (Accepts.execute known ⟨answer, by simpa using allowed⟩).handles

/-- Auditing the text of a message is a capture, and then the message is handled. -/
theorem withAudit_handles (o : PostgresObserver) (sql : Bytes)
    (handles : ∀ o' audit, IsAuditText sink sql audit.text →
      Handles sink message o' (next o' audit)) :
    Handles sink message o (withAudit sink o sql next) := by
  obtain ⟨more, called, quiet⟩ := captureDatabaseAuditBytes_calls sink o.calls .sql sql
  have calls : (prepareAndCaptureDatabaseSQLBytes sink o.calls sql
      postgresStreamAuditPreviewBytes).1 = o.calls ++ more := called
  unfold withAudit
  split
  · rename_i calls' failed
    rw [failed] at calls
    dsimp only at calls
    rw [calls]
    exact (refuse_handles sink message (o.called more) _ _).after_calls sink quiet
  · rename_i calls' audit prepared
    rw [prepared] at calls
    dsimp only at calls
    rw [calls]
    have copied : (prepareAndCaptureDatabaseSQLBytes sink o.calls sql
        postgresStreamAuditPreviewBytes).2 = some audit := by rw [prepared]
    have text : IsAuditText sink sql audit.text :=
      .inl (prepareAndCaptureDatabaseSQLBytes_text copied)
    exact (handles (o.called more) audit text).after_calls sink quiet

theorem observePostgresClientMessage_handles (o : PostgresObserver) (messageType : MessageType)
    (payload : Bytes) :
    Handles sink (readFrontendMessage messageType payload) o
      (observePostgresClientMessage sink o messageType payload) := by
  by_cases full : isTrackedPostgresFrontendOperation messageType ∧
      maxPostgresPendingOperations ≤ o.operations.length
  · simp only [observePostgresClientMessage, if_pos full]
    exact refuse_handles sink _ o _ _
  · simp only [observePostgresClientMessage, readFrontendMessage]
    split
    · exact withAudit_handles sink o _ fun _ _ text => startPostgresSimpleQuery_handles sink text
    split
    · exact withAudit_handles sink o _ fun _ _ text =>
        observePostgresParseSummary_handles sink text
    split
    · obtain ⟨more, called, quiet⟩ :=
        captureDatabaseAuditBytes_calls sink o.calls .parameters payload
      split
      · rename_i calls' failed
        rw [failed] at called
        dsimp only at called
        rw [called]
        exact (refuse_handles sink _ (o.called more) _ _).after_calls sink quiet
      · rename_i calls' artifact captured
        rw [captured] at called
        dsimp only at called
        rw [called]
        exact (observePostgresBindNames_handles sink (o.called more) _ _ _).after_calls sink quiet
    · split
      · exact startPostgresPortalExecution_handles sink o _
      · split
        · exact Accepts.sync.handles
        · split
          · rcases queueStateOperation_cases sink o
              (.close (payload.headD 0) (splitCString (payload.drop 1)).1)
              "PostgreSQL prepared-state audit data exceeds the configured limit" with
              full | queued
            · rw [full]
              exact refuse_handles sink _ o _ _
            · rw [queued]
              exact Accepts.close.handles
          · split
            · exact Accepts.describe.handles
            · exact Accepts.other.handles

/-! ## Streamed messages -/

/-- A parser set up for a sink: it keeps the preview the policy asks for, or none. -/
structure Configured (p : PostgresStreamParser) : Prop where
  redact : p.redact = (databaseAuditPolicy sink postgresStreamAuditPreviewBytes).2
  previewMax : p.previewMax = (databaseAuditPolicy sink postgresStreamAuditPreviewBytes).1 ∨
    p.previewMax = 0
  captureMax : p.previewCaptureMax =
    (newPostgresStreamParser parseType p.previewMax p.redact).previewCaptureMax

theorem Configured.same {p' : PostgresStreamParser} (configured : Configured sink p)
    (same : p.SameSetup p') : Configured sink p' := by
  refine ⟨same.redact.trans configured.redact, ?_, ?_⟩
  · rw [same.previewMax]
    exact configured.previewMax
  · rw [same.previewCaptureMax, same.previewMax, same.redact]
    exact configured.captureMax

theorem Configured.audit_text
    (configured : Configured sink p) (kept : p.Kept sql) : IsAuditText sink sql p.audit.text := by
  have text : p.audit.text = streamedAuditText p.redact p.previewMax sql := by
    simp only [PostgresStreamParser.audit, kept.2, kept.1, configured.captureMax]
    rfl
  rw [text, configured.redact]
  rcases configured.previewMax with full | omitted
  · rw [full]
    exact .inr (.inl rfl)
  · rw [omitted]
    exact .inr (.inr rfl)

/-- Completing the capture of a statement is a capture, and then the message is handled. -/
theorem finishSQLStream_handles (o : PostgresObserver) (p : PostgresStreamParser)
    (complete : Bool) (reason : String)
    (handles : complete → ∀ o' audit, audit.text = p.audit.text →
      Handles sink message o' (next o' audit)) :
    Handles sink message o (finishSQLStream sink o p complete reason next) := by
  simp only [finishSQLStream]
  split
  · have aborted : Quiet (if p.capturing then [SinkCall.abortCapture] else []) := by
      split
      · exact Quiet.abortCapture
      · exact Quiet.nil
    have failed : Refuses sink o (called ((o.called []).failDecision sink
        (newObserverFatalDecision .protocol reason)).1 _) _ := .failed Quiet.nil aborted
    rw [called_nil] at failed
    exact .inr ⟨_, rfl, failed⟩
  · rename_i finished
    have finished : complete := by simpa using finished
    split
    · rename_i store _ _
      cases completed : store.completeCapture o.calls with
      | none =>
        exact (refuse_handles sink message (o.called [.completeCapture none]) _ _).after_calls
          sink (Quiet.completeCapture _)
      | some artifact =>
        have next_handles := handles finished (o.called [.completeCapture (some artifact)])
          (PostgresStreamParser.audit { p with artifact := artifact }) rfl
        exact next_handles.after_calls sink (Quiet.completeCapture _)
    · exact handles finished o _ rfl

theorem finishStreamParser_handles (reads : p.Reads payload) (configured : Configured sink p) :
    Handles sink (readFrontendMessage p.messageType payload) o (finishStreamParser sink o p) := by
  rcases reads with ⟨query, reads⟩ | ⟨parse, reads⟩ | ⟨bind, reads⟩
  · simp only [finishStreamParser, readFrontendMessage, query]
    refine finishSQLStream_handles sink o p _ _ fun complete o' audit text => ?_
    rcases reads with ⟨phase, -, -⟩ | ⟨sql, phase, shape, clean, kept⟩
    · simp [phase] at complete
    · have read : splitCString payload = (sql, []) := by
        rw [shape]
        exact splitCString_terminated clean []
      rw [read]
      apply startPostgresSimpleQuery_handles sink
      rw [text]
      exact configured.audit_text sink kept
  · have other : ¬ parseType = queryType := by decide
    simp only [finishStreamParser, readFrontendMessage, parse, if_neg other, if_true]
    refine finishSQLStream_handles sink o p _ _ fun complete o' audit text => ?_
    rcases reads with ⟨phase, -⟩ | ⟨sql, phase, -⟩ | ⟨sql, tail, -, shape, clean, sql_clean, kept, -⟩
    · simp [phase] at complete
    · simp [phase] at complete
    · have read : splitCString payload = (p.name, sql ++ 0 :: tail) := by
        rw [shape]
        exact splitCString_terminated clean _
      have read_sql : splitCString (sql ++ 0 :: tail) = (sql, tail) :=
        splitCString_terminated sql_clean tail
      simp only [read, read_sql]
      apply observePostgresParseSummary_handles sink
      rw [text]
      exact configured.audit_text sink kept
  · have other : ¬ bindType = queryType := by decide
    have another : ¬ bindType = parseType := by decide
    simp only [finishStreamParser, readFrontendMessage, bind, if_neg other, if_neg another, if_true]
    split
    · exact refuse_handles sink _ o _ _
    rename_i complete
    rcases reads with ⟨earlier, -⟩ | ⟨earlier, -⟩ | ⟨tail, -, shape, clean, statement_clean⟩
    · omega
    · omega
    · have read : splitCString payload = (p.name, p.statement ++ 0 :: tail) := by
        rw [shape]
        exact splitCString_terminated clean _
      have read_statement : splitCString (p.statement ++ 0 :: tail) = (p.statement, tail) :=
        splitCString_terminated statement_clean tail
      simp only [read, read_statement]
      exact observePostgresBindNames_handles sink o _ _ _

/-! ## Moves of the client loop -/

/-- The bytes let through so far. -/
def sentBytes (o : PostgresObserver) : Bytes :=
  o.sent.flatMap SentFrame.bytes

/-- What the client loop does, step by step. -/
inductive ClientMove : PostgresObserver → PostgresObserver → Prop where
  | buffer {o : PostgresObserver} (buffer : Bytes) (stream : Option PostgresClientFrameStream)
      (leases : ℕ) (released : List ℕ) {more : List SinkCall} (quiet : Quiet more) :
      ClientMove o
        { o.called more with
          clientBuf := buffer
          clientStream := stream
          leases := leases
          released := released }
  | begin {o : PostgresObserver} {bytes : Bytes} (part : IsPart bytes) :
      ClientMove o (o.send bytes false)
  | extend {o : PostgresObserver} {earlier : List SentFrame} {bytes chunk : Bytes}
      (last : o.sent = earlier ++ [⟨bytes, false⟩]) (part : IsPart (bytes ++ chunk)) :
      ClientMove o { o with sent := earlier ++ [⟨bytes ++ chunk, false⟩] }
  | whole {o o' : PostgresObserver} {frame : Bytes} (unfailed : o.fatal = none)
      (proper : IsFrame frame) (observes : Observes sink (frameMessage frame) o o') :
      ClientMove o (o'.send frame true)
  | complete {o o' : PostgresObserver} {earlier : List SentFrame} {bytes chunk : Bytes}
      (unfailed : o.fatal = none) (last : o.sent = earlier ++ [⟨bytes, false⟩])
      (proper : IsFrame (bytes ++ chunk))
      (observes : Observes sink (frameMessage (bytes ++ chunk)) o o') :
      ClientMove o { o' with sent := earlier ++ [⟨bytes ++ chunk, true⟩] }
  | refuse {o o' : PostgresObserver} {decision : QueryDecision}
      (refuses : Refuses sink o o' decision) : ClientMove o o'

/-- Any number of moves. -/
abbrev ClientMoves := Relation.ReflTransGen (ClientMove sink)

/-- What accepting a message leaves alone. -/
theorem Accepts.same (accepts : Accepts sink message o o') :
    o'.clientBuf = o.clientBuf ∧ o'.clientStream = o.clientStream ∧ o'.fatal = o.fatal ∧
      o'.sent = o.sent ∧ o'.startupDone = o.startupDone ∧
      o'.maxClientMessageBytes = o.maxClientMessageBytes := by
  cases accepts <;> exact ⟨rfl, rfl, rfl, rfl, rfl, rfl⟩

theorem Observes.same (observes : Observes sink message o o') :
    o'.clientBuf = o.clientBuf ∧ o'.clientStream = o.clientStream ∧ o'.fatal = o.fatal ∧
      o'.sent = o.sent ∧ o'.startupDone = o.startupDone ∧
      o'.maxClientMessageBytes = o.maxClientMessageBytes := by
  obtain ⟨_, -, accepts⟩ := observes
  exact accepts.same sink

/-- What refusing a message leaves alone, or drops. -/
theorem Refuses.same (refuses : Refuses sink o o' decision) :
    o'.sent = o.sent ∧ o'.startupDone = o.startupDone ∧
      o'.maxClientMessageBytes = o.maxClientMessageBytes ∧
      ((o'.clientBuf = [] ∧ o'.clientStream = none ∧ o'.fatal = some decision) ∨
        (o'.clientBuf = o.clientBuf ∧ o'.clientStream = o.clientStream ∧ o'.fatal = o.fatal ∧
          decision.allowed = false)) := by
  cases refuses with
  | failed quiet => exact ⟨rfl, rfl, rfl, .inl ⟨rfl, rfl, rfl⟩⟩
  | denied quiet _ refused => exact ⟨rfl, rfl, rfl, .inr ⟨rfl, rfl, rfl, refused⟩⟩

theorem Observes.server (observes : Observes sink message o o') :
    o'.serverBuf = o.serverBuf ∧ o'.serverStream = o.serverStream := by
  obtain ⟨_, -, accepts⟩ := observes
  cases accepts <;> exact ⟨rfl, rfl⟩

/-- No client move reads or writes the server side, unless the observer fails. -/
theorem ClientMove.server (move : ClientMove sink o o') :
    (o'.serverBuf = o.serverBuf ∧ o'.serverStream = o.serverStream) ∨
      (o'.serverBuf = [] ∧ o'.serverStream = none) := by
  cases move with
  | buffer => exact .inl ⟨rfl, rfl⟩
  | begin => exact .inl ⟨rfl, rfl⟩
  | extend => exact .inl ⟨rfl, rfl⟩
  | whole unfailed proper observes => exact .inl (observes.server sink)
  | complete unfailed _ proper observes => exact .inl (observes.server sink)
  | refuse refuses =>
    cases refuses with
    | failed => exact .inr ⟨rfl, rfl⟩
    | denied => exact .inl ⟨rfl, rfl⟩

/-- A stream whose parser stands after the payload bytes `seen`. -/
structure Parsing (stream : PostgresClientFrameStream) (seen : Bytes) : Prop where
  forward : stream.forward = true
  reject : stream.reject = none
  parser : ∀ p, stream.parser = some p →
    p.messageType = stream.messageType ∧ p.Reads seen ∧ Configured sink p
  unparsed : stream.parser = none → stream.messageType = copyDataType

/-- Where a stream stands after the frame bytes `bytes` were let through. -/
structure Streams (stream : PostgresClientFrameStream) (bytes : Bytes) : Prop where
  header : 5 ≤ bytes.length
  length : frameLength bytes = bytes.length + stream.remaining
  messageType : bytes.headD 0 = stream.messageType
  parsing : Parsing sink stream (bytes.drop 5)

/-- A stream that lets nothing more through. -/
def Rejected (stream : PostgresClientFrameStream) : Prop :=
  stream.forward = false ∧ stream.reject.isSome

/-- What holds of the client side between two passes. -/
structure ClientReady (o : PostgresObserver) : Prop where
  startup : o.startupDone = true
  stream : ∀ stream, o.clientStream = some stream →
    Rejected stream ∨ ∃ earlier bytes, o.sent = earlier ++ [⟨bytes, false⟩] ∧
      Streams sink stream bytes

theorem closeCalls_quiet (stream : Option PostgresClientFrameStream) :
    Quiet (closeCalls stream) := by
  unfold closeCalls
  split
  · exact Quiet.nil
  refine Quiet.append ?_ ?_
  all_goals
    split
    · exact Quiet.abortCapture
    · exact Quiet.nil

/-- What following a chunk of a stream comes to: captures, and a stream that is still as long. -/
structure Followed (stream : PostgresClientFrameStream) (calls : List SinkCall)
    (result : List SinkCall × PostgresClientFrameStream) : Prop where
  calls : ∃ more, result.1 = calls ++ more ∧ Quiet more
  remaining : result.2.remaining = stream.remaining
  messageType : result.2.messageType = stream.messageType

theorem Followed.refl (stream : PostgresClientFrameStream) (calls : List SinkCall) :
    Followed stream calls (calls, stream) :=
  ⟨⟨[], by simp, Quiet.nil⟩, rfl, rfl⟩

theorem Followed.trans {calls : List SinkCall}
    {first second : List SinkCall × PostgresClientFrameStream}
    (start : Followed stream calls first) (finish : Followed first.2 first.1 second) :
    Followed stream calls second := by
  obtain ⟨more, called, quiet⟩ := start.calls
  obtain ⟨later, later_called, later_quiet⟩ := finish.calls
  exact ⟨⟨more ++ later, by rw [later_called, called, append_assoc],
    quiet.append later_quiet⟩, finish.remaining.trans start.remaining,
    finish.messageType.trans start.messageType⟩

theorem storeChunk_spec (stream : PostgresClientFrameStream) (calls : List SinkCall)
    (chunk : Bytes) :
    Followed stream calls (stream.storeChunk sink calls chunk) ∧
      ((stream.storeChunk sink calls chunk).2 = stream ∨
        Rejected (stream.storeChunk sink calls chunk).2) := by
  simp only [storeChunk]
  split
  · split
    · exact ⟨⟨⟨_, rfl, Quiet.writeCapture _ _⟩, rfl, rfl⟩, .inl rfl⟩
    · refine ⟨⟨⟨_, append_assoc .., ?_⟩, rfl, rfl⟩, .inr ⟨rfl, rfl⟩⟩
      exact (Quiet.writeCapture _ _).append Quiet.abortCapture
  · exact ⟨.refl stream calls, .inl rfl⟩

private theorem parseChunk_rejected (rejected : Rejected stream) (calls : List SinkCall)
    (chunk : Bytes) : stream.parseChunk sink calls chunk = (calls, stream) := by
  obtain ⟨_, reject⟩ := Option.isSome_iff_exists.mp rejected.2
  simp [parseChunk, reject]

theorem parseChunk_parsing (parsing : Parsing sink stream seen)
    (calls : List SinkCall) (chunk : Bytes) :
    Followed stream calls (stream.parseChunk sink calls chunk) ∧
      (Rejected (stream.parseChunk sink calls chunk).2 ∨
        Parsing sink (stream.parseChunk sink calls chunk).2 (seen ++ chunk)) := by
  cases parsed : stream.parser with
  | none =>
    have same : stream.parseChunk sink calls chunk = (calls, stream) := by
      simp [parseChunk, parsed]
    rw [same]
    exact ⟨.refl stream calls,
      .inr { parsing with parser := by simp [parsed] }⟩
  | some p =>
    obtain ⟨typed, reads, configured⟩ := parsing.parser p parsed
    obtain ⟨⟨more, called, quiet⟩, result⟩ := PostgresStreamParser.consume_reads sink
      reads calls chunk (decide (stream.remaining = 0))
    simp only [parseChunk, parsed, parsing.reject]
    split
    · rename_i calls' p' consumed
      rw [consumed] at called result
      obtain ⟨reads', same⟩ := result p' rfl
      refine ⟨⟨⟨more, called, quiet⟩, rfl, rfl⟩, .inr ⟨parsing.forward, rfl, ?_, by simp⟩⟩
      intro other present
      cases present
      exact ⟨same.messageType.trans typed, reads', configured.same sink same⟩
    · rename_i calls' error consumed
      rw [consumed] at called
      dsimp only at called
      refine ⟨⟨⟨more ++ closeCalls (some stream), ?_,
        quiet.append (closeCalls_quiet _)⟩, rfl, rfl⟩, .inl ⟨rfl, rfl⟩⟩
      rw [called, append_assoc]

/-- Following a chunk keeps a rejected stream rejected. -/
theorem follow_rejected (rejected : Rejected stream) (calls : List SinkCall) (chunk : Bytes) :
    Followed stream calls (stream.follow sink calls chunk) ∧
      Rejected (stream.follow sink calls chunk).2 := by
  obtain ⟨followed, stays⟩ := storeChunk_spec sink stream calls chunk
  have still : Rejected (stream.storeChunk sink calls chunk).2 := by
    rcases stays with same | now
    · rwa [same]
    · exact now
  simp only [follow, parseChunk_rejected sink still]
  exact ⟨followed, still⟩

/-- After following a chunk a stream stands after it, or is rejected. -/
theorem follow_parsing (parsing : Parsing sink stream seen) (calls : List SinkCall)
    (chunk : Bytes) :
    Followed stream calls (stream.follow sink calls chunk) ∧
      (Rejected (stream.follow sink calls chunk).2 ∨
        Parsing sink (stream.follow sink calls chunk).2 (seen ++ chunk)) := by
  obtain ⟨followed, stays⟩ := storeChunk_spec sink stream calls chunk
  rcases stays with same | rejected
  · rw [← same] at parsing
    obtain ⟨parsed, result⟩ := parseChunk_parsing sink parsing
      (stream.storeChunk sink calls chunk).1 chunk
    exact ⟨followed.trans parsed, result⟩
  · simp only [follow, parseChunk_rejected sink rejected]
    exact ⟨followed, .inl rejected⟩

/-- A stream that stands rejected or after some bytes of its frame, and the chunk it follows. -/
private theorem follow_stands
    (stands : Rejected stream ∨ ∃ earlier bytes, o.sent = earlier ++ [⟨bytes, false⟩] ∧
      Streams sink stream bytes) (remaining : ℕ) (chunk : Bytes) :
    let followed := ({ stream with remaining := remaining }).follow sink o.calls chunk
    Followed { stream with remaining := remaining } o.calls followed ∧
      (Rejected followed.2 ∨ ∃ earlier bytes, o.sent = earlier ++ [⟨bytes, false⟩] ∧
        Streams sink stream bytes ∧ Parsing sink followed.2 (bytes.drop 5 ++ chunk)) := by
  rcases stands with rejected | ⟨earlier, bytes, last, streams⟩
  · have rejected' : Rejected { stream with remaining := remaining } := rejected
    obtain ⟨followed, still⟩ := follow_rejected sink rejected' o.calls chunk
    exact ⟨followed, .inl still⟩
  · have parsing : Parsing sink { stream with remaining := remaining } (bytes.drop 5) :=
      ⟨streams.parsing.forward, streams.parsing.reject, streams.parsing.parser,
        streams.parsing.unparsed⟩
    obtain ⟨followed, outcome⟩ := follow_parsing sink parsing o.calls chunk
    exact ⟨followed, outcome.imp id fun parsing => ⟨earlier, bytes, last, streams, parsing⟩⟩

/-- Finishing a stream handles the message its payload asks for. -/
theorem finishClientStream_handles (parsing : Parsing sink stream payload) (o : PostgresObserver) :
    Handles sink (readFrontendMessage stream.messageType payload) o
      (finishClientStream sink o stream) := by
  simp only [finishClientStream, parsing.reject]
  split
  · rename_i unparsed
    have untracked : readFrontendMessage stream.messageType payload = .other := by
      rw [parsing.unparsed unparsed]
      rfl
    rw [untracked]
    exact Accepts.other.handles
  · rename_i p parsed
    obtain ⟨typed, reads, configured⟩ := parsing.parser p parsed
    rw [← typed]
    split
    · rename_i store _ _
      cases completed : store.completeCapture o.calls with
      | none =>
        exact (refuse_handles sink _ (o.called [.completeCapture none]) _ _).after_calls sink
          (Quiet.completeCapture _)
      | some artifact =>
        have reads' : PostgresStreamParser.Reads { p with parameterArtifact := artifact }
            payload := reads
        have configured' : Configured sink { p with parameterArtifact := artifact } :=
          { configured with }
        have handles : Handles sink _ (o.called [.completeCapture (some artifact)]) _ :=
          finishStreamParser_handles sink reads' configured'
        exact handles.after_calls sink (Quiet.completeCapture _)
    · exact finishStreamParser_handles sink reads configured

/-- Finishing a rejected stream fails the observer. -/
theorem finishClientStream_rejected (rejected : Rejected stream) (o : PostgresObserver) :
    ∃ decision, (finishClientStream sink o stream).2 = some decision ∧
      Refuses sink o (finishClientStream sink o stream).1 decision := by
  obtain ⟨decision, reject⟩ := Option.isSome_iff_exists.mp rejected.2
  have failed : Refuses sink o (called ((o.called []).failDecision sink decision).1
      (closeCalls (some stream))) _ :=
    .failed Quiet.nil (closeCalls_quiet _)
  rw [called_nil] at failed
  simp only [finishClientStream, reject]
  exact ⟨_, rfl, failed⟩

theorem sendChunk_eq {earlier : List SentFrame} {bytes : Bytes} {whole : Bool}
    (last : o.sent = earlier ++ [⟨bytes, whole⟩]) (chunk : Bytes) (final : Bool) :
    o.sendChunk chunk final = { o with sent := earlier ++ [⟨bytes ++ chunk, final⟩] } := by
  simp [sendChunk, last]

theorem frameMessage_append {bytes : Bytes} (header : 5 ≤ bytes.length) (chunk : Bytes) :
    frameMessage (bytes ++ chunk) =
      readFrontendMessage (bytes.headD 0) (bytes.drop 5 ++ chunk) := by
  unfold frameMessage
  rw [drop_append_of_le_length header]
  cases bytes with
  | nil => simp at header
  | cons => rfl

/-- Every frame let through is whole, but for the last one while it is streamed. -/
structure Aligned (o : PostgresObserver) : Prop where
  earlier : ∀ frame ∈ o.sent.dropLast, frame.whole = true
  all : o.clientStream = none → ∀ frame ∈ o.sent, frame.whole = true

theorem Aligned.before (aligned : Aligned o) {earlier : List SentFrame} {frame : SentFrame}
    (last : o.sent = earlier ++ [frame]) : ∀ other ∈ earlier, other.whole := by
  have whole := aligned.earlier
  rwa [last, dropLast_concat] at whole

/-- What reading a part of a client stream comes to. -/
structure ClientConsumed (o : PostgresObserver) (data : Bytes)
    (result : PostgresObserver × Bytes × ℕ × Option QueryDecision) : Prop where
  moves : ClientMoves sink o result.1
  sent : sentBytes result.1 = sentBytes o ++ result.2.1
  ready : ClientReady sink result.1
  undecided : result.2.2.2 = none → result.1.fatal = o.fatal
  decided : ∀ decision, result.2.2.2 = some decision →
    result.1.fatal = some decision ∨ (result.1.fatal = o.fatal ∧ decision.allowed = false)
  shorter : result.1.clientBuf.length ≤ o.clientBuf.length
  read : result.2.2.1 ≤ data.length
  progress : o.clientStream.isSome → 0 < data.length →
    0 < result.2.2.1 ∨ result.1.clientStream = none
  aligned : Aligned o → result.2.2.2 = none → Aligned result.1
  earlier : Aligned o → ∀ frame ∈ result.1.sent.dropLast, frame.whole = true

private theorem refused_consumed {o o₁ o' : PostgresObserver} (moved : ClientMoves sink o o₁)
    (sent : o₁.sent = o.sent) (fatal : o₁.fatal = o.fatal) (buffer : o₁.clientBuf = o.clientBuf)
    (closed : o₁.clientStream = none) (startup : o₁.startupDone)
    (refuses : Refuses sink o₁ o' decision) {data : Bytes} {read : ℕ}
    (within : read ≤ data.length) : ClientConsumed sink o data (o', [], read, some decision) := by
  obtain ⟨same_sent, same_startup, -, outcome⟩ := refuses.same sink
  have none_open : o'.clientStream = none := by
    rcases outcome with ⟨-, dropped, -⟩ | ⟨-, same, -⟩
    · exact dropped
    · exact same.trans closed
  refine ⟨moved.tail (.refuse refuses), ?_, ⟨same_startup.trans startup, ?_⟩, by simp, ?_, ?_,
    within, fun _ _ => .inr none_open, by simp, ?_⟩
  · simp [sentBytes, same_sent, sent]
  · intro stream present
    simp [none_open] at present
  · intro other same
    cases same
    rcases outcome with ⟨-, -, failed⟩ | ⟨-, -, kept, refused⟩
    · exact .inl failed
    · exact .inr ⟨kept.trans fatal, refused⟩
  · rcases outcome with ⟨dropped, -⟩ | ⟨kept, -⟩
    · simp [dropped]
    · simp [kept, buffer]
  · intro aligned
    rw [same_sent, sent]
    exact aligned.earlier

section Consuming

variable {o : PostgresObserver} (ready : ClientReady sink o) {data chunk : Bytes}
  {stream stream' : PostgresClientFrameStream} {more : List SinkCall}
  (outcome : Rejected stream' ∨ ∃ earlier bytes, o.sent = earlier ++ [⟨bytes, false⟩] ∧
    Streams sink stream bytes ∧ Parsing sink stream' (bytes.drop 5 ++ chunk))
  (quiet : Quiet more) (read : chunk.length = min stream.remaining data.length)
  (remaining : stream'.remaining = stream.remaining - min stream.remaining data.length)
  (messageType : stream'.messageType = stream.messageType)

include ready outcome quiet read remaining messageType

/-- The chunk leaves some of the frame to come. -/
private theorem consumed_partly (nonempty : ¬data.length = 0) (unfinished : 0 < stream'.remaining) :
    ClientConsumed sink o data
      (let o := { o with calls := o.calls ++ more, clientStream := some stream' }
        if stream'.forward then
          (o.sendChunk chunk false, chunk, min stream.remaining data.length, none)
        else (o, [], min stream.remaining data.length, none)) := by
  have moved : ClientMoves sink o
      { o with calls := o.calls ++ more, clientStream := some stream' } :=
    .single (.buffer o.clientBuf (some stream') o.leases o.released quiet)
  have some_read : 0 < min stream.remaining data.length := by omega
  rcases outcome with still | ⟨earlier, bytes, last, streams, parsing⟩
  · rw [if_neg (by simp [still.1])]
    refine ⟨moved, by simp [sentBytes], ⟨ready.startup, ?_⟩, fun _ => rfl, by simp,
      Nat.le_refl _, Nat.min_le_right _ _, fun _ _ => .inl some_read,
      fun aligned _ => ⟨aligned.earlier, by simp⟩, fun aligned => aligned.earlier⟩
    intro other present
    cases present
    exact .inl still
  · rw [if_pos parsing.forward, sendChunk_eq
      (o := { o with calls := o.calls ++ more, clientStream := some stream' }) last]
    have header := streams.header
    have length : frameLength (bytes ++ chunk) = (bytes ++ chunk).length +
        stream'.remaining := by
      rw [frameLength_append header, streams.length, length_append]
      omega
    have part : IsPart (bytes ++ chunk) := by
      refine ⟨?_, by omega⟩
      simp only [length_append]
      omega
    refine ⟨moved.tail (.extend last part), by simp [sentBytes, last], ⟨ready.startup, ?_⟩,
      fun _ => rfl, by simp, Nat.le_refl _, Nat.min_le_right _ _, fun _ _ => .inl some_read,
      fun aligned _ => ⟨by simpa using aligned.before last, by simp⟩,
      fun aligned => by simpa using aligned.before last⟩
    intro other present
    cases present
    refine .inr ⟨earlier, bytes ++ chunk, rfl, part.1, length, ?_, ?_⟩
    · have type := streams.messageType
      rw [messageType, ← type]
      cases bytes with
      | nil => simp at header
      | cons => rfl
    · rw [drop_append_of_le_length header]
      exact parsing

/-- The chunk ends the frame. -/
private theorem consumed_wholly (unfailed : o.fatal = none) (finished : stream'.remaining = 0) :
    ClientConsumed sink o data (let ended := finishClientStream sink { o with
            calls := o.calls ++ more
            clientStream := none
            released := o.released ++ stream'.lease.toList } stream'
      match ended.2 with
      | some decision => (ended.1, [], min stream.remaining data.length, some decision)
      | none =>
        if stream'.forward then
          (ended.1.sendChunk chunk true, chunk, min stream.remaining data.length, none)
        else (ended.1, [], min stream.remaining data.length, none)) := by
  generalize closed_eq : ({ o with
    calls := o.calls ++ more
    clientStream := none
    released := o.released ++ stream'.lease.toList } : PostgresObserver) = closed
  have moved : ClientMoves sink o closed := by
    rw [← closed_eq]
    exact .single (.buffer o.clientBuf none o.leases (o.released ++ stream'.lease.toList) quiet)
  have refused : ∀ {o' : PostgresObserver} {decision : QueryDecision},
      Refuses sink closed o' decision →
      ClientConsumed sink o data (o', [], min stream.remaining data.length, some decision) := by
    subst closed_eq
    exact fun refuses => refused_consumed sink moved rfl rfl rfl rfl ready.startup refuses
      (Nat.min_le_right _ _)
  rcases outcome with still | ⟨earlier, bytes, last, streams, parsing⟩
  · obtain ⟨decision, decided, refuses⟩ := finishClientStream_rejected sink still closed
    simp only [decided]
    exact refused refuses
  · have handles := finishClientStream_handles sink parsing closed
    rw [messageType, ← streams.messageType, ← frameMessage_append streams.header] at handles
    have proper : IsFrame (bytes ++ chunk) := by
      constructor
      · simp only [length_append]
        have := streams.header
        omega
      · rw [frameLength_append streams.header, streams.length, length_append]
        omega
    generalize finishClientStream sink closed stream' = final at *
    obtain ⟨o', _⟩ := final
    rcases handles with ⟨undecided, observes⟩ | ⟨decision, decided, refuses⟩
    · subst undecided closed_eq
      obtain ⟨buffer, closed, fatal, sent, startup, -⟩ := observes.same sink
      dsimp only at buffer closed fatal sent startup ⊢
      rw [if_pos parsing.forward, sendChunk_eq (sent.trans last)]
      refine ⟨moved.tail (.complete unfailed last proper observes), by simp [sentBytes, last],
        ⟨startup.trans ready.startup, by simp [closed]⟩, fun _ => fatal, by simp,
        by simp [buffer], Nat.min_le_right _ _, fun _ _ => .inr closed, ?_,
        fun aligned => by simpa using aligned.before last⟩
      intro aligned _
      have whole := aligned.before last
      exact ⟨by simpa using whole,
        fun _ => List.forall_mem_append.mpr ⟨whole, List.forall_mem_singleton.mpr rfl⟩⟩
    · subst decided
      exact refused refuses

end Consuming

/-- A pass over a stream lets its chunk through, unless the frame is rejected. -/
theorem consumePostgresClientFrameStream_consumed (ready : ClientReady sink o)
    (unfailed : o.fatal = none) (data : Bytes) :
    ClientConsumed sink o data (consumePostgresClientFrameStream sink o data) := by
  cases opened : o.clientStream with
  | none =>
    simp only [consumePostgresClientFrameStream, opened]
    exact ⟨.refl, by simp, ready, fun _ => rfl, by simp, Nat.le_refl _, Nat.zero_le _,
      by simp [opened], fun aligned _ => aligned, fun aligned => aligned.earlier⟩
  | some stream =>
    simp only [consumePostgresClientFrameStream, opened]
    split
    · exact ⟨.refl, by simp, ready, fun _ => rfl, by simp, Nat.le_refl _, Nat.zero_le _,
        by omega, fun aligned _ => aligned, fun aligned => aligned.earlier⟩
    rename_i nonempty
    obtain ⟨followed, outcome⟩ := follow_stands sink (ready.stream stream opened)
      (stream.remaining - min stream.remaining data.length)
      (data.take (min stream.remaining data.length))
    obtain ⟨_, called, quiet⟩ := followed.calls
    have remaining := followed.remaining
    have messageType := followed.messageType
    have read : (data.take (min stream.remaining data.length)).length =
        min stream.remaining data.length := by simp
    generalize follow sink _ _ _ = result at *
    obtain ⟨calls, _⟩ := result
    subst called
    split
    · rename_i unfinished
      exact consumed_partly sink ready outcome quiet read remaining messageType nonempty unfinished
    · exact consumed_wholly sink ready outcome quiet read remaining messageType unfailed (by omega)

end PostgresObserver
end Jianmen.DBProxy
