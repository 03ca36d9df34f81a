import Jianmen.DBProxy.Postgres.Moves

/-!
# Runs of the PostgreSQL relay loops

A client call is a sequence of client moves and a server call a sequence of server moves, and the
bytes a call forwards are those its moves let through.
-/

namespace Jianmen.DBProxy

open Postgres List PostgresObserver

namespace PostgresObserver

variable (sink : QuerySink) (budget : Option ObserverMemoryBudget)

/-! ## The client loop -/

variable {messageType : MessageType} {o o' : PostgresObserver} {bytes : Bytes}

/-- A new parser has read nothing. -/
private theorem newPostgresStreamParser_reads
    (tracked : messageType = queryType ∨ messageType = parseType ∨ messageType = bindType)
    (previewMax : ℕ) (redact capturing : Bool) :
    PostgresStreamParser.Reads
      { newPostgresStreamParser messageType previewMax redact with capturing := capturing } [] := by
  rcases tracked with rfl | rfl | rfl
  · exact .inl ⟨rfl, .inl ⟨rfl, by simp, rfl, take_nil.symm⟩⟩
  · exact .inr (.inl ⟨rfl, .inl ⟨rfl, by simp, rfl, ⟨rfl, take_nil.symm⟩, rfl⟩⟩)
  · exact .inr (.inr ⟨rfl, .inl ⟨rfl, by simp, rfl, rfl⟩⟩)

/-- What opening a stream comes to: captures, and a stream that stands before its payload or is
rejected. -/
structure Opened (calls : List SinkCall) (messageType : MessageType) (payloadBytes : ℕ)
    (forward : Bool) (created : List SinkCall × ℕ × PostgresClientFrameStream) : Prop where
  calls : ∃ more, created.1 = calls ++ more ∧ Quiet more
  remaining : created.2.2.remaining = payloadBytes
  messageType : created.2.2.messageType = messageType
  stands : Rejected created.2.2 ∨ (forward = true ∧ Parsing sink created.2.2 [])

theorem newPostgresClientFrameStream_rejecting (calls : List SinkCall) (leases : ℕ)
    (messageType : MessageType) (payloadBytes : ℕ) (decision : QueryDecision) :
    Opened sink calls messageType payloadBytes false (newPostgresClientFrameStream sink budget
      calls leases messageType payloadBytes false (some decision)) :=
  ⟨⟨[], by simp [newPostgresClientFrameStream], Quiet.nil⟩, rfl, rfl, .inl ⟨rfl, rfl⟩⟩

theorem newPostgresClientFrameStream_forwarding (calls : List SinkCall) (leases : ℕ)
    (payloadBytes : ℕ) (streamable : canStreamPostgresFrontendFrame messageType) :
    Opened sink calls messageType payloadBytes true (newPostgresClientFrameStream sink budget
      calls leases messageType payloadBytes true none) := by
  simp only [newPostgresClientFrameStream]
  split
  · rename_i untracked
    refine ⟨⟨[], by simp, Quiet.nil⟩, rfl, rfl, .inr ⟨rfl, rfl, rfl, by simp, fun _ => ?_⟩⟩
    simp only [Bool.not_true, Bool.false_eq_true, false_or] at untracked
    simpa [canStreamPostgresFrontendFrame, untracked] using streamable
  have audited : messageType = queryType ∨ messageType = parseType ∨
      messageType = bindType := by
    tauto
  have parsing : ∀ (previewBytes : ℕ) (capturing frameCapture : Bool) (lease : Option ℕ),
      (previewBytes = (databaseAuditPolicy sink postgresStreamAuditPreviewBytes).1 ∨
        previewBytes = 0) →
      Parsing sink
        { messageType := messageType, remaining := payloadBytes, forward := true,
          reject := none, frameCapture := frameCapture, lease := lease
          parser := some
            { newPostgresStreamParser messageType previewBytes
                (databaseAuditPolicy sink postgresStreamAuditPreviewBytes).2 with
              capturing := capturing } } [] := by
    intro previewBytes capturing frameCapture lease limited
    refine ⟨rfl, rfl, ?_, by simp⟩
    intro p present
    cases present
    exact ⟨rfl, newPostgresStreamParser_reads audited previewBytes _ capturing,
      rfl, limited, rfl⟩
  have limited : (if (budget.all fun shared => shared.grants leases
        ((databaseAuditPolicy sink postgresStreamAuditPreviewBytes).1 * 8)) then
        (databaseAuditPolicy sink postgresStreamAuditPreviewBytes).1 else 0) =
          (databaseAuditPolicy sink postgresStreamAuditPreviewBytes).1 ∨
      (if (budget.all fun shared => shared.grants leases
        ((databaseAuditPolicy sink postgresStreamAuditPreviewBytes).1 * 8)) then
        (databaseAuditPolicy sink postgresStreamAuditPreviewBytes).1 else 0) = 0 := by
    split
    · exact .inl rfl
    · exact .inr rfl
  split
  · exact ⟨⟨[], by simp, Quiet.nil⟩, rfl, rfl, .inr ⟨rfl, parsing _ false false _ limited⟩⟩
  by_cases binding : messageType = bindType
  · simp only [if_pos binding]
    split
    · exact ⟨⟨_, rfl, Quiet.beginCapture _ _⟩, rfl, rfl, .inl ⟨rfl, rfl⟩⟩
    · exact ⟨⟨_, rfl, Quiet.beginCapture _ _⟩, rfl, rfl, .inr ⟨rfl, parsing _ false true _ limited⟩⟩
  · simp only [if_neg binding]
    split
    · exact ⟨⟨_, rfl, Quiet.beginCapture _ _⟩, rfl, rfl, .inl ⟨rfl, rfl⟩⟩
    · exact ⟨⟨_, rfl, Quiet.beginCapture _ _⟩, rfl, rfl, .inr ⟨rfl, parsing _ true false _ limited⟩⟩

/-- What holds between two passes of a client call that started in `start`. -/
structure ClientInside (start : PostgresObserver) (relaying : Relaying PostgresObserver) :
    Prop where
  moves : ClientMoves sink start relaying.observer
  sent : sentBytes relaying.observer = sentBytes start ++ relaying.forward
  ready : ClientReady sink relaying.observer
  unfailed : relaying.observer.fatal = none
  aligned : Aligned start → Aligned relaying.observer

/-- What a client call that started in `start` comes to. -/
structure ClientRelayed (start : PostgresObserver) (result : Relayed PostgresObserver) :
    Prop where
  moves : ClientMoves sink start result.observer
  sent : sentBytes result.observer = sentBytes start ++ result.forward
  ready : ClientReady sink result.observer
  undecided : result.decision = none → result.observer.fatal = none
  decided : ∀ decision, result.decision = some decision →
    result.observer.fatal = some decision ∨
      (result.observer.fatal = none ∧ decision.allowed = false)
  aligned : Aligned start → result.decision = none → Aligned result.observer
  earlier : Aligned start → ∀ frame ∈ result.observer.sent.dropLast, frame.whole = true

/-- A pass of a client call goes on with less to read, or ends the call. -/
abbrev ClientProceeds (start : PostgresObserver) (relaying : Relaying PostgresObserver)
    (pass : Loop.Pass (Relaying PostgresObserver) (Relayed PostgresObserver)) : Prop :=
  Loop.Proceeds (ClientInside sink start) (ClientRelayed sink start) clientMeasure relaying pass

variable {sink} {start : PostgresObserver} {relaying : Relaying PostgresObserver}
  {decision : QueryDecision} {remaining : ℕ}

section

variable (inside : ClientInside sink start relaying)
include inside

theorem ClientInside.leaveFailed (moves : ClientMoves sink start o)
    (sent : o.sent = relaying.observer.sent) (startup : o.startupDone)
    (decision : QueryDecision) :
    ClientProceeds sink start relaying
      (PostgresObserver.leaveFailed relaying (o.failDecision sink decision)) := by
  refine ⟨moves.tail (.refuse (.fail sink o decision)), ?_, ⟨startup, ?_⟩, ?_, ?_, ?_, ?_⟩
  · exact (congrArg (flatMap SentFrame.bytes) sent).trans inside.sent
  · intro stream present
    cases present
  · intro undecided
    cases undecided
  · intro other same
    cases same
    exact .inl rfl
  · intro _ undecided
    cases undecided
  · intro aligned frame member
    exact (inside.aligned aligned).earlier frame (sent ▸ member)

theorem ClientInside.fail (code : ErrorCode) (message : String) : ClientProceeds sink start relaying
      (PostgresObserver.leaveFailed relaying (relaying.observer.fail sink code message)) :=
  inside.leaveFailed inside.moves rfl inside.ready.startup _

theorem ClientInside.leave : ClientProceeds sink start relaying
      (.leave { observer := relaying.observer, forward := relaying.forward, decision := none }) :=
  ⟨inside.moves, inside.sent, inside.ready, fun _ => inside.unfailed, by simp,
    fun aligned _ => inside.aligned aligned, fun aligned => (inside.aligned aligned).earlier⟩

theorem ClientInside.fillClient (limit : ℕ) (message : String) : ClientProceeds sink start relaying
      (PostgresObserver.fillClient sink limit message relaying) := by
  simp only [PostgresObserver.fillClient]
  split
  · exact inside.leave
  cases appended : appendObserverBufferChunk relaying.observer.clientBuf relaying.data limit with
  | none => exact inside.fail _ _
  | some parts =>
    obtain ⟨buffer, data⟩ := parts
    obtain ⟨-, _, _, -⟩ := appendObserverBufferChunk_cases appended
    have moved : ClientMove sink relaying.observer
        { relaying.observer.called [] with clientBuf := buffer } :=
      .buffer buffer relaying.observer.clientStream relaying.observer.leases
        relaying.observer.released Quiet.nil
    rw [called_nil] at moved
    refine ⟨⟨inside.moves.tail moved, inside.sent,
      ⟨inside.ready.startup, inside.ready.stream⟩, inside.unfailed, fun aligned =>
        ⟨(inside.aligned aligned).earlier, (inside.aligned aligned).all⟩⟩, ?_⟩
    simp only [clientMeasure]
    omega

/-- Going on after a stream was opened and read from. -/
private theorem ClientInside.opened {header : Bytes} (moves : ClientMoves sink relaying.observer o)
    (sent : sentBytes o = sentBytes relaying.observer ++ header) (ready : ClientReady sink o)
    (unfailed : o.fatal = none) (buffer : o.clientBuf = []) (aligned : Aligned start → Aligned o)
    (longer : 2 ≤ relaying.observer.clientBuf.length) (data : Bytes) :
    ClientProceeds sink start relaying
      (match (consumePostgresClientFrameStream sink o data).2.2.2 with
        | some decision =>
          .leave
            { observer := (consumePostgresClientFrameStream sink o data).1
              forward := relaying.forward ++ header ++
                (consumePostgresClientFrameStream sink o data).2.1
              decision := some decision }
        | none =>
          .again
            { observer := (consumePostgresClientFrameStream sink o data).1
              data := relaying.data
              forward := relaying.forward ++ header ++
                (consumePostgresClientFrameStream sink o data).2.1 }) := by
  have consumed := consumePostgresClientFrameStream_consumed sink ready unfailed data
  have all_moves : ClientMoves sink start (consumePostgresClientFrameStream sink o data).1 :=
    (inside.moves.trans moves).trans consumed.moves
  have all_sent : sentBytes (consumePostgresClientFrameStream sink o data).1 =
      sentBytes start ++ (relaying.forward ++ header ++
        (consumePostgresClientFrameStream sink o data).2.1) := by
    rw [consumed.sent, sent, inside.sent]
    simp
  cases decided : (consumePostgresClientFrameStream sink o data).2.2.2 with
  | some decision =>
    refine ⟨all_moves, all_sent, consumed.ready, by simp, ?_, by simp,
      fun before => consumed.earlier (aligned before)⟩
    intro other same
    cases same
    rcases consumed.decided decision decided with failed | ⟨kept, refused⟩
    · exact .inl failed
    · exact .inr ⟨kept.trans unfailed, refused⟩
  | none =>
    refine ⟨⟨all_moves, all_sent, consumed.ready, (consumed.undecided decided).trans unfailed,
      fun before => consumed.aligned (aligned before) decided⟩, ?_⟩
    have shorter := consumed.shorter
    rw [buffer] at shorter
    simp only [length_nil] at shorter
    simp only [clientMeasure]
    split <;> omega

theorem ClientInside.startClientStream (header : 5 ≤ relaying.observer.clientBuf.length)
    (none_open : relaying.observer.clientStream = none) {forward : Bool}
    {reject : Option QueryDecision}
    (long : forward → 5 < frameLength relaying.observer.clientBuf)
    (created : Opened sink relaying.observer.calls (relaying.observer.clientBuf.headD 0)
      (frameLength relaying.observer.clientBuf - 5) forward
      (newPostgresClientFrameStream sink budget relaying.observer.calls relaying.observer.leases
        (relaying.observer.clientBuf.headD 0) (frameLength relaying.observer.clientBuf - 5) forward
        reject)) :
    ClientProceeds sink start relaying
      (startClientStream sink budget (frameLength relaying.observer.clientBuf)
        forward reject relaying) := by
  obtain ⟨⟨more, called, quiet⟩, remaining, messageType, stands⟩ := created
  simp only [PostgresObserver.startClientStream]
  generalize newPostgresClientFrameStream sink budget _ _ _ _ _ _ = created at *
  obtain ⟨calls, leases, stream⟩ := created
  dsimp only at called remaining messageType stands ⊢
  subst called
  have moved : ClientMove sink relaying.observer { relaying.observer.called more with
        clientBuf := [], clientStream := some stream, leases := leases } :=
    .buffer [] (some stream) leases relaying.observer.released quiet
  rcases stands with rejected | ⟨forwarding, parsing⟩
  · simp only [rejected.1]
    refine inside.opened (.single moved) (by simp [sentBytes, called])
      ⟨inside.ready.startup, ?_⟩ inside.unfailed rfl
      (fun aligned => ⟨(inside.aligned aligned).earlier, by simp⟩) (by omega) _
    intro other present
    cases present
    exact .inl rejected
  · have long := long forwarding
    have length : (relaying.observer.clientBuf.take 5).length = 5 := by
      simp only [length_take]
      omega
    have same : frameLength (relaying.observer.clientBuf.take 5) =
        frameLength relaying.observer.clientBuf := by
      conv_rhs => rw [← take_append_drop 5 relaying.observer.clientBuf]
      exact (frameLength_append (Nat.le_of_eq length.symm) _).symm
    have part : IsPart (relaying.observer.clientBuf.take 5) :=
      ⟨Nat.le_of_eq length.symm, by omega⟩
    simp only [parsing.forward]
    refine inside.opened (.tail (.single moved) (.begin part)) ?_ ⟨inside.ready.startup, ?_⟩
      inside.unfailed rfl ?_ (by omega) _
    · simp [sentBytes, send, called]
    · intro other present
      cases present
      refine .inr ⟨_, _, rfl, Nat.le_of_eq length.symm, ?_, ?_, ?_⟩
      · omega
      · rw [messageType]
        cases buffered : relaying.observer.clientBuf with
        | nil => simp [buffered] at header
        | cons => rfl
      · rw [drop_of_length_le (Nat.le_of_eq length)]
        exact parsing
    · intro aligned
      refine ⟨?_, by simp [send]⟩
      simp only [send, dropLast_concat]
      exact (inside.aligned aligned).all none_open

end

theorem frameMessage_take {buffer : Bytes} {total : ℕ} (header : 5 ≤ total) :
    frameMessage (buffer.take total) =
      readFrontendMessage (buffer.headD 0) ((buffer.take total).drop 5) := by
  obtain ⟨count, rfl⟩ : ∃ count, total = count + 1 := ⟨total - 1, by omega⟩
  cases buffer with
  | nil => rfl
  | cons => rfl

theorem ClientInside.handleBufferedMessage (inside : ClientInside sink start relaying)
    (none_open : relaying.observer.clientStream = none)
    (proper : 5 ≤ frameLength relaying.observer.clientBuf)
    (complete : frameLength relaying.observer.clientBuf ≤ relaying.observer.clientBuf.length) :
    ClientProceeds sink start relaying
      (handleBufferedMessage sink (frameLength relaying.observer.clientBuf) relaying) := by
  simp only [PostgresObserver.handleBufferedMessage]
  split
  · exact inside.fail _ _
  have handles := observePostgresClientMessage_handles sink relaying.observer
    (relaying.observer.clientBuf.headD 0)
    ((relaying.observer.clientBuf.take (frameLength relaying.observer.clientBuf)).drop 5)
  rw [← frameMessage_take proper] at handles
  generalize observePostgresClientMessage sink _ _ _ = handled at *
  obtain ⟨o, _⟩ := handled
  rcases handles with ⟨undecided, observes⟩ | ⟨decision, decided, refuses⟩
  · dsimp only at undecided observes
    subst undecided
    obtain ⟨buffer, stream, fatal, sent, startup, -⟩ := observes.same sink
    have unfailed : o.fatal = none := fatal.trans inside.unfailed
    have whole : ClientMove sink relaying.observer (o.send (relaying.observer.clientBuf.take
          (frameLength relaying.observer.clientBuf)) true) :=
      .whole inside.unfailed (isFrame_take proper complete) observes
    have dropped : ClientMove sink (o.send (relaying.observer.clientBuf.take
          (frameLength relaying.observer.clientBuf)) true)
        { called (o.send (relaying.observer.clientBuf.take
            (frameLength relaying.observer.clientBuf)) true) [] with
          clientBuf := o.clientBuf.drop (frameLength relaying.observer.clientBuf) } :=
      .buffer _ _ _ _ Quiet.nil
    rw [called_nil] at dropped
    split
    · next impossible => cases impossible
    · next failed => simp [unfailed] at failed
    refine ⟨⟨(inside.moves.tail whole).tail dropped, ?_,
      ⟨startup.trans inside.ready.startup, by simp [send, stream, none_open]⟩, unfailed,
      fun aligned => ?_⟩, ?_⟩
    · have kept : sentBytes relaying.observer = o.sent.flatMap SentFrame.bytes :=
        (congrArg (flatMap SentFrame.bytes) sent).symm
      rw [← append_assoc, ← inside.sent, kept]
      simp [sentBytes, send]
    · have whole := (inside.aligned aligned).all none_open
      rw [← sent] at whole
      refine ⟨?_, fun _ => forall_mem_append.mpr ⟨whole, forall_mem_singleton.mpr rfl⟩⟩
      simpa [send] using whole
    · simp only [clientMeasure, send, buffer, stream, length_drop]
      omega
  · dsimp only at decided refuses
    subst decided
    obtain ⟨sent, startup, -, outcome⟩ := refuses.same sink
    have moves : ClientMoves sink start o := inside.moves.tail (.refuse refuses)
    cases allowed : decision.allowed with
    | false =>
      simp only [Option.filter_some, allowed]
      exact inside.leaveFailed moves sent (startup.trans inside.ready.startup) decision
    | true =>
      rcases outcome with ⟨-, closed, failed⟩ | ⟨-, -, -, refused⟩
      · simp only [Option.filter_some, allowed, failed]
        refine ⟨moves, ?_, ⟨startup.trans inside.ready.startup, by simp [closed]⟩, by simp, ?_,
          by simp, fun before => by rw [sent]; exact (inside.aligned before).earlier⟩
        · exact (congrArg (flatMap SentFrame.bytes) sent).trans inside.sent
        · intro other same
          exact .inl (failed.trans same)
      · simp [allowed] at refused

theorem ClientInside.clientPass (inside : ClientInside sink start relaying) (limit : ℕ) :
    ClientProceeds sink start relaying (clientPass sink budget limit relaying) := by
  simp only [PostgresObserver.clientPass]
  split
  · rename_i opened
    have consumed := consumePostgresClientFrameStream_consumed sink inside.ready inside.unfailed
      relaying.data
    have sent : sentBytes (consumePostgresClientFrameStream sink relaying.observer
        relaying.data).1 = sentBytes start ++ (relaying.forward ++
          (consumePostgresClientFrameStream sink relaying.observer relaying.data).2.1) := by
      rw [consumed.sent, inside.sent, append_assoc]
    have moves := inside.moves.trans consumed.moves
    split
    · rename_i decision decided
      refine ⟨moves, sent, consumed.ready, by simp, ?_, by simp,
        fun before => consumed.earlier (inside.aligned before)⟩
      intro other same
      cases same
      rcases consumed.decided decision decided with failed | ⟨kept, refused⟩
      · exact .inl failed
      · exact .inr ⟨kept.trans inside.unfailed, refused⟩
    · rename_i undecided
      have unfailed := (consumed.undecided undecided).trans inside.unfailed
      have aligned := fun before => consumed.aligned (inside.aligned before) undecided
      split
      · exact ⟨moves, sent, consumed.ready, fun _ => unfailed, by simp,
          fun before _ => aligned before, fun before => (aligned before).earlier⟩
      rename_i rest
      refine ⟨⟨moves, sent, consumed.ready, unfailed, aligned⟩, ?_⟩
      have shorter := consumed.shorter
      simp only [length_drop] at rest
      simp only [clientMeasure, length_drop, opened, if_true]
      rcases consumed.progress opened (by omega) with some_read | closed
      · split <;> omega
      · simp only [closed, Option.isSome_none, Bool.false_eq_true, if_false]
        omega
  · rename_i closed
    have none_open : relaying.observer.clientStream = none := by simpa using closed
    rw [if_neg (by simp [inside.ready.startup])]
    split
    · exact inside.fillClient _ _
    have header : 5 ≤ relaying.observer.clientBuf.length := by omega
    split
    · exact inside.fail _ _
    have proper : 5 ≤ frameLength relaying.observer.clientBuf := by
      unfold frameLength
      omega
    split
    · rename_i copied
      refine inside.startClientStream budget header none_open (fun _ => ?_) ?_
      · have := copied.2
        simp only [maxPostgresObserverBufferBytes] at this
        unfold frameLength
        omega
      apply newPostgresClientFrameStream_forwarding sink budget _ _ _
      rw [copied.1]
      rfl
    · split
      · exact inside.startClientStream budget header none_open (by simp)
          (newPostgresClientFrameStream_rejecting sink budget _ _ _ _ _)
      · split
        · rename_i streamable
          refine inside.startClientStream budget header none_open (fun _ => ?_)
            (newPostgresClientFrameStream_forwarding sink budget _ _ _ streamable.2)
          have := streamable.1
          simp only [maxPostgresObserverBufferBytes] at this
          unfold frameLength
          omega
        · split
          · exact inside.fillClient _ _
          · rename_i complete
            exact inside.handleBufferedMessage none_open proper (Nat.le_of_not_lt complete)

/-- A client call is a sequence of moves that let through what it forwards. -/
theorem observeClientRelayBytes_relayed (ready : ClientReady sink o) (unfailed : o.fatal = none)
    (data : Bytes) : ClientRelayed sink o (observeClientRelayBytes sink budget o data) := by
  have initially : ClientInside sink o { observer := o, data := data, forward := [] } :=
    ⟨.refl, by simp, ready, unfailed, id⟩
  simp only [observeClientRelayBytes, unfailed]
  split
  · exact initially.leave
  · exact Loop.run_proceeds (fun relaying inside => inside.clientPass budget _) initially

/-- Once the observer has failed, a client call only repeats the decision. -/
theorem observeClientRelayBytes_failed (failed : o.fatal = some decision) (data : Bytes) :
    observeClientRelayBytes sink budget o data =
      { observer := o, forward := [], decision := some decision } := by
  simp [observeClientRelayBytes, failed]

/-! ## Server messages -/

/-- Everything but the followed protocol state and the calls on the sink is as it was. -/
structure RelayKept (o o' : PostgresObserver) : Prop where
  maxClientMessageBytes : o'.maxClientMessageBytes = o.maxClientMessageBytes
  clientBuf : o'.clientBuf = o.clientBuf
  serverBuf : o'.serverBuf = o.serverBuf
  clientStream : o'.clientStream = o.clientStream
  serverStream : o'.serverStream = o.serverStream
  startupDone : o'.startupDone = o.startupDone
  fatal : o'.fatal = o.fatal
  leases : o'.leases = o.leases
  released : o'.released = o.released
  accepted : o'.accepted = o.accepted
  sent : o'.sent = o.sent

/-- A server message keeps the relay's state, unless the observer fails on it. -/
def KeptOrFailed (sink : QuerySink) (o o' : PostgresObserver) : Prop :=
  ∃ o₁, RelayKept o o₁ ∧ (o' = o₁ ∨ ∃ decision, o' = (o₁.failDecision sink decision).1)

/-- What a response completes or rejects changes the names and the queue only. -/
theorem observePostgresOperationResponse_same (o : PostgresObserver) (messageType : MessageType)
    (payload : Bytes) :
    ∃ statements portals operations, (o.observePostgresOperationResponse messageType payload).1 =
      { o with
        preparedStatements := statements, portals := portals, operations := operations } := by
  have completed : ∀ expectedType message, ∃ statements portals operations,
      (o.completeOperation expectedType message).1 = { o with
          preparedStatements := statements, portals := portals, operations := operations } := by
    intro expectedType message
    unfold completeOperation
    repeat' split
    all_goals exact ⟨_, _, _, rfl⟩
  unfold observePostgresOperationResponse
  repeat' split
  all_goals first
    | exact ⟨_, _, _, rfl⟩
    | exact completed _ _
    | skip
  · unfold rejectCurrentPostgresOperation
    split
    all_goals exact ⟨_, _, _, rfl⟩
  · unfold completeReadyForQuery
    split
    · exact ⟨_, _, _, rfl⟩
    rename_i operation rest _
    by_cases boundary : operation = .query ∨ operation = .sync
    · rw [if_pos boundary]
      exact ⟨_, _, _, rfl⟩
    · rw [if_neg boundary]
      exact ⟨_, _, _, rfl⟩

theorem observePostgresOperationResponse_kept (o : PostgresObserver) (messageType : MessageType)
    (payload : Bytes) :
    RelayKept o (o.observePostgresOperationResponse messageType payload).1 := by
  obtain ⟨_, _, _, same⟩ := observePostgresOperationResponse_same o messageType payload
  rw [same]
  exact ⟨rfl, rfl, rfl, rfl, rfl, rfl, rfl, rfl, rfl, rfl, rfl⟩

/-- Only the cycles, the pending records and the calls have changed, and nothing was started. -/
structure RecordsMoved (o o' : PostgresObserver) : Prop where
  same : ∃ cycles openCycle pending calls, o' =
    { o with cycles := cycles, openCycle := openCycle, pending := pending, calls := calls }
  pending : o'.pending.Sublist o.pending
  calls : ∃ more, o'.calls = o.calls ++ more ∧ NoStart more

theorem RecordsMoved.refl (o : PostgresObserver) : RecordsMoved o o :=
  ⟨⟨_, _, _, _, rfl⟩, .refl _, [], (append_nil _).symm, NoStart.nil⟩

theorem RecordsMoved.trans {o o₁ o₂ : PostgresObserver} (first : RecordsMoved o o₁)
    (second : RecordsMoved o₁ o₂) : RecordsMoved o o₂ := by
  obtain ⟨more, calls, quiet⟩ := first.calls
  obtain ⟨last, last_calls, last_quiet⟩ := second.calls
  refine ⟨?_, second.pending.trans first.pending, more ++ last, ?_, quiet.append last_quiet⟩
  · obtain ⟨_, _, _, _, rfl⟩ := first.same
    obtain ⟨_, _, _, _, rfl⟩ := second.same
    exact ⟨_, _, _, _, rfl⟩
  · rw [last_calls, calls, append_assoc]

theorem setActiveCycle_moved (o : PostgresObserver) (cycle : PostgresQueryCycle) :
    RecordsMoved o (o.setActiveCycle cycle) := by
  unfold setActiveCycle
  split
  all_goals exact ⟨⟨_, _, _, _, rfl⟩, .refl _, [], (append_nil _).symm, NoStart.nil⟩

theorem dropActiveCycle_moved (o : PostgresObserver) : RecordsMoved o o.dropActiveCycle := by
  unfold dropActiveCycle
  split
  all_goals exact ⟨⟨_, _, _, _, rfl⟩, .refl _, [], (append_nil _).symm, NoStart.nil⟩

theorem finishPostgresEntries_moved (simple : Bool) (entries : List PostgresQueryEntry) :
    ∀ (o : PostgresObserver) (settled : List PostgresQueryEntry), ∃ o₁, RecordsMoved o o₁ ∧
      (finishPostgresEntries sink simple o settled entries = o₁ ∨ ∃ decision,
        finishPostgresEntries sink simple o settled entries =
          (o₁.failDecision sink decision).1) := by
  induction entries with
  | nil => exact fun o settled => ⟨_, dropActiveCycle_moved o, .inl rfl⟩
  | cons entry _ ih =>
    intro o settled
    have finished : ∀ pending, pending.Sublist o.pending → RecordsMoved o { o with
          calls := (finishObservedQuery sink o.calls entry.record entry.settle.finish).1
          pending := pending } :=
      fun pending fewer => ⟨⟨_, _, _, _, rfl⟩, fewer, _, rfl, NoStart.finish _ _ _⟩
    simp only [finishPostgresEntries]
    split
    · exact ⟨_, (finished o.pending (.refl _)).trans (setActiveCycle_moved _ _), .inr ⟨_, rfl⟩⟩
    obtain ⟨o₁, moved, outcome⟩ := ih { o with
        calls := (finishObservedQuery sink o.calls entry.record entry.settle.finish).1
        pending := o.pending.eraseP fun other => other.seq == entry.record.seq }
      (settled ++ [entry.settle])
    exact ⟨o₁, (finished _ eraseP_sublist).trans moved, outcome⟩

theorem observeActiveCycle_moved (o : PostgresObserver) (cycle : PostgresQueryCycle)
    (messageType : MessageType) (payload : Bytes) : ∃ o₁, RecordsMoved o o₁ ∧
      (observeActiveCycle sink o cycle messageType payload = o₁ ∨ ∃ decision,
        observeActiveCycle sink o cycle messageType payload =
          (o₁.failDecision sink decision).1) := by
  simp only [observeActiveCycle]
  repeat' split
  all_goals first
    | exact ⟨_, setActiveCycle_moved o _, .inl rfl⟩
    | exact finishPostgresEntries_moved _ _ o _
    | exact ⟨o, .refl o, .inl rfl⟩

/-- A server message is a response and what it means for the records, unless the observer fails. -/
theorem observePostgresServerMessage_cases (sink : QuerySink) (o : PostgresObserver)
    (messageType : MessageType) (payload : Bytes) :
    ∃ o₁, RecordsMoved (o.observePostgresOperationResponse messageType payload).1 o₁ ∧
      (((o.observePostgresOperationResponse messageType payload).2 = none ∧
          observePostgresServerMessage sink o messageType payload = o₁) ∨
        ∃ decision, observePostgresServerMessage sink o messageType payload =
          (o₁.failDecision sink decision).1) := by
  simp only [observePostgresServerMessage]
  split
  · rename_i o₁ decision response
    rw [response]
    exact ⟨o₁, .refl o₁, .inr ⟨decision, rfl⟩⟩
  rename_i o₁ response
  rw [response]
  split
  · exact ⟨o₁, .refl o₁, .inl ⟨rfl, rfl⟩⟩
  rename_i cycle _
  split
  · exact ⟨o₁, .refl o₁, .inl ⟨rfl, rfl⟩⟩
  · obtain ⟨o₂, moved, outcome⟩ := observeActiveCycle_moved o₁ cycle messageType payload
    exact ⟨o₂, moved, outcome.imp (fun same => ⟨rfl, same⟩) id⟩

theorem observePostgresServerMessage_kept (o : PostgresObserver) (messageType : MessageType)
    (payload : Bytes) :
    KeptOrFailed sink o (observePostgresServerMessage sink o messageType payload) := by
  obtain ⟨_, _, _, response⟩ := observePostgresOperationResponse_same o messageType payload
  obtain ⟨o₁, moved, outcome⟩ := observePostgresServerMessage_cases sink o messageType payload
  refine ⟨o₁, ?_, outcome.imp And.right id⟩
  rw [response] at moved
  obtain ⟨_, _, _, _, rfl⟩ := moved.same
  exact ⟨rfl, rfl, rfl, rfl, rfl, rfl, rfl, rfl, rfl, rfl, rfl⟩

theorem observePostgresServerMessage_unfailed {payload : Bytes}
    (unfailed : (observePostgresServerMessage sink o messageType payload).fatal = none) :
    RelayKept o (observePostgresServerMessage sink o messageType payload) := by
  obtain ⟨_, _, same | ⟨_, failed⟩⟩ :=
    (observePostgresServerMessage_kept o messageType payload : KeptOrFailed sink o _)
  · rwa [same]
  · rw [failed] at unfailed
    cases unfailed

/-! ## The server loop -/

/-- What the server loop does, step by step, with the bytes it takes. -/
inductive ServerMove (sink : QuerySink) :
    PostgresObserver → Bytes → PostgresObserver → Prop where
  | buffer {o : PostgresObserver} (buffer : Bytes) :
      ServerMove sink o [] { o with serverBuf := buffer }
  | answer {o : PostgresObserver} {frame : Bytes} (proper : IsFrame frame)
      (unfailed : o.fatal = none) (none_open : o.serverStream = none)
      (valid : validPostgresBackendMessage (frame.headD 0) (frame.drop 5) = true) :
      ServerMove sink o frame
        (observePostgresServerMessage sink o (frame.headD 0) (frame.drop 5))
  | stream {o : PostgresObserver} {header : Bytes} (length : header.length = 5)
      (none_open : o.serverStream = none)
      (streamable : canStreamPostgresBackendFrame (header.headD 0) = true)
      (long : maxPostgresObserverBufferBytes < frameLength header) :
      ServerMove sink o header { o with serverStream := some (frameLength header - 5) }
  | chunk {o : PostgresObserver} {remaining : ℕ} (opened : o.serverStream = some remaining)
      (chunk : Bytes) (within : chunk.length ≤ remaining) :
      ServerMove sink o chunk
        { o with
          serverStream :=
            if remaining - chunk.length = 0 then none else some (remaining - chunk.length) }
  | fail {o : PostgresObserver} (decision : QueryDecision) :
      ServerMove sink o [] (o.failDecision sink decision).1

/-- Any number of moves, with all the bytes they take. -/
inductive ServerMoves (sink : QuerySink) :
    PostgresObserver → Bytes → PostgresObserver → Prop where
  | refl {o : PostgresObserver} : ServerMoves sink o [] o
  | tail {o o₁ o₂ : PostgresObserver} {bytes chunk : Bytes} (moves : ServerMoves sink o bytes o₁)
      (move : ServerMove sink o₁ chunk o₂) : ServerMoves sink o (bytes ++ chunk) o₂

/-- What holds of the server side between two passes. -/
structure ServerReady (o : PostgresObserver) : Prop where
  bounded : o.serverBuf.length ≤ maxPostgresObserverBufferBytes
  stream : ∀ remaining, o.serverStream = some remaining → 0 < remaining ∧ o.serverBuf = []

/-- Client moves leave the server side as it was, or empty. -/
theorem ClientMoves.serverReady (moves : ClientMoves sink o o') (ready : ServerReady o) :
    ServerReady o' := by
  induction moves with
  | refl => exact ready
  | tail _ move ih =>
    rcases move.server sink with ⟨buffer, stream⟩ | ⟨buffer, stream⟩
    · exact ⟨by rw [buffer]; exact ih.bounded, by
        rw [buffer, stream]
        exact ih.stream⟩
    · exact ⟨by simp [buffer], by simp [stream]⟩

/-- What holds between two passes of a server call. -/
structure ServerInside (sink : QuerySink) (start : PostgresObserver) (data : Bytes)
    (relaying : Relaying PostgresObserver) : Prop where
  moves : ServerMoves sink start relaying.forward relaying.observer
  bytes : start.serverBuf ++ data =
    relaying.forward ++ (relaying.observer.serverBuf ++ relaying.data)
  ready : ServerReady relaying.observer
  unfailed : relaying.observer.fatal = none

/-- What a server call comes to: moves that take what is forwarded and, when the observer fails,
maybe one frame more. -/
structure ServerRelayed (sink : QuerySink) (start : PostgresObserver) (data : Bytes)
    (result : Relayed PostgresObserver) : Prop where
  moves : ∃ last rest, ServerMoves sink start (result.forward ++ last) result.observer ∧
    start.serverBuf ++ data = result.forward ++ last ++ rest ∧
    (result.decision = none → last = [] ∧ rest = result.observer.serverBuf)
  ready : ServerReady result.observer
  fatal : result.observer.fatal = result.decision

/-- A pass of a server call goes on with less to read, or ends the call. -/
abbrev ServerProceeds (sink : QuerySink) (start : PostgresObserver) (data : Bytes)
    (relaying : Relaying PostgresObserver)
    (pass : Loop.Pass (Relaying PostgresObserver) (Relayed PostgresObserver)) : Prop :=
  Loop.Proceeds (ServerInside sink start data) (ServerRelayed sink start data) serverMeasure
    relaying pass

variable {data : Bytes}

section

variable (inside : ServerInside sink start data relaying)
include inside

theorem ServerInside.fail (code : ErrorCode) (message : String) :
    ServerProceeds sink start data relaying
      (leaveFailed relaying (relaying.observer.fail sink code message)) := by
  refine ⟨⟨[], relaying.observer.serverBuf ++ relaying.data, ?_, ?_, ?_⟩, ⟨Nat.zero_le _, ?_⟩,
    rfl⟩
  · exact inside.moves.tail (.fail _)
  · rw [append_nil]
    exact inside.bytes
  · intro undecided
    cases undecided
  · intro remaining opened
    cases opened

theorem ServerInside.leave (empty : relaying.data = []) : ServerProceeds sink start data relaying
      (.leave { observer := relaying.observer, forward := relaying.forward, decision := none }) := by
  refine ⟨⟨[], relaying.observer.serverBuf, ?_, ?_, fun _ => ⟨rfl, rfl⟩⟩, inside.ready,
    inside.unfailed⟩
  · rw [append_nil]
    exact inside.moves
  · rw [inside.bytes, empty]
    simp

theorem ServerInside.fillServer (none_open : relaying.observer.serverStream = none) :
    ServerProceeds sink start data relaying (fillServer sink relaying) := by
  simp only [PostgresObserver.fillServer]
  split
  · next empty => exact inside.leave (length_eq_zero_iff.mp empty)
  cases appended : appendObserverBufferChunk relaying.observer.serverBuf relaying.data
    maxPostgresObserverBufferBytes with
  | none => exact inside.fail _ _
  | some parts =>
    obtain ⟨buffer, _⟩ := parts
    obtain ⟨joined, _, _, -⟩ := appendObserverBufferChunk_cases appended
    have moves := inside.moves.tail (.buffer buffer)
    rw [append_nil] at moves
    refine ⟨⟨moves, ?_, ⟨?_, by simp [none_open]⟩, inside.unfailed⟩, ?_⟩
    · rw [inside.bytes, joined]
    · exact appendObserverBufferChunk_bounded appended inside.ready.bounded
    · simp only [serverMeasure]
      omega

theorem ServerInside.handleBufferedResponse (none_open : relaying.observer.serverStream = none)
    (proper : 5 ≤ frameLength relaying.observer.serverBuf)
    (complete : frameLength relaying.observer.serverBuf ≤ relaying.observer.serverBuf.length) :
    ServerProceeds sink start data relaying
      (handleBufferedResponse sink (frameLength relaying.observer.serverBuf) relaying) := by
  simp only [PostgresObserver.handleBufferedResponse]
  have type : (relaying.observer.serverBuf.take
      (frameLength relaying.observer.serverBuf)).headD 0 = relaying.observer.serverBuf.headD 0 := by
    obtain ⟨count, total⟩ : ∃ count, frameLength relaying.observer.serverBuf = count + 1 :=
      ⟨frameLength relaying.observer.serverBuf - 1, by omega⟩
    rw [total]
    cases relaying.observer.serverBuf with
    | nil => rfl
    | cons => rfl
  split
  · exact inside.fail _ _
  rename_i valid
  have moves := inside.moves.tail (.answer (isFrame_take proper complete) inside.unfailed
    none_open (by rw [type]; simpa using valid))
  rw [type] at moves
  have response : KeptOrFailed sink relaying.observer (observePostgresServerMessage sink
      relaying.observer (relaying.observer.serverBuf.headD 0) ((relaying.observer.serverBuf.take
        (frameLength relaying.observer.serverBuf)).drop 5)) :=
    observePostgresServerMessage_kept _ _ _
  generalize observePostgresServerMessage sink _ _ _ = o at *
  obtain ⟨_, kept, outcome⟩ := response
  rcases outcome with rfl | ⟨decision, rfl⟩
  · split
    · rename_i failed
      rw [kept.fatal, inside.unfailed] at failed
      cases failed
    · have dropped := moves.tail (.buffer
        (o.serverBuf.drop (frameLength relaying.observer.serverBuf)))
      rw [append_nil] at dropped
      refine ⟨⟨dropped, ?_, ⟨?_, ?_⟩, kept.fatal.trans inside.unfailed⟩, ?_⟩
      · rw [inside.bytes, kept.serverBuf, append_assoc]
        conv_lhs => rw [← take_append_drop (frameLength relaying.observer.serverBuf)
          relaying.observer.serverBuf]
        rw [append_assoc]
      · have bounded := inside.ready.bounded
        simp only [kept.serverBuf, length_drop]
        omega
      · simp [kept.serverStream, none_open]
      · simp only [serverMeasure, kept.serverBuf, kept.serverStream, length_drop]
        omega
  · refine ⟨⟨_, relaying.observer.serverBuf.drop (frameLength relaying.observer.serverBuf) ++
      relaying.data, moves, ?_, by simp⟩, ⟨Nat.zero_le _, by simp [failDecision]⟩, rfl⟩
    rw [inside.bytes, append_assoc]
    conv_lhs => rw [← take_append_drop (frameLength relaying.observer.serverBuf)
      relaying.observer.serverBuf]
    rw [append_assoc]

end

/-- A streamed frame gives up a chunk of what has arrived, at most what is left of it. -/
theorem consumePostgresFrameStream_cases (unfinished : 0 < remaining) (data : Bytes) :
    ∃ chunk stream, consumePostgresFrameStream (some remaining) data = (chunk, stream) ∧
      chunk ++ data.drop chunk.length = data ∧ chunk.length ≤ remaining ∧
      stream = (if remaining - chunk.length = 0 then none else some (remaining - chunk.length)) ∧
      (0 < data.length → 0 < chunk.length) ∧ (data.length ≤ remaining → chunk = data) := by
  simp only [consumePostgresFrameStream]
  split
  · rename_i empty
    refine ⟨[], some remaining, rfl, by simp, Nat.zero_le _, ?_, by omega,
      fun _ => (length_eq_zero_iff.mp empty).symm⟩
    rw [if_neg (by simp only [length_nil]; omega)]
    rfl
  · have length : (data.take (min remaining data.length)).length = min remaining data.length := by
      simp
    refine ⟨_, _, rfl, ?_, ?_, ?_, ?_, ?_⟩
    · rw [length, take_append_drop]
    · omega
    · rw [length]
    · omega
    · intro short
      rw [Nat.min_eq_right short, take_length]

/-- A stream that is still open has bytes left. -/
private theorem unfinished_stream {stream : Option ℕ} {left : ℕ}
    (follows : stream = if left = 0 then none else some left)
    (opened : stream = some remaining) : 0 < remaining := by
  rw [follows] at opened
  split at opened
  · cases opened
  · cases opened
    omega

theorem ServerInside.readStream (inside : ServerInside sink start data relaying)
    (opened : relaying.observer.serverStream = some remaining) :
    ServerProceeds sink start data relaying
      (let consumed := consumePostgresFrameStream relaying.observer.serverStream relaying.data
        let o := { relaying.observer with serverStream := consumed.2 }
        let forward := relaying.forward ++ consumed.1
        let data := relaying.data.drop consumed.1.length
        if data.length = 0 then .leave { observer := o, forward := forward, decision := none }
        else .again { observer := o, data := data, forward := forward }) := by
  obtain ⟨unfinished, empty⟩ := inside.ready.stream remaining opened
  obtain ⟨chunk, stream, consumed, split, within, follows, _, -⟩ :=
    consumePostgresFrameStream_cases unfinished relaying.data
  rw [opened, consumed]
  dsimp only
  have moves : ServerMoves sink start (relaying.forward ++ chunk)
      { relaying.observer with serverStream := stream } := by
    rw [follows]
    exact inside.moves.tail (.chunk opened chunk within)
  have bytes : start.serverBuf ++ data = relaying.forward ++ chunk ++
      (relaying.observer.serverBuf ++ relaying.data.drop chunk.length) := by
    rw [inside.bytes, empty, nil_append, nil_append, append_assoc, split]
  have ready : ServerReady { relaying.observer with serverStream := stream } :=
    ⟨inside.ready.bounded, fun left opened => ⟨unfinished_stream follows opened, empty⟩⟩
  split
  · rename_i read
    refine ⟨⟨[], relaying.observer.serverBuf, ?_, ?_, fun _ => ⟨rfl, rfl⟩⟩, ready, inside.unfailed⟩
    · rw [append_nil]
      exact moves
    · rw [bytes, length_eq_zero_iff.mp read, append_nil, append_nil]
  · rename_i unread
    refine ⟨⟨moves, bytes, ready, inside.unfailed⟩, ?_⟩
    simp only [length_drop] at unread
    simp only [serverMeasure, length_drop]
    split <;> omega

theorem ServerInside.startServerStream (inside : ServerInside sink start data relaying)
    (none_open : relaying.observer.serverStream = none)
    (header : 5 ≤ relaying.observer.serverBuf.length)
    (long : maxPostgresObserverBufferBytes < frameLength relaying.observer.serverBuf)
    (streamable : canStreamPostgresBackendFrame (relaying.observer.serverBuf.headD 0)) :
    ServerProceeds sink start data relaying
      (let consumed := consumePostgresFrameStream
          (some (frameLength relaying.observer.serverBuf - 5))
          (relaying.observer.serverBuf.drop 5);
        Loop.Pass.again
          { observer :=
              { relaying.observer with serverBuf := [], serverStream := consumed.2 }
            data := relaying.data
            forward := relaying.forward ++ relaying.observer.serverBuf.take 5 ++ consumed.1 }) := by
  have bounded := inside.ready.bounded
  have taken : (relaying.observer.serverBuf.take 5).length = 5 := by
    simp only [length_take]
    omega
  have same : frameLength (relaying.observer.serverBuf.take 5) =
      frameLength relaying.observer.serverBuf := by
    conv_rhs => rw [← take_append_drop 5 relaying.observer.serverBuf]
    exact (frameLength_append (Nat.le_of_eq taken.symm) _).symm
  have type : (relaying.observer.serverBuf.take 5).headD 0 =
      relaying.observer.serverBuf.headD 0 := by
    cases relaying.observer.serverBuf with
    | nil => rfl
    | cons => rfl
  have unfinished : 0 < frameLength relaying.observer.serverBuf - 5 := by omega
  obtain ⟨chunk, stream, consumed, -, within, follows, -, all⟩ :=
    consumePostgresFrameStream_cases unfinished (relaying.observer.serverBuf.drop 5)
  have all : chunk = relaying.observer.serverBuf.drop 5 := by
    apply all
    simp only [length_drop]
    omega
  rw [consumed]
  have opened : ServerMoves sink start (relaying.forward ++ relaying.observer.serverBuf.take 5)
      { relaying.observer with
        serverStream := some (frameLength relaying.observer.serverBuf - 5) } := by
    rw [← same]
    exact inside.moves.tail (.stream taken none_open (by rwa [type]) (by rwa [same]))
  have moves := (opened.tail (.chunk rfl chunk within)).tail (.buffer [])
  rw [append_nil, ← follows] at moves
  refine ⟨⟨moves, ?_, ⟨Nat.zero_le _, ?_⟩, inside.unfailed⟩, ?_⟩
  · rw [inside.bytes, append_assoc, append_assoc, all, ← append_assoc (take 5 _),
      take_append_drop, nil_append]
  · exact fun left opened => ⟨unfinished_stream follows opened, rfl⟩
  · simp only [serverMeasure]
    split <;> simp <;> omega

theorem ServerInside.serverPass (inside : ServerInside sink start data relaying) :
    ServerProceeds sink start data relaying (serverPass sink relaying) := by
  simp only [PostgresObserver.serverPass]
  split
  · rename_i opened
    obtain ⟨_, stream⟩ := Option.isSome_iff_exists.mp opened
    exact inside.readStream stream
  rename_i closed
  have none_open : relaying.observer.serverStream = none := by simpa using closed
  split
  · exact inside.fillServer none_open
  have header : 5 ≤ relaying.observer.serverBuf.length := by omega
  split
  · exact inside.fail _ _
  have proper : 5 ≤ frameLength relaying.observer.serverBuf := by
    unfold frameLength
    omega
  split
  · rename_i long
    split
    · exact inside.fail _ _
    · rename_i streamable
      exact inside.startServerStream none_open header long (by simpa using streamable)
  · split
    · exact inside.fillServer none_open
    · rename_i complete
      exact inside.handleBufferedResponse none_open proper (Nat.le_of_not_lt complete)

/-- What the client loop left behind stands after a server move, unless the observer fails. -/
theorem ServerMove.client (move : ServerMove sink o bytes o') :
    o'.sent = o.sent ∧ o'.startupDone = o.startupDone ∧
      ((o'.clientBuf = o.clientBuf ∧ o'.clientStream = o.clientStream ∧ o'.fatal = o.fatal) ∨
        (o'.clientBuf = [] ∧ o'.clientStream = none ∧ o'.fatal.isSome)) := by
  cases move with
  | buffer => exact ⟨rfl, rfl, .inl ⟨rfl, rfl, rfl⟩⟩
  | answer =>
    obtain ⟨_, kept, rfl | ⟨decision, failed⟩⟩ :=
      (observePostgresServerMessage_kept o (bytes.headD 0) (bytes.drop 5) : KeptOrFailed sink o _)
    · exact ⟨kept.sent, kept.startupDone, .inl ⟨kept.clientBuf, kept.clientStream, kept.fatal⟩⟩
    · rw [failed]
      exact ⟨kept.sent, kept.startupDone, .inr ⟨rfl, rfl, rfl⟩⟩
  | stream => exact ⟨rfl, rfl, .inl ⟨rfl, rfl, rfl⟩⟩
  | chunk => exact ⟨rfl, rfl, .inl ⟨rfl, rfl, rfl⟩⟩
  | fail decision => exact ⟨rfl, rfl, .inr ⟨rfl, rfl, rfl⟩⟩

/-- While the observer has not failed, server moves leave the client side alone. -/
theorem ServerMoves.client (moves : ServerMoves sink o bytes o') :
    o'.sent = o.sent ∧ (o'.fatal = none →
      o'.clientBuf = o.clientBuf ∧ o'.clientStream = o.clientStream ∧ o.fatal = none) := by
  induction moves with
  | refl => exact ⟨rfl, fun unfailed => ⟨rfl, rfl, unfailed⟩⟩
  | tail _ move ih =>
    obtain ⟨sent, -, outcome⟩ := move.client
    refine ⟨sent.trans ih.1, fun unfailed => ?_⟩
    rcases outcome with ⟨buffer, stream, fatal⟩ | ⟨-, -, failed⟩
    · obtain ⟨same_buffer, same_stream, still⟩ := ih.2 (fatal.symm.trans unfailed)
      exact ⟨buffer.trans same_buffer, stream.trans same_stream, still⟩
    · simp [unfailed] at failed

theorem ServerMoves.clientReady (moves : ServerMoves sink o bytes o') (ready : ClientReady sink o) :
    ClientReady sink o' := by
  induction moves with
  | refl => exact ready
  | tail _ move ih =>
    obtain ⟨sent, startup, outcome⟩ := move.client
    refine ⟨startup.trans ih.startup, ?_⟩
    rcases outcome with ⟨-, stream, -⟩ | ⟨-, stream, -⟩
    · rw [stream, sent]
      exact ih.stream
    · simp [stream]

/-- A server call is a sequence of moves that take the bytes in order. -/
theorem observeServerRelayBytes_relayed (ready : ServerReady o) (unfailed : o.fatal = none)
    (data : Bytes) : ServerRelayed sink o data (observeServerRelayBytes sink o data) := by
  have initially : ServerInside sink o data { observer := o, data := data, forward := [] } :=
    ⟨.refl, rfl, ready, unfailed⟩
  simp only [observeServerRelayBytes, unfailed]
  split
  · next empty => exact initially.leave (length_eq_zero_iff.mp empty)
  · exact Loop.run_proceeds (fun relaying inside => inside.serverPass) initially

/-- Once the observer has failed, a server call only repeats the decision. -/
theorem observeServerRelayBytes_failed (failed : o.fatal = some decision) (data : Bytes) :
    observeServerRelayBytes sink o data =
      { observer := o, forward := [], decision := some decision } := by
  simp [observeServerRelayBytes, failed]

end PostgresObserver
end Jianmen.DBProxy
