import Jianmen.DBProxy.Postgres.Limits

/-!
# The observer keeps its limits

In every run the records of queries in flight stay within their limit.  The queue of operations
does, too, while no streamed frame ends when the queue is full, because the streamed path does not
ask for room.  The confirmed statements and portals do while every response that discards
operations leaves behind a queue that the confirmed state was checked against.
-/

namespace Jianmen.DBProxy

open Postgres List PostgresClientFrameStream

namespace PostgresObserver

variable {sink : QuerySink} {budget : Option ObserverMemoryBudget}
  {accepted : List AcceptedOperation}
  {next : PostgresObserver → DatabaseSQLAudit → PostgresObserver × Option QueryDecision}
  {start : PostgresObserver}

/-! ## Statements and their pointers -/

/-- A statement came with the operation its pointer tells. -/
def Traced (accepted : List AcceptedOperation) (prepared : PostgresPreparedStatement) : Prop :=
  ∃ name, accepted[prepared.pointer]? = some ⟨.parse name prepared, none⟩

theorem Traced.append {prepared : PostgresPreparedStatement}
    (recorded : Traced accepted prepared) (more : List AcceptedOperation) :
    Traced (accepted ++ more) prepared := by
  obtain ⟨name, entry⟩ := recorded
  obtain ⟨within, -⟩ := List.getElem?_eq_some_iff.mp entry
  exact ⟨name, by rwa [getElem?_append_left within]⟩

/-- The statements of a state are recorded. -/
structure StateTraced (accepted : List AcceptedOperation)
    (state : PreparedStatements × Portals) : Prop where
  statements : ∀ name prepared, state.1.lookup name = some prepared → Traced accepted prepared
  portals : ∀ name portal, state.2.lookup name = some portal → Traced accepted portal.prepared

/-- The statement an operation brings is recorded. -/
def OperationTraced (accepted : List AcceptedOperation) : PostgresFrontendOperation → Prop
  | .parse _ prepared => Traced accepted prepared
  | .bind _ portal => Traced accepted portal.prepared
  | _ => True

variable {operation : PostgresFrontendOperation} {o : PostgresObserver} {data : Bytes}
  {relaying : Relaying PostgresObserver}

theorem OperationTraced.append
    (recorded : OperationTraced accepted operation) (more : List AcceptedOperation) :
    OperationTraced (accepted ++ more) operation := by
  cases operation with
  | parse name => exact Traced.append recorded more
  | bind name => exact Traced.append recorded more
  | query | execute | close | describe | sync => trivial

section StateTraced

variable {accepted : List AcceptedOperation} {state : PreparedStatements × Portals}

section

variable (recorded : StateTraced accepted state)
include recorded

theorem StateTraced.append (more : List AcceptedOperation) : StateTraced (accepted ++ more) state :=
  ⟨fun name prepared known => (recorded.statements name prepared known).append more,
    fun name portal known => (recorded.portals name portal known).append more⟩

theorem StateTraced.of_covers {small : PreparedStatements × Portals} (covers : Covers state small) :
    StateTraced accepted small :=
  ⟨fun name prepared known => recorded.statements name prepared (covers.statements _ _ known),
    fun name portal known => recorded.portals name portal (covers.portals _ _ known)⟩

theorem StateTraced.apply {operation : PostgresFrontendOperation}
    (brings : OperationTraced accepted operation) :
    StateTraced accepted (applyPostgresStateOperation state operation) := by
  refine ⟨fun name prepared found => ?_, fun name portal found => ?_⟩
  · obtain rfl | ⟨known, -⟩ := apply_statements found
    · exact brings
    · exact recorded.statements name prepared known
  · obtain rfl | ⟨known, -⟩ := apply_portals found
    · exact brings
    · exact recorded.portals name portal known

theorem StateTraced.foldl {operations : List PostgresFrontendOperation}
    (brings : ∀ operation ∈ operations, OperationTraced accepted operation) :
    StateTraced accepted (operations.foldl applyPostgresStateOperation state) := by
  induction operations generalizing state with
  | nil => exact recorded
  | cons operation operations ih =>
    exact ih (recorded.apply (brings operation (by simp)))
      fun other member => brings other (by simp [member])

/-- Traced statements with one pointer are one statement. -/
theorem StateTraced.distinguished : Distinguished (rowStatements (usageRows state)) := by
  have known : ∀ prepared ∈ rowStatements (usageRows state), Traced accepted prepared := by
    intro prepared member
    rcases mem_rowStatements.mp member with ⟨name, looked⟩ | ⟨name, portal, looked, rfl⟩
    · exact recorded.statements name prepared looked
    · exact recorded.portals name portal looked
  intro first among second also same
  obtain ⟨name, entry⟩ := known first among
  obtain ⟨_, again⟩ := known second also
  rw [same, again] at entry
  simp only [Option.some.injEq, AcceptedOperation.mk.injEq, PostgresFrontendOperation.parse.injEq,
    and_true] at entry
  exact entry.2.symm

end

end StateTraced

/-! ## The invariant -/

/-- What the observer keeps is bounded, and so is every state its queue leads to. -/
structure Bounded (o : PostgresObserver) : Prop where
  buffer : o.clientBuf.length ≤ maxPostgresObserverBufferBytes
  operations : o.operations.length ≤ maxPostgresPendingOperations
  pending : o.pending.length ≤ maxObserverPendingQueries
  recorded : StateTraced o.accepted (o.preparedStatements, o.portals)
  queued : ∀ operation ∈ o.operations, OperationTraced o.accepted operation
  within : ∀ done, done <+: o.operations → postgresPreparedStateWithinLimit
    (done.foldl applyPostgresStateOperation (o.preparedStatements, o.portals))
    o.auditStateLimit = true

/-- An observer that has not failed is bounded. -/
def Limited (o : PostgresObserver) : Prop :=
  o.fatal = none → Bounded o

/-- What the bounds look at. -/
def measured (o : PostgresObserver) :=
  (o.clientBuf, o.operations, o.pending, o.accepted, o.preparedStatements, o.portals,
    o.auditStateLimit)

theorem Bounded.of_measured {o o' : PostgresObserver} (bounded : Bounded o)
    (same : o'.measured = o.measured) : Bounded o' := by
  simp only [measured, Prod.mk.injEq] at same
  obtain ⟨buffer, operations, pending, accepted, statements, portals, limit⟩ := same
  constructor
  · rw [buffer]; exact bounded.buffer
  · rw [operations]; exact bounded.operations
  · rw [pending]; exact bounded.pending
  · rw [accepted, statements, portals]; exact bounded.recorded
  · rw [operations, accepted]; exact bounded.queued
  · rw [operations, statements, portals, limit]; exact bounded.within

theorem failDecision_limited (o : PostgresObserver) (decision : QueryDecision) :
    Limited (o.failDecision sink decision).1 := by
  intro unfailed
  cases unfailed

theorem refuse_limited (o : PostgresObserver) (code : ErrorCode) (message : String) :
    Limited (o.refuse sink code message).1 :=
  failDecision_limited o _

theorem new_bounded (maxClientMessageBytes : Int) : Bounded (new maxClientMessageBytes) where
  buffer := Nat.zero_le _
  operations := Nat.zero_le _
  pending := Nat.zero_le _
  recorded := ⟨by simp [new], by simp [new]⟩
  queued := by simp [new]
  within := by
    intro done before
    rw [prefix_nil.mp before]
    simp [new, postgresPreparedStateWithinLimit]

theorem Bounded.projected (bounded : Bounded o) : StateTraced o.accepted o.projectedPostgresState :=
  bounded.recorded.foldl bounded.queued

/-- Queue an operation for which there is room. -/
theorem Bounded.enqueue (bounded : Bounded o)
    (room : o.operations.length < maxPostgresPendingOperations) (portal : Option PostgresPortal)
    (brings : OperationTraced (o.accepted ++ [⟨operation, portal⟩]) operation)
    (fits : postgresPreparedStateWithinLimit
      (applyPostgresStateOperation o.projectedPostgresState operation) o.auditStateLimit) :
    Bounded (o.enqueuePostgresOperation operation portal) where
  buffer := bounded.buffer
  operations := by
    simp only [enqueuePostgresOperation, length_append, length_singleton]
    omega
  pending := bounded.pending
  recorded := bounded.recorded.append _
  queued := by
    intro other member
    rcases mem_append.mp member with earlier | last
    · exact (bounded.queued other earlier).append _
    · rw [mem_singleton.mp last]
      exact brings
  within := by
    intro done before
    rcases prefix_concat_iff.mp before with all | earlier
    · rw [all, foldl_concat]
      exact fits
    · exact bounded.within done earlier

/-- Queue an operation that adds no name. -/
theorem Bounded.enqueue_silent (bounded : Bounded o)
    (room : o.operations.length < maxPostgresPendingOperations) (silent : adds operation = false)
    (portal : Option PostgresPortal) : Bounded (o.enqueuePostgresOperation operation portal) := by
  refine bounded.enqueue room portal ?_ ?_
  · cases operation with
    | parse => cases silent
    | bind => cases silent
    | query | execute | close | describe | sync => trivial
  · exact (covers_apply silent _).within bounded.projected.distinguished
      (bounded.within o.operations (prefix_refl _))

/-! ## Client messages -/

section ClientMessages

variable {o : PostgresObserver} (bounded : Bounded o)
  (room : o.operations.length < maxPostgresPendingOperations)
  {operation : PostgresFrontendOperation}

include bounded room

theorem queueStateOperation_limited (message : String)
    (brings : OperationTraced (o.accepted ++ [⟨operation, none⟩]) operation) :
    Limited (queueStateOperation sink o operation message).1 := by
  unfold queueStateOperation
  split
  · exact refuse_limited o _ _
  · rename_i fits
    intro _
    exact bounded.enqueue room none brings (by simpa [canQueuePostgresStateOperation] using fits)

theorem observePostgresParseSummary_limited (name : Bytes) (audit : DatabaseSQLAudit) :
    Limited (observePostgresParseSummary sink o name audit).1 := by
  unfold observePostgresParseSummary
  split
  · exact refuse_limited o _ _
  · refine queueStateOperation_limited bounded room _ ⟨name, ?_⟩
    simp

theorem observePostgresBindNames_limited (portal statement : Bytes)
    (artifact : DatabaseAuditArtifact) :
    Limited (observePostgresBindNames sink o portal statement artifact).1 := by
  unfold observePostgresBindNames
  split
  · exact refuse_limited o _ _
  split
  · exact refuse_limited o _ _
  · rename_i prepared known
    exact queueStateOperation_limited bounded room _
      ((bounded.projected.statements statement prepared known).append _)

/-- A query that was allowed is pending, and its operation queued. -/
theorem started_bounded {record : QueryRecord} {calls : List SinkCall}
    {cycles : List PostgresQueryCycle} {openCycle : Option PostgresQueryCycle}
    (silent : adds operation = false)
    (portal : Option PostgresPortal) (few : o.pending.length < maxObserverPendingQueries) :
    Bounded (enqueuePostgresOperation { o with
        calls := calls
        pending := o.pending ++ [record]
        cycles := cycles
        openCycle := openCycle } operation portal) := by
  have more : (o.pending ++ [record]).length ≤ maxObserverPendingQueries := by
    simp only [length_append, length_singleton]
    omega
  have started : Bounded { o with
        calls := calls
        pending := o.pending ++ [record]
        cycles := cycles
        openCycle := openCycle } :=
    { bounded with pending := more }
  exact started.enqueue_silent room silent portal

theorem startPostgresSimpleQuery_limited (audit : DatabaseSQLAudit) :
    Limited (startPostgresSimpleQuery sink o audit).1 := by
  unfold startPostgresSimpleQuery
  split
  · exact refuse_limited o _ _
  rename_i few
  split
  · exact refuse_limited o _ _
  split
  · exact fun _ => bounded.of_measured rfl
  · split
    · exact fun _ => bounded.of_measured rfl
    · exact fun _ => started_bounded bounded room rfl none (Nat.lt_of_not_le few)

theorem startPostgresPortalExecution_limited (portal : Bytes) :
    Limited (startPostgresPortalExecution sink o portal).1 := by
  unfold startPostgresPortalExecution
  split
  · exact refuse_limited o _ _
  dsimp only
  split
  · exact refuse_limited o _ _
  rename_i few
  split
  · exact refuse_limited o _ _
  split
  · exact fun _ => bounded.of_measured rfl
  · split
    · exact fun _ => bounded.of_measured rfl
    · exact fun _ => started_bounded bounded room rfl _ (Nat.lt_of_not_le few)

end ClientMessages

theorem withAudit_limited (bounded : Bounded o) (sql : Bytes)
    (limited : ∀ calls audit, Bounded { o with calls := calls } →
      Limited (next { o with calls := calls } audit).1) :
    Limited (withAudit sink o sql next).1 := by
  unfold withAudit
  split
  · exact refuse_limited _ _ _
  · exact limited _ _ (bounded.of_measured rfl)

/-- A message is only queued while there is room. -/
theorem observePostgresClientMessage_limited (bounded : Bounded o) (messageType : MessageType)
    (payload : Bytes) : Limited (observePostgresClientMessage sink o messageType payload).1 := by
  by_cases full : isTrackedPostgresFrontendOperation messageType ∧
      maxPostgresPendingOperations ≤ o.operations.length
  · simp only [observePostgresClientMessage, if_pos full]
    exact refuse_limited o _ _
  · have room : isTrackedPostgresFrontendOperation messageType →
        o.operations.length < maxPostgresPendingOperations := by
      intro tracked
      exact Nat.lt_of_not_le fun many => full ⟨tracked, many⟩
    simp only [observePostgresClientMessage, if_neg full]
    split
    · rename_i query
      have room := room (by rw [query]; rfl)
      exact withAudit_limited bounded _ fun _ audit bounded =>
        startPostgresSimpleQuery_limited bounded room audit
    split
    · rename_i parse
      have room := room (by rw [parse]; rfl)
      exact withAudit_limited bounded _ fun _ audit bounded =>
        observePostgresParseSummary_limited bounded room _ audit
    split
    · rename_i bind
      have room := room (by rw [bind]; rfl)
      split
      · exact refuse_limited _ _ _
      · rename_i calls artifact _
        have recalled : Bounded { o with calls := calls } := bounded.of_measured rfl
        exact observePostgresBindNames_limited recalled room _ _ _
    · split
      · rename_i execute
        exact startPostgresPortalExecution_limited bounded (room (by rw [execute]; rfl)) _
      · split
        · rename_i sync
          have closed : Bounded
              { o with cycles := o.cycles ++ o.openCycle.toList, openCycle := none } :=
            bounded.of_measured rfl
          exact fun _ => closed.enqueue_silent (room (by rw [sync]; rfl)) rfl none
        · split
          · rename_i close
            exact queueStateOperation_limited bounded (room (by rw [close]; rfl)) _ trivial
          · split
            · rename_i describe
              exact fun _ => bounded.enqueue_silent (room (by rw [describe]; rfl)) rfl none
            · exact fun _ => bounded

/-! ## Streamed frames -/

theorem finishSQLStream_limited (bounded : Bounded o) (p : PostgresStreamParser) (complete : Bool)
    (message : String)
    (limited : ∀ calls audit, Bounded { o with calls := calls } →
      Limited (next { o with calls := calls } audit).1) :
    Limited (finishSQLStream sink o p complete message next).1 := by
  unfold finishSQLStream
  split
  · intro unfailed
    cases unfailed
  split
  · rename_i store _ _
    cases completed : store.completeCapture o.calls with
    | none => exact refuse_limited _ _ _
    | some => exact limited _ _ (bounded.of_measured rfl)
  · exact limited o.calls _ bounded

theorem finishStreamParser_limited (bounded : Bounded o)
    (room : o.operations.length < maxPostgresPendingOperations) (p : PostgresStreamParser) :
    Limited (finishStreamParser sink o p).1 := by
  unfold finishStreamParser
  split
  · exact finishSQLStream_limited bounded p _ _ fun _ audit bounded =>
      startPostgresSimpleQuery_limited bounded room audit
  split
  · exact finishSQLStream_limited bounded p _ _ fun _ audit bounded =>
      observePostgresParseSummary_limited bounded room _ audit
  split
  · split
    · exact refuse_limited o _ _
    · exact observePostgresBindNames_limited bounded room _ _ _
  · exact refuse_limited o _ _

/-- The end of a streamed frame asks for room when its message is still to be observed. -/
theorem finishClientStream_limited (bounded : Bounded o) {stream : PostgresClientFrameStream}
    (room : stream.reject = none → stream.parser.isSome →
      o.operations.length < maxPostgresPendingOperations) :
    Limited (finishClientStream sink o stream).1 := by
  unfold finishClientStream
  split
  · intro unfailed
    cases unfailed
  rename_i accepted
  split
  · exact fun _ => bounded
  rename_i parser parsed
  have room := room accepted (by rw [parsed]; rfl)
  split
  · rename_i store _ _
    cases completed : store.completeCapture o.calls with
    | none => exact refuse_limited _ _ _
    | some artifact =>
      have recalled : Bounded { o with calls := o.calls ++ [.completeCapture (some artifact)] } :=
        bounded.of_measured rfl
      exact finishStreamParser_limited recalled room _
  · exact finishStreamParser_limited bounded room parser

/-- Following a chunk reads no further, and a stream whose message is still to be observed was one
before. -/
theorem follow_expecting (stream : PostgresClientFrameStream) (calls : List SinkCall)
    (chunk : Bytes) :
    (stream.follow sink calls chunk).2.remaining = stream.remaining ∧
      ((stream.follow sink calls chunk).2.reject = none →
        (stream.follow sink calls chunk).2.parser.isSome →
        stream.reject = none ∧ stream.parser.isSome) := by
  have parsed : ∀ (calls : List SinkCall) (stream : PostgresClientFrameStream),
      (stream.parseChunk sink calls chunk).2.remaining = stream.remaining ∧
        ((stream.parseChunk sink calls chunk).2.reject = none →
          (stream.parseChunk sink calls chunk).2.parser.isSome →
          stream.reject = none ∧ stream.parser.isSome) := by
    intro calls stream
    unfold parseChunk
    split
    · rename_i parser reading accepted
      split
      · exact ⟨rfl, fun _ _ => ⟨accepted, by rw [reading]; rfl⟩⟩
      · exact ⟨rfl, fun kept => by cases kept⟩
    · exact ⟨rfl, fun accepted reading => ⟨accepted, reading⟩⟩
  obtain ⟨remaining, expecting⟩ := parsed (stream.storeChunk sink calls chunk).1
    (stream.storeChunk sink calls chunk).2
  have stored : (stream.storeChunk sink calls chunk).2.remaining = stream.remaining ∧
      ((stream.storeChunk sink calls chunk).2.reject = none →
        (stream.storeChunk sink calls chunk).2.parser.isSome →
        stream.reject = none ∧ stream.parser.isSome) := by
    unfold storeChunk
    split
    · dsimp only
      split
      · exact ⟨rfl, fun accepted reading => ⟨accepted, reading⟩⟩
      · exact ⟨rfl, fun kept => by cases kept⟩
    · exact ⟨rfl, fun accepted reading => ⟨accepted, reading⟩⟩
  exact ⟨remaining.trans stored.1, fun accepted reading =>
    stored.2 (expecting accepted reading).1 (expecting accepted reading).2⟩

/-- The observer has room for the message of a streamed frame that ends within `data`. -/
def StreamRoom (o : PostgresObserver) (data : Bytes) : Prop :=
  ∀ stream, o.clientStream = some stream → stream.reject = none → stream.parser.isSome →
    0 < data.length → stream.remaining ≤ data.length →
    o.operations.length < maxPostgresPendingOperations

theorem Bounded.sendChunk (bounded : Bounded o) (chunk : Bytes) (last : Bool) :
    Bounded (o.sendChunk chunk last) := by
  unfold PostgresObserver.sendChunk
  split
  · exact bounded
  · exact bounded.of_measured rfl

theorem Limited.sendChunk (limited : Limited o) (chunk : Bytes) (last : Bool) :
    Limited (o.sendChunk chunk last) := by
  have same : (o.sendChunk chunk last).fatal = o.fatal := by
    unfold PostgresObserver.sendChunk
    split <;> rfl
  intro unfailed
  exact (limited (same.symm.trans unfailed)).sendChunk chunk last

theorem consumePostgresClientFrameStream_limited (bounded : Bounded o) (room : StreamRoom o data) :
    Limited (consumePostgresClientFrameStream sink o data).1 := by
  unfold consumePostgresClientFrameStream
  split
  · exact fun _ => bounded
  rename_i stream opened
  split
  · exact fun _ => bounded
  dsimp only
  obtain ⟨remaining, expecting⟩ := @follow_expecting sink
    { stream with remaining := stream.remaining - min stream.remaining data.length }
    o.calls (data.take (min stream.remaining data.length))
  generalize follow sink _ _ _ = followed at remaining expecting ⊢
  obtain ⟨calls, next⟩ := followed
  dsimp only at remaining expecting ⊢
  split
  · have kept : Bounded { o with calls := calls, clientStream := some next } :=
      bounded.of_measured rfl
    split
    · exact fun _ => kept.sendChunk _ _
    · exact fun _ => kept
  · have closed : Bounded { o with
          calls := calls
          clientStream := none
          released := o.released ++ next.lease.toList } :=
      bounded.of_measured rfl
    have limited : Limited (finishClientStream sink { o with
          calls := calls
          clientStream := none
          released := o.released ++ next.lease.toList } next).1 := by
      refine finishClientStream_limited closed fun accepted reading => ?_
      obtain ⟨earlier, before⟩ := expecting accepted reading
      exact room stream opened earlier before (by omega) (by omega)
    split
    · exact limited
    · split
      · exact limited.sendChunk _ _
      · exact limited

/-! ## The client loop -/

/-- What the relay loops keep between passes and leave behind. -/
def PassLimited (pass : Loop.Pass (Relaying PostgresObserver) (Relayed PostgresObserver)) : Prop :=
  pass.Keeps (fun relaying => Limited relaying.observer) fun result => Limited result.observer

theorem fillClient_limited {limit : ℕ} (small : limit ≤ maxPostgresObserverBufferBytes)
    (message : String) (bounded : Bounded relaying.observer) :
    PassLimited (fillClient sink limit message relaying) := by
  unfold fillClient
  dsimp only
  split
  · exact fun _ => bounded
  rename_i nonempty
  cases appended : appendObserverBufferChunk relaying.observer.clientBuf relaying.data limit with
  | none => exact failDecision_limited _ _
  | some parts =>
    obtain ⟨buffer, data⟩ := parts
    have short : relaying.observer.clientBuf.length ≤ limit := by
      by_contra long
      simp [appendObserverBufferChunk, nonempty, Nat.le_of_not_le long] at appended
    have fits : buffer.length ≤ maxPostgresObserverBufferBytes :=
      (appendObserverBufferChunk_bounded appended short).trans small
    exact fun _ => { bounded with buffer := fits }

theorem startClientStream_limited (bounded : Bounded relaying.observer) {total : ℕ}
    {forward : Bool} {reject : Option QueryDecision}
    (opened : Opened sink relaying.observer.calls (relaying.observer.clientBuf.headD 0) (total - 5)
      forward (newPostgresClientFrameStream sink budget relaying.observer.calls
        relaying.observer.leases (relaying.observer.clientBuf.headD 0) (total - 5) forward reject))
    (long : forward → maxPostgresObserverBufferBytes < total) :
    PassLimited (startClientStream sink budget total forward reject relaying) := by
  unfold startClientStream
  dsimp only
  generalize newPostgresClientFrameStream sink budget _ _ _ _ _ _ = created at opened ⊢
  obtain ⟨calls, leases, stream⟩ := created
  have room : ∀ o : PostgresObserver, o.clientStream = some stream →
      StreamRoom o (relaying.observer.clientBuf.drop 5) := by
    intro o present other same accepted _ nonempty ends
    rw [present] at same
    cases same
    have remaining := opened.remaining
    dsimp only at remaining
    rcases opened.stands with rejected | ⟨passed, -⟩
    · have rejects : stream.reject.isSome := rejected.2
      simp [accepted] at rejects
    · have longer := long passed
      have short := bounded.buffer
      simp only [length_drop] at nonempty ends
      omega
  have limited : ∀ sent : List SentFrame, Limited (consumePostgresClientFrameStream sink
      { relaying.observer with
        calls := calls
        leases := leases
        clientStream := some stream
        clientBuf := []
        sent := sent } (relaying.observer.clientBuf.drop 5)).1 := by
    intro sent
    refine consumePostgresClientFrameStream_limited ?_ (room _ rfl)
    exact { bounded with buffer := Nat.zero_le _ }
  split
  · split
    · exact limited _
    · exact limited _
  split
  · exact limited _
  · exact limited _

theorem handleBufferedMessage_limited (total : ℕ) (bounded : Bounded relaying.observer) :
    PassLimited (handleBufferedMessage sink total relaying) := by
  unfold handleBufferedMessage
  dsimp only
  split
  · exact failDecision_limited _ _
  have limited : Limited (observePostgresClientMessage sink relaying.observer
      (relaying.observer.clientBuf.headD 0) ((relaying.observer.clientBuf.take total).drop 5)).1 :=
    observePostgresClientMessage_limited bounded _ _
  generalize observePostgresClientMessage sink _ _ _ = handled at limited ⊢
  obtain ⟨_, _⟩ := handled
  dsimp only at limited ⊢
  split
  · exact failDecision_limited _ _
  · exact limited
  · rename_i unfailed
    have bounded := limited unfailed
    refine fun _ => { bounded with buffer := ?_ }
    have short := bounded.buffer
    simp only [send, length_drop]
    omega

theorem clientPass_limited (inside : ClientInside sink start relaying)
    (limit : ℕ) (room : StreamRoom relaying.observer relaying.data)
    (limited : Limited relaying.observer) :
    PassLimited (clientPass sink budget limit relaying) := by
  have bounded := limited inside.unfailed
  unfold clientPass
  dsimp only
  split
  · have consumed : Limited (consumePostgresClientFrameStream sink relaying.observer
        relaying.data).1 := consumePostgresClientFrameStream_limited bounded room
    split
    · exact consumed
    · split
      · exact consumed
      · exact consumed
  · rw [if_neg (by simp [inside.ready.startup])]
    split
    · exact fillClient_limited (Nat.min_le_right _ _) _ bounded
    split
    · exact failDecision_limited _ _
    split
    · rename_i copied
      refine startClientStream_limited bounded
        (newPostgresClientFrameStream_forwarding sink budget _ _ _ ?_) fun _ => copied.2
      rw [copied.1]
      rfl
    · split
      · exact startClientStream_limited bounded
          (newPostgresClientFrameStream_rejecting sink budget _ _ _ _ _) (by simp)
      · split
        · rename_i streamed
          exact startClientStream_limited bounded
            (newPostgresClientFrameStream_forwarding sink budget _ _ _ streamed.2)
            fun _ => streamed.1
        · split
          · exact fillClient_limited (Nat.le_refl _) _ bounded
          · exact handleBufferedMessage_limited _ bounded

/-! ## Server messages -/

/-- An ErrorResponse is harmless: it discards nothing, or nothing that is queued behind the
discarded operations adds a name, or the discarded operations would have dropped no name. -/
def ErrorFits (o : PostgresObserver) : Prop :=
  o.operations.head? = some .query ∨ o.operations.head? = some .sync ∨
    (∀ operation ∈ o.operations.dropWhile (· != .sync), adds operation = false) ∨
      Covers ((o.operations.takeWhile (· != .sync)).foldl applyPostgresStateOperation
        (o.preparedStatements, o.portals)) (o.preparedStatements, o.portals)

theorem covers_foldl {operations : List PostgresFrontendOperation}
    (silent : ∀ operation ∈ operations, adds operation = false)
    (state : PreparedStatements × Portals) :
    Covers state (operations.foldl applyPostgresStateOperation state) := by
  induction operations generalizing state with
  | nil => exact .refl state
  | cons operation operations ih =>
    have first := covers_apply (silent operation (by simp)) state
    have rest := ih (fun other member => silent other (by simp [member]))
      (applyPostgresStateOperation state operation)
    exact ⟨fun name value known => first.statements name value (rest.statements name value known),
      fun name value known => first.portals name value (rest.portals name value known)⟩

section

variable {o o' : PostgresObserver} (bounded : Bounded o) {messageType : MessageType}
include bounded

theorem Bounded.confirmed :
    postgresPreparedStateWithinLimit (o.preparedStatements, o.portals) o.auditStateLimit :=
  bounded.within [] nil_prefix

/-- The first operation is done, and some portals may be closed. -/
theorem Bounded.advance {rest : List PostgresFrontendOperation}
    (queue : o.operations = operation :: rest) {statements : PreparedStatements}
    {portals : Portals}
    (covers : Covers (applyPostgresStateOperation (o.preparedStatements, o.portals) operation)
      (statements, portals)) :
    Bounded { o with
      preparedStatements := statements
      portals := portals
      operations := rest } := by
  have brings := bounded.queued operation (by simp [queue])
  have others : ∀ other ∈ rest, OperationTraced o.accepted other :=
    fun other member => bounded.queued other (by simp [queue, member])
  have recorded := bounded.recorded.apply brings
  refine ⟨bounded.buffer, ?_, bounded.pending, recorded.of_covers covers, others, ?_⟩
  · have length := bounded.operations
    rw [queue] at length
    exact Nat.le_of_succ_le length
  · intro done before
    have earlier : operation :: done <+: o.operations := by
      rw [queue]
      exact (prefix_cons_inj operation).mpr before
    refine (covers.foldl done).within ?_ (bounded.within _ earlier)
    exact (recorded.foldl fun other member => others other (before.subset member)).distinguished

theorem completeOperation_limited (expectedType : MessageType) (message : String) :
    Limited (o.completeOperation expectedType message).1 := by
  unfold completeOperation
  split
  · exact fun _ => bounded
  rename_i queue
  split
  · exact fun _ => bounded
  · exact fun _ => bounded.advance queue (.refl _)

theorem completeReadyForQuery_limited (payload : Bytes) :
    Limited (o.completeReadyForQuery payload).1 := by
  unfold completeReadyForQuery
  split
  · exact fun _ => bounded
  rename_i operation rest queue
  by_cases boundary : operation = .query ∨ operation = .sync
  · rw [if_pos boundary]
    have covers : Covers (applyPostgresStateOperation (o.preparedStatements, o.portals) operation)
        ((applyPostgresStateOperation (o.preparedStatements, o.portals) operation).1,
          if payload = [idleStatus] then ∅
          else (applyPostgresStateOperation (o.preparedStatements, o.portals) operation).2) := by
      refine ⟨.refl _, ?_⟩
      split
      · exact extends_empty _
      · exact .refl _
    exact fun _ => bounded.advance queue covers
  · rw [if_neg boundary]
    exact fun _ => bounded

theorem rejectCurrentPostgresOperation_limited (fits : ErrorFits o) :
    Limited o.rejectCurrentPostgresOperation.1 := by
  unfold rejectCurrentPostgresOperation
  split
  · exact fun _ => bounded
  · exact fun _ => bounded
  · exact fun _ => bounded
  · rename_i unqueried unsynced
    have kept : ∀ operation ∈ o.operations.dropWhile (· != .sync), operation ∈ o.operations :=
      fun operation member => (dropWhile_suffix _).subset member
    refine fun _ => ⟨bounded.buffer, ?_, bounded.pending, bounded.recorded,
      fun operation member => bounded.queued operation (kept operation member), ?_⟩
    · exact (dropWhile_suffix _).length_le.trans bounded.operations
    · intro done before
      rcases fits with query | sync | silent | covers
      · cases queue : o.operations with
        | nil => simp [queue] at query
        | cons operation rest =>
          rw [queue, head?_cons, Option.some.injEq] at query
          exact absurd (query ▸ queue) (unqueried rest)
      · cases queue : o.operations with
        | nil => simp [queue] at sync
        | cons operation rest =>
          rw [queue, head?_cons, Option.some.injEq] at sync
          exact absurd (sync ▸ queue) (unsynced rest)
      · have covers := covers_foldl (fun operation member =>
          silent operation (before.subset member)) (o.preparedStatements, o.portals)
        exact covers.within bounded.recorded.distinguished bounded.confirmed
      · have earlier : o.operations.takeWhile (· != .sync) ++ done <+: o.operations := by
          have joined := (prefix_append_right_inj (o.operations.takeWhile (· != .sync))).mpr before
          rwa [takeWhile_append_dropWhile] at joined
        have within := bounded.within _ earlier
        rw [foldl_append] at within
        refine (covers.foldl done).within ?_ within
        rw [← foldl_append]
        exact (bounded.recorded.foldl fun operation member =>
          bounded.queued operation (earlier.subset member)).distinguished

theorem observePostgresOperationResponse_limited (payload : Bytes)
    (fits : messageType = errorType → ErrorFits o) :
    Limited (o.observePostgresOperationResponse messageType payload).1 := by
  unfold observePostgresOperationResponse completePostgresStateOperation
    completePostgresProtocolOperation
  split
  · next error => exact rejectCurrentPostgresOperation_limited bounded (fits error)
  repeat' split
  all_goals first
    | exact completeOperation_limited bounded _ _
    | exact completeReadyForQuery_limited bounded payload
    | exact fun _ => bounded

theorem Bounded.moved (moved : RecordsMoved o o') : Bounded o' := by
  have fewer := moved.pending.length_le.trans bounded.pending
  obtain ⟨_, _, _, _, rfl⟩ := moved.same
  exact { bounded with pending := fewer }

theorem observePostgresServerMessage_limited (unfailed : o.fatal = none) (payload : Bytes)
    (fits : messageType = errorType → ErrorFits o) :
    Limited (observePostgresServerMessage sink o messageType payload) := by
  have limited := observePostgresOperationResponse_limited bounded payload fits
  have kept := observePostgresOperationResponse_kept o messageType payload
  obtain ⟨_, moved, ⟨-, same⟩ | ⟨_, failed⟩⟩ :=
    observePostgresServerMessage_cases sink o messageType payload
  · rw [same]
    exact fun _ => (limited (kept.fatal.trans unfailed)).moved moved
  · rw [failed]
    exact failDecision_limited _ _

end

/-! ## The server loop -/

/-- An ErrorResponse that stands complete at the head of the server buffer is harmless. -/
def ResponseFits (o : PostgresObserver) : Prop :=
  o.serverStream = none → 5 ≤ o.serverBuf.length → frameLength o.serverBuf ≤ o.serverBuf.length →
    o.serverBuf.headD 0 = errorType → ErrorFits o

theorem fillServer_limited (bounded : Bounded relaying.observer) :
    PassLimited (fillServer sink relaying) := by
  unfold fillServer
  dsimp only
  split
  · exact fun _ => bounded
  · split
    · exact failDecision_limited _ _
    · exact fun _ => bounded.of_measured rfl

theorem handleBufferedResponse_limited (total : ℕ) (bounded : Bounded relaying.observer)
    (unfailed : relaying.observer.fatal = none)
    (fits : relaying.observer.serverBuf.headD 0 = errorType → ErrorFits relaying.observer) :
    PassLimited (handleBufferedResponse sink total relaying) := by
  unfold handleBufferedResponse
  dsimp only
  split
  · exact failDecision_limited _ _
  have limited : Limited (observePostgresServerMessage sink relaying.observer
      (relaying.observer.serverBuf.headD 0) ((relaying.observer.serverBuf.take total).drop 5)) :=
    observePostgresServerMessage_limited bounded unfailed _ fits
  split
  · exact limited
  · rename_i going
    have bounded := limited going
    exact fun _ => bounded.of_measured rfl

theorem serverPass_limited
    (inside : ServerInside sink start data relaying) (fits : ResponseFits relaying.observer)
    (limited : Limited relaying.observer) : PassLimited (serverPass sink relaying) := by
  have bounded := limited inside.unfailed
  unfold serverPass
  dsimp only
  split
  · split
    all_goals exact fun _ => bounded.of_measured rfl
  rename_i closed
  have none_open : relaying.observer.serverStream = none := by simpa using closed
  split
  · exact fillServer_limited bounded
  rename_i header
  split
  · exact failDecision_limited _ _
  split
  · split
    · exact failDecision_limited _ _
    · exact fun _ => bounded.of_measured rfl
  split
  · exact fillServer_limited bounded
  · rename_i complete
    exact handleBufferedResponse_limited _ bounded inside.unfailed
      (fits none_open (Nat.le_of_not_lt header) (Nat.le_of_not_lt complete))

/-! ## Runs -/

/-- Whenever a pass of the call ends a streamed frame there is room for its message, and whenever
a pass reads an ErrorResponse it is harmless. -/
def CallFits (sink : QuerySink) (budget : Option ObserverMemoryBudget) (o : PostgresObserver) :
    RelayCall → Prop
  | .client data =>
    o.fatal = none → ∀ relaying, Loop.Visits
      (clientPass sink budget (normalizeMaxClientMessageBytes o.maxClientMessageBytes))
      { observer := o, data := data, forward := [] } relaying →
        StreamRoom relaying.observer relaying.data
  | .server data =>
    o.fatal = none → ∀ relaying, Loop.Visits (serverPass sink)
      { observer := o, data := data, forward := [] } relaying → ResponseFits relaying.observer
  | .abort _ => True

theorem observeClientRelayBytes_limited (ready : ClientReady sink o) (limited : Limited o)
    (fits : CallFits sink budget o (.client data)) :
    Limited (observeClientRelayBytes sink budget o data).observer := by
  cases failed : o.fatal with
  | some =>
    rw [observeClientRelayBytes_failed budget failed]
    exact limited
  | none =>
    have initially : ClientInside sink o { observer := o, data := data, forward := [] } :=
      ⟨.refl, by simp, ready, failed, id⟩
    simp only [observeClientRelayBytes, failed]
    split
    · exact limited
    · exact Loop.run_keeps (fun relaying inside => inside.clientPass budget _)
        (fun relaying visited inside kept =>
          clientPass_limited inside _ (fits failed relaying visited) kept) initially limited

theorem observeServerRelayBytes_limited (ready : ServerReady o) (limited : Limited o)
    (fits : CallFits sink budget o (.server data)) :
    Limited (observeServerRelayBytes sink o data).observer := by
  cases failed : o.fatal with
  | some =>
    rw [observeServerRelayBytes_failed failed]
    exact limited
  | none =>
    have initially : ServerInside sink o data { observer := o, data := data, forward := [] } :=
      ⟨.refl, rfl, ready, failed⟩
    simp only [observeServerRelayBytes, failed]
    split
    · exact limited
    · exact Loop.run_keeps (fun relaying inside => inside.serverPass)
        (fun relaying visited inside kept =>
          serverPass_limited inside (fits failed relaying visited) kept) initially limited

theorem run_limited (sink : QuerySink) (budget : Option ObserverMemoryBudget)
    (maxClientMessageBytes : Int) {calls : List RelayCall}
    (fits : Session.Meets (relay sink budget) (CallFits sink budget)
      { observer := new maxClientMessageBytes } calls) :
    Limited (Session.run (relay sink budget) { observer := new maxClientMessageBytes }
      calls).observer := by
  refine (Session.run_meeting (relay sink budget)
    (fun session => SessionSound sink session ∧ Limited session.observer) ?_
    ⟨new_sessionSound sink _, fun _ => new_bounded _⟩ fits).2
  rintro session call fits ⟨sound, limited⟩
  cases call with
  | client data =>
    exact ⟨sound.client_call sink budget data,
      observeClientRelayBytes_limited sound.client limited fits⟩
  | server data =>
    exact ⟨sound.server_call sink budget data,
      observeServerRelayBytes_limited sound.server limited fits⟩
  | abort code => exact ⟨sound.abort_call sink budget code, failDecision_limited _ _⟩

/-- In every run whose calls fit, an observer that has not failed is within its limits. -/
theorem run_within_limits (sink : QuerySink) (budget : Option ObserverMemoryBudget)
    (maxClientMessageBytes : Int) (calls : List RelayCall)
    (fits : Session.Meets (relay sink budget) (CallFits sink budget)
      { observer := new maxClientMessageBytes } calls) :
    let o := (Session.run (relay sink budget) { observer := new maxClientMessageBytes }
      calls).observer
    o.fatal = none → o.operations.length ≤ maxPostgresPendingOperations ∧
        o.pending.length ≤ maxObserverPendingQueries ∧
        postgresPreparedStateWithinLimit (o.preparedStatements, o.portals) o.auditStateLimit =
          true := by
  intro o unfailed
  have bounded : Bounded o := run_limited sink budget maxClientMessageBytes fits unfailed
  exact ⟨bounded.operations, bounded.pending, bounded.confirmed⟩

instance {β : Type} [DecidableEq β] (big small : AList fun _ : Bytes => β) :
    Decidable (Extends big small) :=
  decidable_of_iff (∀ entry ∈ small.entries, big.lookup entry.1 = some entry.2)
    ⟨fun kept name value found => kept ⟨name, value⟩ (AList.mem_lookup_iff.mp found),
      fun larger entry member => larger entry.1 entry.2 (AList.mem_lookup_iff.mpr member)⟩

instance (big small : PreparedStatements × Portals) : Decidable (Covers big small) :=
  decidable_of_iff (Extends big.1 small.1 ∧ Extends big.2 small.2)
    ⟨fun both => ⟨both.1, both.2⟩, fun covers => ⟨covers.statements, covers.portals⟩⟩

instance (o : PostgresObserver) : Decidable (ErrorFits o) :=
  inferInstanceAs (Decidable (_ ∨ _ ∨ (∀ operation ∈ _, _) ∨ _))

instance (o : PostgresObserver) : Decidable (ResponseFits o) :=
  inferInstanceAs (Decidable (_ → _ → _ → _ → _))

/-- A call fits if the states that its passes go through do. -/
theorem callFits_of_states {call : RelayCall} (fuel : ℕ) (checked : match call with
      | .client data =>
        let body := clientPass sink budget (normalizeMaxClientMessageBytes o.maxClientMessageBytes)
        let first : Relaying PostgresObserver := { observer := o, data := data, forward := [] }
        (Loop.iterate body fuel first).isSome ∧
          ∀ relaying ∈ Loop.states body fuel first, relaying.observer.clientStream.isNone
      | .server data =>
        let first : Relaying PostgresObserver := { observer := o, data := data, forward := [] }
        (Loop.iterate (serverPass sink) fuel first).isSome ∧
          ∀ relaying ∈ Loop.states (serverPass sink) fuel first, ResponseFits relaying.observer
      | .abort _ => True) : CallFits sink budget o call := by
  cases call with
  | client data =>
    intro _ relaying visited stream opened
    have unopened := checked.2 relaying (Loop.mem_states checked.1 visited)
    rw [opened] at unopened
    cases unopened
  | server data =>
    intro _ relaying visited
    exact checked.2 relaying (Loop.mem_states checked.1 visited)
  | abort => trivial

/-- A statement is parsed; then the server rejects a Bind and an Execute of it, and accepts the
Parse behind their Sync. -/
def rejectedBind : List RelayCall :=
  [.client [80, 0, 0, 0, 10, 97, 0, 65, 0, 0, 0], .server [49, 0, 0, 0, 4],
    .client ([66, 0, 0, 0, 14, 112, 0, 97, 0, 0, 0, 0, 0, 0, 0] ++
      [69, 0, 0, 0, 10, 112, 0, 0, 0, 0, 0] ++ [83, 0, 0, 0, 4] ++
      [80, 0, 0, 0, 10, 98, 0, 66, 0, 0, 0]),
    .server ([69, 0, 0, 0, 5, 0] ++ [90, 0, 0, 0, 5, 73] ++ [49, 0, 0, 0, 4])]

theorem run_within_limits_rejectedBind :
    let o := (Session.run (relay countingSink none) { observer := new 64 } rejectedBind).observer
    o.preparedStatements.entries.map Sigma.fst = [[98], [97]] ∧
      o.operations.length ≤ maxPostgresPendingOperations ∧
      o.pending.length ≤ maxObserverPendingQueries ∧
      postgresPreparedStateWithinLimit (o.preparedStatements, o.portals) o.auditStateLimit =
        true := by
  refine ⟨by decide +kernel, run_within_limits countingSink none 64 rejectedBind
    ⟨?_, ?_, ?_, ?_, trivial⟩ (by decide +kernel)⟩
  · exact callFits_of_states 9 (by decide +kernel)
  · exact callFits_of_states 9 (by decide +kernel)
  · exact callFits_of_states 20 (by decide +kernel)
  · exact callFits_of_states 20 (by decide +kernel)

/-- Two statements whose names do not fit together: the second is parsed in the same flight as the
first is closed. -/
def discardedClose : List RelayCall :=
  [.client [80, 0, 0, 0, 21, 97, 97, 97, 97, 97, 97, 97, 97, 97, 97, 97, 97, 97, 0, 0, 0, 0],
    .server [49, 0, 0, 0, 4],
    .client ([67, 0, 0, 0, 19, 83, 97, 97, 97, 97, 97, 97, 97, 97, 97, 97, 97, 97, 97, 0] ++
      [83, 0, 0, 0, 4] ++
      [80, 0, 0, 0, 21, 98, 98, 98, 98, 98, 98, 98, 98, 98, 98, 98, 98, 98, 0, 0, 0, 0]),
    .server ([69, 0, 0, 0, 5, 0] ++ [90, 0, 0, 0, 5, 73] ++ [49, 0, 0, 0, 4])]

/-- The Close is rejected, so both statements are kept. -/
theorem run_exceeds_limits :
    let o := (Session.run (relay countingSink none) { observer := new 24 } discardedClose).observer
    o.fatal = none ∧
      postgresPreparedStateWithinLimit (o.preparedStatements, o.portals) o.auditStateLimit =
        false := by
  decide +kernel

end PostgresObserver
end Jianmen.DBProxy
