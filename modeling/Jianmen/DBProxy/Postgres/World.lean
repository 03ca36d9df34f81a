import Jianmen.DBProxy.Postgres.Flight

/-!
# Runs with a backend

A rule for invariants of runs in which the client, the backend and the network take their steps
in any order.  What holds while the observer follows the connection is stated over the whole
frames that are ahead of it; what is only about the operations it accepted and the queries it
started holds after it has failed, too.
-/

namespace Jianmen.DBProxy

open Postgres Pipeline List World

namespace PostgresObserver

variable {sink : QuerySink} {o o₁ o' start : PostgresObserver} {new : List FrontendMessage}

/-- The messages of the frames let through whole. -/
def messages (o : PostgresObserver) : List FrontendMessage :=
  (o.wholeSent.map frameMessage).filter (· != .other)

/-! ## Client moves -/

/-- A client move that accepts nothing: captures, denied starts, buffered or forwarded bytes. -/
structure Idle (o o' : PostgresObserver) : Prop where
  operations : o'.operations = o.operations
  accepted : o'.accepted = o.accepted
  preparedStatements : o'.preparedStatements = o.preparedStatements
  portals : o'.portals = o.portals
  cycles : o'.cycles = o.cycles
  openCycle : o'.openCycle = o.openCycle
  pending : o'.pending = o.pending
  fatal : o'.fatal = o.fatal
  serverBuf : o'.serverBuf = o.serverBuf
  serverStream : o'.serverStream = o.serverStream
  calls : ∃ more, o'.calls = o.calls ++ more ∧ allowedStarts more = [] ∧ finishAttempts more = []

/-- The traces that outlive a failure are as they were. -/
structure TraceKept (o o' : PostgresObserver) : Prop where
  accepted : o'.accepted = o.accepted
  starts : allowedStarts o'.calls = allowedStarts o.calls

theorem TraceKept.refl (o : PostgresObserver) : TraceKept o o :=
  ⟨rfl, rfl⟩

theorem TraceKept.trans {o₂ : PostgresObserver} (first : TraceKept o o₁)
    (second : TraceKept o₁ o₂) : TraceKept o o₂ :=
  ⟨second.accepted.trans first.accepted, second.starts.trans first.starts⟩

variable {o o' : PostgresObserver} {message : FrontendMessage} {bytes : Bytes}

theorem Idle.trace (idle : Idle o o') : TraceKept o o' := by
  obtain ⟨_, calls, starts, -⟩ := idle.calls
  exact ⟨idle.accepted, by rw [calls, allowedStarts_append, starts, append_nil]⟩

theorem Idle.called (o : PostgresObserver) {more : List SinkCall}
    (starts : allowedStarts more = []) (attempts : finishAttempts more = []) :
    Idle o (o.called more) :=
  ⟨rfl, rfl, rfl, rfl, rfl, rfl, rfl, rfl, rfl, rfl, more, rfl, starts, attempts⟩

/-- A client move accepts one message, or none, or fails the observer. -/
inductive ClientStep (sink : QuerySink) (o o' : PostgresObserver) : Prop where
  | idle (idle : Idle o o') (messages : o'.messages = o.messages)
  | accept {message : FrontendMessage} {o₁ o₂ : PostgresObserver} (before : Idle o o₁)
      (unfailed : o.fatal = none) (tracked : message ≠ .other)
      (accepts : Accepts sink message o₁ o₂) (after : Idle o₂ o')
      (messages : o'.messages = o.messages ++ [message])
  | fail (failed : o'.fatal.isSome) (trace : TraceKept o o') (messages : o'.messages = o.messages)

theorem failDecision_trace (o : PostgresObserver) (decision : QueryDecision) :
    TraceKept o (o.failDecision sink decision).1 := by
  obtain ⟨_, calls, quiet, -⟩ := failDecision_calls sink o decision
  exact ⟨rfl, by rw [calls, allowedStarts_append, quiet.allowedStarts, append_nil]⟩

/-- Observing the message of a frame that is then let through to its end. -/
private theorem Observes.step {frame : Bytes}
    (unfailed : o.fatal = none) (observes : Observes sink (frameMessage frame) o o₁)
    (after : Idle o₁ o') (whole : o'.wholeSent = o.wholeSent ++ [frame]) :
    ClientStep sink o o' := by
  obtain ⟨more, quiet, accepts⟩ := observes
  have before : Idle o (o.called more) := .called o quiet.1.allowedStarts quiet.2
  have messages : o'.messages = o.messages ++ [frameMessage frame].filter (· != .other) := by
    simp [messages, whole]
  cases message : frameMessage frame == .other with
  | true =>
    rw [beq_iff_eq] at message
    rw [message] at accepts messages
    cases accepts with
    | other =>
      obtain ⟨later, calls, starts, attempts⟩ := after.calls
      refine .idle ⟨after.operations, after.accepted, after.preparedStatements, after.portals,
        after.cycles, after.openCycle, after.pending, after.fatal, after.serverBuf,
        after.serverStream, more ++ later, ?_, ?_, ?_⟩ (by simpa using messages)
      · rw [calls, called_calls, append_assoc]
      · rw [allowedStarts_append, quiet.1.allowedStarts, starts, append_nil]
      · rw [finishAttempts_append, quiet.2, attempts, append_nil]
  | false =>
    refine .accept before unfailed (by simpa using message) accepts after ?_
    rw [messages]
    simp [bne, message]

theorem ClientMove.step (move : ClientMove sink o o') : ClientStep sink o o' := by
  have same : ∀ {o o' : PostgresObserver}, o'.wholeSent = o.wholeSent → o'.messages = o.messages := by
    intro o o' whole
    rw [messages, whole, messages]
  cases move with
  | @buffer buffer stream leases released more quiet =>
    exact .idle ⟨rfl, rfl, rfl, rfl, rfl, rfl, rfl, rfl, rfl, rfl, more, rfl,
      quiet.1.allowedStarts, quiet.2⟩ rfl
  | begin part =>
    exact .idle ⟨rfl, rfl, rfl, rfl, rfl, rfl, rfl, rfl, rfl, rfl, [], by simp [send], rfl, rfl⟩
      (same (by simp [wholeSent, send]))
  | extend last part =>
    exact .idle ⟨rfl, rfl, rfl, rfl, rfl, rfl, rfl, rfl, rfl, rfl, [], by simp, rfl, rfl⟩
      (same (by simp [wholeSent, last]))
  | whole unfailed proper observes =>
    obtain ⟨-, -, -, sent, -⟩ := observes.same sink
    exact observes.step unfailed
      ⟨rfl, rfl, rfl, rfl, rfl, rfl, rfl, rfl, rfl, rfl, [], by simp [send], rfl, rfl⟩
      (by simp [wholeSent, send, sent])
  | complete unfailed last proper observes =>
    exact observes.step unfailed
      ⟨rfl, rfl, rfl, rfl, rfl, rfl, rfl, rfl, rfl, rfl, [], by simp, rfl, rfl⟩
      (by simp [wholeSent, last])
  | refuse refuses =>
    obtain ⟨sent, -⟩ := refuses.same sink
    have messages : o'.messages = o.messages := same (by simp [wholeSent, sent])
    cases refuses with
    | @failed more last decision quiet last_quiet =>
      refine .fail rfl ?_ messages
      have before : TraceKept o (o.called more) :=
        (Idle.called o quiet.1.allowedStarts quiet.2).trace
      have after : TraceKept ((o.called more).failDecision sink decision).1 _ :=
        (Idle.called _ last_quiet.1.allowedStarts last_quiet.2).trace
      exact (before.trans (failDecision_trace _ decision)).trans after
    | @denied more sql detail outcome decision quiet unallowed refused =>
      refine .idle (.called o ?_ ?_) messages
      · rw [allowedStarts_append, quiet.1.allowedStarts, unallowed.allowedStarts, append_nil]
      · rw [finishAttempts_append, quiet.2]
        rfl

/-! ## The rule for invariants -/

/-- The operations a message list was queued as, and nothing else, came to the queue since
`start`. -/
structure Since (start : PostgresObserver) (new : List FrontendMessage) (o : PostgresObserver) :
    Prop where
  queued : ∃ entries, o.accepted = start.accepted ++ entries ∧
    o.operations = start.operations ++ entries.map AcceptedOperation.operation ∧
    List.Forall₂ (fun message entry => Matches message entry.operation) new entries
  preparedStatements : o.preparedStatements = start.preparedStatements
  portals : o.portals = start.portals
  serverBuf : o.serverBuf = start.serverBuf
  serverStream : o.serverStream = start.serverStream

/-- What the steps of a world keep.  `flying` is kept while the observer follows the connection,
`settled` always.  `allowed` restricts what the client sends: it is asked about a message with the
backend and the observer as they were when the client's chunk arrived, and the messages in front
of it in that chunk. -/
structure Tracking (sink : QuerySink)
    (allowed : Backend → PostgresObserver → List FrontendMessage → FrontendMessage → Prop)
    (flying : Backend → List FrontendMessage → PostgresObserver → List Bytes → Prop)
    (settled : Backend → List FrontendMessage → PostgresObserver → Prop) : Prop where
  frames : ∀ {b : Backend} {messages : List FrontendMessage}, b.Coherent messages →
    FrameInvariant sink (flying b messages)
  idle : ∀ {b : Backend} {messages : List FrontendMessage} {o o' : PostgresObserver}
    {frames : List Bytes}, Idle o o' → flying b messages o frames → flying b messages o' frames
  accept : ∀ {b : Backend} {messages new : List FrontendMessage} {start o o' : PostgresObserver}
    {frames : List Bytes} {message : FrontendMessage}, b.Coherent messages → Since start new o →
    o.fatal = none → allowed b start new message → message ≠ .other →
    Accepts sink message o o' → flying b messages o frames → settled b messages o →
    flying b (messages ++ [message]) o' frames ∧ settled b (messages ++ [message]) o'
  handle : ∀ {b b' : Backend} {messages : List FrontendMessage} {o : PostgresObserver}
    {frames answer : List Bytes} {message : FrontendMessage}, b.Coherent messages →
    messages[b.handled.length]? = some message → b.Handles message answer b' →
    flying b messages o frames → flying b' messages o (frames ++ answer)
  notice : ∀ {b : Backend} {messages : List FrontendMessage} {o : PostgresObserver}
    {frames : List Bytes} {frame : Bytes}, isNeutral (frameType frame) = true →
    flying b messages o frames → flying b messages o (frames ++ [frame])
  forget : ∀ {b b' : Backend} {messages : List FrontendMessage} {o : PostgresObserver}
    {frames : List Bytes}, b.Forgets b' → flying b messages o frames → flying b' messages o frames
  trace : ∀ {b : Backend} {messages : List FrontendMessage} {o o' : PostgresObserver},
    TraceKept o o' → settled b messages o → settled b messages o'
  handle_settled : ∀ {b b' : Backend} {messages : List FrontendMessage} {o : PostgresObserver}
    {answer : List Bytes} {message : FrontendMessage}, b.Coherent messages →
    messages[b.handled.length]? = some message → b.Handles message answer b' →
    settled b messages o → settled b' messages o
  forget_settled : ∀ {b b' : Backend} {messages : List FrontendMessage} {o : PostgresObserver},
    b.Forgets b' → settled b messages o → settled b' messages o

theorem Accepts.queued (accepts : Accepts sink message o o') (tracked : message ≠ .other) :
    ∃ entry, Matches message entry.operation ∧ o'.accepted = o.accepted ++ [entry] ∧
      o'.operations = o.operations ++ [entry.operation] := by
  cases accepts with
  | parse =>
    refine ⟨_, ?_, rfl, rfl⟩
    rfl
  | bind =>
    refine ⟨_, ?_, rfl, rfl⟩
    exact ⟨rfl, rfl⟩
  | close =>
    refine ⟨_, ?_, rfl, rfl⟩
    exact ⟨rfl, rfl⟩
  | other => exact absurd rfl tracked
  | query | execute | describe | sync =>
    refine ⟨_, ?_, rfl, rfl⟩
    trivial

theorem Accepts.names (accepts : Accepts sink message o o') :
    o'.preparedStatements = o.preparedStatements ∧ o'.portals = o.portals ∧
      o'.serverBuf = o.serverBuf ∧ o'.serverStream = o.serverStream ∧ o'.fatal = o.fatal := by
  cases accepts <;> exact ⟨rfl, rfl, rfl, rfl, rfl⟩

theorem Since.refl (o : PostgresObserver) : Since o [] o :=
  ⟨⟨[], by simp, by simp, .nil⟩, rfl, rfl, rfl, rfl⟩

theorem Since.idle (since : Since start new o) (idle : Idle o o') : Since start new o' := by
  obtain ⟨⟨entries, accepted, operations, same⟩, statements, portals, buffer, stream⟩ := since
  exact ⟨⟨entries, idle.accepted.trans accepted, idle.operations.trans operations, same⟩,
    idle.preparedStatements.trans statements, idle.portals.trans portals,
    idle.serverBuf.trans buffer, idle.serverStream.trans stream⟩

theorem Since.accept
    (since : Since start new o) (tracked : message ≠ .other) (accepts : Accepts sink message o o') :
    Since start (new ++ [message]) o' := by
  obtain ⟨⟨entries, accepted, operations, same⟩, statements, portals, buffer, stream⟩ := since
  obtain ⟨entry, matched, more, queue⟩ := accepts.queued tracked
  obtain ⟨names, bindings, kept_buffer, kept_stream, -⟩ := accepts.names
  refine ⟨⟨entries ++ [entry], ?_, ?_, rel_append same (.cons matched .nil)⟩,
    names.trans statements, bindings.trans portals, kept_buffer.trans buffer,
    kept_stream.trans stream⟩
  · rw [more, accepted, append_assoc]
  · rw [queue, operations, map_append, append_assoc, map_singleton]

section Rule

variable {allowed : Backend → PostgresObserver → List FrontendMessage → FrontendMessage → Prop}
  {flying : Backend → List FrontendMessage → PostgresObserver → List Bytes → Prop}
  {settled : Backend → List FrontendMessage → PostgresObserver → Prop} {b : Backend}
  {start o : PostgresObserver} {frames : List Bytes}

/-- What is known in the middle of a client call, if what was accepted so far was allowed. -/
structure Midway (allowed : Backend → PostgresObserver → List FrontendMessage →
      FrontendMessage → Prop)
    (flying : Backend → List FrontendMessage → PostgresObserver → List Bytes → Prop)
    (settled : Backend → List FrontendMessage → PostgresObserver → Prop) (b : Backend)
    (start : PostgresObserver) (frames : List Bytes) (o : PostgresObserver) : Prop where
  new : ∃ new, o.messages = start.messages ++ new ∧
    ((∀ earlier message later, new = earlier ++ message :: later →
        allowed b start earlier message) →
      settled b o.messages o ∧
        (o.fatal = none → Since start new o ∧ flying b o.messages o frames))

theorem Midway.step (tracking : Tracking sink allowed flying settled)
    {o' : PostgresObserver} (coherent : b.Coherent start.messages)
    (midway : Midway allowed flying settled b start frames o) (step : ClientStep sink o o') :
    Midway allowed flying settled b start frames o' := by
  obtain ⟨new, messages, holds⟩ := midway
  cases step with
  | idle idle same =>
    refine ⟨new, same.trans messages, fun all => ?_⟩
    obtain ⟨settled, flies⟩ := holds all
    rw [same]
    refine ⟨tracking.trace idle.trace settled, fun unfailed => ?_⟩
    obtain ⟨since, flying⟩ := flies (idle.fatal.symm.trans unfailed)
    exact ⟨since.idle idle, tracking.idle idle flying⟩
  | @accept message o₁ o₂ before was_unfailed tracked accepts after more =>
    refine ⟨new ++ [message], by rw [more, messages, append_assoc], fun all => ?_⟩
    obtain ⟨settled, flies⟩ := holds fun earlier sent later split =>
      all earlier sent (later ++ [message]) (by rw [split]; simp)
    obtain ⟨since, flying⟩ := flies was_unfailed
    have current : b.Coherent o.messages := messages ▸ coherent.arrive new
    obtain ⟨next, done⟩ := tracking.accept current (since.idle before)
      (before.fatal.trans was_unfailed) (all new message [] rfl) tracked accepts
      (tracking.idle before flying) (tracking.trace before.trace settled)
    rw [more]
    exact ⟨tracking.trace after.trace done, fun _ =>
      ⟨((since.idle before).accept tracked accepts).idle after, tracking.idle after next⟩⟩
  | fail failed trace same =>
    refine ⟨new, same.trans messages, fun all => ?_⟩
    rw [same]
    refine ⟨tracking.trace trace (holds all).1, fun unfailed => ?_⟩
    simp [unfailed] at failed

theorem ClientMoves.midway (tracking : Tracking sink allowed flying settled)
    (coherent : b.Coherent start.messages) (done : settled b start.messages start)
    (flies : start.fatal = none → flying b start.messages start frames)
    (moves : ClientMoves sink start o) : Midway allowed flying settled b start frames o := by
  induction moves with
  | refl =>
    exact ⟨[], by simp, fun _ => ⟨done, fun unfailed => ⟨.refl start, flies unfailed⟩⟩⟩
  | tail _ move ih => exact ih.step tracking coherent move.step

end Rule

/-! ## Server moves -/

theorem ServerMove.trace (move : ServerMove sink o bytes o') : TraceKept o o' := by
  cases move with
  | buffer => exact ⟨rfl, rfl⟩
  | stream => exact ⟨rfl, rfl⟩
  | chunk => exact ⟨rfl, rfl⟩
  | fail decision => exact failDecision_trace o decision
  | answer =>
    obtain ⟨_, calls, quiet⟩ :=
      observePostgresServerMessage_calls sink o (bytes.headD 0) (bytes.drop 5)
    refine ⟨?_, by rw [calls, allowedStarts_append, quiet.allowedStarts, append_nil]⟩
    obtain ⟨_, kept, same | ⟨decision, failed⟩⟩ :=
      (observePostgresServerMessage_kept o (bytes.headD 0) (bytes.drop 5) : KeptOrFailed sink o _)
    · rw [same]
      exact kept.accepted
    · rw [failed]
      exact kept.accepted

theorem ServerMoves.trace (moves : ServerMoves sink o bytes o') : TraceKept o o' := by
  induction moves with
  | refl => exact .refl _
  | tail _ move ih => exact ih.trans move.trace

theorem ServerMoves.messages (moves : ServerMoves sink o bytes o') : o'.messages = o.messages := by
  rw [PostgresObserver.messages, wholeSent, moves.client.1]
  rfl

end PostgresObserver

/-! ## Worlds -/

namespace World

open PostgresObserver

/-- The messages the client sends in a step are allowed. -/
def Follows
    (allowed : Backend → PostgresObserver → List FrontendMessage → FrontendMessage → Prop)
    (w w' : World) : Prop :=
  ∀ earlier message later, w'.messages = w.messages ++ (earlier ++ message :: later) →
    allowed w.backend w.observer earlier message

/-- What every step keeps. -/
structure Tracked (sink : QuerySink)
    (flying : Backend → List FrontendMessage → PostgresObserver → List Bytes → Prop)
    (settled : Backend → List FrontendMessage → PostgresObserver → Prop) (w : World) : Prop where
  session : SessionSound sink w.session
  earlier : ∀ frame ∈ w.observer.sent.dropLast, frame.whole = true
  aligned : w.stopped = false → w.observer.fatal = none → Aligned w.observer
  coherent : w.backend.Coherent w.observer.messages
  settled : settled w.backend w.observer.messages w.observer
  flying : w.observer.fatal = none →
    Ahead (flying w.backend w.observer.messages) w.observer (w.observer.serverBuf ++ w.outbox)

section Rule

variable {sink : QuerySink} {budget : Option ObserverMemoryBudget}
  {allowed : Backend → PostgresObserver → List FrontendMessage → FrontendMessage → Prop}
  {flying : Backend → List FrontendMessage → PostgresObserver → List Bytes → Prop}
  {settled : Backend → List FrontendMessage → PostgresObserver → Prop} {w w' : World}
  {maxClientMessageBytes : Int}

/-- The backend reads the messages the observer let through. -/
theorem Tracked.messages (tracked : Tracked sink flying settled w) :
    w.messages = w.observer.messages := by
  unfold World.messages PostgresObserver.messages
  rw [tracked.session.bytes, tracked.session.audits.framed.wholeFrames_sentBytes tracked.earlier]

section

variable (tracking : Tracking sink allowed flying settled) (tracked : Tracked sink flying settled w)
include tracking tracked

/-- A step that ends with the observer failed and lets nothing through. -/
theorem Tracked.failed (session : SessionSound sink w'.session)
    (sent : w'.observer.sent = w.observer.sent) (trace : TraceKept w.observer w'.observer)
    (backend : w'.backend = w.backend) (failed : w'.observer.fatal.isSome) :
    Tracked sink flying settled w' := by
  have messages : w'.observer.messages = w.observer.messages := by
    rw [PostgresObserver.messages, wholeSent, sent]
    rfl
  refine ⟨session, ?_, fun _ unfailed => ?_, ?_, ?_, fun unfailed => ?_⟩
  · rw [sent]
    exact tracked.earlier
  · simp [unfailed] at failed
  · rw [messages, backend]
    exact tracked.coherent
  · rw [messages, backend]
    exact tracking.trace trace tracked.settled
  · simp [unfailed] at failed

theorem Tracked.client (data : Bytes) (going : w.stopped = false)
    (session : w'.session = w.session.act (relay sink budget) (.client data))
    (stopped : w'.stopped = (observeClientRelayBytes sink budget w.observer data).decision.isSome)
    (backend : w'.backend = w.backend) (outbox : w'.outbox = w.outbox)
    (follows : Follows allowed w w') : Tracked sink flying settled w' := by
  have sound : SessionSound sink w'.session := session ▸ tracked.session.client_call sink budget data
  have observer : w'.observer = (observeClientRelayBytes sink budget w.observer data).observer := by
    rw [observer, session]
    rfl
  cases failed : w.observer.fatal with
  | some decision =>
    rw [observeClientRelayBytes_failed budget failed data] at observer
    exact tracked.failed tracking sound (by rw [observer]) (by rw [observer]; exact .refl _)
      backend (by rw [observer, failed]; rfl)
  | none =>
    have relayed := observeClientRelayBytes_relayed budget tracked.session.client failed data
    obtain ⟨frames, proper, ⟨rest, bytes, left⟩, flies⟩ := tracked.flying failed
    have aligned := tracked.aligned going failed
    obtain ⟨new, messages, holds⟩ := ClientMoves.midway tracking tracked.coherent
      tracked.settled (fun _ => flies) relayed.moves
    have earlier : ∀ frame ∈ w'.observer.sent.dropLast, frame.whole :=
      observer ▸ relayed.earlier aligned
    have reads : w'.messages = w'.observer.messages := by
      unfold World.messages PostgresObserver.messages
      rw [sound.bytes, sound.audits.framed.wholeFrames_sentBytes earlier]
    obtain ⟨done, flight⟩ := holds fun first message later split => by
      apply follows first message later
      rw [reads, observer, messages, split, tracked.messages]
    rw [← observer, ← backend] at done flight
    rw [← observer] at messages
    refine ⟨sound, earlier, fun continues _ => ?_, ?_, done, fun unfailed => ?_⟩
    · rw [observer]
      apply relayed.aligned aligned
      rw [stopped] at continues
      simpa using continues
    · rw [messages, backend]
      exact tracked.coherent.arrive new
    · obtain ⟨since, flies⟩ := flight unfailed
      refine ⟨frames, proper, ⟨rest, ?_, ?_⟩, flies⟩
      · rw [since.serverBuf, outbox]
        exact bytes
      · rw [since.serverStream]
        exact left

theorem Tracked.server {data rest : Bytes} (arrives : w.outbox = data ++ rest)
    (session : w'.session = w.session.act (relay sink budget) (.server data))
    (stopped : w'.stopped = w.stopped) (backend : w'.backend = w.backend)
    (outbox : w'.outbox = rest) : Tracked sink flying settled w' := by
  have sound : SessionSound sink w'.session := session ▸ tracked.session.server_call sink budget data
  have observer : w'.observer = (observeServerRelayBytes sink w.observer data).observer := by
    rw [observer, session]
    rfl
  cases failed : w.observer.fatal with
  | some decision =>
    rw [observeServerRelayBytes_failed failed data] at observer
    exact tracked.failed tracking sound (by rw [observer]) (by rw [observer]; exact .refl _)
      backend (by rw [observer, failed]; rfl)
  | none =>
    have relayed : ServerRelayed sink w.observer data
        (observeServerRelayBytes sink w.observer data) :=
      observeServerRelayBytes_relayed tracked.session.server failed data
    obtain ⟨_, _, moves, bytes, undecided⟩ := relayed.moves
    have fatal := relayed.fatal
    rw [← observer] at moves undecided fatal
    cases still : w'.observer.fatal with
    | some decision =>
      exact tracked.failed tracking sound moves.client.1 moves.trace backend (by
        rw [still]
        rfl)
    | none =>
      obtain ⟨rfl, rfl⟩ := undecided (fatal.symm.trans still)
      obtain ⟨sent, kept⟩ := moves.client
      obtain ⟨-, stream, -⟩ := kept still
      have messages := moves.messages
      refine ⟨sound, ?_, fun continues _ => ?_, ?_, ?_, fun _ => ?_⟩
      · rw [sent]
        exact tracked.earlier
      · have aligned := tracked.aligned (stopped ▸ continues) failed
        exact ⟨by rw [sent]; exact aligned.earlier, by rw [sent, stream]; exact aligned.all⟩
      · rw [messages, backend]
        exact tracked.coherent
      · rw [messages, backend]
        exact tracking.trace moves.trace tracked.settled
      · rw [messages, backend]
        have ahead := tracked.flying failed
        rw [arrives, ← append_assoc, bytes, append_nil, append_assoc] at ahead
        rw [append_nil] at moves
        rw [outbox]
        exact moves.ahead (tracking.frames tracked.coherent) still ahead

end

/-- A step of the backend that the observer has not seen yet. -/
theorem Tracked.behind (tracked : Tracked sink flying settled w) (session : w'.session = w.session)
    (stopped : w'.stopped = w.stopped)
    (coherent : w'.backend.Coherent w.observer.messages)
    (done : settled w'.backend w.observer.messages w.observer) {answer : List Bytes}
    (proper : ∀ frame ∈ answer, IsFrame frame) (outbox : w'.outbox = w.outbox ++ answer.flatten)
    (flies : ∀ frames, flying w.backend w.observer.messages w.observer frames →
      flying w'.backend w.observer.messages w.observer (frames ++ answer)) :
    Tracked sink flying settled w' := by
  have observer : w'.observer = w.observer := by rw [observer, session]
  refine ⟨session ▸ tracked.session, ?_, ?_, ?_, ?_, ?_⟩
  all_goals rw [observer]
  · exact tracked.earlier
  · rw [stopped]
    exact tracked.aligned
  · exact coherent
  · exact done
  · intro unfailed
    obtain ⟨frames, whole, ⟨rest, bytes, left⟩, flight⟩ := tracked.flying unfailed
    refine ⟨frames ++ answer, forall_mem_append.mpr ⟨whole, proper⟩, ⟨rest, ?_, left⟩,
      flies frames flight⟩
    rw [outbox, ← append_assoc, bytes, flatten_append, append_assoc]

theorem Tracked.step (tracking : Tracking sink allowed flying settled)
    (tracked : Tracked sink flying settled w) (step : Step sink budget w w')
    (follows : Follows allowed w w') : Tracked sink flying settled w' := by
  cases step with
  | client data going => exact tracked.client tracking data going rfl rfl rfl rfl follows
  | server arrives => exact tracked.server tracking arrives rfl rfl rfl rfl
  | abort code =>
    exact tracked.failed tracking (tracked.session.abort_call sink budget code) rfl
      (failDecision_trace _ _) rfl rfl
  | handle next handles proper =>
    rw [tracked.messages] at next
    exact tracked.behind rfl rfl (tracked.coherent.handle next handles)
      (tracking.handle_settled tracked.coherent next handles tracked.settled) proper rfl
      fun _ => tracking.handle tracked.coherent next handles
  | forget forgets =>
    refine tracked.behind rfl rfl (tracked.coherent.forget forgets)
      (tracking.forget_settled forgets tracked.settled)
      (by simp : ∀ frame ∈ ([] : List Bytes), IsFrame frame) (by simp) ?_
    intro frames flies
    rw [append_nil]
    exact tracking.forget forgets flies
  | @notice frame proper neutral =>
    exact tracked.behind rfl rfl tracked.coherent tracked.settled
      (by simpa using proper : ∀ next ∈ [frame], IsFrame next) (by simp) fun _ => tracking.notice
        neutral

/-- A run in which the client sends only what is allowed. -/
abbrev Run (sink : QuerySink) (budget : Option ObserverMemoryBudget)
    (allowed : Backend → PostgresObserver → List FrontendMessage → FrontendMessage → Prop) :
    World → World → Prop :=
  Relation.ReflTransGen fun w w' => Step sink budget w w' ∧ Follows allowed w w'

theorem new_tracked (done : settled {} [] (PostgresObserver.new maxClientMessageBytes))
    (flies : flying {} [] (PostgresObserver.new maxClientMessageBytes) []) :
    Tracked sink flying settled (new maxClientMessageBytes) where
  session := new_sessionSound sink maxClientMessageBytes
  earlier := by simp [new, PostgresObserver.new]
  aligned _ _ := ⟨by simp [new, PostgresObserver.new], by
    simp [new, PostgresObserver.new]⟩
  coherent := ⟨.nil, nil_prefix, by simp [new], by simp [new]⟩
  settled := done
  flying _ := ⟨[], by simp, ⟨[], rfl, rfl⟩, flies⟩

/-- What holds of a fresh connection and is kept by every step holds in every run. -/
theorem Run.tracked (tracking : Tracking sink allowed flying settled)
    (done : settled {} [] (PostgresObserver.new maxClientMessageBytes))
    (flies : flying {} [] (PostgresObserver.new maxClientMessageBytes) [])
    (run : Run sink budget allowed (new maxClientMessageBytes) w) :
    Tracked sink flying settled w := by
  induction run with
  | refl => exact new_tracked done flies
  | tail _ step ih => exact ih.step tracking step.1 step.2

end Rule
end World
end Jianmen.DBProxy
