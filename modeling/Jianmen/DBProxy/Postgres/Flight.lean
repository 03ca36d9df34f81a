import Jianmen.DBProxy.Postgres.Backend

/-!
# Operations in flight

The observer's queue holds the last operations it accepted.  The responses that have not reached
it yet are those to the operations in the queue that the backend is done with, in order, and the
operations that an error takes off the queue are dead.  One thing can upset this: after an error
that was observed before the Sync behind it was sent, a Query that the backend discards would take
the ReadyForQuery of that Sync.
-/

namespace Jianmen.DBProxy

open Postgres Pipeline List PostgresObserver Option

/-! ## Significant frames -/

/-- The frames that answer something. -/
def significant (frames : List Bytes) : List Bytes :=
  frames.filter fun frame => !isNeutral (frameType frame)

@[simp] theorem significant_nil : significant [] = [] := rfl

@[simp] theorem significant_append (first second : List Bytes) :
    significant (first ++ second) = significant first ++ significant second :=
  filter_append ..

variable {frame : Bytes} {frames : List Bytes} {messageType : MessageType}

theorem significant_cons_neutral (neutral : isNeutral (frameType frame))
    (rest : List Bytes) : significant (frame :: rest) = significant rest := by
  simp [significant, neutral]

theorem significant_cons (telling : isNeutral (frameType frame) = false) (rest : List Bytes) :
    significant (frame :: rest) = frame :: significant rest := by
  simp [significant, telling]

theorem significant_neutral (neutral : ∀ frame ∈ frames, isNeutral (frameType frame)) :
    significant frames = [] := by
  simpa [significant] using neutral

theorem significant_of_forall {p : Bytes → Prop} (all : ∀ f ∈ frames, p f) :
    ∀ f ∈ significant frames, p f ∧ isNeutral (frameType f) = false := by
  intro frame member
  obtain ⟨listed, telling⟩ := mem_filter.mp member
  exact ⟨all frame listed, by simpa using telling⟩

variable {message : FrontendMessage} {answer : List Bytes}

/-- The response that completes a message is significant. -/
theorem FrontendMessage.completedBy_telling (completes : message.completedBy messageType) :
    isNeutral messageType = false := by
  cases message <;>
    simp only [FrontendMessage.completedBy, Bool.or_eq_true, beq_iff_eq] at completes
  all_goals
    rcases completes with (rfl | rfl) | rfl
    all_goals decide

theorem IsAnswer.significant_carriedOut (answers : IsAnswer message .carriedOut answer) :
    ∃ before last, significant answer = before ++ [last] ∧
      (∀ frame ∈ before, message.accompaniedBy (frameType frame) ∧
        isNeutral (frameType frame) = false) ∧
      message.completedBy (frameType last) := by
  cases answers with
  | @carriedOut before after last accompanies completes neutral =>
    refine ⟨significant before, last, ?_, significant_of_forall accompanies, completes⟩
    rw [significant_append, significant_cons (FrontendMessage.completedBy_telling completes),
      significant_neutral neutral]

theorem IsAnswer.significant_rejected (answers : IsAnswer message .rejected answer) :
    ∃ last, significant answer = [last] ∧ frameType last = errorType := by
  cases answers with
  | @rejected before after last accompanies fails neutral =>
    refine ⟨last, ?_, fails⟩
    have telling : isNeutral (frameType last) = false := by
      rw [fails]
      decide
    rw [significant_append, significant_neutral accompanies, significant_cons telling,
      significant_neutral neutral, nil_append]

theorem IsAnswer.significant_discarded (answers : IsAnswer message .discarded answer) :
    significant answer = [] := by
  cases answers with
  | discarded neutral => exact significant_neutral neutral

/-! ## Bytes and frames -/

/-- Two streams that start with a frame start with the same one. -/
theorem IsFrame.append_inj {first second rest other : Bytes} (proper : IsFrame first)
    (other_proper : IsFrame second) (same : first ++ rest = second ++ other) :
    first = second ∧ rest = other := by
  have lengths : first.length = second.length := by
    rw [← proper.length_append rest, same, other_proper.length_append]
  exact List.append_inj same lengths

namespace PostgresObserver

variable {sink : QuerySink} {bytes more : Bytes} {invariant : PostgresObserver → List Bytes → Prop}
  {o o' : PostgresObserver}

/-- The bytes ahead are what is left of a streamed frame, and whole frames. -/
def Unread (o : PostgresObserver) (bytes : Bytes) (frames : List Bytes) : Prop :=
  ∃ rest, bytes = rest ++ frames.flatten ∧ rest.length = o.serverStream.getD 0

/-- The whole frames ahead, with what else holds of the observer and them. -/
def Ahead (invariant : PostgresObserver → List Bytes → Prop) (o : PostgresObserver)
    (bytes : Bytes) : Prop :=
  ∃ frames, (∀ frame ∈ frames, IsFrame frame) ∧ o.Unread bytes frames ∧ invariant o frames

/-- What is kept when the observer takes the next frame, skips a frame that answers nothing, or
only buffers. -/
structure FrameInvariant (sink : QuerySink)
    (invariant : PostgresObserver → List Bytes → Prop) : Prop where
  answer : ∀ {o : PostgresObserver} {frame : Bytes} {frames : List Bytes}, o.fatal = none →
    invariant o (frame :: frames) →
    (observePostgresServerMessage sink o (frameType frame) (frame.drop 5)).fatal = none →
    invariant (observePostgresServerMessage sink o (frameType frame) (frame.drop 5)) frames
  skip : ∀ {o : PostgresObserver} {frame : Bytes} {frames : List Bytes},
    isNeutral (frameType frame) = true → invariant o (frame :: frames) → invariant o frames
  buffer : ∀ {o : PostgresObserver} (buffer : Bytes) (stream : Option ℕ) {frames : List Bytes},
    invariant o frames → invariant { o with serverBuf := buffer, serverStream := stream } frames

/-- A streamed frame answers nothing. -/
theorem canStreamPostgresBackendFrame_neutral
    (streamable : canStreamPostgresBackendFrame messageType) :
    isNeutral messageType := by
  simp only [canStreamPostgresBackendFrame, Bool.or_eq_true, beq_iff_eq] at streamable
  rcases streamable with rfl | rfl
  all_goals decide

/-- Frames in front of which some bytes of a frame stand start with that frame. -/
private theorem first_frame (proper : ∀ frame ∈ frames, IsFrame frame)
    (nonempty : 0 < bytes.length) (same : bytes ++ more = frames.flatten) :
    ∃ first rest, frames = first :: rest ∧ IsFrame first ∧
      bytes ++ more = first ++ rest.flatten := by
  cases frames with
  | nil =>
    have := congrArg length same
    simp only [length_append, flatten_nil, length_nil] at this
    omega
  | cons first rest => exact ⟨first, rest, rfl, proper first (by simp), by simpa using same⟩

theorem ServerMove.ahead (keeps : FrameInvariant sink invariant) {chunk : Bytes}
    (move : ServerMove sink o chunk o') (unfailed : o'.fatal = none)
    (ahead : Ahead invariant o (chunk ++ more)) : Ahead invariant o' more := by
  obtain ⟨frames, proper, ⟨rest, bytes, left⟩, holds⟩ := ahead
  cases move with
  | buffer buffer =>
    exact ⟨frames, proper, ⟨rest, bytes, left⟩, keeps.buffer buffer o.serverStream holds⟩
  | answer frame_proper was_unfailed none_open =>
    rw [none_open, getD_none, length_eq_zero_iff] at left
    subst left
    obtain ⟨first, others, rfl, first_proper, same⟩ :=
      first_frame proper frame_proper.nonempty bytes
    obtain ⟨rfl, rest_same⟩ := frame_proper.append_inj first_proper same
    have kept := observePostgresServerMessage_unfailed unfailed
    refine ⟨others, fun frame member => proper frame (by simp [member]),
      ⟨[], by simpa using rest_same, ?_⟩, keeps.answer was_unfailed holds unfailed⟩
    rw [kept.serverStream, none_open]
    rfl
  | stream length none_open streamable =>
    rw [none_open, getD_none, length_eq_zero_iff] at left
    subst left
    obtain ⟨first, others, rfl, first_proper, same⟩ :=
      first_frame proper (by omega : 0 < chunk.length) bytes
    have header : chunk = first.take 5 := by
      have taken := congrArg (take 5) same
      rwa [take_append_of_le_length (by omega), take_of_length_le (by omega),
        take_append_of_le_length first_proper.1] at taken
    have behind : more = first.drop 5 ++ others.flatten := by
      have dropped := congrArg (drop 5) same
      rwa [← length, drop_left, length, drop_append_of_le_length first_proper.1] at dropped
    have total : frameLength chunk = first.length := by
      have whole := first_proper.2
      rw [← take_append_drop 5 first, ← header] at whole
      rw [frameLength_append (by omega), header, take_append_drop] at whole
      rw [header]
      exact whole.symm
    have neutral : isNeutral (frameType first) := by
      have type : chunk.headD 0 = frameType first := by
        rw [header]
        cases first with
        | nil => rfl
        | cons _ bytes => rfl
      rw [← type]
      exact canStreamPostgresBackendFrame_neutral streamable
    refine ⟨others, fun frame member => proper frame (by simp [member]),
      ⟨first.drop 5, behind, ?_⟩, ?_⟩
    · simp [total]
    · exact keeps.buffer o.serverBuf _ (keeps.skip neutral holds)
  | @chunk remaining opened _ within =>
    rw [opened, getD_some] at left
    have behind : more = rest.drop chunk.length ++ frames.flatten := by
      have dropped := congrArg (drop chunk.length) bytes
      rwa [drop_left, drop_append_of_le_length (by omega)] at dropped
    refine ⟨frames, proper, ⟨rest.drop chunk.length, behind, ?_⟩, keeps.buffer o.serverBuf _ holds⟩
    simp only [length_drop, left]
    split
    · next finished => simp [finished]
    · simp
  | fail => cases unfailed

/-- Server moves take frames from what is ahead. -/
theorem ServerMoves.ahead (keeps : FrameInvariant sink invariant)
    (moves : ServerMoves sink o bytes o') (unfailed : o'.fatal = none)
    (ahead : Ahead invariant o (bytes ++ more)) : Ahead invariant o' more := by
  induction moves generalizing more with
  | refl => exact ahead
  | tail _ move ih =>
    rw [append_assoc] at ahead
    refine move.ahead keeps unfailed (ih ?_ ahead)
    obtain ⟨-, -, ⟨-, -, fatal⟩ | ⟨-, -, failed⟩⟩ := move.client
    · exact fatal.symm.trans unfailed
    · simp [unfailed] at failed

/-! ## Responses -/

/-- An operation is queued for a message. -/
def Matches : FrontendMessage → PostgresFrontendOperation → Prop
  | .query _, .query => True
  | .parse name _, .parse known _ => name = known
  | .bind portal statement, .bind known binding => portal = known ∧ statement = binding.statement
  | .execute _, .execute => True
  | .close target name, .close aimed known => target = aimed ∧ name = known
  | .describe, .describe => True
  | .sync, .sync => True
  | _, _ => False

theorem Matches.isSync {message : FrontendMessage} {operation : PostgresFrontendOperation}
    (same : Matches message operation) : message.isSync = (operation == .sync) := by
  cases message <;> cases operation <;> simp_all [Matches, FrontendMessage.isSync]

section Response

variable {o : PostgresObserver} {message : FrontendMessage}
  {operation : PostgresFrontendOperation} {rest : List PostgresFrontendOperation}
  {messageType : MessageType} (payload : Bytes)

/-- A frame that answers nothing changes nothing. -/
theorem response_neutral (neutral : isNeutral messageType) :
    o.observePostgresOperationResponse messageType payload = (o, none) := by
  simp only [isNeutral, contains_cons, Bool.not_eq_true', Bool.or_eq_false_iff,
    beq_eq_false_iff_ne] at neutral
  simp [observePostgresOperationResponse, neutral]

/-- What comes before the completing response of a Query changes nothing. -/
theorem response_query (queue : o.operations = .query :: rest)
    (accompanies : FrontendMessage.accompaniedBy (.query []) messageType) :
    o.observePostgresOperationResponse messageType payload = (o, none) := by
  cases neutral : isNeutral messageType with
  | true => exact response_neutral payload neutral
  | false =>
    simp only [FrontendMessage.accompaniedBy, neutral, Bool.false_or, contains_cons,
      contains_nil, Bool.or_false, Bool.or_eq_true, beq_iff_eq] at accompanies
    rcases accompanies with rfl | rfl | rfl | rfl | rfl
    all_goals
      simp +decide [observePostgresOperationResponse, rejectCurrentPostgresOperation, queue]

section

variable (queue : o.operations = operation :: rest)
include queue

theorem completeOperation_head (text : String) : o.completeOperation operation.messageType text =
      ({ o with
          preparedStatements :=
            (applyPostgresStateOperation (o.preparedStatements, o.portals) operation).1
          portals := (applyPostgresStateOperation (o.preparedStatements, o.portals) operation).2
          operations := rest }, none) := by
  simp [completeOperation, queue]

theorem completeReadyForQuery_head (boundary : operation = .query ∨ operation = .sync) :
    o.completeReadyForQuery payload = ({ o with
          preparedStatements :=
            (applyPostgresStateOperation (o.preparedStatements, o.portals) operation).1
          portals := if payload = [idleStatus] then ∅
            else (applyPostgresStateOperation (o.preparedStatements, o.portals) operation).2
          operations := rest }, none) := by
  simp [completeReadyForQuery, queue, if_pos boundary]

/-- The completing response takes its operation off the queue. -/
theorem response_completing (same : Matches message operation)
    (completes : message.completedBy messageType) :
    ∃ portals, o.observePostgresOperationResponse messageType payload = ({ o with
            preparedStatements :=
              (applyPostgresStateOperation (o.preparedStatements, o.portals) operation).1
            portals := portals
            operations := rest }, none) ∧
      (portals = (applyPostgresStateOperation (o.preparedStatements, o.portals) operation).2 ∨
        portals = ∅) := by
  have state : ∀ expected text, o.observePostgresOperationResponse messageType payload =
        o.completeOperation expected text → operation.messageType = expected →
      ∃ portals, o.observePostgresOperationResponse messageType payload = ({ o with
              preparedStatements :=
                (applyPostgresStateOperation (o.preparedStatements, o.portals) operation).1
              portals := portals
              operations := rest }, none) ∧
        (portals = (applyPostgresStateOperation (o.preparedStatements, o.portals) operation).2 ∨
          portals = ∅) := by
    rintro expected text response rfl
    exact ⟨_, response.trans (completeOperation_head queue text), .inl rfl⟩
  have ready : operation = .query ∨ operation = .sync →
      o.observePostgresOperationResponse messageType payload = o.completeReadyForQuery payload →
      ∃ portals, o.observePostgresOperationResponse messageType payload = ({ o with
              preparedStatements :=
                (applyPostgresStateOperation (o.preparedStatements, o.portals) operation).1
              portals := portals
              operations := rest }, none) ∧
        (portals = (applyPostgresStateOperation (o.preparedStatements, o.portals) operation).2 ∨
          portals = ∅) := by
    intro boundary response
    refine ⟨_, response.trans (completeReadyForQuery_head payload queue boundary), ?_⟩
    split
    · exact .inr rfl
    · exact .inl rfl
  cases message <;> cases operation <;> try cases same
  case query.query =>
    simp only [FrontendMessage.completedBy, beq_iff_eq] at completes
    subst completes
    exact ready (.inl rfl) (by simp +decide [observePostgresOperationResponse, queue])
  case sync.sync =>
    simp only [FrontendMessage.completedBy, beq_iff_eq] at completes
    subst completes
    exact ready (.inr rfl) (by simp +decide [observePostgresOperationResponse, queue])
  all_goals
    simp only [FrontendMessage.completedBy, Bool.or_eq_true, beq_iff_eq] at completes
    rcases completes with (rfl | rfl) | rfl
    all_goals
      refine state _ _ (by
        simp +decide [observePostgresOperationResponse, queue]
        rfl) rfl

/-- An error takes everything up to the next Sync off the queue. -/
theorem response_error (same : Matches message operation) (extended : message.isExtended) :
    o.observePostgresOperationResponse errorType payload =
      ({ o with operations := o.operations.dropWhile (· != .sync) }, none) := by
  cases message <;> cases operation <;> try cases same
  all_goals first
    | exact absurd extended Bool.false_ne_true
    | simp [observePostgresOperationResponse, rejectCurrentPostgresOperation, queue]

/-- A message of the extended protocol has no ReadyForQuery. -/
theorem response_ready (same : Matches message operation) (extended : message.isExtended) :
    (o.observePostgresOperationResponse readyForQueryType payload).2 ≠ none := by
  cases message <;> cases operation <;> try cases same
  all_goals first
    | exact absurd extended Bool.false_ne_true
    | simp +decide [observePostgresOperationResponse, completeReadyForQuery, queue]

end

/-- An error is no answer to a Sync. -/
theorem response_error_sync (queue : o.operations = .sync :: rest) :
    (o.observePostgresOperationResponse errorType payload).2 ≠ none := by
  simp [observePostgresOperationResponse, rejectCurrentPostgresOperation, queue]

end Response

/-- The operations and the names are as they were. -/
structure ProtocolKept (o o' : PostgresObserver) : Prop where
  operations : o'.operations = o.operations
  preparedStatements : o'.preparedStatements = o.preparedStatements
  portals : o'.portals = o.portals

theorem ProtocolKept.refl (o : PostgresObserver) : ProtocolKept o o :=
  ⟨rfl, rfl, rfl⟩

/-- Unless the observer fails, a server message does to the operations and the names what its
response does. -/
theorem observePostgresServerMessage_protocol {payload : Bytes}
    (unfailed : (observePostgresServerMessage sink o messageType payload).fatal = none) :
    (o.observePostgresOperationResponse messageType payload).2 = none ∧
      ProtocolKept (o.observePostgresOperationResponse messageType payload).1
        (observePostgresServerMessage sink o messageType payload) := by
  obtain ⟨_, moved, ⟨undecided, same⟩ | ⟨_, failed⟩⟩ :=
    observePostgresServerMessage_cases sink o messageType payload
  · refine ⟨undecided, ?_⟩
    rw [same]
    obtain ⟨_, _, _, _, rfl⟩ := moved.same
    exact ⟨rfl, rfl, rfl⟩
  · rw [failed] at unfailed
    cases unfailed

end PostgresObserver

/-! ## Coherent backends -/

namespace Backend

/-- The backend is done with the first messages, has answered each of them, and skips after an
error. -/
structure Coherent (b : Backend) (messages : List FrontendMessage) : Prop where
  log : Log FrontendMessage.isSync b.fates b.skipping
  reads : b.handled.map Handled.message <+: messages
  answers : ∀ handled ∈ b.handled, IsAnswer handled.message handled.fate handled.answer
  extended : ∀ handled ∈ b.handled, handled.fate = .rejected → handled.message.isExtended = true

/-- Message number `i` is dead. -/
def DeadAt (b : Backend) (messages : List FrontendMessage) (i : ℕ) : Prop :=
  Dead FrontendMessage.isSync b.fates b.skipping messages i

/-- The significant frames of the answers from message number `i` on. -/
def telling (b : Backend) (i : ℕ) : List Bytes :=
  (b.handled.drop i).flatMap fun handled => significant handled.answer

variable {b : Backend} {messages : List FrontendMessage} {handled : Handled} {i : ℕ}

@[simp] theorem fates_length (b : Backend) : b.fates.length = b.handled.length := by
  simp [fates]

theorem fates_get (present : b.handled[i]? = some handled) :
    b.fates[i]? = some (handled.message, handled.fate) := by
  simp [fates, present]

theorem telling_of_get (present : b.handled[i]? = some handled) :
    b.telling i = significant handled.answer ++ b.telling (i + 1) := by
  obtain ⟨bound, rfl⟩ := List.getElem?_eq_some_iff.mp present
  unfold telling
  rw [drop_eq_getElem_cons bound, flatMap_cons]

theorem telling_of_none (absent : b.handled.length ≤ i) : b.telling i = [] := by
  simp [telling, drop_eq_nil_of_le absent]

/-- Answers that tell nothing can be left out. -/
theorem telling_skip {j : ℕ} (order : i ≤ j)
    (silent : ∀ k next, i ≤ k → k < j → b.handled[k]? = some next → significant next.answer = []) :
    b.telling i = b.telling j := by
  induction j, order using Nat.le_induction with
  | base => rfl
  | succ j order ih =>
    rw [ih fun k next above below => silent k next above (by omega)]
    cases present : b.handled[j]? with
    | none =>
      have absent := getElem?_eq_none_iff.mp present
      rw [telling_of_none absent, telling_of_none (by omega)]
    | some next => rw [telling_of_get present, silent j next order (by omega) present, nil_append]

section

variable (coherent : b.Coherent messages) (present : b.handled[i]? = some handled)
include coherent present

theorem Coherent.message_at : messages[i]? = some handled.message := by
  obtain ⟨_, rfl⟩ := coherent.reads
  rw [getElem?_append_left]
  · simp [present]
  · simpa using (List.getElem?_eq_some_iff.mp present).1

theorem Coherent.answer_at : IsAnswer handled.message handled.fate handled.answer :=
  coherent.answers handled (mem_of_getElem? present)

/-- The log split at a message. -/
private theorem Coherent.log_at : Log FrontendMessage.isSync
      (b.fates.take i ++ (handled.message, handled.fate) :: b.fates.drop (i + 1)) b.skipping := by
  have log := coherent.log
  obtain ⟨bound, same⟩ := List.getElem?_eq_some_iff.mp (fates_get present)
  rw [← take_append_drop i b.fates, drop_eq_getElem_cons bound, same] at log
  exact log

/-- A Sync is never discarded. -/
theorem Coherent.discarded_ordinary (discarded : handled.fate = .discarded) :
    handled.message.isSync = false := by
  have log := coherent.log_at present
  rw [append_cons] at log
  obtain ⟨_, shorter⟩ := log.of_append
  obtain ⟨_, -, step⟩ := shorter.snoc_inv
  rw [discarded] at step
  cases step with
  | discard ordinary => exact ordinary

/-- Nothing is skipped right behind a message that was carried out. -/
theorem Coherent.after_success (carried : handled.fate = .carriedOut) :
    (b.handled.length = i + 1 → b.skipping = false) ∧
      ∀ next, b.handled[i + 1]? = some next → next.fate ≠ .discarded := by
  have log := coherent.log_at present
  rw [carried] at log
  obtain ⟨last, following⟩ := log.after_success
  refine ⟨fun length => last ?_, fun next listed => ?_⟩
  · rw [drop_eq_nil_of_le (by simp [length])]
  · obtain ⟨bound, same⟩ := List.getElem?_eq_some_iff.mp (fates_get listed)
    exact following (next.message, next.fate) (b.fates.drop (i + 1 + 1)) (by
      rw [drop_eq_getElem_cons bound, same])

/-- Behind a message that failed, everything before the next Sync is discarded, and if there is
none yet, the backend is skipping. -/
theorem Coherent.after_failure (failed : handled.fate ≠ .carriedOut) {limit : ℕ}
    (ordinary : ∀ k message, i < k → k < limit → messages[k]? = some message →
      message.isSync = false) :
    (∀ k next, i < k → k < limit → b.handled[k]? = some next → next.fate = .discarded) ∧
      (b.handled.length ≤ limit → b.skipping) := by
  have log := coherent.log_at present
  have between : ∃ skipping, Log FrontendMessage.isSync (b.fates.take i ++
      (handled.message, handled.fate) :: (b.fates.drop (i + 1)).take (limit - (i + 1))) skipping ∧
      (b.handled.length ≤ limit → skipping = b.skipping) := by
    by_cases all : b.handled.length ≤ limit
    · have whole : (b.fates.drop (i + 1)).take (limit - (i + 1)) = b.fates.drop (i + 1) :=
        take_of_length_le (by
          simp only [length_drop, fates_length]
          omega)
      rw [whole]
      exact ⟨_, log, fun _ => rfl⟩
    · rw [← take_append_drop (limit - (i + 1)) (b.fates.drop (i + 1)), ← cons_append,
        ← append_assoc] at log
      obtain ⟨skipping, shorter⟩ := log.of_append
      exact ⟨skipping, shorter, fun within => (all within).elim⟩
  obtain ⟨skipping, shorter, same⟩ := between
  have nextSync : ∀ later ∈ (b.fates.drop (i + 1)).take (limit - (i + 1)),
      later.1.isSync = false := by
    intro later member
    obtain ⟨k, listed⟩ := mem_iff_getElem?.mp member
    rw [getElem?_take] at listed
    split at listed
    · rw [getElem?_drop, fates, getElem?_map, map_eq_some_iff] at listed
      obtain ⟨next, found, rfl⟩ := listed
      exact ordinary _ _ (by omega) (by omega) (coherent.message_at found)
    · cases listed
  obtain ⟨discarded, skips⟩ := shorter.after_failure failed nextSync
  refine ⟨fun k next above below found => ?_, fun all => (same all).symm.trans skips⟩
  refine discarded (next.message, next.fate) (mem_iff_getElem?.mpr ⟨k - (i + 1), ?_⟩)
  rw [getElem?_take, if_pos (by omega), getElem?_drop,
    show i + 1 + (k - (i + 1)) = k by omega]
  exact fates_get found

end

variable {message : FrontendMessage} {b' : Backend} {answer : List Bytes}

theorem ordinary_of_extended (extended : message.isExtended) : message.isSync = false := by
  cases message <;> simp_all [FrontendMessage.isExtended, FrontendMessage.isSync]

/-- What working off a message adds to the log. -/
theorem Handles.entry (handles : b.Handles message answer b') :
    ∃ fate, b'.handled = b.handled ++ [⟨message, fate, answer⟩] ∧ IsAnswer message fate answer ∧
      Pipeline.Step FrontendMessage.isSync b.skipping (message, fate) b'.skipping ∧
      (fate = .rejected → message.isExtended) := by
  cases handles with
  | discard skips ordinary answers =>
    exact ⟨.discarded, rfl, answers, skips ▸ .discard ordinary, by simp⟩
  | reject going extended answers =>
    exact ⟨.rejected, rfl, answers, going ▸ .reject (ordinary_of_extended extended),
      fun _ => extended⟩
  | sync answers => exact ⟨.carriedOut, rfl, answers, .carryOut fun _ => rfl, by simp⟩
  | execute going known runs answers =>
    rcases runs with rfl | rfl
    · exact ⟨.carriedOut, rfl, answers, going ▸ .carryOut (by simp), by simp⟩
    · exact ⟨.rejected, rfl, answers, going ▸ .reject rfl, fun _ => rfl⟩
  | query going answers => exact ⟨.carriedOut, rfl, answers, going ▸ .carryOut (by simp), by simp⟩
  | parse going answers => exact ⟨.carriedOut, rfl, answers, going ▸ .carryOut (by simp), by simp⟩
  | bind going known answers =>
    exact ⟨.carriedOut, rfl, answers, going ▸ .carryOut (by simp), by simp⟩
  | close going answers => exact ⟨.carriedOut, rfl, answers, going ▸ .carryOut (by simp), by simp⟩
  | describe going answers =>
    exact ⟨.carriedOut, rfl, answers, going ▸ .carryOut (by simp), by simp⟩

theorem Coherent.handle (coherent : b.Coherent messages)
    (next : messages[b.handled.length]? = some message) (handles : b.Handles message answer b') :
    b'.Coherent messages := by
  obtain ⟨fate, logged, answers, step, extended⟩ := handles.entry
  have fates : b'.fates = b.fates ++ [(message, fate)] := by simp [Backend.fates, logged]
  refine ⟨?_, ?_, ?_, ?_⟩
  · rw [fates]
    exact coherent.log.snoc step
  · obtain ⟨rest, rfl⟩ := coherent.reads
    rw [getElem?_append_right (by simp)] at next
    simp only [length_map, Nat.sub_self] at next
    cases rest with
    | nil => cases next
    | cons _ others =>
      cases next
      exact ⟨others, by simp [logged]⟩
  · rw [logged]
    exact forall_mem_append.mpr ⟨coherent.answers, forall_mem_singleton.mpr answers⟩
  · rw [logged]
    exact forall_mem_append.mpr ⟨coherent.extended, forall_mem_singleton.mpr extended⟩

theorem Coherent.arrive (coherent : b.Coherent messages) (more : List FrontendMessage) :
    b.Coherent (messages ++ more) :=
  { coherent with reads := coherent.reads.trans (prefix_append _ _) }

theorem Coherent.forget (coherent : b.Coherent messages) (forgets : b.Forgets b') :
    b'.Coherent messages := by
  obtain ⟨handled, skipping, -, -, -⟩ := forgets
  refine ⟨?_, ?_, ?_, ?_⟩
  · rw [fates, handled, skipping]
    exact coherent.log
  · rw [handled]
    exact coherent.reads
  · rw [handled]
    exact coherent.answers
  · rw [handled]
    exact coherent.extended

theorem DeadAt.handle (dead : b.DeadAt messages i)
    (next : messages[b.handled.length]? = some message) (handles : b.Handles message answer b') :
    b'.DeadAt messages i := by
  obtain ⟨fate, logged, -, step, -⟩ := handles.entry
  have fates : b'.fates = b.fates ++ [(message, fate)] := by simp [Backend.fates, logged]
  unfold DeadAt
  rw [fates]
  exact dead.step (by simpa using next) step

end Backend
/-! ## The queue and the answers on their way -/

namespace PostgresObserver

variable {sink : QuerySink}

/-- The number of the operation at the head of the queue. -/
def answered (o : PostgresObserver) : ℕ :=
  o.accepted.length - o.operations.length

/-- Message number `i` is one the backend has skipped or is going to skip. -/
def Skipped (b : Backend) (i : ℕ) (message : FrontendMessage) : Prop :=
  (∃ handled, b.handled[i]? = some handled ∧ handled.fate = .discarded) ∨
    (b.handled.length ≤ i ∧ b.skipping = true ∧ message.isSync = false)

/-- The queue holds the last operations; what the backend still has to read before it is going to
be skipped; a skipped operation at its head is of the extended protocol; and the frames ahead
answer what is in the queue. -/
structure InFlight (b : Backend) (messages : List FrontendMessage) (o : PostgresObserver)
    (frames : List Bytes) : Prop where
  queued : o.operations = (o.accepted.drop o.answered).map AcceptedOperation.operation
  matched : List.Forall₂ (fun message entry => Matches message entry.operation) messages o.accepted
  waiting : b.handled.length < o.answered → b.skipping = true ∧
    ∀ k message, b.handled.length ≤ k → k < o.answered → messages[k]? = some message →
      message.isSync = false
  safe : ∀ message, messages[o.answered]? = some message → Skipped b o.answered message →
    message.isExtended = true
  ahead : ∃ consumed, b.telling o.answered = consumed ++ significant frames ∧
    (consumed = [] ∨ ∃ handled, b.handled[o.answered]? = some handled ∧
      consumed <+: (significant handled.answer).dropLast)

section Position

variable {b : Backend} {messages : List FrontendMessage} {o : PostgresObserver}
  {frames : List Bytes}

variable {o' : PostgresObserver} {frames' : List Bytes} {message : FrontendMessage}
  {handled : Handled} {payload : Bytes} {messageType : MessageType} {b' : Backend}

section

variable (flight : InFlight b messages o frames) {k : ℕ}
include flight

theorem InFlight.advance (operations : o'.operations = o.operations)
    (accepted : o'.accepted = o.accepted)
    (ahead : ∃ consumed, b.telling o.answered = consumed ++ significant frames' ∧
      (consumed = [] ∨ ∃ handled, b.handled[o.answered]? = some handled ∧
        consumed <+: (significant handled.answer).dropLast)) : InFlight b messages o' frames' := by
  have answered : o'.answered = o.answered := by simp [answered, operations, accepted]
  refine ⟨?_, ?_, ?_, ?_, ?_⟩
  · rw [operations, accepted, answered]
    exact flight.queued
  · rw [accepted]
    exact flight.matched
  · rw [answered]
    exact flight.waiting
  · rw [answered]
    exact flight.safe
  · rw [answered]
    exact ahead

theorem InFlight.of_same (operations : o'.operations = o.operations)
    (accepted : o'.accepted = o.accepted) (same : significant frames' = significant frames) :
    InFlight b messages o' frames' :=
  flight.advance operations accepted (same ▸ flight.ahead)

theorem InFlight.answered_le : o.answered + o.operations.length = o.accepted.length := by
  have lengths := congrArg length flight.queued
  simp only [length_map, length_drop] at lengths
  have : o.answered = o.accepted.length - o.operations.length := rfl
  omega

/-- The queued operation for a message. -/
theorem InFlight.operation_at (present : messages[o.answered + k]? = some message) :
    ∃ operation, o.operations[k]? = some operation ∧ Matches message operation := by
  have lengths := flight.matched.length_eq
  obtain ⟨bound, rfl⟩ := List.getElem?_eq_some_iff.mp present
  have within : o.answered + k < o.accepted.length := by omega
  refine ⟨(o.accepted.get ⟨_, within⟩).operation, ?_,
    (forall₂_iff_get.mp flight.matched).2 _ bound within⟩
  rw [flight.queued, getElem?_map, getElem?_drop, getElem?_eq_getElem within]
  rfl

theorem InFlight.head (present : messages[o.answered]? = some message) :
    ∃ operation rest, o.operations = operation :: rest ∧ Matches message operation := by
  obtain ⟨operation, first, same⟩ := flight.operation_at (k := 0) present
  cases queue : o.operations with
  | nil => simp [queue] at first
  | cons head rest =>
    rw [queue] at first
    obtain rfl := some.inj first
    exact ⟨head, rest, rfl, same⟩

/-- The number of the first Sync in the queue, or of the operation behind the queue. -/
def nextSync (o : PostgresObserver) : ℕ :=
  o.answered + (o.operations.takeWhile (· != .sync)).length

theorem InFlight.before_sync (above : o.answered ≤ k) (below : k < o.nextSync)
    (present : messages[k]? = some message) : message.isSync = false := by
  obtain ⟨j, rfl⟩ := Nat.exists_eq_add_of_le above
  obtain ⟨operation, listed, same⟩ := flight.operation_at present
  have within : j < (o.operations.takeWhile (· != .sync)).length := by
    unfold nextSync at below
    omega
  rw [same.isSync]
  have taken : (o.operations.takeWhile (· != .sync))[j]? = some operation := by
    rw [← takeWhile_append_dropWhile (p := (· != PostgresFrontendOperation.sync))
      (l := o.operations), getElem?_append_left within] at listed
    exact listed
  have other := mem_takeWhile_imp (mem_of_getElem? taken)
  simpa using other

theorem InFlight.at_sync (present : messages[o.nextSync]? = some message) :
    message.isSync := by
  obtain ⟨_, listed, same⟩ := flight.operation_at present
  rw [same.isSync]
  have parts := takeWhile_append_dropWhile (p := (· != PostgresFrontendOperation.sync))
    (l := o.operations)
  cases rest : o.operations.dropWhile (· != .sync) with
  | nil =>
    rw [rest, append_nil] at parts
    rw [parts, getElem?_eq_none (Nat.le_refl _)] at listed
    cases listed
  | cons =>
    rw [rest] at parts
    rw [← parts, getElem?_append_right (by rw [parts])] at listed
    rw [parts, Nat.sub_self] at listed
    cases listed
    have nonempty : o.operations.dropWhile (· != .sync) ≠ [] := by simp [rest]
    have stop := head_dropWhile_not (· != PostgresFrontendOperation.sync) nonempty
    simpa [rest] using stop

end

section

variable (coherent : b.Coherent messages) (flight : InFlight b messages o frames)
  (present : b.handled[o.answered]? = some handled)
include coherent flight present

/-- Behind a failed operation, an error brings the queue to the next Sync, and what it takes off
is dead. -/
theorem InFlight.after_error (failed : handled.fate ≠ .carriedOut)
    (operations : o'.operations = o.operations.dropWhile (· != .sync))
    (accepted : o'.accepted = o.accepted)
    (ahead : ∃ consumed, b.telling o.nextSync = consumed ++ significant frames' ∧
      (consumed = [] ∨ ∃ next, b.handled[o.nextSync]? = some next ∧
        consumed <+: (significant next.answer).dropLast)) :
    InFlight b messages o' frames' ∧ o'.answered = o.nextSync ∧
      ∀ i, o.answered ≤ i → i < o.nextSync → b.DeadAt messages i := by
  have order := flight.answered_le
  have split : (o.operations.takeWhile (· != .sync)).length +
      (o.operations.dropWhile (· != .sync)).length = o.operations.length := by
    rw [← length_append, takeWhile_append_dropWhile]
  have answered : o'.answered = o.nextSync := by
    simp only [answered, operations, accepted, nextSync] at order ⊢
    omega
  have bound : o.nextSync ≤ messages.length := by
    rw [flight.matched.length_eq, nextSync]
    omega
  obtain ⟨discarded, skips⟩ := coherent.after_failure present failed fun k message above below =>
    flight.before_sync (by omega) below
  refine ⟨⟨?_, ?_, ?_, ?_, ?_⟩, answered, ?_⟩
  · rw [answered, operations, accepted, nextSync, ← drop_drop, map_drop, ← flight.queued]
    have parts := takeWhile_append_dropWhile (p := (· != PostgresFrontendOperation.sync))
      (l := o.operations)
    calc o.operations.dropWhile (· != .sync)
        = (o.operations.takeWhile (· != .sync) ++ o.operations.dropWhile (· != .sync)).drop
            (o.operations.takeWhile (· != .sync)).length := drop_left.symm
      _ = o.operations.drop (o.operations.takeWhile (· != .sync)).length := by rw [parts]
  · rw [accepted]
    exact flight.matched
  · rw [answered]
    intro behind
    exact ⟨skips (by omega), fun k message above below =>
      flight.before_sync (by have := (List.getElem?_eq_some_iff.mp present).1; omega) below⟩
  · rw [answered]
    intro message listed skipped
    have sync := flight.at_sync listed
    rcases skipped with ⟨next, found, gone⟩ | ⟨-, -, other⟩
    · have other := coherent.discarded_ordinary found gone
      rw [coherent.message_at found] at listed
      cases listed
      simp [sync] at other
    · simp [sync] at other
  · rw [answered]
    exact ahead
  · intro i above below
    have head := (List.getElem?_eq_some_iff.mp present).1
    by_cases done : i < b.handled.length
    · obtain ⟨next, found⟩ : ∃ next, b.handled[i]? = some next :=
        ⟨_, getElem?_eq_getElem done⟩
      refine .inl ⟨_, Backend.fates_get found, ?_⟩
      rcases Nat.eq_or_lt_of_le above with same | later
      · rw [← same, present] at found
        rw [← some.inj found]
        exact failed
      · simp [discarded i _ later below found]
    · refine .inr ⟨by simpa using done, by omega, skips (by omega), ?_⟩
      intro k message past under listed
      rw [Backend.fates_length] at past
      exact flight.before_sync (by omega) (by omega) listed

/-- What a server message does to the queue and the names. -/
inductive Progress (b : Backend) (messages : List FrontendMessage) (o o' : PostgresObserver) :
    Prop where
  | same (kept : ProtocolKept o o') : Progress b messages o o'
  | completed {operation : PostgresFrontendOperation} {rest : List PostgresFrontendOperation}
      {handled : Handled} (queue : o.operations = operation :: rest)
      (present : b.handled[o.answered]? = some handled) (carried : handled.fate = .carriedOut)
      (operations : o'.operations = rest)
      (statements : o'.preparedStatements =
        (applyPostgresStateOperation (o.preparedStatements, o.portals) operation).1)
      (portals : o'.portals =
          (applyPostgresStateOperation (o.preparedStatements, o.portals) operation).2 ∨
        o'.portals = ∅) : Progress b messages o o'
  | rejected (operations : o'.operations = o.operations.dropWhile (· != .sync))
      (statements : o'.preparedStatements = o.preparedStatements) (portals : o'.portals = o.portals)
      (answered : o'.answered = o.nextSync)
      (dead : ∀ i, o.answered ≤ i → i < o.nextSync → b.DeadAt messages i) :
      Progress b messages o o'

/-- An error on a failed operation. -/
private theorem InFlight.observe_error (failed : handled.fate ≠ .carriedOut)
    (extended : handled.message.isExtended)
    (unfailed : (observePostgresServerMessage sink o errorType payload).fatal = none)
    (ahead : ∃ consumed, b.telling o.nextSync = consumed ++ significant frames' ∧
      (consumed = [] ∨ ∃ next, b.handled[o.nextSync]? = some next ∧
        consumed <+: (significant next.answer).dropLast)) :
    InFlight b messages (observePostgresServerMessage sink o errorType payload) frames' ∧
      Progress b messages o (observePostgresServerMessage sink o errorType payload) := by
  obtain ⟨-, kept⟩ := observePostgresServerMessage_protocol unfailed
  obtain ⟨_, _, queue, same⟩ := flight.head (coherent.message_at present)
  rw [response_error payload queue same extended] at kept
  obtain ⟨next, answered, dead⟩ := flight.after_error coherent present failed kept.operations
    (observePostgresServerMessage_unfailed unfailed).accepted ahead
  exact ⟨next, .rejected kept.operations kept.preparedStatements kept.portals answered dead⟩

/-- A completing response to the operation at the head of the queue. -/
private theorem InFlight.observe_completing (carried : handled.fate = .carriedOut)
    (completes : handled.message.completedBy messageType)
    (unfailed : (observePostgresServerMessage sink o messageType payload).fatal = none)
    (ahead : b.telling (o.answered + 1) = significant frames') :
    InFlight b messages (observePostgresServerMessage sink o messageType payload) frames' ∧
      Progress b messages o (observePostgresServerMessage sink o messageType payload) := by
  obtain ⟨-, kept⟩ := observePostgresServerMessage_protocol unfailed
  obtain ⟨_, _, queue, same⟩ := flight.head (coherent.message_at present)
  obtain ⟨portals, response, cleared⟩ := response_completing payload queue same completes
  have accepted := (observePostgresServerMessage_unfailed unfailed).accepted
  rw [response] at kept
  have order := flight.answered_le
  have answered : (observePostgresServerMessage sink o messageType payload).answered =
      o.answered + 1 := by
    rw [queue, length_cons] at order
    rw [answered, kept.operations, accepted]
    dsimp only
    omega
  obtain ⟨last, following⟩ := coherent.after_success present carried
  have done := (List.getElem?_eq_some_iff.mp present).1
  refine ⟨⟨?_, ?_, ?_, ?_, ?_⟩, .completed queue present carried kept.operations
    kept.preparedStatements ?_⟩
  · rw [answered, kept.operations, accepted, ← drop_drop, map_drop, ← flight.queued, queue]
    rfl
  · rw [accepted]
    exact flight.matched
  · omega
  · rw [answered]
    intro message listed skipped
    rcases skipped with ⟨next, found, gone⟩ | ⟨behind, skips, -⟩
    · exact (following next found gone).elim
    · simp [last (by omega)] at skips
  · rw [answered]
    exact ⟨[], ahead, .inl rfl⟩
  · rw [kept.portals]
    exact cleared

/-- Up to the next Sync the answers behind a failed operation tell nothing. -/
private theorem InFlight.telling_nextSync (failed : handled.fate ≠ .carriedOut)
    (ordinary : handled.message.isSync = false) :
    b.telling (o.answered + 1) = b.telling o.nextSync := by
  obtain ⟨discarded, -⟩ := coherent.after_failure present failed fun k message above below =>
    flight.before_sync (by omega) below
  refine Backend.telling_skip ?_ fun k next above below found => ?_
  · by_contra late
    have same : o.answered = o.nextSync := by
      have : o.answered ≤ o.nextSync := Nat.le_add_right _ _
      omega
    simp [flight.at_sync (same ▸ coherent.message_at present)] at ordinary
  · have gone := discarded k next (by omega) below found
    have answers := coherent.answer_at found
    rw [gone] at answers
    exact answers.significant_discarded

/-- Something before the completing response to a message that is carried out. -/
private theorem InFlight.observe_accompanying
    (accompanies : handled.message.accompaniedBy messageType)
    (telling : isNeutral messageType = false)
    (unfailed : (observePostgresServerMessage sink o messageType payload).fatal = none) :
    ProtocolKept o (observePostgresServerMessage sink o messageType payload) := by
  obtain ⟨undecided, kept⟩ := observePostgresServerMessage_protocol unfailed
  obtain ⟨operation, _, queue, same⟩ := flight.head (coherent.message_at present)
  cases message : handled.message <;>
    simp only [message, FrontendMessage.accompaniedBy, telling, Bool.false_or, Bool.false_eq_true,
      beq_iff_eq] at accompanies
  case query sql =>
    rw [message] at same
    cases operation <;> try cases same
    rw [response_query payload queue (by simpa [FrontendMessage.accompaniedBy, telling] using
      accompanies)] at kept
    exact kept
  case sync =>
    rw [message] at same
    cases operation <;> try cases same
    subst accompanies
    exact (response_error_sync payload queue undecided).elim

end

/-- What answers the next Sync. -/
private theorem InFlight.answer_nextSync (coherent : b.Coherent messages)
    (flight : InFlight b messages o frames) (some_left : b.telling o.nextSync ≠ []) :
    ∃ next, b.handled[o.nextSync]? = some next ∧ ∃ before last,
      significant next.answer = before ++ [last] ∧
      (∀ frame ∈ before, FrontendMessage.sync.accompaniedBy (frameType frame) ∧
        isNeutral (frameType frame) = false) ∧
      FrontendMessage.sync.completedBy (frameType last) := by
  cases found : b.handled[o.nextSync]? with
  | none =>
    exact absurd (Backend.telling_of_none (getElem?_eq_none_iff.mp found)) some_left
  | some next =>
    have listed := coherent.message_at found
    have sync := flight.at_sync listed
    have answers := coherent.answer_at found
    cases message : next.message <;> rw [message] at sync <;> try cases sync
    cases fate : next.fate with
    | carriedOut =>
      rw [fate, message] at answers
      exact ⟨next, rfl, answers.significant_carriedOut⟩
    | rejected =>
      have extended := coherent.extended next (mem_of_getElem? found) fate
      rw [message] at extended
      cases extended
    | discarded =>
      have ordinary := coherent.discarded_ordinary found fate
      rw [message] at ordinary
      cases ordinary

/-- A ReadyForQuery while an operation of the extended protocol is at the head of the queue is a
failure. -/
private theorem InFlight.no_ready (coherent : b.Coherent messages)
    (flight : InFlight b messages o frames) (present : b.handled[o.answered]? = some handled)
    (extended : handled.message.isExtended)
    (ready : FrontendMessage.sync.completedBy messageType)
    (unfailed : (observePostgresServerMessage sink o messageType payload).fatal = none) :
    False := by
  obtain rfl : messageType = readyForQueryType := by
    simpa [FrontendMessage.completedBy] using ready
  obtain ⟨undecided, -⟩ := observePostgresServerMessage_protocol unfailed
  obtain ⟨_, _, queue, same⟩ := flight.head (coherent.message_at present)
  exact response_ready payload queue same extended undecided

/-- Observing the next frame ahead keeps the queue and the answers in step, unless the observer
fails on it. -/
theorem InFlight.observe (coherent : b.Coherent messages)
    (flight : InFlight b messages o (frame :: frames))
    (unfailed : (observePostgresServerMessage sink o (frameType frame) payload).fatal = none) :
    InFlight b messages (observePostgresServerMessage sink o (frameType frame) payload) frames ∧
      Progress b messages o (observePostgresServerMessage sink o (frameType frame) payload) := by
  have accepted := (observePostgresServerMessage_unfailed unfailed).accepted
  cases neutral : isNeutral (frameType frame) with
  | true =>
    obtain ⟨-, kept⟩ := observePostgresServerMessage_protocol unfailed
    rw [response_neutral payload neutral] at kept
    exact ⟨flight.of_same kept.operations accepted (significant_cons_neutral neutral _).symm,
      .same kept⟩
  | false =>
    obtain ⟨consumed, telling, part⟩ := flight.ahead
    rw [significant_cons neutral] at telling
    obtain ⟨handled, present⟩ : ∃ handled, b.handled[o.answered]? = some handled := by
      cases found : b.handled[o.answered]? with
      | some handled => exact ⟨handled, rfl⟩
      | none =>
        rw [Backend.telling_of_none (getElem?_eq_none_iff.mp found)] at telling
        simp at telling
    have within : consumed <+: (significant handled.answer).dropLast := by
      rcases part with rfl | ⟨other, found, part⟩
      · exact nil_prefix
      · rw [present] at found
        rwa [← some.inj found] at part
    rw [Backend.telling_of_get present] at telling
    have answers := coherent.answer_at present
    cases fate : handled.fate with
    | carriedOut =>
      rw [fate] at answers
      obtain ⟨before, last, shape, accompanies, completes⟩ := answers.significant_carriedOut
      rw [shape, dropLast_concat] at within
      obtain ⟨more, rfl⟩ := within
      rw [shape, append_assoc, append_assoc, append_cancel_left_eq] at telling
      cases more with
      | nil =>
        obtain ⟨rfl, behind⟩ := cons.inj telling
        exact flight.observe_completing coherent present fate completes unfailed behind
      | cons first more =>
        obtain ⟨rfl, behind⟩ := cons.inj telling
        obtain ⟨accompanied, -⟩ := accompanies first (by simp)
        have kept := flight.observe_accompanying coherent present accompanied neutral unfailed
        refine ⟨flight.advance kept.operations accepted ⟨consumed ++ [first], ?_, .inr
          ⟨handled, present, ?_⟩⟩, .same kept⟩
        · rw [Backend.telling_of_get present, shape, ← behind]
          simp
        · rw [shape, dropLast_concat]
          exact ⟨more, by simp⟩
    | rejected =>
      rw [fate] at answers
      obtain ⟨last, shape, fails⟩ := answers.significant_rejected
      have failed : handled.fate ≠ .carriedOut := by simp [fate]
      have extended := coherent.extended handled (mem_of_getElem? present) fate
      obtain rfl : consumed = [] := by simpa [shape] using within
      rw [shape] at telling
      obtain ⟨rfl, behind⟩ := cons.inj telling
      rw [fails] at unfailed ⊢
      refine flight.observe_error coherent present failed extended unfailed ⟨[], ?_, .inl rfl⟩
      rw [← flight.telling_nextSync coherent present failed (Backend.ordinary_of_extended extended)]
      exact behind
    | discarded =>
      have failed : handled.fate ≠ .carriedOut := by simp [fate]
      have extended := flight.safe _ (coherent.message_at present) (.inl ⟨handled, present, fate⟩)
      rw [fate] at answers
      have shape := answers.significant_discarded
      obtain rfl : consumed = [] := by simpa [shape] using within
      rw [shape, flight.telling_nextSync coherent present failed
        (Backend.ordinary_of_extended extended)] at telling
      have whole : b.telling o.nextSync = frame :: significant frames := telling
      obtain ⟨next, found, before, last, answer, accompanies, completes⟩ :=
        flight.answer_nextSync coherent (whole ▸ cons_ne_nil _ _)
      rw [Backend.telling_of_get found, answer] at telling
      cases before with
      | nil =>
        obtain ⟨rfl, -⟩ := cons.inj telling
        exact (flight.no_ready coherent present extended completes unfailed).elim
      | cons first more =>
        obtain ⟨rfl, -⟩ := cons.inj telling
        obtain ⟨accompanied, -⟩ := accompanies first (by simp)
        have fails : frameType first = errorType := by
          simpa [FrontendMessage.accompaniedBy, neutral] using accompanied
        rw [fails] at unfailed ⊢
        refine flight.observe_error coherent present failed extended unfailed
          ⟨[first], whole, .inr ⟨next, found, ?_⟩⟩
        rw [answer, dropLast_concat]
        exact ⟨more, rfl⟩

/-- Accepting one more message.  A Query must not find the queue empty while the backend is
skipping. -/
theorem InFlight.accept (coherent : b.Coherent messages) (flight : InFlight b messages o frames)
    {entry : AcceptedOperation} (same : Matches message entry.operation)
    (accepted : o'.accepted = o.accepted ++ [entry])
    (operations : o'.operations = o.operations ++ [entry.operation])
    (permitted : o.operations = [] → b.skipping → entry.operation ≠ .query) :
    InFlight b (messages ++ [message]) o' frames := by
  have order := flight.answered_le
  have lengths := flight.matched.length_eq
  have answered : o'.answered = o.answered := by
    simp only [answered, accepted, operations, length_append, length_singleton]
    omega
  refine ⟨?_, ?_, ?_, ?_, ?_⟩
  · rw [answered, operations, accepted, drop_append_of_le_length (by omega), map_append,
      ← flight.queued, map_singleton]
  · rw [accepted]
    exact rel_append flight.matched (.cons same .nil)
  · rw [answered]
    intro behind
    obtain ⟨skips, ordinary⟩ := flight.waiting behind
    refine ⟨skips, fun k next above below listed => ordinary k next above below ?_⟩
    rwa [getElem?_append_left (by omega)] at listed
  · rw [answered]
    intro next listed skipped
    by_cases queued : o.answered < messages.length
    · rw [getElem?_append_left queued] at listed
      exact flight.safe next listed skipped
    have last : o.answered = messages.length := by omega
    rw [last, getElem?_concat_length] at listed
    cases listed
    have done := coherent.reads.length_le
    rw [length_map] at done
    rcases skipped with ⟨handled, found, -⟩ | ⟨-, skips, ordinary⟩
    · have := (List.getElem?_eq_some_iff.mp found).1
      omega
    · cases message <;> cases operation : entry.operation <;>
        simp_all [Matches, FrontendMessage.isExtended, FrontendMessage.isSync]
  · rw [answered]
    exact flight.ahead

/-- The backend is done with one more message, and its answer is on its way. -/
theorem InFlight.handle (flight : InFlight b messages o frames) {answer : List Bytes}
    (next : messages[b.handled.length]? = some message)
    (handles : b.Handles message answer b') : InFlight b' messages o (frames ++ answer) := by
  obtain ⟨fate, logged, answers, step, -⟩ := handles.entry
  have behind : b.handled.length < o.answered → fate = .discarded ∧ b'.skipping := by
    intro behind
    obtain ⟨skips, ordinary⟩ := flight.waiting behind
    rw [skips] at step
    have discarded := step.skips (ordinary _ _ (Nat.le_refl _) behind next)
    exact ⟨discarded, step.failed.mpr (by rw [discarded]; decide)⟩
  refine ⟨flight.queued, flight.matched, ?_, ?_, ?_⟩
  · intro still
    rw [logged, length_append] at still
    refine ⟨(behind (by omega)).2, fun k waiting above below => ?_⟩
    rw [logged, length_append] at above
    exact (flight.waiting (by omega)).2 k waiting (by omega) below
  · intro head listed skipped
    apply flight.safe head listed
    rcases skipped with ⟨handled, found, discarded⟩ | ⟨above, skips, ordinary⟩
    · rw [logged] at found
      by_cases old : o.answered < b.handled.length
      · rw [getElem?_append_left old] at found
        exact .inl ⟨handled, found, discarded⟩
      have bound := (List.getElem?_eq_some_iff.mp found).1
      rw [length_append, length_singleton] at bound
      have last : o.answered = b.handled.length := by omega
      rw [last, getElem?_concat_length] at found
      cases found
      rw [last, next] at listed
      cases listed
      obtain rfl : fate = .discarded := discarded
      exact .inr ⟨by omega, step.discarded⟩
    · rw [logged, length_append, length_singleton] at above
      exact .inr ⟨by omega, (flight.waiting (by omega)).1, ordinary⟩
  · obtain ⟨consumed, telling, part⟩ := flight.ahead
    by_cases within : o.answered ≤ b.handled.length
    · refine ⟨consumed, ?_, part.imp_right fun ⟨handled, found, shorter⟩ => ⟨handled, ?_, shorter⟩⟩
      · rw [significant_append, ← append_assoc, ← telling, Backend.telling, logged,
          drop_append_of_le_length within]
        simp [Backend.telling]
      · rw [logged, List.getElem?_append_left (List.getElem?_eq_some_iff.mp found).1]
        exact found
    · rw [(behind (by omega)).1] at answers
      rw [Backend.telling_of_none (by omega)] at telling
      obtain ⟨rfl, none_ahead⟩ := append_eq_nil_iff.mp telling.symm
      refine ⟨[], ?_, .inl rfl⟩
      rw [Backend.telling_of_none (by simp [logged]; omega), significant_append, none_ahead,
        answers.significant_discarded]
      rfl

/-- A frame that answers nothing is on its way. -/
theorem InFlight.notice (flight : InFlight b messages o frames)
    (neutral : isNeutral (frameType frame)) : InFlight b messages o (frames ++ [frame]) :=
  flight.of_same rfl rfl (by
    rw [significant_append, significant_cons_neutral neutral, significant_nil, append_nil])

/-- Lost names change nothing about the answers. -/
theorem InFlight.forget (flight : InFlight b messages o frames)
    (forgets : b.Forgets b') : InFlight b' messages o frames := by
  obtain ⟨handled, skipping, -, -, -⟩ := forgets
  refine ⟨flight.queued, flight.matched, ?_, ?_, ?_⟩
  · rw [handled, skipping]
    exact flight.waiting
  · unfold Skipped
    rw [handled, skipping]
    exact flight.safe
  · unfold Backend.telling
    rw [handled]
    exact flight.ahead

end Position
end PostgresObserver
end Jianmen.DBProxy
